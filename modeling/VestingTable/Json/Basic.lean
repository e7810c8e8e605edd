import VestingTable.Binary64.Shortest

/-!
# JSON

Values in the form of JSON, their tokens and their texts. An object keeps its
fields in order, and the same name may occur twice. Numbers without a fraction
and an exponent are integers of any size; the others are binary64 numbers.

`Json.render` writes a value: on one line, or with one field or item a line, each
level indented by a number of spaces. Only the quotation mark, the backslash and
the control characters of ASCII are escaped in strings.
-/

namespace VestingTable

/-- A value in the form of JSON. -/
inductive Json
  | null
  | bool (b : Bool)
  | integer (n : Int)
  | float (x : Binary64)
  | string (s : String)
  | array (items : List Json)
  | object (fields : List (String × Json))

namespace Json

/-- A token of the text of a value. -/
inductive Token
  | openBrace
  | closeBrace
  | openBracket
  | closeBracket
  | colon
  | comma
  | null
  | bool (b : Bool)
  | integer (n : Int)
  | float (x : Binary64)
  | string (s : String)
deriving DecidableEq

/-! ## Tokens of a value -/

mutual

/-- The tokens of a value. -/
def tokens : Json → List Token
  | null => [.null]
  | bool b => [.bool b]
  | integer n => [.integer n]
  | float x => [.float x]
  | string s => [.string s]
  | array [] => [.openBracket, .closeBracket]
  | array (v :: vs) => .openBracket :: tokens v ++ itemTokens vs ++ [.closeBracket]
  | object [] => [.openBrace, .closeBrace]
  | object ((k, v) :: fs) =>
    .openBrace :: .string k :: .colon :: tokens v ++ fieldTokens fs ++ [.closeBrace]

/-- The tokens of the items that follow another. -/
def itemTokens : List Json → List Token
  | [] => []
  | v :: vs => .comma :: tokens v ++ itemTokens vs

/-- The tokens of the fields that follow another. -/
def fieldTokens : List (String × Json) → List Token
  | [] => []
  | (k, v) :: fs => .comma :: .string k :: .colon :: tokens v ++ fieldTokens fs

end

/-! ## Text -/

/-- A character of a string as it is written. -/
def escape (c : Char) : List Char :=
  if c = '\x22' then ['\\', '\x22']
  else if c = '\\' then ['\\', '\\']
  else if c = '\x08' then ['\\', 'b']
  else if c = '\t' then ['\\', 't']
  else if c = '\n' then ['\\', 'n']
  else if c = '\x0c' then ['\\', 'f']
  else if c = '\r' then ['\\', 'r']
  else if c.toNat < 0x20 then '\\' :: 'u' :: (Nat.toDigits 16 c.toNat).leftpad 4 '0'
  else [c]

/-- A string as it is written. -/
def renderString (s : String) : List Char :=
  '\x22' :: s.toList.flatMap escape ++ ['\x22']

/-- The truth values as they are written. -/
def boolText (b : Bool) : List Char :=
  if b then ['t', 'r', 'u', 'e'] else ['f', 'a', 'l', 's', 'e']

/-- A number with a fraction as it is written; infinities and NaNs have names. -/
def floatText : Binary64 → List Char
  | .nan => ['N', 'a', 'N']
  | .infinite negative =>
    Decimal.signText negative ++ ['I', 'n', 'f', 'i', 'n', 'i', 't', 'y']
  | x => x.text.toList

/-- The line end and the spaces ahead of a part, if there is one part a line. -/
def lineBreak (indent : Option Nat) (depth : Nat) : List Char :=
  match indent with
  | none => []
  | some width => '\n' :: List.replicate (width * depth) ' '

/-- The sign between the name and the value of a field. -/
def colonText (indent : Option Nat) : List Char :=
  if indent.isSome then [':', ' '] else [':']

mutual

/-- The text of a value that is so many levels deep. -/
def renderAt (indent : Option Nat) (depth : Nat) : Json → List Char
  | null => ['n', 'u', 'l', 'l']
  | bool b => boolText b
  | integer n => Numeral.signedDigits n
  | float x => floatText x
  | string s => renderString s
  | array [] => ['[', ']']
  | array (v :: vs) =>
    '[' :: lineBreak indent (depth + 1) ++ renderAt indent (depth + 1) v ++
      renderItems indent (depth + 1) vs ++ lineBreak indent depth ++ [']']
  | object [] => ['\x7b', '\x7d']
  | object ((k, v) :: fs) =>
    '\x7b' :: lineBreak indent (depth + 1) ++ renderString k ++ colonText indent ++
      renderAt indent (depth + 1) v ++ renderFields indent (depth + 1) fs ++
      lineBreak indent depth ++ ['\x7d']

/-- The text of the items that follow another. -/
def renderItems (indent : Option Nat) (depth : Nat) : List Json → List Char
  | [] => []
  | v :: vs => ',' :: lineBreak indent depth ++ renderAt indent depth v ++ renderItems indent depth vs

/-- The text of the fields that follow another. -/
def renderFields (indent : Option Nat) (depth : Nat) : List (String × Json) → List Char
  | [] => []
  | (k, v) :: fs =>
    ',' :: lineBreak indent depth ++ renderString k ++ colonText indent ++
      renderAt indent depth v ++ renderFields indent depth fs

end

/-- The text of a value, on one line or with an indentation of so many spaces a level. -/
def render (indent : Option Nat) (v : Json) : String :=
  String.ofList (renderAt indent 0 v)

end Json

end VestingTable
