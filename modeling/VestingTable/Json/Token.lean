import VestingTable.Json.Basic

/-!
# Tokens of JSON

A text is split into tokens character by character (`Lexer.step`). Between two
tokens there may be spaces, tabs and line ends. What is neither a mark nor a
string is a *bare* token: a name or a number, and goes on as far as its
characters allow.

Beside the names of JSON there are `NaN`, `Infinity` and `-Infinity`. Numerals have no
leading zeros, and no more than `Numeral.maxDigits` digits ahead of a fraction or an
exponent; a minus sign is none of the digits, so that it may stand ahead of as many.
In strings a character of the higher planes may be escaped as two halves; half of one
is not a character.
-/

namespace VestingTable.Json

/-- A blank character between tokens. -/
def isSpace (c : Char) : Bool :=
  c = ' ' || c = '\t' || c = '\n' || c = '\r'

/-- A character of names and numbers. -/
def isBare (c : Char) : Bool :=
  c.isAlphanum || c = '+' || c = '-' || c = '.'

/-! ## Numbers and names -/

/-- The ASCII digits at the start of a text, and the rest. -/
def spanDigits (cs : List Char) : List Char × List Char :=
  (cs.takeWhile Char.isDigit, cs.dropWhile Char.isDigit)

/-- A text that is an exponent, or empty. -/
def isExponentEnd : List Char → Bool
  | [] => true
  | c :: cs =>
    (c = 'e' || c = 'E') &&
      let (ds, rest) := spanDigits (Decimal.spanSign cs).2
      !ds.isEmpty && rest.isEmpty

/-- A text that is a fraction, an exponent or both, or empty. -/
def isNumberEnd : List Char → Bool
  | '.' :: cs => let (ds, rest) := spanDigits cs; !ds.isEmpty && isExponentEnd rest
  | cs => isExponentEnd cs

/-- Digits without a leading zero. -/
def isPlain : List Char → Bool
  | [] => false
  | ['0'] => true
  | d :: ds => d ≠ '0' && (d :: ds).all Char.isDigit

/-- Digits that may be the numeral of an integer, or the part of a number ahead of its end. -/
def isWhole (ds : List Char) : Bool :=
  isPlain ds && decide (ds.length ≤ Numeral.maxDigits)

/-- The integer of a numeral and its sign. -/
def integer? (negative : Bool) (ds : List Char) : Option Int :=
  if isWhole ds then
    (Numeral.digitValues? ds).map fun values =>
      if negative then -Int.ofNat (Numeral.value values) else Int.ofNat (Numeral.value values)
  else none

/-- The number of digits ahead of an end, which is empty for an integer. -/
def numberToken? (negative : Bool) (whole ending : List Char) : Option Token :=
  if ending.isEmpty then (integer? negative whole).map .integer
  else if isWhole whole && isNumberEnd ending then
    (Decimal.scan? (Decimal.signText negative ++ whole ++ ending)).map fun d => .float d.toBinary64
  else none

/-- The token of a name or a number. -/
def bareToken? (cs : List Char) : Option Token :=
  if cs = ['n', 'u', 'l', 'l'] then some .null
  else if cs = ['t', 'r', 'u', 'e'] then some (.bool true)
  else if cs = ['f', 'a', 'l', 's', 'e'] then some (.bool false)
  else if cs = ['N', 'a', 'N'] then some (.float .nan)
  else if cs = ['I', 'n', 'f', 'i', 'n', 'i', 't', 'y'] then some (.float (.infinite false))
  else match cs with
    | '-' :: cs =>
      if cs = ['I', 'n', 'f', 'i', 'n', 'i', 't', 'y'] then some (.float (.infinite true))
      else numberToken? true (spanDigits cs).1 (spanDigits cs).2
    | cs => numberToken? false (spanDigits cs).1 (spanDigits cs).2

/-- The token of a mark. -/
def markToken? (c : Char) : Option Token :=
  match c with
  | '\x7b' => some .openBrace
  | '\x7d' => some .closeBrace
  | '[' => some .openBracket
  | ']' => some .closeBracket
  | ':' => some .colon
  | ',' => some .comma
  | _ => none

/-! ## Strings -/

/-- The value of a digit to the base 16. -/
def hexDigit? (c : Char) : Option Nat :=
  if c.isDigit then some (c.toNat - 0x30)
  else if 'a' ≤ c ∧ c ≤ 'f' then some (c.toNat - 0x61 + 10)
  else if 'A' ≤ c ∧ c ≤ 'F' then some (c.toNat - 0x41 + 10)
  else none

/-- The character that a letter behind a backslash stands for. -/
def unescape? (c : Char) : Option Char :=
  match c with
  | '\x22' => some '\x22'
  | '\\' => some '\\'
  | '/' => some '/'
  | 'b' => some '\x08'
  | 'f' => some '\x0c'
  | 'n' => some '\n'
  | 'r' => some '\r'
  | 't' => some '\t'
  | _ => none

/-- The first half of a character of the higher planes. -/
def IsHighHalf (n : Nat) : Prop :=
  0xD800 ≤ n ∧ n < 0xDC00

instance (n : Nat) : Decidable (IsHighHalf n) :=
  inferInstanceAs (Decidable (_ ∧ _))

/-- The second half of a character of the higher planes. -/
def IsLowHalf (n : Nat) : Prop :=
  0xDC00 ≤ n ∧ n < 0xE000

instance (n : Nat) : Decidable (IsLowHalf n) :=
  inferInstanceAs (Decidable (_ ∧ _))

/-! ## The lexer -/

/-- Where the lexer is. The characters of the current token come last first. -/
inductive Mode
  | between
  | bare (read : List Char)
  | string (read : List Char)
  /-- Behind a backslash in a string. -/
  | escape (read : List Char)
  /-- Among the four digits of an escape, perhaps behind the first half of a character. -/
  | hex (read : List Char) (high : Option Nat) (count value : Nat)
  /-- Behind the first half of a character, where a backslash must follow. -/
  | half (read : List Char) (high : Nat)
  /-- Behind that backslash, where the letter `u` must follow. -/
  | halfEscape (read : List Char) (high : Nat)

/-- The tokens so far, the last first, and where the lexer is. -/
structure Lexer where
  tokens : List Token := []
  mode : Mode := .between

namespace Lexer

/-- The string goes on. -/
def inString (l : Lexer) (read : List Char) : Lexer :=
  { l with mode := .string read }

/-- The lexer behind one more token. -/
def push (l : Lexer) (t : Token) : Lexer :=
  { tokens := t :: l.tokens, mode := .between }

/-- A character between tokens. -/
def start? (l : Lexer) (c : Char) : Option Lexer :=
  if isSpace c then some { l with mode := .between }
  else if c = '\x22' then some (l.inString [])
  else if isBare c then some { l with mode := .bare [c] }
  else (markToken? c).map l.push

/-- The end of an escape by four digits. -/
def unit? (l : Lexer) (read : List Char) (high : Option Nat) (value : Nat) : Option Lexer :=
  match high with
  | none =>
    if IsHighHalf value then some { l with mode := .half read value }
    else if IsLowHalf value then none
    else some (l.inString (Char.ofNat value :: read))
  | some high =>
    if IsLowHalf value then
      some (l.inString (Char.ofNat (0x10000 + (high - 0xD800) * 0x400 + (value - 0xDC00)) :: read))
    else none

/-- One more character. -/
def step (l : Lexer) (c : Char) : Option Lexer :=
  match l.mode with
  | .between => l.start? c
  | .bare read =>
    if isBare c then some { l with mode := .bare (c :: read) }
    else (bareToken? read.reverse).bind fun t => (l.push t).start? c
  | .string read =>
    if c = '\x22' then some (l.push (.string (String.ofList read.reverse)))
    else if c = '\\' then some { l with mode := .escape read }
    else if c.toNat < 0x20 then none
    else some (l.inString (c :: read))
  | .escape read =>
    if c = 'u' then some { l with mode := .hex read none 0 0 }
    else (unescape? c).map fun d => l.inString (d :: read)
  | .hex read high count value =>
    (hexDigit? c).bind fun d =>
      if count < 3 then some { l with mode := .hex read high (count + 1) (16 * value + d) }
      else l.unit? read high (16 * value + d)
  | .half read high => if c = '\\' then some { l with mode := .halfEscape read high } else none
  | .halfEscape read high =>
    if c = 'u' then some { l with mode := .hex read (some high) 0 0 } else none

/-- The tokens at the end of a text. -/
def finish? (l : Lexer) : Option (List Token) :=
  match l.mode with
  | .between => some l.tokens.reverse
  | .bare read => (bareToken? read.reverse).map fun t => (t :: l.tokens).reverse
  | _ => none

end Lexer

/-- The tokens of a text. -/
def scan? (cs : List Char) : Option (List Token) :=
  (cs.foldlM Lexer.step {}).bind Lexer.finish?

end VestingTable.Json
