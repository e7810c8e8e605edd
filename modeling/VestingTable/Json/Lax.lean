import VestingTable.Json.Nesting
import VestingTable.Validation

/-!
# Lax values

Values of JSON that stand for integers, truth values and texts. Whoever writes
them by hand may give an integer as a text or as a number with a fraction of
zero, and a truth value as one of a few words; nothing is rounded.

An integer in a text may have a sign, zeros ahead of it, a fraction of zeros and
single underscores as marks between its digits, while there may be any number of
marks among the zeros ahead of it. A text that starts as a numeral that is too
long is told apart from one that is no integer.
-/

namespace VestingTable.Json

/-- The blanks around a lax value: those of texts but for the separators of ASCII. -/
def isOuterBlank (c : Char) : Bool :=
  Text.isBlank c && !(0x1C ≤ c.toNat && c.toNat ≤ 0x1F)

/-- The text without the blanks around it. -/
def trimOuter (cs : List Char) : List Char :=
  Text.dropEnd isOuterBlank (cs.dropWhile isOuterBlank)

/-- What follows the padding of a number: the zeros ahead of it and the marks among them, `last`
    being the last of these so far. If nothing of the number is left but its fraction, or nothing at
    all, the last character of the padding belongs to it. -/
def afterPadding? (last : Char) : List Char → Option (List Char)
  | [] => some [last]
  | c :: cs =>
    if c = '0' || c = '_' then afterPadding? c cs
    else if c = '.' then some (last :: c :: cs)
    else if c = '-' || c.isDigit then some (c :: cs)
    else none

/-- A number without its padding. It starts with a digit. -/
def unpadded? : List Char → Option (List Char)
  | [] => none
  | c :: cs => if c = '0' then afterPadding? c cs else if c.isDigit then some (c :: cs) else none

/-- A number without its fraction, which has nothing but zeros. -/
def whole? (cs : List Char) : Option (List Char) :=
  match cs.span (· ≠ '.') with
  | (whole, []) => some whole
  | (whole, _ :: zeros) => if !zeros.isEmpty && zeros.all (· = '0') then some whole else none

/-- Two marks in a row. -/
def hasDoubleMark : List Char → Bool
  | c :: d :: cs => (c = '_' && d = '_') || hasDoubleMark (d :: cs)
  | _ => false

/-- A number without the marks in it, which stand alone and between other characters. -/
def ungrouped? (cs : List Char) : Option (List Char) :=
  if cs.head? = some '_' || cs.getLast? = some '_' || hasDoubleMark cs then none
  else some (cs.filter (· ≠ '_'))

/-- The integer of a number without padding, fraction and marks. Its sign may have been behind the
    padding, if there is none ahead of it. -/
def signed? (negative : Bool) : List Char → Option Int
  | '-' :: cs => if negative then none else integer? true cs
  | cs => integer? negative cs

/-- The integer that a text stands for, if it is not too long. -/
def looseInteger? (s : String) : Option Int := do
  let (negative, cs) := Decimal.spanSign (trimOuter s.toList)
  signed? negative (← ungrouped? (← whole? (← unpadded? cs)))

/-- The text starts as the numeral of an integer that is too long. -/
def startsTooLong (s : String) : Bool :=
  let digits := match s.toList with
    | '-' :: cs => (spanDigits cs).1
    | cs => (spanDigits cs).1
  isPlain digits && decide (Numeral.maxDigits < digits.length)

/-- The integer that a text stands for. -/
def textInteger (s : String) : Validated Int :=
  if startsTooLong s then .fail .oversizedInteger
  else match looseInteger? s with
    | some n => .valid n
    | none => .fail .unreadableInteger

/-- The integers that a number with a fraction of zero may stand for. -/
def InWord (n : Int) : Prop :=
  n.natAbs < Binary64.twoTo 63

instance (n : Int) : Decidable (InWord n) :=
  inferInstanceAs (Decidable (_ < _))

/-- The integer that a number stands for. -/
def floatInteger (x : Binary64) : Validated Int :=
  match x with
  | .finite .. =>
    match x.toInt? with
    | none => .fail .fractionalInteger
    | some n => if InWord n then .valid n else .fail .oversizedInteger
  | _ => .fail .notFinite

/-- The integer that a value stands for. -/
def toInteger : Json → Validated Int
  | integer n => .valid n
  | float x => floatInteger x
  | bool b => .valid (if b then 1 else 0)
  | string s => textInteger s
  | _ => .fail .notInteger

/-- The text that a value is. -/
def toText : Json → Validated String
  | string s => .valid s
  | _ => .fail .notText

/-- The words for true. -/
def trueWords : List String := ["1", "true", "t", "yes", "y", "on"]

/-- The words for false. -/
def falseWords : List String := ["0", "false", "f", "no", "n", "off"]

/-- The truth value that a text stands for, in any case of its letters. -/
def textBool (s : String) : Validated Bool :=
  let word := String.ofList (s.toList.map ExtendedDecimal.smallAscii)
  if trueWords.contains word then .valid true
  else if falseWords.contains word then .valid false
  else .fail .unreadableBoolean

/-- The truth value that an integer stands for. Another integer cannot be interpreted, and one that
    a word of 64 bits has no room for is not even of the right type. -/
def integerBool (n : Int) : Validated Bool :=
  if n = 0 then .valid false
  else if n = 1 then .valid true
  else if -Int.ofNat (Binary64.twoTo 63) ≤ n ∧ n < Binary64.twoTo 63 then .fail .unreadableBoolean
  else .fail .notBoolean

/-- The truth value that a value stands for. -/
def toBool : Json → Validated Bool
  | bool b => .valid b
  | string s => textBool s
  | integer n => integerBool n
  | float x =>
    match floatInteger x with
    | .valid n => integerBool n
    | .invalid _ => .fail .notBoolean
  | _ => .fail .notBoolean

/-- The fields that a value has. -/
def toFields {α : Type} (decode : List (String × Json) → Validated α) : Json → Validated α
  | object fields => decode fields
  | _ => .fail .notObject

/-- The items that a value has, each under its place. -/
def toItems {α : Type} (decode : Json → Validated α) : Json → Validated (List α)
  | array items => .all (items.mapIdx fun i v => (decode v).under (.index i))
  | _ => .fail .notList

/-! ## Fields -/

variable {α : Type} (fields : List (String × Json)) (name : String) (decode : Json → Validated α)

/-- A field that must be there. -/
def required : Validated α :=
  match field? fields name with
  | none => (Validated.fail .missing).under (.key name)
  | some v => (decode v).under (.key name)

/-- A field that may be missing or null. -/
def optional : Validated (Option α) :=
  match field? fields name with
  | none | some null => .valid none
  | some v => some <$> (decode v).under (.key name)

/-- A field that may be missing, but not null. -/
def withDefault (a : α) : Validated α :=
  match field? fields name with
  | none => .valid a
  | some v => (decode v).under (.key name)

end VestingTable.Json
