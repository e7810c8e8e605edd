import VestingTable.Text.Blank
import VestingTable.Text.Number
import VestingTable.Binary64.Basic

/-!
# Decimal numbers

A percentage is kept as it was written: a decimal number is its sign, its
coefficient and its exponent, so that `60`, `60.0` and `6E+1` stay apart. A
decimal cell may also hold an infinity or a NaN, which are no percentages.

* `ofText?` reads a decimal number, exactly or not at all.
* `text` writes one: plainly if it has no trailing zeros left to supply and no
  more than five zeros follow the point, else with an exponent.
-/

namespace VestingTable

/-- The decimal number `± coefficient * 10 ^ exponent`. -/
structure Decimal where
  negative : Bool
  coefficient : Nat
  exponent : Int
deriving DecidableEq

namespace Decimal

/-- The exponent of the first digit of the coefficient. -/
def adjusted (d : Decimal) : Int :=
  d.exponent + (Numeral.digits d.coefficient).length - 1

/-- The exponents the format has room for: of the first digit from above, of the last from below. -/
def InRange (d : Decimal) : Prop :=
  d.adjusted ≤ 999999999999999999 ∧ -1999999999999999997 ≤ d.exponent

instance (d : Decimal) : Decidable d.InRange :=
  inferInstanceAs (Decidable (_ ∧ _))

/-! ## Reading -/

/-- A sign at the start of a text, and the rest. -/
def spanSign : List Char → Bool × List Char
  | '-' :: cs => (true, cs)
  | '+' :: cs => (false, cs)
  | cs => (false, cs)

/-- The values of the digits at the start of a text, and the rest. -/
def spanDigits : List Char → List Nat × List Char
  | [] => ([], [])
  | c :: cs =>
    match Text.digit? c with
    | some d => let (ds, rest) := spanDigits cs; (d :: ds, rest)
    | none => ([], c :: cs)

/-- A number that ends a text: one digit at least. -/
def wholeEnd? (cs : List Char) : Option Nat :=
  match spanDigits cs with
  | ([], _) => none
  | (ds, []) => some (Numeral.value ds)
  | _ => none

/-- An exponent that ends a text; none is zero. -/
def exponentEnd? : List Char → Option Int
  | [] => some 0
  | c :: cs =>
    if c = 'e' || c = 'E' then
      let (negative, cs) := spanSign cs
      (wholeEnd? cs).map fun n => if negative then -Int.ofNat n else Int.ofNat n
    else none

/-- A fraction at the start of a text, and the rest. -/
def spanFraction : List Char → List Nat × List Char
  | '.' :: cs => spanDigits cs
  | cs => ([], cs)

/-- The number that a text without blanks denotes, of any exponent. -/
def scan? (cs : List Char) : Option Decimal :=
  let (negative, cs) := spanSign cs
  let (whole, cs) := spanDigits cs
  let (fraction, cs) := spanFraction cs
  if whole ++ fraction = [] then none
  else (exponentEnd? cs).map fun e =>
    ⟨negative, Numeral.value (whole ++ fraction), e - fraction.length⟩

/-! ## Writing -/

/-- The exponent as it is written, always with a sign. -/
def exponentText : Int → List Char
  | .ofNat n => '+' :: Numeral.digits n
  | .negSucc n => '-' :: Numeral.digits (n + 1)

/-- The number without its sign. -/
def unsignedText (d : Decimal) : List Char :=
  let ds := Numeral.digits d.coefficient
  if d.exponent ≤ 0 ∧ -6 ≤ d.adjusted then Text.positional ds (d.exponent + ds.length)
  else Text.pointed ds ++ 'E' :: exponentText d.adjusted

/-- A minus sign if there is one. -/
def signText (negative : Bool) : List Char :=
  if negative then ['-'] else []

/-- The number as it is written. -/
def text (d : Decimal) : String :=
  String.ofList (signText d.negative ++ d.unsignedText)

/-! ## Value -/

/-- The most digits of an integer that can be held. -/
def maxHeld : Nat := 1000000000

/-- The number, if it is an integer, has no more digits than can be held. -/
def IsHeld (d : Decimal) : Prop :=
  d.coefficient = 0 ∨ d.adjusted < maxHeld

instance (d : Decimal) : Decidable d.IsHeld :=
  inferInstanceAs (Decidable (_ ∨ _))

/-- The integer that a decimal number is; it is zero for any exponent if the coefficient is. -/
def toInt? (d : Decimal) : Option Int :=
  let whole : Option Nat := if d.coefficient = 0 then some 0 else match d.exponent with
    | .ofNat k => some (d.coefficient * Numeral.tenTo k)
    | .negSucc k =>
      if (Numeral.digits d.coefficient).length ≤ k + 1 then none
      else if d.coefficient % Numeral.tenTo (k + 1) = 0 then
        some (d.coefficient / Numeral.tenTo (k + 1))
      else none
  whole.map fun n => if d.negative then -Int.ofNat n else Int.ofNat n

/-- The binary64 number nearest to a decimal one. Numbers that are out of the range of the format
    by far are told by their first digit. -/
def toBinary64 (d : Decimal) : Binary64 :=
  if d.coefficient = 0 ∨ d.adjusted < -330 then .finite d.negative .zero
  else if 310 < d.adjusted then .infinite d.negative
  else match d.exponent with
    | .ofNat k => .nearest d.negative (d.coefficient * Numeral.tenTo k) 1
    | .negSucc k => .nearest d.negative d.coefficient (Numeral.tenTo (k + 1))

end Decimal

/-- What a decimal cell holds. -/
inductive ExtendedDecimal
  | finite (value : Decimal)
  | infinite (negative : Bool)
  | nan (negative signaling : Bool) (payload : Nat)
deriving DecidableEq

namespace ExtendedDecimal

/-- A letter in lower case, of the ASCII letters. -/
def smallAscii (c : Char) : Char :=
  if 'A' ≤ c ∧ c ≤ 'Z' then Char.ofNat (c.toNat + 32) else c

/-- The digits that a NaN may carry; none are zero. -/
def payload? (cs : List Char) : Option Nat :=
  if cs = [] then some 0 else Decimal.wholeEnd? cs

/-- What follows a word at the start of a text, in any case. -/
def afterWord? (word cs : List Char) : Option (List Char) :=
  if (cs.take word.length).map smallAscii = word then some (cs.drop word.length) else none

/-- An infinity or a NaN. -/
def special? (cs : List Char) : Option ExtendedDecimal :=
  let (negative, cs) := Decimal.spanSign cs
  if cs.map smallAscii = ['i', 'n', 'f'] ∨ cs.map smallAscii = "infinity".toList then
    some (.infinite negative)
  else match afterWord? ['n', 'a', 'n'] cs, afterWord? ['s', 'n', 'a', 'n'] cs with
    | some rest, _ => (payload? rest).map (.nan negative false)
    | none, some rest => (payload? rest).map (.nan negative true)
    | none, none => none

/-- The number that a text denotes. Underscores are passed over, wherever they stand, and so are
    blanks at the two ends. -/
def ofText? (s : String) : Option ExtendedDecimal :=
  let cs := (Text.trim s.toList).filter (· ≠ '_')
  match Decimal.scan? cs with
  | some d => if d.InRange then some (.finite d) else none
  | none => special? cs

/-- The number as it is written. -/
def text : ExtendedDecimal → String
  | .finite d => d.text
  | .infinite negative => String.ofList (Decimal.signText negative ++ "Infinity".toList)
  | .nan negative signaling payload =>
    String.ofList (Decimal.signText negative ++ (if signaling then ['s'] else []) ++ "NaN".toList ++
      if payload = 0 then [] else Numeral.digits payload)

end ExtendedDecimal

namespace Binary64

/-- The number that a text denotes: the one nearest to a decimal number, an infinity or a NaN. -/
def ofText? (s : String) : Option Binary64 :=
  match Decimal.scan? s.toList with
  | some d => some d.toBinary64
  | none => match ExtendedDecimal.special? s.toList with
    | some (.infinite negative) => some (.infinite negative)
    | some (.nan ..) => some .nan
    | _ => none

end Binary64

end VestingTable
