import VestingTable.Decimal

/-!
# Shortest decimal texts of binary64 numbers

A binary64 number is written with the fewest digits that read back as the same
number, and of those the nearest ones. For one digit, two digits and so on, the
two decimal numbers around it are tried, the nearer one first, and from the
middle between them the even one; seventeen digits are always enough.

Numbers from `10 ^ -4` up to `10 ^ 16` are written with a point, which has a
digit on either side, and the others with an exponent of two digits at least.

`rounded` gives a fixed number of digits instead, as spreadsheets store them.
-/

namespace VestingTable.Binary64

namespace Magnitude

/-- The exponent that puts the first digit right behind the point: `10 ^ (point - 1)` is at most
    the magnitude, which is less than `10 ^ point`. -/
def point (m : Magnitude) : Int :=
  (Numeral.digits (Numeral.tenTo 400 * m.steps / stepsInOne)).length - 400

/-- A magnitude in units of a power of ten, as a quotient. -/
def inUnits (m : Magnitude) : Int → Nat × Nat
  | .ofNat k => (m.steps, stepsInOne * Numeral.tenTo k)
  | .negSucc k => (m.steps * Numeral.tenTo (k + 1), stepsInOne)

/-- The multiples of a power of ten around a magnitude, the nearer one first, or the even one. -/
def neighbours (m : Magnitude) (exponent : Int) : List Nat :=
  let (num, den) := m.inUnits exponent
  let below := num / den
  if roundHalfEven num den = below then [below, below + 1] else [below + 1, below]

/-- The decimal number reads back as the magnitude. -/
def ReadsBack (m : Magnitude) (coefficient : Nat) (exponent : Int) : Prop :=
  Decimal.toBinary64 ⟨false, coefficient, exponent⟩ = .finite false m

instance (m : Magnitude) (c : Nat) (e : Int) : Decidable (m.ReadsBack c e) :=
  inferInstanceAs (Decidable (_ = _))

/-- The multiple of a power of ten nearest to a magnitude, of two the even one, that has so many
    digits. -/
def rounded (m : Magnitude) (count : Nat) : Nat × Int :=
  let exponent := m.point - count
  let (num, den) := m.inUnits exponent
  (roundHalfEven num den, exponent)

/-- The decimal number of the fewest digits that reads back as the magnitude. -/
def shortest (m : Magnitude) : Nat × Int :=
  let found := (List.range 17).findSome? fun k : Nat =>
    let exponent := m.point - Int.ofNat (k + 1)
    ((m.neighbours exponent).find? fun c => decide (m.ReadsBack c exponent)).map (·, exponent)
  found.getD (m.rounded 17)

/-- The digits of a decimal number without its last zeros, and the place of its point before the
    first digit. -/
def significant (coefficient : Nat) (exponent : Int) : List Char × Int :=
  let ds := Numeral.digits coefficient
  (Text.dropEnd (· = '0') ds, exponent + ds.length)

/-- An exponent with its sign and two digits at least. -/
def exponentText : Int → List Char
  | .ofNat n => '+' :: (Numeral.digits n).leftpad 2 '0'
  | .negSucc n => '-' :: (Numeral.digits (n + 1)).leftpad 2 '0'

/-- The shortest text of a magnitude. -/
def text (m : Magnitude) : List Char :=
  if m.mantissa = 0 then ['0', '.', '0']
  else
    let (coefficient, exponent) := m.shortest
    let (ds, point) := significant coefficient exponent
    if -4 < point ∧ point ≤ 16 then
      Text.positional ds point ++ if (ds.length : Int) ≤ point then ['.', '0'] else []
    else Text.pointed ds ++ 'e' :: exponentText (point - 1)

end Magnitude

/-- The shortest text of a number. -/
def text : Binary64 → String
  | .nan => "nan"
  | .infinite negative => String.ofList (Decimal.signText negative ++ ['i', 'n', 'f'])
  | .finite negative m => String.ofList (Decimal.signText negative ++ m.text)

end VestingTable.Binary64
