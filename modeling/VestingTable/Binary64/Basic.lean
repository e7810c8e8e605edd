/-!
# Binary64 numbers

The numbers that a cell holds when a figure was typed into a spreadsheet: the
binary64 format of IEEE 754, with its infinities and without its different
NaNs. A finite one is a whole number of steps of `2 ^ -1074`, and its arithmetic is that
of the rationals followed by one rounding (`ofRat`) to the nearest number of the
format, of two nearest to the one with the even mantissa.

* `Magnitude.nearest?` is the rounding, and refuses only what lies at or above
  half a step over the greatest finite number.
* `toRat` is the exact value of a finite number.
-/

namespace VestingTable

/-- The quotient of two numbers, rounded to the nearest whole number, and from
    the middle between two to the even one. -/
def roundHalfEven (a b : Nat) : Nat :=
  if 2 * (a % b) < b then a / b
  else if b < 2 * (a % b) then a / b + 1
  else a / b + a / b % 2

theorem div_le_roundHalfEven (a b : Nat) : a / b ≤ roundHalfEven a b := by
  unfold roundHalfEven; split <;> (try split) <;> omega

theorem roundHalfEven_le (a b : Nat) : roundHalfEven a b ≤ a / b + 1 := by
  unfold roundHalfEven; split <;> (try split) <;> omega

/-- A power of two. -/
def Binary64.twoTo (exponent : Nat) : Nat :=
  Nat.pow 2 exponent

/-- The number of steps of the format, the smallest numbers above zero, that make one. -/
def Binary64.stepsInOne : Nat := twoTo 1074

/-- The size of a finite binary64 number: `mantissa * 2 ^ scale` steps of `2 ^ -1074`. -/
structure Binary64.Magnitude where
  mantissa : Nat
  scale : Nat
  mantissa_lt : mantissa < Binary64.twoTo 53
  scale_le : scale ≤ 2045
  normal : scale = 0 ∨ Binary64.twoTo 52 ≤ mantissa
deriving DecidableEq

/-- A binary64 number. -/
inductive Binary64
  | nan
  | infinite (negative : Bool)
  | finite (negative : Bool) (magnitude : Binary64.Magnitude)
deriving DecidableEq

namespace Binary64

namespace Magnitude

/-- The number of steps of `2 ^ -1074`. -/
def steps (m : Magnitude) : Nat :=
  m.mantissa * twoTo m.scale

/-- The value of a magnitude. -/
def toRat (m : Magnitude) : Rat :=
  mkRat m.steps stepsInOne

/-- The magnitude zero. -/
def zero : Magnitude :=
  ⟨0, 0, by decide, by decide, .inl rfl⟩

/-- The scale on which a quotient of so many whole steps has 53 binary digits. -/
def scaleFor (wholeSteps : Nat) : Nat :=
  wholeSteps.log2 - 52

theorem div_scale_lt (q : Nat) : q / twoTo (scaleFor q) < twoTo 53 := by
  show q / 2 ^ scaleFor q < 2 ^ 53
  rw [Nat.div_lt_iff_lt_mul (Nat.two_pow_pos _), ← Nat.pow_add]
  exact Nat.lt_of_lt_of_le Nat.lt_log2_self (Nat.pow_le_pow_right (by decide) (by
    unfold scaleFor; omega))

theorem le_div_scale {q : Nat} (h : scaleFor q ≠ 0) : twoTo 52 ≤ q / twoTo (scaleFor q) := by
  show 2 ^ 52 ≤ q / 2 ^ scaleFor q
  have hq : q ≠ 0 := by rintro rfl; exact h rfl
  rw [Nat.le_div_iff_mul_le (Nat.two_pow_pos _), ← Nat.pow_add]
  have : 52 + scaleFor q = q.log2 := by unfold scaleFor at h ⊢; omega
  rw [this]
  exact Nat.log2_self_le hq

theorem le_rounded {steps den : Nat} (h : scaleFor (steps / den) ≠ 0) :
    twoTo 52 ≤ roundHalfEven steps (den * twoTo (scaleFor (steps / den))) :=
  Nat.le_trans (le_div_scale h) (Nat.div_div_eq_div_mul .. ▸ div_le_roundHalfEven ..)

/-- The magnitude nearest to a quotient of steps, the even one of two; none above the greatest. -/
def ofSteps? (steps den : Nat) : Option Magnitude :=
  if hlt : roundHalfEven steps (den * twoTo (scaleFor (steps / den))) < twoTo 53 then
    if hs : scaleFor (steps / den) ≤ 2045 then
      some ⟨_, scaleFor (steps / den), hlt, hs, (Decidable.em _).imp_right le_rounded⟩
    else none
  else if hs : scaleFor (steps / den) + 1 ≤ 2045 then
    some ⟨twoTo 52, _, by decide, hs, .inr (Nat.le_refl _)⟩
  else none

/-- The magnitude nearest to a quotient. -/
def nearest? (num den : Nat) : Option Magnitude :=
  ofSteps? (stepsInOne * num) den

/-- A magnitude that is a whole number, as this number. -/
def toNat? (m : Magnitude) : Option Nat :=
  if m.steps % stepsInOne = 0 then some (m.steps / stepsInOne) else none

end Magnitude

/-- The number nearest to a quotient with a sign, which a zero keeps. -/
def nearest (negative : Bool) (num den : Nat) : Binary64 :=
  match Magnitude.nearest? num den with
  | some m => .finite negative m
  | none => .infinite negative

/-- The number nearest to a rational. -/
def ofRat (q : Rat) : Binary64 :=
  nearest (decide (q < 0)) q.num.natAbs q.den

/-- The number nearest to an integer. -/
def ofInt (n : Int) : Binary64 :=
  ofRat n

/-- The exact value of a finite number. -/
def toRat? : Binary64 → Option Rat
  | .finite false m => some m.toRat
  | .finite true m => some (-m.toRat)
  | _ => none

/-- A whole number, as this integer. -/
def toInt? : Binary64 → Option Int
  | .finite false m => m.toNat?.map Int.ofNat
  | .finite true m => m.toNat?.map fun n => -Int.ofNat n
  | _ => none

end Binary64

/-- A rational without its fraction. -/
def truncate (q : Rat) : Int :=
  q.num.tdiv q.den

/-- The integer nearest to a rational, and from the middle between two the even one. -/
def roundRat (q : Rat) : Int :=
  if q < 0 then -roundHalfEven q.num.natAbs q.den else roundHalfEven q.num.natAbs q.den

end VestingTable
