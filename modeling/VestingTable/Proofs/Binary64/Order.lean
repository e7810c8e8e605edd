import Mathlib.Algebra.Order.Field.Rat
import VestingTable.Proofs.Binary64.Whole

/-!
# The order of rounded numbers

The rounding keeps the order of quotients: on one scale since it goes to the nearest mantissa
(`roundHalfEven_mono`), and from a scale to a coarser one since what lies above the mantissas of
one is the least of the next. So the numbers nearest to two rationals are in order
(`Binary64.Magnitude.steps_le_of_nearest?`), and so they are when they lose their fractions
(`Binary64.truncate_ofRat_mono`).
-/

namespace VestingTable

theorem div_le_div_of_mul_le {a b c d : Nat} (hb : 0 < b) (hd : 0 < d) (h : a * d ≤ c * b) :
    a / b ≤ c / d := by
  rw [Nat.le_div_iff_mul_le hd]
  refine Nat.le_of_mul_le_mul_right ?_ hb
  calc a / b * d * b = a / b * b * d := Nat.mul_right_comm ..
    _ ≤ a * d := Nat.mul_le_mul_right _ (Nat.div_mul_le_self a b)
    _ ≤ c * b := h

/-- Rounding to whole numbers keeps the order of quotients. -/
theorem roundHalfEven_mono {a b c d : Nat} (hb : 0 < b) (hd : 0 < d) (h : a * d ≤ c * b) :
    roundHalfEven a b ≤ roundHalfEven c d := by
  rcases Nat.lt_or_eq_of_le (div_le_div_of_mul_le hb hd h) with hlt | heq
  · exact Nat.le_trans (roundHalfEven_le a b) (Nat.le_trans hlt (div_le_roundHalfEven c d))
  · -- With the same whole part, the remainders are in order.
    have remainders : a % b * d ≤ c % d * b := by
      have ha : a * d = a / b * (b * d) + a % b * d := by
        rw [← Nat.mul_assoc, ← Nat.add_mul, Nat.mul_comm (a / b) b, Nat.div_add_mod]
      have hc : c * b = c / d * (b * d) + c % d * b := by
        rw [Nat.mul_comm b d, ← Nat.mul_assoc, ← Nat.add_mul, Nat.mul_comm (c / d) d,
          Nat.div_add_mod]
      rw [ha, hc, heq] at h
      exact Nat.le_of_add_le_add_left h
    have below (hlt : 2 * (c % d) < d) : 2 * (a % b) < b := by
      refine Nat.lt_of_mul_lt_mul_right (a := d) ?_
      calc 2 * (a % b) * d = 2 * (a % b * d) := Nat.mul_assoc ..
        _ ≤ 2 * (c % d * b) := Nat.mul_le_mul_left 2 remainders
        _ = 2 * (c % d) * b := (Nat.mul_assoc ..).symm
        _ < d * b := Nat.mul_lt_mul_of_pos_right hlt hb
        _ = b * d := Nat.mul_comm ..
    have above (hgt : b < 2 * (a % b)) : d < 2 * (c % d) := by
      refine Nat.lt_of_mul_lt_mul_right (a := b) ?_
      calc d * b = b * d := Nat.mul_comm ..
        _ < 2 * (a % b) * d := Nat.mul_lt_mul_of_pos_right hgt hd
        _ = 2 * (a % b * d) := Nat.mul_assoc ..
        _ ≤ 2 * (c % d * b) := Nat.mul_le_mul_left 2 remainders
        _ = 2 * (c % d) * b := (Nat.mul_assoc ..).symm
    unfold roundHalfEven
    rw [heq]
    split_ifs <;> omega

namespace Binary64.Magnitude

variable {num den num' den' : Nat} {m m' : Magnitude}

theorem scaleFor_mono {p q : Nat} (h : p ≤ q) : scaleFor p ≤ scaleFor q := by
  rcases Nat.eq_zero_or_pos p with rfl | hp
  · exact Nat.zero_le _
  · have pow := Nat.le_trans (Nat.log2_self_le (Nat.ne_of_gt hp)) h
    exact Nat.sub_le_sub_right ((Nat.le_log2 (Nat.ne_of_gt (Nat.lt_of_lt_of_le hp h))).2 pow) 52

/-- A quotient is rounded to a number of the format if its scale is one, and is not the last. -/
theorem exists_ofSteps? (h : scaleFor (num / den) < 2045) : ∃ m, ofSteps? num den = some m := by
  rw [ofSteps?]
  split
  · exact ⟨_, dif_pos (Nat.le_of_lt h)⟩
  · exact ⟨_, dif_pos h⟩

/-- The rounding keeps the order of quotients of steps. -/
theorem steps_le_of_ofSteps? (hden : 0 < den) (hden' : 0 < den') (hle : num * den' ≤ num' * den)
    (h : ofSteps? num den = some m) (h' : ofSteps? num' den' = some m') : m.steps ≤ m'.steps := by
  have floors := div_le_div_of_mul_le hden hden' hle
  rw [steps_of_ofSteps? h, steps_of_ofSteps? h']
  rcases Nat.lt_or_eq_of_le (scaleFor_mono floors) with hlt | heq
  · -- On a coarser scale, the smallest mantissa is the greatest of the finer one, or above it.
    calc roundedMantissa num den * twoTo (scaleFor (num / den))
        ≤ twoTo 53 * twoTo (scaleFor (num / den)) := Nat.mul_le_mul_right _ (roundedMantissa_le num den)
      _ = twoTo 52 * twoTo (scaleFor (num / den) + 1) := twoTo_shift _
      _ ≤ roundedMantissa num' den' * twoTo (scaleFor (num' / den')) :=
          Nat.mul_le_mul (le_rounded (by omega)) (twoTo_le hlt)
  · rw [roundedMantissa, roundedMantissa, heq]
    refine Nat.mul_le_mul_right _ (roundHalfEven_mono (Nat.mul_pos hden (twoTo_pos _))
      (Nat.mul_pos hden' (twoTo_pos _)) ?_)
    rw [← Nat.mul_assoc, ← Nat.mul_assoc]
    exact Nat.mul_le_mul_right _ hle

/-- The rounding keeps the order of quotients. -/
theorem steps_le_of_nearest? (hden : 0 < den) (hden' : 0 < den') (hle : num * den' ≤ num' * den)
    (h : nearest? num den = some m) (h' : nearest? num' den' = some m') : m.steps ≤ m'.steps := by
  refine steps_le_of_ofSteps? hden hden' ?_ h h'
  rw [Nat.mul_assoc, Nat.mul_assoc]
  exact Nat.mul_le_mul_left _ hle

/-- A quotient up to `2 ^ 53` is rounded to a number of the format. -/
theorem exists_nearest? (hle : num ≤ twoTo 53 * den) :
    ∃ m, nearest? num den = some m := by
  have floor : stepsInOne * num / den ≤ twoTo 1127 := by
    refine Nat.div_le_of_le_mul ?_
    calc stepsInOne * num ≤ stepsInOne * (twoTo 53 * den) := Nat.mul_le_mul_left _ hle
      _ = den * twoTo 1127 := by rw [stepsInOne, ← Nat.mul_assoc, ← twoTo_add, Nat.mul_comm]
  refine exists_ofSteps? (Nat.lt_of_le_of_lt (scaleFor_mono floor) ?_)
  decide +kernel

end Binary64.Magnitude

/-! ## Cutting off fractions -/

/-- A quotient is one in lowest terms, extended by a factor. -/
theorem exists_factor (n : Int) {d : Nat} (hd : d ≠ 0) :
    ∃ c : Nat, 0 < c ∧ n = (mkRat n d).num * c ∧ d = (mkRat n d).den * c := by
  have same : mkRat n d = ⟨_, _, (mkRat n d).den_nz, (mkRat n d).reduced⟩ := rfl
  obtain ⟨c, hc, hn, hden⟩ := Rat.mkRat_num_den hd same
  exact ⟨c, Nat.pos_of_ne_zero hc, hn, hden⟩

theorem truncate_mkRat (n : Int) {d : Nat} (hd : d ≠ 0) : truncate (mkRat n d) = n.tdiv d := by
  obtain ⟨c, hc, hn, hden⟩ := exists_factor n hd
  have cut := Int.mul_tdiv_mul_of_pos_left (mkRat n d).num ((mkRat n d).den : Int)
    (Int.natCast_pos.2 hc)
  rw [← hn, ← Int.natCast_mul, ← hden] at cut
  exact cut.symm

theorem truncate_intCast (n : Int) : truncate n = n :=
  Int.tdiv_one n

theorem truncate_neg (q : Rat) : truncate (-q) = -truncate q := by
  rw [truncate, Rat.neg_num, Rat.neg_den, Int.neg_tdiv, truncate]

theorem mkRat_le_mkRat {m n : Int} (h : m ≤ n) (d : Nat) : mkRat m d ≤ mkRat n d := by
  rw [Rat.mkRat_eq_div, Rat.mkRat_eq_div]
  exact div_le_div_of_nonneg_right (Rat.intCast_le_intCast.2 h) (Nat.cast_nonneg d)

namespace Binary64

variable {p q : Rat} {m : Magnitude}

theorem Magnitude.truncate_toRat (m : Magnitude) :
    truncate m.toRat = (m.steps / stepsInOne : Nat) :=
  truncate_mkRat _ (Nat.ne_of_gt stepsInOne_pos)

theorem Magnitude.nearest_of_none {negative : Bool} {num den : Nat} (h : nearest? num den = none) :
    nearest negative num den = .infinite negative := by
  unfold nearest
  generalize nearest? num den = m at h
  rw [h]

/-- What the number nearest to a rational loses with its fraction are the steps that make no
    one. -/
theorem truncate_ofRat_of_nonneg (hq : 0 ≤ q)
    (nearest : Magnitude.nearest? q.num.natAbs q.den = some m) :
    (ofRat q).toRat?.map truncate = some ((m.steps / stepsInOne : Nat) : Int) := by
  rw [ofRat, decide_eq_false (not_lt.2 hq), Magnitude.nearest_eq_finite_iff.2 nearest]
  exact congrArg some m.truncate_toRat

/-- The number nearest to a negative rational, without its fraction, is not positive. -/
theorem truncate_ofRat_nonpos (hq : q < 0) {n : Int} (h : (ofRat q).toRat?.map truncate = some n) :
    n ≤ 0 := by
  have sign : ofRat q = nearest true q.num.natAbs q.den := by rw [ofRat, decide_eq_true hq]
  cases hm : Magnitude.nearest? q.num.natAbs q.den with
  | none =>
    rw [sign, Magnitude.nearest_of_none hm] at h
    cases h
  | some m =>
    rw [sign, Magnitude.nearest_eq_finite_iff.2 hm] at h
    have cut : truncate (-m.toRat) = n := Option.some.inj h
    rw [← cut, truncate_neg, m.truncate_toRat]
    exact Int.neg_nonpos_of_nonneg (Int.natCast_nonneg _)

/-- The numbers nearest to two rationals, up to `2 ^ 53`, are in order without their fractions. -/
theorem truncate_ofRat_mono (hp : 0 ≤ p) (hpq : p ≤ q) (hq : q ≤ (twoTo 53 : Int)) :
    ∃ m n : Int, (ofRat p).toRat?.map truncate = some m ∧ (ofRat q).toRat?.map truncate = some n ∧
      m ≤ n := by
  have natNum {r : Rat} (hr : 0 ≤ r) : (r.num.natAbs : Int) = r.num :=
    Int.natAbs_of_nonneg (Rat.num_nonneg.2 hr)
  have small {r : Rat} (hr : 0 ≤ r) (hle : r ≤ (twoTo 53 : Int)) :
      ∃ m, Magnitude.nearest? r.num.natAbs r.den = some m := by
    refine Magnitude.exists_nearest? ?_
    rw [Rat.le_iff, Rat.num_intCast, Rat.den_intCast, Int.natCast_one, Int.mul_one, ← natNum hr]
      at hle
    exact_mod_cast hle
  have hq' := hp.trans hpq
  obtain ⟨k, hk⟩ := small hp (hpq.trans hq)
  obtain ⟨l, hl⟩ := small hq' hq
  refine ⟨_, _, truncate_ofRat_of_nonneg hp hk, truncate_ofRat_of_nonneg hq' hl, ?_⟩
  rw [Rat.le_iff, ← natNum hp, ← natNum hq'] at hpq
  have steps := Magnitude.steps_le_of_nearest? p.den_pos q.den_pos (by exact_mod_cast hpq) hk hl
  exact_mod_cast Nat.div_le_div_right steps

end Binary64

end VestingTable
