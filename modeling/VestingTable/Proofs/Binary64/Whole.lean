import Mathlib.Tactic.Common
import VestingTable.Binary64.Basic

/-!
# Whole numbers in binary64

The format has a place for every number of steps that is a mantissa on its
scale, and only one (`Magnitude.steps_injective`). The rounding finds it
(`Magnitude.ofSteps?_steps`), so up to `2 ^ 53`, where the scale is still fine
enough for every whole number, the rounding of a whole number is exact:

* `Magnitude.nearest?_of_le`: a whole number up to `2 ^ 53` is rounded to itself;
* `Magnitude.eq_of_nearest?`: and no other whole number is rounded to it, save
  that `2 ^ 53 + 1`, halfway between two numbers of the format, goes to `2 ^ 53`.
-/

namespace VestingTable

/-- A quotient without a remainder is not rounded. -/
theorem roundHalfEven_of_dvd {a b : Nat} (hb : 0 < b) (h : b ∣ a) : roundHalfEven a b = a / b := by
  rw [roundHalfEven, Nat.mod_eq_zero_of_dvd h, if_pos (by omega)]

namespace Binary64

theorem twoTo_pos (k : Nat) : 0 < twoTo k :=
  Nat.two_pow_pos k

theorem twoTo_add (j k : Nat) : twoTo (j + k) = twoTo j * twoTo k :=
  Nat.pow_add 2 j k

theorem twoTo_le {j k : Nat} (h : j ≤ k) : twoTo j ≤ twoTo k :=
  Nat.pow_le_pow_right (by decide) h

theorem twoTo_dvd {j k : Nat} (h : j ≤ k) : twoTo j ∣ twoTo k :=
  Nat.pow_dvd_pow 2 h

theorem log2_eq_iff {n k : Nat} (h : n ≠ 0) : n.log2 = k ↔ twoTo k ≤ n ∧ n < twoTo (k + 1) :=
  Nat.log2_eq_iff h

theorem stepsInOne_pos : 0 < stepsInOne :=
  twoTo_pos 1074

namespace Magnitude

/-! ## The scale of a magnitude -/

/-- The scale of a magnitude is the one on which it would be rounded. -/
theorem scaleFor_steps (m : Magnitude) : scaleFor m.steps = m.scale := by
  rcases m.normal with hs | hs
  · -- No scale is finer than that of a single step.
    have steps : m.steps = m.mantissa := by rw [Magnitude.steps, hs]; exact Nat.mul_one _
    rw [scaleFor, hs, steps]
    rcases Nat.eq_zero_or_pos m.mantissa with hz | hz
    · rw [hz]; rfl
    · have := (Nat.log2_lt (Nat.ne_of_gt hz)).2 m.mantissa_lt
      omega
  · have pos : 0 < m.steps := Nat.mul_pos (Nat.lt_of_lt_of_le (twoTo_pos 52) hs) (twoTo_pos _)
    have log : m.steps.log2 = 52 + m.scale := by
      rw [log2_eq_iff (Nat.ne_of_gt pos), Nat.add_right_comm, twoTo_add, twoTo_add]
      exact ⟨Nat.mul_le_mul_right _ hs, Nat.mul_lt_mul_of_pos_right m.mantissa_lt (twoTo_pos _)⟩
    rw [scaleFor, log]
    omega

/-- A number of steps is that of one magnitude at most. -/
theorem steps_injective {m n : Magnitude} (h : m.steps = n.steps) : m = n := by
  have scale : m.scale = n.scale := by rw [← scaleFor_steps m, h, scaleFor_steps]
  have mantissa : m.mantissa = n.mantissa := by
    rw [steps, steps, scale] at h
    exact Nat.eq_of_mul_eq_mul_right (twoTo_pos _) h
  cases m; cases n; cases scale; cases mantissa; rfl

theorem scaleFor_dvd_steps (m : Magnitude) : twoTo (scaleFor m.steps) ∣ m.steps := by
  rw [scaleFor_steps]
  exact Nat.dvd_mul_left _ _

/-! ## The rounding -/

/-- A number of steps that its scale divides is not changed by the rounding. -/
theorem ofSteps?_of_dvd {q : Nat} (h : twoTo (scaleFor q) ∣ q) (hs : scaleFor q ≤ 2045) :
    ∃ m, ofSteps? q 1 = some m ∧ m.steps = q := by
  have exact : roundHalfEven q (1 * twoTo (scaleFor (q / 1))) = q / twoTo (scaleFor q) := by
    rw [Nat.div_one, Nat.one_mul, roundHalfEven_of_dvd (twoTo_pos _) h]
  have lt := lt_of_eq_of_lt exact (div_scale_lt q)
  have le : scaleFor (q / 1) ≤ 2045 := by rwa [Nat.div_one]
  refine ⟨_, by rw [ofSteps?, dif_pos lt, dif_pos le], ?_⟩
  change roundHalfEven q (1 * twoTo (scaleFor (q / 1))) * twoTo (scaleFor (q / 1)) = q
  rw [exact, Nat.div_one, Nat.div_mul_cancel h]

/-- The rounding does not change a number of the format. -/
theorem ofSteps?_steps (m : Magnitude) : ofSteps? m.steps 1 = some m := by
  obtain ⟨m', h, hsteps⟩ :=
    ofSteps?_of_dvd m.scaleFor_dvd_steps (le_of_eq_of_le m.scaleFor_steps m.scale_le)
  rw [h, steps_injective hsteps]

/-- The mantissa above the greatest one of a scale is the smallest one of the next. -/
theorem twoTo_shift (k : Nat) : twoTo 53 * twoTo k = twoTo 52 * twoTo (k + 1) := by
  rw [← twoTo_add, ← twoTo_add, Nat.add_right_comm 52 1 k, Nat.add_assoc]

/-- The mantissa to which a quotient of steps is rounded, at most the smallest of the next scale. -/
def roundedMantissa (num den : Nat) : Nat :=
  roundHalfEven num (den * twoTo (scaleFor (num / den)))

theorem roundedMantissa_le (num den : Nat) : roundedMantissa num den ≤ twoTo 53 := by
  have floor := div_scale_lt (num / den)
  rw [Nat.div_div_eq_div_mul] at floor
  exact Nat.le_trans (roundHalfEven_le ..) floor

/-- The magnitude nearest to a quotient of steps is the rounded mantissa on the scale of the
    quotient. -/
theorem steps_of_ofSteps? {num den : Nat} {m : Magnitude} (h : ofSteps? num den = some m) :
    m.steps = roundedMantissa num den * twoTo (scaleFor (num / den)) := by
  rw [ofSteps?] at h
  split at h
  · split at h
    · obtain rfl := Option.some.inj h
      rfl
    · contradiction
  · -- The mantissa has been rounded up to the next power of two.
    next full =>
    split at h
    · obtain rfl := Option.some.inj h
      have top : roundedMantissa num den = twoTo 53 :=
        Nat.le_antisymm (roundedMantissa_le num den) (Nat.not_lt.1 full)
      calc twoTo 52 * twoTo (scaleFor (num / den) + 1)
          = twoTo 53 * twoTo (scaleFor (num / den)) := (twoTo_shift _).symm
        _ = roundedMantissa num den * twoTo (scaleFor (num / den)) := by rw [top]
    · contradiction

/-- On the scale of the quotient, the rounding does not go below the quotient. -/
theorem le_steps_of_ofSteps? {q : Nat} {m : Magnitude} (h : ofSteps? q 1 = some m) :
    q / twoTo (scaleFor q) * twoTo (scaleFor q) ≤ m.steps := by
  rw [steps_of_ofSteps? h, roundedMantissa, Nat.div_one, Nat.one_mul]
  exact Nat.mul_le_mul_right _ (div_le_roundHalfEven ..)

theorem nearest_eq_finite_iff {m : Magnitude} {negative : Bool} {num den : Nat} :
    nearest negative num den = .finite negative m ↔ nearest? num den = some m := by
  unfold nearest
  cases nearest? num den <;> simp

/-! ## Whole numbers -/

theorem toNat?_eq_some_iff {m : Magnitude} {n : Nat} :
    m.toNat? = some n ↔ m.steps = n * stepsInOne := by
  rw [toNat?]
  constructor
  · intro h
    split at h
    · next hz => rw [← Option.some.inj h, Nat.div_mul_cancel (Nat.dvd_of_mod_eq_zero hz)]
    · contradiction
  · intro h
    rw [h, Nat.mul_mod_left, if_pos rfl, Nat.mul_div_cancel _ stepsInOne_pos]

theorem scaleFor_mul_stepsInOne {n : Nat} (h : 0 < n) :
    scaleFor (n * stepsInOne) = n.log2 + 1022 := by
  have bounds := (log2_eq_iff (Nat.ne_of_gt h)).1 rfl
  have log : (n * stepsInOne).log2 = n.log2 + 1074 := by
    rw [log2_eq_iff (Nat.ne_of_gt (Nat.mul_pos h stepsInOne_pos)), Nat.add_right_comm, twoTo_add,
      twoTo_add]
    exact ⟨Nat.mul_le_mul_right _ bounds.1, Nat.mul_lt_mul_of_pos_right bounds.2 stepsInOne_pos⟩
  rw [scaleFor, log]
  rfl

/-- Up to `2 ^ 53` the scale of a whole number divides it. -/
theorem scale_dvd_whole {n : Nat} (h : n ≤ twoTo 53) :
    twoTo (scaleFor (n * stepsInOne)) ∣ n * stepsInOne ∧ scaleFor (n * stepsInOne) ≤ 2045 := by
  rcases Nat.eq_zero_or_pos n with rfl | hn
  · rw [Nat.zero_mul]
    exact ⟨Nat.dvd_zero _, by decide⟩
  · rw [scaleFor_mul_stepsInOne hn]
    rcases Nat.lt_or_eq_of_le h with hlt | rfl
    · have log : n.log2 < 53 := (Nat.log2_lt (Nat.ne_of_gt hn)).2 hlt
      exact ⟨Nat.dvd_mul_left_of_dvd (twoTo_dvd (by omega)) n, by omega⟩
    · -- On the next scale there are only even numbers, as this is.
      have log : (twoTo 53).log2 = 53 := by decide
      rw [log, stepsInOne, ← twoTo_add]
      exact ⟨twoTo_dvd (by decide), by decide⟩

theorem nearest?_whole (n : Nat) : nearest? n 1 = ofSteps? (n * stepsInOne) 1 := by
  rw [nearest?, Nat.mul_comm]

/-- A whole number up to `2 ^ 53` is rounded to itself. -/
theorem nearest?_of_le {n : Nat} (h : n ≤ twoTo 53) :
    ∃ m, nearest? n 1 = some m ∧ m.toNat? = some n := by
  rw [nearest?_whole]
  obtain ⟨m, hm, hsteps⟩ := ofSteps?_of_dvd (scale_dvd_whole h).1 (scale_dvd_whole h).2
  exact ⟨m, hm, toNat?_eq_some_iff.2 hsteps⟩

/-- A whole number of the format is rounded to itself. -/
theorem nearest?_of_toNat? {m : Magnitude} {n : Nat} (h : m.toNat? = some n) :
    nearest? n 1 = some m := by
  rw [nearest?_whole, ← toNat?_eq_some_iff.1 h, ofSteps?_steps]

/-- The rounding does not go to a finer scale. -/
theorem scaleFor_le_of_ofSteps? {q : Nat} {m : Magnitude} (h : ofSteps? q 1 = some m) :
    scaleFor q ≤ m.scale := by
  rw [ofSteps?] at h
  simp only [Nat.div_one] at h
  split at h
  · split at h
    · obtain rfl := Option.some.inj h
      exact Nat.le_refl _
    · contradiction
  · split at h
    · obtain rfl := Option.some.inj h
      exact Nat.le_succ _
    · contradiction

/-- From `2 ^ 52` on, whole numbers are rounded to whole numbers. -/
theorem exists_toNat?_of_nearest? {n : Nat} {m : Magnitude} (hn : twoTo 52 ≤ n)
    (h : nearest? n 1 = some m) : ∃ k, m.toNat? = some k := by
  have pos : 0 < n := Nat.lt_of_lt_of_le (twoTo_pos 52) hn
  have log : 52 ≤ n.log2 := (Nat.le_log2 (Nat.ne_of_gt pos)).2 hn
  have scale : 1074 ≤ m.scale := by
    have := scaleFor_le_of_ofSteps? (nearest?_whole n ▸ h)
    rw [scaleFor_mul_stepsInOne pos] at this
    omega
  obtain ⟨k, hk⟩ : stepsInOne ∣ m.steps := Nat.dvd_mul_left_of_dvd (twoTo_dvd scale) _
  exact ⟨k, toNat?_eq_some_iff.2 (hk.trans (Nat.mul_comm _ _))⟩

/-- Halfway between `2 ^ 53` and the next number of the format, the rounding goes down. -/
theorem nearest?_tie : ∃ m, nearest? (twoTo 53 + 1) 1 = some m ∧ m.toNat? = some (twoTo 53) := by
  obtain ⟨m, hm, hn⟩ := nearest?_of_le (Nat.le_refl (twoTo 53))
  have tie : nearest? (twoTo 53 + 1) 1 = nearest? (twoTo 53) 1 := by decide +kernel
  exact ⟨m, tie.trans hm, hn⟩

/-- Above `2 ^ 53 + 1` no whole number is rounded down to `2 ^ 53` or below. -/
theorem lt_of_nearest? {n k : Nat} {m : Magnitude} (hn : twoTo 53 + 2 ≤ n)
    (h : nearest? n 1 = some m) (hk : m.toNat? = some k) : twoTo 53 < k := by
  have pos : 0 < n := Nat.lt_of_lt_of_le (Nat.succ_pos _) hn
  have log : 53 ≤ n.log2 :=
    (Nat.le_log2 (Nat.ne_of_gt pos)).2 (Nat.le_trans (Nat.le_add_right _ 2) hn)
  -- The number without its digits behind the first 53 is a lower bound.
  have below : n / twoTo (scaleFor n) * twoTo (scaleFor n) ≤ k := by
    have shift : n.log2 + 1022 = scaleFor n + 1074 := by unfold scaleFor; omega
    have := le_steps_of_ofSteps? (nearest?_whole n ▸ h)
    rw [toNat?_eq_some_iff.1 hk, scaleFor_mul_stepsInOne pos, shift, twoTo_add, stepsInOne,
      Nat.mul_div_mul_right _ _ (twoTo_pos 1074), ← Nat.mul_assoc] at this
    exact Nat.le_of_mul_le_mul_right this (twoTo_pos 1074)
  refine Nat.lt_of_lt_of_le ?_ below
  rcases Nat.lt_or_ge 53 n.log2 with hlog | hlog
  · have scale : 2 ≤ scaleFor n := by unfold scaleFor; omega
    calc twoTo 53 < twoTo 52 * twoTo 2 := by decide
      _ ≤ n / twoTo (scaleFor n) * twoTo (scaleFor n) :=
        Nat.mul_le_mul (le_div_scale (by omega)) (twoTo_le scale)
  · -- One digit is dropped.
    have scale : scaleFor n = 1 := by unfold scaleFor; omega
    have even : twoTo 53 = twoTo 52 * 2 := rfl
    have two : twoTo 1 = 2 := rfl
    rw [scale, two]
    omega

/-- No whole number but itself is rounded to one up to `2 ^ 53`, save for the next one after it. -/
theorem eq_of_nearest? {n k : Nat} {m : Magnitude} (hn : n ≠ twoTo 53 + 1)
    (h : nearest? n 1 = some m) (hk : m.toNat? = some k) (hle : k ≤ twoTo 53) : n = k := by
  rcases Nat.lt_or_ge (twoTo 53) n with hlt | hge
  · exact absurd (lt_of_nearest? (by omega) h hk) (Nat.not_lt.2 hle)
  · obtain ⟨m', hm', hn'⟩ := nearest?_of_le hge
    rw [h] at hm'
    obtain rfl := Option.some.inj hm'
    exact Option.some.inj (hn'.symm.trans hk)

end Magnitude

theorem ofInt_eq_nearest (n : Int) : ofInt n = nearest (decide (n < 0)) n.natAbs 1 := by
  unfold ofInt ofRat
  simp only [Rat.intCast_neg_iff, Rat.num_intCast, Rat.den_intCast]

theorem ofInt_natCast (n : Nat) : ofInt n = nearest false n 1 := by
  rw [ofInt_eq_nearest, decide_eq_false (by omega)]
  rfl

/-- A whole number up to `2 ^ 53` is a number of the format. -/
theorem exists_ofInt_eq {n : Nat} (h : n ≤ twoTo 53) :
    ∃ m : Magnitude, ofInt n = .finite false m ∧ m.toNat? = some n := by
  obtain ⟨m, hm, hn⟩ := Magnitude.nearest?_of_le h
  exact ⟨m, by rw [ofInt_natCast, Magnitude.nearest_eq_finite_iff, hm], hn⟩

theorem toInt?_ofInt {n : Nat} (h : n ≤ twoTo 53) : (ofInt n).toInt? = some (n : Int) := by
  obtain ⟨m, hm, hn⟩ := exists_ofInt_eq h
  rw [hm]
  exact Option.map_eq_some_iff.2 ⟨n, hn, rfl⟩

theorem Magnitude.toRat_of_toNat? {m : Magnitude} {n : Nat} (h : m.toNat? = some n) :
    m.toRat = (n : Int) := by
  have whole := Rat.mkRat_mul_right (n := n) (d := 1) (Nat.ne_of_gt stepsInOne_pos)
  rw [toRat, toNat?_eq_some_iff.1 h]
  rwa [Nat.one_mul, Rat.mkRat_one] at whole

/-- A whole number up to `2 ^ 53` in size, of either sign, is held exactly. -/
theorem toRat?_ofInt {n : Int} (h : n.natAbs ≤ twoTo 53) : (ofInt n).toRat? = some (n : Rat) := by
  obtain ⟨m, hm, hn⟩ := Magnitude.nearest?_of_le h
  have finite : ofInt n = .finite (decide (n < 0)) m := by
    rw [ofInt_eq_nearest, Magnitude.nearest_eq_finite_iff, hm]
  have value := Magnitude.toRat_of_toNat? hn
  rw [finite]
  by_cases hneg : n < 0
  · rw [decide_eq_true hneg, toRat?, value, ← Rat.intCast_neg,
      Int.ofNat_natAbs_of_nonpos (Int.le_of_lt hneg), Int.neg_neg]
  · rw [decide_eq_false hneg, toRat?, value, Int.natAbs_of_nonneg (Int.not_lt.1 hneg)]

end Binary64

end VestingTable
