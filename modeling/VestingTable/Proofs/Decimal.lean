import Mathlib.Algebra.Order.Field.Rat
import Mathlib.Tactic.NormNum
import VestingTable.Decimal
import VestingTable.Proofs.Numeral

/-!
# Values and texts of decimal numbers

A decimal number keeps how it was written, and two that were written
differently may have the same value (`Decimal.toRat`). A text is scanned up to
its exponent as a number with or without a fraction (`Decimal.scan?_fraction`,
`Decimal.scan?_whole`). So are the numeral of a whole number and the numeral
with an empty fraction behind it:

* `Decimal.scan?_digits`, `Decimal.scan?_emptyFraction`.
-/

namespace VestingTable

namespace Decimal

/-- The value of a decimal number. -/
def toRat (d : Decimal) : ℚ :=
  (if d.negative then -1 else 1) * d.coefficient * 10 ^ d.exponent

theorem toRat_whole (n : Nat) : toRat ⟨false, n, 0⟩ = n := by
  simp [toRat]

/-- Another digit of a fraction, if it is a zero, does not change the value. -/
theorem toRat_emptyFraction (n : Nat) : toRat ⟨false, 10 * n, -1⟩ = n := by
  rw [toRat, if_neg (by simp), one_mul, zpow_neg_one, Nat.cast_mul, Nat.cast_ofNat, mul_comm,
    inv_mul_cancel_left₀ (by norm_num)]

theorem toRat_zero (negative : Bool) (exponent : Int) : toRat ⟨negative, 0, exponent⟩ = 0 := by
  simp [toRat]

/-- A number that is written with zeros behind its point is a whole number. -/
theorem toInt?_zeros (n k : Nat) :
    toInt? ⟨false, n * Numeral.tenTo k, -(k : Int)⟩ = some (n : Int) := by
  rcases Nat.eq_zero_or_pos n with rfl | hn
  · rw [toInt?, Nat.zero_mul]
    rfl
  · have pos : n * Numeral.tenTo k ≠ 0 := Nat.ne_of_gt (Nat.mul_pos hn (Numeral.tenTo_pos k))
    cases k with
    | zero =>
      rw [toInt?, if_neg pos]
      show some (Int.ofNat (n * 1 * 1)) = _
      rw [Nat.mul_one, Nat.mul_one]
      rfl
    | succ k =>
      have long : ¬ (Numeral.digits (n * Numeral.tenTo (k + 1))).length ≤ k + 1 := by
        have := Numeral.length_digits_pos n
        rw [Numeral.digits_mul_tenTo hn, List.length_append, List.length_replicate]
        omega
      show toInt? ⟨false, n * Numeral.tenTo (k + 1), .negSucc k⟩ = _
      simp only [toInt?, if_neg pos, if_neg long, Nat.mul_mod_left, if_true,
        Nat.mul_div_cancel _ (Numeral.tenTo_pos (k + 1))]
      rfl

/-- The zeros behind the point do not change the place of the first digit. -/
theorem adjusted_zeros {n : Nat} (hn : 0 < n) (k : Nat) :
    adjusted ⟨false, n * Numeral.tenTo k, -(k : Int)⟩ = (Numeral.digits n).length - 1 := by
  rw [adjusted, Numeral.digits_mul_tenTo hn, List.length_append, List.length_replicate]
  show -(k : Int) + _ - 1 = _
  omega

theorem toInt?_whole (n : Nat) : toInt? ⟨false, n, 0⟩ = some (n : Int) := by
  simpa [Numeral.tenTo] using toInt?_zeros n 0

/-! ## Scanning digits -/

variable {cs : List Char} {ds : List Nat}

theorem spanDigits_append (h : Numeral.digitValues? cs = some ds) {rest : List Char}
    (hrest : ∀ c ∈ rest.head?, Text.digit? c = none) :
    spanDigits (cs ++ rest) = (ds, rest) := by
  induction cs generalizing ds with
  | nil =>
    obtain rfl : ds = [] := by simpa [Numeral.digitValues?] using h.symm
    cases rest with
    | nil => rfl
    | cons c rest => simp [spanDigits, hrest c rfl]
  | cons c cs ih =>
    simp only [Numeral.digitValues?, List.mapM_cons, Option.bind_eq_bind, Option.bind_eq_some_iff]
      at h
    obtain ⟨d, hd, ds', hds, heq⟩ := h
    obtain rfl := Option.some.inj heq
    simp [spanDigits, hd, ih hds]

theorem digit?_point : Text.digit? '.' = none := by decide

/-- What starts with a digit has no sign but the one that is written. -/
theorem spanSign_of_digitValues? (hne : ds ≠ []) (h : Numeral.digitValues? cs = some ds)
    (negative : Bool) (rest : List Char) :
    spanSign (signText negative ++ (cs ++ rest)) = (negative, cs ++ rest) := by
  cases negative with
  | true => rfl
  | false =>
    cases cs with
    | nil => exact absurd (Option.some.inj h).symm hne
    | cons c cs =>
      simp only [Numeral.digitValues?, List.mapM_cons, Option.bind_eq_bind,
        Option.bind_eq_some_iff] at h
      obtain ⟨d, hd, -⟩ := h
      have signless : Text.digit? '-' = none ∧ Text.digit? '+' = none := by decide
      refine spanSign.eq_3 _ ?_ ?_ <;>
      · rintro tail heq
        obtain ⟨rfl, -⟩ := List.cons_eq_cons.1 heq
        simp [signless] at hd

/-- A number without a fraction, ahead of its exponent. -/
theorem scan?_whole (hne : ds ≠ []) (h : Numeral.digitValues? cs = some ds) (negative : Bool)
    {rest : List Char} (hrest : ∀ c ∈ rest.head?, Text.digit? c = none ∧ c ≠ '.') :
    scan? (signText negative ++ (cs ++ rest)) =
      (exponentEnd? rest).map fun e => ⟨negative, Numeral.value ds, e⟩ := by
  have fraction : spanFraction rest = ([], rest) :=
    spanFraction.eq_2 _ fun tail heq => (hrest '.' (by rw [heq]; rfl)).2 rfl
  simp only [scan?, spanSign_of_digitValues? hne h,
    spanDigits_append h fun c hc => (hrest c hc).1, fraction, List.append_nil, if_neg hne,
    List.length_nil, Int.natCast_zero, Int.sub_zero]

/-- A number with a fraction, ahead of its exponent. -/
theorem scan?_fraction (hne : ds ≠ []) (h : Numeral.digitValues? cs = some ds) (negative : Bool)
    {more : List Char} {es : List Nat} (hmore : Numeral.digitValues? more = some es)
    {rest : List Char} (hrest : ∀ c ∈ rest.head?, Text.digit? c = none) :
    scan? (signText negative ++ (cs ++ '.' :: (more ++ rest))) =
      (exponentEnd? rest).map fun e => ⟨negative, Numeral.value (ds ++ es), e - es.length⟩ := by
  have point : ∀ c ∈ ('.' :: (more ++ rest)).head?, Text.digit? c = none := fun c hc =>
    Option.some.inj hc ▸ digit?_point
  have fraction : spanFraction ('.' :: (more ++ rest)) = (es, rest) := spanDigits_append hmore hrest
  simp only [scan?, spanSign_of_digitValues? hne h, spanDigits_append h point, fraction,
    if_neg (List.append_ne_nil_of_left_ne_nil hne es)]

/-- The values of the digits of a number, of which there is one at least. -/
theorem exists_digits (n : Nat) :
    ∃ ds, ds ≠ [] ∧ Numeral.digitValues? (Numeral.digits n) = some ds ∧ Numeral.value ds = n := by
  obtain ⟨ds, hds, hvalue, hlength⟩ := Numeral.digits_values n
  exact ⟨ds, List.length_pos_iff.1 (hlength ▸ Numeral.length_digits_pos n), hds, hvalue⟩

/-- The numeral of a number denotes the number. -/
theorem scan?_digits (n : Nat) : scan? (Numeral.digits n) = some ⟨false, n, 0⟩ := by
  obtain ⟨ds, hne, hds, hvalue⟩ := exists_digits n
  have ending : ∀ c ∈ ([] : List Char).head?, Text.digit? c = none ∧ c ≠ '.' := by simp
  have read := scan?_whole hne hds false ending
  rwa [List.append_nil, hvalue] at read

/-- An empty fraction is a further digit, a zero. -/
theorem scan?_emptyFraction (negative : Bool) (n : Nat) :
    scan? (signText negative ++ (Numeral.digits n ++ ['.', '0'])) =
      some ⟨negative, 10 * n, -1⟩ := by
  obtain ⟨ds, hne, hds, hvalue⟩ := exists_digits n
  have zero : Numeral.digitValues? ['0'] = some [0] := by decide
  have ending : ∀ c ∈ ([] : List Char).head?, Text.digit? c = none := by simp
  have read := scan?_fraction hne hds negative zero ending
  rwa [List.append_nil, Numeral.value_append_singleton, hvalue] at read

end Decimal

namespace ExtendedDecimal

/-- A text without a blank at an end and without an underscore is read as it stands. -/
theorem ofText?_of_scan? {cs : List Char} {d : Decimal} (trimmed : Text.trim cs = cs)
    (noMark : '_' ∉ cs) (hscan : Decimal.scan? cs = some d) (inRange : d.InRange) :
    ofText? (String.ofList cs) = some (.finite d) := by
  have filter : cs.filter (· ≠ '_') = cs :=
    List.filter_eq_self.2 fun c hc => by simpa using fun hm : c = '_' => noMark (hm ▸ hc)
  rw [ofText?, String.toList_ofList, trimmed]
  simp only [filter, hscan, if_pos inRange]

end ExtendedDecimal

end VestingTable
