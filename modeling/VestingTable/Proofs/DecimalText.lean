import VestingTable.Proofs.Decimal

/-!
# Decimal numbers read back

A decimal number keeps how it was written, and its text says all of that: the sign, also of a
zero, the digits with the zeros ahead of and behind them, and the exponent.

* `Decimal.scan?_text`: every decimal number is read back from its text, whether that has a
  point among the digits, zeros ahead of them or an exponent;
* `Decimal.isNumberChar_of_mem_text`: the characters of such a text.
-/

namespace VestingTable

namespace Numeral

theorem digitValues?_append {cs ds : List Char} {xs ys : List Nat} (h : digitValues? cs = some xs)
    (h' : digitValues? ds = some ys) : digitValues? (cs ++ ds) = some (xs ++ ys) := by
  simp only [digitValues?] at h h' ⊢
  simp [List.mapM_append, h, h']

/-- The digits of two parts of a text. -/
theorem exists_of_digitValues?_append {cs ds : List Char} {zs : List Nat}
    (h : digitValues? (cs ++ ds) = some zs) :
    ∃ xs ys, digitValues? cs = some xs ∧ digitValues? ds = some ys ∧ zs = xs ++ ys := by
  simp only [digitValues?, List.mapM_append, Option.bind_eq_bind, Option.bind_eq_some_iff] at h
  obtain ⟨xs, hxs, ys, hys, heq⟩ := h
  exact ⟨xs, ys, hxs, hys, (Option.some.inj heq).symm⟩

theorem digitValues?_zeroDigits (k : Nat) :
    digitValues? (Text.zeroDigits k) = some (List.replicate k 0) := by
  have zero : Text.digit? '0' = some 0 := by decide
  induction k with
  | zero => rfl
  | succ k ih =>
    rw [Text.zeroDigits, List.replicate_succ, List.replicate_succ]
    simp only [digitValues?, Text.zeroDigits] at ih ⊢
    simp [List.mapM_cons, zero, ih]

/-- Zeros ahead do not count. -/
theorem value_replicate_zero_append (k : Nat) (ds : List Nat) :
    value (List.replicate k 0 ++ ds) = value ds := by
  induction k with
  | zero => rfl
  | succ k ih =>
    rw [List.replicate_succ, List.cons_append]
    exact ih

end Numeral

namespace Decimal

open Text

variable {negative : Bool} {cs : List Char} {ds : List Nat}

/-! ## Exponents -/

theorem wholeEnd?_digits (n : Nat) : wholeEnd? (Numeral.digits n) = some n := by
  obtain ⟨ds, hne, hds, hvalue⟩ := exists_digits n
  have span : spanDigits (Numeral.digits n ++ []) = (ds, []) := spanDigits_append hds (by simp)
  rw [List.append_nil] at span
  rw [wholeEnd?, span]
  obtain ⟨d, ds, rfl⟩ := List.exists_cons_of_ne_nil hne
  exact congrArg some hvalue

/-- An exponent is read back with its sign. -/
theorem exponentEnd?_exponentText (e : Int) : exponentEnd? ('E' :: exponentText e) = some e := by
  cases e with
  | ofNat n =>
    rw [exponentText, exponentEnd?, if_pos (by decide)]
    simp [spanSign, wholeEnd?_digits]
  | negSucc n =>
    rw [exponentText, exponentEnd?, if_pos (by decide)]
    simp only [spanSign, wholeEnd?_digits]
    rfl

/-! ## Texts of numbers -/

/-- A number that is written with a point at its place, or with none behind its digits. -/
theorem scan?_positional (negative : Bool) (n : Nat) {point : Int}
    (h : point ≤ (Numeral.digits n).length) :
    scan? (signText negative ++ positional (Numeral.digits n) point) =
      some ⟨negative, n, point - (Numeral.digits n).length⟩ := by
  obtain ⟨ds, hds, hvalue, hlength⟩ := Numeral.digits_values n
  have hne : ds ≠ [] := List.length_pos_iff.1 (hlength ▸ Numeral.length_digits_pos n)
  have zero : Numeral.digitValues? ['0'] = some [0] := by decide
  have one : ([0] : List Nat) ≠ [] := by decide
  have ending : ∀ c ∈ ([] : List Char).head?, digit? c = none ∧ c ≠ '.' := by simp
  have plain : scan? (signText negative ++ (Numeral.digits n ++ [])) = some ⟨negative, n, 0⟩ := by
    rw [scan?_whole hne hds negative ending, hvalue]
    rfl
  match point with
  | .negSucc k =>
    -- Zeros stand between the point and the digits.
    have fraction := Numeral.digitValues?_append (Numeral.digitValues?_zeroDigits (k + 1)) hds
    have read := scan?_fraction one zero negative fraction fun c hc => (ending c hc).1
    rw [List.append_nil] at read
    refine read.trans ?_
    have value : Numeral.value ([0] ++ (List.replicate (k + 1) 0 ++ ds)) = n := by
      rw [← List.append_assoc, ← hvalue]
      exact Numeral.value_replicate_zero_append (k + 2) ds
    simp only [exponentEnd?, Option.map_some, value, List.length_append, List.length_replicate,
      hlength, Option.some.injEq, Decimal.mk.injEq, true_and]
    omega
  | 0 =>
    have read := scan?_fraction one zero negative hds fun c hc => (ending c hc).1
    rw [List.append_nil] at read
    refine read.trans ?_
    have value : Numeral.value ([0] ++ ds) = n := by
      rw [← hvalue]
      exact Numeral.value_replicate_zero_append 1 ds
    simp only [exponentEnd?, Option.map_some, value, hlength]
  | .ofNat (k + 1) =>
    by_cases hk : k + 1 < (Numeral.digits n).length
    · -- The point is among the digits.
      have split := List.take_append_drop (k + 1) (Numeral.digits n)
      rw [← split] at hds
      obtain ⟨whole, fraction, hwhole, hfraction, rfl⟩ := Numeral.exists_of_digitValues?_append hds
      have lengthWhole := Numeral.length_of_digitValues? hwhole
      have lengthFraction := Numeral.length_of_digitValues? hfraction
      rw [List.length_take] at lengthWhole
      rw [List.length_drop] at lengthFraction
      have wholeNe : whole ≠ [] := List.length_pos_iff.1 (by omega)
      have read := scan?_fraction wholeNe hwhole negative hfraction fun c hc => (ending c hc).1
      rw [List.append_nil] at read
      have laidOut : positional (Numeral.digits n) (.ofNat (k + 1)) =
          (Numeral.digits n).take (k + 1) ++ '.' :: (Numeral.digits n).drop (k + 1) := if_pos hk
      rw [laidOut, read]
      simp only [exponentEnd?, Option.map_some, hvalue, lengthFraction, Option.some.injEq,
        Decimal.mk.injEq, true_and, Int.ofNat_eq_natCast]
      omega
    · have laidOut : positional (Numeral.digits n) (.ofNat (k + 1)) =
          Numeral.digits n ++ zeroDigits (k + 1 - (Numeral.digits n).length) := if_neg hk
      have point : ((k + 1 : Nat) : Int) = (Numeral.digits n).length := by
        rw [Int.ofNat_eq_natCast] at h
        omega
      rw [laidOut, Nat.sub_eq_zero_of_le (by omega)]
      refine plain.trans ?_
      rw [Int.ofNat_eq_natCast, point, Int.sub_self]

/-- A number that is written with an exponent. -/
theorem scan?_pointed (negative : Bool) (n : Nat) (e : Int) :
    scan? (signText negative ++ (pointed (Numeral.digits n) ++ 'E' :: exponentText e)) =
      some ⟨negative, n, e - ((Numeral.digits n).length - 1)⟩ := by
  obtain ⟨ds, hds, hvalue, hlength⟩ := Numeral.digits_values n
  have hne : ds ≠ [] := List.length_pos_iff.1 (hlength ▸ Numeral.length_digits_pos n)
  have exponent : ∀ c ∈ ('E' :: exponentText e).head?, digit? c = none ∧ c ≠ '.' := by
    intro c hc
    obtain rfl := Option.some.inj hc
    decide
  match hn : Numeral.digits n with
  | [] => exact absurd hn (Numeral.digits_ne_nil n)
  | [c] =>
    rw [hn] at hds
    rw [pointed]
    · rw [scan?_whole hne hds negative exponent, exponentEnd?_exponentText, hvalue]
      simp
    · simp
  | c :: r :: rest =>
    -- The first digit is ahead of the point.
    rw [hn] at hds hlength
    obtain ⟨whole, fraction, hwhole, hfraction, rfl⟩ := Numeral.exists_of_digitValues?_append
      (show Numeral.digitValues? ([c] ++ r :: rest) = some ds from hds)
    have lengthWhole : whole.length = 1 := Numeral.length_of_digitValues? hwhole
    have wholeNe : whole ≠ [] := List.length_pos_iff.1 (by omega)
    have read := scan?_fraction wholeNe hwhole negative hfraction fun c hc => (exponent c hc).1
    rw [exponentEnd?_exponentText, hvalue] at read
    refine read.trans ?_
    rw [List.length_append, lengthWhole] at hlength
    simp only [Option.map_some, Option.some.injEq, Decimal.mk.injEq, true_and]
    omega

/-- Every decimal number is read back from its text, with its sign, its digits and its exponent. -/
theorem scan?_text (d : Decimal) : scan? (signText d.negative ++ d.unsignedText) = some d := by
  obtain ⟨negative, n, exponent⟩ := d
  unfold unsignedText
  split
  · next plain =>
    rw [scan?_positional negative n (by simp only at plain ⊢; omega)]
    simp
  · rw [scan?_pointed]
    simp only [adjusted, Option.some.injEq, Decimal.mk.injEq, true_and]
    omega

/-! ## Characters of a text -/

/-- A character of the text of a number. -/
def IsNumberChar (c : Char) : Prop :=
  c.isDigit ∨ c ∈ ['-', '+', '.', 'E']

theorem isNumberChar_of_mem_digits {n : Nat} : ∀ c ∈ Numeral.digits n, IsNumberChar c :=
  fun _ hc => .inl (Numeral.isDigit_of_mem_digits hc)

theorem isNumberChar_of_mem_zeroDigits {k : Nat} : ∀ c ∈ zeroDigits k, IsNumberChar c :=
  fun _ hc => .inl (List.eq_of_mem_replicate hc ▸ rfl)

theorem isNumberChar_of_mem_positional {point : Int} (h : ∀ c ∈ cs, IsNumberChar c) :
    ∀ c ∈ positional cs point, IsNumberChar c := by
  have zero : IsNumberChar '0' := .inl rfl
  have dot : IsNumberChar '.' := .inr (by decide)
  unfold positional
  split
  · next k =>
    simp only [List.cons_append, List.forall_mem_cons, List.forall_mem_append]
    exact ⟨zero, dot, isNumberChar_of_mem_zeroDigits, h⟩
  · simp only [List.forall_mem_cons]
    exact ⟨zero, dot, h⟩
  · split
    · simp only [List.forall_mem_append, List.forall_mem_cons]
      exact ⟨fun c hc => h c (List.mem_of_mem_take hc), dot,
        fun c hc => h c (List.mem_of_mem_drop hc)⟩
    · rw [List.forall_mem_append]
      exact ⟨h, isNumberChar_of_mem_zeroDigits⟩

theorem isNumberChar_of_mem_pointed (h : ∀ c ∈ cs, IsNumberChar c) :
    ∀ c ∈ pointed cs, IsNumberChar c := by
  have dot : IsNumberChar '.' := .inr (by decide)
  unfold pointed
  split
  · simp only [List.forall_mem_cons] at h ⊢
    exact ⟨h.1, dot, h.2⟩
  · exact h

theorem isNumberChar_of_mem_exponentText {e : Int} : ∀ c ∈ exponentText e, IsNumberChar c := by
  cases e with
  | ofNat n => exact List.forall_mem_cons.2 ⟨.inr (by decide), isNumberChar_of_mem_digits⟩
  | negSucc n => exact List.forall_mem_cons.2 ⟨.inr (by decide), isNumberChar_of_mem_digits⟩

/-- The text of a number has no other characters. -/
theorem isNumberChar_of_mem_text (d : Decimal) :
    ∀ c ∈ signText d.negative ++ d.unsignedText, IsNumberChar c := by
  rw [List.forall_mem_append]
  constructor
  · cases d.negative with
    | true => exact List.forall_mem_singleton.2 (.inr (by decide))
    | false => exact fun _ hc => absurd hc List.not_mem_nil
  · unfold unsignedText
    split
    · exact isNumberChar_of_mem_positional isNumberChar_of_mem_digits
    · simp only [List.forall_mem_append, List.forall_mem_cons]
      exact ⟨isNumberChar_of_mem_pointed isNumberChar_of_mem_digits, .inr (by decide),
        isNumberChar_of_mem_exponentText⟩

theorem IsNumberChar.not_blank {c : Char} (h : IsNumberChar c) : isBlank c = false := by
  rcases h with hdigit | hother
  · exact isBlank_of_isDigit hdigit
  · simp only [List.mem_cons, List.not_mem_nil, or_false] at hother
    rcases hother with rfl | rfl | rfl | rfl <;> rfl

theorem not_isNumberChar_sign : ¬ IsNumberChar '%' ∧ ¬ IsNumberChar '_' := by
  unfold IsNumberChar
  decide

end Decimal

end VestingTable
