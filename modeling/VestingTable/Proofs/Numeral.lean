import Mathlib.Data.List.Forall2
import Mathlib.Data.List.Induction
import Mathlib.Data.Nat.Digits.Defs
import Mathlib.Tactic.Common
import VestingTable.Numeral
import VestingTable.Text.Blank

/-!
# The digits of a number

* `Numeral.head?_digits_ne`: no number but zero is written with a zero in front;
* `Numeral.digits_mul_tenTo`: a power of ten puts zeros behind.
-/

namespace VestingTable

/-- A list is read item by item. -/
theorem forall₂_of_mapM_eq_some {α β : Type} {f : α → Option β} {as : List α} {bs : List β}
    (h : as.mapM f = some bs) : List.Forall₂ (fun a b => f a = some b) as bs := by
  induction as generalizing bs with
  | nil =>
    obtain rfl : [] = bs := Option.some.inj h
    exact .nil
  | cons a as ih =>
    simp only [List.mapM_cons, Option.bind_eq_bind, Option.bind_eq_some_iff] at h
    obtain ⟨b, hb, rest, hrest, heq⟩ := h
    obtain rfl := Option.some.inj heq
    exact .cons hb (ih hrest)

theorem exists_of_mem_mapM {α β : Type} {f : α → Option β} {as : List α} {bs : List β}
    (h : as.mapM f = some bs) {b : β} (hb : b ∈ bs) : ∃ a, f a = some b := by
  have read := forall₂_of_mapM_eq_some h
  clear h
  induction read with
  | nil => exact absurd hb List.not_mem_nil
  | cons ha _ ih =>
    rcases List.mem_cons.1 hb with rfl | hb
    · exact ⟨_, ha⟩
    · exact ih hb

namespace Text

theorem toNat_of_isDigit {c : Char} (h : c.isDigit) : 0x30 ≤ c.toNat ∧ c.toNat ≤ 0x39 := by
  simpa [Char.isDigit, UInt32.le_iff_toNat_le] using h

theorem isBlank_of_isDigit {c : Char} (h : c.isDigit) : isBlank c = false := by
  have digit := toNat_of_isDigit h
  rw [Bool.eq_false_iff, isBlank, ne_eq, Ranges.contains_iff]
  rintro ⟨range, hrange, hlow, hhigh⟩
  simp only [blanks, List.mem_cons, List.not_mem_nil, or_false] at hrange
  rcases hrange with rfl | rfl | rfl | rfl | rfl | rfl | rfl | rfl | rfl | rfl <;>
    simp only at hlow hhigh <;> omega

end Text

namespace Numeral

theorem isDigit_of_mem_digits {n : Nat} {c : Char} (h : c ∈ digits n) : c.isDigit :=
  Nat.isDigit_of_mem_toDigits (by decide) (by decide) h

theorem digits_ne_nil (n : Nat) : digits n ≠ [] :=
  Nat.toDigits_ne_nil

theorem length_digits_pos (n : Nat) : 0 < (digits n).length :=
  List.length_pos_iff.2 (digits_ne_nil n)

theorem length_digits_le {n k : Nat} (hk : 0 < k) (h : n < tenTo k) : (digits n).length ≤ k :=
  (Nat.length_toDigits_le_iff (by decide) hk).2 h

theorem digits_of_ten_le {n : Nat} (h : 10 ≤ n) :
    digits n = digits (n / 10) ++ [Nat.digitChar (n % 10)] :=
  Nat.toDigits_of_base_le (by decide) h

/-- Only the numeral of zero starts with a zero. -/
theorem head?_digits_ne {n : Nat} (h : 0 < n) : (digits n).head? ≠ some '0' := by
  induction n using Nat.strongRecOn with
  | ind n ih =>
    -- All but the last digit are those of the tenth part.
    by_cases hn : n < 10
    · have digitChar_ne : ∀ d < 10, 0 < d → some (Nat.digitChar d) ≠ some '0' := by decide
      rw [digits, Nat.toDigits_of_lt_base hn]
      exact digitChar_ne n hn h
    · rw [digits_of_ten_le (Nat.not_lt.1 hn), List.head?_append_of_ne_nil _ (digits_ne_nil _)]
      exact ih (n / 10) (by omega) (by omega)

theorem length_of_digitValues? {cs : List Char} {ds : List Nat} (h : digitValues? cs = some ds) :
    ds.length = cs.length :=
  (forall₂_of_mapM_eq_some h).length_eq.symm

theorem lt_ten_of_digitValues? {cs : List Char} {ds : List Nat} (h : digitValues? cs = some ds) :
    ∀ d ∈ ds, d < 10 := by
  intro d hd
  obtain ⟨c, hc⟩ := exists_of_mem_mapM h hd
  exact Text.digit?_lt_ten hc

theorem digits_values (n : Nat) :
    ∃ ds, digitValues? (digits n) = some ds ∧ value ds = n ∧ ds.length = (digits n).length := by
  obtain ⟨ds, hds, hvalue⟩ := digitValues?_digits n
  exact ⟨ds, hds, hvalue, length_of_digitValues? hds⟩

theorem tenTo_le {j k : Nat} (h : j ≤ k) : tenTo j ≤ tenTo k :=
  Nat.pow_le_pow_right (by decide) h

theorem tenTo_succ (k : Nat) : tenTo (k + 1) = tenTo k * 10 :=
  rfl

/-- So many digits make a number below that power of ten. -/
theorem value_lt_tenTo {ds : List Nat} (h : ∀ d ∈ ds, d < 10) : value ds < tenTo ds.length := by
  induction ds using List.reverseRecOn with
  | nil => decide
  | append_singleton ds d ih =>
    have last := h d (List.mem_append_right _ List.mem_cons_self)
    have front := ih fun e he => h e (List.mem_append_left _ he)
    rw [value_append_singleton, List.length_append, List.length_singleton, tenTo_succ]
    omega

/-- A power of ten puts zeros behind a number. -/
theorem digits_mul_tenTo {n : Nat} (h : 0 < n) (k : Nat) :
    digits (n * tenTo k) = digits n ++ List.replicate k '0' := by
  induction k with
  | zero => rw [show tenTo 0 = 1 from rfl, Nat.mul_one, List.replicate_zero, List.append_nil]
  | succ k ih =>
    have pos : 0 < n * tenTo k := Nat.mul_pos h (tenTo_pos k)
    rw [tenTo_succ, ← Nat.mul_assoc, digits_of_ten_le (by omega), Nat.mul_div_cancel _ (by decide),
      Nat.mul_mod_left, ih, List.replicate_succ', List.append_assoc]
    rfl

end Numeral

end VestingTable
