import Mathlib.Data.List.Basic
import Mathlib.Data.List.TakeDrop
import Mathlib.Data.List.TakeWhile
import Mathlib.Tactic.Common
import VestingTable.Json.Lax
import VestingTable.Proofs.Numeral

/-!
# Numerals in JSON

The numeral of an integer is read back in both ways that it is written: as a
bare token (`Json.bareToken?_signedDigits`), and as a text that stands for the
integer (`Json.textInteger_ofNat`). Both need that it has no leading zero and is
not too long.
-/

namespace VestingTable

namespace Json

/-! ## Bare numerals -/

theorem isPlain_digits (n : Nat) : isPlain (Numeral.digits n) = true := by
  rcases Nat.eq_zero_or_pos n with rfl | hn
  · rfl
  · have head := Numeral.head?_digits_ne hn
    have digit := fun c => Numeral.isDigit_of_mem_digits (n := n) (c := c)
    cases hd : Numeral.digits n with
    | nil => exact absurd hd (Numeral.digits_ne_nil n)
    | cons d ds =>
      rw [hd] at head digit
      have hz : d ≠ '0' := fun h => head (by rw [h]; rfl)
      -- The zero alone is a case of its own, which the first digit excludes.
      unfold isPlain
      split
      · contradiction
      · rfl
      · next heq =>
        obtain ⟨rfl, rfl⟩ := List.cons_eq_cons.1 heq
        simp only [ne_eq, hz, not_false_eq_true, decide_true, Bool.true_and, List.all_eq_true]
        exact digit

theorem spanDigits_of_all {cs : List Char} (h : ∀ c ∈ cs, c.isDigit) : spanDigits cs = (cs, []) := by
  rw [spanDigits, List.takeWhile_eq_self_iff.2 h, List.dropWhile_eq_nil_iff.2 h]

/-- The numeral of a number that can be written is that of the number. -/
theorem integer?_digits {n : Nat} (negative : Bool) (h : Numeral.Fits n) :
    integer? negative (Numeral.digits n) =
      some (if negative then -Int.ofNat n else Int.ofNat n) := by
  have short : (Numeral.digits n).length ≤ Numeral.maxDigits :=
    Numeral.length_digits_le (by decide) h
  obtain ⟨values, hvalues, hvalue⟩ := Numeral.digitValues?_digits n
  rw [integer?, isWhole, isPlain_digits, decide_eq_true short, hvalues, Option.map_some, hvalue]
  rfl

/-- Digits do not start with another character, such as a name or a sign does. -/
theorem ne_cons_of_isDigit {cs more : List Char} {c : Char} (h : ∀ d ∈ cs, d.isDigit)
    (hc : c.isDigit = false) : cs ≠ c :: more := by
  rintro rfl
  have digit := h c List.mem_cons_self
  rw [hc] at digit
  exact absurd digit (by simp)

theorem numberToken?_digits {n : Nat} (negative : Bool) (h : Numeral.Fits n) :
    numberToken? negative (Numeral.digits n) [] =
      some (.integer (if negative then -Int.ofNat n else Int.ofNat n)) := by
  rw [numberToken?, List.isEmpty_nil, if_pos rfl, integer?_digits negative h, Option.map_some]

/-- The numeral of an integer that can be written is read back as a bare token. -/
theorem bareToken?_signedDigits {n : Int} (h : Numeral.Fits n) :
    bareToken? (Numeral.signedDigits n) = some (.integer n) := by
  cases n with
  | ofNat n =>
    have digit := fun c => Numeral.isDigit_of_mem_digits (n := n) (c := c)
    have starts {c : Char} {cs : List Char} (hc : c.isDigit = false) :
        Numeral.digits n ≠ c :: cs := ne_cons_of_isDigit digit hc
    rw [Numeral.signedDigits, bareToken?.eq_2 _ fun _ => starts rfl, if_neg (starts rfl),
      if_neg (starts rfl), if_neg (starts rfl), if_neg (starts rfl), if_neg (starts rfl),
      spanDigits_of_all digit]
    exact numberToken?_digits false h
  | negSucc n =>
    have digit := fun c => Numeral.isDigit_of_mem_digits (n := n + 1) (c := c)
    rw [Numeral.signedDigits, bareToken?, if_neg (by simp), if_neg (by simp), if_neg (by simp),
      if_neg (by simp), if_neg (by simp)]
    rw [if_neg (ne_cons_of_isDigit digit rfl), spanDigits_of_all digit]
    exact numberToken?_digits true h

/-! ## Numerals in texts -/

theorem isOuterBlank_of_isDigit {c : Char} (h : c.isDigit) : isOuterBlank c = false := by
  rw [isOuterBlank, Text.isBlank_of_isDigit h, Bool.false_and]

theorem trimOuter_of_digits {cs : List Char} (h : ∀ c ∈ cs, c.isDigit) : trimOuter cs = cs := by
  have start : cs.dropWhile isOuterBlank = cs :=
    Text.dropWhile_eq_self_iff.2 fun c hc => isOuterBlank_of_isDigit (h c (List.mem_of_mem_head? hc))
  rw [trimOuter, start, Text.dropEnd_eq_self_iff]
  exact fun c hc => isOuterBlank_of_isDigit (h c (List.mem_of_getLast? hc))

theorem hasDoubleMark_of_not_mem {cs : List Char} (h : '_' ∉ cs) : hasDoubleMark cs = false := by
  induction cs with
  | nil => rfl
  | cons c cs ih =>
    cases cs with
    | nil => rfl
    | cons d cs =>
      have hc : c ≠ '_' := fun hc => h (by simp [hc])
      rw [hasDoubleMark, ih fun hmem => h (List.mem_cons_of_mem _ hmem)]
      simp [hc]

theorem ungrouped?_of_not_mem {cs : List Char} (h : '_' ∉ cs) : ungrouped? cs = some cs := by
  have head : cs.head? ≠ some '_' := fun hc => h (List.mem_of_mem_head? hc)
  have last : cs.getLast? ≠ some '_' := fun hc => h (List.mem_of_getLast? hc)
  rw [ungrouped?, hasDoubleMark_of_not_mem h, if_neg (by simp [head, last]), List.filter_eq_self.2]
  intro c hc
  simpa using fun hm : c = '_' => h (hm ▸ hc)

theorem whole?_of_not_mem {cs : List Char} (h : '.' ∉ cs) : whole? cs = some cs := by
  have all : ∀ c ∈ cs, decide (c ≠ '.') = true := fun c hc => by
    simpa using fun hm : c = '.' => h (hm ▸ hc)
  rw [whole?, List.span_eq_takeWhile_dropWhile, List.takeWhile_eq_self_iff.2 all,
    List.dropWhile_eq_nil_iff.2 all]

/-- The numeral of a number has no padding; the zero is all that zero has. -/
theorem unpadded?_digits (n : Nat) : unpadded? (Numeral.digits n) = some (Numeral.digits n) := by
  rcases Nat.eq_zero_or_pos n with rfl | hn
  · rfl
  · have head := Numeral.head?_digits_ne hn
    have digit := fun c => Numeral.isDigit_of_mem_digits (n := n) (c := c)
    cases hd : Numeral.digits n with
    | nil => exact absurd hd (Numeral.digits_ne_nil n)
    | cons d ds =>
      rw [hd] at head digit
      have hz : d ≠ '0' := fun h => head (by rw [h]; rfl)
      rw [unpadded?, if_neg hz, if_pos (digit d List.mem_cons_self)]

/-- The numeral of a number that can be written stands for the number. -/
theorem textInteger_ofNat {n : Nat} (h : Numeral.Fits n) :
    textInteger (Numeral.ofNat n) = .valid n := by
  have digit := fun c => Numeral.isDigit_of_mem_digits (n := n) (c := c)
  have unsigned {c : Char} {cs : List Char} (hc : c.isDigit = false) :
      Numeral.digits n ≠ c :: cs := ne_cons_of_isDigit digit hc
  have short : (Numeral.digits n).length ≤ Numeral.maxDigits :=
    Numeral.length_digits_le (by decide) h
  have toList : (Numeral.ofNat n).toList = Numeral.digits n := String.toList_ofList
  have notTooLong : startsTooLong (Numeral.ofNat n) = false := by
    rw [startsTooLong, toList]
    split
    · next heq => exact absurd heq (unsigned rfl)
    · simp only [spanDigits_of_all digit, Nat.not_lt.2 short, decide_false, Bool.and_false]
  have read : looseInteger? (Numeral.ofNat n) = some (n : Int) := by
    have noMark (c : Char) (hc : c.isDigit = false) : c ∉ Numeral.digits n := fun hmem =>
      absurd (digit c hmem) (by simp [hc])
    have noSign : Decimal.spanSign (Numeral.digits n) = (false, Numeral.digits n) :=
      Decimal.spanSign.eq_3 _ (fun _ => unsigned rfl) fun _ => unsigned rfl
    rw [looseInteger?, toList, trimOuter_of_digits digit, noSign]
    simp only [unpadded?_digits, whole?_of_not_mem (noMark '.' rfl),
      ungrouped?_of_not_mem (noMark '_' rfl), Option.bind_eq_bind, Option.bind_some]
    rw [signed?.eq_2 _ _ fun _ => unsigned rfl]
    exact integer?_digits false h
  rw [textInteger, notTooLong, read]
  rfl

end Json

end VestingTable
