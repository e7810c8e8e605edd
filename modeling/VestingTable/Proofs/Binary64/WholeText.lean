import Mathlib.Data.List.TakeWhile
import VestingTable.Binary64.Shortest
import VestingTable.Proofs.Binary64.Whole
import VestingTable.Proofs.Numeral

/-!
# Texts of whole binary64 numbers

The text of a number is found by a search: for one digit, two digits and so on,
the decimal numbers around it are read back. For a whole number up to `2 ^ 53`
no decimal number reads back but the number itself, and it does when all of its
digits are there, so the text is its numeral with an empty fraction behind it
(`Magnitude.text_of_toNat?`). Sixteen digits, as a spreadsheet stores them, hold
all of the number as well (`Magnitude.rounded_of_toNat?`).
-/

namespace VestingTable

namespace Text

/-- What was dropped from the end is made of the characters of the class. -/
theorem dropEnd_append_replicate (c : Char) (cs : List Char) :
    dropEnd (· = c) cs ++ List.replicate (cs.length - (dropEnd (· = c) cs).length) c = cs := by
  have dropped : cs.reverse.takeWhile (· = c) =
      List.replicate (cs.reverse.takeWhile (· = c)).length c :=
    List.eq_replicate_iff.2 ⟨rfl, fun d hd =>
      of_decide_eq_true (p := d = c) (List.mem_takeWhile_imp (p := (· = c)) hd)⟩
  have split : (cs.reverse.takeWhile (· = c) ++ cs.reverse.dropWhile (· = c)).reverse = cs := by
    rw [List.takeWhile_append_dropWhile, List.reverse_reverse]
  have length : cs.length - (dropEnd (· = c) cs).length =
      (cs.reverse.takeWhile (· = c)).length := by
    have := congrArg List.length split
    simp only [List.length_reverse, List.length_append] at this
    rw [dropEnd, List.length_reverse]
    omega
  rw [length, ← List.reverse_replicate, ← dropped, dropEnd, ← List.reverse_append, split]

/-- A point behind all digits is left out, and zeros stand up to its place. -/
theorem positional_of_length_le {ds : List Char} {point : Nat} (hp : 0 < point)
    (h : ds.length ≤ point) : positional ds point = ds ++ zeroDigits (point - ds.length) := by
  cases point with
  | zero => exact absurd hp (Nat.lt_irrefl 0)
  | succ k =>
    show (if k + 1 < ds.length then _ else ds ++ zeroDigits (k + 1 - ds.length)) = _
    rw [if_neg (Nat.not_lt.2 h)]

end Text

namespace Binary64.Magnitude

variable {m : Magnitude} {n : Nat}

theorem mantissa_eq_zero_iff (h : m.toNat? = some n) : m.mantissa = 0 ↔ n = 0 := by
  have hsteps : m.mantissa * twoTo m.scale = n * stepsInOne := toNat?_eq_some_iff.1 h
  constructor
  · intro hm
    rw [hm, Nat.zero_mul] at hsteps
    exact (Nat.mul_eq_zero.1 hsteps.symm).resolve_right (Nat.ne_of_gt stepsInOne_pos)
  · intro hn
    rw [hn, Nat.zero_mul] at hsteps
    exact (Nat.mul_eq_zero.1 hsteps).resolve_right (Nat.ne_of_gt (twoTo_pos _))

/-- The point of a whole number is behind its digits. -/
theorem point_of_toNat? (h : m.toNat? = some n) (hn : 0 < n) :
    m.point = (Numeral.digits n).length := by
  rw [point, toNat?_eq_some_iff.1 h, ← Nat.mul_assoc, Nat.mul_div_cancel _ stepsInOne_pos,
    Nat.mul_comm, Numeral.digits_mul_tenTo hn, List.length_append, List.length_replicate]
  omega

theorem inUnits_ofNat (h : m.toNat? = some n) (j : Nat) :
    m.inUnits (Int.ofNat j) = (n * stepsInOne, Numeral.tenTo j * stepsInOne) := by
  rw [inUnits, toNat?_eq_some_iff.1 h, Nat.mul_comm stepsInOne]

/-! ## Decimal numbers that read back -/

/-- No whole number up to `2 ^ 53` has more than sixteen digits. -/
theorem length_digits_le_sixteen (h : n ≤ twoTo 53) : (Numeral.digits n).length ≤ 16 :=
  Numeral.length_digits_le (by decide) (Nat.lt_of_le_of_lt h (by decide))

theorem toBinary64_ofNat {c j : Nat} (hc : 0 < c) (hlength : (Numeral.digits c).length ≤ 16)
    (hj : j ≤ 16) :
    Decimal.toBinary64 ⟨false, c, Int.ofNat j⟩ = nearest false (c * Numeral.tenTo j) 1 := by
  have pos := Numeral.length_digits_pos c
  have adjusted : (⟨false, c, Int.ofNat j⟩ : Decimal).adjusted =
      (j : Int) + (Numeral.digits c).length - 1 := rfl
  rw [Decimal.toBinary64, if_neg (by rw [adjusted]; simp only; omega),
    if_neg (by rw [adjusted]; omega)]

/-- A whole decimal number that is not too long reads back as what it is rounded to. -/
theorem readsBack_ofNat_iff {c j : Nat} (hc : 0 < c) (hlength : (Numeral.digits c).length ≤ 16)
    (hj : j ≤ 16) : m.ReadsBack c (Int.ofNat j) ↔ nearest? (c * Numeral.tenTo j) 1 = some m := by
  unfold ReadsBack
  rw [toBinary64_ofNat hc hlength hj, nearest_eq_finite_iff]

/-- The multiples of a power of ten around a whole number that read back are the number itself. -/
theorem eq_of_readsBack (h : m.toNat? = some n) (hn : 0 < n) (hle : n ≤ twoTo 53) {c j : Nat}
    (hj : j ≤ 16) (hc : c = n / Numeral.tenTo j ∨ c = n / Numeral.tenTo j + 1)
    (next : c * Numeral.tenTo j ≠ twoTo 53 + 1) (back : m.ReadsBack c (Int.ofNat j)) :
    c * Numeral.tenTo j = n := by
  have le : n / Numeral.tenTo j ≤ n := Nat.div_le_self _ _
  have small : twoTo 53 + 1 < Numeral.tenTo 16 := by decide
  have length : (Numeral.digits c).length ≤ 16 := Numeral.length_digits_le (by decide) (by omega)
  rcases Nat.eq_zero_or_pos c with rfl | pos
  · -- A zero reads back as zero only.
    have zero : Binary64.finite false Magnitude.zero = .finite false m := back
    cases zero
    exact absurd ((mantissa_eq_zero_iff h).1 rfl) (Nat.ne_of_gt hn)
  · exact eq_of_nearest? next ((readsBack_ofNat_iff pos length hj).1 back) h hle

/-- All digits of a whole number read back as the number, and no others are tried before them. -/
theorem neighbours_whole (h : m.toNat? = some n) : m.neighbours (Int.ofNat 0) = [n, n + 1] := by
  have exact : roundHalfEven (n * stepsInOne) (Numeral.tenTo 0 * stepsInOne) = n := by
    rw [show Numeral.tenTo 0 = 1 from rfl, Nat.one_mul,
      roundHalfEven_of_dvd stepsInOne_pos (Nat.dvd_mul_left ..), Nat.mul_div_cancel _ stepsInOne_pos]
  have below : n * stepsInOne / (Numeral.tenTo 0 * stepsInOne) = n := by
    rw [show Numeral.tenTo 0 = 1 from rfl, Nat.one_mul, Nat.mul_div_cancel _ stepsInOne_pos]
  rw [neighbours, inUnits_ofNat h]
  simp only [exact, below, if_true]

theorem mem_neighbours (h : m.toNat? = some n) {c j : Nat} (hc : c ∈ m.neighbours (Int.ofNat j)) :
    c = n / Numeral.tenTo j ∨ c = n / Numeral.tenTo j + 1 := by
  rw [neighbours, inUnits_ofNat h] at hc
  simp only [Nat.mul_div_mul_right _ _ stepsInOne_pos] at hc
  split at hc <;> simp only [List.mem_cons, List.not_mem_nil, or_false] at hc
  · exact hc
  · exact hc.symm

theorem readsBack_whole (h : m.toNat? = some n) (hn : 0 < n) (hle : n ≤ twoTo 53) :
    m.ReadsBack n (Int.ofNat 0) := by
  rw [readsBack_ofNat_iff hn (length_digits_le_sixteen hle) (Nat.zero_le _)]
  rw [show Numeral.tenTo 0 = 1 from rfl, Nat.mul_one]
  exact nearest?_of_toNat? h

theorem find?_neighbours_whole (h : m.toNat? = some n) (hn : 0 < n) (hle : n ≤ twoTo 53) :
    (m.neighbours (Int.ofNat 0)).find? (fun c => decide (m.ReadsBack c (Int.ofNat 0))) = some n := by
  have back := decide_eq_true (readsBack_whole h hn hle)
  rw [neighbours_whole h]
  simp only [List.find?_cons, back]

/-- The decimal number that the search tries for so many digits, if one reads back. -/
def tried (m : Magnitude) (k : Nat) : Option (Nat × Int) :=
  let exponent := m.point - Int.ofNat (k + 1)
  ((m.neighbours exponent).find? fun c => decide (m.ReadsBack c exponent)).map (·, exponent)

/-- What is found with no more digits than a whole number has is the number. -/
theorem eq_of_tried (h : m.toNat? = some n) (hn : 0 < n) (hle : n ≤ twoTo 53) {k : Nat}
    (hk : k < (Numeral.digits n).length) {c : Nat} {e : Int} (found : m.tried k = some (c, e)) :
    ∃ j : Nat, e = j ∧ c * Numeral.tenTo j = n := by
  have length := length_digits_le_sixteen hle
  have exponent : m.point - Int.ofNat (k + 1) =
      Int.ofNat ((Numeral.digits n).length - (k + 1)) := by
    rw [point_of_toNat? h hn]
    simp only [Int.ofNat_eq_natCast]
    omega
  simp only [tried, exponent, Option.map_eq_some_iff, Prod.mk.injEq] at found
  obtain ⟨c', hc', rfl, rfl⟩ := found
  refine ⟨_, rfl, ?_⟩
  have le : (Numeral.digits n).length - (k + 1) ≤ 16 := by omega
  generalize (Numeral.digits n).length - (k + 1) = j at hc' le
  have back := List.find?_some hc'
  rw [decide_eq_true_eq] at back
  cases j with
  | zero =>
    rw [find?_neighbours_whole h hn hle] at hc'
    rw [← Option.some.inj hc']
    exact Nat.mul_one n
  | succ j =>
    -- The number that is rounded to `2 ^ 53` although it is another one is not a multiple of ten.
    have next : c' * Numeral.tenTo (j + 1) ≠ twoTo 53 + 1 := by
      rw [Numeral.tenTo_succ, ← Nat.mul_assoc, show twoTo 53 + 1 = 9007199254740993 from rfl]
      omega
    exact eq_of_readsBack h hn hle le (mem_neighbours h (List.mem_of_find?_eq_some hc')) next back

/-- The search stops when all digits of a whole number are there. -/
theorem tried_length (h : m.toNat? = some n) (hn : 0 < n) (hle : n ≤ twoTo 53) :
    m.tried ((Numeral.digits n).length - 1) = some (n, Int.ofNat 0) := by
  have pos := Numeral.length_digits_pos n
  have exponent : m.point - Int.ofNat ((Numeral.digits n).length - 1 + 1) = Int.ofNat 0 := by
    rw [point_of_toNat? h hn]
    simp only [Int.ofNat_eq_natCast]
    omega
  simp only [tried, exponent, find?_neighbours_whole h hn hle, Option.map_some]

/-- The shortest decimal number that reads back as a whole number is the number. -/
theorem shortest_of_toNat? (h : m.toNat? = some n) (hn : 0 < n) (hle : n ≤ twoTo 53) :
    ∃ c j, m.shortest = (c, Int.ofNat j) ∧ c * Numeral.tenTo j = n := by
  have pos := Numeral.length_digits_pos n
  have length := length_digits_le_sixteen hle
  have last := tried_length h hn hle
  have search : m.shortest = ((List.range 17).findSome? m.tried).getD (m.rounded 17) := rfl
  cases found : (List.range 17).findSome? m.tried with
  | none =>
    have none := List.findSome?_eq_none_iff.1 found ((Numeral.digits n).length - 1)
      (List.mem_range.2 (by omega))
    rw [last] at none
    contradiction
  | some pair =>
    -- It is found with as many digits as the number has, or earlier.
    obtain ⟨ahead, k, behind, hrange, hk, hahead⟩ := List.findSome?_eq_some_iff.1 found
    have place : k = ahead.length := by
      have : (List.range 17)[ahead.length]? = some k := by rw [hrange]; simp
      exact (List.getElem_of_getElem? this).2.symm.trans (List.getElem_range _)
    have before : k < (Numeral.digits n).length := by
      refine Nat.lt_of_not_le fun hle => ?_
      have lt : (Numeral.digits n).length - 1 < ahead.length := by omega
      have : (List.range 17)[(Numeral.digits n).length - 1]? = some ((Numeral.digits n).length - 1) :=
        List.getElem?_range (by omega)
      rw [hrange, List.getElem?_append_left lt] at this
      rw [hahead _ (List.mem_of_getElem? this)] at last
      contradiction
    obtain ⟨j, he, hc⟩ := eq_of_tried h hn hle before hk
    exact ⟨pair.1, j, by rw [search, found]; exact Prod.ext rfl he, hc⟩

/-! ## Texts -/

/-- The digits of a whole number without the last zeros, which stand up to the point again. -/
theorem positional_significant {c j : Nat} (hc : 0 < c) :
    Text.positional (Text.dropEnd (· = '0') (Numeral.digits c))
        (Int.ofNat (j + (Numeral.digits c).length)) =
      Numeral.digits (c * Numeral.tenTo j) := by
  have short := Text.length_dropEnd_le (· = '0') (Numeral.digits c)
  have pos := Numeral.length_digits_pos c
  have zeros : j + (Numeral.digits c).length - (Text.dropEnd (· = '0') (Numeral.digits c)).length =
      (Numeral.digits c).length - (Text.dropEnd (· = '0') (Numeral.digits c)).length + j := by omega
  rw [Numeral.digits_mul_tenTo hc, Int.ofNat_eq_natCast,
    Text.positional_of_length_le (by omega) (by omega), Text.zeroDigits, zeros,
    List.replicate_add, ← List.append_assoc, Text.dropEnd_append_replicate]

/-- The text of a whole number is its numeral and an empty fraction. -/
theorem text_of_toNat? (h : m.toNat? = some n) (hle : n ≤ twoTo 53) :
    m.text = Numeral.digits n ++ ['.', '0'] := by
  rcases Nat.eq_zero_or_pos n with rfl | hn
  · rw [text, if_pos ((mantissa_eq_zero_iff h).2 rfl)]
    rfl
  · obtain ⟨c, j, hshortest, rfl⟩ := shortest_of_toNat? h hn hle
    have hc : 0 < c := Nat.pos_of_mul_pos_right hn
    have length := length_digits_le_sixteen hle
    rw [Numeral.digits_mul_tenTo hc, List.length_append, List.length_replicate] at length
    have point : Int.ofNat j + ((Numeral.digits c).length : Int) =
        Int.ofNat (j + (Numeral.digits c).length) := rfl
    have short := Text.length_dropEnd_le (· = '0') (Numeral.digits c)
    rw [text, if_neg fun hm => Nat.ne_of_gt hn ((mantissa_eq_zero_iff h).1 hm), hshortest]
    simp only [significant, point]
    rw [if_pos ⟨by rw [Int.ofNat_eq_natCast]; omega, by rw [Int.ofNat_eq_natCast]; omega⟩,
      positional_significant hc, if_pos (by rw [Int.ofNat_eq_natCast]; omega)]

/-- A whole number in units of a power of ten of which one is a whole number of units. -/
theorem inUnits_neg (h : m.toNat? = some n) (k : Nat) :
    m.inUnits (-(k : Int)) = (n * Numeral.tenTo k * stepsInOne, stepsInOne) := by
  have hsteps := toNat?_eq_some_iff.1 h
  cases k with
  | zero =>
    show m.inUnits (Int.ofNat 0) = _
    rw [inUnits_ofNat h, show Numeral.tenTo 0 = 1 from rfl, Nat.mul_one, Nat.one_mul]
  | succ k =>
    show (m.steps * Numeral.tenTo (k + 1), stepsInOne) = _
    rw [hsteps, Nat.mul_right_comm]

/-- Sixteen digits hold all of a whole number. -/
theorem rounded_of_toNat? (h : m.toNat? = some n) (hn : 0 < n) (hle : n ≤ twoTo 53) :
    m.rounded 16 = (n * Numeral.tenTo (16 - (Numeral.digits n).length),
      -((16 - (Numeral.digits n).length : Nat) : Int)) := by
  have length := length_digits_le_sixteen hle
  have exponent : m.point - (16 : Nat) = -((16 - (Numeral.digits n).length : Nat) : Int) := by
    rw [point_of_toNat? h hn]
    omega
  rw [rounded, exponent, inUnits_neg h]
  simp only [roundHalfEven_of_dvd stepsInOne_pos (Nat.dvd_mul_left ..),
    Nat.mul_div_cancel _ stepsInOne_pos]

end Binary64.Magnitude

end VestingTable
