import Mathlib.Data.Rat.Lemmas
import VestingTable.Entry
import VestingTable.Proofs.Agreement
import VestingTable.Proofs.Cell.Whole

/-!
# The integers of a row can be written

A numeral is refused if it has more than `Numeral.maxDigits` digits, whether it is
read or written. All that a row of a file says by numbers can be written again
(`Record.IsWritable`): a text was not longer when it was read, a float is a small
number, and so are the seconds of a moment. Only an integer that a cell holds as such
may be too long.
-/

namespace VestingTable

namespace Binary64

/-- A finite number has fewer than `2 ^ 2098` steps. -/
theorem Magnitude.steps_lt (m : Magnitude) : m.steps < twoTo 2098 := by
  calc m.steps < twoTo 53 * twoTo m.scale := Nat.mul_lt_mul_of_pos_right m.mantissa_lt (twoTo_pos _)
    _ ≤ twoTo 53 * twoTo 2045 := Nat.mul_le_mul_left _ (twoTo_le m.scale_le)
    _ = twoTo 2098 := (twoTo_add 53 2045).symm

theorem twoTo_le_tenTo (k : Nat) : twoTo k ≤ Numeral.tenTo k :=
  Nat.pow_le_pow_left (by decide) k

theorem natAbs_truncate_le (q : Rat) : (truncate q).natAbs ≤ q.num.natAbs := by
  rw [truncate, Int.natAbs_tdiv]
  exact Nat.div_le_self _ _

/-- A finite number, cut to an integer, is far from the longest numeral. -/
theorem fits_truncate {x : Binary64} {q : Rat} (h : x.toRat? = some q) :
    Numeral.Fits (truncate q) := by
  -- The sign does not count, and the numerator is no more than the steps.
  obtain ⟨m, hm⟩ : ∃ m : Magnitude, q.num.natAbs = m.toRat.num.natAbs := by
    unfold toRat? at h
    split at h
    · exact ⟨_, by rw [← Option.some.inj h]⟩
    · exact ⟨_, by rw [← Option.some.inj h, Rat.neg_num, Int.natAbs_neg]⟩
    · contradiction
  have steps : m.toRat.num.natAbs ≤ m.steps := by
    rw [Magnitude.toRat, Rat.num_mkRat, if_neg stepsInOne_pos.ne', ← Int.natCast_ediv,
      Int.natAbs_natCast]
    exact Nat.div_le_self _ _
  have cut := natAbs_truncate_le q
  rw [hm] at cut
  calc (truncate q).natAbs ≤ m.steps := cut.trans steps
    _ < twoTo 2098 := m.steps_lt
    _ ≤ Numeral.tenTo 2098 := twoTo_le_tenTo 2098
    _ ≤ Numeral.tenTo Numeral.maxDigits := Numeral.tenTo_le (by decide)

end Binary64

theorem DateTime.fits_seconds (m : DateTime) : Numeral.Fits m.seconds := by
  rw [seconds]
  cases h : (Binary64.ofRat (mkRat m.microseconds 1000000)).toRat? with
  | none => exact Numeral.fits_zero
  | some q => exact Binary64.fits_truncate h

namespace Cell

/-- The cell is of a kind that the readers of files deliver. -/
def IsDelivered : Cell → Prop
  | date _ | decimal _ | list _ => False
  | _ => True

/-- An integer that the cell holds as such can be written. -/
def IsShort : Cell → Prop
  | integer n => Numeral.Fits n
  | _ => True

instance : (c : Cell) → Decidable c.IsShort
  | integer n => inferInstanceAs (Decidable (Numeral.Fits n))
  | empty | boolean _ | float _ | decimal _ | text _ | date _ | time _ | dateTime _ | notATime
  | notAvailable | list _ => inferInstanceAs (Decidable True)

theorem fits_of_integerOfDigits {negative : Bool} {ds : List Nat} {n : Int} (hds : ∀ d ∈ ds, d < 10)
    (h : integerOfDigits negative ds = .ok n) : Numeral.Fits n := by
  unfold integerOfDigits at h
  split at h
  · contradiction
  · next hlength =>
    have bound : Numeral.value ds < Numeral.tenTo Numeral.maxDigits :=
      Nat.lt_of_lt_of_le (Numeral.value_lt_tenTo hds) (Numeral.tenTo_le (Nat.not_lt.1 hlength))
    split at h
    · rw [← Except.ok.inj h, Numeral.Fits, Int.natAbs_neg]
      exact bound
    · rw [← Except.ok.inj h]
      exact bound

theorem lt_ten_of_signedDigits? {s : String} {negative : Bool} {ds : List Nat}
    (h : signedDigits? s = some (negative, ds)) : ∀ d ∈ ds, d < 10 := by
  have digits {cs : List Char} (hcs : someDigits? cs = some ds) : ∀ d ∈ ds, d < 10 := by
    unfold someDigits? at hcs
    split at hcs
    · contradiction
    · exact Numeral.lt_ten_of_digitValues? hcs
  unfold signedDigits? at h
  split at h <;> obtain ⟨_, hcs, heq⟩ := Option.map_eq_some_iff.1 h
  · obtain ⟨-, rfl⟩ := Prod.mk.inj heq
    exact digits hcs
  · obtain ⟨-, rfl⟩ := Prod.mk.inj heq
    exact digits hcs

/-- Whatever integer a cell from a file denotes can be written, unless it holds it as such. -/
theorem fits_of_integer? {refuse : CellFault → Failure} {shown : String} {c : Cell} {n : Int}
    (delivered : c.IsDelivered) (short : c.IsShort)
    (h : c.integer? refuse shown = .ok n) : Numeral.Fits n := by
  cases c with
  | dateTime m =>
    obtain rfl := Except.ok.inj h
    exact m.fits_seconds
  | integer k =>
    obtain rfl := Except.ok.inj h
    exact short
  | float x =>
    simp only [integer?] at h
    split at h
    · contradiction
    · split at h
      · contradiction
      · next hle =>
        obtain rfl := Except.ok.inj h
        exact (fits_of_le (Nat.not_lt.1 hle) : _)
  | text s =>
    simp only [integer?] at h
    split at h
    · contradiction
    · next hds => exact fits_of_integerOfDigits (lt_ten_of_signedDigits? hds) h
  | date | decimal | list => exact delivered.elim
  | _ => contradiction

theorem fits_of_readInteger {row : Option Int} {field : Field} {c : Cell} {n : Int}
    (delivered : c.IsDelivered) (short : c.IsShort)
    (h : c.readInteger row field = .ok (some n)) : Numeral.Fits n := by
  obtain ⟨isBlank, -, h⟩ := exists_of_bind_eq_ok h
  split at h
  · exact absurd (Except.ok.inj h) (by simp)
  · obtain ⟨shown, -, h⟩ := exists_of_bind_eq_ok h
    obtain ⟨k, hk, h⟩ := exists_of_bind_eq_ok h
    split at h
    · contradiction
    · obtain rfl := Option.some.inj (Except.ok.inj h)
      exact fits_of_integer? delivered short hk

/-- The integer that a column of amounts or times takes from a cell can be written. -/
theorem fits_of_read {kind : FieldKind} {row : Option Int} {field : Field} {c : Cell}
    {v : kind.Raw} {a : kind.Value}
    (delivered : c.IsDelivered) (short : c.IsShort)
    (h : c.read row field kind = .ok (some v)) (ha : kind.check v = .valid a) :
    ∀ n ∈ kind.integers a, Numeral.Fits n := by
  cases kind with
  | amount =>
    simp only [FieldKind.check] at ha
    split at ha
    · contradiction
    · next notNegative =>
      obtain rfl := Validated.valid.inj ha
      intro n hn
      rw [List.mem_singleton.1 hn, Int.ofNat_eq_natCast,
        Int.toNat_of_nonneg (Int.not_lt.1 notNegative)]
      exact fits_of_readInteger delivered short h
  | time =>
    obtain rfl := Validated.valid.inj ha
    intro n hn
    rw [List.mem_singleton.1 hn]
    exact fits_of_readInteger delivered short h
  | percent | text => exact fun n hn => absurd hn List.not_mem_nil

end Cell

/-! ## Rows -/

/-- A field of a row comes from a cell of one of its columns. -/
theorem Draft.exists_cell {row : Option Int} {columns : List (Option Field × Cell)}
    {start d : Draft} (h : columns.foldlM (Draft.read row) start = .ok d) {f : Field}
    {v : f.kind.Raw} (hv : d f = some v) :
    start f = some v ∨ ∃ column ∈ columns,
      column.1 = some f ∧ column.2.read row f f.kind = .ok (some v) := by
  induction columns generalizing start with
  | nil =>
    obtain rfl := Except.ok.inj h
    exact .inl hv
  | cons column columns ih =>
    rw [List.foldlM_cons] at h
    obtain ⟨next, hnext, h⟩ := exists_of_bind_eq_ok h
    rcases ih h with hstart | ⟨column', hmem, hcolumn, hread⟩
    · obtain ⟨_ | g, c⟩ := column
      · obtain rfl := Except.ok.inj hnext
        exact .inl hstart
      · obtain ⟨w, hw, heq⟩ := exists_of_bind_eq_ok hnext
        obtain rfl := Except.ok.inj heq
        by_cases hg : g = f
        · subst hg
          rw [set_self] at hstart
          exact .inr ⟨_, List.mem_cons_self, rfl, hstart ▸ hw⟩
        · rw [set_of_ne _ _ hg] at hstart
          exact .inl hstart
    · exact .inr ⟨column', List.mem_cons_of_mem _ hmem, hcolumn, hread⟩

/-- All integers of a row can be written. -/
theorem Record.fits_of_ofCells {layout : Layout} {row : Option Int} {cells : List Cell} {r : Record}
    (delivered : ∀ c ∈ cells, c.IsDelivered) (short : ∀ c ∈ cells, c.IsShort)
    (h : ofCells layout row cells = .ok r) : ∀ n ∈ r.integers, Numeral.Fits n := by
  obtain ⟨d, hd, hfield⟩ := Record.ofCells_eq_ok h
  intro n hn
  obtain ⟨f, a, ha, hn⟩ := mem_integers_iff.1 hn
  obtain ⟨v, hv, valid⟩ := Draft.exists_of_field (ha ▸ hfield f)
  rcases Draft.exists_cell hd hv with hempty | ⟨column, hmem, -, hread⟩
  · contradiction
  · have hc : column.2 ∈ cells := (List.of_mem_zip hmem).2
    exact Cell.fits_of_read (delivered _ hc) (short _ hc) hread valid n hn

end VestingTable
