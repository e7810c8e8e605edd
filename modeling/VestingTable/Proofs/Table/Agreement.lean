import Mathlib.Data.List.Forall2
import VestingTable.Builder
import VestingTable.Proofs.Cell.Whole
import VestingTable.Table

/-!
# Tables that agree

The same table, stored as a text or as a workbook of either kind, comes as rows
of different cells, of different lengths. The outcome is the same:

* `Builder.feed_alike`: a builder never looks at how a percentage was written;
* `buildSchedule_records_agree`: from two tables whose rows agree cell by cell the
  same schedule is built, or the same failure arises.
-/

namespace VestingTable

/-! ## Rows -/

/-- Two rows have the same number, and cells that agree, where a cell that is not there counts as
    an empty one. -/
structure Row.Agrees (r s : Row) : Prop where
  number : r.number = s.number
  cells : ∀ i : Nat, (r.cells.getD i .empty).Agrees (s.cells.getD i .empty)

/-- Rows that agree have records that are alike, or fail alike. -/
theorem Row.Agrees.ofCells {layout : Layout} (once : (layout.filterMap id).Nodup) {r s : Row}
    (h : r.Agrees s) : Agreement Eq Record.Alike (Record.ofCells layout (some r.number) r.cells)
      (Record.ofCells layout (some s.number) s.cells) := by
  refine Record.ofCells_agree (fun _ => rfl) once fun i f _ => ?_
  rw [← h.number]
  exact (h.cells i).read (fun _ => rfl) (fun _ => rfl) (some r.number) f f.kind

/-! ## Records -/

namespace Record

variable {r s : Record}

theorem AlikeUpTo.eq_of_ne (h : r.Alike s) {f : Field} (hf : f ≠ .percentOfTotal) : r f = s f := by
  have eq_of_rel {α : Type} {v w : Option α} (hvw : Option.Rel Eq v w) : v = w := by
    cases hvw with
    | some hvw => rw [hvw]
    | none => rfl
  have hrs := h f
  cases f
  case percentOfTotal => exact absurd rfl hf
  all_goals exact eq_of_rel hrs

theorem AlikeUpTo.has_eq (h : r.Alike s) (f : Field) : r.has f = s.has f := by
  have hrs := h f
  rw [has, has]
  generalize r f = v at hrs ⊢
  generalize s f = w at hrs ⊢
  cases hrs <;> rfl

theorem AlikeUpTo.isBlank_eq (h : r.Alike s) : r.isBlank = s.isBlank := by
  rw [isBlank, isBlank, funext h.has_eq]

theorem AlikeUpTo.integers_eq (h : r.Alike s) : r.integers = s.integers := by
  refine List.flatMap_congr fun f _ => ?_
  by_cases hf : f = .percentOfTotal
  · subst hf
    rfl
  · rw [h.eq_of_ne hf]

theorem AlikeUpTo.account_eq (h : r.Alike s) (name : String) (amount : Nat) :
    r.account name amount = s.account name amount := by
  simp only [account, h.eq_of_ne (f := .address) (by decide), h.eq_of_ne (f := .startAt) (by decide),
    h.eq_of_ne (f := .interval) (by decide), h.eq_of_ne (f := .duration) (by decide),
    h.eq_of_ne (f := .cliff) (by decide), h.eq_of_ne (f := .portionSize) (by decide),
    h.eq_of_ne (f := .remainder) (by decide)]

/-- What a row is to a schedule depends on the percentage only by whether there is one. -/
theorem AlikeUpTo.entryAt_eq (h : r.Alike s) (row headerRow : Int) :
    r.entryAt row headerRow = s.entryAt row headerRow := by
  have percent := h .percentOfTotal
  simp only [entryAt, h.account_eq, h.eq_of_ne (f := .total) (by decide),
    h.eq_of_ne (f := .subtotal) (by decide), h.eq_of_ne (f := .pool) (by decide),
    h.eq_of_ne (f := .name) (by decide), h.eq_of_ne (f := .amount) (by decide)]
  generalize r .percentOfTotal = v at percent ⊢
  generalize s .percentOfTotal = w at percent ⊢
  cases percent with
  | none => rfl
  | some =>
    cases s .pool <;> cases s .subtotal <;> cases s .name <;> cases s .amount <;> rfl

end Record

/-! ## Builders -/

namespace Builder

/-- A builder does the same with records that are alike. -/
theorem feed_alike (b : Builder) (row : Int) {r s : Record} (h : r.Alike s) :
    b.feed row r = b.feed row s := by
  simp only [feed, skip, h.entryAt_eq, h.isBlank_eq, h.integers_eq]

/-- Two sequences of records have the same row numbers, and records that are alike, or that cannot
    be read for the same reason. -/
abbrev RowsAgree : List (Int × Except Failure Record) → List (Int × Except Failure Record) → Prop :=
  List.Forall₂ fun x y => x.1 = y.1 ∧ Agreement Eq Record.Alike x.2 y.2

theorem feedAll_agree {rows rows' : List (Int × Except Failure Record)} (h : RowsAgree rows rows')
    (b : Builder) : b.feedAll rows = b.feedAll rows' := by
  induction h generalizing b with
  | nil => rfl
  | @cons x y rows rows' hxy _ ih =>
    obtain ⟨row, x⟩ := x
    obtain ⟨row', y⟩ := y
    obtain ⟨hrow, hread⟩ := hxy
    obtain rfl : row = row' := hrow
    cases hread with
    | failed hf => rw [feedAll, feedAll, hf]
    | read hrs =>
      rw [feedAll, feedAll, feed_alike b row hrs]
      split
      · rfl
      · exact ih _

end Builder

/-- The same table gives the same schedule, or the same failure, however its cells were stored. -/
theorem buildSchedule_records_agree {layout : Layout} (once : (layout.filterMap id).Nodup)
    {rows rows' : List Row} (agree : List.Forall₂ Row.Agrees rows rows') (headerRow : Int)
    (checkFinalPool : Bool) :
    buildSchedule headerRow checkFinalPool (Table.records layout rows) =
      buildSchedule headerRow checkFinalPool (Table.records layout rows') := by
  have records : Builder.RowsAgree (Table.records layout rows) (Table.records layout rows') := by
    rw [Builder.RowsAgree, Table.records, Table.records, List.forall₂_map_left_iff,
      List.forall₂_map_right_iff]
    exact agree.imp fun r s h => ⟨h.number, h.ofCells once⟩
  rw [buildSchedule, buildSchedule, Builder.feedAll_agree records]

/-- The columns of a small table, one of them ignored. -/
def smallLayout : Layout :=
  [some .total, some .subtotal, some .percentOfTotal, none, some .pool, some .name, some .amount]

/-- A small table as it comes from a text. -/
def smallTextRows : List Row :=
  [⟨5, [.text "10", .text "10"]⟩,
    ⟨6, [.text " ", .text "10", .text "100", .text "", .text "Team"]⟩,
    ⟨7, [.text "", .text "", .text "100", .text "", .text "", .text "Ada", .text "10"]⟩]

/-- The same table as it may be stored in a workbook. -/
def smallStoredRows : List Row :=
  [⟨5, [.float (.ofInt 10), .decimal (.finite ⟨false, 10, 0⟩), .empty, .empty]⟩,
    ⟨6, [.empty, .integer 10, .float (.ofInt 100), .empty, .text "Team", .empty, .empty]⟩,
    ⟨7, [.empty, .empty, .integer 100, .empty, .empty, .text "Ada", .float (.ofInt 10)]⟩]

theorem buildSchedule_records_agree_small :
    buildSchedule 5 true (Table.records smallLayout smallTextRows) =
        .ok { total := 10, pools := [
          { name := "Team", total := 10, accounts := [{ name := "Ada", amount := 10 }] }] } ∧
      buildSchedule 5 true (Table.records smallLayout smallStoredRows) =
        .ok { total := 10, pools := [
          { name := "Team", total := 10, accounts := [{ name := "Ada", amount := 10 }] }] } := by
  have numeral {n : Nat} {s : String} (hs : Numeral.ofNat n = s) : Cell.Writes n (.text s) :=
    hs ▸ .numeral
  have ten : Cell.Writes 10 (.text "10") := numeral (by decide)
  have hundred : Cell.Writes 100 (.text "100") := numeral (by decide)
  have stored {n : Nat} (hn : n ≤ Cell.maxExact) : Cell.Writes n (.float (.ofInt n)) :=
    .float (Binary64.toInt?_ofInt hn)
  have blank : (Cell.text " ").IsVoid := by
    rw [Cell.IsVoid]
    decide
  have nothing : (Cell.text "").IsVoid := rfl
  have agree : List.Forall₂ Row.Agrees smallTextRows smallStoredRows := by
    refine .cons ⟨rfl, ?_⟩ (.cons ⟨rfl, ?_⟩ (.cons ⟨rfl, ?_⟩ .nil))
    · rintro (_ | _ | _ | _ | i)
      · exact .whole (by decide) ten (stored (by decide))
      · exact .whole (by decide) ten .decimal
      all_goals exact .void trivial trivial
    · rintro (_ | _ | _ | _ | _ | _ | _ | i)
      · exact .void blank trivial
      · exact .whole (by decide) ten .integer
      · exact .whole (by decide) hundred (stored (by decide))
      · exact .void nothing trivial
      · exact .text _
      all_goals exact .void trivial trivial
    · rintro (_ | _ | _ | _ | _ | _ | _ | i)
      · exact .void nothing trivial
      · exact .void nothing trivial
      · exact .whole (by decide) hundred .integer
      · exact .void nothing trivial
      · exact .void nothing trivial
      · exact .text _
      · exact .whole (by decide) ten (stored (by decide))
      · exact .void trivial trivial
  have built : buildSchedule 5 true (Table.records smallLayout smallTextRows) =
      .ok { total := 10, pools := [
        { name := "Team", total := 10, accounts := [{ name := "Ada", amount := 10 }] }] } := by
    decide +kernel
  exact ⟨built, (buildSchedule_records_agree (by decide) agree 5 true).symm.trans built⟩

end VestingTable
