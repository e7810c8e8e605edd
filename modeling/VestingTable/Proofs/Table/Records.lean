import VestingTable.Proofs.Assembly.Steps
import VestingTable.Proofs.Table.Rows

/-!
# The records of a table

Where all rows of a table could be read, their records have the numbers of the rows,
so that the grand total is in the first one and in no other (`Table.exists_first`),
and their integers can be written (`Table.fits_of_records`).
-/

namespace VestingTable

/-- The rows come one after the other. -/
theorem Row.Delivered.pairwise {header : Int} {rows : List Row} (h : Delivered header rows) :
    (rows.map Row.number).Pairwise (· < ·) := by
  rw [List.pairwise_map, List.pairwise_iff_getElem]
  intro i j hi hj hij
  rw [h.number i _ (List.getElem?_eq_getElem hi), h.number j _ (List.getElem?_eq_getElem hj)]
  omega

namespace Table

variable {layout : Layout} {header : Int} {rows : List Row} {records : List (Int × Record)}

/-- The rows of which the record has no field. -/
def blankRows (layout : Layout) (rows : List Row) : List Row :=
  rows.filter fun row =>
    match Record.ofCells layout (some row.number) row.cells with
    | .ok r => r.isBlank
    | .error _ => false

theorem map_fst_of_records (h : Table.records layout rows = Builder.asRead records) :
    records.map Prod.fst = rows.map Row.number := by
  have first := congrArg (List.map Prod.fst) h
  simpa [Table.records, Builder.asRead, Function.comp_def] using first.symm

theorem countP_isBlank_of_records (h : Table.records layout rows = Builder.asRead records) :
    records.countP (fun row => row.2.isBlank) = (blankRows layout rows).length := by
  have counted := congrArg (List.countP fun row : Int × Except Failure Record =>
    match row.2 with
    | .ok r => r.isBlank
    | .error _ => false) h
  rw [Table.records, List.countP_map, Builder.asRead, List.countP_map] at counted
  rw [blankRows, ← List.countP_eq_length_filter]
  exact counted.symm

theorem tail_records (h : Table.records layout rows = Builder.asRead records) :
    Table.records layout rows.tail = Builder.asRead records.tail := by
  have tail := congrArg List.tail h
  rwa [Table.records, Builder.asRead, ← List.map_tail, ← List.map_tail] at tail

/-- The first record is that of the row that was asked for, and the others are behind it. -/
theorem exists_first (delivered : Row.Delivered header rows)
    (h : Table.records layout rows = Builder.asRead records) (hne : records ≠ []) :
    ∃ g rest, records = (header, g) :: rest ∧ (∀ row ∈ rest, row.1 ≠ header) ∧
      (rest.map Prod.fst).Pairwise (· < ·) := by
  have numbers := delivered.pairwise
  rw [← map_fst_of_records h] at numbers
  obtain ⟨⟨first, g⟩, rest, rfl⟩ := List.exists_cons_of_ne_nil hne
  rw [List.map_cons, List.pairwise_cons] at numbers
  obtain ⟨behind, ordered⟩ := numbers
  have hfirst : first = header := by
    have names := map_fst_of_records h
    cases rows with
    | nil => simp at names
    | cons row rows =>
      have number := delivered.number 0 row rfl
      simp only [List.map_cons, List.cons.injEq] at names
      rw [names.1, number, Int.natCast_zero, Int.add_zero]
  subst hfirst
  exact ⟨g, rest, rfl, fun row hrow => (behind row.1 (List.mem_map_of_mem hrow)).ne', ordered⟩

/-- The integers of rows that are delivered can be written, unless a cell holds one that is too
    long. -/
theorem fits_of_records (delivered : Row.Delivered header rows)
    (short : ∀ row ∈ rows, ∀ c ∈ row.cells, c.IsShort)
    (h : Table.records layout rows = Builder.asRead records) :
    ∀ row ∈ records, ∀ n ∈ row.2.integers, Numeral.Fits n := by
  intro row hrow
  have hmem : (row.1, .ok row.2) ∈ Table.records layout rows :=
    h ▸ List.mem_map.2 ⟨row, hrow, rfl⟩
  obtain ⟨line, hline, heq⟩ := List.mem_map.1 hmem
  obtain ⟨-, hrecord⟩ := Prod.mk.inj heq
  exact Record.fits_of_ofCells (delivered.cells line hline) (short line hline) hrecord

end Table

end VestingTable
