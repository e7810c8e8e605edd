import Mathlib.Data.List.DropRight
import Mathlib.Data.List.GetD
import VestingTable.Workbook.Modern

/-!
# The rectangle of a sheet

A sheet is read as the rectangle up to its last row and column in use. The
rectangle holds at every place what the sheet has there, unless that is not in
use (`Sheet.cellAt_grid`).
-/

namespace VestingTable.Sheet

variable {α : Type} {isUsed : α → Bool} {filler : α}

/-- The cell at a place of the rows of a sheet, or the filler where there is none. -/
def cellAt (filler : α) (rows : List (List α)) (i j : Nat) : α :=
  (rows.getD i []).getD j filler

/-- What holds of all cells and of the filler holds of the cell at a place. -/
theorem forall_cellAt {P : α → Prop} (hf : P filler) {rows : List (List α)}
    (h : ∀ row ∈ rows, ∀ c ∈ row, P c) (i j : Nat) : P (cellAt filler rows i j) := by
  have row : ∀ c ∈ rows.getD i [], P c := by
    rcases Nat.lt_or_ge i rows.length with hi | hi
    · rw [List.getD_eq_getElem _ _ hi]
      exact h _ (List.getElem_mem hi)
    · rw [List.getD_eq_default _ _ hi]
      exact fun _ hc => absurd hc List.not_mem_nil
  rw [cellAt]
  rcases Nat.lt_or_ge j (rows.getD i []).length with hj | hj
  · rw [List.getD_eq_getElem _ _ hj]
    exact row _ (List.getElem_mem hj)
  · rw [List.getD_eq_default _ _ hj]
    exact hf

/-! ## The end that is dropped -/

/-- What is dropped from the end of a list has the property. -/
theorem getD_rdropWhile {β : Type} {p : β → Bool} {d : β} (hd : p d = true) (l : List β) (i : Nat) :
    (l.rdropWhile p).getD i d = l.getD i d ∨
      (l.rdropWhile p).length ≤ i ∧ p (l.getD i d) = true := by
  have split : l.rdropWhile p ++ l.rtakeWhile p = l := List.rdropWhile_append_rtakeWhile
  rcases Nat.lt_or_ge i (l.rdropWhile p).length with hi | hi
  · left
    conv_rhs => rw [← split]
    rw [List.getD_append _ _ _ _ hi]
  · refine .inr ⟨hi, ?_⟩
    rw [← split, List.getD_append_right _ _ _ _ hi]
    rcases Nat.lt_or_ge (i - (l.rdropWhile p).length) (l.rtakeWhile p).length with hj | hj
    · rw [List.getD_eq_getElem _ _ hj]
      exact List.mem_rtakeWhile_imp (List.getElem_mem hj)
    · rw [List.getD_eq_default _ _ hj]
      exact hd

/-! ## Rows -/

theorem usedRows_eq (rows : List (List α)) :
    usedRows isUsed rows = rows.rdropWhile fun row => !row.any isUsed :=
  rfl

theorem le_foldl_max (widths : List α) (f : α → Nat) (start : Nat) :
    start ≤ widths.foldl (fun width x => max width (f x)) start ∧
      ∀ x ∈ widths, f x ≤ widths.foldl (fun width x => max width (f x)) start := by
  induction widths generalizing start with
  | nil => exact ⟨Nat.le_refl _, fun _ h => absurd h List.not_mem_nil⟩
  | cons x widths ih =>
    obtain ⟨hstart, hmem⟩ := ih (max start (f x))
    refine ⟨Nat.le_trans (Nat.le_max_left _ _) hstart, fun y hy => ?_⟩
    rcases List.mem_cons.1 hy with rfl | hy
    · exact Nat.le_trans (Nat.le_max_right _ _) hstart
    · exact hmem y hy

/-- No cell of a row behind the width is in use. -/
theorem isUsed_of_width_le (hf : isUsed filler = false) {rows : List (List α)} {row : List α}
    (hrow : row ∈ rows) {j : Nat} (hj : width isUsed rows ≤ j) :
    isUsed (row.getD j filler) = false := by
  have short : (row.rdropWhile (!isUsed ·)).length ≤ width isUsed rows := by
    have := (le_foldl_max rows (fun row => (row.reverse.dropWhile (!isUsed ·)).length) 0).2 row hrow
    rwa [List.rdropWhile, List.length_reverse]
  rcases getD_rdropWhile (p := (!isUsed ·)) (d := filler) (by rw [hf]; rfl) row j with h | ⟨-, h⟩
  · rw [← h, List.getD_eq_default _ _ (Nat.le_trans short hj), hf]
  · simpa using h

theorem getD_padded (filler : α) (width : Nat) (row : List α) (j : Nat) :
    (padded filler width row).getD j filler = if j < width then row.getD j filler else filler := by
  simp only [padded, List.getD_eq_getElem?_getD, List.getElem?_take, List.getElem?_append,
    List.getElem?_replicate]
  split
  · split
    · rfl
    · next hj =>
      rw [List.getElem?_eq_none (Nat.not_lt.1 hj)]
      split <;> rfl
  · rfl

theorem isUsed_getD (hf : isUsed filler = false) {row : List α} (h : row.any isUsed = false)
    (j : Nat) : isUsed (row.getD j filler) = false := by
  rcases Nat.lt_or_ge j row.length with hj | hj
  · rw [List.getD_eq_getElem _ _ hj]
    exact Bool.eq_false_iff.2 fun hused =>
      Bool.eq_false_iff.1 h (List.any_eq_true.2 ⟨_, List.getElem_mem hj, hused⟩)
  · rw [List.getD_eq_default _ _ hj, hf]

/-- The rectangle is made of cells of the sheet and of fillers. -/
theorem mem_grid {s : Sheet α} {row : List α} (hrow : row ∈ s.grid isUsed filler) {c : α}
    (hc : c ∈ row) : c = filler ∨ ∃ r ∈ s.rows, c ∈ r := by
  obtain ⟨r, hr, rfl⟩ := List.mem_map.1 hrow
  rcases List.mem_append.1 (List.mem_of_mem_take hc) with hcell | hfill
  · exact .inr ⟨r, (List.rdropWhile_prefix _ _).subset hr, hcell⟩
  · exact .inl (List.eq_of_mem_replicate hfill)

/-- The rectangle has the cells of the sheet, save those that are not in use. -/
theorem cellAt_grid (hf : isUsed filler = false) (s : Sheet α) (i j : Nat) :
    cellAt filler (s.grid isUsed filler) i j = cellAt filler s.rows i j ∨
      isUsed (cellAt filler (s.grid isUsed filler) i j) = false ∧
        isUsed (cellAt filler s.rows i j) = false := by
  have last := getD_rdropWhile (p := fun row : List α => !row.any isUsed) (d := []) rfl s.rows i
  simp only [← usedRows_eq] at last
  rw [cellAt, cellAt, grid]
  generalize hrows : usedRows isUsed s.rows = rows at last
  rcases Nat.lt_or_ge i rows.length with hi | hi
  · -- A row of the rectangle is one of the sheet, up to the width.
    have hrow : rows.getD i [] = s.rows.getD i [] := last.resolve_right fun h => by omega
    have hmem : s.rows.getD i [] ∈ rows := by
      rw [← hrow, List.getD_eq_getElem _ _ hi]
      exact List.getElem_mem hi
    have hgrid : (rows.map (padded filler (width isUsed rows))).getD i [] =
        padded filler (width isUsed rows) (s.rows.getD i []) := by
      rw [← hrow, List.getD_eq_getElem _ _ (by simpa using hi), List.getD_eq_getElem _ _ hi,
        List.getElem_map]
    simp only [hgrid, getD_padded]
    split
    · exact .inl rfl
    · next hj => exact .inr ⟨hf, isUsed_of_width_le hf hmem (Nat.not_lt.1 hj)⟩
  · -- No row behind the rectangle has a cell in use.
    have unused : (s.rows.getD i []).any isUsed = false := by
      rcases last with h | ⟨-, h⟩
      · rw [← h, List.getD_eq_default _ _ hi]
        rfl
      · simpa using h
    have hgrid : (rows.map (padded filler (width isUsed rows))).getD i [] = [] :=
      List.getD_eq_default _ _ (by simpa using hi)
    exact .inr ⟨by rw [hgrid]; exact hf, isUsed_getD hf unused j⟩

/-- The place of a row behind some others. -/
theorem cellAt_drop (filler : α) (rows : List (List α)) (k i j : Nat) :
    cellAt filler (rows.drop k) i j = cellAt filler rows (k + i) j := by
  simp only [cellAt, List.getD_eq_getElem?_getD, List.getElem?_drop]

/-- A cell of rows whose cells are changed is the changed one, or it is missing before and after. -/
theorem cellAt_map {β : Type} (filler : α) (filler' : β) (f : α → β) (rows : List (List α))
    (i j : Nat) :
    cellAt filler' (rows.map fun row => row.map f) i j = f (cellAt filler rows i j) ∨
      cellAt filler' (rows.map fun row => row.map f) i j = filler' ∧
        cellAt filler rows i j = filler := by
  simp only [cellAt, List.getD_eq_getElem?_getD, List.getElem?_map]
  cases rows[i]? with
  | none => exact .inr ⟨rfl, rfl⟩
  | some row =>
    simp only [Option.map_some, Option.getD_some, List.getElem?_map]
    cases row[j]? with
    | none => exact .inr ⟨rfl, rfl⟩
    | some c => exact .inl rfl

end VestingTable.Sheet
