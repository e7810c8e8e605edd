import VestingTable.Proofs.Agreement
import VestingTable.Proofs.Cell.Failing

/-!
# Columns in another order

What a row says depends on which cell stands under which field, not on the order of the columns.
So the columns may change places together with their cells, there may be more or fewer ignored
ones among them, and blank ones behind them (`Column.Rearranged`).

* `Draft.Answers`: what the fields of a draft are, by the cells that stand under them. This
  does not mention an order, and is all about the draft of a row (`Column.draft_eq_ok_iff`);
* `Record.ofCells_rearranged`: rearranged columns have the same record, or none in both cases.
  This is so, too, if there are more cells behind the last column, or more columns behind the
  last cell.

No field may have two columns, as of these the last one counts.
-/

namespace VestingTable

/-- A column of a row: its name in the layout, if it has one, and the cell in it. -/
structure Column where
  name : Option String
  cell : Cell

namespace Column

/-- The field that a column stands for. It is ignored if it has no name or that of no field. -/
def field? (column : Column) : Option Field :=
  column.name.bind Field.ofKey?

/-- No field has two columns. -/
def IsOnce (columns : List Column) : Prop :=
  (columns.filterMap field?).Nodup

instance (columns : List Column) : Decidable (IsOnce columns) :=
  inferInstanceAs (Decidable (columns.filterMap field?).Nodup)

/-- The same columns in another order, with more ignored ones among them, or with one of another
    field behind them that is blank, or, the other way round, without these. -/
inductive Rearranged : List Column → List Column → Prop
  | permuted {columns columns' : List Column} (h : columns.Perm columns') :
    Rearranged columns columns'
  | ignored (ahead behind : List Column) {column : Column} (h : column.field? = none) :
    Rearranged (ahead ++ behind) (ahead ++ column :: behind)
  | blank (columns : List Column) {column : Column} {f : Field} (hf : column.field? = some f)
    (new : ∀ other ∈ columns, other.field? ≠ some f) (h : column.cell.blank = .ok true) :
    Rearranged columns (columns ++ [column])
  | symm {columns columns' : List Column} (h : Rearranged columns columns') :
    Rearranged columns' columns
  | trans {columns columns' columns'' : List Column} (h : Rearranged columns columns')
    (h' : Rearranged columns' columns'') : Rearranged columns columns''

/-- A cell stands under a field. -/
def Stands (columns : List Column) (f : Field) (c : Cell) : Prop :=
  ∃ column ∈ columns, column.field? = some f ∧ column.cell = c

end Column

open Column

/-- A field is what the cell under it says, and absent if there is none. -/
structure Draft.Answers (row : Option Int) (columns : List Column) (d : Draft) : Prop where
  said : ∀ f c, Stands columns f c → c.read row f f.kind = .ok (d f)
  unsaid : ∀ f, (∀ c, ¬ Stands columns f c) → d f = none

namespace Column

variable {columns columns' : List Column} {row : Option Int} {d e : Draft} {f : Field} {c : Cell}

theorem stands_append :
    Stands (columns ++ columns') f c ↔ Stands columns f c ∨ Stands columns' f c := by
  simp only [Stands, List.mem_append, or_and_right, exists_or]

theorem stands_cons {column : Column} : Stands (column :: columns) f c ↔
    (column.field? = some f ∧ column.cell = c) ∨ Stands columns f c := by
  simp [Stands]

/-! ## The draft of a row -/

theorem layout_eq (columns : List Column) :
    Layout.ofNames (columns.map name) = columns.map field? := by
  rw [Layout.ofNames, List.map_map]
  rfl

theorem mem_zip_iff : (some f, c) ∈ (Layout.ofNames (columns.map name)).zip (columns.map cell) ↔
    Stands columns f c := by
  rw [layout_eq, List.zip_map', List.mem_map]
  simp only [Prod.mk.injEq, Stands]

/-- What is behind the last column and the last cell is put together by itself. -/
theorem zip_append (columns : List Column) (names : List (Option String)) (cells : List Cell) :
    (Layout.ofNames (columns.map name ++ names)).zip (columns.map cell ++ cells) =
      (Layout.ofNames (columns.map name)).zip (columns.map cell) ++
        (Layout.ofNames names).zip cells := by
  rw [Layout.ofNames, List.map_append, List.zip_append (by simp)]
  rfl

/-- There is one answer at most. -/
theorem eq_of_answers (hd : d.Answers row columns) (he : e.Answers row columns) : d = e := by
  funext f
  by_cases given : ∃ c, Stands columns f c
  · obtain ⟨c, hc⟩ := given
    exact Except.ok.inj ((hd.said f c hc).symm.trans (he.said f c hc))
  · rw [hd.unsaid f (not_exists.1 given), he.unsaid f (not_exists.1 given)]

theorem answers_of_draft (once : IsOnce columns)
    (h : Draft.ofCells (Layout.ofNames (columns.map name)) row (columns.map cell) = .ok d) :
    d.Answers row columns := by
  constructor
  · rintro f c ⟨column, hmem, hf, rfl⟩
    obtain ⟨i, hi, rfl⟩ := List.getElem_of_mem hmem
    rw [layout_eq] at h
    have place : (columns.map field?)[i]? = some (some f) := by simp [hi, hf]
    have once' : ((columns.map field?).filterMap id).Nodup := by rwa [List.filterMap_map]
    simpa [hi] using Draft.ofCells_eq_ok once' h i place
  · intro f absent
    refine Draft.eq_of_read h fun ⟨field, c⟩ hmem hf => ?_
    obtain rfl := hf
    exact absent c (mem_zip_iff.1 hmem)

/-- A row has a draft exactly if its columns have an answer, and this is the draft. -/
theorem draft_eq_ok_iff (once : IsOnce columns) :
    Draft.ofCells (Layout.ofNames (columns.map name)) row (columns.map cell) = .ok d ↔
      d.Answers row columns := by
  refine ⟨answers_of_draft once, fun h => ?_⟩
  obtain ⟨e, he⟩ : ∃ e, Draft.ofCells (Layout.ofNames (columns.map name)) row
      (columns.map cell) = .ok e := by
    refine Draft.exists_read (fun ⟨field, c⟩ hmem f hf => ?_) Draft.empty
    obtain rfl := hf
    exact ⟨d f, h.said f c (mem_zip_iff.1 hmem)⟩
  -- What is read answers the columns, too, and so it is what was to be read.
  rwa [eq_of_answers h (answers_of_draft once he)]

/-! ## Rearranged columns -/

/-- A field that has two columns has them in any arrangement. -/
theorem Rearranged.isOnce_iff (h : Rearranged columns columns') :
    IsOnce columns ↔ IsOnce columns' := by
  induction h with
  | permuted h => exact (h.filterMap field?).nodup_iff
  | ignored ahead behind h =>
    rw [IsOnce, IsOnce, List.filterMap_append, List.filterMap_append, List.filterMap_cons_none h]
  | blank columns hf new =>
    rw [IsOnce, IsOnce, List.filterMap_append, List.filterMap_cons_some hf, List.filterMap_nil,
      (List.perm_append_singleton _ _).nodup_iff, List.nodup_cons, and_iff_right]
    intro hmem
    obtain ⟨other, hother, hf'⟩ := List.mem_filterMap.1 hmem
    exact new other hother hf'
  | symm _ ih => exact ih.symm
  | trans _ _ ih ih' => exact ih.trans ih'

/-- The answer only depends on which cells stand under which fields. -/
theorem answers_of_stands (h : ∀ f c, Stands columns f c ↔ Stands columns' f c)
    (hd : d.Answers row columns) : d.Answers row columns' where
  said f c hc := hd.said f c ((h f c).2 hc)
  unsaid f hf := hd.unsaid f fun c hc => hf c ((h f c).1 hc)

theorem answers_iff_of_stands (h : ∀ f c, Stands columns f c ↔ Stands columns' f c) :
    d.Answers row columns ↔ d.Answers row columns' :=
  ⟨answers_of_stands h, answers_of_stands fun f c => (h f c).symm⟩

/-- A blank column says as little as one that is not there. -/
theorem answers_append_blank {column : Column} (hf : column.field? = some f)
    (new : ∀ other ∈ columns, other.field? ≠ some f) (blank : column.cell.blank = .ok true) :
    d.Answers row columns ↔ d.Answers row (columns ++ [column]) := by
  have nothing := Cell.read_of_blank blank row f f.kind
  -- The field of the column has no other cell, and is absent either way.
  have stands (g : Field) (c : Cell) : Stands (columns ++ [column]) g c ↔
      Stands columns g c ∨ column.field? = some g ∧ column.cell = c := by
    rw [stands_append, stands_cons]
    simp [Stands]
  constructor
  · intro h
    have absent : d f = none := h.unsaid f fun c ⟨other, hmem, hf, _⟩ => new other hmem hf
    refine ⟨fun g c hc => ?_, fun g hg => h.unsaid g fun c hc => hg c ((stands g c).2 (.inl hc))⟩
    rcases (stands g c).1 hc with hc | ⟨hg, rfl⟩
    · exact h.said g c hc
    · obtain rfl := Option.some.inj (hf.symm.trans hg)
      rw [nothing, absent]
  · intro h
    refine ⟨fun g c hc => h.said g c ((stands g c).2 (.inl hc)), fun g hg => ?_⟩
    by_cases hgf : column.field? = some g
    · obtain rfl := Option.some.inj (hf.symm.trans hgf)
      have said := h.said f column.cell ((stands f column.cell).2 (.inr ⟨hf, rfl⟩))
      exact Except.ok.inj (said.symm.trans nothing)
    · exact h.unsaid g fun c hc => ((stands g c).1 hc).elim (hg c) fun h => hgf h.1

/-- Rearranged columns have the same answer. -/
theorem Rearranged.answers_iff (h : Rearranged columns columns') :
    d.Answers row columns ↔ d.Answers row columns' := by
  induction h with
  | permuted h => exact answers_iff_of_stands fun f c => by simp only [Stands, h.mem_iff]
  | ignored ahead behind h =>
    refine answers_iff_of_stands fun f c => ?_
    rw [stands_append, stands_append, stands_cons, h]
    simp
  | blank columns hf new blank => exact answers_append_blank hf new blank
  | symm _ ih => exact ih.symm
  | trans _ _ ih ih' => exact ih.trans ih'

/-- Rearranged columns have the same draft, or none. -/
theorem Rearranged.draft_iff (h : Rearranged columns columns') (once : IsOnce columns) :
    Draft.ofCells (Layout.ofNames (columns'.map name)) row (columns'.map cell) = .ok d ↔
      Draft.ofCells (Layout.ofNames (columns.map name)) row (columns.map cell) = .ok d := by
  rw [draft_eq_ok_iff once, draft_eq_ok_iff (h.isOnce_iff.1 once), h.answers_iff]

end Column

/-- Two outcomes with the same values, if they have any, go on to the same values. -/
theorem toOption_bind_eq {α β : Type} {x y : Except Failure α} (h : ∀ a, x = .ok a ↔ y = .ok a)
    (f : α → Except Failure β) : (x >>= f).toOption = (y >>= f).toOption := by
  cases x with
  | ok a => rw [(h a).1 rfl]
  | error e =>
    cases y with
    | ok b => exact absurd ((h b).2 rfl) (by simp)
    | error e' => rfl

namespace Record

variable {columns columns' : List Column}

/-- Cells without a column and columns without a cell are passed over. -/
theorem ofCells_append (columns : List Column) (row : Option Int) (names : List (Option String))
    (cells : List Cell) (h : (Layout.ofNames names).zip cells = []) :
    ofCells (Layout.ofNames (columns.map name ++ names)) row (columns.map cell ++ cells) =
      ofCells (Layout.ofNames (columns.map name)) row (columns.map cell) := by
  rw [ofCells, ofCells, Draft.ofCells, Draft.ofCells, zip_append, h, List.append_nil]

/-- Rearranged columns, of which no field has two, have the same record, or none in both cases,
    whatever cells there are behind the last column, or columns behind the last cell. -/
theorem ofCells_rearranged (once : IsOnce columns) (h : Rearranged columns columns')
    (row : Option Int) :
    (∀ beyond : List Cell,
      (ofCells (Layout.ofNames (columns'.map name)) row (columns'.map cell ++ beyond)).toOption =
        (ofCells (Layout.ofNames (columns.map name)) row (columns.map cell)).toOption) ∧
    ∀ beyond : List (Option String),
      (ofCells (Layout.ofNames (columns'.map name ++ beyond)) row (columns'.map cell)).toOption =
        (ofCells (Layout.ofNames (columns.map name)) row (columns.map cell)).toOption := by
  have same : (ofCells (Layout.ofNames (columns'.map name)) row (columns'.map cell)).toOption =
      (ofCells (Layout.ofNames (columns.map name)) row (columns.map cell)).toOption :=
    toOption_bind_eq (fun _ => h.draft_iff once) fun d => d.validate.orFail
  constructor
  · intro beyond
    have dropped := ofCells_append columns' row [] beyond List.zip_nil_left
    rw [List.append_nil] at dropped
    rw [dropped, same]
  · intro beyond
    have dropped := ofCells_append columns' row beyond [] List.zip_nil_right
    rw [List.append_nil] at dropped
    rw [dropped, same]

/-- The columns of a pool, with one that has no name. -/
def poolColumns : List Column :=
  [⟨some "pool", .text " Team "⟩, ⟨none, .boolean true⟩, ⟨some "subtotal", .integer 600⟩,
    ⟨some "percent_of_total", .text "60 %"⟩]

/-- The columns of the same pool from the last one on, with one that has the name of no field and
    a blank one. -/
def turnedColumns : List Column :=
  [⟨some "percent_of_total", .text "60 %"⟩, ⟨some "speed", .decimal (.nan false true 0)⟩,
    ⟨some "subtotal", .integer 600⟩, ⟨some "pool", .text " Team "⟩, ⟨some "name", .text "\t"⟩]

theorem ofCells_rearranged_turned : IsOnce poolColumns ∧ Rearranged poolColumns turnedColumns ∧
    ∃ r, (ofCells (Layout.ofNames (poolColumns.map name)) (some 6)
        (poolColumns.map cell)).toOption = some r ∧
      (r .pool = some "Team" ∧ r .subtotal = some 600 ∧ r .name = none) ∧
      (ofCells (Layout.ofNames (turnedColumns.map name)) (some 6)
        (turnedColumns.map cell ++ [.text "a note"])).toOption = some r ∧
      (ofCells (Layout.ofNames (turnedColumns.map name ++ [some "amount", none])) (some 6)
        (turnedColumns.map cell)).toOption = some r := by
  have once : IsOnce poolColumns := by decide
  have rearranged : Rearranged poolColumns turnedColumns :=
    .trans (.symm (.ignored (poolColumns.take 1) (poolColumns.drop 2) rfl))
      (.trans (.permuted (List.reverse_perm _).symm)
        (.trans (.ignored (turnedColumns.take 1) ((turnedColumns.drop 2).take 2) rfl)
          (.blank _ rfl (by decide) rfl)))
  obtain ⟨r, read, values⟩ : ∃ r ∈ (ofCells (Layout.ofNames (poolColumns.map name)) (some 6)
      (poolColumns.map cell)).toOption,
      r .pool = some "Team" ∧ r .subtotal = some 600 ∧ r .name = none := by
    decide +kernel
  obtain ⟨moreCells, moreNames⟩ := ofCells_rearranged once rearranged (some 6)
  exact ⟨once, rearranged, r, read, values, (moreCells _).trans read, (moreNames _).trans read⟩

/-- Of two columns of a field the last one counts, even if it is blank. -/
example :
    (ofCells [some .amount, some .amount] none [.integer 5, .empty]).toOption.map (· .amount) =
      some none ∧
    (ofCells [some .amount, some .amount] none [.empty, .integer 5]).toOption.map (· .amount) =
      some (some 5) := by
  decide +kernel

end Record

end VestingTable
