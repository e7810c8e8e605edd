import VestingTable.Proofs.Assembly.Steps
import VestingTable.Proofs.Cell.Failing
import VestingTable.Table

/-!
# The first problem of a table

The rows of a table are read one by one, each when its turn comes, and are fed to the builder
on the way. So the problem that is reported is the first in the order of reading: row by row,
and within a row cell by cell, with the builder behind the last cell.

* `Record.FirstFault`: the first cell of a row that cannot be read, or the percentage that the
  record complains about when all its cells were read;
* `Table.FirstProblem`: the first row that has a fault or is refused by the builder, or else
  the end of the table;
* `Table.buildSchedule_records_iff`: a table gives the schedule of its records, all of them
  read before one is used (`Table.readAll`), or else its first problem.
-/

namespace VestingTable

/-! ## Cells -/

namespace Cell

variable {c : Cell} {row : Option Int} {field : Field} {f : Failure}

/-- The failure names the row, and the field and the content of the cell. -/
def IsNamedBy (c : Cell) (row : Option Int) (field : Field) (f : Failure) : Prop :=
  ∃ fault shown, c.quoted? = some shown ∧ f = .cell row field fault shown

theorem isNamedBy_refusal {shown : String} {fault : CellFault} (quoted : c.quoted? = some shown)
    (parsing : (refusal row field shown fault).category = .parsing) :
    c.IsNamedBy row field (refusal row field shown fault) := by
  refine ⟨fault, shown, quoted, ?_⟩
  unfold refusal Failure.raised at parsing ⊢
  split
  · rfl
  · rw [if_neg ‹_›] at parsing
    cases parsing

theorem not_parsing_of_quoted (h : c.quoted = .error f) : f.category ≠ .parsing := by
  unfold quoted at h
  split at h
  · cases h
  · cases h
    simp [Failure.category]

theorem not_parsing_of_asText (h : c.asText = .error f) : f.category ≠ .parsing := by
  unfold asText at h
  split at h
  · cases h
  · cases h
    simp [Failure.category]

theorem not_parsing_of_blank (h : c.blank = .error f) : f.category ≠ .parsing := by
  unfold blank at h
  split at h
  · cases h
  · cases h
    simp [Failure.category]

/-- A cell that denotes no integer is refused for a fault, or the failure is about the number. -/
theorem integer?_eq_error {refuse : CellFault → Failure} {shown : String}
    (h : c.integer? refuse shown = .error f) :
    (∃ fault, f = refuse fault) ∨ f.category ≠ .parsing := by
  have refused {fault : CellFault} (hf : Except.error (refuse fault) = (.error f : Except _ Int)) :
      (∃ fault, f = refuse fault) ∨ f.category ≠ .parsing :=
    .inl ⟨fault, (Except.error.inj hf).symm⟩
  cases c with
  | boolean | empty | time | notATime | notAvailable | list => exact refused h
  | dateTime | date | integer => cases h
  | float x =>
    simp only [integer?] at h
    split at h
    · exact refused h
    · split at h
      · exact refused h
      · cases h
  | decimal d =>
    cases d with
    | finite d =>
      simp only [integer?] at h
      split at h
      · split at h
        · exact refused h
        · cases h
      · cases h
        exact .inr (by simp [Failure.category])
    | infinite =>
      cases h
      exact .inr (by simp [Failure.category])
    | nan => exact refused h
  | text s =>
    simp only [integer?] at h
    split at h
    · exact refused h
    · unfold integerOfDigits at h
      split at h
      · cases h
        exact .inr (by simp [Failure.category])
      · split at h <;> cases h

theorem isNamedBy_of_readInteger (h : c.readInteger row field = .error f)
    (parsing : f.category = .parsing) : c.IsNamedBy row field f := by
  rcases cases_of_bind_eq_error h with hblank | ⟨isBlank, -, h⟩
  · exact absurd parsing (not_parsing_of_blank hblank)
  split at h
  · cases h
  rcases cases_of_bind_eq_error h with hquoted | ⟨shown, hquoted, h⟩
  · exact absurd parsing (not_parsing_of_quoted hquoted)
  rw [quoted_eq_ok_iff] at hquoted
  rcases cases_of_bind_eq_error h with hinteger | ⟨n, -, h⟩
  · rcases integer?_eq_error hinteger with ⟨fault, rfl⟩ | other
    · exact isNamedBy_refusal hquoted parsing
    · exact absurd parsing other
  · split at h
    · obtain rfl := Except.error.inj h
      exact isNamedBy_refusal hquoted parsing
    · cases h

theorem isNamedBy_of_readPercent (h : c.readPercent row = .error f)
    (parsing : f.category = .parsing) : c.IsNamedBy row .percentOfTotal f := by
  rcases cases_of_bind_eq_error h with hblank | ⟨isBlank, -, h⟩
  · exact absurd parsing (not_parsing_of_blank hblank)
  split at h
  · cases h
  split at h
  · obtain rfl := Except.error.inj h
    exact isNamedBy_refusal rfl parsing
  rcases cases_of_bind_eq_error h with htext | ⟨s, -, h⟩
  · exact absurd parsing (not_parsing_of_asText htext)
  split at h
  · cases h
  rcases cases_of_bind_eq_error h with hquoted | ⟨shown, hquoted, h⟩
  · exact absurd parsing (not_parsing_of_quoted hquoted)
  obtain rfl := Except.error.inj h
  exact isNamedBy_refusal (quoted_eq_ok_iff.1 hquoted) parsing

theorem not_parsing_of_readText (h : c.readText = .error f) : f.category ≠ .parsing := by
  rcases cases_of_bind_eq_error h with hblank | ⟨isBlank, -, h⟩
  · exact not_parsing_of_blank hblank
  split at h
  · cases h
  rcases cases_of_bind_eq_error h with htext | ⟨s, -, h⟩
  · exact not_parsing_of_asText htext
  · cases h

/-- In every column, a parsing error names the row, the field and the cell. -/
theorem isNamedBy_of_read (h : c.read row field field.kind = .error f)
    (parsing : f.category = .parsing) : c.IsNamedBy row field f := by
  cases field
  case percentOfTotal => exact isNamedBy_of_readPercent h parsing
  case pool | name | address => exact absurd parsing (not_parsing_of_readText h)
  all_goals exact isNamedBy_of_readInteger h parsing

end Cell

/-! ## Rows -/

/-- The failure is about the first fault of a row: its first cell that cannot be read, which a
    parsing error names, or the percentage of a row of which all cells were read. -/
inductive Record.FirstFault (layout : Layout) (row : Int) (cells : List Cell) (f : Failure) : Prop
  | cell {ahead behind : List (Option Field × Cell)} {field : Field} {c : Cell}
    (columns : layout.zip cells = ahead ++ (some field, c) :: behind)
    (readable : ∀ column ∈ ahead, Draft.IsReadable (some row) column)
    (unread : c.read (some row) field field.kind = .error f)
    (named : f.category = .parsing → c.IsNamedBy (some row) field f)
  | percentage (readable : ∀ column ∈ layout.zip cells, Draft.IsReadable (some row) column)
    (complaint : f = .invalid [Draft.percentageComplaint])

theorem Record.firstFault_of_ofCells {layout : Layout} {row : Int} {cells : List Cell} {f : Failure}
    (h : ofCells layout (some row) cells = .error f) : FirstFault layout row cells f := by
  rcases ofCells_eq_error_iff.1 h with
    ⟨ahead, field, c, behind, columns, readable, hread⟩ | ⟨d, x, hd, -, -, hf⟩
  · exact .cell columns readable hread (Cell.isNamedBy_of_read hread)
  · exact .percentage (Draft.isReadable_of_read hd) hf

/-! ## Tables -/

namespace Table

variable {layout : Layout} {headerRow : Int} {checkFinalPool : Bool} {rows : List Row}
  {records : List (Int × Record)} {f : Failure}

/-- The records of rows that are all read before one of them is used. -/
def readAll (layout : Layout) (rows : List Row) : Except Failure (List (Int × Record)) :=
  rows.mapM fun row =>
    (Record.ofCells layout (some row.number) row.cells).map fun r => (row.number, r)

theorem readAll_eq_ok_iff :
    readAll layout rows = .ok records ↔ Table.records layout rows = Builder.asRead records := by
  induction rows generalizing records with
  | nil => cases records <;> simp [readAll, Table.records, Builder.asRead, pure, Except.pure]
  | cons row rows ih =>
    rw [readAll, List.mapM_cons, ← readAll, Table.records, List.map_cons, ← Table.records]
    -- A row that cannot be read has no record, whatever stands behind it.
    cases hrow : Record.ofCells layout (some row.number) row.cells with
    | error g => cases records <;> simp [Builder.asRead, Except.map, bind, Except.bind]
    | ok r =>
      cases records with
      | nil =>
        cases readAll layout rows <;>
          simp [Builder.asRead, Except.map, bind, Except.bind, pure, Except.pure]
      | cons record records =>
        have rest := @ih records
        cases hrest : readAll layout rows <;>
          simp_all [Builder.asRead, Except.map, bind, Except.bind, pure, Except.pure, Prod.ext_iff]

/-- What goes wrong first in a table: a row has a fault, where the rows ahead of it were read and
    accepted; or the builder refuses a row, where that row was read too; or the end of the table is
    refused, where all rows were accepted. -/
inductive FirstProblem (layout : Layout) (headerRow : Int) (checkFinalPool : Bool) (rows : List Row)
    (f : Failure) : Prop
  | row {ahead behind : List Row} {row : Row} {records : List (Int × Record)} {b : Builder}
    (split : rows = ahead ++ row :: behind)
    (read : readAll layout ahead = .ok records)
    (accepted : Builder.feedAll { headerRow, checkFinalPool } (Builder.asRead records) = .ok b)
    (unread : Record.ofCells layout (some row.number) row.cells = .error f)
    (fault : Record.FirstFault layout row.number row.cells f)
  | step {ahead behind : List Row} {row : Row} {records : List (Int × Record)} {b : Builder}
    {r : Record}
    (split : rows = ahead ++ row :: behind)
    (read : readAll layout ahead = .ok records)
    (accepted : Builder.feedAll { headerRow, checkFinalPool } (Builder.asRead records) = .ok b)
    (readNext : Record.ofCells layout (some row.number) row.cells = .ok r)
    (refused : (b.feed row.number r).1 = .error f)
  | ending {records : List (Int × Record)} {b : Builder}
    (read : readAll layout rows = .ok records)
    (accepted : Builder.feedAll { headerRow, checkFinalPool } (Builder.asRead records) = .ok b)
    (refused : b.finish = .error f)

/-- A run over a table breaks off at its first row that has a fault or is refused. -/
theorem firstProblem_of_feedAll
    (h : Builder.feedAll { headerRow, checkFinalPool } (Table.records layout rows) = .error f) :
    FirstProblem layout headerRow checkFinalPool rows f := by
  obtain ⟨before, number, x, after, b, split, accepted, hx⟩ := Builder.exists_of_feedAll_eq_error h
  obtain ⟨ahead, rest, rfl, hahead, hrest⟩ := List.map_eq_append_iff.1 split
  obtain ⟨row, behind, rfl, heq, -⟩ := List.map_eq_cons_iff.1 hrest
  obtain ⟨rfl, rfl⟩ := Prod.mk.inj heq
  have read := readAll_eq_ok_iff.2 hahead
  rcases hx with unread | ⟨r, hr, refused⟩
  · exact .row rfl read accepted unread (Record.firstFault_of_ofCells unread)
  · exact .step rfl read accepted hr refused

/-- The records of a table behind rows that were read. -/
theorem records_split {ahead behind : List Row} {row : Row} (split : rows = ahead ++ row :: behind)
    (read : readAll layout ahead = .ok records) :
    Table.records layout rows = Builder.asRead records ++
      (row.number, Record.ofCells layout (some row.number) row.cells) ::
        Table.records layout behind := by
  rw [split, Table.records, List.map_append, List.map_cons, ← readAll_eq_ok_iff.1 read]
  rfl

/-- The first problem of a table is the failure that it is reported with. -/
theorem buildSchedule_of_firstProblem (h : FirstProblem layout headerRow checkFinalPool rows f) :
    buildSchedule headerRow checkFinalPool (Table.records layout rows) = .error f := by
  rw [buildSchedule_eq_bind]
  cases h with
  | row split read accepted unread =>
    rw [records_split split read, Builder.feedAll_append, accepted, unread]
    rfl
  | step split read accepted readNext refused =>
    rw [records_split split read, Builder.feedAll_append, accepted, readNext]
    simp only [Except.bind]
    rw [Builder.feedAll_cons_of_error refused]
  | ending read accepted refused =>
    rw [readAll_eq_ok_iff.1 read, accepted]
    exact refused

/-- A table gives the schedule of its records, all of them read before one is used, or else its
    first problem. -/
theorem buildSchedule_records_iff (layout : Layout) (headerRow : Int) (checkFinalPool : Bool)
    (rows : List Row) :
    (∀ s, buildSchedule headerRow checkFinalPool (Table.records layout rows) = .ok s ↔
      ∃ records, readAll layout rows = .ok records ∧
        buildSchedule headerRow checkFinalPool (Builder.asRead records) = .ok s) ∧
    ∀ f, buildSchedule headerRow checkFinalPool (Table.records layout rows) = .error f ↔
      FirstProblem layout headerRow checkFinalPool rows f := by
  refine ⟨fun s => ?_, fun f => ⟨fun h => ?_, buildSchedule_of_firstProblem⟩⟩
  · constructor
    · intro h
      obtain ⟨b, hrun, -⟩ := buildSchedule_eq_ok_iff.1 h
      obtain ⟨records, hread⟩ := Builder.exists_asRead_of_feedAll hrun
      exact ⟨records, readAll_eq_ok_iff.2 hread, hread ▸ h⟩
    · rintro ⟨records, hread, h⟩
      rwa [readAll_eq_ok_iff.1 hread]
  · rw [buildSchedule_eq_bind] at h
    cases hrun : Builder.feedAll { headerRow, checkFinalPool } (Table.records layout rows) with
    | error g =>
      rw [hrun] at h
      obtain rfl : g = f := Except.error.inj h
      exact firstProblem_of_feedAll hrun
    | ok b =>
      rw [hrun] at h
      obtain ⟨records, hread⟩ := Builder.exists_asRead_of_feedAll hrun
      exact .ending (readAll_eq_ok_iff.2 hread) (hread ▸ hrun) h

end Table

end VestingTable
