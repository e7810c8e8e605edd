import VestingTable.Proofs.Assembly.Order
import VestingTable.Proofs.Cell.Failing
import VestingTable.Proofs.Conversion.EndToEnd
import VestingTable.Proofs.Table.Numbering

/-!
# Conversions go by the numbers of the rows

A converter reads a table from the row of the grand total on, and it knows the grand total
by the number of its row. The rows of a table carry their own numbers, one after the other
(`Table.isNumbered`), so the grand total comes first and does not come again
(`Table.inOrder_records`). The failures that tell otherwise do not arise: neither those of
the table itself (`Table.not_isMisplaced_of_read`) nor those of its rows
(`Record.not_isMisplaced_of_ofCells`) are of this kind.

* `Converter.build_isOrdered`: what a converter does not meet in the rows of any table.
-/

namespace VestingTable

variable {f : Failure}

/-! ## The rows of a table in order -/

/-- A row that cannot be read is not said to be misplaced. -/
theorem Record.not_isMisplaced_of_ofCells {layout : Layout} {row : Option Int} {cells : List Cell}
    (scalar : ∀ c ∈ cells, c.IsScalar) (h : ofCells layout row cells = .error f) :
    ¬ f.IsMisplaced := by
  rcases names_or_escapes scalar h with ⟨field, c, fault, shown, -, -, rfl⟩ | escapes
  · exact id
  · obtain ⟨g, hg, unnamed⟩ := exists_of_escapes scalar escapes
    obtain rfl : g = f := Except.error.inj (hg.symm.trans h)
    rcases unnamed with ⟨digits, rfl⟩ | rfl <;> exact id

/-- Whether a path leads to something is not known only where a name is too long. -/
theorem Folder.eq_badPath_of_exists? {files : Folder} {p : Path}
    (h : files.exists? p = .error f) : f = .badPath .nameTooLong p.text := by
  unfold exists? at h
  split at h
  · contradiction
  · split at h
    · contradiction
    · exact (Except.error.inj h).symm
    · contradiction

namespace Table

/-- A table that cannot be read is not said to have misplaced rows. -/
theorem not_isMisplaced_of_read {file : String} {title : Option String} {header : Int}
    {files : Folder} (h : (read file title header).outcome files = .error f) :
    ¬ f.IsMisplaced := by
  rw [outcome_read] at h
  rcases cases_of_bind_eq_error h with hfound | ⟨found, -, h⟩
  · rw [Folder.eq_badPath_of_exists? hfound]
    exact id
  · cases found with
    | false =>
      rw [← Except.error.inj h]
      exact id
    | true =>
      rcases cases_of_bind_eq_error h with hspell | ⟨-, -, h⟩
      · rw [(Numeral.spell_eq_error_iff.1 hspell).2]
        exact id
      · split at h
        · rw [← Except.error.inj h]
          exact id
        · split at h
          · rw [← Except.error.inj h]
            exact id
          · cases h

/-- The records of rows that are delivered come in order. -/
theorem inOrder_records {header : Int} {rows : List Row} (layout : Layout)
    (delivered : Row.Delivered header rows) : InOrder header (Table.records layout rows) where
  first row hrow := by
    cases rows with
    | nil => contradiction
    | cons line rows =>
      obtain rfl := Option.some.inj hrow
      exact (delivered.number 0 line rfl).trans (Int.add_zero header)
  increasing := by
    rw [Table.records, List.map_map]
    exact delivered.pairwise
  unread row hrow f hf := by
    obtain ⟨line, hline, rfl⟩ := List.mem_map.1 hrow
    exact Record.not_isMisplaced_of_ofCells
      (fun c hc => (delivered.cells line hline c hc).isScalar) hf

/-- The grand total is the first row that is delivered, and no other. -/
theorem kind_eq_grandTotal_iff {header : Int} {rows : List Row} {layout : Layout}
    (delivered : Row.Delivered header rows) {i : Nat} {number : Int} {r : Record}
    (h : (Table.records layout rows)[i]? = some (number, .ok r)) :
    (r.entryAt number header).kind = .grandTotal ↔ i = 0 := by
  rw [Table.records, List.getElem?_map] at h
  obtain ⟨row, hrow, heq⟩ := Option.map_eq_some_iff.1 h
  obtain ⟨hnumber, -⟩ := Prod.mk.inj heq
  rw [r.kind_entryAt_eq_grandTotal_iff, ← hnumber, delivered.number i row hrow]
  omega

/-- The numbers of rows that are read can be written, with that behind the last one, if that behind
    the last row of the table can. -/
theorem fits_of_read {file : String} {title : Option String} {header height : Nat} {files : Folder}
    {rows : List Row} {layout : Layout} {records : List (Int × Record)} (hpos : 1 ≤ header)
    (h : (read file title header).outcome files = .ok rows)
    (hrecords : Table.records layout rows = Builder.asRead records)
    (hheight : height? file title files = some height)
    (fits : Numeral.Fits ((height : Int) + 1)) :
    ∀ row ∈ records, Numeral.Fits row.1 ∧ Numeral.Fits (row.1 + 1) := by
  obtain ⟨height', hheight', numbers⟩ := (isNumbered file title files hpos).numbers rows h
  obtain rfl : height' = height := Option.some.inj (hheight'.symm.trans hheight)
  intro row hrow
  have hnumber : row.1 ∈ rows.map Row.number := by
    rw [← map_fst_of_records hrecords]
    exact List.mem_map_of_mem hrow
  rw [numbers] at hnumber
  obtain ⟨i, hi, hrow⟩ := List.mem_map.1 hnumber
  rw [List.mem_range] at hi
  constructor
  all_goals
    refine Nat.lt_of_le_of_lt ?_ fits
    omega

end Table

/-! ## Conversions -/

namespace Converter

variable {c : Converter} {file : String} {title : Option String} {files : Folder}

/-- A build fails as the schedule of the rows does. -/
theorem outcome_build_eq_error_iff : (c.build file title).outcome files = .error f ↔
    (c.tableRows file title files).bind c.settings.scheduleOf = .error f := by
  rw [← map_outcome_build_sheet]
  cases (c.build file title).outcome files <;> simp [Except.map]

/-- A build that fails for a misplaced row has read a table without rows. -/
theorem tableRows_of_isMisplaced (h : (c.build file title).outcome files = .error f)
    (misplaced : f.IsMisplaced) : c.tableRows file title files = .ok [] := by
  rcases cases_of_bind_eq_error (outcome_build_eq_error_iff.1 h) with hread | ⟨rows, hrows, hbuild⟩
  · exact absurd misplaced (Table.not_isMisplaced_of_read hread)
  · have delivered := Table.delivered_of_read c.settings.headerHeight_pos hrows
    have none :=
      (Table.inOrder_records c.settings.layout delivered).eq_nil_of_isMisplaced hbuild misplaced
    rw [hrows, List.map_eq_nil_iff.1 none]

/-- A table without rows misses its grand total. -/
theorem outcome_build_of_nil (h : c.tableRows file title files = .ok []) :
    (c.build file title).outcome files = .error (.totalMissing c.settings.headerHeight 0) := by
  obtain ⟨-, fits, -⟩ := Table.outcome_read_eq_ok_iff.1 h
  rw [outcome_build_eq_error_iff, h]
  exact congrArg Except.error (Failure.raised_of_fits (by simpa [Failure.spelled] using fits))

/-- What a converter meets in the rows of a table, and what it does not. -/
structure IsOrdered (c : Converter) (file : String) (title : Option String) (files : Folder) :
    Prop where
  /-- The grand total is the first record that is fed, and no other. -/
  totalFirst : ∀ rows, c.tableRows file title files = .ok rows →
    ∀ i number r, (Table.records c.settings.layout rows)[i]? = some (number, .ok r) →
      ((r.entryAt number c.settings.headerHeight).kind = .grandTotal ↔ i = 0)
  /-- No pool is looked for that is gone. -/
  notIndex : ∀ f, (c.build file title).outcome files = .error f → f.category ≠ .index
  /-- No row is ahead of the grand total. -/
  notBeforeTotal : ∀ row pool headerRow,
    (c.build file title).outcome files ≠ .error (.beforeTotal row pool headerRow)
  /-- The grand total is missing exactly where there are no rows. -/
  totalMissing_iff : (∃ headerRow rowsSeen,
      (c.build file title).outcome files = .error (.totalMissing headerRow rowsSeen)) ↔
    c.tableRows file title files = .ok []
  /-- Where all records can be read, and what their integers add up to can be written, the laws of
      the table are all that a build fails for. The numbers of the rows cannot be written only in
      a table of so many rows that the number behind the last one is too long. -/
  laws : ∀ rows records height, c.tableRows file title files = .ok rows →
    Table.records c.settings.layout rows = Builder.asRead records →
    Record.totalSize records < Numeral.tenTo Numeral.maxDigits →
    Table.height? file (c.sheet title) files = some height → Numeral.Fits ((height : Int) + 1) →
    ∀ f, (c.build file title).outcome files = .error f →
      f.category = .structural ∨ f.category = .invariant

/-- Where all numbers can be written, a build fails for the laws of the table alone. -/
theorem category_of_error {rows : List Row} {records : List (Int × Record)} {height : Nat}
    (hrows : c.tableRows file title files = .ok rows)
    (hrecords : Table.records c.settings.layout rows = Builder.asRead records)
    (small : Record.totalSize records < Numeral.tenTo Numeral.maxDigits)
    (hheight : Table.height? file (c.sheet title) files = some height)
    (fits : Numeral.Fits ((height : Int) + 1))
    (h : (c.build file title).outcome files = .error f) :
    f.category = .structural ∨ f.category = .invariant := by
  have hpos := c.settings.headerHeight_pos
  have delivered := Table.delivered_of_read hpos hrows
  have written := Table.fits_of_read hpos hrows hrecords hheight fits
  obtain ⟨-, hhead, -⟩ := Table.outcome_read_eq_ok_iff.1 hrows
  have increasing := delivered.pairwise
  rw [← Table.map_fst_of_records hrecords] at increasing
  have tame : IsTame (c.settings.headerHeight : Int) records :=
    ⟨countP_le_one_of_increasing _ increasing, small⟩
  rw [outcome_build_eq_error_iff, hrows] at h
  replace h : c.settings.scheduleOf rows = .error f := h
  rw [Settings.scheduleOf, hrecords] at h
  exact tame.category_of_error hhead (fun row hrow => (written row hrow).1)
    (fun row hrow => (written row (List.mem_of_getLast? hrow)).2) h

/-- The rows of a table carry their own numbers, wherever the reading starts, and so a converter
    does not meet a second grand total, or none ahead of the other rows. -/
theorem build_isOrdered (c : Converter) (file : String) (title : Option String) (files : Folder) :
    (∀ (sheet : Option String) (header : Nat), 1 ≤ header →
      Table.IsNumbered file sheet files header) ∧ c.IsOrdered file title files := by
  refine ⟨fun sheet header hpos => Table.isNumbered file sheet files hpos, ?_⟩
  have misplaced {f : Failure} (h : (c.build file title).outcome files = .error f)
      (hf : f.IsMisplaced) : f = .totalMissing c.settings.headerHeight 0 :=
    Except.error.inj (h.symm.trans (outcome_build_of_nil (tableRows_of_isMisplaced h hf)))
  refine ⟨?_, ?_, ?_, ?_, ?_⟩
  · intro rows hrows i number r
    exact Table.kind_eq_grandTotal_iff
      (Table.delivered_of_read c.settings.headerHeight_pos hrows)
  · intro f h hindex
    rw [misplaced h (Failure.isMisplaced_of_index hindex)] at hindex
    contradiction
  · intro row pool headerRow h
    exact absurd (misplaced h trivial) Failure.noConfusion
  · refine ⟨?_, fun h => ⟨_, _, outcome_build_of_nil h⟩⟩
    rintro ⟨headerRow, rowsSeen, h⟩
    exact tableRows_of_isMisplaced h trivial
  · intro rows records height hrows hrecords small hheight fits f h
    exact category_of_error hrows hrecords small hheight fits h

/-! ### A table that ends too early -/

/-- A workbook with the sheet of notes without its last row, the only account of the last pool. -/
def shortFiles : Folder where
  nodes := [(⟨.workingDirectory, ["short.xlsx"]⟩,
    .file (.modern [{ notedSheet with rows := notedSheet.rows.dropLast }.toModern]))]

/-- A converter that has the last pool checked. -/
def strictConverter : Converter where
  settings := { standardSettings with checkFinalPool := true }

theorem build_isOrdered_short :
    ∃ whole, (Table.read "short.xlsx" none 1).outcome shortFiles = .ok whole ∧
      strictConverter.tableRows "short.xlsx" none shortFiles =
        .ok (whole.filter fun row => 5 ≤ row.number) ∧
      (whole.filter fun row => 5 ≤ row.number).map Row.number = [5, 6, 7, 8, 9, 10] ∧
      ∃ f, (strictConverter.build "short.xlsx" none).outcome shortFiles = .error f ∧
        (f.category = .structural ∨ f.category = .invariant) := by
  obtain ⟨numbered, ordered⟩ := build_isOrdered strictConverter "short.xlsx" none shortFiles
  have isNumbered := numbered none 5 (by decide)
  -- What the table says, and how the builder fails on it, is evaluated.
  have read : ((Table.read "short.xlsx" none 1).outcome shortFiles).toOption.isSome = true := by
    decide +kernel
  have height : Table.height? "short.xlsx" none shortFiles = some 10 := by decide +kernel
  have fed : ((strictConverter.tableRows "short.xlsx" none shortFiles).bind fun rows =>
      (builder strictConverter.settings).feedAll
        (Table.records strictConverter.settings.layout rows)).toOption.isSome = true := by
    decide +kernel
  have sizes : (strictConverter.tableRows "short.xlsx" none shortFiles).map (fun rows =>
      addUp ((Table.records strictConverter.settings.layout rows).map fun row =>
        row.2.toOption.elim 0 Record.size)) = .ok 36 := by
    decide +kernel
  have failed : (strictConverter.tableRows "short.xlsx" none shortFiles).bind
      strictConverter.settings.scheduleOf = .error (.poolUnbalanced 11 "Seed" 0 4) := by
    decide +kernel
  obtain ⟨whole, hwhole⟩ := exists_of_isSome read
  have hrows := isNumbered.filtered whole hwhole
  rw [if_pos (by decide +kernel)] at hrows
  obtain ⟨height', hheight, numbers⟩ := isNumbered.numbers _ hrows
  obtain rfl : height' = 10 := Option.some.inj (hheight.symm.trans height)
  replace hrows : strictConverter.tableRows "short.xlsx" none shortFiles = .ok _ := hrows
  have error := outcome_build_eq_error_iff.2 failed
  rw [hrows] at fed sizes
  obtain ⟨b, hrun⟩ := exists_of_isSome fed
  obtain ⟨records, hrecords⟩ := Builder.exists_asRead_of_feedAll hrun
  have size := Except.ok.inj sizes
  dsimp only at size
  rw [hrecords, Builder.asRead, List.map_map] at size
  have small : Record.totalSize records < Numeral.tenTo Numeral.maxDigits := by
    rw [show Record.totalSize records = 36 from size]
    decide +kernel
  exact ⟨whole, hwhole, hrows, numbers, _, error,
    ordered.laws _ records 10 hrows hrecords small height (by decide +kernel) _ error⟩

/-- It does make a difference to the rows of a table from where it is read, if the number of the row
    is too long to be reported. -/
theorem not_filtered_long :
    ¬ ∀ (file : String) (title : Option String) (files : Folder) (header : Nat), 1 ≤ header →
      ∀ rows, (Table.read file title 1).outcome files = .ok rows →
        (Table.read file title header).outcome files =
          .ok (rows.filter fun row => (header : Int) ≤ row.number) := by
  intro claimed
  have read : ((Table.read "short.xlsx" none 1).outcome shortFiles).toOption.isSome = true := by
    decide +kernel
  obtain ⟨whole, hwhole⟩ := exists_of_isSome read
  have filtered := claimed "short.xlsx" none shortFiles Numeral.leastLong (by decide +kernel) whole
    hwhole
  exact Numeral.not_fits_leastLong (Table.outcome_read_eq_ok_iff.1 filtered).2.1

end Converter

end VestingTable
