import VestingTable.Proofs.Conversion.Keeping
import VestingTable.Proofs.Table.Records

/-!
# Schedules that a converter builds

A converter feeds the rows of a table to a builder by itself, and gives the schedule
that `buildSchedule` gives (`Converter.map_outcome_build`). What it builds from is the
table alone, whatever rows it remembers, so its statistics are those of the table
(`Converter.describes_of_outcome_build`).
-/

namespace VestingTable

open Entry

/-! ## Statistics -/

/-- The statistics are those of a schedule and of a table of so many rows, of which so many are
    blank. -/
structure Statistics.Describes (st : Statistics) (s : Schedule) (rows blank : Nat) : Prop where
  total : st.total = s.total
  pools : st.pools = s.pools.length
  accounts : st.accounts = (s.pools.flatMap Pool.accounts).length
  allocated : st.allocated = addUp (s.pools.map Pool.total)
  bound : st.allocated ≤ st.total
  ordered : st.skippedRows.Pairwise (· < ·)
  count : 1 + st.pools + st.accounts + st.skippedRows.length + blank = rows

/-- The statistics of a table with one grand total, in its first row. -/
theorem Builder.describes_statistics {b : Builder} {headerRow : Int} {checkFinalPool : Bool}
    {g : Record} {rows : List (Int × Record)} {s : Schedule}
    (once : ∀ row ∈ rows, row.1 ≠ headerRow)
    (ordered : (rows.map Prod.fst).Pairwise (· < ·))
    (hrun : feedAll { headerRow, checkFinalPool } (asRead ((headerRow, g) :: rows)) = .ok b)
    (hfinish : b.finish = .ok s) (settings : Settings) :
    (Converter.statistics { settings, skipped := b.skipped } s).Describes s (rows.length + 1)
      (rows.countP fun row => row.2.isBlank) := by
  obtain ⟨-, hpools, hallocated, haccounts, hskipped⟩ := run_of_total once hrun hfinish
  have pools : s.pools.length = ((ofRows headerRow rows).filterMap subtotal?).length := by
    rw [← map_total_pools, ← hpools, List.length_map]
  have accounts : s.accountCount = (s.pools.flatMap Pool.accounts).length :=
    (length_flatMap_accounts s.pools).symm
  have all := length_eq_counts once
  refine ⟨rfl, rfl, accounts, rfl, hallocated, ?_, ?_⟩
  · change b.skipped.Pairwise _
    rw [hskipped]
    exact ordered.sublist (leftOut_sublist headerRow rows)
  · change 1 + s.pools.length + s.accountCount + b.skipped.length + _ = _
    rw [accounts, haccounts, pools, hskipped]
    omega

/-! ## Building -/

namespace Settings

/-- The rows of a table, as settings have it read. -/
def tableRows (settings : Settings) (table : String) (files : Folder) : Except Failure (List Row) :=
  (Table.read table settings.sheet? settings.headerHeight).outcome files

/-- The schedule of rows, as settings have it built. -/
def scheduleOf (settings : Settings) (rows : List Row) : Except Failure Schedule :=
  buildSchedule settings.headerHeight settings.checkFinalPool (Table.records settings.layout rows)

end Settings

namespace Converter

/-- A converter only reports while it builds. -/
theorem onlyReports_build (c : Converter) (file : String) (title : Option String) :
    (c.build file title).OnlyReports := by
  unfold build
  refine .bind (Table.onlyReports_read _ _ _) fun rows => .bind (.of _) fun b => .bind (.of _)
    fun s => .bind (.report _ _) fun _ => ?_
  split
  · exact .bind (.report _ _) fun _ => .pure _
  · exact .pure _

/-- The builder that the rows of a table are fed to. -/
def builder (settings : Settings) : Builder where
  headerRow := settings.headerHeight
  checkFinalPool := settings.checkFinalPool

/-- What is built, step by step. -/
theorem outcome_build (c : Converter) (file : String) (title : Option String) (files : Folder) :
    (c.build file title).outcome files =
      ((Table.read file (c.sheet title) c.settings.headerHeight).outcome files).bind fun rows =>
        ((builder c.settings).feedAll (Table.records c.settings.layout rows)).bind fun b =>
          b.finish.map fun s => (s, { c with skipped := b.skipped }) := by
  unfold build Action.outcome
  rw [Action.run_bind]
  rcases (Table.read file (c.sheet title) c.settings.headerHeight).run { files } with ⟨_ | rows, s⟩
  · rfl
  · dsimp only
    simp only [Action.run_bind, Action.run_of, Action.run_report]
    rw [← builder]
    dsimp only [Except.bind]
    cases (builder c.settings).feedAll (Table.records c.settings.layout rows) with
    | error => rfl
    | ok b =>
      dsimp only
      cases b.finish with
      | error => rfl
      | ok s =>
        -- The report on the rows that are skipped comes only if there are any.
        dsimp only
        split <;> rfl

/-- What a build gives, it gives by its rows. -/
theorem outcome_build_eq_ok {c c' : Converter} {file : String} {title : Option String}
    {files : Folder} {schedule : Schedule}
    (h : (c.build file title).outcome files = .ok (schedule, c')) :
    ∃ rows b, (Table.read file (c.sheet title) c.settings.headerHeight).outcome files = .ok rows ∧
      (builder c.settings).feedAll (Table.records c.settings.layout rows) = .ok b ∧
      b.finish = .ok schedule ∧ c' = { c with skipped := b.skipped } := by
  rw [outcome_build] at h
  obtain ⟨rows, hrows, h⟩ := exists_of_bind_eq_ok h
  obtain ⟨b, hb, h⟩ := exists_of_bind_eq_ok h
  cases hs : b.finish with
  | error =>
    rw [hs] at h
    contradiction
  | ok s =>
    rw [hs] at h
    obtain ⟨rfl, rfl⟩ := Prod.mk.inj (Except.ok.inj h)
    exact ⟨rows, b, hrows, hb, hs, rfl⟩

/-- The rows of a table, as a converter reads them of a sheet. -/
def tableRows (c : Converter) (file : String) (title : Option String) (files : Folder) :
    Except Failure (List Row) :=
  (Table.read file (c.sheet title) c.settings.headerHeight).outcome files

/-- What is built and the schedule of the rows are the same. -/
theorem map_outcome_build_sheet (c : Converter) (file : String) (title : Option String)
    (files : Folder) : ((c.build file title).outcome files).map Prod.fst =
      (c.tableRows file title files).bind c.settings.scheduleOf := by
  rw [outcome_build, ← tableRows]
  cases c.tableRows file title files with
  | error => rfl
  | ok rows =>
    dsimp only [Except.bind]
    rw [Settings.scheduleOf, buildSchedule_eq_bind]
    change Except.map _ (((builder c.settings).feedAll _).bind _) =
      ((builder c.settings).feedAll _).bind _
    cases (builder c.settings).feedAll (Table.records c.settings.layout rows) with
    | error => rfl
    | ok b =>
      dsimp only [Except.bind]
      cases b.finish <;> rfl

/-- What is built and the schedule of the table are the same. -/
theorem map_outcome_build (c : Converter) (table : String) (files : Folder) :
    ((c.build table none).outcome files).map Prod.fst =
      (c.settings.tableRows table files).bind c.settings.scheduleOf :=
  c.map_outcome_build_sheet table none files

/-- A schedule that is built is described by its statistics, and its numbers can be written. -/
theorem describes_of_outcome_build {c c' : Converter} {table : String} {files : Folder}
    {schedule : Schedule}
    (h : (c.build table none).outcome files = .ok (schedule, c'))
    (short : ∀ rows, c.settings.tableRows table files = .ok rows →
      ∀ row ∈ rows, ∀ c ∈ row.cells, c.IsShort) :
    ∃ rows, c.settings.tableRows table files = .ok rows ∧
      c.settings.scheduleOf rows = .ok schedule ∧
      (c'.statistics schedule).Describes schedule rows.length
        (Table.blankRows c.settings.layout rows.tail).length ∧
      schedule.IsWritable ∧ ∀ n ∈ schedule.times, Numeral.Fits n := by
  obtain ⟨rows, b, hrows, hrun, hfinish, rfl⟩ := outcome_build_eq_ok h
  replace hrows : c.settings.tableRows table files = .ok rows := hrows
  have delivered := Table.delivered_of_read c.settings.headerHeight_pos hrows
  obtain ⟨records, hrecords⟩ := Builder.exists_asRead_of_feedAll hrun
  have built : c.settings.scheduleOf rows = .ok schedule :=
    buildSchedule_eq_ok_iff.2 ⟨b, hrun, hfinish⟩
  rw [hrecords] at hrun
  -- Without a row there would be no schedule in the end.
  have hne : records ≠ [] := by
    rintro rfl
    obtain rfl := Except.ok.inj hrun
    contradiction
  have fits := Table.fits_of_records delivered (short rows hrows) hrecords
  have length := congrArg List.length (Table.map_fst_of_records hrecords)
  have blank := Table.countP_isBlank_of_records (Table.tail_records hrecords)
  obtain ⟨g, rest, rfl, once, ordered⟩ := Table.exists_first delivered hrecords hne
  rw [List.length_map, List.length_map, List.length_cons] at length
  have describes := Builder.describes_statistics once ordered hrun hfinish c.settings
  rw [length] at describes
  exact ⟨rows, hrows, built, blank ▸ describes, Builder.isWritable_of_run once hrun hfinish fits⟩

end Converter

end VestingTable
