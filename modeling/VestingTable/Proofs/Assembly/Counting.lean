import VestingTable.Proofs.Assembly.Calls
import VestingTable.Proofs.Assembly.Offence

/-!
# Every row counts once

A table with one grand total, in its first row, is counted by the kinds of its rows.
Each row behind the first is the header of one pool, or one account, or it is skipped;
of those the blank ones are forgotten, and the others are remembered by their numbers
(`leftOut`).

* `Builder.skipped_of_feedAll`: what a run that succeeds remembers;
* `length_eq_counts`: the headers, the accounts, the rows that are left out and the blank
  ones are all rows;
* `Builder.run_of_total`: what a run and its end give.
-/

namespace VestingTable

open Entry

theorem Entry.kind_eq_unrecognized_iff {e : Entry} :
    e.kind = .unrecognized ↔ e = .unrecognized := by
  cases e <;> simp [kind]

/-! ## Rows that are left out -/

/-- The numbers of the rows that are neither blank nor recognized. -/
def leftOut (headerRow : Int) (rows : List (Int × Record)) : List Int :=
  (rows.filter fun row =>
    row.2.kindAt row.1 headerRow = .unrecognized ∧ row.2.isBlank = false).map Prod.fst

theorem leftOut_append (headerRow : Int) (rows more : List (Int × Record)) :
    leftOut headerRow (rows ++ more) = leftOut headerRow rows ++ leftOut headerRow more := by
  rw [leftOut, List.filter_append, List.map_append]
  rfl

theorem leftOut_singleton (headerRow row : Int) (r : Record) :
    leftOut headerRow [(row, r)] =
      if r.kindAt row headerRow = .unrecognized ∧ r.isBlank = false then [row] else [] := by
  by_cases h : r.kindAt row headerRow = .unrecognized ∧ r.isBlank = false <;> simp [leftOut, h]

/-- The rows that are left out come in the order of the table. -/
theorem leftOut_sublist (headerRow : Int) (rows : List (Int × Record)) :
    (leftOut headerRow rows).Sublist (rows.map Prod.fst) :=
  List.filter_sublist.map _

namespace Builder

variable {b b' : Builder} {row : Int} {r : Record} {rows : List (Int × Record)}

/-- A step that succeeds was reported on. -/
theorem skipped_feed_of_ok (hok : (b.feed row r).1 = .ok ()) :
    (b.feed row r).2.skipped = b.skipped ++ leftOut b.headerRow [(row, r)] := by
  rw [skipped_feed_eq, leftOut_singleton]
  congr 1
  refine if_congr (and_iff_left_of_imp ?_) rfl rfl
  rintro ⟨hkind, hb⟩
  rw [← r.kind_entryAt, kind_eq_unrecognized_iff] at hkind
  rw [feed_unrecognized hkind] at hok
  rcases (b.see row).skip_cases row r with ⟨hb', -⟩ | ⟨-, ⟨f, -, h⟩ | ⟨hf, -⟩⟩
  · exact absurd (hb.symm.trans hb') (by simp)
  · rw [h] at hok
    contradiction
  · exact hf

/-- A run that succeeds remembers the rows that are neither blank nor recognized. -/
theorem skipped_of_feedAll (hok : b.feedAll (asRead rows) = .ok b') :
    b'.skipped = b.skipped ++ leftOut b.headerRow rows := by
  refine feedAll_induction (P := fun fed m => m.skipped = b.skipped ++ leftOut b.headerRow fed) hok
    (List.append_nil _).symm ?_
  intro fed row r rest m _ hhead hm hfeed
  rw [skipped_feed_of_ok hfeed, hm, hhead, leftOut_append, List.append_assoc]

end Builder

/-! ## The kinds of rows -/

/-- A record without fields is nothing to the schedule. -/
theorem Record.kindAt_of_isBlank {r : Record} {row headerRow : Int} (hb : r.isBlank = true)
    (hrow : row ≠ headerRow) : r.kindAt row headerRow = .unrecognized := by
  have none (f : Field) : r.has f = false := by
    have all := hb
    rw [isBlank, Bool.not_eq_true', List.any_eq_false] at all
    simpa using all f (Field.mem_all f)
  simp [kindAt, hrow, present, none]

/-- The headers, the accounts, the rows that are left out and the blank ones are all rows. -/
theorem length_eq_counts {headerRow : Int} {rows : List (Int × Record)}
    (h : ∀ row ∈ rows, row.1 ≠ headerRow) :
    ((ofRows headerRow rows).filterMap subtotal?).length +
        ((ofRows headerRow rows).filterMap account?).length + (leftOut headerRow rows).length +
        rows.countP (fun row => row.2.isBlank) = rows.length := by
  induction rows with
  | nil => rfl
  | cons row rows ih =>
    obtain ⟨row, r⟩ := row
    have hrow : row ≠ headerRow := h (row, r) List.mem_cons_self
    have rest := ih fun row hmem => h row (List.mem_cons_of_mem _ hmem)
    have split : leftOut headerRow ((row, r) :: rows) =
        leftOut headerRow [(row, r)] ++ leftOut headerRow rows :=
      leftOut_append headerRow [(row, r)] rows
    -- A row that is recognized is not blank.
    have notBlank (hkind : (r.entryAt row headerRow).kind ≠ .unrecognized) : r.isBlank = false := by
      rw [r.kind_entryAt] at hkind
      by_contra hb
      exact hkind (Record.kindAt_of_isBlank (by simpa using hb) hrow)
    rw [split, leftOut_singleton, ← r.kind_entryAt, ofRows, List.map_cons, List.filterMap_cons,
      List.filterMap_cons, List.countP_cons, List.length_cons, ← rest]
    cases he : r.entryAt row headerRow with
    | grandTotal => exact absurd he (r.entryAt_ne_grandTotal hrow _ _)
    | poolHeader name n =>
      have hb := notBlank (by simp [he, Entry.kind])
      simp [subtotal?, account?, Entry.kind, hb, ofRows]
      omega
    | account a =>
      have hb := notBlank (by simp [he, Entry.kind])
      simp [subtotal?, account?, Entry.kind, hb, ofRows]
      omega
    | unrecognized =>
      cases hb : r.isBlank <;> simp [subtotal?, account?, Entry.kind, ofRows] <;> omega

theorem length_flatMap_accounts (ps : List Pool) :
    (ps.flatMap Pool.accounts).length = addUp (ps.map fun p => p.accounts.length) := by
  induction ps with
  | nil => rfl
  | cons p ps ih => rw [List.flatMap_cons, List.length_append, ih]; rfl

namespace Builder

variable {b : Builder} {headerRow : Int} {checkFinalPool : Bool} {g : Record}
  {rows : List (Int × Record)} {s : Schedule}

/-- A table with one grand total, in its first row, gives the schedule that the rows behind it say,
    and its builder remembers those that are left out. -/
theorem run_of_total (once : ∀ row ∈ rows, row.1 ≠ headerRow)
    (hrun : feedAll { headerRow, checkFinalPool } (asRead ((headerRow, g) :: rows)) = .ok b)
    (hfinish : b.finish = .ok s) :
    g .total = some s.total ∧ s.pools = pools (ofRows headerRow rows) ∧ s.allocated ≤ s.total ∧
      s.pools.flatMap Pool.accounts = (ofRows headerRow rows).filterMap account? ∧
      b.skipped = leftOut headerRow rows := by
  have skipped := skipped_of_feedAll hrun
  obtain ⟨hfeed, hrest⟩ := feedAll_asRead_cons_eq_ok.1 hrun
  obtain ⟨t, htotal, -, hschedule, hphase, hpools⟩ := feed_total_of_ok rfl hfeed
  have start : (feed { headerRow, checkFinalPool } headerRow g).2.Assembled t [] :=
    ⟨.of_nil ⟨hschedule, hphase⟩ hpools, rfl⟩
  have assembled := start.run (by rwa [headerRow_feed]) hrest
  rw [headerRow_feed, List.nil_append] at assembled
  obtain ⟨rfl, hallocated, -, -, haccounts⟩ := assembled.finish hfinish
  refine ⟨htotal, rfl, hallocated, haccounts, skipped.trans ?_⟩
  -- The row of the grand total is recognized by its number.
  change [] ++ leftOut headerRow ([(headerRow, g)] ++ rows) = _
  rw [List.nil_append, leftOut_append, leftOut_singleton, if_neg (by simp [Record.kindAt]),
    List.nil_append]

end Builder

end VestingTable
