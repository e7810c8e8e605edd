import Mathlib.Data.List.Nodup
import VestingTable.Proofs.Assembly.Aside
import VestingTable.Proofs.Assembly.Offence

/-!
# Sentinel headers

The last pool of a table is checked if another header follows, or at the end if
this is asked for. So a table whose last pool is to be checked may as well end
with a *sentinel*, a header of a pool that receives nothing.

* `Builder.feedAll_checking`: a run does not depend on what is asked for at the
  end;
* `Builder.Assembled.feedAll_sentinel`: the end behind a sentinel, by the check of
  the last pool;
* `buildSchedule_append_sentinel`: the two ways to have the last pool checked
  fail alike, or build the same schedule but for the pool of the sentinel, unless
  the number of its row is too long to be reported.

A header has to pass the bound of the grand total before the pool ahead is
checked. That of the sentinel does, as the subtotals behind a run that succeeds
are within the bound already.
-/

namespace VestingTable

open Entry

theorem Record.entryAt_ofHeader {row headerRow : Int} (h : row ≠ headerRow) (name : String)
    (subtotal : Nat) (share : Decimal) :
    (ofHeader name subtotal share).entryAt row headerRow = .poolHeader name subtotal := by
  rw [entryAt, if_neg h]
  rfl

namespace Builder

variable {b : Builder} {row : Int}

/-! ## What is asked for at the end -/

/-- The builder of which it is asked, or not, to check the last pool. -/
def checking (b : Builder) (check : Bool) : Builder :=
  { b with checkFinalPool := check }

/-- The step of a builder of which the check of the last pool is asked or not. -/
def Step.checking (step : Step) (check : Bool) : Step :=
  (step.1, step.2.checking check)

/-- What is asked for at the end is kept aside. -/
def Aside.checking (check : Bool) (a : Aside) : Aside :=
  { a with checkFinalPool := check }

theorem skip_checking (b : Builder) (check : Bool) (row : Int) (r : Record) :
    (b.checking check).skip row r = (b.skip row r).checking check := by
  unfold skip
  split
  · rfl
  · split <;> rfl

/-- A step does not depend on what is asked for at the end. -/
theorem feed_checking (b : Builder) (check : Bool) (row : Int) (r : Record) :
    (b.checking check).feed row r = (b.feed row r).checking check := by
  have headerRow : (b.checking check).headerRow = b.headerRow := rfl
  cases he : r.entryAt row b.headerRow with
  | grandTotal total subtotal =>
    rw [feed_grandTotal he, feed_grandTotal (headerRow ▸ he)]
    exact grandTotal_mapAside (u := Aside.checking check) (b.see row) row total subtotal
  | poolHeader name n =>
    rw [feed_poolHeader he, feed_poolHeader (headerRow ▸ he)]
    exact openPool_mapAside (u := Aside.checking check) (b.see row) row name n
  | account a =>
    rw [feed_account he, feed_account (headerRow ▸ he)]
    exact addAccount_mapAside (u := Aside.checking check) (b.see row) row a
  | unrecognized =>
    rw [feed_unrecognized he, feed_unrecognized (headerRow ▸ he)]
    exact skip_checking (b.see row) check row r

/-- A run does not depend on what is asked for at the end. -/
theorem feedAll_checking (b : Builder) (check : Bool) (rows : List (Int × Except Failure Record)) :
    (b.checking check).feedAll rows = (b.feedAll rows).map fun b => b.checking check := by
  induction rows generalizing b with
  | nil => rfl
  | cons row rows ih =>
    obtain ⟨row, _ | r⟩ := row
    · rfl
    · rw [feedAll, feedAll, feed_checking]
      cases hfeed : b.feed row r with
      | mk outcome next =>
        cases outcome with
        | error f => rfl
        | ok => exact ih next

/-! ## The end behind a sentinel -/

/-- The header of a sentinel is reported on with its row and a zero, which can be written. -/
theorem spell_sentinel (row : Int) :
    Numeral.spell [row, ((0 : Nat) : Int)] = Numeral.spell [row] := by
  have zero : Numeral.Fits ((0 : Nat) : Int) := Numeral.fits_zero
  simp only [Numeral.spell, List.forall_mem_cons, zero, true_and]

/-- Behind a run that succeeds, a sentinel fails as the check of the last pool does, and else opens
    one more pool. -/
theorem Assembled.feedAll_sentinel {t : Nat} {es : List Entry} (h : b.Assembled t es)
    (hcheck : b.checkFinalPool = false) (hrow : row ≠ b.headerRow) (name : String)
    (share : Decimal) :
    (b.feedAll (asRead [(row, .ofHeader name 0 share)])).bind Builder.finish =
      (b.checkPool row).bind fun _ => (Numeral.spell [row]).bind fun _ =>
        (Numeral.spell [(t : Int)]).map fun _ =>
          ({ total := t, pools := pools es ++ [{ name, total := 0 }] } : Schedule) := by
  have entry := Record.entryAt_ofHeader hrow name 0 share
  have holds := h.lawful.holds.see row
  -- The sentinel adds nothing to the subtotals.
  have within : (b.see row).poolsTotal + 0 ≤ t := h.lawful.bound
  have same : (b.see row).checkPool row = b.checkPool row := rfl
  rw [feedAll_asRead_cons, feed_poolHeader entry]
  cases hc : b.checkPool row with
  | error f =>
    rw [holds.openPool_of_error within (same.trans hc)]
    rfl
  | ok =>
    rw [holds.openPool_of_ok within (same.trans hc), fst_done, snd_done, spell_sentinel]
    cases Numeral.spell [row] with
    | error f => rfl
    | ok =>
      have unchecked : (b.see row).checkFinalPool = false := hcheck
      simp only [Except.bind, asRead, List.map_nil, feedAll]
      rw [finish_of_some rfl, unchecked]
      cases Numeral.spell [(t : Int)] <;> rfl

/-- The end where the check of the last pool is asked for. -/
theorem Assembled.finish_asked {t : Nat} {es : List Entry} (h : b.Assembled t es)
    (hcheck : b.checkFinalPool = true) (hlast : b.lastRow = some row) :
    b.finish = (b.checkPool (row + 1)).bind fun _ =>
      (Numeral.spell [(t : Int)]).map fun _ => { total := t, pools := pools es } := by
  rw [finish_of_some h.lawful.holds.schedule, if_pos hcheck, hlast]
  rfl

/-- The builder has assembled the same if it is asked for something else. -/
theorem Assembled.checking {t : Nat} {es : List Entry} (h : b.Assembled t es) (check : Bool) :
    (b.checking check).Assembled t es where
  lawful := ⟨⟨h.lawful.holds.schedule, h.lawful.holds.phase⟩, h.lawful.poolsTotal, h.lawful.bound,
    h.lawful.balanced⟩
  ahead := h.ahead

end Builder

/-- The numbers of the rows behind the first one are greater, where they increase. -/
theorem head_le_of_increasing {rows : List (Int × Record)} (nonempty : rows ≠ [])
    (increasing : (rows.map Prod.fst).Pairwise (· < ·)) :
    ∀ row ∈ rows, (rows.head nonempty).1 ≤ row.1 := by
  cases rows with
  | nil => exact absurd rfl nonempty
  | cons first rest =>
    intro row hrow
    rcases List.mem_cons.1 hrow with rfl | hrow
    · exact Int.le_refl _
    · exact Int.le_of_lt ((List.pairwise_cons.1 increasing).1 _ (List.mem_map_of_mem hrow))

/-- Where the numbers of the rows increase, only one row has a given one. -/
theorem countP_le_one_of_increasing {rows : List (Int × Record)} (headerRow : Int)
    (increasing : (rows.map Prod.fst).Pairwise (· < ·)) :
    rows.countP (fun row => row.1 = headerRow) ≤ 1 := by
  have distinct : (rows.map Prod.fst).Nodup := increasing.imp fun h => Int.ne_of_lt h
  have count := List.nodup_iff_count_le_one.1 distinct headerRow
  rw [List.count, List.countP_map] at count
  exact count

/-- The check of the last pool at the end of a table and a sentinel behind it fail alike, or the
    sentinel only adds its pool to the schedule. A sentinel in a row whose number is too long to be
    written cannot be reported on. -/
theorem buildSchedule_append_sentinel {headerRow : Int} {rows : List (Int × Record)}
    (nonempty : rows ≠ []) (start : (rows.head nonempty).1 = headerRow)
    (increasing : (rows.map Prod.fst).Pairwise (· < ·)) (name : String) (share : Decimal) :
    (∀ f, buildSchedule headerRow true (Builder.asRead rows) = .error f →
      buildSchedule headerRow false (Builder.asRead
        (rows ++ [((rows.getLast nonempty).1 + 1, .ofHeader name 0 share)])) = .error f) ∧
    ∀ s, buildSchedule headerRow true (Builder.asRead rows) = .ok s →
      buildSchedule headerRow false (Builder.asRead
        (rows ++ [((rows.getLast nonempty).1 + 1, .ofHeader name 0 share)])) =
          if Numeral.Fits ((rows.getLast nonempty).1 + 1) then
            .ok { s with pools := s.pools ++ [{ name, total := 0 }] }
          else .error (.longNumeral none) := by
  have last_ge : headerRow ≤ (rows.getLast nonempty).1 :=
    start ▸ head_le_of_increasing nonempty increasing _ (List.getLast_mem nonempty)
  have notTotal : (rows.getLast nonempty).1 + 1 ≠ headerRow := by omega
  -- The run is the same whether the check is asked for or not.
  have unasked : ({ headerRow, checkFinalPool := false } : Builder) =
      ({ headerRow, checkFinalPool := true } : Builder).checking false := rfl
  simp only [buildSchedule_eq_bind, Builder.asRead_append, Builder.feedAll_append, unasked,
    Builder.feedAll_checking]
  cases hrun : Builder.feedAll { headerRow, checkFinalPool := true } (Builder.asRead rows) with
  | error f => exact ⟨fun _ h => h, fun _ h => absurd h (by simp [Except.bind])⟩
  | ok m =>
    obtain ⟨hhead, hcheck, -, hlast⟩ := Builder.feedAll_frame hrun
    rw [List.getLast?_eq_some_getLast nonempty] at hlast
    have follows := Builder.Follows.run (countP_le_one_of_increasing headerRow increasing) hrun
    -- The first row is the grand total, so the others were assembled behind it.
    have total : ∃ e ∈ ofRows headerRow rows, e.kind = .grandTotal :=
      ⟨_, List.mem_map_of_mem (List.head_mem nonempty),
        (Record.kind_entryAt_eq_grandTotal_iff _).2 start⟩
    obtain ⟨t, -, assembled⟩ := follows.exists_assembled total
    have behind := (assembled.checking false).feedAll_sentinel rfl
      (fun h => notTotal (h.trans hhead)) name share
    have atEnd := assembled.finish_asked hcheck hlast
    have same (row : Int) : (m.checking false).checkPool row = m.checkPool row := rfl
    change (∀ f, m.finish = .error f →
        ((m.checking false).feedAll _).bind Builder.finish = .error f) ∧
      ∀ s, m.finish = .ok s → ((m.checking false).feedAll _).bind Builder.finish = _
    rw [behind, atEnd, same, Numeral.spell_singleton ((rows.getLast nonempty).1 + 1)]
    -- Both check the last pool first, and spell the grand total last.
    cases m.checkPool ((rows.getLast nonempty).1 + 1) with
    | error f =>
      simp only [Except.bind]
      exact ⟨fun _ h => h, fun _ h => absurd h (by simp)⟩
    | ok =>
      cases ht : Numeral.spell [(t : Int)] with
      | error f =>
        obtain rfl := (Numeral.spell_eq_error_iff.1 ht).2
        refine ⟨fun f h => ?_, fun _ h => absurd h (by simp [Except.bind, Except.map])⟩
        rw [← h]
        split <;> rfl
      | ok =>
        refine ⟨fun _ h => absurd h (by simp [Except.bind, Except.map]), fun s h => ?_⟩
        obtain rfl := Except.ok.inj h
        split <;> rfl

/-- A table with one pool of six, to which one account of some amount belongs. -/
def lonePoolTable (amount : Nat) : List (Int × Record) :=
  [(5, .ofTotal 10 10), (6, .ofHeader "Team" 6 ⟨false, 60, 0⟩),
    (7, .ofAccount "Ada" amount ⟨false, 60, 0⟩)]

theorem buildSchedule_append_sentinel_lone :
    buildSchedule 5 true (Builder.asRead (lonePoolTable 5)) = .error (.poolUnbalanced 8 "Team" 5 6) ∧
      buildSchedule 5 false (Builder.asRead
        (lonePoolTable 5 ++ [(8, .ofHeader "END" 0 ⟨false, 0, 0⟩)])) =
          .error (.poolUnbalanced 8 "Team" 5 6) ∧
      buildSchedule 5 false (Builder.asRead
        (lonePoolTable 6 ++ [(8, .ofHeader "END" 0 ⟨false, 0, 0⟩)])) =
          .ok { total := 10, pools := [
            { name := "Team", total := 6, accounts := [{ name := "Ada", amount := 6 }] },
            { name := "END", total := 0 }] } := by
  have short : buildSchedule 5 true (Builder.asRead (lonePoolTable 5)) =
      .error (.poolUnbalanced 8 "Team" 5 6) := by decide +kernel
  have balanced : buildSchedule 5 true (Builder.asRead (lonePoolTable 6)) =
      .ok { total := 10, pools := [
        { name := "Team", total := 6, accounts := [{ name := "Ada", amount := 6 }] }] } := by
    decide +kernel
  refine ⟨short, ?_, ?_⟩
  · exact (@buildSchedule_append_sentinel 5 (lonePoolTable 5) (by decide) rfl (by decide)
      "END" ⟨false, 0, 0⟩).1 _ short
  · have appended := (@buildSchedule_append_sentinel 5 (lonePoolTable 6) (by decide) rfl (by decide)
      "END" ⟨false, 0, 0⟩).2 _ balanced
    exact appended.trans (if_pos (by decide +kernel))

/-- A table of a grand total alone, in the last row whose number can be written. -/
def lastWritableTable : List (Int × Record) :=
  [((Numeral.leastLong : Int) - 1, .ofTotal 10 10)]

/-- A sentinel behind the last row whose number can be written fails, although the check of the last
    pool does not. -/
theorem not_append_sentinel_long :
    ¬ ∀ (headerRow : Int) (rows : List (Int × Record)) (nonempty : rows ≠ []),
      (rows.head nonempty).1 = headerRow → (rows.map Prod.fst).Pairwise (· < ·) →
      ∀ (name : String) (share : Decimal),
        (∀ f, buildSchedule headerRow true (Builder.asRead rows) = .error f →
          buildSchedule headerRow false (Builder.asRead
            (rows ++ [((rows.getLast nonempty).1 + 1, .ofHeader name 0 share)])) = .error f) ∧
        ∀ s, buildSchedule headerRow true (Builder.asRead rows) = .ok s →
          buildSchedule headerRow false (Builder.asRead
            (rows ++ [((rows.getLast nonempty).1 + 1, .ofHeader name 0 share)])) =
              .ok { s with pools := s.pools ++ [{ name, total := 0 }] } := by
  intro claimed
  have asked : buildSchedule ((Numeral.leastLong : Int) - 1) true
      (Builder.asRead lastWritableTable) = .ok { total := 10 } := by decide +kernel
  have behind : buildSchedule ((Numeral.leastLong : Int) - 1) false (Builder.asRead
      (lastWritableTable ++ [((Numeral.leastLong : Int) - 1 + 1, .ofHeader "END" 0 ⟨false, 0, 0⟩)])) =
        .error (.longNumeral none) := by decide +kernel
  obtain ⟨-, appended⟩ := claimed _ lastWritableTable (List.cons_ne_nil _ _) rfl
    (List.pairwise_singleton _ _) "END" ⟨false, 0, 0⟩
  exact absurd (behind.symm.trans (appended _ asked)) (by simp)

end VestingTable
