import VestingTable.Proofs.Assembly.Calls
import VestingTable.Proofs.Assembly.Offence

/-!
# A grand total while a pool is open

A grand total that is accepted replaces the schedule, and a pool that is open goes with it.
The builder does not notice: it stays in that pool, at a place where its schedule has none
(`Builder.IsStale`). No call brings a pool back. A header is checked against the pool that
is gone, also when the grand total leaves room for it, and an account has nowhere to go;
further grand totals only change the total under which this is so.

* `Builder.IsStale.act`: what any call leaves of a stale builder;
* `Builder.IsStale.openPool`, `Builder.IsStale.finish_eq`: what it answers;
* `Builder.poolsTotal_run_le`: the subtotals that are added up, refused ones among them, are
  no more than what the records say;
* `Builder.run_stays_stale`: a builder behind such a grand total and any calls after it.
-/

namespace VestingTable

namespace Builder

variable {b : Builder} {row headerRow : Int} {r : Record} {t : Nat}

/-! ## Calls that give a grand total -/

/-- The grand total that a call gives: it feeds the row of the grand total, with two values that are
    equal. -/
def Call.total? (headerRow : Int) : Call → Option Nat
  | .feed row r =>
    match r.entryAt row headerRow with
    | .grandTotal (some total) (some subtotal) => if total = subtotal then some total else none
    | _ => none
  | .finish => none

/-- The grand total that was given last. -/
def lastTotal? (headerRow : Int) (calls : List Call) : Option Nat :=
  (calls.filterMap (Call.total? headerRow)).getLast?

theorem Call.total?_feed_of_ne (h : ∀ total subtotal,
    r.entryAt row headerRow ≠ .grandTotal total subtotal) :
    Call.total? headerRow (.feed row r) = none := by
  simp only [total?]
  split
  · exact absurd ‹_› (h _ _)
  · rfl

theorem Call.total?_feed_self (h : r .total = some t) (h' : r .subtotal = some t) :
    Call.total? headerRow (.feed headerRow r) = some t := by
  simp [total?, Record.entryAt_self, h, h']

/-- The total of a call is an integer of its record. -/
theorem Call.le_size_of_total? {call : Call} (h : call.total? headerRow = some t) :
    ∃ row r, call.fed? = some (row, r) ∧ t ≤ r.size := by
  cases call with
  | finish => contradiction
  | feed row r =>
    refine ⟨row, r, rfl, ?_⟩
    simp only [total?] at h
    split at h
    · next total subtotal he =>
      split at h
      · obtain rfl := Option.some.inj h
        have hmem : total ∈ (r.entryAt row headerRow).numbers := by simp [he, Entry.numbers]
        exact Record.natAbs_le_size (Record.mem_integers_of_mem_numbers hmem)
      · contradiction
    · contradiction

theorem lastTotal?_append_cons {before after : List Call} {call : Call}
    (h : call.total? headerRow = some t) :
    lastTotal? headerRow (before ++ call :: after) =
      some ((lastTotal? headerRow after).getD t) := by
  rw [lastTotal?, lastTotal?, List.filterMap_append, List.filterMap_cons_some h,
    List.getLast?_append, List.getLast?_cons]
  rfl

/-! ## Numbers of calls -/

/-- What the integers of the records that are fed add up to, their signs aside. -/
def callsSize (calls : List Call) : Nat :=
  Record.totalSize (calls.filterMap Call.fed?)

theorem callsSize_append (calls more : List Call) :
    callsSize (calls ++ more) = callsSize calls + callsSize more := by
  rw [callsSize, List.filterMap_append, Record.totalSize_append]
  rfl

theorem callsSize_feed (row : Int) (r : Record) (calls : List Call) :
    callsSize (.feed row r :: calls) = r.size + callsSize calls :=
  rfl

/-- The grand total that was given last is no more than what all records say. -/
theorem le_callsSize_of_lastTotal? {calls : List Call} (h : lastTotal? headerRow calls = some t) :
    t ≤ callsSize calls := by
  obtain ⟨call, hcall, htotal⟩ := List.mem_filterMap.1 (List.mem_of_getLast? h)
  obtain ⟨row, r, hfed, hle⟩ := Call.le_size_of_total? htotal
  exact Nat.le_trans hle
    (Record.size_le_totalSize (List.mem_filterMap.2 ⟨call, hcall, hfed⟩))

/-- A step adds up no more than its record says, whether it succeeds or fails. -/
theorem poolsTotal_feed_le (b : Builder) (row : Int) (r : Record) :
    (b.feed row r).2.poolsTotal ≤ b.poolsTotal + r.size := by
  cases he : r.entryAt row b.headerRow with
  | grandTotal total subtotal =>
    rw [feed_grandTotal he]
    rcases (b.see row).grandTotal_cases row total subtotal with ⟨f, h⟩ | ⟨t, -, -, h⟩ <;>
      exact h ▸ Nat.le_add_right ..
  | poolHeader name n =>
    have hmem : n ∈ (r.entryAt row b.headerRow).numbers := by simp [he, Entry.numbers]
    have hle : n ≤ r.size := Record.natAbs_le_size (Record.mem_integers_of_mem_numbers hmem)
    rw [feed_poolHeader he]
    rcases (b.see row).openPool_cases row name n with ⟨f, h⟩ | ⟨s, -, -, ⟨f, -, h⟩ | ⟨-, h⟩⟩
    · exact h ▸ Nat.le_add_right ..
    · exact h ▸ Nat.add_le_add_left hle _
    · exact h ▸ Nat.add_le_add_left hle _
  | account a =>
    rw [feed_account he]
    rcases (b.see row).addAccount_cases row a with ⟨f, h⟩ | ⟨s, index, running, p, -, -, -, h⟩ <;>
      exact h ▸ Nat.le_add_right ..
  | unrecognized =>
    rw [feed_unrecognized he, poolsTotal_skip]
    exact Nat.le_add_right ..

theorem poolsTotal_run_le (b : Builder) (calls : List Call) :
    (b.run calls).poolsTotal ≤ b.poolsTotal + callsSize calls := by
  induction calls generalizing b with
  | nil => exact Nat.le_refl _
  | cons call calls ih =>
    have rest := ih (b.act call)
    cases call with
    | finish => exact rest
    | feed row r =>
      have step := b.poolsTotal_feed_le row r
      rw [callsSize_feed]
      exact Nat.le_trans rest (by simp only [act]; omega)

/-- Calls keep what was asked of the builder. -/
theorem act_frame (b : Builder) (call : Call) :
    (b.act call).headerRow = b.headerRow ∧ (b.act call).checkFinalPool = b.checkFinalPool := by
  cases call with
  | finish => exact ⟨rfl, rfl⟩
  | feed row r =>
    obtain ⟨header, check, -⟩ := b.feed_frame row r
    exact ⟨header, check⟩

theorem run_frame (b : Builder) (calls : List Call) :
    (b.run calls).headerRow = b.headerRow ∧ (b.run calls).checkFinalPool = b.checkFinalPool := by
  induction calls generalizing b with
  | nil => exact ⟨rfl, rfl⟩
  | cons call calls ih =>
    obtain ⟨header, check⟩ := ih (b.act call)
    obtain ⟨header', check'⟩ := b.act_frame call
    exact ⟨header.trans header', check.trans check'⟩

/-! ## Stale builders -/

namespace IsStale

/-- A header is refused: the grand total is exceeded, or the pool ahead of it is gone. -/
theorem openPool (h : b.IsStale t) (row : Int) (name : String) (n : Nat) :
    (b.openPool row name n).1 = .error
      (if t < b.poolsTotal + n then Failure.raised (.totalExceeded row (b.poolsTotal + n) t)
        else .poolGone) ∧
      (b.openPool row name n).2.IsStale t ∧ (b.openPool row name n).2.phase = b.phase := by
  by_cases hlt : t < b.poolsTotal + n
  · rw [openPool_of_lt h.schedule hlt, if_pos hlt]
    exact ⟨rfl, h, rfl⟩
  · rw [openPool_of_error h.schedule (Nat.not_lt.1 hlt) (h.checkPool row), if_neg hlt]
    exact ⟨rfl, ⟨h.schedule, h.inPool⟩, rfl⟩

/-- A grand total is refused, or it is the one under which the builder is stale from now on. -/
theorem grandTotal (h : b.IsStale t) (row : Int) (total subtotal : Option Nat) :
    (b.grandTotal row total subtotal).2.IsStale
        (if total.isSome ∧ total = subtotal then total.getD t else t) ∧
      (b.grandTotal row total subtotal).2.phase = b.phase := by
  rcases total with _ | total
  · exact ⟨h, rfl⟩
  rcases subtotal with _ | subtotal
  · exact ⟨h, rfl⟩
  by_cases heq : total = subtotal
  · rw [Builder.grandTotal, if_pos heq, if_pos ⟨rfl, congrArg some heq⟩]
    exact ⟨⟨rfl, h.inPool⟩, rfl⟩
  · rw [Builder.grandTotal, if_neg heq, if_neg fun equal => heq (Option.some.inj equal.2)]
    exact ⟨h, rfl⟩

/-- Whatever is called, the builder stays stale and in the same place of the pool that is gone,
    under the grand total that was given last. -/
theorem act (h : b.IsStale t) (call : Call) :
    (b.act call).IsStale ((call.total? b.headerRow).getD t) ∧ (b.act call).phase = b.phase := by
  cases call with
  | finish => exact ⟨h, rfl⟩
  | feed row r =>
    have seen : (b.see row).IsStale t := ⟨h.schedule, h.inPool⟩
    rw [Builder.act]
    cases he : r.entryAt row b.headerRow with
    | grandTotal total subtotal =>
      rw [feed_grandTotal he]
      obtain ⟨stale, hphase⟩ := seen.grandTotal row total subtotal
      refine ⟨?_, hphase⟩
      have given : (Call.total? b.headerRow (.feed row r)).getD t =
          if total.isSome ∧ total = subtotal then total.getD t else t := by
        simp only [Call.total?, he]
        rcases total with _ | total
        · rfl
        rcases subtotal with _ | subtotal
        · rfl
        by_cases heq : total = subtotal <;> simp [heq]
      rwa [given]
    | poolHeader name n =>
      rw [feed_poolHeader he, Call.total?_feed_of_ne fun _ _ => by simp [he]]
      exact (seen.openPool row name n).2
    | account a =>
      rw [feed_account he, seen.addAccount, Call.total?_feed_of_ne fun _ _ => by simp [he]]
      exact ⟨seen, rfl⟩
    | unrecognized =>
      rw [feed_unrecognized he, Call.total?_feed_of_ne fun _ _ => by simp [he]]
      exact ⟨⟨by rw [schedule_skip]; exact seen.schedule, by rw [phase_skip]; exact seen.inPool⟩,
        phase_skip ..⟩

theorem run (h : b.IsStale t) (calls : List Call) :
    (b.run calls).IsStale ((lastTotal? b.headerRow calls).getD t) ∧
      (b.run calls).phase = b.phase := by
  induction calls generalizing b t with
  | nil => exact ⟨h, rfl⟩
  | cons call calls ih =>
    obtain ⟨stale, hphase⟩ := h.act call
    obtain ⟨stale', hphase'⟩ := ih stale
    refine ⟨?_, hphase'.trans hphase⟩
    have hhead : (b.act call).headerRow = b.headerRow := (b.act_frame call).1
    have last : (lastTotal? b.headerRow (call :: calls)).getD t =
        (lastTotal? b.headerRow calls).getD ((call.total? b.headerRow).getD t) := by
      cases htotal : call.total? b.headerRow with
      | none => rw [lastTotal?, List.filterMap_cons_none htotal]; rfl
      | some t' => rw [← List.nil_append (call :: calls), lastTotal?_append_cons htotal]; rfl
    rw [last, ← hhead]
    rwa [hhead] at stale' ⊢

/-- At the end there is a schedule without pools, unless the pool that is gone is to be checked. -/
theorem finish_eq (h : b.IsStale t) (fits : Numeral.Fits t) :
    b.finish = if b.checkFinalPool then .error .poolGone else .ok { total := t } := by
  have spelled : Numeral.spell [(t : Int)] = .ok () := by
    rwa [Numeral.spell_eq_ok_iff, List.forall_mem_singleton]
  rw [finish_of_some h.schedule, spelled]
  cases b.checkFinalPool with
  | false => rfl
  | true => simp [h.checkPool, Except.bind]

/-- A row answers as its header does. -/
theorem feed_poolHeader (h : b.IsStale t) {name : String} {n : Nat}
    (he : r.entryAt row b.headerRow = .poolHeader name n) :
    (b.feed row r).1 = .error
      (if t < b.poolsTotal + n then Failure.raised (.totalExceeded row (b.poolsTotal + n) t)
        else .poolGone) := by
  have seen : (b.see row).IsStale t := ⟨h.schedule, h.inPool⟩
  rw [Builder.feed_poolHeader he]
  exact (seen.openPool row name n).1

theorem feed_account (h : b.IsStale t) {a : Account}
    (he : r.entryAt row b.headerRow = .account a) : (b.feed row r).1 = .error .poolGone := by
  have seen : (b.see row).IsStale t := ⟨h.schedule, h.inPool⟩
  rw [Builder.feed_account he, seen.addAccount, fst_refuse,
    Failure.raised_of_fits (by simp [Failure.spelled])]

end IsStale

/-- Where the numbers can be written, only the number of the row may be too long to say that the
    grand total is exceeded. -/
theorem raised_totalExceeded {n : Nat} (hn : Numeral.Fits n) (ht : Numeral.Fits t) :
    Failure.raised (.totalExceeded row n t) =
      if Numeral.Fits row then .totalExceeded row n t else .longNumeral none := by
  split
  · next hrow => exact Failure.raised_of_fits (by simp [Failure.spelled, hrow, hn, ht])
  · next long => exact Failure.raised_of_not_fits List.mem_cons_self long

/-! ## All calls -/

/-- A grand total is accepted while a pool is open. Then the schedule has no pool any more, and the
    builder stays where it is, whatever is called after it: no account goes anywhere, no header
    opens a pool, and the end has no pool to give. -/
theorem run_stays_stale {checkFinalPool : Bool} {before after calls : List Call}
    {index running : Nat}
    (inPool : (run { headerRow, checkFinalPool } before).phase = .inPool index running)
    (accepted : ((run { headerRow, checkFinalPool } before).feed headerRow r).1 = .ok ())
    (split : calls = before ++ .feed headerRow r :: after)
    (small : callsSize calls < Numeral.tenTo Numeral.maxDigits) :
    ∃ t, lastTotal? headerRow calls = some t ∧
      (run { headerRow, checkFinalPool } calls).schedule = some { total := t } ∧
      (run { headerRow, checkFinalPool } calls).phase = .inPool index running ∧
      (run { headerRow, checkFinalPool } calls).finish =
        (if checkFinalPool then .error .poolGone else .ok { total := t }) ∧
      ∀ row next,
        (∀ a, next.entryAt row headerRow = .account a →
          ((run { headerRow, checkFinalPool } calls).feed row next).1 = .error .poolGone) ∧
        ∀ name n, next.entryAt row headerRow = .poolHeader name n →
          callsSize (calls ++ [.feed row next]) < Numeral.tenTo Numeral.maxDigits →
          ((run { headerRow, checkFinalPool } calls).feed row next).1 = .error
            (if t < (run { headerRow, checkFinalPool } calls).poolsTotal + n then
              if Numeral.Fits row then
                .totalExceeded row ((run { headerRow, checkFinalPool } calls).poolsTotal + n) t
              else .longNumeral none
            else .poolGone) := by
  obtain ⟨header, check⟩ := run_frame { headerRow, checkFinalPool } calls
  have headerBefore := (run_frame { headerRow, checkFinalPool } before).1
  have bound := poolsTotal_run_le { headerRow, checkFinalPool } calls
  obtain ⟨first, htotal, hsubtotal, hschedule, hphase, -⟩ :=
    feed_total_of_ok headerBefore.symm accepted
  have start : ((run { headerRow, checkFinalPool } before).feed headerRow r).2.IsStale first :=
    ⟨hschedule, by rw [hphase, inPool]; exact Phase.noConfusion⟩
  obtain ⟨stale, place⟩ := start.run after
  have runs : run { headerRow, checkFinalPool } calls =
      ((run { headerRow, checkFinalPool } before).feed headerRow r).2.run after := by
    rw [split, run, List.foldl_append]
    rfl
  rw [headerRow_feed, headerBefore, ← runs] at stale
  rw [← runs, hphase, inPool] at place
  have last : lastTotal? headerRow calls = some ((lastTotal? headerRow after).getD first) := by
    rw [split]
    exact lastTotal?_append_cons (Call.total?_feed_self htotal hsubtotal)
  have fits := Numeral.fits_natCast_of_le (le_callsSize_of_lastTotal? last) small
  refine ⟨_, last, stale.schedule, place, ?_,
    fun row next => ⟨fun a he => ?_, fun name n he hn => ?_⟩⟩
  · rw [stale.finish_eq fits, check]
  · exact stale.feed_account (by rwa [header])
  · -- The subtotals are among the numbers of the calls, and so is the one of the next header.
    rw [callsSize_append, callsSize_feed] at hn
    have hmem : n ∈ (next.entryAt row headerRow).numbers := by simp [he, Entry.numbers]
    have hle : n ≤ next.size := Record.natAbs_le_size (Record.mem_integers_of_mem_numbers hmem)
    have le : (run { headerRow, checkFinalPool } calls).poolsTotal + n ≤
        callsSize calls + (next.size + callsSize []) := by
      simp only [Nat.zero_add] at bound
      omega
    rw [stale.feed_poolHeader (by rwa [header]),
      raised_totalExceeded (Numeral.fits_natCast_of_le le hn) fits]

/-- Calls that go on behind a second grand total, and give further ones. -/
def regrantedCalls : List Call :=
  [.feed 5 (.ofTotal 10 10), .feed 6 (.ofHeader "Team" 6 ⟨false, 60, 0⟩),
    .feed 5 (.ofTotal 20 20), .feed 7 (.ofHeader "Seed" 9 ⟨false, 45, 0⟩),
    .feed 8 (.ofAccount "Ada" 4 ⟨false, 40, 0⟩), .finish, .feed 5 (.ofTotal 40 41),
    .feed 5 (.ofTotal 30 30)]

theorem run_stays_stale_regranted :
    (run {} regrantedCalls).schedule = some { total := 30 } ∧
      (run {} regrantedCalls).phase = .inPool 0 0 ∧
      (run {} regrantedCalls).finish = .ok { total := 30 } ∧
      ((run {} regrantedCalls).feed 9 (.ofAccount "Ada" 4 ⟨false, 40, 0⟩)).1 = .error .poolGone ∧
      ((run {} regrantedCalls).feed 9 (.ofHeader "Seed" 15 ⟨false, 5, 1⟩)).1 = .error .poolGone ∧
      ((run {} regrantedCalls).feed 9 (.ofHeader "Seed" 16 ⟨false, 5, 1⟩)).1 =
        .error (.totalExceeded 9 31 30) := by
  have last : lastTotal? 5 regrantedCalls = some 30 := by decide +kernel
  have added : (run {} regrantedCalls).poolsTotal = 15 := by decide +kernel
  have inPool : (run {} (regrantedCalls.take 2)).phase = .inPool 0 0 := by decide +kernel
  have accepted : ((run {} (regrantedCalls.take 2)).feed 5 (.ofTotal 20 20)).1 = .ok () := by
    decide +kernel
  obtain ⟨t, ht, schedule, phase, finish, answers⟩ :=
    run_stays_stale inPool accepted (rfl : regrantedCalls = _ ++ _ :: regrantedCalls.drop 3)
      (by decide +kernel)
  obtain rfl : t = 30 := Option.some.inj (ht.symm.trans last)
  have within := (answers 9 (.ofHeader "Seed" 15 ⟨false, 5, 1⟩)).2 "Seed" 15 rfl
    (by decide +kernel)
  have exceeding := (answers 9 (.ofHeader "Seed" 16 ⟨false, 5, 1⟩)).2 "Seed" 16 rfl
    (by decide +kernel)
  have fits : Numeral.Fits 9 := by decide +kernel
  rw [added, if_neg (by decide)] at within
  rw [added, if_pos (by decide), if_pos fits] at exceeding
  exact ⟨schedule, phase, finish, (answers 9 _).1 _ rfl, within, exceeding⟩

end Builder

end VestingTable
