import VestingTable.Proofs.Assembly.Soundness

/-!
# A builder under any calls

A builder may be called on after a step failed, and after its end. It goes on to
obey the laws of the table (`Builder.Stands`), as long as no grand total comes
while a pool is open. What it has added up is more than its pools, though: a
header that is refused for the pool ahead of it was added up before. These
*refusals* are a ghost quantity of the run (`Builder.refusals`).

* `Builder.Stands.feed`: what a step keeps, whether it succeeds or fails;
* `Builder.run_consistent`: the state of a builder after any calls, and the rows
  that it remembers as skipped. A row is reported on before it is remembered, so
  those with too long a number are missing.
-/

namespace VestingTable

namespace Builder

/-- What a builder can be asked to do. -/
inductive Call
  | feed (row : Int) (r : Record)
  | finish

/-- The row of a call that feeds one. -/
def Call.fed? : Call → Option (Int × Record)
  | feed row r => some (row, r)
  | finish => none

/-- The builder after a call, whether it succeeded or failed. The end changes nothing. -/
def act (b : Builder) : Call → Builder
  | .feed row r => (b.feed row r).2
  | .finish => b

/-- The builder after calls. -/
def run (b : Builder) (calls : List Call) : Builder :=
  calls.foldl act b

/-- The subtotal of a header that is within the grand total, and is refused for the pool ahead of
    it. -/
def refused? (b : Builder) (row : Int) (r : Record) : Option Nat :=
  match b.schedule, r.entryAt row b.headerRow with
  | some s, .poolHeader _ subtotal =>
    if b.poolsTotal + subtotal ≤ s.total ∧ b.checkPool row ≠ .ok () then some subtotal else none
  | _, _ => none

/-- The subtotals of the headers that are refused for the pool ahead of them. -/
def refusals (b : Builder) : List Call → List Nat
  | [] => []
  | .feed row r :: calls => (b.refused? row r).toList ++ (b.act (.feed row r)).refusals calls
  | .finish :: calls => b.refusals calls

variable {b : Builder} {row : Int} {r : Record} {extra t : Nat}

/-! ## One step -/

/-- The builder obeys the laws of the table: it was given no grand total yet, or it holds pools
    under one, and headers that added `extra` were refused. -/
inductive Stands (b : Builder) (extra : Nat) : Prop
  | untouched (h : b.IsUntouched) (none : extra = 0)
  | lawful (t : Nat) (ps : List Pool) (h : b.Lawful t ps extra) (start : ps = [] → extra = 0)

theorem refused?_of_entry_ne (h : ∀ name n, r.entryAt row b.headerRow ≠ .poolHeader name n) :
    b.refused? row r = none := by
  unfold refused?
  split
  · exact absurd ‹_› (h _ _)
  · rfl

namespace Stands

theorem poolsTotal_of_empty (h : b.Stands extra) (hp : b.phase = .empty) :
    b.poolsTotal = 0 ∧ extra = 0 := by
  cases h with
  | untouched h none => exact ⟨h.poolsTotal, none⟩
  | lawful t ps h start =>
    rw [h.holds.phase, Phase.ofPools_eq_empty_iff] at hp
    subst hp
    obtain rfl := start rfl
    exact ⟨h.poolsTotal, rfl⟩

/-- A grand total changes nothing, or it is accepted where no pool is open. -/
theorem grandTotal (h : b.Stands extra) {total subtotal : Option Nat}
    (undisturbed : ∀ t, total = some t → subtotal = some t → b.phase = .empty) :
    (b.grandTotal row total subtotal).2.Stands extra := by
  rcases b.grandTotal_cases row total subtotal with ⟨f, hf⟩ | ⟨t, htotal, hsubtotal, hf⟩
  · rw [hf, snd_refuse]
    exact h
  · have hp := undisturbed t htotal hsubtotal
    obtain ⟨hzero, rfl⟩ := h.poolsTotal_of_empty hp
    rw [hf, snd_done]
    exact .lawful t [] (.of_nil ⟨rfl, hp⟩ hzero) fun _ => rfl

/-- A header changes nothing, is added up and refused, or opens a pool. -/
theorem openPool (h : b.Stands extra) {name : String} {n : Nat}
    (hentry : r.entryAt row b.headerRow = .poolHeader name n) :
    (b.openPool row name n).2.Stands (extra + (b.refused? row r).getD 0) := by
  cases h with
  | untouched h none =>
    have hrefused : b.refused? row r = Option.none := by simp [refused?, h.schedule]
    rw [openPool_of_none h.schedule, hrefused]
    exact .untouched h none
  | lawful t ps h start =>
    simp only [refused?, h.holds.schedule, hentry]
    by_cases hlt : t < b.poolsTotal + n
    · rw [if_neg (fun hr => Nat.not_lt.2 hr.1 hlt), h.holds.openPool_of_lt hlt]
      exact .lawful t ps h start
    have hle := Nat.not_lt.1 hlt
    cases hc : b.checkPool row with
    | ok =>
      rw [if_neg (fun hr => hr.2 rfl)]
      exact .lawful t _ (h.openPool_of_ok hle hc) fun hp => absurd hp (by simp)
    | error f =>
      -- The subtotals were raised before the pool ahead was checked. There is such a pool, or the
      -- check would have passed.
      rw [if_pos ⟨hle, by simp⟩]
      refine .lawful t ps (h.openPool_of_error hle hc) ?_
      rintro rfl
      rw [h.holds.checkPool_of_nil] at hc
      exact absurd hc (by simp)

/-- An account changes nothing, or goes to the last pool. -/
theorem addAccount (h : b.Stands extra) (row : Int) (a : Account) :
    (b.addAccount row a).2.Stands extra := by
  cases h with
  | untouched h none =>
    rw [addAccount_of_none h.schedule]
    exact .untouched h none
  | lawful t ps h start =>
    rcases ps.eq_nil_or_concat' with rfl | ⟨front, p, rfl⟩
    · rw [h.holds.addAccount_of_nil]
      exact .lawful t [] h start
    · exact .lawful t _ (h.addAccount row a) fun hp => absurd hp (by simp)

theorem skip (h : b.Stands extra) (row : Int) (r : Record) : (b.skip row r).2.Stands extra := by
  cases h with
  | untouched h none => exact .untouched (h.skip row r) none
  | lawful t ps h start => exact .lawful t ps (h.skip row r) start

theorem see (h : b.Stands extra) (row : Int) : (b.see row).Stands extra := by
  cases h with
  | untouched h none => exact .untouched (h.see row) none
  | lawful t ps h start => exact .lawful t ps (h.see row) start

/-- A step keeps the laws of the table, whether it succeeds or fails. -/
theorem feed (h : b.Stands extra)
    (undisturbed : ∀ t, r.entryAt row b.headerRow = .grandTotal (some t) (some t) →
      b.phase = .empty) :
    (b.feed row r).2.Stands (extra + (b.refused? row r).getD 0) := by
  have seen := h.see row
  cases he : r.entryAt row b.headerRow with
  | grandTotal total subtotal =>
    rw [feed_grandTotal he, refused?_of_entry_ne fun _ _ => by simp [he]]
    refine seen.grandTotal fun t htotal hsubtotal => undisturbed t ?_
    rw [he, htotal, hsubtotal]
  | poolHeader name n =>
    rw [feed_poolHeader he]
    exact seen.openPool he
  | account a =>
    rw [feed_account he, refused?_of_entry_ne fun _ _ => by simp [he]]
    exact seen.addAccount row a
  | unrecognized =>
    rw [feed_unrecognized he, refused?_of_entry_ne fun _ _ => by simp [he]]
    exact seen.skip row r

end Stands

/-! ## Rows that are skipped -/

/-- The rows that are fed without being blank or recognized, in the order of the calls. -/
def unrecognizedRows (headerRow : Int) (calls : List Call) : List Int :=
  ((calls.filterMap Call.fed?).filter fun row =>
    row.2.kindAt row.1 headerRow = .unrecognized ∧ row.2.isBlank = false).map Prod.fst

theorem unrecognizedRows_feed (headerRow row : Int) (r : Record) (calls : List Call) :
    unrecognizedRows headerRow (.feed row r :: calls) =
      (if r.kindAt row headerRow = .unrecognized ∧ r.isBlank = false then [row] else []) ++
        unrecognizedRows headerRow calls := by
  have fed : (Call.feed row r).fed? = some (row, r) := rfl
  rw [unrecognizedRows, List.filterMap_cons_some fed, List.filter_cons]
  simp only [decide_eq_true_eq]
  split <;> rfl

theorem skipped_grandTotal (b : Builder) (row : Int) (total subtotal : Option Nat) :
    (b.grandTotal row total subtotal).2.skipped = b.skipped := by
  rcases b.grandTotal_cases row total subtotal with ⟨f, h⟩ | ⟨t, -, -, h⟩
  · rw [h, snd_refuse]
  · rw [h, snd_done]

theorem skipped_openPool (b : Builder) (row : Int) (name : String) (subtotal : Nat) :
    (b.openPool row name subtotal).2.skipped = b.skipped := by
  rcases b.openPool_cases row name subtotal with ⟨f, h⟩ | ⟨s, -, -, ⟨f, -, h⟩ | ⟨-, h⟩⟩
  · rw [h, snd_refuse]
  · rw [h]
  · rw [h, snd_done]

theorem skipped_addAccount (b : Builder) (row : Int) (a : Account) :
    (b.addAccount row a).2.skipped = b.skipped := by
  rcases b.addAccount_cases row a with ⟨f, h⟩ | ⟨s, index, running, p, -, -, -, h⟩
  · rw [h, snd_refuse]
  · rw [h]

/-- A step remembers its row if it is neither blank nor recognized, and can be reported on. -/
theorem skipped_feed_eq (b : Builder) (row : Int) (r : Record) :
    (b.feed row r).2.skipped = b.skipped ++
      if (r.kindAt row b.headerRow = .unrecognized ∧ r.isBlank = false) ∧
        Numeral.spell (row :: r.integers) = .ok () then [row] else [] := by
  rw [← r.kind_entryAt row b.headerRow]
  cases he : r.entryAt row b.headerRow with
  | grandTotal total subtotal =>
    rw [feed_grandTotal he, skipped_grandTotal, if_neg (by simp [Entry.kind])]
    exact (List.append_nil _).symm
  | poolHeader name n =>
    rw [feed_poolHeader he, skipped_openPool, if_neg (by simp [Entry.kind])]
    exact (List.append_nil _).symm
  | account a =>
    rw [feed_account he, skipped_addAccount, if_neg (by simp [Entry.kind])]
    exact (List.append_nil _).symm
  | unrecognized =>
    rw [feed_unrecognized he]
    rcases (b.see row).skip_cases row r with ⟨hb, h⟩ | ⟨hb, ⟨f, hf, h⟩ | ⟨hf, h⟩⟩
    · rw [h, if_neg (by simp [hb])]
      exact (List.append_nil _).symm
    · rw [h, if_neg (by simp [hf])]
      exact (List.append_nil _).symm
    · rw [h, if_pos ⟨⟨rfl, hb⟩, hf⟩]
      rfl

/-- Where the integers of the records can be written, only the number of a row may be too long. -/
theorem skipped_feed (b : Builder) (row : Int) (fits : ∀ n ∈ r.integers, Numeral.Fits n) :
    (b.feed row r).2.skipped = b.skipped ++
      (if r.kindAt row b.headerRow = .unrecognized ∧ r.isBlank = false then [row] else []).filter
        fun row => Numeral.Fits row := by
  have spelled : Numeral.spell (row :: r.integers) = .ok () ↔ Numeral.Fits row := by
    rw [Numeral.spell_eq_ok_iff, List.forall_mem_cons]
    exact and_iff_left fits
  rw [skipped_feed_eq]
  by_cases hskip : r.kindAt row b.headerRow = .unrecognized ∧ r.isBlank = false
  · by_cases hrow : Numeral.Fits row <;> simp [hskip, spelled, hrow]
  · simp [hskip]

/-! ## All calls -/

/-- The builder is where its schedule says, and obeys the laws of the table. The subtotals that it
    has added up are those of its pools and of the headers that were `refused`. -/
structure Consistent (b : Builder) (refused : List Nat) : Prop where
  empty : b.phase = .empty → (∀ s ∈ b.schedule, s.pools = []) ∧ b.poolsTotal = 0
  inPool : ∀ index running, b.phase = .inPool index running → ∃ s p, b.schedule = some s ∧
    s.pools.length = index + 1 ∧ s.pools[index]? = some p ∧ running = p.accountsTotal
  balanced : ∀ s ∈ b.schedule, ∀ p ∈ s.pools.dropLast, p.IsBalanced
  poolsTotal : b.poolsTotal = b.schedule.elim 0 Schedule.allocated + addUp refused
  bound : ∀ s ∈ b.schedule, b.poolsTotal ≤ s.total

theorem Stands.consistent {refused : List Nat} (h : b.Stands (addUp refused)) :
    b.Consistent refused := by
  cases h with
  | untouched h none =>
    have no : ∀ s : Schedule, s ∉ b.schedule := fun s hs => by simp [h.schedule] at hs
    refine ⟨fun _ => ⟨fun s hs => absurd hs (no s), h.poolsTotal⟩, ?_,
      fun s hs => absurd hs (no s), by rw [h.poolsTotal, h.schedule, none]; rfl,
      fun s hs => absurd hs (no s)⟩
    intro index running hp
    rw [h.phase] at hp
    exact absurd hp Phase.noConfusion
  | lawful t ps h start =>
    have only : ∀ s ∈ b.schedule, s = { total := t, pools := ps } := fun s hs =>
      (Option.some.inj (h.holds.schedule.symm.trans hs)).symm
    refine ⟨fun hp => ?_, fun index running hp => ?_, fun s hs => only s hs ▸ h.balanced, ?_,
      fun s hs => only s hs ▸ h.bound⟩
    · rw [h.holds.phase, Phase.ofPools_eq_empty_iff] at hp
      subst hp
      exact ⟨fun s hs => by rw [only s hs], h.poolsTotal.trans ((Nat.zero_add _).trans (start rfl))⟩
    · rw [h.holds.phase] at hp
      obtain ⟨front, p, rfl, rfl, rfl⟩ := Phase.ofPools_eq_inPool hp
      exact ⟨_, p, h.holds.schedule, by simp, by simp, rfl⟩
    · rw [h.poolsTotal, h.holds.schedule]
      rfl

/-- Calls keep the laws of the table, if no grand total is accepted while a pool is open. -/
theorem Stands.run {calls : List Call} (h : b.Stands extra)
    (undisturbed : ∀ before row r after t, calls = before ++ .feed row r :: after →
      r.entryAt row b.headerRow = .grandTotal (some t) (some t) → (b.run before).phase = .empty) :
    (b.run calls).Stands (extra + addUp (b.refusals calls)) := by
  -- The induction is on the calls, with what was refused so far in `extra`.
  induction calls generalizing b extra with
  | nil => exact h
  | cons call calls ih =>
    cases call with
    | finish =>
      exact ih h fun before row r after t split => undisturbed (.finish :: before) row r after t
        (by rw [split, List.cons_append])
    | feed row r =>
      have step := h.feed fun t => undisturbed [] row r calls t rfl
      have rest := ih step fun before row' r' after t split he =>
        undisturbed (.feed row r :: before) row' r' after t (by rw [split, List.cons_append])
          (by rwa [headerRow_feed] at he)
      have added : addUp (b.refused? row r).toList = (b.refused? row r).getD 0 := by
        cases b.refused? row r <;> rfl
      rw [refusals, addUp_append, added, ← Nat.add_assoc]
      exact rest

theorem skipped_run (b : Builder) {calls : List Call}
    (fits : ∀ row r, .feed row r ∈ calls → ∀ n ∈ r.integers, Numeral.Fits n) :
    (b.run calls).skipped =
      b.skipped ++ (unrecognizedRows b.headerRow calls).filter fun row => Numeral.Fits row := by
  induction calls generalizing b with
  | nil => exact (List.append_nil _).symm
  | cons call calls ih =>
    have rest := fun row r hmem => fits row r (List.mem_cons_of_mem _ hmem)
    cases call with
    | finish => exact ih b rest
    | feed row r =>
      have step := skipped_feed b row (fits row r List.mem_cons_self)
      have later := ih (b.feed row r).2 rest
      rw [headerRow_feed, step, List.append_assoc, ← List.filter_append] at later
      rw [unrecognizedRows_feed]
      exact later

/-- A builder obeys the laws of the table after any calls, if no grand total is accepted while a
    pool is open. It has skipped the rows that were neither blank nor recognized, but for those
    whose number cannot be written. -/
theorem run_consistent (headerRow : Int) (checkFinalPool : Bool) (calls : List Call)
    (fits : ∀ row r, .feed row r ∈ calls → ∀ n ∈ r.integers, Numeral.Fits n)
    (undisturbed : ∀ before row r after t, calls = before ++ .feed row r :: after →
      r.entryAt row headerRow = .grandTotal (some t) (some t) →
      (run { headerRow, checkFinalPool } before).phase = .empty) :
    (run { headerRow, checkFinalPool } calls).Consistent
        (refusals { headerRow, checkFinalPool } calls) ∧
      (run { headerRow, checkFinalPool } calls).skipped =
        (unrecognizedRows headerRow calls).filter fun row => Numeral.Fits row := by
  have start : Stands { headerRow, checkFinalPool } 0 := .untouched (.init _ _) rfl
  have stands := start.run undisturbed
  rw [Nat.zero_add] at stands
  exact ⟨stands.consistent, skipped_run _ fits⟩

/-- What can be decided of the records that are fed: their integers can be written. -/
theorem fits_of_fed {calls : List Call}
    (h : ∀ call ∈ calls, ∀ fed ∈ call.fed?, ∀ n ∈ fed.2.integers, Numeral.Fits n) (row : Int)
    (r : Record) (mem : .feed row r ∈ calls) : ∀ n ∈ r.integers, Numeral.Fits n :=
  h _ mem (row, r) rfl

/-- Calls that go on after a header was refused, and after the end. -/
def stubbornCalls : List Call :=
  [.feed 5 (.ofTotal 10 10), .feed 6 (.ofHeader "Team" 6 ⟨false, 60, 0⟩),
    .feed 7 (.ofAccount "Ada" 4 ⟨false, 40, 0⟩), .feed 8 (.ofHeader "Seed" 3 ⟨false, 30, 0⟩),
    .feed 9 (Record.empty.set .address (some "see below")), .finish,
    .feed 10 (.ofHeader "Seed" 3 ⟨false, 30, 0⟩), .feed 11 (.ofAccount "Bob" 2 ⟨false, 20, 0⟩),
    .feed 12 (.ofHeader "Seed" 1 ⟨false, 10, 0⟩)]

theorem run_consistent_stubborn :
    (run {} stubbornCalls).Consistent [3] ∧ (run {} stubbornCalls).skipped = [9] := by
  have behind : ∀ call ∈ stubbornCalls.tail, ∀ row ∈ call.fed?, row.1 ≠ 5 := by decide
  have consistent := run_consistent 5 false stubbornCalls
    (fits_of_fed (by decide +kernel)) fun before row r after t split he => by
      cases before with
      | nil => rfl
      | cons call before =>
        -- Only the first call feeds a grand total.
        have h : .feed row r ∈ stubbornCalls.tail := by simp [split]
        exact absurd he (r.entryAt_ne_grandTotal (behind _ h (row, r) rfl) _ _)
  have refused : refusals { headerRow := 5, checkFinalPool := false } stubbornCalls = [3] := by
    decide +kernel
  have skipped : ((unrecognizedRows 5 stubbornCalls).filter fun row => Numeral.Fits row) = [9] := by
    decide +kernel
  rwa [refused, skipped] at consistent

/-- A row that is neither blank nor recognized, with the least number that is too long. -/
def longCalls : List Call :=
  [.feed Numeral.leastLong (Record.empty.set .address (some "see below"))]

/-- Not all rows that are neither blank nor recognized are remembered: the report on one whose number
    is too long fails ahead of that. -/
theorem not_run_consistent_long :
    ¬ ∀ (headerRow : Int) (checkFinalPool : Bool) (calls : List Call),
      (∀ row r, .feed row r ∈ calls → ∀ n ∈ r.integers, Numeral.Fits n) →
      (∀ before row r after t, calls = before ++ .feed row r :: after →
        r.entryAt row headerRow = .grandTotal (some t) (some t) →
        (run { headerRow, checkFinalPool } before).phase = .empty) →
      (run { headerRow, checkFinalPool } calls).Consistent
          (refusals { headerRow, checkFinalPool } calls) ∧
        (run { headerRow, checkFinalPool } calls).skipped = unrecognizedRows headerRow calls := by
  intro claimed
  obtain ⟨-, remembered⟩ := claimed 5 false longCalls (fits_of_fed (by decide +kernel))
    fun before row r after t split _ => by
      cases before with
      | nil => rfl
      | cons call before => exact absurd (List.cons.inj split).2 (by simp)
  have nothing : (run {} longCalls).skipped = [] := by
    decide +kernel
  have unrecognized : unrecognizedRows 5 longCalls = [(Numeral.leastLong : Int)] := by
    decide +kernel
  rw [nothing, unrecognized] at remembered
  exact List.cons_ne_nil _ _ remembered.symm

end Builder

end VestingTable
