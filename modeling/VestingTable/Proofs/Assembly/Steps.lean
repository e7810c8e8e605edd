import Mathlib.Tactic.Common
import VestingTable.Builder

/-!
# Steps and runs of a builder

What a step on a row can do, by what the row is to the schedule: each kind of row
has one lemma that lists all outcomes, with the builder after each of them
(`Builder.grandTotal_cases`, `Builder.openPool_cases`, `Builder.addAccount_cases`,
`Builder.skip_cases`). What steps keep follows from these.

A run stops at the first step that fails:

* `Builder.feedAll_induction`: what every step keeps holds behind a run that
  succeeds;
* `Builder.exists_of_feedAll_eq_error`, `Builder.feedAll_asRead_eq_error_iff`: a run fails
  with the first row that cannot be read, or the first step that fails.
-/

namespace VestingTable

theorem Record.entryAt_self (r : Record) (headerRow : Int) :
    r.entryAt headerRow headerRow = .grandTotal (r .total) (r .subtotal) :=
  if_pos rfl

/-- Only the row of the grand total is one. -/
theorem Record.entryAt_ne_grandTotal (r : Record) {row headerRow : Int} (h : row ≠ headerRow)
    (total subtotal : Option Nat) : r.entryAt row headerRow ≠ .grandTotal total subtotal := by
  unfold entryAt
  rw [if_neg h]
  split
  · exact Entry.noConfusion
  · split <;> exact Entry.noConfusion

theorem Record.kind_entryAt_eq_grandTotal_iff (r : Record) {row headerRow : Int} :
    (r.entryAt row headerRow).kind = .grandTotal ↔ row = headerRow := by
  rw [kind_entryAt, kindAt]
  split
  · simp [*]
  · split
    · simp [*]
    · split <;> simp [*]

/-- What a row can be, and the fields that it is so by. -/
theorem Record.entryAt_cases (r : Record) (row headerRow : Int) :
    row = headerRow ∧ r.entryAt row headerRow = .grandTotal (r .total) (r .subtotal) ∨
      row ≠ headerRow ∧ ((∃ name n, r .pool = some name ∧ r .subtotal = some n ∧
          r.entryAt row headerRow = .poolHeader name n) ∨
        (∃ name n, r .name = some name ∧ r .amount = some n ∧
          r.entryAt row headerRow = .account (r.account name n)) ∨
        r.entryAt row headerRow = .unrecognized) := by
  unfold entryAt
  split
  · next hrow => exact .inl ⟨hrow, rfl⟩
  · next hrow =>
    refine .inr ⟨hrow, ?_⟩
    split
    · next name n _ hname hn _ => exact .inl ⟨name, n, hname, hn, rfl⟩
    · split
      · next name n _ hname hn _ => exact .inr (.inl ⟨name, n, hname, hn, rfl⟩)
      · exact .inr (.inr rfl)

namespace Builder

variable {b : Builder} {row : Int} {r : Record}

/-! ## Steps by the entry of the row -/

theorem feed_grandTotal {total subtotal : Option Nat}
    (h : r.entryAt row b.headerRow = .grandTotal total subtotal) :
    b.feed row r = (b.see row).grandTotal row total subtotal := by
  simp only [feed, see, h]

theorem feed_poolHeader {name : String} {subtotal : Nat}
    (h : r.entryAt row b.headerRow = .poolHeader name subtotal) :
    b.feed row r = (b.see row).openPool row name subtotal := by
  simp only [feed, see, h]

theorem feed_account {a : Account} (h : r.entryAt row b.headerRow = .account a) :
    b.feed row r = (b.see row).addAccount row a := by
  simp only [feed, see, h]

theorem feed_unrecognized (h : r.entryAt row b.headerRow = .unrecognized) :
    b.feed row r = (b.see row).skip row r := by
  simp only [feed, see, h]

/-- A step that is done fails only for the numbers that it is reported on with. -/
@[simp] theorem fst_done (b : Builder) (ns : List Int) : (b.done ns).1 = Numeral.spell ns := rfl

@[simp] theorem snd_done (b : Builder) (ns : List Int) : (b.done ns).2 = b := rfl

@[simp] theorem fst_refuse (b : Builder) (f : Failure) : (b.refuse f).1 = .error f.raised := rfl

@[simp] theorem snd_refuse (b : Builder) (f : Failure) : (b.refuse f).2 = b := rfl

/-! ## What a step can do -/

/-- A grand total is refused, or its two values are equal and it replaces the schedule. -/
theorem grandTotal_cases (b : Builder) (row : Int) (total subtotal : Option Nat) :
    (∃ f, b.grandTotal row total subtotal = b.refuse f) ∨
      ∃ t, total = some t ∧ subtotal = some t ∧
        b.grandTotal row total subtotal =
          done { b with schedule := some { total := t } } [row, t] := by
  cases total with
  | none => exact .inl ⟨_, rfl⟩
  | some t =>
    cases subtotal with
    | none => exact .inl ⟨_, rfl⟩
    | some s =>
      by_cases hts : t = s
      · exact .inr ⟨t, rfl, by rw [hts], if_pos hts⟩
      · exact .inl ⟨_, if_neg hts⟩

/-- A header is refused, or it is within the grand total: then it is added up, and refused for the
    pool ahead of it or a pool is opened. -/
theorem openPool_cases (b : Builder) (row : Int) (name : String) (n : Nat) :
    (∃ f, b.openPool row name n = b.refuse f) ∨
      ∃ s, b.schedule = some s ∧ b.poolsTotal + n ≤ s.total ∧
        ((∃ f, b.checkPool row = .error f ∧
            b.openPool row name n = (.error f, { b with poolsTotal := b.poolsTotal + n })) ∨
          b.checkPool row = .ok () ∧
            b.openPool row name n = done { b with
              poolsTotal := b.poolsTotal + n
              schedule := some { s with pools := s.pools ++ [{ name, total := n }] }
              phase := .inPool s.pools.length 0 } [row, n]) := by
  unfold openPool
  cases hs : b.schedule with
  | none => exact .inl ⟨_, rfl⟩
  | some s =>
    by_cases hlt : s.total < b.poolsTotal + n
    · exact .inl ⟨_, if_pos hlt⟩
    · refine .inr ⟨s, rfl, Nat.not_lt.1 hlt, ?_⟩
      cases hc : b.checkPool row with
      | error f => exact .inl ⟨f, rfl, if_neg hlt⟩
      | ok => exact .inr ⟨rfl, if_neg hlt⟩

/-- An account is refused, or goes to the pool that is open. -/
theorem addAccount_cases (b : Builder) (row : Int) (a : Account) :
    (∃ f, b.addAccount row a = b.refuse f) ∨
      ∃ s index running p, b.schedule = some s ∧ b.phase = .inPool index running ∧
        s.pools[index]? = some p ∧
        b.addAccount row a = (.ok (), { b with
          schedule := some
            { s with pools := s.pools.set index { p with accounts := p.accounts ++ [a] } }
          phase := .inPool index (running + a.amount) }) := by
  unfold addAccount
  cases hs : b.schedule with
  | none => exact .inl ⟨_, rfl⟩
  | some s =>
    cases hp : b.phase with
    | empty => exact .inl ⟨_, rfl⟩
    | inPool index running =>
      cases hi : s.pools[index]? with
      | none => exact .inl ⟨.poolGone, by simp only [hi]⟩
      | some p => exact .inr ⟨s, index, running, p, rfl, rfl, hi, by simp only [hi]⟩

/-- A row that is skipped is remembered unless it is blank or cannot be reported on. -/
theorem skip_cases (b : Builder) (row : Int) (r : Record) :
    r.isBlank = true ∧ b.skip row r = (.ok (), b) ∨
      r.isBlank = false ∧
        ((∃ f, Numeral.spell (row :: r.integers) = .error f ∧ b.skip row r = (.error f, b)) ∨
          Numeral.spell (row :: r.integers) = .ok () ∧
            b.skip row r = (.ok (), { b with skipped := b.skipped ++ [row] })) := by
  unfold skip
  cases hb : r.isBlank with
  | true => exact .inl ⟨rfl, rfl⟩
  | false =>
    refine .inr ⟨rfl, ?_⟩
    cases hs : Numeral.spell (row :: r.integers) with
    | error f => exact .inl ⟨f, rfl, rfl⟩
    | ok => exact .inr ⟨rfl, rfl⟩

theorem openPool_of_none (h : b.schedule = none) (name : String) (subtotal : Nat) :
    b.openPool row name subtotal = b.refuse (.beforeTotal row true b.headerRow) := by
  simp [openPool, h]

/-- A header by which the grand total is exceeded changes nothing. -/
theorem openPool_of_lt {s : Schedule} {name : String} {n : Nat} (hs : b.schedule = some s)
    (hlt : s.total < b.poolsTotal + n) :
    b.openPool row name n = b.refuse (.totalExceeded row (b.poolsTotal + n) s.total) := by
  simp [openPool, hs, hlt]

/-- A header is added up before it is refused for the pool ahead of it. -/
theorem openPool_of_error {s : Schedule} {name : String} {n : Nat} {f : Failure}
    (hs : b.schedule = some s) (hle : b.poolsTotal + n ≤ s.total)
    (hc : b.checkPool row = .error f) :
    b.openPool row name n = (.error f, { b with poolsTotal := b.poolsTotal + n }) := by
  simp [openPool, hs, Nat.not_lt.2 hle, hc]

/-- A header that passes both checks opens a pool. -/
theorem openPool_of_ok {s : Schedule} {name : String} {n : Nat} (hs : b.schedule = some s)
    (hle : b.poolsTotal + n ≤ s.total) (hc : b.checkPool row = .ok ()) :
    b.openPool row name n = done { b with
      poolsTotal := b.poolsTotal + n
      schedule := some { s with pools := s.pools ++ [{ name, total := n }] }
      phase := .inPool s.pools.length 0 } [row, n] := by
  simp [openPool, hs, Nat.not_lt.2 hle, hc]

theorem addAccount_of_none (h : b.schedule = none) (a : Account) :
    b.addAccount row a = b.refuse (.beforeTotal row false b.headerRow) := by
  simp [addAccount, h]

/-- A row that is skipped changes neither the schedule nor where the builder is in it. -/
theorem skip_frame (b : Builder) (row : Int) (r : Record) :
    (b.skip row r).2.schedule = b.schedule ∧ (b.skip row r).2.phase = b.phase ∧
      (b.skip row r).2.poolsTotal = b.poolsTotal := by
  rcases b.skip_cases row r with ⟨-, h⟩ | ⟨-, ⟨f, -, h⟩ | ⟨-, h⟩⟩ <;>
    exact h ▸ ⟨rfl, rfl, rfl⟩

@[simp] theorem schedule_skip (b : Builder) (row : Int) (r : Record) :
    (b.skip row r).2.schedule = b.schedule :=
  (b.skip_frame row r).1

@[simp] theorem phase_skip (b : Builder) (row : Int) (r : Record) :
    (b.skip row r).2.phase = b.phase :=
  (b.skip_frame row r).2.1

@[simp] theorem poolsTotal_skip (b : Builder) (row : Int) (r : Record) :
    (b.skip row r).2.poolsTotal = b.poolsTotal :=
  (b.skip_frame row r).2.2

/-- A step on a row keeps what was asked of the builder, and counts the row. -/
theorem feed_frame (b : Builder) (row : Int) (r : Record) :
    (b.feed row r).2.headerRow = b.headerRow ∧
      (b.feed row r).2.checkFinalPool = b.checkFinalPool ∧
      (b.feed row r).2.rowsSeen = b.rowsSeen + 1 ∧ (b.feed row r).2.lastRow = some row := by
  cases he : r.entryAt row b.headerRow with
  | grandTotal total subtotal =>
    rw [feed_grandTotal he]
    rcases (b.see row).grandTotal_cases row total subtotal with ⟨f, h⟩ | ⟨t, -, -, h⟩ <;>
      exact h ▸ ⟨rfl, rfl, rfl, rfl⟩
  | poolHeader name n =>
    rw [feed_poolHeader he]
    rcases (b.see row).openPool_cases row name n with
      ⟨f, h⟩ | ⟨s, -, -, ⟨f, -, h⟩ | ⟨-, h⟩⟩ <;>
      exact h ▸ ⟨rfl, rfl, rfl, rfl⟩
  | account a =>
    rw [feed_account he]
    rcases (b.see row).addAccount_cases row a with ⟨f, h⟩ | ⟨s, index, running, p, -, -, -, h⟩ <;>
      exact h ▸ ⟨rfl, rfl, rfl, rfl⟩
  | unrecognized =>
    rw [feed_unrecognized he]
    rcases (b.see row).skip_cases row r with ⟨-, h⟩ | ⟨-, ⟨f, -, h⟩ | ⟨-, h⟩⟩ <;>
      exact h ▸ ⟨rfl, rfl, rfl, rfl⟩

@[simp] theorem headerRow_feed (b : Builder) (row : Int) (r : Record) :
    (b.feed row r).2.headerRow = b.headerRow :=
  (feed_frame b row r).1

/-! ## Grand totals and the end -/

/-- A grand total that is accepted replaces the schedule, and nothing else. -/
theorem feed_total_of_ok (hrow : row = b.headerRow) (hok : (b.feed row r).1 = .ok ()) :
    ∃ t, r .total = some t ∧ r .subtotal = some t ∧
      (b.feed row r).2.schedule = some { total := t } ∧ (b.feed row r).2.phase = b.phase ∧
      (b.feed row r).2.poolsTotal = b.poolsTotal := by
  rw [feed_grandTotal (by rw [hrow, Record.entryAt_self])] at hok ⊢
  rcases (b.see row).grandTotal_cases row (r .total) (r .subtotal) with
    ⟨f, h⟩ | ⟨t, htotal, hsubtotal, h⟩
  · rw [h] at hok
    exact absurd hok (by simp)
  · rw [h]
    exact ⟨t, htotal, hsubtotal, rfl, rfl, rfl⟩

theorem finish_of_none (h : b.schedule = none) :
    b.finish = .error (Failure.raised (.totalMissing b.headerRow b.rowsSeen)) := by
  simp [finish, h]

/-- At the end the last pool is checked, on demand, and the schedule is reported on. -/
theorem finish_of_some {s : Schedule} (h : b.schedule = some s) :
    b.finish = (if b.checkFinalPool then b.checkPool (b.lastRow.getD 0 + 1) else .ok ()).bind
      fun _ => (Numeral.spell [(s.total : Int)]).map fun _ => s := by
  simp only [finish, h]
  cases b.checkFinalPool <;> cases Numeral.spell [(s.total : Int)] <;>
    cases b.checkPool (b.lastRow.getD 0 + 1) <;> rfl

theorem finish_of_ok {s : Schedule} (hok : b.finish = .ok s) :
    b.schedule = some s ∧
      (b.checkFinalPool → b.checkPool (b.lastRow.getD 0 + 1) = .ok ()) := by
  cases h : b.schedule with
  | none =>
    rw [finish_of_none h] at hok
    exact absurd hok (by simp)
  | some s' =>
    rw [finish_of_some h] at hok
    cases hc : b.checkPool (b.lastRow.getD 0 + 1) <;> cases hb : b.checkFinalPool <;>
      cases hs : Numeral.spell [(s'.total : Int)] <;>
        simp_all [Except.bind, Except.map]

/-! ## Runs -/

/-- The rows of a table whose records could all be read. -/
def asRead (rows : List (Int × Record)) : List (Int × Except Failure Record) :=
  rows.map fun row => (row.1, .ok row.2)

@[simp] theorem asRead_append (rows more : List (Int × Record)) :
    asRead (rows ++ more) = asRead rows ++ asRead more :=
  List.map_append

theorem feedAll_append (b : Builder) (rows more : List (Int × Except Failure Record)) :
    b.feedAll (rows ++ more) = (b.feedAll rows).bind fun b => b.feedAll more := by
  induction rows generalizing b with
  | nil => rfl
  | cons row rows ih =>
    obtain ⟨row, _ | r⟩ := row
    · rfl
    · rw [List.cons_append, feedAll, feedAll]
      split
      · rfl
      · exact ih _

theorem feedAll_append_eq_ok {b b' : Builder} {rows more : List (Int × Except Failure Record)} :
    b.feedAll (rows ++ more) = .ok b' ↔ ∃ m, b.feedAll rows = .ok m ∧ m.feedAll more = .ok b' := by
  rw [feedAll_append]
  cases b.feedAll rows <;> simp [Except.bind]

/-- A run that succeeds could read all records. -/
theorem exists_asRead_of_feedAll {b b' : Builder} {rows : List (Int × Except Failure Record)}
    (h : b.feedAll rows = .ok b') : ∃ records, rows = asRead records := by
  induction rows generalizing b with
  | nil => exact ⟨[], rfl⟩
  | cons row rows ih =>
    obtain ⟨row, _ | r⟩ := row
    · contradiction
    · rw [feedAll] at h
      split at h
      · contradiction
      · obtain ⟨records, rfl⟩ := ih h
        exact ⟨(row, r) :: records, rfl⟩

/-- The first row is fed before the others. -/
theorem feedAll_asRead_cons (b : Builder) (row : Int) (r : Record) (rows : List (Int × Record)) :
    b.feedAll (asRead ((row, r) :: rows)) =
      (b.feed row r).1.bind fun _ => (b.feed row r).2.feedAll (asRead rows) := by
  rw [asRead, List.map_cons, feedAll]
  split <;> simp_all [asRead, Except.bind]

theorem feedAll_asRead_cons_eq_ok {b b' : Builder} {rows : List (Int × Record)} :
    b.feedAll (asRead ((row, r) :: rows)) = .ok b' ↔
      (b.feed row r).1 = .ok () ∧ (b.feed row r).2.feedAll (asRead rows) = .ok b' := by
  rw [feedAll_asRead_cons]
  cases (b.feed row r).1 <;> simp [Except.bind]

/-- A step that fails ends a run. -/
theorem feedAll_cons_of_error {f : Failure} {rows : List (Int × Except Failure Record)}
    (h : (b.feed row r).1 = .error f) : b.feedAll ((row, .ok r) :: rows) = .error f := by
  rw [feedAll]
  split
  · next hstep =>
    rw [hstep] at h
    exact congrArg Except.error (Except.error.inj h)
  · next hstep =>
    rw [hstep] at h
    cases h

/-- A run fails at the first row that cannot be read or whose step fails. -/
theorem exists_of_feedAll_eq_error {rows : List (Int × Except Failure Record)} {f : Failure}
    (h : b.feedAll rows = .error f) :
    ∃ before row x after m, rows = asRead before ++ (row, x) :: after ∧
      b.feedAll (asRead before) = .ok m ∧
      (x = .error f ∨ ∃ r, x = .ok r ∧ (m.feed row r).1 = .error f) := by
  induction rows generalizing b with
  | nil => contradiction
  | cons row rows ih =>
    obtain ⟨row, g | r⟩ := row
    · obtain rfl : g = f := Except.error.inj h
      exact ⟨[], row, _, rows, b, rfl, rfl, .inl rfl⟩
    · rw [feedAll] at h
      split at h
      · next g next hstep =>
        obtain rfl : g = f := Except.error.inj h
        exact ⟨[], row, _, rows, b, rfl, rfl, .inr ⟨r, rfl, by rw [hstep]⟩⟩
      · next next hstep =>
        obtain ⟨before, row', x, after, m, rfl, hbefore, hx⟩ := ih h
        refine ⟨(row, r) :: before, row', x, after, m, rfl, ?_, hx⟩
        exact feedAll_asRead_cons_eq_ok.2 ⟨by rw [hstep], by rwa [hstep]⟩

/-- Where all records were read, a run fails at the first row whose step fails. -/
theorem feedAll_asRead_eq_error_iff {rows : List (Int × Record)} {f : Failure} :
    b.feedAll (asRead rows) = .error f ↔
      ∃ before row r after m, rows = before ++ (row, r) :: after ∧
        b.feedAll (asRead before) = .ok m ∧ (m.feed row r).1 = .error f := by
  constructor
  · intro h
    obtain ⟨before, row, x, after, m, split, hbefore, hx⟩ := exists_of_feedAll_eq_error h
    obtain ⟨front, back, rfl, hfront, hback⟩ := List.map_eq_append_iff.1 split
    obtain ⟨⟨row', r⟩, after', rfl, heq, -⟩ := List.map_eq_cons_iff.1 hback
    obtain ⟨rfl, rfl⟩ := Prod.mk.inj heq
    rcases hx with hx | ⟨r', hr, hfeed⟩
    · contradiction
    · obtain rfl := Except.ok.inj hr
      rw [← hfront] at hbefore
      exact ⟨front, row', r, after', m, rfl, hbefore, hfeed⟩
  · rintro ⟨before, row, r, after, m, rfl, hbefore, hfeed⟩
    rw [asRead_append, feedAll_append, hbefore, Except.bind, feedAll_asRead_cons, hfeed]
    rfl

/-- What holds at the start of a run and is kept by every step that succeeds holds at the end of a
    run that does: it may speak of the rows fed so far. -/
theorem feedAll_induction {P : List (Int × Record) → Builder → Prop} {b b' : Builder}
    {rows : List (Int × Record)} (hok : b.feedAll (asRead rows) = .ok b') (start : P [] b)
    (step : ∀ fed row r rest m, rows = fed ++ (row, r) :: rest → m.headerRow = b.headerRow →
      P fed m → (m.feed row r).1 = .ok () → P (fed ++ [(row, r)]) (m.feed row r).2) :
    P rows b' := by
  -- The induction is on the rows that are still to be fed.
  suffices run : ∀ rest fed m, rows = fed ++ rest → m.headerRow = b.headerRow → P fed m →
      m.feedAll (asRead rest) = .ok b' → P rows b' from run rows [] b rfl rfl start hok
  intro rest
  induction rest with
  | nil =>
    intro fed m hrows _ hm hrun
    obtain rfl : m = b' := Except.ok.inj hrun
    rwa [hrows, List.append_nil]
  | cons row rest ih =>
    intro fed m hrows hhead hm hrun
    obtain ⟨hfeed, hrest⟩ := feedAll_asRead_cons_eq_ok.1 hrun
    exact ih (fed ++ [row]) _ (by rw [hrows, List.append_assoc]; rfl)
      (by rw [headerRow_feed, hhead]) (step fed row.1 row.2 rest m hrows hhead hm hfeed) hrest

/-- What a run keeps, and how it counts the rows. -/
theorem feedAll_frame {b b' : Builder} {rows : List (Int × Record)}
    (hok : b.feedAll (asRead rows) = .ok b') :
    b'.headerRow = b.headerRow ∧ b'.checkFinalPool = b.checkFinalPool ∧
      b'.rowsSeen = b.rowsSeen + rows.length ∧
      b'.lastRow = (rows.getLast?.map Prod.fst).or b.lastRow := by
  refine feedAll_induction (P := fun fed m => m.headerRow = b.headerRow ∧
    m.checkFinalPool = b.checkFinalPool ∧ m.rowsSeen = b.rowsSeen + fed.length ∧
    m.lastRow = (fed.getLast?.map Prod.fst).or b.lastRow) hok ⟨rfl, rfl, rfl, rfl⟩ ?_
  rintro fed row r rest m - - ⟨hhead, hcheck, hseen, -⟩ -
  obtain ⟨hhead', hcheck', hseen', hlast'⟩ := feed_frame m row r
  refine ⟨hhead'.trans hhead, hcheck'.trans hcheck, ?_, ?_⟩
  · rw [hseen', hseen, List.length_append, List.length_singleton, Nat.add_assoc]
  · rw [hlast', List.getLast?_concat]
    rfl

end Builder

/-- A schedule is built by a run and its end. -/
theorem buildSchedule_eq_bind (headerRow : Int) (checkFinalPool : Bool)
    (rows : List (Int × Except Failure Record)) :
    buildSchedule headerRow checkFinalPool rows =
      (Builder.feedAll { headerRow, checkFinalPool } rows).bind Builder.finish :=
  rfl

theorem buildSchedule_eq_ok_iff {headerRow : Int} {checkFinalPool : Bool}
    {rows : List (Int × Except Failure Record)} {s : Schedule} :
    buildSchedule headerRow checkFinalPool rows = .ok s ↔
      ∃ b, Builder.feedAll { headerRow, checkFinalPool } rows = .ok b ∧ b.finish = .ok s := by
  rw [buildSchedule_eq_bind]
  cases Builder.feedAll { headerRow, checkFinalPool } rows <;> simp [Except.bind]

end VestingTable