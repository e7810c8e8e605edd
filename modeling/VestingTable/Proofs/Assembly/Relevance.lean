import VestingTable.Proofs.Agreement
import VestingTable.Proofs.Assembly.Counting
import VestingTable.Proofs.Assembly.Sentinel

/-!
# What a schedule depends on

A row says to a schedule what stands in the fields that its kind uses (`RowKind.fields`). Two
rows of one kind that agree there are the same to a builder (`Record.SaysSame`), and a row
that is not recognized is nothing to it. So two tables whose recognized rows say the same,
one by one, are built alike, whatever stands elsewhere and between these rows:

* `Builder.feedAll_recognized`: a run is that through the recognized rows, but for what the
  builder keeps aside;
* `Builder.feedAll_saysSame`: so are two runs through rows that say the same;
* `buildSchedule_saysSame`: the outcomes are equal, but for two failures that count all rows
  (`Failure.SameButRows`).

A row that is not recognized could still fail for a number that is too long, as it is
reported on with all its integers.
-/

namespace VestingTable

/-! ## Rows -/

/-- The fields that a row of a kind is used by. -/
def RowKind.fields : RowKind → List Field
  | grandTotal => [.total, .subtotal]
  | poolHeader => [.pool, .subtotal]
  | accountEntry => [.name, .amount, .address, .startAt, .interval, .duration, .cliff, .portionSize,
      .remainder]
  | unrecognized => []

/-- Two rows have the same number and kind, and agree in the fields that the kind uses. -/
structure Record.SaysSame (headerRow : Int) (x y : Int × Record) : Prop where
  row : x.1 = y.1
  kind : x.2.kindAt x.1 headerRow = y.2.kindAt y.1 headerRow
  fields : ∀ f ∈ (x.2.kindAt x.1 headerRow).fields, x.2 f = y.2 f

/-- The rows that are something to a schedule. -/
def recognized (headerRow : Int) (rows : List (Int × Record)) : List (Int × Record) :=
  rows.filter fun row => row.2.kindAt row.1 headerRow ≠ .unrecognized

namespace Record

variable {r s : Record} {row headerRow : Int}

theorem exists_of_kindAt_poolHeader (h : r.kindAt row headerRow = .poolHeader) :
    ∃ name n, r .pool = some name ∧ r .subtotal = some n ∧
      r.entryAt row headerRow = .poolHeader name n := by
  rw [← kind_entryAt] at h
  rcases r.entryAt_cases row headerRow with ⟨-, he⟩ | ⟨-, header | ⟨name, n, -, -, he⟩ | he⟩
  · rw [he] at h; contradiction
  · exact header
  · rw [he] at h; contradiction
  · rw [he] at h; contradiction

theorem exists_of_kindAt_accountEntry (h : r.kindAt row headerRow = .accountEntry) :
    ∃ name n, r .name = some name ∧ r .amount = some n ∧
      r.entryAt row headerRow = .account (r.account name n) := by
  rw [← kind_entryAt] at h
  rcases r.entryAt_cases row headerRow with ⟨-, he⟩ | ⟨-, ⟨name, n, -, -, he⟩ | account | he⟩
  · rw [he] at h; contradiction
  · rw [he] at h; contradiction
  · exact account
  · rw [he] at h; contradiction

/-- The account of a record is that of the fields that an account uses. -/
theorem account_congr (h : ∀ f ∈ RowKind.accountEntry.fields, r f = s f) (name : String)
    (amount : Nat) : r.account name amount = s.account name amount := by
  simp only [RowKind.fields, List.forall_mem_cons] at h
  obtain ⟨-, -, address, startAt, interval, duration, cliff, portionSize, remainder, -⟩ := h
  simp only [account, address, startAt, interval, duration, cliff, portionSize, remainder]

/-- Rows that say the same are the same to a schedule. -/
theorem SaysSame.entryAt_eq {x y : Int × Record} (h : SaysSame headerRow x y) :
    x.2.entryAt x.1 headerRow = y.2.entryAt y.1 headerRow := by
  obtain ⟨hrow, hkind, fields⟩ := h
  cases hx : x.2.kindAt x.1 headerRow with
  | grandTotal =>
    rw [hx] at fields
    have hhead : x.1 = headerRow := by
      rwa [← kind_entryAt, kind_entryAt_eq_grandTotal_iff] at hx
    rw [← hrow, hhead, entryAt_self, entryAt_self, fields .total (by decide),
      fields .subtotal (by decide)]
  | poolHeader =>
    rw [hx] at fields
    obtain ⟨name, n, hname, hn, he⟩ := exists_of_kindAt_poolHeader hx
    obtain ⟨name', n', hname', hn', he'⟩ := exists_of_kindAt_poolHeader (hkind ▸ hx)
    rw [fields .pool (by decide), hname'] at hname
    rw [fields .subtotal (by decide), hn'] at hn
    rw [he, he', Option.some.inj hname, Option.some.inj hn]
  | accountEntry =>
    rw [hx] at fields
    obtain ⟨name, n, hname, hn, he⟩ := exists_of_kindAt_accountEntry hx
    obtain ⟨name', n', hname', hn', he'⟩ := exists_of_kindAt_accountEntry (hkind ▸ hx)
    rw [fields .name (by decide), hname'] at hname
    rw [fields .amount (by decide), hn'] at hn
    rw [he, he', account_congr fields, Option.some.inj hname, Option.some.inj hn]
  | unrecognized =>
    rw [hx] at hkind
    rw [← kind_entryAt, Entry.kind_eq_unrecognized_iff] at hx
    rw [eq_comm, ← kind_entryAt, Entry.kind_eq_unrecognized_iff] at hkind
    rw [hx, hkind]

end Record

/-! ## Steps -/

namespace Builder

variable {b b' : Builder} {row : Int} {r r' : Record}

/-- The builder without what it has kept aside of the rows that it was fed. -/
def bare (b : Builder) : Builder :=
  b.mapAside fun a => ⟨a.checkFinalPool, [], 0, none⟩

/-- The step without what its builder has kept aside. -/
def Step.bare (step : Step) : Step :=
  (step.1, step.2.bare)

theorem bare_see (b : Builder) (row : Int) : (b.see row).bare = b.bare := rfl

/-- A step on a row that is recognized does not go by the rows that were fed before. -/
theorem feed_bare (same : b.bare = b'.bare) {e : Entry} (recognized : e ≠ .unrecognized)
    (he : r.entryAt row b.headerRow = e) (he' : r'.entryAt row b'.headerRow = e) :
    Step.bare (b.feed row r) = Step.bare (b'.feed row r') := by
  have seen : (b.see row).bare = (b'.see row).bare := by rw [bare_see, bare_see, same]
  cases e with
  | grandTotal total subtotal =>
    rw [feed_grandTotal he, feed_grandTotal he']
    have step (b : Builder) : b.bare.grandTotal row total subtotal =
        Step.bare (b.grandTotal row total subtotal) := grandTotal_mapAside b row total subtotal
    rw [← step, ← step, seen]
  | poolHeader name n =>
    rw [feed_poolHeader he, feed_poolHeader he']
    have step (b : Builder) : b.bare.openPool row name n = Step.bare (b.openPool row name n) :=
      openPool_mapAside b row name n
    rw [← step, ← step, seen]
  | account a =>
    rw [feed_account he, feed_account he']
    have step (b : Builder) : b.bare.addAccount row a = Step.bare (b.addAccount row a) :=
      addAccount_mapAside b row a
    rw [← step, ← step, seen]
  | unrecognized => exact absurd rfl recognized

/-- A row that is not recognized changes nothing but what is kept aside, if its numbers can be
    written. -/
theorem feed_bare_of_unrecognized (he : r.entryAt row b.headerRow = .unrecognized)
    (short : Numeral.Fits row ∧ ∀ n ∈ r.integers, Numeral.Fits n) :
    (b.feed row r).1 = .ok () ∧ (b.feed row r).2.bare = b.bare := by
  rw [feed_unrecognized he]
  have spelled : Numeral.spell (row :: r.integers) = .ok () :=
    Numeral.spell_eq_ok_iff.2 (List.forall_mem_cons.2 short)
  rcases (b.see row).skip_cases row r with ⟨-, h⟩ | ⟨-, ⟨f, hf, -⟩ | ⟨-, h⟩⟩
  · rw [h]
    exact ⟨rfl, rfl⟩
  · rw [spelled] at hf
    cases hf
  · rw [h]
    exact ⟨rfl, rfl⟩

/-! ## Runs -/

theorem fields_of_bare (same : b.bare = b'.bare) :
    b.headerRow = b'.headerRow ∧ b.checkFinalPool = b'.checkFinalPool ∧
      b.schedule = b'.schedule ∧ b.phase = b'.phase := by
  obtain ⟨headerRow, checkFinalPool, phase, -, schedule, -⟩ := Builder.mk.inj same
  exact ⟨headerRow, checkFinalPool, schedule, phase⟩

/-- Two runs are the same if their first steps are, and so is what follows. -/
theorem feedAll_cons_bare {row' : Int} {rows rows' : List (Int × Record)}
    (step : Step.bare (b.feed row r) = Step.bare (b'.feed row' r'))
    (rest : ((b.feed row r).2.feedAll (asRead rows)).map bare =
      ((b'.feed row' r').2.feedAll (asRead rows')).map bare) :
    (b.feedAll (asRead ((row, r) :: rows))).map bare =
      (b'.feedAll (asRead ((row', r') :: rows'))).map bare := by
  have outcome : (b.feed row r).1 = (b'.feed row' r').1 := (Prod.mk.inj step).1
  rw [feedAll_asRead_cons, feedAll_asRead_cons, outcome]
  cases (b'.feed row' r').1 with
  | error f => rfl
  | ok => exact rest

/-- A run is that through the rows that are recognized, but for what is kept aside. -/
theorem feedAll_recognized {rows : List (Int × Record)} (same : b.bare = b'.bare)
    (short : ∀ row ∈ rows, Numeral.Fits row.1 ∧ ∀ n ∈ row.2.integers, Numeral.Fits n) :
    (b.feedAll (asRead rows)).map bare =
      (b'.feedAll (asRead (recognized b.headerRow rows))).map bare := by
  induction rows generalizing b b' with
  | nil => exact congrArg Except.ok same
  | cons row rows ih =>
    obtain ⟨row, r⟩ := row
    obtain ⟨hfirst, hrest⟩ := List.forall_mem_cons.1 short
    by_cases hkind : r.kindAt row b.headerRow = .unrecognized
    · have he : r.entryAt row b.headerRow = .unrecognized := by
        rwa [← Record.kind_entryAt, Entry.kind_eq_unrecognized_iff] at hkind
      obtain ⟨hok, hbare⟩ := feed_bare_of_unrecognized he hfirst
      have left : recognized b.headerRow ((row, r) :: rows) = recognized b.headerRow rows :=
        List.filter_cons_of_neg (by simpa using hkind)
      rw [feedAll_asRead_cons, hok, left, ← headerRow_feed b row r]
      exact ih (hbare.trans same) hrest
    · have kept : recognized b.headerRow ((row, r) :: rows) =
          (row, r) :: recognized b.headerRow rows :=
        List.filter_cons_of_pos (by simpa using hkind)
      have he : r.entryAt row b.headerRow ≠ .unrecognized := by
        rwa [Ne, ← Entry.kind_eq_unrecognized_iff, Record.kind_entryAt]
      have step := feed_bare same he rfl (by rw [(fields_of_bare same).1])
      rw [kept]
      refine feedAll_cons_bare step ?_
      rw [← headerRow_feed b row r]
      exact ih ((Prod.mk.inj step).2) hrest

/-- Runs through rows that are recognized and say the same are the same, but for what is kept
    aside. -/
theorem feedAll_saysSame {headerRow : Int} {rows rows' : List (Int × Record)}
    (same : b.bare = b'.bare) (hhead : b.headerRow = headerRow)
    (recognized : ∀ row ∈ rows, row.2.kindAt row.1 headerRow ≠ .unrecognized)
    (saysSame : List.Forall₂ (Record.SaysSame headerRow) rows rows') :
    (b.feedAll (asRead rows)).map bare = (b'.feedAll (asRead rows')).map bare := by
  induction saysSame generalizing b b' with
  | nil => exact congrArg Except.ok same
  | @cons x y rows rows' hxy _ ih =>
    obtain ⟨row, r⟩ := x
    obtain ⟨row', r'⟩ := y
    obtain rfl : row = row' := hxy.row
    obtain ⟨hfirst, hrest⟩ := List.forall_mem_cons.1 recognized
    have he : r.entryAt row b.headerRow ≠ .unrecognized := by
      rwa [hhead, Ne, ← Entry.kind_eq_unrecognized_iff, Record.kind_entryAt]
    have entry : r'.entryAt row b'.headerRow = r.entryAt row b.headerRow := by
      rw [← (fields_of_bare same).1, hhead]
      exact hxy.entryAt_eq.symm
    have step := feed_bare same he rfl entry
    exact feedAll_cons_bare step
      (ih ((Prod.mk.inj step).2) (by rw [headerRow_feed, hhead]) hrest)

/-! ## The end -/

/-- The check of the open pool passes or fails for whatever row, and is the same but for the row
    that its failure names. -/
theorem checkPool_cases (b : Builder) :
    (∀ row, b.checkPool row = .ok ()) ∨ (∀ row, b.checkPool row = .error .poolGone) ∨
      ∃ name running total, ∀ row,
        b.checkPool row = .error (Failure.raised (.poolUnbalanced row name running total)) := by
  cases hp : b.phase with
  | empty => exact .inl fun row => by rw [checkPool, hp]
  | inPool index running =>
    cases hi : b.schedule.bind fun s => s.pools[index]? with
    | none => exact .inr (.inl fun row => by simp only [checkPool, hp, hi])
    | some p =>
      by_cases balanced : running = p.total
      · exact .inl fun row => by simp only [checkPool, hp, hi, if_pos balanced]
      · exact .inr (.inr ⟨p.name, running, p.total, fun row => by
          simp only [checkPool, hp, hi, if_neg balanced]⟩)

end Builder

/-- The number of the row behind the last one. -/
def rowBehind (rows : List (Int × Record)) : Int :=
  (rows.getLast?.map Prod.fst).getD 0 + 1

/-- Two failures of tables are the same, but the check of the last pool names the row behind the
    table, and a missing grand total comes with the number of its rows. -/
inductive Failure.SameButRows (rows rows' : List (Int × Record)) : Failure → Failure → Prop
  | same (f : Failure) : SameButRows rows rows' f f
  | lastPool (name : String) (running total : Nat) :
    SameButRows rows rows' (raised (.poolUnbalanced (rowBehind rows) name running total))
      (raised (.poolUnbalanced (rowBehind rows') name running total))
  | totalMissing (headerRow : Int) :
    SameButRows rows rows' (raised (.totalMissing headerRow rows.length))
      (raised (.totalMissing headerRow rows'.length))

/-- Two ends are the same, but for the numbers of rows. -/
theorem Builder.finish_agree {b b' : Builder} {rows rows' : List (Int × Record)}
    (same : b.bare = b'.bare) (hseen : b.rowsSeen = rows.length)
    (hseen' : b'.rowsSeen = rows'.length) (hlast : b.lastRow.getD 0 + 1 = rowBehind rows)
    (hlast' : b'.lastRow.getD 0 + 1 = rowBehind rows') :
    Agreement (Failure.SameButRows rows rows') Eq b.finish b'.finish := by
  obtain ⟨headerRow, check, schedule, phase⟩ := fields_of_bare same
  have pool (row : Int) : b.checkPool row = b'.checkPool row := by
    rw [checkPool, checkPool, phase, schedule]
  cases hs : b'.schedule with
  | none =>
    rw [finish_of_none (schedule.trans hs), finish_of_none hs, hseen, hseen', headerRow]
    exact .failed (.totalMissing _)
  | some s =>
    rw [finish_of_some (schedule.trans hs), finish_of_some hs, check, pool, hlast, hlast']
    have spelled : Agreement (Failure.SameButRows rows rows') Eq
        ((Numeral.spell [(s.total : Int)]).map fun _ => s)
        ((Numeral.spell [(s.total : Int)]).map fun _ => s) := by
      cases Numeral.spell [(s.total : Int)] with
      | error f => exact .failed (.same f)
      | ok => exact .read rfl
    cases b'.checkFinalPool with
    | false => simpa only [Bool.false_eq_true, if_false, Except.bind] using spelled
    | true =>
      simp only [if_true]
      rcases b'.checkPool_cases with h | h | ⟨name, running, total, h⟩ <;> rw [h, h]
      · simpa only [Except.bind] using spelled
      · exact .failed (.same _)
      · exact .failed (.lastPool name running total)

/-- Two tables whose recognized rows say the same, one by one, are built alike: their schedules are
    equal, or they fail with the same failure, where only the check of the last pool and a missing
    grand total tell how many rows there are. -/
theorem buildSchedule_saysSame {headerRow : Int} {rows rows' : List (Int × Record)}
    (short : ∀ row ∈ rows, Numeral.Fits row.1 ∧ ∀ n ∈ row.2.integers, Numeral.Fits n)
    (short' : ∀ row ∈ rows', Numeral.Fits row.1 ∧ ∀ n ∈ row.2.integers, Numeral.Fits n)
    (saysSame : List.Forall₂ (Record.SaysSame headerRow) (recognized headerRow rows)
      (recognized headerRow rows')) (checkFinalPool : Bool) :
    Agreement (Failure.SameButRows rows rows') Eq
      (buildSchedule headerRow checkFinalPool (Builder.asRead rows))
      (buildSchedule headerRow checkFinalPool (Builder.asRead rows')) := by
  let start : Builder := { headerRow, checkFinalPool }
  have run : (start.feedAll (Builder.asRead rows)).map Builder.bare =
      (start.feedAll (Builder.asRead rows')).map Builder.bare := by
    rw [Builder.feedAll_recognized rfl short, Builder.feedAll_recognized rfl short']
    refine Builder.feedAll_saysSame rfl rfl (fun row hrow => ?_) saysSame
    simpa using (List.mem_filter.1 hrow).2
  rw [buildSchedule_eq_bind, buildSchedule_eq_bind]
  change Agreement _ _ ((start.feedAll _).bind _) ((start.feedAll _).bind _)
  cases hm : start.feedAll (Builder.asRead rows) with
  | error f =>
    cases hm' : start.feedAll (Builder.asRead rows') with
    | error f' =>
      rw [hm, hm'] at run
      obtain rfl : f = f' := Except.error.inj run
      exact .failed (.same f)
    | ok m' => rw [hm, hm'] at run; contradiction
  | ok m =>
    cases hm' : start.feedAll (Builder.asRead rows') with
    | error f' => rw [hm, hm'] at run; contradiction
    | ok m' =>
      rw [hm, hm'] at run
      obtain ⟨-, -, hseen, hlast⟩ := Builder.feedAll_frame hm
      obtain ⟨-, -, hseen', hlast'⟩ := Builder.feedAll_frame hm'
      have behind {rows : List (Int × Record)} :
          ((rows.getLast?.map Prod.fst).or none).getD 0 + 1 = rowBehind rows := by
        rw [Option.or_none, rowBehind]
      exact Builder.finish_agree (Except.ok.inj run) (hseen.trans (Nat.zero_add _))
        (hseen'.trans (Nat.zero_add _)) (hlast ▸ behind) (hlast' ▸ behind)

/-- The table with one pool of six told with other shares, with fields that do not count, and with
    remarks ahead of its rows, between and behind them. -/
def retoldPoolTable : List (Int × Record) :=
  [(3, Record.empty.set .name (some "Draft")),
    (5, (Record.ofTotal 10 10).set .pool (some "All")),
    (6, (Record.ofHeader "Team" 6 ⟨true, 1, 3⟩).set .amount (some 7)),
    (6, Record.empty),
    (7, (Record.ofAccount "Ada" 5 ⟨false, 0, 0⟩).set .pool (some "Team")),
    (12, Record.empty.set .remainder (some 1))]

theorem buildSchedule_saysSame_retold :
    List.Forall₂ (Record.SaysSame 5) (recognized 5 (lonePoolTable 5))
        (recognized 5 retoldPoolTable) ∧
      Agreement (Failure.SameButRows (lonePoolTable 5) retoldPoolTable) Eq
        (buildSchedule 5 true (Builder.asRead (lonePoolTable 5)))
        (buildSchedule 5 true (Builder.asRead retoldPoolTable)) ∧
      buildSchedule 5 true (Builder.asRead (lonePoolTable 5)) =
        .error (.poolUnbalanced 8 "Team" 5 6) ∧
      buildSchedule 5 true (Builder.asRead retoldPoolTable) =
        .error (.poolUnbalanced 13 "Team" 5 6) := by
  have short : ∀ row ∈ lonePoolTable 5,
      Numeral.Fits row.1 ∧ ∀ n ∈ row.2.integers, Numeral.Fits n := by decide +kernel
  have short' : ∀ row ∈ retoldPoolTable,
      Numeral.Fits row.1 ∧ ∀ n ∈ row.2.integers, Numeral.Fits n := by decide +kernel
  have saysSame : List.Forall₂ (Record.SaysSame 5) (recognized 5 (lonePoolTable 5))
      (recognized 5 retoldPoolTable) := by
    refine .cons ⟨rfl, rfl, ?_⟩ (.cons ⟨rfl, rfl, ?_⟩ (.cons ⟨rfl, rfl, ?_⟩ .nil)) <;>
      intro f hf <;> cases f <;> first | rfl | exact absurd hf (by decide)
  exact ⟨saysSame, buildSchedule_saysSame short short' saysSame true, by decide +kernel,
    by decide +kernel⟩

end VestingTable
