import VestingTable.Entry
import VestingTable.Layout

/-!
# The builder

A builder is fed the records of a table row by row and assembles its schedule.
It checks as it goes:

* the row of the grand total has a total that equals its subtotal;
* the subtotals of the pools never add up to more than the grand total, as far
  as they were seen;
* the accounts of a pool add up to its subtotal. This is checked when the header
  of the next pool comes, and at the end only on demand.

A step that fails may have changed the builder already: the header of a pool is
added to the subtotals before the pool ahead of it is checked. So a step gives a
builder also when it fails.

The builder reports on every step, in words that spell the numbers of the step.
A number that is too long to be written makes the step fail when it has been
done.
-/

namespace VestingTable

/-- Where a builder is in the table. -/
inductive Phase
  /-- No pool was opened yet. -/
  | empty
  /-- Accounts are added to the pool at a place of the schedule, and add up to `running` so far. -/
  | inPool (index running : Nat)
deriving DecidableEq

/-- A schedule that is being built. -/
structure Builder where
  /-- The row of the grand total. -/
  headerRow : Int := 5
  /-- The accounts of the last pool are checked too. -/
  checkFinalPool : Bool := false
  phase : Phase := .empty
  /-- The rows that are not blank and were not recognized. -/
  skipped : List Int := []
  schedule : Option Schedule := none
  /-- What the subtotals of the pools add up to. -/
  poolsTotal : Nat := 0
  rowsSeen : Nat := 0
  lastRow : Option Int := none

namespace Builder

/-- The outcome of a step, and the builder after it. -/
abbrev Step := Except Failure Unit × Builder

/-- The failure of a step that left the builder as it was. -/
def refuse (b : Builder) (f : Failure) : Step :=
  (.error f.raised, b)

/-- A step that has been done and is reported on, in words that spell some numbers. -/
def done (b : Builder) (spelled : List Int) : Step :=
  (Numeral.spell spelled, b)

/-- The grand total. A second one replaces the schedule. -/
def grandTotal (b : Builder) (row : Int) (total subtotal : Option Nat) : Step :=
  match total, subtotal with
  | some t, some s =>
    if t = s then done { b with schedule := some { total := t } } [row, t]
    else b.refuse (.totalUnequal row t s)
  | _, _ => b.refuse (.totalIncomplete row total subtotal)

/-- The accounts of the open pool add up to its total. -/
def checkPool (b : Builder) (row : Int) : Except Failure Unit :=
  match b.phase with
  | .empty => .ok ()
  | .inPool index running =>
    match b.schedule.bind fun s => s.pools[index]? with
    | none => .error .poolGone
    | some p =>
      if running = p.total then .ok ()
      else .error (Failure.raised (.poolUnbalanced row p.name running p.total))

/-- The header of a pool. -/
def openPool (b : Builder) (row : Int) (name : String) (subtotal : Nat) : Step :=
  match b.schedule with
  | none => b.refuse (.beforeTotal row true b.headerRow)
  | some s =>
    let poolsTotal := b.poolsTotal + subtotal
    if s.total < poolsTotal then b.refuse (.totalExceeded row poolsTotal s.total)
    else
      match b.checkPool row with
      | .error f => (.error f, { b with poolsTotal })
      | .ok () =>
        done { b with
          poolsTotal
          schedule := some { s with pools := s.pools ++ [{ name, total := subtotal }] }
          phase := .inPool s.pools.length 0 } [row, subtotal]

/-- An account. -/
def addAccount (b : Builder) (row : Int) (a : Account) : Step :=
  match b.schedule with
  | none => b.refuse (.beforeTotal row false b.headerRow)
  | some s =>
    match b.phase with
    | .empty => b.refuse (.outsidePool row a.name)
    | .inPool index running =>
      match s.pools[index]? with
      | none => b.refuse .poolGone
      | some p =>
        let filled := { p with accounts := p.accounts ++ [a] }
        (.ok (), { b with
          schedule := some { s with pools := s.pools.set index filled }
          phase := .inPool index (running + a.amount) })

/-- A row that is nothing to the schedule. It is skipped, and is remembered unless it is blank. -/
def skip (b : Builder) (row : Int) (r : Record) : Step :=
  if r.isBlank then (.ok (), b)
  else match Numeral.spell (row :: r.integers) with
    | .error f => (.error f, b)
    | .ok () => (.ok (), { b with skipped := b.skipped ++ [row] })

/-- The builder that has seen one more row. -/
def see (b : Builder) (row : Int) : Builder :=
  { b with rowsSeen := b.rowsSeen + 1, lastRow := some row }

/-- A row of the table. -/
def feed (b : Builder) (row : Int) (r : Record) : Step :=
  let b := b.see row
  match r.entryAt row b.headerRow with
  | .grandTotal total subtotal => b.grandTotal row total subtotal
  | .poolHeader name subtotal => b.openPool row name subtotal
  | .account a => b.addAccount row a
  | .unrecognized => b.skip row r

/-- The schedule at the end of the table. -/
def finish (b : Builder) : Except Failure Schedule := do
  match b.schedule with
  | none => .error (Failure.raised (.totalMissing b.headerRow b.rowsSeen))
  | some s =>
    if b.checkFinalPool then b.checkPool (b.lastRow.getD 0 + 1)
    Numeral.spell [s.total]
    return s

/-- The builder that was fed rows up to the first that fails, in itself or when it is fed. -/
def feedAll (b : Builder) : List (Int × Except Failure Record) → Except Failure Builder
  | [] => .ok b
  | (_, .error f) :: _ => .error f
  | (row, .ok r) :: rows =>
    match b.feed row r with
    | (.error f, _) => .error f
    | (.ok (), b) => b.feedAll rows

end Builder

/-- The schedule of the records of a table, in the order of its rows. -/
def buildSchedule (headerRow : Int) (checkFinalPool : Bool)
    (rows : List (Int × Except Failure Record)) : Except Failure Schedule := do
  let b ← Builder.feedAll { headerRow, checkFinalPool } rows
  b.finish

end VestingTable
