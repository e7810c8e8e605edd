import VestingTable.Proofs.Assembly.Steps

/-!
# What a builder keeps aside

A step on a row that is recognized goes by the schedule, the phase and the subtotals that
were added up. What the builder knows beside these is for its end: what is asked of it, and
which rows it has seen and skipped (`Builder.Aside`). A change of the latter makes no
difference to such a step, whether it is made before or after it:

* `Builder.grandTotal_mapAside`, `Builder.openPool_mapAside`, `Builder.addAccount_mapAside`.
-/

namespace VestingTable.Builder

/-- What a builder knows and no step on a recognized row goes by. -/
structure Aside where
  checkFinalPool : Bool
  skipped : List Int
  rowsSeen : Nat
  lastRow : Option Int

/-- What the builder keeps aside. -/
def aside (b : Builder) : Aside :=
  ⟨b.checkFinalPool, b.skipped, b.rowsSeen, b.lastRow⟩

/-- The builder with what it keeps aside changed. -/
def mapAside (u : Aside → Aside) (b : Builder) : Builder :=
  { b with
    checkFinalPool := (u b.aside).checkFinalPool
    skipped := (u b.aside).skipped
    rowsSeen := (u b.aside).rowsSeen
    lastRow := (u b.aside).lastRow }

/-- The step with what its builder keeps aside changed. -/
def Step.mapAside (u : Aside → Aside) (step : Step) : Step :=
  (step.1, step.2.mapAside u)

variable {u : Aside → Aside}

theorem mapAside_done (b : Builder) (spelled : List Int) :
    (b.done spelled).mapAside u = (b.mapAside u).done spelled :=
  Prod.ext rfl rfl

theorem mapAside_refuse (b : Builder) (f : Failure) :
    (b.refuse f).mapAside u = (b.mapAside u).refuse f :=
  Prod.ext rfl rfl

theorem grandTotal_mapAside (b : Builder) (row : Int) (total subtotal : Option Nat) :
    (b.mapAside u).grandTotal row total subtotal =
      (b.grandTotal row total subtotal).mapAside u := by
  unfold grandTotal
  split
  · split
    · rw [mapAside_done]; rfl
    · rw [mapAside_refuse]
  · rw [mapAside_refuse]

theorem openPool_mapAside (b : Builder) (row : Int) (name : String) (n : Nat) :
    (b.mapAside u).openPool row name n = (b.openPool row name n).mapAside u := by
  have schedule : (b.mapAside u).schedule = b.schedule := rfl
  have poolsTotal : (b.mapAside u).poolsTotal = b.poolsTotal := rfl
  have pool : (b.mapAside u).checkPool row = b.checkPool row := rfl
  simp only [openPool, schedule, poolsTotal, pool]
  split
  · rw [mapAside_refuse]; rfl
  · split
    · rw [mapAside_refuse]
    · split
      · rfl
      · rw [mapAside_done]; rfl

theorem addAccount_mapAside (b : Builder) (row : Int) (a : Account) :
    (b.mapAside u).addAccount row a = (b.addAccount row a).mapAside u := by
  have schedule : (b.mapAside u).schedule = b.schedule := rfl
  have phase : (b.mapAside u).phase = b.phase := rfl
  simp only [addAccount, schedule, phase]
  split
  · rw [mapAside_refuse]; rfl
  · split
    · rw [mapAside_refuse]
    · split
      · rw [mapAside_refuse]
      · rfl

end VestingTable.Builder
