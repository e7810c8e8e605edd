/-!
# Fields

The vocabulary of a schedule table: the thirteen fields that a column may
stand for, in their fixed order, and the kind of value that each of them has.
-/

namespace VestingTable

/-- The kinds of values of the fields. -/
inductive FieldKind
  /-- Tokens, counted in base units. -/
  | amount
  /-- Seconds: a point in time or a length of time. -/
  | time
  /-- A share of the whole, in percent. -/
  | percent
  | text
deriving DecidableEq

/-- A field of a row. -/
inductive Field
  | total
  | subtotal
  | percentOfTotal
  | pool
  | name
  | amount
  | address
  | startAt
  | interval
  | duration
  | cliff
  | portionSize
  | remainder
deriving DecidableEq

namespace Field

/-- The fields in their order. -/
def all : List Field :=
  [total, subtotal, percentOfTotal, pool, name, amount, address, startAt, interval, duration, cliff,
    portionSize, remainder]

theorem mem_all (f : Field) : f ∈ all := by
  cases f <;> decide

/-- The kind of values of a field. -/
@[reducible] def kind : Field → FieldKind
  | total | subtotal | amount | cliff | portionSize | remainder => .amount
  | startAt | interval | duration => .time
  | percentOfTotal => .percent
  | pool | name | address => .text

/-- The name by which a layout calls a field. -/
def key : Field → String
  | total => "total"
  | subtotal => "subtotal"
  | percentOfTotal => "percent_of_total"
  | pool => "pool"
  | name => "name"
  | amount => "amount"
  | address => "address"
  | startAt => "start_at"
  | interval => "interval"
  | duration => "duration"
  | cliff => "cliff"
  | portionSize => "portion_size"
  | remainder => "remainder"

/-- The field of a name. -/
def ofKey? (s : String) : Option Field :=
  all.find? fun f => f.key = s

@[simp] theorem ofKey?_key (f : Field) : ofKey? f.key = some f := by
  cases f <;> rfl

theorem ofKey?_eq_some_iff {s : String} {f : Field} : ofKey? s = some f ↔ f.key = s := by
  refine ⟨fun h => ?_, fun h => h ▸ ofKey?_key f⟩
  simpa using List.find?_some h

theorem isEmpty_key (f : Field) : f.key.isEmpty = false := by
  cases f <;> decide

theorem ofKey?_eq_none_iff {name : String} :
    ofKey? name = none ↔ ∀ f : Field, name ≠ f.key := by
  rw [Option.eq_none_iff_forall_ne_some]
  exact forall_congr' fun f => by rw [ne_eq, ofKey?_eq_some_iff, eq_comm]

end Field

end VestingTable
