import VestingTable.Json.Lax
import VestingTable.Schedule.Basic
import VestingTable.Failure

/-!
# Schedules as JSON

A schedule is kept as JSON: an object with its total and its pools, a pool with
its name, total, partiality and accounts, an account with the fields that it
has. Amounts are written as texts, so that no reader rounds them; times are
bare integers.

`Schedule.serialize` writes a schedule and `Schedule.load` reads one, with the
leniency of `Json.toInteger` and `Json.toBool`.
-/

namespace VestingTable

/-! ## Writing -/

/-- An amount. -/
def Json.ofAmount (n : Nat) : Json :=
  .string (Numeral.ofNat n)

/-- A field that is left out if it is absent. -/
def Json.fieldOf {α : Type} (name : String) (f : α → Json) (value : Option α) :
    List (String × Json) :=
  (value.map fun a => (name, f a)).toList

/-- An account as JSON. -/
def Account.toJson (a : Account) : Json :=
  .object ([("name", .string a.name), ("amount", .ofAmount a.amount)] ++
    Json.fieldOf "address" .string a.address ++
    Json.fieldOf "start_at" .integer a.startAt ++
    Json.fieldOf "interval" .integer a.interval ++
    Json.fieldOf "duration" .integer a.duration ++
    Json.fieldOf "cliff" .ofAmount a.cliff ++
    Json.fieldOf "portion_size" .ofAmount a.portionSize ++
    Json.fieldOf "remainder" .ofAmount a.remainder)

/-- A pool as JSON. -/
def Pool.toJson (p : Pool) : Json :=
  .object [("name", .string p.name), ("total", .ofAmount p.total), ("partial", .bool p.isPartial),
    ("accounts", .array (p.accounts.map Account.toJson))]

/-- A schedule as JSON. -/
def Schedule.toJson (s : Schedule) : Json :=
  .object [("total", .ofAmount s.total), ("pools", .array (s.pools.map Pool.toJson))]

/-- The amounts of an account. -/
def Account.amounts (a : Account) : List Nat :=
  a.amount :: a.cliff.toList ++ a.portionSize.toList ++ a.remainder.toList

/-- The amounts of a schedule. -/
def Schedule.amounts (s : Schedule) : List Nat :=
  s.total :: s.pools.flatMap fun p => p.total :: p.accounts.flatMap Account.amounts

/-- All amounts can be written. -/
def Schedule.IsWritable (s : Schedule) : Prop :=
  ∀ n ∈ s.amounts, Numeral.Fits n

instance (s : Schedule) : Decidable s.IsWritable :=
  inferInstanceAs (Decidable (∀ n ∈ s.amounts, Numeral.Fits n))

/-- An indentation has fewer blanks than this: they are a block of memory, whose size is a machine
    word with a sign. -/
def Json.indentLimit : Int := 0x8000000000000000

/-- The blanks of an indentation. Their number has to be a machine word without a sign before they
    are made. -/
def Json.indentWidth (n : Int) : Except Failure Nat :=
  if n < 0 then .error .negativeIndent
  else if 2 * indentLimit ≤ n then .error .hugeIndent
  else if indentLimit ≤ n then .error .wideIndent
  else .ok n.toNat

/-- The text of a schedule, on one line or with an indentation. -/
def Schedule.serialize (s : Schedule) (indent : Option Int) : Except Failure String := do
  let width ← indent.mapM Json.indentWidth
  if s.IsWritable then return s.toJson.render width else throw .longAmount

/-! ## Reading -/

/-- The amount that a value stands for. -/
def Json.toAmount (v : Json) : Validated Nat :=
  v.toInteger.andThen (FieldKind.check .amount)

/-- The account that a value is. -/
def Account.ofJson : Json → Validated Account :=
  Json.toFields fun fields =>
    Account.mk
    <$> Json.required fields "name" Json.toText
    <*> Json.required fields "amount" Json.toAmount
    <*> Json.optional fields "address" Json.toText
    <*> Json.optional fields "start_at" Json.toInteger
    <*> Json.optional fields "interval" Json.toInteger
    <*> Json.optional fields "duration" Json.toInteger
    <*> Json.optional fields "cliff" Json.toAmount
    <*> Json.optional fields "portion_size" Json.toAmount
    <*> Json.optional fields "remainder" Json.toAmount

/-- The pool that a value is. -/
def Pool.ofJson : Json → Validated Pool :=
  Json.toFields fun fields =>
    Pool.mk
    <$> Json.required fields "name" Json.toText
    <*> Json.required fields "total" Json.toAmount
    <*> Json.withDefault fields "partial" Json.toBool false
    <*> Json.withDefault fields "accounts" (Json.toItems Account.ofJson) []

/-- The schedule that a value is. -/
def Schedule.ofJson : Json → Validated Schedule :=
  Json.toFields fun fields =>
    Schedule.mk
    <$> Json.required fields "total" Json.toAmount
    <*> Json.withDefault fields "pools" (Json.toItems Pool.ofJson) []

/-- The schedule that a text denotes. -/
def Schedule.ofText (text : String) : Validated Schedule :=
  match Json.ofText? text with
  | none => .fail .invalidJson
  | some v => Schedule.ofJson v

/-- The schedule that a text denotes. -/
def Schedule.load (text : String) : Except Failure Schedule :=
  match Schedule.ofText text with
  | .valid s => .ok s
  | .invalid cs => .error (.invalidSchedule cs)

end VestingTable
