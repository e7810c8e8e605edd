import VestingTable.Record

/-!
# Vesting schedules

A schedule splits a grand total into pools, and a pool splits its total across
accounts. An account says who receives how much and when: it keeps the nine
fields of its row that concern it.
-/

namespace VestingTable

/-- A recipient within a pool and the parameters of its vesting. -/
structure Account where
  name : String
  amount : Nat
  address : Option String := none
  startAt : Option Int := none
  interval : Option Int := none
  duration : Option Int := none
  cliff : Option Nat := none
  portionSize : Option Nat := none
  remainder : Option Nat := none
deriving DecidableEq

/-- A named share of the grand total, split across accounts. -/
structure Pool where
  name : String
  total : Nat
  isPartial : Bool := false
  accounts : List Account := []
deriving DecidableEq

/-- A grand total and its pools, in the order of the table. -/
structure Schedule where
  total : Nat
  pools : List Pool := []
deriving DecidableEq

/-- The sum of numbers. -/
def addUp : List Nat → Nat
  | [] => 0
  | n :: ns => n + addUp ns

/-- What the accounts of a pool add up to. -/
def Pool.accountsTotal (p : Pool) : Nat :=
  addUp (p.accounts.map Account.amount)

namespace Schedule

/-- The first pool of a name. -/
def pool? (s : Schedule) (name : String) : Option Pool :=
  s.pools.find? fun p => p.name = name

/-- The place of the first pool of a name. -/
def poolIndex? (s : Schedule) (name : String) : Option Nat :=
  s.pools.findIdx? fun p => p.name = name

/-- What the pools add up to. -/
def allocated (s : Schedule) : Nat :=
  addUp (s.pools.map Pool.total)

/-- The number of accounts of all pools. -/
def accountCount (s : Schedule) : Nat :=
  addUp (s.pools.map fun p => p.accounts.length)

end Schedule

/-! ## Checked parts -/

/-- An amount that may turn out negative, as the value of a field. -/
def checkAmount (field : Field) (n : Int) : Validated Nat :=
  (FieldKind.check .amount n).under (.key field.key)

/-- An amount that may be absent, as the value of a field. -/
def checkAmount? (field : Field) : Option Int → Validated (Option Nat)
  | none => .valid none
  | some n => some <$> checkAmount field n

/-- The account of a name, an amount and the further fields of a draft. -/
def Account.check (name : String) (amount : Int) (d : Draft) : Validated Account :=
  (fun amount cliff portionSize remainder =>
    { name, amount, address := d .address, startAt := d .startAt, interval := d .interval,
      duration := d .duration, cliff, portionSize, remainder : Account })
  <$> checkAmount .amount amount
  <*> checkAmount? .cliff (d .cliff)
  <*> checkAmount? .portionSize (d .portionSize)
  <*> checkAmount? .remainder (d .remainder)

/-- The pool of a total that may turn out negative. -/
def Pool.check (name : String) (total : Int) (isPartial : Bool) (accounts : List Account) :
    Validated Pool :=
  (fun total => { name, total, isPartial, accounts : Pool }) <$> checkAmount .total total

/-- The schedule of a total that may turn out negative. -/
def Schedule.check (total : Int) (pools : List Pool) : Validated Schedule :=
  (fun total => { total, pools : Schedule }) <$> checkAmount .total total

end VestingTable
