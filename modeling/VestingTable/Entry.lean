import VestingTable.Schedule.Basic

/-!
# Entries

What a row of a table is to the schedule. The row of the grand total is known
by its number. Every other row is known by the fields that it has, never by
their values: the header of a pool has a pool, a subtotal and a percentage, and
an account has a name, an amount and a percentage.

* `Record.kind_entryAt`: an entry is of the kind that its row is known by.
-/

namespace VestingTable

/-- The kinds of entries. -/
inductive RowKind
  | grandTotal
  | poolHeader
  | accountEntry
  | unrecognized
deriving DecidableEq

/-- The name of a kind. -/
def RowKind.key : RowKind → String
  | grandTotal => "grand_total"
  | poolHeader => "pool_header"
  | accountEntry => "account_entry"
  | unrecognized => "unrecognized"

/-- What a row says to a schedule. -/
inductive Entry
  | grandTotal (total subtotal : Option Nat)
  | poolHeader (name : String) (subtotal : Nat)
  | account (a : Account)
  | unrecognized

/-- The kind of an entry. -/
def Entry.kind : Entry → RowKind
  | grandTotal .. => .grandTotal
  | poolHeader .. => .poolHeader
  | account _ => .accountEntry
  | unrecognized => .unrecognized

namespace Record

/-- The kind that a row is known by. -/
def kindAt (r : Record) (row headerRow : Int) : RowKind :=
  if row = headerRow then .grandTotal
  else if r.present [.pool, .subtotal, .percentOfTotal] then .poolHeader
  else if r.present [.name, .amount, .percentOfTotal] then .accountEntry
  else .unrecognized

/-- The fields of a record that concern its account. -/
def account (r : Record) (name : String) (amount : Nat) : Account where
  name := name
  amount := amount
  address := r .address
  startAt := r .startAt
  interval := r .interval
  duration := r .duration
  cliff := r .cliff
  portionSize := r .portionSize
  remainder := r .remainder

/-- The entry of a row. -/
def entryAt (r : Record) (row headerRow : Int) : Entry :=
  if row = headerRow then .grandTotal (r .total) (r .subtotal)
  else match r .pool, r .subtotal, r .percentOfTotal with
    | some name, some subtotal, some _ => .poolHeader name subtotal
    | _, _, _ =>
      match r .name, r .amount, r .percentOfTotal with
      | some name, some amount, some _ => .account (r.account name amount)
      | _, _, _ => .unrecognized

/-- An entry is of the kind that its row is known by. -/
theorem kind_entryAt (r : Record) (row headerRow : Int) :
    (r.entryAt row headerRow).kind = r.kindAt row headerRow := by
  unfold entryAt kindAt
  by_cases hr : row = headerRow
  · simp [hr, Entry.kind]
  · simp only [hr, if_false, present, has, List.all_cons, List.all_nil, Bool.and_true]
    cases r .pool <;> cases r .subtotal <;> cases r .percentOfTotal <;> cases r .name <;>
      cases r .amount <;> simp [Entry.kind]

/-- The integers of a record, in the order of the fields. -/
def integers (r : Record) : List Int :=
  Field.all.flatMap fun f => match f.kind, r f with
    | .amount, some n => [Int.ofNat n]
    | .time, some n => [n]
    | _, _ => []

end Record

/-- The integers of a value. -/
def FieldKind.integers : (kind : FieldKind) → kind.Value → List Int
  | amount, n => [Int.ofNat n]
  | time, n => [n]
  | percent, _ | text, _ => []

/-- The integers of a record are those of its values. -/
theorem Record.mem_integers_iff {r : Record} {n : Int} :
    n ∈ r.integers ↔ ∃ f a, r f = some a ∧ n ∈ f.kind.integers a := by
  rw [integers, List.mem_flatMap]
  refine exists_congr fun f => ?_
  rw [and_iff_right (Field.mem_all f)]
  generalize r f = v
  generalize f.kind = kind at v
  cases v with
  | none => cases kind <;> simp
  | some a => cases kind <;> simp [FieldKind.integers]

end VestingTable
