import Mathlib.Data.List.Basic
import Mathlib.Tactic.Common
import VestingTable.Builder

/-!
# What a table says

The entries of a table say which schedule is meant, and no builder is needed to
read it off them: a header opens a pool, and the accounts up to the next header
are those of the pool. What a builder assembles is compared with this reading.

* `Entry.pools`: the pools of a list of entries, one for each header;
* `Entry.map_total_pools`: their totals are the subtotals of the headers;
* `Entry.accountsAhead_append_accounts`: every account is in a pool, or ahead of
  the first one;
* `Entry.pools_append_poolHeader`, `Entry.pools_append_account`: what one more
  entry means.
-/

namespace VestingTable

/-- The accounts of a pool add up to its total. -/
def Pool.IsBalanced (p : Pool) : Prop :=
  p.accountsTotal = p.total

instance (p : Pool) : Decidable p.IsBalanced :=
  inferInstanceAs (Decidable (_ = _))

/-- The pool with one more account. -/
def Pool.add (p : Pool) (a : Account) : Pool :=
  { p with accounts := p.accounts ++ [a] }

@[simp] theorem Pool.total_add (p : Pool) (a : Account) : (p.add a).total = p.total := rfl

/-! ## Sums -/

@[simp] theorem addUp_append (ms ns : List Nat) : addUp (ms ++ ns) = addUp ms + addUp ns := by
  induction ms with
  | nil => simp [addUp]
  | cons m ms ih => rw [List.cons_append, addUp, addUp, ih, Nat.add_assoc]

@[simp] theorem addUp_singleton (n : Nat) : addUp [n] = n := rfl

theorem le_addUp_of_mem {n : Nat} {ns : List Nat} (h : n ∈ ns) : n ≤ addUp ns := by
  induction ns with
  | nil => exact absurd h List.not_mem_nil
  | cons m ms ih =>
    rw [addUp]
    rcases List.mem_cons.1 h with rfl | h
    · exact Nat.le_add_right _ _
    · exact Nat.le_add_left_of_le (ih h)

@[simp] theorem Pool.accountsTotal_add (p : Pool) (a : Account) :
    (p.add a).accountsTotal = p.accountsTotal + a.amount := by
  simp [accountsTotal, add]

/-! ## Records of a kind -/

namespace Record

/-- A record with the two values of a grand total. -/
def ofTotal (total subtotal : Nat) : Record :=
  (empty.set .total (some total)).set .subtotal (some subtotal)

/-- A record with the fields of a header. -/
def ofHeader (name : String) (subtotal : Nat) (share : Decimal) : Record :=
  ((empty.set .pool (some name)).set .subtotal (some subtotal)).set .percentOfTotal (some share)

/-- A record with the fields of an account. -/
def ofAccount (name : String) (amount : Nat) (share : Decimal) : Record :=
  ((empty.set .name (some name)).set .amount (some amount)).set .percentOfTotal (some share)

end Record

/-! ## Entries -/

namespace Entry

/-- The entry is the header of a pool. -/
def isHeader : Entry → Bool
  | poolHeader .. => true
  | _ => false

/-- The account that an entry is. -/
def account? : Entry → Option Account
  | account a => some a
  | _ => none

/-- The subtotal of an entry that is the header of a pool. -/
def subtotal? : Entry → Option Nat
  | poolHeader _ subtotal => some subtotal
  | _ => none

/-- The entries of numbered records, where the grand total is at `headerRow`. -/
def ofRows (headerRow : Int) (rows : List (Int × Record)) : List Entry :=
  rows.map fun row => row.2.entryAt row.1 headerRow

/-- The accounts ahead of the first header. -/
def accountsAhead (es : List Entry) : List Account :=
  (es.takeWhile fun e => !e.isHeader).filterMap account?

/-- The pools of entries, one for each header: its accounts are those ahead of the next header. -/
def pools : List Entry → List Pool
  | [] => []
  | poolHeader name total :: es => { name, total, accounts := accountsAhead es } :: pools es
  | _ :: es => pools es

@[simp] theorem ofRows_append (headerRow : Int) (rows more : List (Int × Record)) :
    ofRows headerRow (rows ++ more) = ofRows headerRow rows ++ ofRows headerRow more :=
  List.map_append

theorem isHeader_iff {e : Entry} : e.isHeader ↔ ∃ name total, e = poolHeader name total := by
  cases e <;> simp [isHeader]

theorem isHeader_eq_false_iff {e : Entry} : e.isHeader = false ↔ e.kind ≠ .poolHeader := by
  cases e <;> simp [isHeader, kind]

@[simp] theorem pools_nil : pools [] = [] := rfl

@[simp] theorem pools_poolHeader (name : String) (total : Nat) (es : List Entry) :
    pools (poolHeader name total :: es) =
      { name, total, accounts := accountsAhead es } :: pools es :=
  rfl

theorem pools_cons_of_not {e : Entry} (h : e.isHeader = false) (es : List Entry) :
    pools (e :: es) = pools es := by
  cases e with
  | poolHeader => exact absurd h (by simp [isHeader])
  | _ => rfl

@[simp] theorem accountsAhead_poolHeader (name : String) (total : Nat) (es : List Entry) :
    accountsAhead (poolHeader name total :: es) = [] := rfl

theorem accountsAhead_cons_of_not {e : Entry} (h : e.isHeader = false) (es : List Entry) :
    accountsAhead (e :: es) = e.account?.toList ++ accountsAhead es := by
  rw [accountsAhead, List.takeWhile_cons_of_pos (by simp [h]), List.filterMap_cons, accountsAhead]
  cases e.account? <;> rfl

/-- Entries without a header open no pool. -/
theorem pools_eq_nil_iff {es : List Entry} : pools es = [] ↔ ∀ e ∈ es, e.isHeader = false := by
  induction es with
  | nil => simp
  | cons e es ih =>
    cases h : e.isHeader with
    | false => simp [pools_cons_of_not h, ih, h]
    | true =>
      obtain ⟨name, total, rfl⟩ := isHeader_iff.1 h
      simp [isHeader]

/-- The totals of the pools are the subtotals of the headers. -/
theorem map_total_pools (es : List Entry) :
    (pools es).map Pool.total = es.filterMap subtotal? := by
  induction es with
  | nil => rfl
  | cons e es ih =>
    cases h : e.isHeader with
    | false =>
      have none : e.subtotal? = none := by cases e <;> simp_all [isHeader, subtotal?]
      rw [pools_cons_of_not h, List.filterMap_cons_none none, ih]
    | true =>
      obtain ⟨name, total, rfl⟩ := isHeader_iff.1 h
      rw [pools_poolHeader, List.map_cons, ih]
      rfl

/-- Every account is in a pool or ahead of the first one, in order. -/
theorem accountsAhead_append_accounts (es : List Entry) :
    accountsAhead es ++ (pools es).flatMap Pool.accounts = es.filterMap account? := by
  induction es with
  | nil => rfl
  | cons e es ih =>
    cases h : e.isHeader with
    | false =>
      rw [accountsAhead_cons_of_not h, pools_cons_of_not h, List.append_assoc, ih,
        List.filterMap_cons]
      cases e.account? <;> rfl
    | true =>
      obtain ⟨name, total, rfl⟩ := isHeader_iff.1 h
      rw [accountsAhead_poolHeader, pools_poolHeader, List.flatMap_cons, List.nil_append, ih]
      rfl

/-- Entries that say nothing have no pools and no accounts. -/
theorem pools_of_unrecognized {es : List Entry} (h : ∀ e ∈ es, e = unrecognized) : pools es = [] :=
  pools_eq_nil_iff.2 fun e he => by rw [h e he]; rfl

theorem accounts_of_unrecognized {es : List Entry} (h : ∀ e ∈ es, e = unrecognized) :
    es.filterMap account? = [] :=
  List.filterMap_eq_nil_iff.2 fun e he => by rw [h e he]; rfl

theorem accountsAhead_of_unrecognized {es : List Entry} (h : ∀ e ∈ es, e = unrecognized) :
    accountsAhead es = [] := by
  have split := accountsAhead_append_accounts es
  rw [accounts_of_unrecognized h] at split
  exact (List.append_eq_nil_iff.1 split).1

/-! ### One more entry -/

/-- The accounts ahead of the first header end with it. -/
theorem accountsAhead_append {es : List Entry} (h : pools es ≠ []) (more : List Entry) :
    accountsAhead (es ++ more) = accountsAhead es := by
  induction es with
  | nil => exact absurd rfl h
  | cons e es ih =>
    cases he : e.isHeader with
    | false =>
      rw [pools_cons_of_not he] at h
      rw [List.cons_append, accountsAhead_cons_of_not he, accountsAhead_cons_of_not he, ih h]
    | true =>
      obtain ⟨name, total, rfl⟩ := isHeader_iff.1 he
      rfl

/-- Without a header, the accounts ahead go on. -/
theorem accountsAhead_append_of_nil {es : List Entry} (h : pools es = []) (more : List Entry) :
    accountsAhead (es ++ more) = accountsAhead es ++ accountsAhead more := by
  induction es with
  | nil => rfl
  | cons e es ih =>
    have he : e.isHeader = false := pools_eq_nil_iff.1 h e List.mem_cons_self
    rw [pools_cons_of_not he] at h
    rw [List.cons_append, accountsAhead_cons_of_not he, accountsAhead_cons_of_not he, ih h,
      List.append_assoc]

/-- An entry that is neither a header nor an account changes no pool. -/
theorem pools_append_of_not {e : Entry} (hh : e.isHeader = false) (ha : e.account? = none)
    (es : List Entry) : pools (es ++ [e]) = pools es := by
  have ahead : ∀ es, accountsAhead (es ++ [e]) = accountsAhead es := fun es => by
    by_cases hp : pools es = []
    · rw [accountsAhead_append_of_nil hp, accountsAhead_cons_of_not hh, ha]
      simp [accountsAhead]
    · exact accountsAhead_append hp _
  induction es with
  | nil => exact pools_cons_of_not hh _
  | cons d es ih =>
    cases hd : d.isHeader with
    | false => rw [List.cons_append, pools_cons_of_not hd, pools_cons_of_not hd, ih]
    | true =>
      obtain ⟨name, total, rfl⟩ := isHeader_iff.1 hd
      rw [List.cons_append, pools_poolHeader, pools_poolHeader, ahead, ih]

/-- A header opens a pool without accounts. -/
theorem pools_append_poolHeader (es : List Entry) (name : String) (total : Nat) :
    pools (es ++ [poolHeader name total]) = pools es ++ [{ name, total := total }] := by
  have ahead : ∀ es, accountsAhead (es ++ [poolHeader name total]) = accountsAhead es :=
    fun es => by
      by_cases hp : pools es = []
      · rw [accountsAhead_append_of_nil hp, accountsAhead_poolHeader, List.append_nil]
      · exact accountsAhead_append hp _
  induction es with
  | nil => rfl
  | cons d es ih =>
    cases hd : d.isHeader with
    | false => rw [List.cons_append, pools_cons_of_not hd, pools_cons_of_not hd, ih]
    | true =>
      obtain ⟨name, total, rfl⟩ := isHeader_iff.1 hd
      rw [List.cons_append, pools_poolHeader, pools_poolHeader, ahead, ih]
      rfl

/-- An account belongs to the last pool. -/
theorem pools_append_account {es : List Entry} {front : List Pool} {p : Pool} (a : Account)
    (h : pools es = front ++ [p]) : pools (es ++ [account a]) = front ++ [p.add a] := by
  induction es generalizing front with
  | nil => exact absurd h (by simp)
  | cons d es ih =>
    cases hd : d.isHeader with
    | false =>
      rw [pools_cons_of_not hd] at h
      rw [List.cons_append, pools_cons_of_not hd, ih h]
    | true =>
      obtain ⟨name, total, rfl⟩ := isHeader_iff.1 hd
      rw [pools_poolHeader] at h
      rw [List.cons_append, pools_poolHeader]
      cases front with
      | nil =>
        -- The last pool is that of this header: no other header follows.
        obtain ⟨rfl, hp⟩ := List.cons_eq_cons.1 h
        have hp' : pools (es ++ [account a]) = [] := by
          rw [pools_eq_nil_iff] at hp ⊢
          simpa [or_imp, forall_and, isHeader] using hp
        rw [accountsAhead_append_of_nil hp, hp']
        rfl
      | cons q front =>
        obtain ⟨rfl, hp⟩ := List.cons_eq_cons.1 h
        rw [ih hp, accountsAhead_append (by simp [hp])]
        rfl

end Entry

end VestingTable
