import VestingTable.Proofs.Assembly.Soundness

/-!
# Failures of a build

A row is an *offence* if it breaks a law of the table together with the entries
ahead of it (`Entry.Offence`, `Offends`). What is wrong is read off the entries:
no running total is needed to say so. The records ahead are *sound* if none of
them is an offence (`IsSound`).

* `buildSchedule_eq_error_iff`: a build fails if and only if there is a first
  offence, or else one at the end of the table, and it fails with that one.

A failure names the row, and a row number may be too long to be written, as the
numbers in the records are not: then the failure is another one
(`Failure.raised`).
-/

namespace VestingTable

open Entry

/-! ## The numbers of records -/

/-- The numbers that an entry brings to a schedule. -/
def Entry.numbers : Entry → List Nat
  | grandTotal total subtotal => total.toList ++ subtotal.toList
  | poolHeader _ subtotal => [subtotal]
  | account a => [a.amount]
  | unrecognized => []

/-- What the integers of a record add up to, their signs aside. -/
def Record.size (r : Record) : Nat :=
  addUp (r.integers.map Int.natAbs)

/-- The numbers of an entry are integers of its record. -/
theorem Record.mem_integers_of_mem_numbers {r : Record} {row headerRow : Int} {n : Nat}
    (h : n ∈ (r.entryAt row headerRow).numbers) : (n : Int) ∈ r.integers := by
  rcases r.entryAt_cases row headerRow with
    ⟨-, he⟩ | ⟨-, ⟨name, subtotal, -, hsubtotal, he⟩ | ⟨name, amount, -, hamount, he⟩ | he⟩
  all_goals rw [he] at h
  · rcases List.mem_append.1 h with h | h
    · exact mem_integers_iff.2 ⟨.total, _, Option.mem_toList.1 h, List.mem_singleton_self _⟩
    · exact mem_integers_iff.2 ⟨.subtotal, _, Option.mem_toList.1 h, List.mem_singleton_self _⟩
  · obtain rfl : n = subtotal := List.mem_singleton.1 h
    exact mem_integers_iff.2 ⟨.subtotal, _, hsubtotal, List.mem_singleton_self _⟩
  · obtain rfl : n = amount := List.mem_singleton.1 h
    exact mem_integers_iff.2 ⟨.amount, _, hamount, List.mem_singleton_self _⟩
  · exact absurd h List.not_mem_nil

theorem Record.natAbs_le_size {r : Record} {n : Int} (h : n ∈ r.integers) : n.natAbs ≤ r.size :=
  le_addUp_of_mem (List.mem_map_of_mem h)

/-- What the integers of records add up to, their signs aside. -/
def Record.totalSize (rows : List (Int × Record)) : Nat :=
  addUp (rows.map fun row => row.2.size)

@[simp] theorem Record.totalSize_cons (row : Int × Record) (rows : List (Int × Record)) :
    totalSize (row :: rows) = row.2.size + totalSize rows := rfl

@[simp] theorem Record.totalSize_append (rows more : List (Int × Record)) :
    totalSize (rows ++ more) = totalSize rows + totalSize more := by
  rw [totalSize, List.map_append, addUp_append]
  rfl

theorem Record.size_le_totalSize {row : Int × Record} {rows : List (Int × Record)}
    (h : row ∈ rows) : row.2.size ≤ totalSize rows :=
  le_addUp_of_mem (List.mem_map.2 ⟨row, h, rfl⟩)

/-- A number of each entry adds up to no more than all integers of the records. -/
theorem addUp_filterMap_le {number? : Entry → Option Nat}
    (h : ∀ e n, number? e = some n → n ∈ e.numbers) (headerRow : Int)
    (rows : List (Int × Record)) :
    addUp ((ofRows headerRow rows).filterMap number?) ≤ Record.totalSize rows := by
  induction rows with
  | nil => exact Nat.le_refl _
  | cons row rows ih =>
    rw [ofRows, List.map_cons, Record.totalSize_cons]
    cases hn : number? (row.2.entryAt row.1 headerRow) with
    | none =>
      rw [List.filterMap_cons_none hn]
      exact Nat.le_add_left_of_le ih
    | some n =>
      rw [List.filterMap_cons_some hn, addUp]
      have hmem : (n : Int) ∈ row.2.integers := Record.mem_integers_of_mem_numbers (h _ _ hn)
      exact Nat.add_le_add (Record.natAbs_le_size hmem) ih

/-- The accounts of a pool add up to no more than all integers of the records. -/
theorem Pool.accountsTotal_le {headerRow : Int} {rows : List (Int × Record)} {p : Pool}
    (h : p ∈ pools (ofRows headerRow rows)) :
    p.accountsTotal ≤ Record.totalSize rows := by
  have amount_mem : ∀ (e : Entry) n, e.account?.map Account.amount = some n → n ∈ e.numbers := by
    intro e n hn
    cases e <;> simp_all [account?, numbers]
  have split := accountsAhead_append_accounts (ofRows headerRow rows)
  -- The accounts of the pool are some of those of the entries.
  obtain ⟨front, back, hp⟩ := List.append_of_mem h
  rw [hp, List.flatMap_append, List.flatMap_cons] at split
  have sums := congrArg (fun as => addUp (as.map Account.amount)) split
  simp only [List.map_append, addUp_append, List.map_filterMap] at sums
  have bound := addUp_filterMap_le amount_mem headerRow rows
  rw [Pool.accountsTotal]
  omega

/-- The subtotals of the headers add up to no more than all integers of the records. -/
theorem subtotals_le (headerRow : Int) (rows : List (Int × Record)) :
    addUp ((ofRows headerRow rows).filterMap subtotal?) ≤ Record.totalSize rows :=
  addUp_filterMap_le (fun e n hn => by cases e <;> simp_all [subtotal?, numbers]) headerRow rows

theorem Pool.total_le {headerRow : Int} {rows : List (Int × Record)} {p : Pool}
    (h : p ∈ pools (ofRows headerRow rows)) :
    p.total ≤ Record.totalSize rows := by
  have mem : p.total ∈ (ofRows headerRow rows).filterMap subtotal? := by
    rw [← map_total_pools]
    exact List.mem_map_of_mem h
  exact Nat.le_trans (le_addUp_of_mem mem) (subtotals_le headerRow rows)

/-! ## Offences -/

/-- What an entry does wrong at its row, behind the entries `es`. -/
inductive Entry.Offence (headerRow : Int) (es : List Entry) (row : Int) : Entry → Failure → Prop
  /-- The grand total lacks one of its two values. -/
  | totalIncomplete {total subtotal : Option Nat} (lacking : total = none ∨ subtotal = none) :
      Offence headerRow es row (.grandTotal total subtotal) (.totalIncomplete row total subtotal)
  /-- The two values of the grand total differ. -/
  | totalUnequal {total subtotal : Nat} (unequal : total ≠ subtotal) :
      Offence headerRow es row (.grandTotal (some total) (some subtotal))
        (.totalUnequal row total subtotal)
  /-- A header comes before the grand total. -/
  | poolBeforeTotal {name : String} {subtotal : Nat} (ahead : ∀ e ∈ es, e.kind ≠ .grandTotal) :
      Offence headerRow es row (.poolHeader name subtotal) (.beforeTotal row true headerRow)
  /-- An account comes before the grand total. -/
  | accountBeforeTotal {a : Account} (ahead : ∀ e ∈ es, e.kind ≠ .grandTotal) :
      Offence headerRow es row (.account a) (.beforeTotal row false headerRow)
  /-- An account comes behind the grand total, and before any header. -/
  | outsidePool {a : Account} (behind : ∃ e ∈ es, e.kind = .grandTotal)
      (ahead : ∀ e ∈ es, e.kind ≠ .poolHeader) :
      Offence headerRow es row (.account a) (.outsidePool row a.name)
  /-- The subtotals of the headers, up to this one, add up to more than the grand total. -/
  | totalExceeded {name : String} {subtotal t : Nat} (total : .grandTotal (some t) (some t) ∈ es)
      (exceeded : t < addUp (es.filterMap subtotal?) + subtotal) :
      Offence headerRow es row (.poolHeader name subtotal)
        (.totalExceeded row (addUp (es.filterMap subtotal?) + subtotal) t)
  /-- The grand total is not exceeded, but the pool ahead of this header is not balanced. -/
  | poolUnbalanced {name : String} {subtotal t : Nat} {p : Pool}
      (total : .grandTotal (some t) (some t) ∈ es)
      (within : addUp (es.filterMap subtotal?) + subtotal ≤ t)
      (last : (pools es).getLast? = some p) (unbalanced : ¬ p.IsBalanced) :
      Offence headerRow es row (.poolHeader name subtotal)
        (.poolUnbalanced row p.name p.accountsTotal p.total)

/-- An offence names its row. -/
theorem Entry.Offence.row_mem_spelled {headerRow row : Int} {es : List Entry} {e : Entry}
    {f : Failure} (h : Offence headerRow es row e f) : row ∈ f.spelled := by
  cases h <;> exact List.mem_cons_self

/-- The builder reports on the row when it is done with it. -/
def Record.IsReported (r : Record) (row headerRow : Int) : Prop :=
  match r.entryAt row headerRow with
  | .grandTotal .. | .poolHeader .. => True
  | .account _ => False
  | .unrecognized => r.isBlank = false

/-- A record is an offence behind the rows `before`, or it is to be reported on and the number of
    its row is too long to be written. -/
def Offends (headerRow : Int) (before : List (Int × Record)) (row : Int) (r : Record)
    (f : Failure) : Prop :=
  Offence headerRow (ofRows headerRow before) row (r.entryAt row headerRow) f ∨
    r.IsReported row headerRow ∧ ¬ Numeral.Fits row ∧ f = .longNumeral none

/-- No record is an offence behind those ahead of it. -/
def IsSound (headerRow : Int) (rows : List (Int × Record)) : Prop :=
  ∀ before row r after, rows = before ++ (row, r) :: after →
    ∀ f, ¬ Offends headerRow before row r f

/-- What is wrong at the end of a table. -/
inductive EndOffence (headerRow : Int) (checkFinalPool : Bool) (rows : List (Int × Record)) :
    Failure → Prop
  /-- No row was the grand total. -/
  | totalMissing (none : ∀ row ∈ rows, row.1 ≠ headerRow) :
      EndOffence headerRow checkFinalPool rows (.totalMissing headerRow rows.length)
  /-- The last pool is not balanced, where this is checked: it is told of the row behind the last. -/
  | poolUnbalanced {row : Int} {r : Record} {p : Pool} (checked : checkFinalPool)
      (lastRow : rows.getLast? = some (row, r))
      (last : (pools (ofRows headerRow rows)).getLast? = some p) (unbalanced : ¬ p.IsBalanced) :
      EndOffence headerRow checkFinalPool rows
        (.poolUnbalanced (row + 1) p.name p.accountsTotal p.total)

/-- The first offence of a table: that of its first record that is one, or else that of its end. -/
inductive FirstOffence (headerRow : Int) (checkFinalPool : Bool) (rows : List (Int × Record)) :
    Failure → Prop
  | atRow {before after : List (Int × Record)} {row : Int} {r : Record} {f : Failure}
      (split : rows = before ++ (row, r) :: after) (sound : IsSound headerRow before)
      (offends : Offends headerRow before row r f) : FirstOffence headerRow checkFinalPool rows f
  | atEnd {f : Failure} (sound : IsSound headerRow rows)
      (offence : EndOffence headerRow checkFinalPool rows f) :
      FirstOffence headerRow checkFinalPool rows f

/-! ## Builders that go through the rows -/

namespace Builder

variable {b m : Builder} {row : Int} {r : Record} {es : List Entry} {f : Failure}

/-- The builder has gone through the entries `es`, of which at most one is a grand total: no grand
    total was among them, and they said nothing; or it has assembled them behind the grand total. -/
inductive Follows (b : Builder) (es : List Entry) : Prop
  | ahead (untouched : b.IsUntouched) (none : ∀ e ∈ es, e = .unrecognized)
  | behind (t : Nat) (total : .grandTotal (some t) (some t) ∈ es)
      (only : ∀ e ∈ es, e.kind = .grandTotal → e = .grandTotal (some t) (some t))
      (assembled : b.Assembled t es)

/-- The grand total: nothing was assembled before it. -/
theorem IsUntouched.feed_total (h : b.IsUntouched) (none : ∀ e ∈ es, e = .unrecognized)
    (hrow : row = b.headerRow) (hok : (b.feed row r).1 = .ok ()) :
    ∃ t, r.entryAt row b.headerRow = .grandTotal (some t) (some t) ∧
      (b.feed row r).2.Assembled t (es ++ [.grandTotal (some t) (some t)]) := by
  obtain ⟨t, htotal, hsubtotal, hschedule, hphase, hpools⟩ := feed_total_of_ok hrow hok
  have noPools := pools_of_unrecognized none
  refine ⟨t, by rw [hrow, Record.entryAt_self, htotal, hsubtotal], ?_, ?_⟩
  · rw [pools_append_of_not rfl rfl, noPools]
    exact .of_nil ⟨hschedule, hphase.trans h.phase⟩ (hpools.trans h.poolsTotal)
  · rw [accountsAhead_append_of_nil noPools, accountsAhead_of_unrecognized none]
    rfl

namespace Follows

/-- A step that succeeds goes through one more entry. -/
theorem feed (h : b.Follows es) (once : row = b.headerRow → ∀ e ∈ es, e.kind ≠ .grandTotal)
    (hok : (b.feed row r).1 = .ok ()) :
    (b.feed row r).2.Follows (es ++ [r.entryAt row b.headerRow]) := by
  by_cases hrow : row = b.headerRow
  · cases h with
    | ahead untouched none =>
      obtain ⟨t, entry, assembled⟩ := untouched.feed_total none hrow hok
      rw [entry]
      refine .behind t List.mem_concat_self ?_ assembled
      intro e he hkind
      rcases List.mem_append.1 he with he | he
      · exact absurd (none e he ▸ hkind) (by simp [Entry.kind])
      · exact List.mem_singleton.1 he
    | behind t total => exact absurd rfl (once hrow _ total)
  · cases h with
    | ahead untouched none =>
      obtain ⟨entry, untouched⟩ := untouched.feed hrow hok
      refine .ahead untouched ?_
      rw [List.forall_mem_append]
      exact ⟨none, by simpa using entry⟩
    | behind t total only assembled =>
      -- No second grand total comes, since the row is not that of one.
      refine .behind t (List.mem_append_left _ total) ?_ (assembled.feed hrow hok)
      intro e he hkind
      rcases List.mem_append.1 he with he | he
      · exact only e he hkind
      · obtain rfl := List.mem_singleton.1 he
        exact absurd (r.kind_entryAt_eq_grandTotal_iff.1 hkind) hrow

/-- A run through rows of which at most one is the grand total goes through their entries. -/
theorem run {headerRow : Int} {checkFinalPool : Bool} {rows : List (Int × Record)}
    (once : rows.countP (fun row => row.1 = headerRow) ≤ 1)
    (hok : feedAll { headerRow, checkFinalPool } (asRead rows) = .ok m) :
    m.Follows (ofRows headerRow rows) := by
  refine feedAll_induction (P := fun fed m => m.Follows (ofRows headerRow fed)) hok
    (.ahead (.init _ _) fun _ he => absurd he List.not_mem_nil) ?_
  intro fed row r rest m hsplit hhead hm hfeed
  have hhead : m.headerRow = headerRow := hhead
  rw [ofRows_append, ← hhead]
  refine (hhead ▸ hm).feed ?_ hfeed
  rintro rfl e he hkind
  obtain ⟨q, hq, rfl⟩ := List.mem_map.1 he
  have hq' := q.2.kind_entryAt_eq_grandTotal_iff.1 hkind
  -- Two rows would be the grand total.
  rw [hsplit, List.countP_append, List.countP_cons_of_pos (by simp [hhead])] at once
  have another : 0 < fed.countP (fun row => row.1 = headerRow) :=
    List.countP_pos_iff.2 ⟨q, hq, by simp [hq', hhead]⟩
  omega

/-- The grand total behind which the builder is. -/
theorem assembled_of_mem {t : Nat} (h : b.Follows es) (total : .grandTotal (some t) (some t) ∈ es) :
    b.Assembled t es := by
  cases h with
  | ahead untouched none => exact absurd (none _ total) Entry.noConfusion
  | behind t' _ only assembled =>
    obtain rfl : t = t' := by simpa using only _ total rfl
    exact assembled

/-- Behind a grand total the builder has assembled the entries. -/
theorem exists_assembled (h : b.Follows es) (behind : ∃ e ∈ es, e.kind = .grandTotal) :
    ∃ t, .grandTotal (some t) (some t) ∈ es ∧ b.Assembled t es := by
  obtain ⟨e, he, hkind⟩ := behind
  cases h with
  | ahead untouched none => exact absurd (none e he ▸ hkind) (by simp [Entry.kind])
  | behind t total _ assembled => exact ⟨t, total, assembled⟩

theorem untouched_of_ahead (h : b.Follows es) (ahead : ∀ e ∈ es, e.kind ≠ .grandTotal) :
    b.IsUntouched := by
  cases h with
  | ahead untouched => exact untouched
  | behind t total => exact absurd rfl (ahead _ total)

theorem poolsTotal_eq {t : Nat} (h : b.Assembled t es) :
    b.poolsTotal = addUp (es.filterMap subtotal?) := by
  rw [h.lawful.poolsTotal, map_total_pools, Nat.add_zero]

/-- An offence makes the step fail, with that failure. -/
theorem feed_of_offence (h : b.Follows es)
    (offence : Offence b.headerRow es row (r.entryAt row b.headerRow) f) :
    (b.feed row r).1 = .error f.raised := by
  generalize he : r.entryAt row b.headerRow = e at offence
  cases offence with
  | totalIncomplete lacking =>
    rw [feed_grandTotal he]
    rcases lacking with rfl | rfl
    · rfl
    · rename_i total
      cases total <;> rfl
  | totalUnequal unequal =>
    rw [feed_grandTotal he, grandTotal, if_neg unequal]
    rfl
  | poolBeforeTotal ahead =>
    have none : (b.see row).schedule = none := (h.untouched_of_ahead ahead).schedule
    rw [feed_poolHeader he, openPool_of_none none]
    rfl
  | accountBeforeTotal ahead =>
    have none : (b.see row).schedule = none := (h.untouched_of_ahead ahead).schedule
    rw [feed_account he, addAccount_of_none none]
    rfl
  | outsidePool behind ahead =>
    obtain ⟨t, -, assembled⟩ := h.exists_assembled behind
    have holds := assembled.lawful.holds
    rw [pools_eq_nil_iff.2 fun e he => isHeader_eq_false_iff.2 (ahead e he)] at holds
    rw [feed_account he, (holds.see row).addAccount_of_nil]
    rfl
  | totalExceeded total exceeded =>
    have assembled := h.assembled_of_mem total
    rw [← poolsTotal_eq assembled] at exceeded ⊢
    rw [feed_poolHeader he, (assembled.lawful.holds.see row).openPool_of_lt exceeded]
    rfl
  | poolUnbalanced total within last unbalanced =>
    have assembled := h.assembled_of_mem total
    rw [← poolsTotal_eq assembled] at within
    obtain ⟨front, hp⟩ := List.getLast?_eq_some_iff.1 last
    have holds := assembled.lawful.holds.see row
    have check := (hp ▸ holds).checkPool_of_append row
    rw [if_neg unbalanced] at check
    rw [feed_poolHeader he, holds.openPool_of_error within check]

/-- A grand total that is no offence is accepted. -/
theorem grandTotal_of_sound {total subtotal : Option Nat}
    (sound : ∀ f, ¬ Offence b.headerRow es row (.grandTotal total subtotal) f) :
    ∃ t : Nat, t ∈ (Entry.grandTotal total subtotal).numbers ∧
      (b.grandTotal row total subtotal).1 = Numeral.spell [row, t] := by
  cases total with
  | none => exact absurd (.totalIncomplete (.inl rfl)) (sound _)
  | some t =>
    cases subtotal with
    | none => exact absurd (.totalIncomplete (.inr rfl)) (sound _)
    | some s =>
      by_cases hts : t = s
      · exact ⟨t, by simp [Entry.numbers], by rw [grandTotal, if_pos hts, fst_done]⟩
      · exact absurd (.totalUnequal hts) (sound _)

/-- A header that is no offence opens a pool. -/
theorem openPool_of_sound {name : String} {n : Nat} (h : b.Follows es)
    (sound : ∀ f, ¬ Offence b.headerRow es row (.poolHeader name n) f) :
    ((b.see row).openPool row name n).1 = Numeral.spell [row, n] := by
  have behind : ∃ e ∈ es, e.kind = .grandTotal := by
    by_contra ahead
    exact sound _ (.poolBeforeTotal fun e he hkind => ahead ⟨e, he, hkind⟩)
  obtain ⟨t, total, assembled⟩ := h.exists_assembled behind
  have holds := assembled.lawful.holds.see row
  -- The bound comes first: a pool that is not balanced is an offence only within it.
  have within : addUp (es.filterMap subtotal?) + n ≤ t :=
    Nat.not_lt.1 fun exceeded => sound _ (.totalExceeded total exceeded)
  have check : (b.see row).checkPool row = .ok () := by
    rw [holds.checkPool_eq_ok_iff]
    intro p last
    by_contra unbalanced
    exact sound _ (.poolUnbalanced total within last unbalanced)
  rw [← poolsTotal_eq assembled] at within
  rw [holds.openPool_of_ok within check, fst_done]

/-- An account that is no offence goes to a pool. -/
theorem addAccount_of_sound {a : Account} (h : b.Follows es)
    (sound : ∀ f, ¬ Offence b.headerRow es row (.account a) f) :
    ((b.see row).addAccount row a).1 = .ok () := by
  have behind : ∃ e ∈ es, e.kind = .grandTotal := by
    by_contra ahead
    exact sound _ (.accountBeforeTotal fun e he hkind => ahead ⟨e, he, hkind⟩)
  obtain ⟨t, -, assembled⟩ := h.exists_assembled behind
  have holds := assembled.lawful.holds.see row
  rcases (pools es).eq_nil_or_concat' with hp | ⟨front, p, hp⟩
  · have ahead := pools_eq_nil_iff.1 hp
    exact absurd (.outsidePool behind fun e he => isHeader_eq_false_iff.1 (ahead e he)) (sound _)
  · rw [hp] at holds
    rw [holds.addAccount_of_append]

/-- Without an offence the step succeeds if all it reports on can be written. -/
theorem feed_of_sound (h : b.Follows es)
    (sound : ∀ f, ¬ Offence b.headerRow es row (r.entryAt row b.headerRow) f) :
    r.IsReported row b.headerRow ∧
        (∃ ns, (∀ n ∈ ns, n ∈ r.integers) ∧ (b.feed row r).1 = Numeral.spell (row :: ns)) ∨
      ¬ r.IsReported row b.headerRow ∧ (b.feed row r).1 = .ok () := by
  have numbers (n : Nat) (hn : n ∈ (r.entryAt row b.headerRow).numbers) :
      ∀ m ∈ [(n : Int)], m ∈ r.integers := by
    rw [List.forall_mem_singleton]
    exact Record.mem_integers_of_mem_numbers hn
  unfold Record.IsReported
  cases he : r.entryAt row b.headerRow with
  | grandTotal total subtotal =>
    rw [he] at sound numbers
    obtain ⟨t, mem, hfeed⟩ := grandTotal_of_sound (b := b.see row) sound
    rw [feed_grandTotal he]
    exact .inl ⟨trivial, _, numbers t mem, hfeed⟩
  | poolHeader name n =>
    rw [he] at sound numbers
    rw [feed_poolHeader he]
    exact .inl ⟨trivial, _, numbers n List.mem_cons_self, h.openPool_of_sound sound⟩
  | account a =>
    rw [he] at sound
    rw [feed_account he]
    exact .inr ⟨id, h.addAccount_of_sound sound⟩
  | unrecognized =>
    rw [feed_unrecognized he]
    rcases (b.see row).skip_cases row r with ⟨hb, hskip⟩ | ⟨hb, ⟨f, hf, hskip⟩ | ⟨hf, hskip⟩⟩
    · exact .inr ⟨by simp [hb], by rw [hskip]⟩
    · exact .inl ⟨hb, r.integers, fun _ => id, by rw [hskip, hf]⟩
    · exact .inl ⟨hb, r.integers, fun _ => id, by rw [hskip, hf]⟩

/-- A step fails if and only if the row is an offence, and with that failure. -/
theorem feed_eq_error_iff {headerRow : Int} {before : List (Int × Record)}
    (h : b.Follows (ofRows headerRow before)) (hhead : b.headerRow = headerRow)
    (small : r.size < Numeral.tenTo Numeral.maxDigits) :
    (b.feed row r).1 = .error f ↔ ∃ g, Offends headerRow before row r g ∧ f = g.raised := by
  subst hhead
  -- Two offences of one row fail alike: both say how the step fails.
  by_cases hg : ∃ g, Offence b.headerRow (ofRows b.headerRow before) row
      (r.entryAt row b.headerRow) g
  · obtain ⟨g, offence⟩ := hg
    rw [h.feed_of_offence offence, Except.error.injEq]
    constructor
    · rintro rfl
      exact ⟨g, .inl offence, rfl⟩
    · rintro ⟨g', offence' | ⟨-, long, rfl⟩, rfl⟩
      · exact Except.error.inj ((h.feed_of_offence offence).symm.trans (h.feed_of_offence offence'))
      · exact Failure.raised_of_not_fits offence.row_mem_spelled long
  · have sound : ∀ g, ¬ Offence b.headerRow (ofRows b.headerRow before) row
        (r.entryAt row b.headerRow) g := fun g offence => hg ⟨g, offence⟩
    rcases h.feed_of_sound sound with ⟨reported, ns, hns, hfeed⟩ | ⟨unreported, hfeed⟩
    · -- The other numbers of the report are those of the record, which can be written.
      have fits : ∀ n ∈ ns, Numeral.Fits n := fun n hn =>
        Nat.lt_of_le_of_lt (Record.natAbs_le_size (hns n hn)) small
      rw [hfeed, Numeral.spell_eq_error_iff]
      constructor
      · rintro ⟨⟨n, hn, long⟩, rfl⟩
        rcases List.mem_cons.1 hn with rfl | hn
        · exact ⟨_, .inr ⟨reported, long, rfl⟩, rfl⟩
        · exact absurd (fits n hn) long
      · rintro ⟨g, offence | ⟨-, long, rfl⟩, rfl⟩
        · exact absurd offence (sound g)
        · exact ⟨⟨row, List.mem_cons_self, long⟩, rfl⟩
    · rw [hfeed]
      constructor
      · exact fun hf => absurd hf (by simp)
      · rintro ⟨g, offence | ⟨reported, -⟩, rfl⟩
        · exact absurd offence (sound g)
        · exact absurd reported unreported

/-- The end fails if and only if it is an offence, and with that failure. -/
theorem finish_eq_error_iff {headerRow : Int} {checkFinalPool : Bool} {rows : List (Int × Record)}
    (h : b.Follows (ofRows headerRow rows)) (hhead : b.headerRow = headerRow)
    (hcheck : b.checkFinalPool = checkFinalPool) (hseen : b.rowsSeen = rows.length)
    (hlast : b.lastRow = rows.getLast?.map Prod.fst)
    (small : Record.totalSize rows < Numeral.tenTo Numeral.maxDigits) :
    b.finish = .error f ↔ ∃ g, EndOffence headerRow checkFinalPool rows g ∧ f = g.raised := by
  subst hhead hcheck
  cases h with
  | ahead untouched none =>
    rw [finish_of_none untouched.schedule, Except.error.injEq, hseen]
    have noPools := pools_of_unrecognized none
    constructor
    · rintro rfl
      refine ⟨_, .totalMissing ?_, rfl⟩
      intro q hq hrow
      have hkind := none _ (List.mem_map_of_mem hq) ▸ q.2.kind_entryAt_eq_grandTotal_iff.2 hrow
      exact absurd hkind (by simp [Entry.kind])
    · rintro ⟨g, offence, hf⟩
      cases offence with
      | totalMissing => exact hf.symm
      | poolUnbalanced _ _ last =>
        rw [noPools] at last
        exact absurd last (by simp)
  | behind t total _ assembled =>
    obtain ⟨q, hq, entry⟩ := List.mem_map.1 total
    have hrow : q.1 = b.headerRow := q.2.kind_entryAt_eq_grandTotal_iff.1 (by rw [entry]; rfl)
    have ht : t ≤ Record.totalSize rows := by
      have mem : (t : Int) ∈ q.2.integers :=
        Record.mem_integers_of_mem_numbers (by rw [entry]; simp [Entry.numbers])
      exact Nat.le_trans (Record.natAbs_le_size mem) (Record.size_le_totalSize hq)
    have holds := assembled.lawful.holds
    -- The row behind the last one: there is a last one, since there is the grand total.
    obtain ⟨last, hlast'⟩ : ∃ last, rows.getLast? = some last :=
      Option.isSome_iff_exists.1 (List.getLast?_isSome.2 (List.ne_nil_of_mem hq))
    have hnext : b.lastRow.getD 0 + 1 = last.1 + 1 := by
      rw [hlast, hlast']
      rfl
    rw [holds.finish_eq_error_iff (Numeral.fits_natCast_of_le ht small), hnext,
      holds.checkPool_eq_error_iff]
    constructor
    · rintro ⟨checked, p, hp, unbalanced, hf⟩
      exact ⟨_, .poolUnbalanced checked hlast' hp unbalanced, hf⟩
    · rintro ⟨g, offence, hf⟩
      cases offence with
      | totalMissing none => exact absurd hrow (none q hq)
      | @poolUnbalanced row r p checked lastRow hp unbalanced =>
        rw [hlast'] at lastRow
        obtain rfl := Option.some.inj lastRow
        exact ⟨checked, p, hp, unbalanced, hf⟩

end Follows

end Builder

/-! ## The failure of a build -/

section

variable {headerRow : Int} {checkFinalPool : Bool} {rows : List (Int × Record)}

/-- The failure of an offence spells the number of its row and numbers of the records. -/
theorem Entry.Offence.fits {row : Int} {r : Record} {f : Failure}
    (h : Offence headerRow (ofRows headerRow rows) row (r.entryAt row headerRow) f)
    (hrow : Numeral.Fits row) (hhead : Numeral.Fits headerRow)
    (small : Record.totalSize rows + r.size < Numeral.tenTo Numeral.maxDigits) :
    ∀ n ∈ f.spelled, Numeral.Fits n := by
  have own : ∀ n ∈ (r.entryAt row headerRow).numbers, n ≤ r.size := fun n hn =>
    Record.natAbs_le_size (Record.mem_integers_of_mem_numbers hn)
  have fits : ∀ n, n ≤ Record.totalSize rows + r.size → Numeral.Fits (n : Nat) :=
    fun n hn => Numeral.fits_natCast_of_le hn small
  generalize r.entryAt row headerRow = e at h own
  cases h with
  | totalIncomplete => simpa [Failure.spelled] using hrow
  | totalUnequal =>
    simp only [Failure.spelled, List.forall_mem_cons]
    refine ⟨hrow, fits _ ?_, fits _ ?_, by simp⟩
    · exact Nat.le_add_left_of_le (own _ (by simp [numbers]))
    · exact Nat.le_add_left_of_le (own _ (by simp [numbers]))
  | poolBeforeTotal => simpa [Failure.spelled] using ⟨hrow, hhead⟩
  | accountBeforeTotal => simpa [Failure.spelled] using ⟨hrow, hhead⟩
  | outsidePool => simpa [Failure.spelled] using hrow
  | totalExceeded _ exceeded =>
    have sum := Nat.add_le_add (subtotals_le headerRow rows) (own _ List.mem_cons_self)
    simp only [Failure.spelled, List.forall_mem_cons]
    exact ⟨hrow, fits _ sum, fits _ (Nat.le_trans (Nat.le_of_lt exceeded) sum), by simp⟩
  | poolUnbalanced _ _ last =>
    have mem := List.mem_of_getLast? last
    simp only [Failure.spelled, List.forall_mem_cons]
    refine ⟨hrow, fits _ ?_, fits _ ?_, by simp⟩
    · exact Nat.le_add_right_of_le (Pool.accountsTotal_le mem)
    · exact Nat.le_add_right_of_le (Pool.total_le mem)

theorem EndOffence.fits {f : Failure} (h : EndOffence headerRow checkFinalPool rows f)
    (hhead : Numeral.Fits headerRow) (hlast : ∀ row ∈ rows.getLast?, Numeral.Fits (row.1 + 1))
    (small : Record.totalSize rows < Numeral.tenTo Numeral.maxDigits) :
    ∀ n ∈ f.spelled, Numeral.Fits n := by
  cases h with
  | totalMissing => simpa [Failure.spelled] using hhead
  | poolUnbalanced _ lastRow last =>
    have mem := List.mem_of_getLast? last
    simp only [Failure.spelled, List.forall_mem_cons]
    exact ⟨hlast _ lastRow, Numeral.fits_natCast_of_le (Pool.accountsTotal_le mem) small,
      Numeral.fits_natCast_of_le (Pool.total_le mem) small, by simp⟩

/-- The first offence spells the numbers of rows and numbers of the records. -/
theorem FirstOffence.fits {f : Failure} (h : FirstOffence headerRow checkFinalPool rows f)
    (hhead : Numeral.Fits headerRow) (hrows : ∀ row ∈ rows, Numeral.Fits row.1)
    (hlast : ∀ row ∈ rows.getLast?, Numeral.Fits (row.1 + 1))
    (small : Record.totalSize rows < Numeral.tenTo Numeral.maxDigits) :
    ∀ n ∈ f.spelled, Numeral.Fits n := by
  cases h with
  | @atRow before after row r _ split sound offends =>
    subst split
    rcases offends with offence | ⟨-, long, -⟩
    · refine offence.fits (hrows (row, r) (by simp)) hhead ?_
      rw [Record.totalSize_append, Record.totalSize_cons, ← Nat.add_assoc] at small
      exact Nat.lt_of_le_of_lt (Nat.le_add_right _ _) small
    · exact absurd (hrows (row, r) (by simp)) long
  | atEnd sound offence => exact offence.fits hhead hlast small

/-- The row of the grand total comes at most once, and what the integers of the records add up to
    can be written. -/
structure IsTame (headerRow : Int) (rows : List (Int × Record)) : Prop where
  once : rows.countP (fun row => row.1 = headerRow) ≤ 1
  small : Record.totalSize rows < Numeral.tenTo Numeral.maxDigits

theorem IsTame.left {more : List (Int × Record)} (h : IsTame headerRow (rows ++ more)) :
    IsTame headerRow rows where
  once := by
    have once := h.once
    rw [List.countP_append] at once
    exact Nat.le_trans (Nat.le_add_right _ _) once
  small := by
    have small := h.small
    rw [Record.totalSize_append] at small
    exact Nat.lt_of_le_of_lt (Nat.le_add_right _ _) small

/-- Behind a run, the next step fails if and only if its row is an offence. -/
theorem feed_eq_error_iff_offends {row : Int} {r : Record} {m : Builder} {f : Failure}
    (tame : IsTame headerRow (rows ++ [(row, r)]))
    (hrun : Builder.feedAll { headerRow, checkFinalPool } (Builder.asRead rows) = .ok m) :
    (m.feed row r).1 = .error f ↔ ∃ g, Offends headerRow rows row r g ∧ f = g.raised := by
  have follows := Builder.Follows.run tame.left.once hrun
  have mem : (row, r) ∈ rows ++ [(row, r)] := List.mem_concat_self
  exact follows.feed_eq_error_iff (Builder.feedAll_frame hrun).1
    (Nat.lt_of_le_of_lt (Record.size_le_totalSize mem) tame.small)

/-- A run fails if and only if one of its rows is an offence behind a run that succeeds. -/
theorem feedAll_eq_error_iff_offends (tame : IsTame headerRow rows) {f : Failure} :
    Builder.feedAll { headerRow, checkFinalPool } (Builder.asRead rows) = .error f ↔
      ∃ before row r after m g, rows = before ++ (row, r) :: after ∧
        Builder.feedAll { headerRow, checkFinalPool } (Builder.asRead before) = .ok m ∧
        Offends headerRow before row r g ∧ f = g.raised := by
  have step {before after : List (Int × Record)} {row : Int} {r : Record} {m : Builder}
      (split : rows = before ++ (row, r) :: after)
      (hbefore : Builder.feedAll { headerRow, checkFinalPool } (Builder.asRead before) = .ok m) :
      (m.feed row r).1 = .error f ↔ ∃ g, Offends headerRow before row r g ∧ f = g.raised := by
    rw [split, List.append_cons] at tame
    exact feed_eq_error_iff_offends tame.left hbefore
  rw [Builder.feedAll_asRead_eq_error_iff]
  constructor
  · rintro ⟨before, row, r, after, m, split, hbefore, hfeed⟩
    obtain ⟨g, offends, hf⟩ := (step split hbefore).1 hfeed
    exact ⟨before, row, r, after, m, g, split, hbefore, offends, hf⟩
  · rintro ⟨before, row, r, after, m, g, split, hbefore, offends, hf⟩
    exact ⟨before, row, r, after, m, split, hbefore, (step split hbefore).2 ⟨g, offends, hf⟩⟩

/-- Records are sound if and only if a run through them succeeds. -/
theorem isSound_iff (tame : IsTame headerRow rows) :
    IsSound headerRow rows ↔
      ∃ m, Builder.feedAll { headerRow, checkFinalPool } (Builder.asRead rows) = .ok m := by
  constructor
  · intro sound
    cases hrun : Builder.feedAll { headerRow, checkFinalPool } (Builder.asRead rows) with
    | ok m => exact ⟨m, rfl⟩
    | error f =>
      obtain ⟨before, row, r, after, m, g, split, -, offends, -⟩ :=
        (feedAll_eq_error_iff_offends tame).1 hrun
      exact absurd offends (sound before row r after split g)
  · rintro ⟨m, hrun⟩ before row r after split f offends
    have hrun' := hrun
    rw [split, Builder.asRead_append, Builder.feedAll_append_eq_ok] at hrun'
    obtain ⟨m', hbefore, -⟩ := hrun'
    have failed := (feedAll_eq_error_iff_offends tame).2
      ⟨before, row, r, after, m', f, split, hbefore, offends, rfl⟩
    exact absurd (hrun.symm.trans failed) (by simp)

/-- A build fails if and only if its table has a first offence, and with that failure, or with the
    one that arises because its text cannot be written. -/
theorem IsTame.error_iff (tame : IsTame headerRow rows) {f : Failure} :
    buildSchedule headerRow checkFinalPool (Builder.asRead rows) = .error f ↔
      ∃ g, FirstOffence headerRow checkFinalPool rows g ∧ f = g.raised := by
  rw [buildSchedule_eq_bind]
  cases hrun : Builder.feedAll { headerRow, checkFinalPool } (Builder.asRead rows) with
  | error f' =>
    -- The run fails, and its records are not sound: the first offence is at a row.
    have ahead {before after : List (Int × Record)} {row : Int} {r : Record}
        (split : rows = before ++ (row, r) :: after) : IsTame headerRow before :=
      (split ▸ tame).left
    constructor
    · intro h
      obtain rfl : f' = f := Except.error.inj h
      obtain ⟨before, row, r, after, m, g, split, hbefore, offends, hf⟩ :=
        (feedAll_eq_error_iff_offends tame).1 hrun
      exact ⟨g, .atRow split ((isSound_iff (ahead split)).2 ⟨m, hbefore⟩) offends, hf⟩
    · rintro ⟨g, first, hf⟩
      cases first with
      | @atRow before after row r _ split sound offends =>
        obtain ⟨m, hbefore⟩ := (isSound_iff (ahead split)).1 sound
        have failed := (feedAll_eq_error_iff_offends tame).2
          ⟨before, row, r, after, m, g, split, hbefore, offends, hf⟩
        rw [Except.error.inj (hrun.symm.trans failed)]
        rfl
      | atEnd sound =>
        obtain ⟨m, hm⟩ := (isSound_iff tame).1 sound
        exact absurd (hrun.symm.trans hm) (by simp)
  | ok m =>
    -- The run succeeds, and its records are sound: the first offence is at the end.
    have sound := (isSound_iff tame).2 ⟨m, hrun⟩
    obtain ⟨hhead, hcheck, hseen, hlast⟩ := Builder.feedAll_frame hrun
    refine ((Builder.Follows.run tame.once hrun).finish_eq_error_iff hhead hcheck
      (hseen.trans (Nat.zero_add _)) (hlast.trans Option.or_none) tame.small).trans ?_
    constructor
    · rintro ⟨g, offence, hf⟩
      exact ⟨g, .atEnd sound offence, hf⟩
    · rintro ⟨g, first, hf⟩
      cases first with
      | atRow split _ offends => exact absurd offends (sound _ _ _ _ split _)
      | atEnd _ offence => exact ⟨g, offence, hf⟩

/-- A build fails if and only if its table has a first offence, and with that failure. The row of
    the grand total comes at most once, and what the integers of the records add up to can be
    written. Where the number of a row cannot, the build fails for this instead. -/
theorem buildSchedule_eq_error_iff (once : rows.countP (fun row => row.1 = headerRow) ≤ 1)
    (small : Record.totalSize rows < Numeral.tenTo Numeral.maxDigits) :
    (∀ f, buildSchedule headerRow checkFinalPool (Builder.asRead rows) = .error f ↔
      ∃ g, FirstOffence headerRow checkFinalPool rows g ∧ f = g.raised) ∧
    (Numeral.Fits headerRow → (∀ row ∈ rows, Numeral.Fits row.1) →
      (∀ row ∈ rows.getLast?, Numeral.Fits (row.1 + 1)) →
      ∀ f, buildSchedule headerRow checkFinalPool (Builder.asRead rows) = .error f ↔
        FirstOffence headerRow checkFinalPool rows f) := by
  have tame : IsTame headerRow rows := ⟨once, small⟩
  refine ⟨fun f => tame.error_iff, fun hhead hrows hlast f => ?_⟩
  have written {g : Failure} (first : FirstOffence headerRow checkFinalPool rows g) :
      g.raised = g := Failure.raised_of_fits (first.fits hhead hrows hlast small)
  rw [tame.error_iff]
  constructor
  · rintro ⟨g, first, rfl⟩
    rwa [written first]
  · exact fun first => ⟨f, first, (written first).symm⟩

/-- A table with a pool that takes more than there is, behind one that is not balanced. -/
def greedyTable : List (Int × Record) :=
  [(5, .ofTotal 10 10), (6, .ofHeader "Team" 6 ⟨false, 60, 0⟩),
    (7, .ofAccount "Ada" 5 ⟨false, 50, 0⟩), (8, .ofHeader "Seed" 5 ⟨false, 50, 0⟩)]

theorem buildSchedule_eq_error_iff_greedy :
    greedyTable.countP (fun row => row.1 = 5) ≤ 1 ∧
      Record.totalSize greedyTable < Numeral.tenTo Numeral.maxDigits ∧
      buildSchedule 5 true (Builder.asRead greedyTable) = .error (.totalExceeded 8 11 10) ∧
      FirstOffence 5 true greedyTable (.totalExceeded 8 11 10) := by
  have once : greedyTable.countP (fun row => row.1 = 5) ≤ 1 := by decide +kernel
  have small : Record.totalSize greedyTable < Numeral.tenTo Numeral.maxDigits := by decide +kernel
  have failed : buildSchedule 5 true (Builder.asRead greedyTable) =
      .error (.totalExceeded 8 11 10) := by decide +kernel
  refine ⟨once, small, failed, ?_⟩
  exact ((buildSchedule_eq_error_iff once small).2 (by decide +kernel) (by decide +kernel)
    (by decide +kernel) _).1 failed

end

end VestingTable
