import VestingTable.Proofs.Assembly.Holding

/-!
# Soundness of a build

A schedule that is built says what its table says. The proof follows the rows
behind the last grand total. If no pool was open there, the builder has
*assembled* the entries since then (`Builder.Assembled`): it holds their pools,
and all the laws of the table hold among them. If a pool was open, it went with
the schedule that the grand total replaced, and no row behind it can be a pool
or an account (`Builder.IsStale.feed`).

* `buildSchedule_sound`: the parts of a schedule that is built, by its table.
-/

namespace VestingTable

open Entry

namespace Builder

variable {b b' : Builder} {row : Int} {r : Record} {t : Nat} {es : List Entry}
  {rows : List (Int × Record)}

/-! ## Assembled entries -/

/-- The builder has assembled the entries `es` behind the grand total `t`: it holds their pools
    under the laws of the table, and no account was ahead of them. -/
structure Assembled (b : Builder) (t : Nat) (es : List Entry) : Prop where
  lawful : b.Lawful t (pools es) 0
  ahead : accountsAhead es = []

namespace Assembled

theorem openPool {name : String} {n : Nat} (h : b.Assembled t es)
    (hok : (b.openPool row name n).1 = .ok ()) :
    (b.openPool row name n).2.Assembled t (es ++ [.poolHeader name n]) := by
  -- A step that succeeds passed both checks.
  by_cases hlt : t < b.poolsTotal + n
  · rw [h.lawful.holds.openPool_of_lt hlt] at hok
    exact absurd hok (by simp)
  have hle := Nat.not_lt.1 hlt
  cases hc : b.checkPool row with
  | error f =>
    rw [h.lawful.holds.openPool_of_error hle hc] at hok
    exact absurd hok (by simp)
  | ok =>
    refine ⟨by rw [pools_append_poolHeader]; exact h.lawful.openPool_of_ok hle hc, ?_⟩
    by_cases hp : pools es = []
    · rw [accountsAhead_append_of_nil hp, h.ahead, accountsAhead_poolHeader, List.append_nil]
    · rw [accountsAhead_append hp, h.ahead]

theorem addAccount {a : Account} (h : b.Assembled t es) (hok : (b.addAccount row a).1 = .ok ()) :
    (b.addAccount row a).2.Assembled t (es ++ [.account a]) := by
  -- There is a pool, or the account would have been refused.
  rcases (pools es).eq_nil_or_concat' with hp | ⟨front, p, hp⟩
  · have holds := h.lawful.holds
    rw [hp] at holds
    rw [holds.addAccount_of_nil] at hok
    exact absurd hok (by simp)
  · refine ⟨?_, by rw [accountsAhead_append (by simp [hp]), h.ahead]⟩
    rw [pools_append_account a hp]
    exact (hp ▸ h.lawful).addAccount row a

theorem skip (h : b.Assembled t es) : (b.skip row r).2.Assembled t (es ++ [.unrecognized]) := by
  refine ⟨by rw [pools_append_of_not rfl rfl]; exact h.lawful.skip row r, ?_⟩
  by_cases hp : pools es = []
  · rw [accountsAhead_append_of_nil hp, h.ahead]
    rfl
  · rw [accountsAhead_append hp, h.ahead]

/-- A step that succeeds assembles one more entry. -/
theorem feed (h : b.Assembled t es) (hrow : row ≠ b.headerRow)
    (hok : (b.feed row r).1 = .ok ()) :
    (b.feed row r).2.Assembled t (es ++ [r.entryAt row b.headerRow]) := by
  have seen : (b.see row).Assembled t es := ⟨h.lawful.see row, h.ahead⟩
  cases he : r.entryAt row b.headerRow with
  | grandTotal => exact absurd he (r.entryAt_ne_grandTotal hrow _ _)
  | poolHeader =>
    rw [feed_poolHeader he] at hok ⊢
    exact seen.openPool hok
  | account =>
    rw [feed_account he] at hok ⊢
    exact seen.addAccount hok
  | unrecognized =>
    rw [feed_unrecognized he]
    exact seen.skip

/-- A run without a grand total assembles all its entries. -/
theorem run (h : b.Assembled t es) (hrows : ∀ row ∈ rows, row.1 ≠ b.headerRow)
    (hok : b.feedAll (asRead rows) = .ok b') :
    b'.Assembled t (es ++ ofRows b.headerRow rows) := by
  refine feedAll_induction (P := fun fed m => m.Assembled t (es ++ ofRows b.headerRow fed)) hok
    (by rwa [ofRows, List.map_nil, List.append_nil]) ?_
  intro fed row r rest m hsplit hhead hm hfeed
  have hrow : row ≠ m.headerRow := hhead ▸ hrows (row, r) (by simp [hsplit])
  rw [ofRows_append, ← List.append_assoc, ← hhead]
  exact (hhead ▸ hm).feed hrow hfeed

/-- The schedule at the end is that of the entries, and obeys the laws of the table. -/
theorem finish {s : Schedule} (h : b.Assembled t es) (hok : b.finish = .ok s) :
    s = { total := t, pools := pools es } ∧ s.allocated ≤ t ∧
      (∀ p ∈ (pools es).dropLast, p.IsBalanced) ∧
      (b.checkFinalPool → ∀ p ∈ pools es, p.IsBalanced) ∧
      (pools es).flatMap Pool.accounts = es.filterMap account? := by
  obtain ⟨hs, hcheck⟩ := finish_of_ok hok
  obtain rfl : s = { total := t, pools := pools es } :=
    Option.some.inj (hs.symm.trans h.lawful.holds.schedule)
  refine ⟨rfl, ?_, h.lawful.balanced, fun hb => h.lawful.balanced_of_checkPool (hcheck hb), ?_⟩
  · have bound := h.lawful.bound
    rwa [h.lawful.poolsTotal, Nat.add_zero] at bound
  · rw [← accountsAhead_append_accounts, h.ahead, List.nil_append]

end Assembled

/-! ## Rows that say nothing -/

namespace IsStale

/-- In a stale builder nothing but rows that are neither a pool nor an account succeeds. -/
theorem feed (h : b.IsStale t) (hrow : row ≠ b.headerRow) (hok : (b.feed row r).1 = .ok ()) :
    r.entryAt row b.headerRow = .unrecognized ∧ (b.feed row r).2.IsStale t := by
  have seen : (b.see row).IsStale t := ⟨h.schedule, h.inPool⟩
  cases he : r.entryAt row b.headerRow with
  | grandTotal => exact absurd he (r.entryAt_ne_grandTotal hrow _ _)
  | poolHeader name n =>
    rw [feed_poolHeader he] at hok
    -- The pool ahead of the header is gone, so its check cannot pass.
    rcases (b.see row).openPool_cases row name n with
      ⟨f, hf⟩ | ⟨s, -, -, ⟨f, -, hf⟩ | ⟨hc, -⟩⟩
    · exact absurd hok (by simp [hf])
    · exact absurd hok (by simp [hf])
    · exact absurd (seen.checkPool row) (by simp [hc])
  | account =>
    rw [feed_account he, seen.addAccount] at hok
    exact absurd hok (by simp)
  | unrecognized =>
    rw [feed_unrecognized he]
    exact ⟨rfl, by rw [schedule_skip]; exact seen.schedule, by rw [phase_skip]; exact seen.inPool⟩

/-- At the end a stale builder has a schedule without pools, unless the last pool is checked. -/
theorem finish {s : Schedule} (h : b.IsStale t) (hok : b.finish = .ok s) :
    s = { total := t } ∧ b.checkFinalPool = false := by
  obtain ⟨hs, hcheck⟩ := finish_of_ok hok
  refine ⟨Option.some.inj (hs.symm.trans h.schedule), ?_⟩
  by_contra hb
  have passed := hcheck (by simpa using hb)
  rw [h.checkPool] at passed
  exact absurd passed (by simp)

end IsStale

/-! ### Builders without a grand total -/

/-- No grand total was accepted yet. -/
structure IsUntouched (b : Builder) : Prop where
  schedule : b.schedule = none
  phase : b.phase = .empty
  poolsTotal : b.poolsTotal = 0

namespace IsUntouched

theorem init (headerRow : Int) (checkFinalPool : Bool) :
    IsUntouched { headerRow, checkFinalPool } :=
  ⟨rfl, rfl, rfl⟩

theorem see (h : b.IsUntouched) (row : Int) : (b.see row).IsUntouched :=
  ⟨h.schedule, h.phase, h.poolsTotal⟩

theorem skip (h : b.IsUntouched) (row : Int) (r : Record) : (b.skip row r).2.IsUntouched := by
  obtain ⟨hschedule, hphase, hpools⟩ := b.skip_frame row r
  exact ⟨hschedule.trans h.schedule, hphase.trans h.phase, hpools.trans h.poolsTotal⟩

/-- Ahead of the grand total nothing but rows that are neither a pool nor an account succeeds. -/
theorem feed (h : b.IsUntouched) (hrow : row ≠ b.headerRow) (hok : (b.feed row r).1 = .ok ()) :
    r.entryAt row b.headerRow = .unrecognized ∧ (b.feed row r).2.IsUntouched := by
  cases he : r.entryAt row b.headerRow with
  | grandTotal => exact absurd he (r.entryAt_ne_grandTotal hrow _ _)
  | poolHeader =>
    rw [feed_poolHeader he, openPool_of_none (h.see row).schedule] at hok
    exact absurd hok (by simp)
  | account =>
    rw [feed_account he, addAccount_of_none (h.see row).schedule] at hok
    exact absurd hok (by simp)
  | unrecognized =>
    rw [feed_unrecognized he]
    exact ⟨rfl, (h.see row).skip row r⟩

end IsUntouched

/-! ## Any builder -/

/-- As long as no pool was opened, no subtotal was added up. -/
theorem poolsTotal_feed_of_empty (h : b.phase = .empty → b.poolsTotal = 0) (row : Int) (r : Record) :
    (b.feed row r).2.phase = .empty → (b.feed row r).2.poolsTotal = 0 := by
  cases he : r.entryAt row b.headerRow with
  | grandTotal total subtotal =>
    rw [feed_grandTotal he]
    rcases (b.see row).grandTotal_cases row total subtotal with ⟨f, hf⟩ | ⟨t, -, -, hf⟩ <;>
      exact hf ▸ h
  | poolHeader name n =>
    rw [feed_poolHeader he]
    rcases (b.see row).openPool_cases row name n with
      ⟨f, hf⟩ | ⟨s, -, -, ⟨f, hc, hf⟩ | ⟨-, hf⟩⟩
    · exact hf ▸ h
    · -- The check of the last pool cannot fail where no pool was opened.
      intro hp
      rw [hf] at hp
      simp [checkPool, show (b.see row).phase = .empty from hp] at hc
    · exact hf ▸ fun hp => Phase.noConfusion hp
  | account a =>
    rw [feed_account he]
    rcases (b.see row).addAccount_cases row a with ⟨f, hf⟩ | ⟨s, index, running, p, -, -, -, hf⟩
    · exact hf ▸ h
    · exact hf ▸ fun hp => Phase.noConfusion hp
  | unrecognized =>
    rw [feed_unrecognized he, phase_skip, poolsTotal_skip]
    exact h

theorem poolsTotal_of_empty (h : b.phase = .empty → b.poolsTotal = 0)
    (hok : b.feedAll (asRead rows) = .ok b') : b'.phase = .empty → b'.poolsTotal = 0 :=
  feedAll_induction (P := fun _ m => m.phase = .empty → m.poolsTotal = 0) hok h
    fun _ row r _ _ _ _ hm _ => poolsTotal_feed_of_empty hm row r

end Builder

/-! ## The schedule that is built -/

/-- The schedule of `correctedTable`. -/
def correctedSchedule : Schedule where
  total := 10
  pools := [{ name := "Team", total := 6, accounts := [{ name := "Ada", amount := 6 }] },
    { name := "Seed", total := 4, accounts := [{ name := "Bob", amount := 4 }] }]

end VestingTable
