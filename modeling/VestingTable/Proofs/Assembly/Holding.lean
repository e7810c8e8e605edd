import VestingTable.Proofs.Assembly.Reading
import VestingTable.Proofs.Assembly.Steps

/-!
# What a builder holds

Behind a grand total a builder holds pools and is in the last of them, if there
is one: its phase counts the pools and adds up the accounts of the last one
(`Builder.Holds`). Each step is described by the pools that are held before and
after it:

* a header is refused if the total is exceeded or the last pool is not balanced,
  and else adds a pool (`Holds.openPool_of_lt`, `Holds.openPool_of_error`,
  `Holds.openPool_of_ok`);
* an account goes to the last pool, and is refused if there is none
  (`Holds.addAccount_of_nil`, `Holds.addAccount_of_append`).

A builder that holds pools under the laws of the table goes on to do so, whether
a step succeeds or fails (`Lawful.openPool_of_ok`, `Lawful.openPool_of_error`,
`Lawful.addAccount`). A grand total in an open pool leaves it without any pool
to be in (`Builder.IsStale`).
-/

namespace VestingTable

/-- Where a builder is that holds pools: in the last one. -/
def Phase.ofPools (ps : List Pool) : Phase :=
  match ps.getLast? with
  | none => .empty
  | some p => .inPool (ps.length - 1) p.accountsTotal

@[simp] theorem Phase.ofPools_nil : ofPools [] = .empty := rfl

@[simp] theorem Phase.ofPools_append (front : List Pool) (p : Pool) :
    ofPools (front ++ [p]) = .inPool front.length p.accountsTotal := by
  simp [ofPools]

/-- Only without pools the builder is in none. -/
theorem Phase.ofPools_eq_empty_iff {ps : List Pool} : ofPools ps = .empty ↔ ps = [] := by
  rcases ps.eq_nil_or_concat' with rfl | ⟨front, p, rfl⟩ <;> simp

/-- The phase counts the pools and adds up the accounts of the last one. -/
theorem Phase.ofPools_eq_inPool {ps : List Pool} {index running : Nat}
    (h : ofPools ps = .inPool index running) :
    ∃ front p, ps = front ++ [p] ∧ index = front.length ∧ running = p.accountsTotal := by
  rcases ps.eq_nil_or_concat' with rfl | ⟨front, p, rfl⟩
  · exact absurd h Phase.noConfusion
  · rw [ofPools_append] at h
    obtain ⟨hindex, hrunning⟩ := Phase.inPool.inj h
    exact ⟨front, p, rfl, hindex.symm, hrunning.symm⟩

namespace Builder

variable {b : Builder} {row : Int} {r : Record}

/-! ## Pools that are held -/

/-- The builder holds the pools `ps` under the grand total `t`, and is in the last of them. -/
structure Holds (b : Builder) (t : Nat) (ps : List Pool) : Prop where
  schedule : b.schedule = some { total := t, pools := ps }
  phase : b.phase = .ofPools ps

namespace Holds

variable {t n : Nat} {ps front : List Pool} {p : Pool} {name : String}

theorem see (h : b.Holds t ps) (row : Int) : (b.see row).Holds t ps :=
  ⟨h.schedule, h.phase⟩

theorem checkPool_of_nil (h : b.Holds t []) (row : Int) : b.checkPool row = .ok () := by
  simp [checkPool, h.phase]

theorem checkPool_of_append (h : b.Holds t (front ++ [p])) (row : Int) :
    b.checkPool row =
      if p.IsBalanced then .ok ()
      else .error (Failure.raised (.poolUnbalanced row p.name p.accountsTotal p.total)) := by
  by_cases hp : p.accountsTotal = p.total <;>
    simp [checkPool, h.phase, h.schedule, Pool.IsBalanced, hp]

/-- The check passes if the last pool is balanced. -/
theorem checkPool_eq_ok_iff (h : b.Holds t ps) :
    b.checkPool row = .ok () ↔ ∀ p ∈ ps.getLast?, p.IsBalanced := by
  rcases ps.eq_nil_or_concat' with rfl | ⟨front, p, rfl⟩
  · simp [h.checkPool_of_nil]
  · rw [h.checkPool_of_append, List.getLast?_concat]
    split <;> simp_all

/-- The check fails if the last pool is not balanced. -/
theorem checkPool_eq_error_iff {f : Failure} (h : b.Holds t ps) :
    b.checkPool row = .error f ↔ ∃ p, ps.getLast? = some p ∧ ¬ p.IsBalanced ∧
      f = Failure.raised (.poolUnbalanced row p.name p.accountsTotal p.total) := by
  rcases ps.eq_nil_or_concat' with rfl | ⟨front, p, rfl⟩
  · simp [h.checkPool_of_nil]
  · rw [h.checkPool_of_append, List.getLast?_concat]
    by_cases hp : p.IsBalanced
    · rw [if_pos hp]
      simp [hp]
    · rw [if_neg hp, Except.error.injEq]
      simp [hp, eq_comm]

/-- At the end nothing but the check of the last pool fails, if the total can be written. -/
theorem finish_eq_error_iff {f : Failure} (h : b.Holds t ps) (fits : Numeral.Fits t) :
    b.finish = .error f ↔
      b.checkFinalPool ∧ b.checkPool (b.lastRow.getD 0 + 1) = .error f := by
  have spelled : Numeral.spell [(t : Int)] = .ok () := by
    rwa [Numeral.spell_eq_ok_iff, List.forall_mem_singleton]
  rw [finish_of_some h.schedule, spelled]
  cases b.checkFinalPool <;> cases b.checkPool (b.lastRow.getD 0 + 1) <;>
    simp [Except.bind, Except.map]

theorem openPool_of_lt (h : b.Holds t ps) (hlt : t < b.poolsTotal + n) :
    b.openPool row name n = b.refuse (.totalExceeded row (b.poolsTotal + n) t) := by
  rw [Builder.openPool_of_lt h.schedule hlt]

theorem openPool_of_error {f : Failure} (h : b.Holds t ps) (hle : b.poolsTotal + n ≤ t)
    (hc : b.checkPool row = .error f) :
    b.openPool row name n = (.error f, { b with poolsTotal := b.poolsTotal + n }) := by
  rw [Builder.openPool_of_error h.schedule hle hc]

theorem openPool_of_ok (h : b.Holds t ps) (hle : b.poolsTotal + n ≤ t)
    (hc : b.checkPool row = .ok ()) :
    b.openPool row name n = done { b with
      poolsTotal := b.poolsTotal + n
      schedule := some { total := t, pools := ps ++ [{ name, total := n }] }
      phase := .ofPools (ps ++ [{ name, total := n }]) } [row, n] := by
  rw [Builder.openPool_of_ok h.schedule hle hc, Phase.ofPools_append, Pool.accountsTotal,
    List.map_nil, addUp]

theorem addAccount_of_nil (h : b.Holds t []) (a : Account) :
    b.addAccount row a = b.refuse (.outsidePool row a.name) := by
  simp [addAccount, h.schedule, h.phase]

theorem addAccount_of_append (h : b.Holds t (front ++ [p])) (a : Account) :
    b.addAccount row a = (.ok (), { b with
      schedule := some { total := t, pools := front ++ [p.add a] }
      phase := .ofPools (front ++ [p.add a]) }) := by
  simp only [addAccount, h.schedule, h.phase, Phase.ofPools_append, List.getElem?_concat_length,
    List.set_append_right _ _ (Nat.le_refl _), Nat.sub_self, List.set_cons_zero,
    Pool.accountsTotal_add]
  rfl

end Holds

/-! ## The laws of the table -/

/-- The builder holds pools under the laws of the table: all but the last are balanced, and the
    subtotals it has seen do not exceed the grand total. They are those of the pools and `extra`,
    which is what headers added that were refused in the end. -/
structure Lawful (b : Builder) (t : Nat) (ps : List Pool) (extra : Nat) : Prop where
  holds : b.Holds t ps
  poolsTotal : b.poolsTotal = addUp (ps.map Pool.total) + extra
  bound : b.poolsTotal ≤ t
  balanced : ∀ p ∈ ps.dropLast, p.IsBalanced

namespace Lawful

variable {t n extra : Nat} {ps front : List Pool} {p : Pool} {name : String}

theorem see (h : b.Lawful t ps extra) (row : Int) : (b.see row).Lawful t ps extra :=
  ⟨h.holds.see row, h.poolsTotal, h.bound, h.balanced⟩

/-- Behind a grand total there is nothing yet. -/
theorem of_nil (h : b.Holds t []) (hp : b.poolsTotal = 0) : b.Lawful t [] 0 :=
  ⟨h, hp, hp ▸ Nat.zero_le t, fun _ hp => absurd hp List.not_mem_nil⟩

/-- Where the check of the last pool passes, all pools are balanced. -/
theorem balanced_of_checkPool (h : b.Lawful t ps extra) (hc : b.checkPool row = .ok ()) :
    ∀ p ∈ ps, p.IsBalanced := by
  have last := h.holds.checkPool_eq_ok_iff.1 hc
  have front := h.balanced
  rcases ps.eq_nil_or_concat' with rfl | ⟨ps, p, rfl⟩
  · exact fun _ hp => absurd hp List.not_mem_nil
  · rw [List.dropLast_concat] at front
    rw [List.getLast?_concat] at last
    intro q hq
    rcases List.mem_append.1 hq with hq | hq
    · exact front q hq
    · rw [List.mem_singleton.1 hq]
      exact last p rfl

/-- A header that passes both checks opens a pool. -/
theorem openPool_of_ok (h : b.Lawful t ps extra) (hle : b.poolsTotal + n ≤ t)
    (hc : b.checkPool row = .ok ()) :
    (b.openPool row name n).2.Lawful t (ps ++ [{ name, total := n }]) extra := by
  have all := h.balanced_of_checkPool hc
  rw [h.holds.openPool_of_ok hle hc]
  refine ⟨⟨rfl, rfl⟩, ?_, hle, by rwa [List.dropLast_concat]⟩
  simp only [done, h.poolsTotal, List.map_append, List.map_singleton, addUp_append, addUp_singleton]
  omega

/-- A header that is refused for the pool ahead of it has raised the subtotals before. -/
theorem openPool_of_error {f : Failure} (h : b.Lawful t ps extra) (hle : b.poolsTotal + n ≤ t)
    (hc : b.checkPool row = .error f) : (b.openPool row name n).2.Lawful t ps (extra + n) := by
  rw [h.holds.openPool_of_error hle hc]
  exact ⟨⟨h.holds.schedule, h.holds.phase⟩, by rw [h.poolsTotal, Nat.add_assoc], hle, h.balanced⟩

/-- An account goes to the last pool. -/
theorem addAccount (h : b.Lawful t (front ++ [p]) extra) (row : Int) (a : Account) :
    (b.addAccount row a).2.Lawful t (front ++ [p.add a]) extra := by
  have front := h.balanced
  rw [h.holds.addAccount_of_append]
  refine ⟨⟨rfl, rfl⟩, ?_, h.bound, ?_⟩
  · simp [h.poolsTotal]
  · rwa [List.dropLast_concat] at front ⊢

theorem skip (h : b.Lawful t ps extra) (row : Int) (r : Record) :
    (b.skip row r).2.Lawful t ps extra where
  holds := ⟨by rw [schedule_skip, h.holds.schedule], by rw [phase_skip, h.holds.phase]⟩
  poolsTotal := by rw [poolsTotal_skip, h.poolsTotal]
  bound := by rw [poolsTotal_skip]; exact h.bound
  balanced := h.balanced

end Lawful

/-! ## Stale builders -/

/-- The open pool went with a schedule that was replaced: the builder is in a pool, and its
    schedule, with the total `t`, has none. -/
structure IsStale (b : Builder) (t : Nat) : Prop where
  schedule : b.schedule = some { total := t }
  inPool : b.phase ≠ .empty

namespace IsStale

variable {t : Nat}

theorem checkPool (h : b.IsStale t) (row : Int) : b.checkPool row = .error .poolGone := by
  unfold Builder.checkPool
  split
  · exact absurd ‹_› h.inPool
  · simp [h.schedule]

theorem addAccount (h : b.IsStale t) (row : Int) (a : Account) :
    b.addAccount row a = b.refuse .poolGone := by
  simp only [Builder.addAccount, h.schedule]
  split
  · exact absurd ‹_› h.inPool
  · rfl

end IsStale
end Builder

end VestingTable
