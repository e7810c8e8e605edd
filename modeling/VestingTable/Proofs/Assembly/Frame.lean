import VestingTable.Proofs.Assembly.Calls
import VestingTable.Proofs.Assembly.Offence

/-!
# What a failing step leaves behind

A step that fails leaves the schedule, the phase and the skipped rows as they were
(`Builder.Keeps`), wherever in the step the failure arises. What the subtotals add up to
is the exception: a header that is within the grand total has raised it before the pool
ahead is checked. Nothing else can come between a change and a failure but a report: a
step that passed all checks is done (`Builder.Grants`), and still fails if the number of
its row is too long to be written (`Builder.not_act_keeps_long`).

* `Builder.keeps_or_grants`: a step that fails, one case for each kind of row;
* `Builder.act_keeps`: what calls that fail leave behind, and the end in any case;
* `Builder.run_keeps`: and so any number of them, one after the other.
-/

namespace VestingTable

namespace Builder

variable {b m : Builder} {row : Int} {r : Record} {f : Failure} {extra more : Nat}

/-- What the builder `b` has assembled is in `m` as it was: the schedule with its pools and their
    accounts, the phase and the skipped rows. The subtotals add up to `extra` more. -/
structure Keeps (b m : Builder) (extra : Nat) : Prop where
  schedule : m.schedule = b.schedule
  phase : m.phase = b.phase
  skipped : m.skipped = b.skipped
  poolsTotal : m.poolsTotal = b.poolsTotal + extra

theorem Keeps.refl (b : Builder) : b.Keeps b 0 :=
  ⟨rfl, rfl, rfl, rfl⟩

theorem Keeps.trans {n : Builder} (h : b.Keeps m extra) (h' : m.Keeps n more) :
    b.Keeps n (extra + more) where
  schedule := h'.schedule.trans h.schedule
  phase := h'.phase.trans h.phase
  skipped := h'.skipped.trans h.skipped
  poolsTotal := by rw [h'.poolsTotal, h.poolsTotal, Nat.add_assoc]

/-- The step on a grand total or a header passes all checks, so that it is done, and reported on
    afterwards: the schedule is replaced by one without pools, or has one more pool, to which the
    accounts go from there on. -/
inductive Grants (b : Builder) (row : Int) (r : Record) : Builder → Prop
  | grandTotal {t : Nat} (entry : r.entryAt row b.headerRow = .grandTotal (some t) (some t)) :
    Grants b row r { b.see row with schedule := some { total := t } }
  | poolHeader {s : Schedule} {name : String} {n : Nat}
    (entry : r.entryAt row b.headerRow = .poolHeader name n) (held : b.schedule = some s)
    (within : b.poolsTotal + n ≤ s.total) (passed : b.checkPool row = .ok ()) :
    Grants b row r { b.see row with
      poolsTotal := b.poolsTotal + n
      schedule := some { s with pools := s.pools ++ [{ name, total := n }] }
      phase := .inPool s.pools.length 0 }

/-! ## One step -/

/-- A report that spells the number of a row, and another one that can be written, fails for the
    row. -/
theorem not_fits_of_spell {n : Int} (hf : Numeral.spell [row, n] = .error f)
    (fits : Numeral.Fits n) : ¬ Numeral.Fits row ∧ f = .longNumeral none := by
  obtain ⟨⟨k, hk, long⟩, hlong⟩ := Numeral.spell_eq_error_iff.1 hf
  refine ⟨?_, hlong⟩
  rcases List.mem_cons.1 hk with rfl | hk
  · exact long
  · obtain rfl := List.mem_singleton.1 hk
    contradiction

/-- The subtotal of a header counts as refused only if the header is within the grand total and the
    pool ahead of it does not pass. -/
theorem refused?_of_poolHeader {s : Schedule} {name : String} {n : Nat}
    (hs : b.schedule = some s) (he : r.entryAt row b.headerRow = .poolHeader name n) :
    b.refused? row r =
      if b.poolsTotal + n ≤ s.total ∧ b.checkPool row ≠ .ok () then some n else none := by
  simp only [refused?, hs, he]

/-- A grand total that fails changes nothing, or it is accepted and cannot be reported on. -/
theorem grandTotal_keeps {total subtotal : Option Nat}
    (he : r.entryAt row b.headerRow = .grandTotal total subtotal)
    (hf : ((b.see row).grandTotal row total subtotal).1 = .error f)
    (fits : ∀ n ∈ total, Numeral.Fits (n : Nat)) :
    b.Keeps ((b.see row).grandTotal row total subtotal).2 0 ∨
      b.Grants row r ((b.see row).grandTotal row total subtotal).2 ∧
        ¬ Numeral.Fits row ∧ f = .longNumeral none := by
  rcases (b.see row).grandTotal_cases row total subtotal with ⟨g, h⟩ | ⟨t, rfl, rfl, h⟩
  · rw [h]
    exact .inl ⟨rfl, rfl, rfl, rfl⟩
  · rw [h, fst_done] at hf
    rw [h, snd_done]
    exact .inr ⟨.grandTotal he, not_fits_of_spell hf (fits t rfl)⟩

/-- A header that fails changes nothing unless it is within the grand total. Then the subtotals were
    raised before the pool ahead was checked, or a pool was opened that cannot be reported on. -/
theorem openPool_keeps {name : String} {n : Nat}
    (he : r.entryAt row b.headerRow = .poolHeader name n)
    (hf : ((b.see row).openPool row name n).1 = .error f) (fits : Numeral.Fits n) :
    b.Keeps ((b.see row).openPool row name n).2 ((b.refused? row r).getD 0) ∨
      b.Grants row r ((b.see row).openPool row name n).2 ∧
        ¬ Numeral.Fits row ∧ f = .longNumeral none := by
  cases hs : b.schedule with
  | none =>
    have none : (b.see row).schedule = none := hs
    have unrefused : b.refused? row r = .none := by simp only [refused?, hs]
    rw [openPool_of_none none, unrefused]
    exact .inl ⟨rfl, rfl, rfl, rfl⟩
  | some s =>
    have some : (b.see row).schedule = some s := hs
    rw [refused?_of_poolHeader hs he]
    by_cases hlt : s.total < b.poolsTotal + n
    · rw [openPool_of_lt some hlt, if_neg fun within => Nat.not_lt.2 within.1 hlt]
      exact .inl ⟨rfl, rfl, rfl, rfl⟩
    have hle := Nat.not_lt.1 hlt
    cases hc : b.checkPool row with
    | error g =>
      rw [openPool_of_error some hle hc, if_pos ⟨hle, by simp⟩]
      exact .inl ⟨rfl, rfl, rfl, rfl⟩
    | ok =>
      -- Both checks pass, so what failed is the report on the pool that was opened.
      rw [openPool_of_ok some hle hc, fst_done] at hf
      rw [openPool_of_ok some hle hc, snd_done]
      exact .inr ⟨.poolHeader he hs hle hc, not_fits_of_spell hf fits⟩

/-- A step that fails leaves what was assembled as it was, but for the subtotal of a header that was
    refused for the pool ahead of it; or it was granted, and the number of its row is too long. -/
theorem keeps_or_grants (fits : ∀ n ∈ r.integers, Numeral.Fits n)
    (hf : (b.feed row r).1 = .error f) :
    b.Keeps (b.feed row r).2 ((b.refused? row r).getD 0) ∨
      b.Grants row r (b.feed row r).2 ∧ ¬ Numeral.Fits row ∧ f = .longNumeral none := by
  have numbers {n : Nat} (hn : n ∈ (r.entryAt row b.headerRow).numbers) : Numeral.Fits n :=
    fits n (Record.mem_integers_of_mem_numbers hn)
  cases he : r.entryAt row b.headerRow with
  | grandTotal total subtotal =>
    rw [feed_grandTotal he] at hf ⊢
    rw [refused?_of_entry_ne fun _ _ => by simp [he]]
    exact grandTotal_keeps he hf fun n hn =>
      numbers (by simp [he, Entry.numbers, Option.mem_def.1 hn])
  | poolHeader name n =>
    rw [feed_poolHeader he] at hf ⊢
    exact openPool_keeps he hf (numbers (by simp [he, Entry.numbers]))
  | account a =>
    rw [feed_account he] at hf ⊢
    rw [refused?_of_entry_ne fun _ _ => by simp [he]]
    rcases (b.see row).addAccount_cases row a with ⟨g, h⟩ | ⟨s, index, running, p, -, -, -, h⟩
    · rw [h]
      exact .inl ⟨rfl, rfl, rfl, rfl⟩
    · rw [h] at hf
      contradiction
  | unrecognized =>
    rw [feed_unrecognized he] at hf ⊢
    rw [refused?_of_entry_ne fun _ _ => by simp [he]]
    rcases (b.see row).skip_cases row r with ⟨-, h⟩ | ⟨-, ⟨g, -, h⟩ | ⟨-, h⟩⟩
    · rw [h] at hf
      contradiction
    · rw [h]
      exact .inl ⟨rfl, rfl, rfl, rfl⟩
    · rw [h] at hf
      contradiction

/-! ## Calls -/

/-- A call that fails leaves what was assembled as it was, and so does the end, whether it fails or
    not. Only the subtotal of a header that is refused for the pool ahead of it is added up. The
    integers of the record can be written; where the number of its row cannot, a step may fail that
    was granted, and has been done. -/
theorem act_keeps (b : Builder) :
    (∀ row r f, (∀ n ∈ r.integers, Numeral.Fits n) → (b.feed row r).1 = .error f →
      b.Keeps (b.act (.feed row r)) ((b.refused? row r).getD 0) ∨
        b.Grants row r (b.act (.feed row r)) ∧ ¬ Numeral.Fits row ∧ f = .longNumeral none) ∧
    b.Keeps (b.act .finish) 0 :=
  ⟨fun _ _ _ fits hf => keeps_or_grants fits hf, .refl b⟩

/-- A header that is within the grand total, behind a pool that is not balanced. -/
theorem act_keeps_refused :
    (∀ n ∈ (Record.ofHeader "Seed" 3 ⟨false, 30, 0⟩).integers, Numeral.Fits n) ∧
      ((run {} (stubbornCalls.take 3)).feed 8 (.ofHeader "Seed" 3 ⟨false, 30, 0⟩)).1 =
        .error (.poolUnbalanced 8 "Team" 4 6) ∧
      (run {} (stubbornCalls.take 3)).Keeps (run {} (stubbornCalls.take 4)) 3 := by
  have fits : ∀ n ∈ (Record.ofHeader "Seed" 3 ⟨false, 30, 0⟩).integers, Numeral.Fits n := by
    decide +kernel
  have failed : ((run {} (stubbornCalls.take 3)).feed 8 (.ofHeader "Seed" 3 ⟨false, 30, 0⟩)).1 =
      .error (.poolUnbalanced 8 "Team" 4 6) := by decide +kernel
  have refused : (run {} (stubbornCalls.take 3)).refused? 8 (.ofHeader "Seed" 3 ⟨false, 30, 0⟩) =
      some 3 := by decide +kernel
  rcases (act_keeps _).1 _ _ _ fits failed with kept | ⟨-, long, -⟩
  · rw [refused] at kept
    exact ⟨fits, failed, kept⟩
  · exact absurd (by decide +kernel : Numeral.Fits 8) long

/-- A call that fails may have changed what was assembled: a header in a row whose number is too
    long opens its pool before the report on it fails. -/
theorem not_act_keeps_long :
    ¬ ∀ (headerRow : Int) (checkFinalPool : Bool) (calls : List Call) (row : Int) (r : Record)
      (f : Failure), (∀ row r, .feed row r ∈ calls → ∀ n ∈ r.integers, Numeral.Fits n) →
      (∀ n ∈ r.integers, Numeral.Fits n) →
      ((run { headerRow, checkFinalPool } calls).feed row r).1 = .error f →
        (run { headerRow, checkFinalPool } calls).Keeps
          ((run { headerRow, checkFinalPool } calls).act (.feed row r))
          (((run { headerRow, checkFinalPool } calls).refused? row r).getD 0) := by
  intro claimed
  have failed : ((run {} [.feed 5 (.ofTotal 10 10)]).feed Numeral.leastLong
      (.ofHeader "Team" 6 ⟨false, 60, 0⟩)).1 = .error (.longNumeral none) := by decide +kernel
  have kept := claimed 5 false [.feed 5 (.ofTotal 10 10)] _ _ _ (fits_of_fed (by decide +kernel))
    (by decide +kernel) failed
  have before : (run {} [.feed 5 (.ofTotal 10 10)]).phase = .empty := by decide +kernel
  have opened : ((run {} [.feed 5 (.ofTotal 10 10)]).act
      (.feed Numeral.leastLong (.ofHeader "Team" 6 ⟨false, 60, 0⟩))).phase = .inPool 0 0 := by
    decide +kernel
  exact absurd (opened.symm.trans (kept.phase.trans before)) (by simp)

/-- The end, or a row at which the builder fails although all its numbers can be written. -/
def IsIdle (b : Builder) : Call → Prop
  | .feed row r => (∃ f, (b.feed row r).1 = .error f) ∧ Numeral.Fits row ∧
    ∀ n ∈ r.integers, Numeral.Fits n
  | .finish => True

theorem IsIdle.keeps {call : Call} (h : b.IsIdle call) :
    b.Keeps (b.act call) (addUp (b.refusals [call])) := by
  cases call with
  | finish => exact .refl b
  | feed row r =>
    obtain ⟨⟨f, hf⟩, hrow, fits⟩ := h
    have kept := (keeps_or_grants fits hf).resolve_right fun granted => granted.2.1 hrow
    have added : addUp (b.refusals [.feed row r]) = (b.refused? row r).getD 0 := by
      simp only [refusals, List.append_nil]
      cases b.refused? row r <;> rfl
    rwa [added]

/-- Calls of which none gets further leave what was assembled as it was, however many there are, and
    add up the subtotals that they refuse. -/
theorem run_keeps {calls : List Call}
    (idle : ∀ before call after, calls = before ++ call :: after → (b.run before).IsIdle call) :
    b.Keeps (b.run calls) (addUp (b.refusals calls)) := by
  induction calls generalizing b with
  | nil => exact .refl b
  | cons call calls ih =>
    have first := (idle [] call calls rfl).keeps
    have rest := ih fun before next after split =>
      idle (call :: before) next after (by rw [split, List.cons_append])
    have split : b.refusals (call :: calls) = b.refusals [call] ++ (b.act call).refusals calls := by
      cases call <;> simp [refusals, act]
    rw [split, addUp_append]
    exact first.trans rest

end Builder

end VestingTable
