import Mathlib.Tactic.Common
import VestingTable.Session

/-!
# Actions that only report

Most of what a conversion does reads the files and writes to the log. Such an action
leaves the files as they are, and what it gives does not depend on the log
(`Action.OnlyReports`). Its `Action.outcome` is then a function of the files, and the
outcomes of a sequence of such actions are those of its parts
(`Action.OnlyReports.outcome_bind`).

What an action gives if it succeeds is followed to its last step by `Action.Gives`.
-/

namespace VestingTable.Action

variable {α β : Type}

/-- The second action goes on in the session that the first one left. -/
theorem run_bind (x : Action α) (f : α → Action β) (s : Session) :
    (x >>= f).run s =
      match x.run s with
      | (.ok a, s) => (f a).run s
      | (.error failure, s) => (.error failure, s) := by
  change (match x s with | (a, s) => ExceptT.bindCont f a s) = match x s with
    | (.ok a, s) => (f a).run s
    | (.error failure, s) => (.error failure, s)
  rcases x s with ⟨_ | a, s'⟩ <;> rfl

/-- Both actions succeed if they do so one after the other. -/
theorem run_bind_eq_ok {x : Action α} {f : α → Action β} {s s' : Session} {b : β}
    (h : (x >>= f).run s = (.ok b, s')) :
    ∃ a t, x.run s = (.ok a, t) ∧ (f a).run t = (.ok b, s') := by
  rw [run_bind] at h
  split at h
  · exact ⟨_, _, ‹_›, h⟩
  · exact absurd (Prod.mk.inj h).1 (by simp)

@[simp] theorem run_of (a : Except Failure α) (s : Session) : (of a).run s = (a, s) := rfl

@[simp] theorem run_report (logger message : String) (s : Session) :
    (report logger message).run s =
      (.ok (), { s with log := s.log ++ [⟨logger, .info, message⟩] }) :=
  rfl

@[simp] theorem run_change (step : Folder → Except Failure Unit × Folder) (s : Session) :
    (change step).run s = ((step s.files).1, { s with files := (step s.files).2 }) := rfl

/-- What the action gives where the log is empty. -/
def outcome (x : Action α) (files : Folder) : Except Failure α :=
  (x.run { files }).1

/-- The action goes by the files alone, and changes nothing but the log. -/
structure OnlyReports (x : Action α) : Prop where
  files : ∀ s : Session, (x.run s).2.files = s.files
  outcome : ∀ s : Session, (x.run s).1 = x.outcome s.files

namespace OnlyReports

theorem exists_run {x : Action α} (h : x.OnlyReports) (s : Session) :
    ∃ t : Session, t.files = s.files ∧ x.run s = (x.outcome s.files, t) :=
  ⟨(x.run s).2, h.files s, Prod.ext (h.outcome s) rfl⟩

theorem of (a : Except Failure α) : (Action.of a).OnlyReports :=
  ⟨fun _ => rfl, fun _ => rfl⟩

protected theorem pure (a : α) : OnlyReports (pure a) :=
  ⟨fun _ => rfl, fun _ => rfl⟩

protected theorem throw (f : Failure) : OnlyReports (throw f : Action α) :=
  ⟨fun _ => rfl, fun _ => rfl⟩

/-- Behind a failure nothing is done. -/
theorem throw_bind (failure : Failure) (f : α → Action β) :
    ((throw failure : Action α) >>= f).OnlyReports :=
  ⟨fun _ => rfl, fun _ => rfl⟩

theorem report (logger message : String) : (Action.report logger message).OnlyReports :=
  ⟨fun _ => rfl, fun _ => rfl⟩

theorem ofFiles : Action.files.OnlyReports :=
  ⟨fun _ => rfl, fun _ => rfl⟩

variable {x : Action α} {f : α → Action β}

theorem run_bind (hx : x.OnlyReports) (hf : ∀ a, (f a).OnlyReports) (s : Session) :
    ((x >>= f).run s).2.files = s.files ∧
      ((x >>= f).run s).1 = (x.outcome s.files).bind fun a => (f a).outcome s.files := by
  have files := hx.files s
  rw [Action.run_bind, ← hx.outcome s]
  generalize x.run s = result at files ⊢
  obtain ⟨_ | a, s'⟩ := result
  · exact ⟨files, rfl⟩
  · refine ⟨((hf a).files s').trans files, ((hf a).outcome s').trans ?_⟩
    rw [show s'.files = s.files from files]
    rfl

theorem bind (hx : x.OnlyReports) (hf : ∀ a, (f a).OnlyReports) : (x >>= f).OnlyReports :=
  ⟨fun s => (run_bind hx hf s).1,
    fun s => (run_bind hx hf s).2.trans (run_bind hx hf { files := s.files }).2.symm⟩

theorem outcome_bind (hx : x.OnlyReports) (hf : ∀ a, (f a).OnlyReports) (files : Folder) :
    (x >>= f).outcome files = (x.outcome files).bind fun a => (f a).outcome files :=
  (run_bind hx hf { files }).2

end OnlyReports

/-- Whatever the action gives has a property. -/
def Gives (x : Action α) (P : α → Prop) : Prop :=
  ∀ (s : Session) (a : α), (x.run s).1 = .ok a → P a

namespace Gives

variable {P : α → Prop} {Q : β → Prop}

protected theorem pure {a : α} (h : P a) : Gives (pure a) P := by
  rintro s _ ⟨⟩
  exact h

protected theorem throw (f : Failure) : Gives (throw f : Action α) P :=
  nofun

theorem throw_bind (failure : Failure) (f : α → Action β) :
    Gives ((throw failure : Action α) >>= f) Q :=
  nofun

/-- The last step decides. -/
theorem bind {x : Action α} {f : α → Action β} (hf : ∀ a, (f a).Gives Q) : (x >>= f).Gives Q := by
  intro s b h
  rw [Action.run_bind] at h
  split at h
  · exact hf _ _ b h
  · contradiction

end Gives

end VestingTable.Action
