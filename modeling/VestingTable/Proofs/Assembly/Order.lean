import VestingTable.Proofs.Agreement
import VestingTable.Proofs.Assembly.Sentinel

/-!
# Rows in order

Some failures of a builder are about rows that are *misplaced*: a row ahead of the grand
total, a grand total that is missing, or a pool that is gone since the grand total came
again (`Failure.IsMisplaced`). A table whose rows are *in order*, the grand total first
and the others behind it (`InOrder`), is beyond them:

* `Entry.Offence.not_isMisplaced`: behind the grand total no row is misplaced;
* `InOrder.not_isMisplaced_of_feedAll`: no run through rows in order fails for one;
* `InOrder.eq_nil_of_isMisplaced`: only the table without rows misses its grand total;
* `IsTame.category_of_error`: what is left are the laws of the table, where all numbers
  can be written.
-/

namespace VestingTable

open Entry

/-! ## Failures about misplaced rows -/

/-- The failure is about a row ahead of the grand total, a grand total that is missing, or one that
    came again. -/
def Failure.IsMisplaced : Failure → Prop
  | beforeTotal .. | totalMissing .. | poolGone => True
  | _ => False

/-- Where the failure that arises is about misplaced rows, so is the given one. -/
theorem Failure.isMisplaced_of_raised {f : Failure} (h : f.raised.IsMisplaced) : f.IsMisplaced := by
  unfold raised at h
  split at h
  · exact h
  · exact h.elim

theorem Failure.isMisplaced_of_index {f : Failure} (h : f.category = .index) : f.IsMisplaced := by
  cases f with
  | poolGone => trivial
  | badPath fault => cases fault <;> contradiction
  | _ => contradiction

/-- Where the grand total is ahead, or is the entry itself, the entry is not misplaced. -/
theorem Entry.Offence.not_isMisplaced {headerRow row : Int} {es : List Entry} {e : Entry}
    {f : Failure} (h : Offence headerRow es row e f)
    (total : ∃ e' ∈ es ++ [e], e'.kind = .grandTotal) : ¬ f.IsMisplaced := by
  obtain ⟨e', he, hkind⟩ := total
  rw [List.mem_append, List.mem_singleton] at he
  cases h with
  | poolBeforeTotal ahead | accountBeforeTotal ahead =>
    rcases he with he | rfl
    · exact absurd hkind (ahead e' he)
    · contradiction
  | totalIncomplete | totalUnequal | outsidePool | totalExceeded | poolUnbalanced => exact id

/-! ## Steps and runs -/

namespace Builder

variable {b : Builder} {row : Int} {r : Record} {es : List Entry} {f : Failure}

/-- A step that fails does so with an offence, or because its report cannot be written. -/
theorem Follows.cases_of_error (h : b.Follows es) (hf : (b.feed row r).1 = .error f) :
    (∃ g, Offence b.headerRow es row (r.entryAt row b.headerRow) g ∧ f = g.raised) ∨
      f = .longNumeral none := by
  by_cases hg : ∃ g, Offence b.headerRow es row (r.entryAt row b.headerRow) g
  · obtain ⟨g, offence⟩ := hg
    exact .inl ⟨g, offence, Except.error.inj (hf.symm.trans (h.feed_of_offence offence))⟩
  · rcases h.feed_of_sound (not_exists.1 hg) with ⟨-, ns, -, hfeed⟩ | ⟨-, hfeed⟩
    · exact .inr (Numeral.spell_eq_error_iff.1 (hfeed.symm.trans hf)).2
    · exact absurd (hfeed.symm.trans hf) (by simp)

end Builder

/-- The rows come one after the other from that of the grand total on, and no row fails in itself
    for one that is misplaced. -/
structure InOrder (headerRow : Int) (rows : List (Int × Except Failure Record)) : Prop where
  first : ∀ row ∈ rows.head?, row.1 = headerRow
  increasing : (rows.map Prod.fst).Pairwise (· < ·)
  unread : ∀ row ∈ rows, ∀ f, row.2 = .error f → ¬ f.IsMisplaced

section

variable {headerRow : Int} {checkFinalPool : Bool} {f : Failure}

/-- Ahead of a row in order, the builder has gone through the rows. -/
theorem InOrder.follows {before : List (Int × Record)}
    {after : List (Int × Except Failure Record)} {m : Builder}
    (h : InOrder headerRow (Builder.asRead before ++ after))
    (hrun : Builder.feedAll { headerRow, checkFinalPool } (Builder.asRead before) = .ok m) :
    m.Follows (ofRows headerRow before) := by
  have increasing := h.increasing
  have names : (Builder.asRead before).map Prod.fst = before.map Prod.fst := by
    rw [Builder.asRead, List.map_map]
    rfl
  rw [List.map_append, names] at increasing
  exact .run (countP_le_one_of_increasing headerRow (List.pairwise_append.1 increasing).1) hrun

/-- The first row is the grand total. -/
theorem InOrder.exists_total {records : List (Int × Record)}
    {after : List (Int × Except Failure Record)}
    (h : InOrder headerRow (Builder.asRead records ++ after)) (hne : records ≠ []) :
    ∃ e ∈ ofRows headerRow records, e.kind = .grandTotal := by
  obtain ⟨first, rest, rfl⟩ := List.exists_cons_of_ne_nil hne
  exact ⟨_, List.mem_cons_self,
    first.2.kind_entryAt_eq_grandTotal_iff.2 (h.first _ (by rfl))⟩

/-- No run through rows in order fails for a row that is misplaced. -/
theorem InOrder.not_isMisplaced_of_feedAll {rows : List (Int × Except Failure Record)}
    (h : InOrder headerRow rows)
    (hrun : Builder.feedAll { headerRow, checkFinalPool } rows = .error f) : ¬ f.IsMisplaced := by
  obtain ⟨before, row, x, after, m, rfl, hbefore, hx⟩ := Builder.exists_of_feedAll_eq_error hrun
  rcases hx with rfl | ⟨r, rfl, hfeed⟩
  · exact h.unread _ (List.mem_append_right _ List.mem_cons_self) f rfl
  · have hhead : m.headerRow = headerRow := (Builder.feedAll_frame hbefore).1
    have follows := h.follows hbefore
    rw [← hhead] at follows
    rcases follows.cases_of_error hfeed with ⟨g, offence, rfl⟩ | rfl
    · refine fun misplaced => offence.not_isMisplaced ?_ (Failure.isMisplaced_of_raised misplaced)
      rw [hhead]
      -- The grand total is the first row: this one, or one ahead of it.
      by_cases hne : before = []
      · subst hne
        have hrow : row = headerRow := h.first _ rfl
        exact ⟨_, List.mem_concat_self, r.kind_entryAt_eq_grandTotal_iff.2 hrow⟩
      · obtain ⟨e, he, hkind⟩ := h.exists_total hne
        exact ⟨e, List.mem_append_left _ he, hkind⟩
    · exact id

/-- Behind the grand total, the end fails only for the last pool or a number that is too long. -/
theorem Builder.Assembled.not_isMisplaced_of_finish {b : Builder} {t : Nat} {es : List Entry}
    (h : b.Assembled t es) (hf : b.finish = .error f) : ¬ f.IsMisplaced := by
  rw [Builder.finish_of_some h.lawful.holds.schedule] at hf
  rcases cases_of_bind_eq_error hf with hc | ⟨-, -, hs⟩
  · split at hc
    · obtain ⟨p, -, -, hf⟩ := h.lawful.holds.checkPool_eq_error_iff.1 hc
      rw [hf]
      refine mt Failure.isMisplaced_of_raised ?_
      exact id
    · contradiction
  · cases hspell : Numeral.spell [(t : Int)] with
    | ok => rw [hspell] at hs; cases hs
    | error g =>
      rw [hspell] at hs
      rw [← Except.error.inj hs, (Numeral.spell_eq_error_iff.1 hspell).2]
      exact id

/-- Where the rows are in order, a build fails for one that is misplaced only if there is none. -/
theorem InOrder.eq_nil_of_isMisplaced {rows : List (Int × Except Failure Record)}
    (h : InOrder headerRow rows) (hf : buildSchedule headerRow checkFinalPool rows = .error f)
    (misplaced : f.IsMisplaced) : rows = [] := by
  rcases cases_of_bind_eq_error hf with hrun | ⟨m, hrun, hfinish⟩
  · exact absurd misplaced (h.not_isMisplaced_of_feedAll hrun)
  · obtain ⟨records, rfl⟩ := Builder.exists_asRead_of_feedAll hrun
    by_contra hne
    rw [← List.append_nil (Builder.asRead records)] at h
    have total := h.exists_total fun hnil => hne (by rw [hnil]; rfl)
    obtain ⟨t, -, assembled⟩ := (h.follows hrun).exists_assembled total
    exact assembled.not_isMisplaced_of_finish hfinish misplaced

/-! ## The laws of the table -/

theorem Entry.Offence.category {row : Int} {es : List Entry} {e : Entry}
    (h : Offence headerRow es row e f) : f.category = .structural ∨ f.category = .invariant := by
  cases h with
  | totalIncomplete | poolBeforeTotal | accountBeforeTotal | outsidePool => exact .inl rfl
  | totalUnequal | totalExceeded | poolUnbalanced => exact .inr rfl

/-- The first offence is one against the laws of the table, where the numbers of the rows can be
    written. -/
theorem FirstOffence.category {rows : List (Int × Record)}
    (h : FirstOffence headerRow checkFinalPool rows f)
    (hrows : ∀ row ∈ rows, Numeral.Fits row.1) :
    f.category = .structural ∨ f.category = .invariant := by
  cases h with
  | @atRow before after row r _ split sound offends =>
    rcases offends with offence | ⟨-, long, -⟩
    · exact offence.category
    · exact absurd (hrows (row, r) (by simp [split])) long
  | atEnd sound offence =>
    cases offence with
    | totalMissing => exact .inl rfl
    | poolUnbalanced => exact .inr rfl

/-- A build fails for the laws of the table alone, where all numbers can be written. -/
theorem IsTame.category_of_error {rows : List (Int × Record)} (tame : IsTame headerRow rows)
    (hhead : Numeral.Fits headerRow) (hrows : ∀ row ∈ rows, Numeral.Fits row.1)
    (hlast : ∀ row ∈ rows.getLast?, Numeral.Fits (row.1 + 1))
    (hf : buildSchedule headerRow checkFinalPool (Builder.asRead rows) = .error f) :
    f.category = .structural ∨ f.category = .invariant := by
  obtain ⟨g, first, rfl⟩ := tame.error_iff.1 hf
  rw [Failure.raised_of_fits (first.fits hhead hrows hlast tame.small)]
  exact first.category hrows

end

end VestingTable
