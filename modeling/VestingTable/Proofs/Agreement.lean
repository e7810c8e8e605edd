import Mathlib.Tactic.Common
import VestingTable.Layout
import VestingTable.Proofs.Decimal

/-!
# Rows that agree

Two rows may be read with the same outcome although their cells are not the
same: a number may be stored in several ways, and the cells at the end of a row
may be there or not. What is read from them is the same up to how a percentage
was written.

* `Agreement`: two outcomes are both failures, or both values, that are related;
* `Draft.ofCells_agree`: two rows are read alike if their cells are, where a cell
  that is not there counts as an empty one and no field occurs twice;
* `Record.ofCells_agree`: and so are their records.
-/

namespace VestingTable

/-- Two outcomes are both failures, related by `E`, or both values, related by `R`. -/
inductive Agreement {α β : Type} (E : Failure → Failure → Prop) (R : α → β → Prop) :
    Except Failure α → Except Failure β → Prop
  | failed {f g : Failure} (h : E f g) : Agreement E R (.error f) (.error g)
  | read {a : α} {b : β} (h : R a b) : Agreement E R (.ok a) (.ok b)

namespace Agreement

variable {α β γ δ : Type} {E : Failure → Failure → Prop} {R : α → β → Prop} {S : γ → δ → Prop}

theorem bind {x : Except Failure α} {y : Except Failure β} (h : Agreement E R x y)
    {f : α → Except Failure γ} {g : β → Except Failure δ}
    (hfg : ∀ a b, R a b → Agreement E S (f a) (g b)) : Agreement E S (x >>= f) (y >>= g) := by
  cases h with
  | failed h => exact .failed h
  | read h => exact hfg _ _ h

end Agreement

/-- Two steps in a row succeed if each of them does. -/
theorem exists_of_bind_eq_ok {α β : Type} {x : Except Failure α} {f : α → Except Failure β} {b : β}
    (h : x >>= f = .ok b) : ∃ a, x = .ok a ∧ f a = .ok b := by
  cases x with
  | error => contradiction
  | ok a => exact ⟨a, rfl, h⟩

/-- Two steps in a row fail with the first one that does. -/
theorem cases_of_bind_eq_error {α β : Type} {x : Except Failure α} {f : α → Except Failure β}
    {g : Failure} (h : x >>= f = .error g) : x = .error g ∨ ∃ a, x = .ok a ∧ f a = .error g := by
  cases x with
  | error e => exact .inl (congrArg Except.error (Except.error.inj h))
  | ok a => exact .inr ⟨a, rfl, h⟩

/-- Where an outcome is evaluated to one that is no failure, there is what it gives. -/
theorem exists_of_isSome {α : Type} {x : Except Failure α} (h : x.toOption.isSome = true) :
    ∃ a, x = .ok a := by
  cases x with
  | error f => contradiction
  | ok a => exact ⟨a, rfl⟩

/-! ## Values -/

/-- Two decimal cells are the same, or hold numbers of the same value. -/
def ExtendedDecimal.Alike (x y : ExtendedDecimal) : Prop :=
  x = y ∨ ∃ d e : Decimal, x = .finite d ∧ y = .finite e ∧ d.toRat = e.toRat

/-- Two values that were read are the same, but percentages may be written differently, and texts
    are related by `T`. -/
def FieldKind.RawAlike (T : String → String → Prop) :
    (kind : FieldKind) → kind.Raw → kind.Raw → Prop
  | percent => ExtendedDecimal.Alike
  | text => T
  | amount | time => Eq

/-- Two values are the same, but percentages may be written differently, and texts are related by
    `T`. -/
def FieldKind.Alike (T : String → String → Prop) :
    (kind : FieldKind) → kind.Value → kind.Value → Prop
  | percent => fun d e => d.toRat = e.toRat
  | text => T
  | amount | time => Eq

/-- Two drafts have the same values, but percentages may be written differently, and texts are
    related by `T`. -/
def Draft.AlikeUpTo (T : String → String → Prop) (d e : Draft) : Prop :=
  ∀ f : Field, Option.Rel (f.kind.RawAlike T) (d f) (e f)

/-- Two records have the same values, but percentages may be written differently, and texts are
    related by `T`. -/
def Record.AlikeUpTo (T : String → String → Prop) (r s : Record) : Prop :=
  ∀ f : Field, Option.Rel (f.kind.Alike T) (r f) (s f)

/-- Two records have the same values, but percentages may be written differently. -/
abbrev Record.Alike : Record → Record → Prop :=
  AlikeUpTo Eq

/-! ## Reading -/

namespace Draft

variable {E : Failure → Failure → Prop} {T : String → String → Prop} {d e : Draft}

theorem AlikeUpTo.set (h : d.AlikeUpTo T e) {f : Field} {v w : Option f.kind.Raw}
    (hvw : Option.Rel (f.kind.RawAlike T) v w) : (d.set f v).AlikeUpTo T (e.set f w) := by
  intro g
  by_cases hg : f = g
  · subst hg
    rw [set_self, set_self]
    exact hvw
  · rw [set_of_ne _ _ hg, set_of_ne _ _ hg]
    exact h g

theorem set_none (h : d f = none) : d.set f none = d := by
  funext g
  by_cases hg : f = g
  · subst hg
    rw [set_self, h]
  · rw [set_of_ne _ _ hg]

theorem read_empty (row : Option Int) (f : Field) :
    Cell.read row f f.kind .empty = .ok none := by
  cases f <;> rfl

/-- The columns of a layout, read from the first on. -/
def readColumns (layout : Layout) (row : Option Int) (d : Draft) (cells : List Cell) :
    Except Failure Draft :=
  (layout.zip cells).foldlM (Draft.read row) d

/-- A cell that is not there counts as an empty one. -/
theorem readColumns_cons {f : Field} (h : d f = none) (layout : Layout) (row : Option Int)
    (cells : List Cell) :
    readColumns (some f :: layout) row d cells =
      (Cell.read row f f.kind (cells.headD .empty) >>= fun v =>
        readColumns layout row (d.set f v) cells.tail) := by
  cases cells with
  | nil =>
    rw [List.headD_nil, read_empty]
    show _ = readColumns layout row (d.set f none) []
    rw [set_none h, readColumns, readColumns, List.zip_nil_right, List.zip_nil_right]
  | cons c cells =>
    show (Cell.read row f f.kind c >>= _) >>= _ = _
    rw [bind_assoc]
    rfl

theorem readColumns_ignored (layout : Layout) (row : Option Int) (cells : List Cell) :
    readColumns (none :: layout) row d cells = readColumns layout row d cells.tail := by
  cases cells with
  | nil => rw [readColumns, readColumns, List.tail_nil, List.zip_nil_right, List.zip_nil_right]
  | cons c cells => rfl

/-- Two rows are read alike if their cells are, where a cell that is not there counts as an empty
    one. A field of two columns would be an exception: an empty cell in the second one drops the
    value of the first, and a cell that is not there does not. -/
theorem readColumns_agree {layout : Layout} (once : (layout.filterMap id).Nodup)
    {row row' : Option Int} {cells cells' : List Cell} (alike : d.AlikeUpTo T e)
    (free : ∀ f, some f ∈ layout → d f = none ∧ e f = none)
    (agree : ∀ (i : Nat) (f : Field), layout[i]? = some (some f) →
      Agreement E (Option.Rel (f.kind.RawAlike T)) (Cell.read row f f.kind (cells.getD i .empty))
        (Cell.read row' f f.kind (cells'.getD i .empty))) :
    Agreement E (Draft.AlikeUpTo T) (readColumns layout row d cells)
      (readColumns layout row' e cells') := by
  induction layout generalizing d e cells cells' with
  | nil => exact .read alike
  | cons column layout ih =>
    have later (i : Nat) (f : Field) (hi : layout[i]? = some (some f)) :
        Agreement E (Option.Rel (f.kind.RawAlike T))
          (Cell.read row f f.kind (cells.tail.getD i .empty))
          (Cell.read row' f f.kind (cells'.tail.getD i .empty)) := by
      simpa [List.getD_eq_getElem?_getD] using agree (i + 1) f hi
    cases column with
    | none =>
      rw [readColumns_ignored, readColumns_ignored]
      exact ih once alike (fun f hf => free f (List.mem_cons_of_mem _ hf)) later
    | some f =>
      obtain ⟨elsewhere, once⟩ : f ∉ layout.filterMap id ∧ (layout.filterMap id).Nodup :=
        List.nodup_cons.1 once
      obtain ⟨hd, he⟩ := free f List.mem_cons_self
      rw [readColumns_cons hd, readColumns_cons he]
      have first := agree 0 f rfl
      simp only [List.getD_eq_getElem?_getD, ← List.head?_eq_getElem?, ← List.headD_eq_head?_getD]
        at first
      refine first.bind fun v w hvw => ih once (alike.set hvw) (fun g hg => ?_) later
      -- The columns behind stand for other fields.
      have hne : f ≠ g := by
        rintro rfl
        exact elsewhere (List.mem_filterMap.2 ⟨some f, hg, rfl⟩)
      rw [set_of_ne _ _ hne, set_of_ne _ _ hne]
      exact free g (List.mem_cons_of_mem _ hg)

/-- A row that can be read has in each field what its cell says. -/
theorem readColumns_eq_ok {layout : Layout} (once : (layout.filterMap id).Nodup) {row : Option Int}
    {cells : List Cell} (free : ∀ f, some f ∈ layout → d f = none)
    (h : readColumns layout row d cells = .ok e) :
    (∀ (i : Nat) (f : Field), layout[i]? = some (some f) →
      Cell.read row f f.kind (cells.getD i .empty) = .ok (e f)) ∧
        ∀ f, some f ∉ layout → e f = d f := by
  induction layout generalizing d cells with
  | nil =>
    obtain rfl := Except.ok.inj h
    exact ⟨fun i f hi => by simp at hi, fun _ _ => rfl⟩
  | cons column layout ih =>
    cases column with
    | none =>
      rw [readColumns_ignored] at h
      obtain ⟨hread, hother⟩ := ih once (fun f hf => free f (List.mem_cons_of_mem _ hf)) h
      refine ⟨fun i f hi => ?_, fun f hf => hother f fun hmem => hf (List.mem_cons_of_mem _ hmem)⟩
      cases i with
      | zero => simp at hi
      | succ i => simpa [List.getD_eq_getElem?_getD] using hread i f hi
    | some g =>
      obtain ⟨elsewhere, once⟩ : g ∉ layout.filterMap id ∧ (layout.filterMap id).Nodup :=
        List.nodup_cons.1 once
      have absent : some g ∉ layout := fun hg => elsewhere (List.mem_filterMap.2 ⟨_, hg, rfl⟩)
      rw [readColumns_cons (free g List.mem_cons_self)] at h
      cases hv : Cell.read row g g.kind (cells.headD .empty) with
      | error f =>
        rw [hv] at h
        contradiction
      | ok v =>
        rw [hv] at h
        obtain ⟨hread, hother⟩ := ih (d := d.set g v) once (fun f hf => by
          rw [set_of_ne _ _ fun hgf : g = f => absent (hgf ▸ hf)]
          exact free f (List.mem_cons_of_mem _ hf)) h
        refine ⟨fun i f hi => ?_, fun f hf => ?_⟩
        · cases i with
          | zero =>
            obtain rfl : g = f := by simpa using hi
            rw [hother g absent, set_self, ← hv]
            simp [List.getD_eq_getElem?_getD, List.headD_eq_head?_getD, List.head?_eq_getElem?]
          | succ i => simpa [List.getD_eq_getElem?_getD] using hread i f hi
        · obtain ⟨hne, hf⟩ := not_or.1 (List.mem_cons.not.1 hf)
          rw [hother f hf, set_of_ne _ _ fun hgf : g = f => hne (congrArg some hgf.symm)]

theorem ofCells_eq_ok {layout : Layout} (once : (layout.filterMap id).Nodup) {row : Option Int}
    {cells : List Cell} (h : ofCells layout row cells = .ok d) (i : Nat) {f : Field}
    (hi : layout[i]? = some (some f)) :
    Cell.read row f f.kind (cells.getD i .empty) = .ok (d f) :=
  (readColumns_eq_ok once (fun _ _ => rfl) h).1 i f hi

/-- Two rows say the same if their cells do. -/
theorem ofCells_agree {layout : Layout} (once : (layout.filterMap id).Nodup)
    {row row' : Option Int} {cells cells' : List Cell}
    (agree : ∀ (i : Nat) (f : Field), layout[i]? = some (some f) →
      Agreement E (Option.Rel (f.kind.RawAlike T)) (Cell.read row f f.kind (cells.getD i .empty))
        (Cell.read row' f f.kind (cells'.getD i .empty))) :
    Agreement E (Draft.AlikeUpTo T) (ofCells layout row cells) (ofCells layout row' cells') :=
  readColumns_agree once (fun _ => .none) (fun _ _ => ⟨rfl, rfl⟩) agree

end Draft

/-! ## Validation -/

/-- A value that does not pass its check has one problem. -/
theorem FieldKind.check_valid_or_fail {kind : FieldKind} (v : kind.Raw) :
    (∃ a, kind.check v = .valid a) ∨ ∃ p, kind.check v = .fail p := by
  cases kind with
  | amount =>
    by_cases hv : (v : Int) < 0
    · exact .inr ⟨_, if_pos hv⟩
    · exact .inl ⟨_, if_neg hv⟩
  | percent =>
    cases v with
    | finite d => exact .inl ⟨d, rfl⟩
    | infinite => exact .inr ⟨_, rfl⟩
    | nan => exact .inr ⟨_, rfl⟩
  | time | text => exact .inl ⟨v, rfl⟩

namespace Draft

/-- Two values that were read alike pass the check alike, or with the same complaint. -/
theorem check_cases {T : String → String → Prop} {kind : FieldKind} {v w : kind.Raw}
    (h : kind.RawAlike T v w) :
    (∃ a b, kind.check v = .valid a ∧ kind.check w = .valid b ∧ kind.Alike T a b) ∨
      ∃ cs, kind.check v = .invalid cs ∧ kind.check w = .invalid cs := by
  have same (v : kind.Raw) (refl : ∀ a, kind.Alike T a a) :
      (∃ a b, kind.check v = .valid a ∧ kind.check v = .valid b ∧ kind.Alike T a b) ∨
        ∃ cs, kind.check v = .invalid cs ∧ kind.check v = .invalid cs := by
    rcases kind.check_valid_or_fail v with ⟨a, ha⟩ | ⟨p, hp⟩
    · exact .inl ⟨a, a, ha, ha, refl a⟩
    · exact .inr ⟨_, hp, hp⟩
  cases kind with
  | percent =>
    rcases h with rfl | ⟨d, e, rfl, rfl, hvalue⟩
    · exact same v fun _ => rfl
    · exact .inl ⟨d, e, rfl, rfl, hvalue⟩
  | text => exact .inl ⟨v, w, rfl, rfl, h⟩
  | amount | time =>
    obtain rfl : v = w := h
    exact same v fun _ => rfl

variable {E : Failure → Failure → Prop} {T : String → String → Prop} {d e : Draft}

theorem AlikeUpTo.field_cases (h : d.AlikeUpTo T e) (f : Field) :
    (∃ v w, d.field f = .valid v ∧ e.field f = .valid w ∧ Option.Rel (f.kind.Alike T) v w) ∨
      ∃ cs, d.field f = .invalid cs ∧ e.field f = .invalid cs := by
  have hf := h f
  rw [Draft.field, Draft.field]
  cases hd : d f <;> cases he : e f <;> rw [hd, he] at hf <;> cases hf
  · exact .inl ⟨none, none, rfl, rfl, .none⟩
  · next hvw =>
    rcases check_cases hvw with ⟨a, b, ha, hb, hab⟩ | ⟨cs, hv, hw⟩
    · exact .inl ⟨some a, some b, by simp only [ha]; rfl, by simp only [hb]; rfl, .some hab⟩
    · exact .inr ⟨_, by simp only [hv]; rfl, by simp only [hw]; rfl⟩

theorem AlikeUpTo.complaints_eq (h : d.AlikeUpTo T e) : d.complaints = e.complaints := by
  refine List.flatMap_congr fun f _ => ?_
  rcases h.field_cases f with ⟨v, w, hv, hw, -⟩ | ⟨cs, hd, he⟩
  · rw [hv, hw]
  · rw [hd, he]

/-- Drafts that are alike are checked alike. -/
theorem AlikeUpTo.validate (refl : ∀ f, E f f) (h : d.AlikeUpTo T e) :
    Agreement E (Record.AlikeUpTo T) d.validate.orFail e.validate.orFail := by
  rw [Draft.validate, Draft.validate, h.complaints_eq]
  cases e.complaints with
  | nil =>
    refine .read fun f => ?_
    rcases h.field_cases f with ⟨v, w, hv, hw, hvw⟩ | ⟨cs, hd, he⟩
    · simp only [hv, hw]
      exact hvw
    · simp only [hd, he]
      exact .none
  | cons c cs => exact .failed (refl _)

end Draft

/-- A draft without complaints has a valid value in every field. -/
theorem Draft.field_eq_valid {d : Draft} {r : Record} (h : d.validate.orFail = .ok r) (f : Field) :
    d.field f = .valid (r f) := by
  rw [Draft.validate] at h
  split at h
  · next hnone =>
    obtain rfl := Except.ok.inj h
    have nothing := List.flatMap_eq_nil_iff.1 hnone f (Field.mem_all f)
    cases hf : d.field f with
    | valid v => simp only [hf]
    | invalid cs =>
      -- A value that is not valid makes a complaint.
      simp only [hf] at nothing
      subst nothing
      rw [Draft.field] at hf
      split at hf
      · contradiction
      · next v _ =>
        rcases FieldKind.check_valid_or_fail v with ⟨a, ha⟩ | ⟨p, hp⟩
        · rw [ha] at hf
          contradiction
        · rw [hp] at hf
          simp [Validated.fail, Validated.under, Validated.map] at hf
  · contradiction

/-- A valid value of a draft was there, and passed its check. -/
theorem Draft.exists_of_field {d : Draft} {f : Field} {a : f.kind.Value}
    (h : d.field f = .valid (some a)) : ∃ v, d f = some v ∧ f.kind.check v = .valid a := by
  rw [field] at h
  split at h
  · exact absurd (Validated.valid.inj h) (by simp)
  · next v hv =>
    cases hc : f.kind.check v with
    | valid b =>
      rw [hc] at h
      obtain rfl : b = a := Option.some.inj (Validated.valid.inj h)
      exact ⟨v, hv, hc⟩
    | invalid cs =>
      rw [hc] at h
      contradiction

/-- A row that has a record has a draft, of which every field is valid. -/
theorem Record.ofCells_eq_ok {layout : Layout} {row : Option Int} {cells : List Cell} {r : Record}
    (h : ofCells layout row cells = .ok r) :
    ∃ d, Draft.ofCells layout row cells = .ok d ∧ ∀ f, d.field f = .valid (r f) := by
  rw [ofCells] at h
  cases hd : Draft.ofCells layout row cells with
  | error f =>
    rw [hd] at h
    contradiction
  | ok d =>
    rw [hd] at h
    exact ⟨d, rfl, Draft.field_eq_valid h⟩

/-- The records of two rows agree if their cells do. -/
theorem Record.ofCells_agree {E : Failure → Failure → Prop} {T : String → String → Prop}
    (refl : ∀ f, E f f) {layout : Layout} (once : (layout.filterMap id).Nodup)
    {row row' : Option Int} {cells cells' : List Cell}
    (agree : ∀ (i : Nat) (f : Field), layout[i]? = some (some f) →
      Agreement E (Option.Rel (f.kind.RawAlike T)) (Cell.read row f f.kind (cells.getD i .empty))
        (Cell.read row' f f.kind (cells'.getD i .empty))) :
    Agreement E (Record.AlikeUpTo T) (ofCells layout row cells) (ofCells layout row' cells') :=
  (Draft.ofCells_agree once agree).bind fun _ _ h => h.validate refl

end VestingTable
