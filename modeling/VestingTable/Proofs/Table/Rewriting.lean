import VestingTable.Proofs.Cell.Rewriting

/-!
# Rows that are written again

A record is written into a row by a layout: each column holds the value of its field, and an
ignored column may hold anything (`Record.HeldBy`). Whatever the cells that a record was read
from, it is read from such a row again (`Record.ofCells_rewritten`). A layout may have columns
of the same field: these are all written with the same value, so it does not matter which of
them counts.
-/

namespace VestingTable

namespace Record

variable {r : Record} {layout : Layout} {row : Option Int} {cells : List Cell}

/-- The record as it is read. -/
def toDraft (r : Record) : Draft :=
  fun f => (r f).map f.kind.toRaw

theorem field_toDraft (r : Record) (f : Field) : r.toDraft.field f = .valid (r f) := by
  rw [Draft.field, toDraft]
  cases r f with
  | none => rfl
  | some v =>
    simp only [Option.map_some, FieldKind.check_toRaw]
    rfl

/-- A record passes all checks. -/
theorem validate_toDraft (r : Record) : r.toDraft.validate = .valid r := by
  have silent : r.toDraft.complaints = [] :=
    List.flatMap_eq_nil_iff.2 fun f _ => by simp only [field_toDraft]
  simp only [Draft.validate, silent, field_toDraft]

/-- The cell of a column holds what the record says of its field. -/
def HeldBy (r : Record) : Option Field → Cell → Prop
  | none, _ => True
  | some f, c => c.Holds f.kind (r f)

/-- The row of a record, with its values as they are. -/
def toCells (r : Record) (layout : Layout) : List Cell :=
  layout.map fun
    | none => .empty
    | some f => (r f).elim .empty (Cell.ofValue f.kind)

theorem heldBy_toCells (r : Record) (layout : Layout) :
    List.Forall₂ r.HeldBy layout (r.toCells layout) := by
  rw [toCells, List.forall₂_map_right_iff, List.forall₂_same]
  intro column _
  cases column with
  | none => trivial
  | some f =>
    show Cell.Holds f.kind (r f) ((r f).elim .empty (Cell.ofValue f.kind))
    cases r f with
    | none => exact .empty
    | some v => exact .native v

/-- The columns of a row give each field of theirs what the record says of it, from whatever draft
    they start. -/
theorem read_columns (normal : r.IsNormal) (held : List.Forall₂ r.HeldBy layout cells)
    (row : Option Int) (start : Draft) :
    ∃ d, (layout.zip cells).foldlM (Draft.read row) start = .ok d ∧
      ∀ f, d f = if some f ∈ layout then r.toDraft f else start f := by
  induction held generalizing start with
  | nil => exact ⟨start, rfl, fun f => (if_neg List.not_mem_nil).symm⟩
  | @cons column c layout cells first rest ih =>
    cases column with
    | none =>
      obtain ⟨d, hd, hfields⟩ := ih start
      exact ⟨d, hd, fun f => by simpa using hfields f⟩
    | some g =>
      obtain ⟨d, hd, hfields⟩ := ih (start.set g (r.toDraft g))
      have read : c.read row g g.kind = .ok (r.toDraft g) := first.read fun v hv => normal g v hv
      refine ⟨d, ?_, fun f => ?_⟩
      · rw [List.zip_cons_cons, List.foldlM_cons, Draft.read, read]
        exact hd
      · -- A column behind this one may be of the same field, and has the same value.
        rw [hfields f]
        by_cases hg : g = f
        · subst hg
          simp
        · rw [Draft.set_of_ne _ _ hg]
          have hne : f ≠ g := fun h => hg h.symm
          simp [hne]

/-- A field that the layout does not have is absent. -/
theorem eq_none_of_ofCells (h : ofCells layout row cells = .ok r) {f : Field}
    (hf : some f ∉ layout) : r f = none := by
  obtain ⟨d, hd, hfield⟩ := ofCells_eq_ok h
  by_contra present
  obtain ⟨a, ha⟩ := Option.ne_none_iff_exists'.1 present
  obtain ⟨v, hv, -⟩ := Draft.exists_of_field (ha ▸ hfield f)
  rcases Draft.exists_cell hd hv with hempty | ⟨column, hmem, hcolumn, -⟩
  · contradiction
  · exact hf (hcolumn ▸ (List.of_mem_zip hmem).1)

/-- A record in normal form is read from every row that holds it. -/
theorem ofCells_of_held (normal : r.IsNormal) (absent : ∀ f, some f ∉ layout → r f = none)
    (held : List.Forall₂ r.HeldBy layout cells) : ofCells layout row cells = .ok r := by
  obtain ⟨d, hd, hfields⟩ := read_columns normal held row Draft.empty
  have same : d = r.toDraft := by
    funext f
    rw [hfields f]
    split
    · rfl
    · next hf => rw [toDraft, absent f hf]; rfl
  rw [ofCells, Draft.ofCells, hd, same]
  show r.toDraft.validate.orFail = .ok r
  rw [validate_toDraft]
  rfl

/-- A record that was read from a row, whose integers can be written, is read from its own values
    again, and from every row of which the cells hold these: as they are, or as texts with blanks
    around them and percent signs behind the percentage, and none in an empty cell or a blank text.
    The rows may have any numbers. -/
theorem ofCells_rewritten (h : ofCells layout row cells = .ok r)
    (fits : ∀ n ∈ r.integers, Numeral.Fits n) (row' : Option Int) :
    ofCells layout row' (r.toCells layout) = .ok r ∧
      ∀ cells', List.Forall₂ r.HeldBy layout cells' → ofCells layout row' cells' = .ok r := by
  have normal := isNormal_of_ofCells h fits
  have absent (f : Field) (hf : some f ∉ layout) : r f = none := eq_none_of_ofCells h hf
  exact ⟨ofCells_of_held normal absent (r.heldBy_toCells layout),
    fun cells' held => ofCells_of_held normal absent held⟩

/-! ### A total that is said twice -/

/-- A layout with an ignored column, and with two columns of totals. -/
def repeatedLayout : Layout :=
  [some .total, none, some .percentOfTotal, some .pool, some .name, some .total]

/-- A row of which the totals differ. -/
def repeatedCells : List Cell :=
  [.text "5", .boolean true, .text " 6.50e3 % ", .empty, .text "\tAda ", .integer 7]

theorem ofCells_rewritten_repeated :
    ∃ r, ofCells repeatedLayout (some 3) repeatedCells = .ok r ∧
      r.toCells repeatedLayout = [.integer 7, .empty, .decimal (.finite ⟨false, 650, 1⟩), .empty,
        .text "Ada", .integer 7] ∧
      ofCells repeatedLayout none (r.toCells repeatedLayout) = .ok r ∧
      ofCells repeatedLayout none [.text " 7", .list [], .text "6.50E+3%%\n", .text " \t",
        .text "Ada ", .text "7"] = .ok r := by
  have isRead : (ofCells repeatedLayout (some 3) repeatedCells).toOption.isSome = true := by
    decide +kernel
  obtain ⟨r, hr⟩ := exists_of_isSome isRead
  have values : ∀ r ∈ (ofCells repeatedLayout (some 3) repeatedCells).toOption,
      r .total = some 7 ∧ r .percentOfTotal = some ⟨false, 650, 1⟩ ∧ r .pool = none ∧
        r .name = some "Ada" ∧ ∀ n ∈ r.integers, Numeral.Fits n := by
    decide +kernel
  have said : r ∈ (ofCells repeatedLayout (some 3) repeatedCells).toOption := by rw [hr]; rfl
  obtain ⟨total, percent, pool, name, fits⟩ := values r said
  have blank : Text.isBlank ' ' ∧ Text.isBlank '\t' ∧ Text.isBlank '\n' := by decide
  obtain ⟨native, spelled⟩ := ofCells_rewritten hr fits none
  refine ⟨r, hr, ?_, native, spelled _ ?_⟩
  · simp only [toCells, repeatedLayout, List.map_cons, List.map_nil, total, percent, pool, name]
    rfl
  · refine .cons ?_ (.cons trivial (.cons ?_ (.cons ?_ (.cons ?_ (.cons ?_ .nil)))))
    · rw [HeldBy, total]
      exact @Cell.Holds.spelled .amount 7 " 7" [' '] [] [] (by simp [blank]) (by simp) (by simp)
        (by decide)
    · rw [HeldBy, percent]
      exact @Cell.Holds.spelled .percent ⟨false, 650, 1⟩ "6.50E+3%%\n" [] ['%', '%'] ['\n']
        (by simp) (by simp) (by simp [blank]) (by decide)
    · rw [HeldBy, pool]
      exact .blank (by simp [blank])
    · rw [HeldBy, name]
      exact @Cell.Holds.spelled .text "Ada" "Ada " [] [] [' '] (by simp) (by simp) (by simp [blank])
        (by decide)
    · rw [HeldBy, total]
      exact @Cell.Holds.spelled .amount 7 "7" [] [] [] (by simp) (by simp) (by simp) (by decide)

end Record

end VestingTable
