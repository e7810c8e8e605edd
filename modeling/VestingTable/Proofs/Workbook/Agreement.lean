import VestingTable.Proofs.Table.Agreement
import VestingTable.Proofs.Workbook.Stored

/-!
# Workbooks of both kinds

A sheet that is kept in a legacy workbook and in a modern one is read as the
same table (`SameReading`), save for a truth value in a column of the layout: a
legacy workbook delivers it as a number, so that it passes for an amount, and a
modern one as what it is, which is refused in a column of numbers and is another
text in a column of texts.

* `Cell.read_boolean_error`, `Cell.read_boolean_text`: what a truth value of a modern workbook says;
* `Row.StoredAlike.record_error`, `Row.StoredAlike.not_alike`: rows with a truth value
  in the layout agree only if they cannot be read at all;
* `sameReading_workbooks_iff`: two workbooks are read alike exactly if no truth
  value stands in the layout ahead of the first row that cannot be read.
-/

namespace VestingTable

/-- Two tables say the same: row by row they have the same numbers, and records that are alike, up
    to a row that cannot be read in either, or to the end, where blank rows do not count. -/
inductive SameReading :
    List (Int × Except Failure Record) → List (Int × Except Failure Record) → Prop
  | done {xs ys : List (Int × Except Failure Record)}
    (hx : ∀ x ∈ xs, ∃ r, x.2 = .ok r ∧ r.isBlank) (hy : ∀ y ∈ ys, ∃ r, y.2 = .ok r ∧ r.isBlank) :
    SameReading xs ys
  | failed {row : Int} {f g : Failure} {xs ys : List (Int × Except Failure Record)} :
    SameReading ((row, .error f) :: xs) ((row, .error g) :: ys)
  | next {row : Int} {r s : Record} {xs ys : List (Int × Except Failure Record)}
    (h : r.Alike s) (rest : SameReading xs ys) :
    SameReading ((row, .ok r) :: xs) ((row, .ok s) :: ys)

/-! ## Truth values -/

namespace Cell

/-- A truth value is no number. -/
theorem read_boolean_error {kind : FieldKind} (h : kind ≠ .text) (row : Option Int) (field : Field)
    (t : Bool) : ∃ f, Cell.read row field kind (.boolean t) = .error f := by
  cases kind with
  | text => exact absurd rfl h
  | amount | time | percent => exact ⟨_, rfl⟩

/-- In a column of texts a truth value is its name. -/
theorem read_boolean_text (row : Option Int) (field : Field) (t : Bool) :
    Cell.read row field .text (.boolean t) = .ok (some (truthText t)) := by
  have strip : Text.strip (truthText t) = truthText t := by cases t <;> decide
  show Except.ok (some (Text.strip (truthText t))) = _
  rw [strip]

theorem StoredAlike.eq_of_boolean {a : Cell} {t : Bool} (h : a.StoredAlike (.boolean t)) :
    a = .integer (if t then 1 else 0) := by
  cases h with
  | boolean => rfl
  | agrees h =>
    cases h with
    | void _ hb => exact hb.elim
    | whole _ _ hb => cases hb

/-- A truth value of a legacy workbook is a whole number. -/
theorem writes_truth (t : Bool) :
    Writes (if t then 1 else 0) (.integer (if t then 1 else 0)) ∧
      (if t then 1 else 0) ≤ maxExact := by
  cases t with
  | true => exact ⟨.integer, by decide⟩
  | false => exact ⟨.integer, by decide⟩

/-- A cell with a whole number says something in every column. -/
theorem Writes.exists_read {n : Nat} {c : Cell} (h : Writes n c) (hle : n ≤ maxExact)
    (row : Option Int) (field : Field) (kind : FieldKind) :
    ∃ v, Cell.read row field kind c = .ok (some v) := by
  cases kind with
  | percent =>
    obtain ⟨d, hd, -⟩ := h.readPercent hle row
    exact ⟨_, hd⟩
  | text => exact ⟨_, h.readText hle⟩
  | amount | time => exact ⟨_, h.readInteger hle row field⟩

theorem ofNat_ne_truthText (t : Bool) : Numeral.ofNat (if t then 1 else 0) ≠ truthText t := by
  cases t <;> decide

end Cell

/-- A field that a row says something in has a value. -/
theorem Record.has_of_valid {d : Draft} {r : Record} {f : Field} {v : f.kind.Raw}
    (hv : d f = some v) (h : d.field f = .valid (r f)) : r.has f := by
  rw [Draft.field, hv] at h
  rcases FieldKind.check_valid_or_fail v with ⟨a, ha⟩ | ⟨p, hp⟩
  · simp only [ha] at h
    rw [Record.has, ← Validated.valid.inj h]
    rfl
  · simp only [hp] at h
    contradiction

namespace Row

/-- A truth value stands under a column of the layout. -/
def HasTruth (layout : Layout) (cells : List Cell) : Prop :=
  ∃ (i : Nat) (f : Field) (t : Bool), layout[i]? = some (some f) ∧ cells.getD i .empty = .boolean t

/-- The cells of a row, as they are read back from a legacy workbook and from a modern one. -/
def StoredAlike (a b : List Cell) : Prop :=
  ∀ i : Nat, (a.getD i .empty).StoredAlike (b.getD i .empty)

variable {layout : Layout} {row : Option Int} {a b : List Cell}

/-- A row without a truth value in the layout is read alike from both. -/
theorem StoredAlike.agreement (once : (layout.filterMap id).Nodup) (alike : StoredAlike a b)
    (h : ¬ HasTruth layout b) : Agreement (fun _ _ => True) Record.Alike
      (Record.ofCells layout row a) (Record.ofCells layout row b) := by
  refine Record.ofCells_agree (fun _ => trivial) once fun i f hi => ?_
  have cells := alike i
  generalize a.getD i .empty = c at cells ⊢
  generalize hb : b.getD i .empty = d at cells ⊢
  cases cells with
  | agrees cells => exact cells.read (fun _ => trivial) (fun _ => rfl) row f f.kind
  | boolean t => exact absurd ⟨i, f, t, hi, hb⟩ h

/-- A row that cannot be read from the legacy workbook cannot be read from the modern one. -/
theorem StoredAlike.record_error (once : (layout.filterMap id).Nodup) (alike : StoredAlike a b)
    {f : Failure} (h : Record.ofCells layout row a = .error f) :
    ∃ g, Record.ofCells layout row b = .error g := by
  cases hb : Record.ofCells layout row b with
  | error g => exact ⟨g, rfl⟩
  | ok s =>
    -- All truth values are in columns of texts, where both are read.
    obtain ⟨e, he, -⟩ := Record.ofCells_eq_ok hb
    have agree : Agreement (fun _ _ => True) (Record.AlikeUpTo fun _ _ => True)
        (Record.ofCells layout row a) (Record.ofCells layout row b) := by
      refine Record.ofCells_agree (fun _ => trivial) once fun i g hi => ?_
      have cells := alike i
      have hread := Draft.ofCells_eq_ok once he i hi
      generalize a.getD i .empty = c at cells ⊢
      generalize b.getD i .empty = d at cells hread ⊢
      cases cells with
      | agrees cells => exact cells.read (fun _ => trivial) (fun _ => trivial) row g g.kind
      | boolean t =>
        obtain ⟨hc, hle⟩ := Cell.writes_truth t
        by_cases hk : g.kind = .text
        · rw [hk, Cell.read_boolean_text, Cell.read, hc.readText hle]
          exact .read (.some trivial)
        · obtain ⟨f, hf⟩ := Cell.read_boolean_error hk row g t
          rw [hf] at hread
          contradiction
    rw [h, hb] at agree
    cases agree

theorem StoredAlike.eq_of_truth (alike : StoredAlike a b) {i : Nat} {t : Bool}
    (hb : b.getD i .empty = .boolean t) : a.getD i .empty = .integer (if t then 1 else 0) := by
  have cells := alike i
  rw [hb] at cells
  exact cells.eq_of_boolean

/-- What the legacy workbook says for a truth value is there. -/
theorem StoredAlike.has (once : (layout.filterMap id).Nodup) (alike : StoredAlike a b)
    {r : Record} (h : Record.ofCells layout row a = .ok r) {i : Nat} {f : Field} {t : Bool}
    (hi : layout[i]? = some (some f)) (hb : b.getD i .empty = .boolean t) : r.has f := by
  obtain ⟨d, hd, hvalid⟩ := Record.ofCells_eq_ok h
  have hread := Draft.ofCells_eq_ok once hd i hi
  obtain ⟨hc, hle⟩ := Cell.writes_truth t
  obtain ⟨v, hv⟩ := hc.exists_read hle row f f.kind
  rw [alike.eq_of_truth hb, hv] at hread
  exact Record.has_of_valid (Except.ok.inj hread).symm (hvalid f)

/-- A row with a truth value in the layout has no records that are alike. -/
theorem StoredAlike.not_alike (once : (layout.filterMap id).Nodup) (alike : StoredAlike a b)
    (truth : HasTruth layout b) {r s : Record} (hr : Record.ofCells layout row a = .ok r)
    (hs : Record.ofCells layout row b = .ok s) : ¬ r.Alike s := by
  obtain ⟨i, f, t, hi, hb⟩ := truth
  obtain ⟨d, hd, hvalid⟩ := Record.ofCells_eq_ok hr
  obtain ⟨e, he, hvalid'⟩ := Record.ofCells_eq_ok hs
  have hread := Draft.ofCells_eq_ok once hd i hi
  have hread' := Draft.ofCells_eq_ok once he i hi
  rw [alike.eq_of_truth hb] at hread
  rw [hb] at hread'
  obtain ⟨hc, hle⟩ := Cell.writes_truth t
  by_cases hk : f.kind = .text
  · -- One says the numeral, and the other the name.
    have hf := hvalid f
    have hf' := hvalid' f
    intro halike
    have same := halike f
    cases f <;> first | exact absurd hk (by decide) | skip
    all_goals
      rw [Cell.read, hc.readText hle] at hread
      rw [Cell.read_boolean_text] at hread'
      rw [Draft.field, ← Except.ok.inj hread] at hf
      rw [Draft.field, ← Except.ok.inj hread'] at hf'
      rw [← Validated.valid.inj hf, ← Validated.valid.inj hf'] at same
      cases same with
      | some h => exact Cell.ofNat_ne_truthText t h
  · obtain ⟨g, hg⟩ := Cell.read_boolean_error hk row f t
    rw [hg] at hread'
    contradiction

end Row

/-! ## Tables -/

section Tables

variable {layout : Layout}

theorem Table.records_numbered_cons (first : Int) (cells : List Cell) (rows : List (List Cell)) :
    Table.records layout (Row.numbered first (cells :: rows)) =
      (first, Record.ofCells layout (some first) cells) ::
        Table.records layout (Row.numbered (first + 1) rows) := by
  rw [Row.numbered_cons]
  rfl

/-- The record of a row of blank cells is blank. -/
theorem Record.ofCells_of_isVoid (once : (layout.filterMap id).Nodup) {row : Option Int}
    {cells : List Cell} (h : ∀ i : Nat, (cells.getD i .empty).IsVoid) :
    ∃ r, Record.ofCells layout row cells = .ok r ∧ r.isBlank := by
  have none : Record.ofCells layout row [] = .ok Record.empty := by
    rw [Record.ofCells, Draft.ofCells, List.zip_nil_right]
    rfl
  have agree : Agreement (fun _ _ => True) Record.Alike (Record.ofCells layout row cells)
      (Record.ofCells layout row []) := by
    refine Record.ofCells_agree (fun _ => trivial) once fun i f _ => ?_
    rw [(h i).read, List.getD_nil, Draft.read_empty]
    exact .read .none
  rw [none] at agree
  cases hr : Record.ofCells layout row cells with
  | error f =>
    rw [hr] at agree
    cases agree
  | ok r =>
    rw [hr] at agree
    cases agree with
    | read alike => exact ⟨r, rfl, alike.isBlank_eq⟩

/-- Rows of blank cells have blank records. -/
theorem Table.records_of_isVoid (once : (layout.filterMap id).Nodup) {rows : List (List Cell)}
    (h : ∀ i j : Nat, ((rows.getD i []).getD j .empty).IsVoid) (first : Int) :
    ∀ x ∈ Table.records layout (Row.numbered first rows), ∃ r, x.2 = .ok r ∧ r.isBlank := by
  induction rows generalizing first with
  | nil => exact fun _ hx => absurd hx List.not_mem_nil
  | cons cells rows ih =>
    rw [Table.records_numbered_cons]
    intro x hx
    rcases List.mem_cons.1 hx with rfl | hx
    · exact Record.ofCells_of_isVoid once (h 0)
    · exact ih (fun i => h (i + 1)) (first + 1) x hx

theorem SameReading.tail {row row' : Int} {x y : Except Failure Record}
    {xs ys : List (Int × Except Failure Record)}
    (h : SameReading ((row, x) :: xs) ((row', y) :: ys)) {r : Record} (hr : x = .ok r) :
    SameReading xs ys := by
  cases h with
  | done hx hy =>
    exact .done (fun z hz => hx z (List.mem_cons_of_mem _ hz))
      fun z hz => hy z (List.mem_cons_of_mem _ hz)
  | failed => cases hr
  | next _ rest => exact rest

/-- If its first row is read from the legacy workbook and has a truth value in the layout, a table
    is not read alike. -/
theorem Row.StoredAlike.not_sameReading (once : (layout.filterMap id).Nodup) {a b : List Cell}
    (alike : Row.StoredAlike a b) (truth : Row.HasTruth layout b) {row : Option Int} {number : Int}
    {r : Record} (hr : Record.ofCells layout row a = .ok r)
    {xs ys : List (Int × Except Failure Record)} :
    ¬ SameReading ((number, .ok r) :: xs) ((number, Record.ofCells layout row b) :: ys) := by
  intro same
  generalize hb : Record.ofCells layout row b = y at same
  cases same with
  | done hx _ =>
    obtain ⟨i, f, t, hi, ht⟩ := truth
    obtain ⟨r', heq, hblank⟩ := hx _ List.mem_cons_self
    obtain rfl := Except.ok.inj heq
    have present : Field.all.any r.has = true :=
      List.any_eq_true.2 ⟨f, Field.mem_all f, alike.has once hr hi ht⟩
    rw [Record.isBlank, present] at hblank
    contradiction
  | next h _ => exact alike.not_alike once truth hr hb h

/-- The rows of two workbooks are read alike exactly if no truth value stands in the layout ahead of
    the first row that cannot be read. -/
theorem sameReading_numbered_iff (once : (layout.filterMap id).Nodup) {old new : List (List Cell)}
    (alike : ∀ i : Nat, Row.StoredAlike (old.getD i []) (new.getD i [])) (first : Int) :
    SameReading (Table.records layout (Row.numbered first old))
        (Table.records layout (Row.numbered first new)) ↔
      ∀ k : Nat,
        (∀ x ∈ (Table.records layout (Row.numbered first old)).take (k + 1), ∃ r, x.2 = .ok r) →
          ¬ Row.HasTruth layout (new.getD k []) := by
  induction old generalizing new first with
  | nil =>
    -- There are only blank cells in the rows that only the modern workbook has.
    have void (i j : Nat) : ((new.getD i []).getD j .empty).IsVoid :=
      (alike i j).isVoid_iff.1 trivial
    refine iff_of_true (.done (fun _ hx => absurd hx List.not_mem_nil)
      (Table.records_of_isVoid once void first)) ?_
    rintro k - ⟨i, f, t, -, hi⟩
    have := void k i
    rw [hi] at this
    exact this
  | cons a old ih =>
    cases new with
    | nil =>
      have void (i j : Nat) : (((a :: old).getD i []).getD j .empty).IsVoid :=
        (alike i j).isVoid_iff.2 trivial
      refine iff_of_true (.done (Table.records_of_isVoid once void first)
        (fun _ hx => absurd hx List.not_mem_nil)) ?_
      rintro k - ⟨i, f, t, -, hi⟩
      cases hi
    | cons b new =>
      have head : Row.StoredAlike a b := alike 0
      have ih := @ih new (fun i => alike (i + 1)) (first + 1)
      simp only [Table.records_numbered_cons]
      cases ha : Record.ofCells layout (some first) a with
      | error f =>
        obtain ⟨g, hg⟩ := head.record_error once ha
        rw [hg]
        refine iff_of_true .failed fun k hk => ?_
        obtain ⟨r, hr⟩ := hk _ List.mem_cons_self
        cases hr
      | ok r =>
        have firstRead : ∃ r', (Except.ok r : Except Failure Record) = .ok r' := ⟨r, rfl⟩
        by_cases truth : Row.HasTruth layout b
        · refine iff_of_false (head.not_sameReading once truth ha) fun h => h 0 ?_ truth
          intro x hx
          obtain rfl := List.mem_singleton.1 hx
          exact firstRead
        · have agree : Agreement (fun _ _ => True) Record.Alike
              (Record.ofCells layout (some first) a) (Record.ofCells layout (some first) b) :=
            head.agreement once truth
          rw [ha] at agree
          cases hb : Record.ofCells layout (some first) b with
          | error g =>
            rw [hb] at agree
            cases agree
          | ok s =>
            rw [hb] at agree
            cases agree with
            | read hrs =>
              have step : SameReading
                  ((first, .ok r) :: Table.records layout (Row.numbered (first + 1) old))
                  ((first, .ok s) :: Table.records layout (Row.numbered (first + 1) new)) ↔
                    SameReading (Table.records layout (Row.numbered (first + 1) old))
                      (Table.records layout (Row.numbered (first + 1) new)) :=
                ⟨fun same => same.tail rfl, .next hrs⟩
              rw [step, ih]
              constructor
              · intro h k hk
                cases k with
                | zero => exact truth
                | succ k => exact h k fun x hx => hk x (List.mem_cons_of_mem _ hx)
              · intro h k hk
                refine h (k + 1) fun x hx => ?_
                rcases List.mem_cons.1 hx with rfl | hx
                · exact firstRead
                · exact hk x hx

end Tables

/-! ## Workbooks -/

theorem Sheet.find?_map {α β : Type} (f : Sheet α → Sheet β) (h : ∀ s, (f s).title = s.title)
    (sheets : List (Sheet α)) (title : Option String) :
    Sheet.find? (sheets.map f) title = (Sheet.find? sheets title).map f := by
  unfold Sheet.find?
  split
  · exact List.head?_map
  · exact List.head?_map
  · rw [List.find?_map]
    congr 2
    funext s
    exact congrArg (fun name => decide (name = _)) (h s)

theorem Cell.IsPlain.read_write_eq_boolean_iff {c : Cell} (h : c.IsPlain) {t : Bool} :
    (Modern.write c).read = .boolean t ↔ c = .boolean t := by
  have number {d : Cell} {n : Int} (hd : (Modern.write d).read = .integer n)
      (hne : d ≠ .boolean t) : (Modern.write d).read = .boolean t ↔ d = .boolean t := by
    rw [hd]
    exact iff_of_false Cell.noConfusion hne
  cases h with
  | boolean b => exact Iff.rfl
  | empty => exact iff_of_false Cell.noConfusion Cell.noConfusion
  | text short noFormula =>
    rw [Modern.write, Modern.writeText_of_plain short noFormula]
    split <;> exact iff_of_false Cell.noConfusion Cell.noConfusion
  | integer hle =>
    exact number (Modern.read_writeAs_number (Binary64.toInt?_ofInt hle) hle) Cell.noConfusion
  | float h hle => exact number (Modern.read_writeAs_number h hle) Cell.noConfusion

/-- The same sheet, read from a legacy workbook and from a modern one by a layout, gives the same
    table exactly if no truth value stands in the layout ahead of the first row that cannot be read
    from the legacy workbook. -/
theorem sameReading_workbooks_iff {sheets : List (Sheet Cell)} {title : Option String}
    {s : Sheet Cell} (found : Sheet.find? sheets title = some s)
    (plain : ∀ row ∈ s.rows, ∀ c ∈ row, c.IsPlain) (from1904 : Bool) {header : Nat}
    (positive : 1 ≤ header) {layout : Layout} (once : (layout.filterMap id).Nodup) :
    ∃ old new, Legacy.read? ⟨sheets.map Sheet.toLegacy, from1904⟩ title header = some old ∧
      Modern.read? (sheets.map Sheet.toModern) title header = some new ∧
        (SameReading (Table.records layout old) (Table.records layout new) ↔
          ∀ k : Nat, (∀ x ∈ (Table.records layout old).take (k + 1), ∃ r, x.2 = .ok r) →
            ¬ Row.HasTruth layout (s.rows.getD (header - 1 + k) [])) := by
  refine ⟨Row.numbered header (Legacy.readRows s header),
    Row.numbered header (Modern.readRows s.toModern header), ?_, ?_, ?_⟩
  · rw [Legacy.read?, Sheet.find?_map Sheet.toLegacy (fun _ => rfl), found]
    exact Legacy.readSheet?_toLegacy from1904 s positive
  · rw [Modern.read?, Sheet.find?_map Sheet.toModern (fun _ => rfl), found]
    exact Modern.readSheet?_of_pos s.toModern positive
  · rw [sameReading_numbered_iff once fun i j => Sheet.cellAt_storedAlike plain header i j]
    -- A cell comes back as a truth value exactly if it is one.
    have truth (k : Nat) : Row.HasTruth layout ((Modern.readRows s.toModern header).getD k []) ↔
        Row.HasTruth layout (s.rows.getD (header - 1 + k) []) := by
      have cell (i : Nat) (t : Bool) :
          ((Modern.readRows s.toModern header).getD k []).getD i .empty = .boolean t ↔
            (s.rows.getD (header - 1 + k) []).getD i .empty = .boolean t := by
        have read := Modern.cellAt_readRows_toModern s header k i
        have plain := Sheet.forall_cellAt .empty plain (header - 1 + k) i
        rw [Sheet.cellAt, Sheet.cellAt] at read
        rw [read]
        exact plain.read_write_eq_boolean_iff
      simp only [Row.HasTruth, cell]
    simp only [truth]

/-- A sheet with a truth value behind the columns of its names and amounts. -/
def checkedSheet : Sheet Cell :=
  ⟨"Team", [[.text "Ada", .integer 5], [.text "Bob", .float (.ofInt 7), .boolean true]]⟩

theorem sameReading_workbooks_checked :
    ∃ old new, Legacy.read? ⟨[checkedSheet.toLegacy], false⟩ none 1 = some old ∧
      Modern.read? [checkedSheet.toModern] none 1 = some new ∧
        SameReading (Table.records [some .name, some .amount] old)
          (Table.records [some .name, some .amount] new) := by
  have plain : ∀ row ∈ checkedSheet.rows, ∀ c ∈ row, c.IsPlain := by
    simp only [checkedSheet, List.forall_mem_cons]
    exact ⟨⟨.text_of_head (by decide) (by decide), .integer (by decide), by simp⟩,
      ⟨.text_of_head (by decide) (by decide), .float (Binary64.toInt?_ofInt (by decide)) (by decide),
        .boolean true, by simp⟩, by simp⟩
  obtain ⟨old, new, hold, hnew, same⟩ := @sameReading_workbooks_iff [checkedSheet] none checkedSheet
    rfl plain false 1 (by decide) [some .name, some .amount] (by decide)
  refine ⟨old, new, hold, hnew, same.2 ?_⟩
  rintro k - ⟨i, f, t, hi, ht⟩
  obtain _ | _ | k := k <;> obtain _ | _ | i := i <;> first | cases ht | cases hi

/-- A sheet with a truth value in place of an amount. -/
def truthSheet : Sheet Cell :=
  ⟨"Team", [[.text "Ada", .boolean true]]⟩

/-- The truth value passes for an amount of one in a legacy workbook, and is refused in a modern
    one. -/
theorem not_sameReading_truth :
    (∀ row ∈ truthSheet.rows, ∀ c ∈ row, c.IsPlain) ∧
      ∃ old new, Legacy.read? ⟨[truthSheet.toLegacy], false⟩ none 1 = some old ∧
        Modern.read? [truthSheet.toModern] none 1 = some new ∧
          (∃ r : Record, Table.records [some .name, some .amount] old = [(1, .ok r)] ∧
            r .amount = some 1) ∧
          Table.records [some .name, some .amount] new =
            [(1, .error (.cell (some 1) .amount .boolean "True"))] ∧
          ¬ SameReading (Table.records [some .name, some .amount] old)
            (Table.records [some .name, some .amount] new) := by
  have plain : ∀ row ∈ truthSheet.rows, ∀ c ∈ row, c.IsPlain := by
    simp only [truthSheet, List.forall_mem_cons]
    exact ⟨⟨.text_of_head (by decide) (by decide), .boolean true, by simp⟩, by simp⟩
  have name : Cell.read (some 1) .name .text (.text "Ada") = .ok (some "Ada") := by decide +kernel
  have amount : Cell.read (some 1) .amount .amount (.integer 1) = .ok (some 1) := by decide +kernel
  have refused : Cell.read (some 1) .amount .amount (.boolean true) =
      .error (.cell (some 1) .amount .boolean "True") := by decide +kernel
  refine ⟨plain, [⟨1, [.text "Ada", .integer 1]⟩], [⟨1, [.text "Ada", .boolean true]⟩], rfl, rfl, ?_⟩
  have old : Record.ofCells [some .name, some .amount] (some 1) [.text "Ada", .integer 1] =
      (((Draft.empty.set .name (some "Ada")).set .amount (some 1)).validate.orFail) := by
    simp only [Record.ofCells, Draft.ofCells, List.zip_cons_cons, List.zip_nil_right,
      List.foldlM_cons, List.foldlM_nil, Draft.read, name, amount]
    rfl
  have new : Record.ofCells [some .name, some .amount] (some 1) [.text "Ada", .boolean true] =
      .error (.cell (some 1) .amount .boolean "True") := by
    simp only [Record.ofCells, Draft.ofCells, List.zip_cons_cons, List.zip_nil_right,
      List.foldlM_cons, List.foldlM_nil, Draft.read, name, refused]
    rfl
  simp only [Table.records, List.map_cons, List.map_nil, old, new]
  refine ⟨⟨_, rfl, rfl⟩, trivial, fun same => ?_⟩
  cases same with
  | done _ hy =>
    obtain ⟨r, hr, -⟩ := hy _ List.mem_cons_self
    cases hr

end VestingTable
