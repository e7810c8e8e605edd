import VestingTable.Proofs.Table.Rows
import VestingTable.Proofs.Workbook.Grid

/-!
# How the rows of a table are numbered

A table has rows from one on up to its last row (`Table.height?`): that of a workbook is
the last one in use, although rows ahead of it may be blank, and that of a text is its
last record. However a table is stored, its rows carry their own numbers, and
it makes no difference to them from which row on the table is read, so long as the
number of that row can be reported.

* `Row.Delivered.filter_eq_drop`: of rows that are delivered, those from a number on are
  the ones behind some others;
* `Table.drop_contentRows?`: a content that is read from its first row on is read from
  any row on;
* `Table.length_of_contentRows?`: the rows that are read go up to the last one;
* `Table.isNumbered`: what both say of a table in a file.
-/

namespace VestingTable

/-! ## The last row of a sheet -/

namespace Sheet

variable {α : Type} {isUsed : α → Bool}

/-- The number of the last row in use. -/
def height (isUsed : α → Bool) (s : Sheet α) : Nat :=
  (usedRows isUsed s.rows).length

/-- A place is within the height if its row is in use, or one behind it is. -/
theorem lt_height_iff {s : Sheet α} {i : Nat} :
    i < s.height isUsed ↔ ∃ j row, i ≤ j ∧ s.rows[j]? = some row ∧ row.any isUsed := by
  rw [height, usedRows_eq]
  generalize s.rows = rows
  -- The last row that is kept is in use, and none that is dropped.
  have last := List.rdropWhile_last_not (fun row : List α => !row.any isUsed) rows
  have unused (row : List α) (h : row ∈ rows.rtakeWhile fun row => !row.any isUsed) :
      row.any isUsed = false := by simpa using List.mem_rtakeWhile_imp h
  have split : rows.rdropWhile (fun row => !row.any isUsed) ++
      rows.rtakeWhile (fun row => !row.any isUsed) = rows := List.rdropWhile_append_rtakeWhile
  generalize rows.rdropWhile (fun row => !row.any isUsed) = kept at last split ⊢
  generalize rows.rtakeWhile (fun row => !row.any isUsed) = dropped at unused split
  subst split
  constructor
  · intro hi
    have hne : kept ≠ [] := List.ne_nil_of_length_pos (Nat.zero_lt_of_lt hi)
    have within : kept.length - 1 < kept.length :=
      Nat.sub_one_lt (List.length_pos_iff.2 hne).ne'
    refine ⟨kept.length - 1, kept.getLast hne, Nat.le_sub_one_of_lt hi, ?_, by simpa using last hne⟩
    rw [List.getElem?_append_left within, ← List.getLast?_eq_getElem?,
      List.getLast?_eq_some_getLast hne]
  · rintro ⟨j, row, hij, hrow, used⟩
    by_contra hi
    rw [List.getElem?_append_right (by omega)] at hrow
    rw [unused row (List.mem_of_getElem? hrow)] at used
    contradiction

theorem length_grid (filler : α) (s : Sheet α) : (s.grid isUsed filler).length = s.height isUsed :=
  List.length_map ..

end Sheet

/-! ## Rows that are delivered -/

namespace Row

variable {first : Int} {rows : List Row}

/-- Rows that are delivered are their cells with the numbers from the first one on. -/
theorem Delivered.eq_numbered (h : Delivered first rows) :
    rows = numbered first (rows.map Row.cells) := by
  refine List.ext_getElem? fun i => ?_
  rw [getElem?_numbered, List.getElem?_map]
  cases hrow : rows[i]? with
  | none => rfl
  | some row => rw [Option.map_some, Option.map_some, ← h.number i row hrow]

theorem numbered_drop (first : Int) (rows : List (List Cell)) (k : Nat) :
    numbered (first + k) (rows.drop k) = (numbered first rows).drop k := by
  refine List.ext_getElem? fun i => ?_
  rw [getElem?_numbered, List.getElem?_drop, List.getElem?_drop, getElem?_numbered]
  simp only [Int.natCast_add, Int.add_assoc]

theorem length_numbered (first : Int) (rows : List (List Cell)) :
    (numbered first rows).length = rows.length :=
  List.length_mapIdx

/-- Of rows that are delivered, those from a number on are the ones behind some others. -/
theorem Delivered.filter_eq_drop (h : Delivered first rows) (k : Nat) :
    (rows.filter fun row => first + k ≤ row.number) = rows.drop k := by
  conv_lhs => rw [h.eq_numbered]
  rw [filter_numbered, numbered_drop, ← h.eq_numbered]

/-- The numbers of rows that are delivered. -/
theorem Delivered.map_number (h : Delivered first rows) :
    rows.map Row.number = (List.range rows.length).map fun i : Nat => first + i := by
  refine List.ext_getElem? fun i => ?_
  rw [List.getElem?_map, List.getElem?_map]
  rcases Nat.lt_or_ge i rows.length with hi | hi
  · rw [List.getElem?_range hi, List.getElem?_eq_getElem hi]
    exact congrArg some (h.number i _ (List.getElem?_eq_getElem hi))
  · rw [List.getElem?_eq_none hi, List.getElem?_eq_none (by simpa using hi)]
    rfl

end Row

/-! ## Contents -/

/-- Where all items of a list are read, so are those behind some of them. -/
theorem mapM_drop {α β : Type} {f : α → Option β} {as : List α} {bs : List β}
    (h : as.mapM f = some bs) (k : Nat) : (as.drop k).mapM f = some (bs.drop k) := by
  induction k generalizing as bs with
  | zero => exact h
  | succ k ih =>
    cases as with
    | nil =>
      obtain rfl : [] = bs := Option.some.inj h
      rfl
    | cons a as =>
      simp only [List.mapM_cons, Option.bind_eq_bind, Option.bind_eq_some_iff] at h
      obtain ⟨b, -, rest, hrest, heq⟩ := h
      obtain rfl := Option.some.inj heq
      exact ih hrest

/-- The numbers from `k` on that are less than `n`. -/
theorem drop_range (n k : Nat) : (List.range n).drop k = (List.range (n - k)).map (k + ·) := by
  rw [List.range_eq_range', List.drop_range', List.range'_eq_map_range, Nat.mul_one, Nat.zero_add]

theorem Modern.length_rows (s : Sheet StoredCell) : (rows s).length = max 1 (s.height isUsed) := by
  have length := @Sheet.length_grid _ isUsed .absent s
  unfold rows
  split
  · next hnil =>
    rw [hnil] at length
    rw [← length]
    rfl
  · next hgrid =>
    have := List.length_pos_iff.2 hgrid
    rw [List.length_map, length]
    omega

namespace Legacy

variable {from1904 : Bool} {s : Sheet LegacyCell} {header : Nat} {rows : List Row}

theorem length_of_readSheet? (h : readSheet? from1904 s header = some rows) :
    rows.length = s.height isUsed + 1 - header := by
  unfold readSheet? at h
  dsimp only at h
  split at h
  · contradiction
  · rw [← (forall₂_of_mapM_eq_some h).length_eq, List.length_range, grid, Sheet.length_grid]
    omega

theorem drop_readSheet? (hpos : 1 ≤ header) (h : readSheet? from1904 s 1 = some rows) :
    readSheet? from1904 s header = some (rows.drop (header - 1)) := by
  unfold readSheet? at h ⊢
  dsimp only at h ⊢
  split at h
  · contradiction
  · -- The rows behind the ones that are left out have the places from there on.
    have behind := mapM_drop h (header - 1)
    rw [drop_range, List.mapM_map] at behind
    have first : ¬ (header : Int) - 1 < -(grid s).length := by omega
    have places : ((grid s).length - ((header : Int) - 1)).toNat =
        ((grid s).length - (1 - 1 : Int)).toNat - (header - 1) := by omega
    rw [if_neg first, places, ← behind]
    refine congrArg (fun f => List.mapM f _) (funext fun i => ?_)
    have place : (header : Int) - 1 + i = 1 - 1 + ((header - 1 + i : Nat) : Int) := by omega
    rw [place]
    rfl

end Legacy

namespace Table

variable {kind : Kind} {path : Path} {title : Option String} {header : Nat} {content : FileContent}
  {rows : List Row}

theorem textRows_eq (records : List (List String)) (hpos : 1 ≤ header) :
    textRows records header =
      (Row.numbered 1 (records.map fun fields => fields.map Cell.text)).drop (header - 1) := by
  have first : (header : Int) = 1 + ((header - 1 : Nat) : Int) := by omega
  rw [textRows, first, Row.filter_numbered, Row.numbered_drop]

/-- The number of the last row of a content. A modern sheet has a row in any case. -/
def contentHeight? (title : Option String) : FileContent → Option Nat
  | .modern sheets => (Sheet.find? sheets title).map fun s => max 1 (s.height Modern.isUsed)
  | .legacy w => (Sheet.find? w.sheets title).map fun s => s.height Legacy.isUsed
  | .bytes b => (markedText? b).bind fun text => (Csv.read? text.toList).map List.length

/-- The rows that are read from a content go up to the last one. -/
theorem length_of_contentRows? (hpos : 1 ≤ header)
    (h : contentRows? kind path title header content = some rows) :
    ∃ height, contentHeight? title content = some height ∧ rows.length = height + 1 - header := by
  unfold contentRows? at h
  split at h
  · split at h
    · obtain ⟨s, hs, h⟩ := Option.bind_eq_some_iff.1 h
      rw [Modern.readSheet?_of_pos s hpos] at h
      obtain rfl := Option.some.inj h
      refine ⟨max 1 (s.height Modern.isUsed), by rw [contentHeight?, hs]; rfl, ?_⟩
      rw [Row.length_numbered, Modern.readRows, List.length_drop, Modern.length_rows]
      omega
    · contradiction
  · split at h
    · obtain ⟨s, hs, h⟩ := Option.bind_eq_some_iff.1 h
      exact ⟨_, by rw [contentHeight?, hs]; rfl, Legacy.length_of_readSheet? h⟩
    · contradiction
  · split at h
    · obtain ⟨text, htext, h⟩ := Option.bind_eq_some_iff.1 h
      obtain ⟨records, hrecords, h⟩ := Option.bind_eq_some_iff.1 h
      obtain rfl := Option.some.inj h
      refine ⟨records.length, by rw [contentHeight?, htext, Option.bind_some, hrecords]; rfl, ?_⟩
      rw [textRows_eq records hpos, List.length_drop, Row.length_numbered, List.length_map]
      omega
    · contradiction

/-- A content that is read from its first row on is read from any row on. -/
theorem drop_contentRows? (hpos : 1 ≤ header)
    (h : contentRows? kind path title 1 content = some rows) :
    contentRows? kind path title header content = some (rows.drop (header - 1)) := by
  cases content with
  | modern sheets =>
    simp only [contentRows?] at h ⊢
    split at h
    · next hkind =>
      obtain ⟨s, hs, h⟩ := Option.bind_eq_some_iff.1 h
      obtain rfl := Option.some.inj ((Modern.readSheet?_of_pos s (Nat.le_refl 1)).symm.trans h)
      have first : (header : Int) = 1 + ((header - 1 : Nat) : Int) := by omega
      rw [if_pos hkind, Modern.read?, hs, Option.bind_some, Modern.readSheet?_of_pos s hpos,
        ← Row.numbered_drop]
      rw [first]
      rfl
    · contradiction
  | legacy w =>
    simp only [contentRows?] at h ⊢
    split at h
    · next hkind =>
      obtain ⟨s, hs, h⟩ := Option.bind_eq_some_iff.1 h
      rw [if_pos hkind, Legacy.read?, hs]
      exact Legacy.drop_readSheet? hpos h
    · contradiction
  | bytes b =>
    simp only [contentRows?] at h ⊢
    split at h
    · next hkind =>
      obtain ⟨text, htext, h⟩ := Option.bind_eq_some_iff.1 h
      obtain ⟨records, hrecords, h⟩ := Option.bind_eq_some_iff.1 h
      obtain rfl := Option.some.inj h
      have all := textRows_eq records (Nat.le_refl 1)
      rw [Nat.sub_self, List.drop_zero] at all
      rw [if_pos hkind, htext, Option.bind_eq_bind, Option.bind_some, hrecords, Option.bind_eq_bind,
        Option.bind_some, textRows_eq records hpos, ← all]
      rfl
    · contradiction

/-- What is read, by the files alone. -/
theorem outcome_read (file : String) (title : Option String) (header : Int) (files : Folder) :
    (read file title header).outcome files =
      (files.exists? (Path.ofText file)).bind fun found =>
        if found then (Numeral.spell [header]).bind fun _ =>
          match Kind.ofSuffix? (Text.lower (Path.ofText file).suffix) with
          | none => .error (.unsupportedFile (Text.lower (Path.ofText file).suffix) file)
          | some kind =>
            match (files.content? (Path.ofText file)).bind
                (contentRows? kind (Path.ofText file) title header) with
            | none => .error (.unreadableTable (Path.ofText file).name file title)
            | some rows => .ok rows
        else .error (.fileNotFound file) := by
  have gets (s : Session) : Action.files.run s = (.ok s.files, s) := rfl
  unfold read Action.outcome
  simp only [Action.run_bind, gets, Action.run_of]
  cases files.exists? (Path.ofText file) with
  | error => rfl
  | ok found =>
    cases found with
    | false => rfl
    | true =>
      simp only [Bool.not_true, Bool.false_eq_true, if_false, Action.run_bind, Action.run_of,
        Except.bind, if_true]
      cases Numeral.spell [header] with
      | error => rfl
      | ok =>
        dsimp only
        simp only [Action.run_report]
        cases Kind.ofSuffix? (Text.lower (Path.ofText file).suffix) with
        | none => rfl
        | some kind =>
          dsimp only
          simp only [Action.run_bind, gets]
          cases (files.content? (Path.ofText file)).bind
              (contentRows? kind (Path.ofText file) title header) with
          | none => rfl
          | some rows => rfl

/-- A table is read if its file is there and holds a table of the kind that its name tells. -/
theorem outcome_read_eq_ok_iff {file : String} {header : Int} {files : Folder} :
    (read file title header).outcome files = .ok rows ↔
      files.exists? (Path.ofText file) = .ok true ∧ Numeral.Fits header ∧
        ∃ kind content, Kind.ofSuffix? (Text.lower (Path.ofText file).suffix) = some kind ∧
          files.content? (Path.ofText file) = some content ∧
          contentRows? kind (Path.ofText file) title header content = some rows := by
  have spelled : Numeral.spell [header] = .ok () ↔ Numeral.Fits header := by
    rw [Numeral.spell_eq_ok_iff, List.forall_mem_singleton]
  rw [outcome_read, ← spelled]
  generalize Numeral.spell [header] = spelling
  constructor
  · intro h
    obtain ⟨found, hfound, h⟩ := exists_of_bind_eq_ok h
    cases found with
    | false => cases h
    | true =>
      obtain ⟨_, hspell, h⟩ := exists_of_bind_eq_ok h
      cases hkind : Kind.ofSuffix? (Text.lower (Path.ofText file).suffix) with
      | none => rw [hkind] at h; cases h
      | some kind =>
        rw [hkind] at h
        dsimp only at h
        cases hrows : (files.content? (Path.ofText file)).bind
            (contentRows? kind (Path.ofText file) title header) with
        | none => rw [hrows] at h; cases h
        | some found =>
          rw [hrows] at h
          obtain rfl := Except.ok.inj h
          obtain ⟨content, hcontent, hrows⟩ := Option.bind_eq_some_iff.1 hrows
          exact ⟨hfound, hspell, kind, content, rfl, hcontent, hrows⟩
  · rintro ⟨hfound, rfl, kind, content, hkind, hcontent, hrows⟩
    simp only [hfound, Except.bind, if_true, hkind, hcontent, Option.bind_some, hrows]

/-- A table is not read from a row on whose number is too long. -/
theorem outcome_read_of_long {file : String} {header : Int} {files : Folder}
    (found : files.exists? (Path.ofText file) = .ok true) (long : ¬ Numeral.Fits header) :
    (read file title header).outcome files = .error (.longNumeral none) := by
  rw [outcome_read, found, Numeral.spell_singleton, if_neg long]
  rfl

/-- The number of the last row of the table in a file. -/
def height? (file : String) (title : Option String) (files : Folder) : Option Nat :=
  (files.content? (Path.ofText file)).bind (contentHeight? title)

/-- The rows that are read of a table from a number on are numbered from there up to the last row,
    and they are those of the whole table that have such a number, unless the number cannot be
    written. -/
structure IsNumbered (file : String) (title : Option String) (files : Folder) (header : Nat) :
    Prop where
  numbers : ∀ rows, (read file title header).outcome files = .ok rows →
    ∃ height, height? file title files = some height ∧
      rows.map Row.number = (List.range (height + 1 - header)).map fun i : Nat => (header : Int) + i
  filtered : ∀ rows, (read file title 1).outcome files = .ok rows →
    (read file title header).outcome files =
      if Numeral.Fits header then .ok (rows.filter fun row => (header : Int) ≤ row.number)
      else .error (.longNumeral none)

/-- However a table is stored, it makes no difference to its rows where the reading starts. -/
theorem isNumbered (file : String) (title : Option String) (files : Folder) (hpos : 1 ≤ header) :
    IsNumbered file title files header where
  numbers rows h := by
    obtain ⟨-, -, kind, content, -, hcontent, hrows⟩ := outcome_read_eq_ok_iff.1 h
    obtain ⟨height, hheight, hlength⟩ := length_of_contentRows? hpos hrows
    refine ⟨height, by rw [height?, hcontent, Option.bind_some, hheight], ?_⟩
    rw [(delivered_of_contentRows? hpos hrows).map_number, hlength]
  filtered rows h := by
    obtain ⟨hfound, hone, kind, content, hkind, hcontent, hrows⟩ := outcome_read_eq_ok_iff.1 h
    have first : (header : Int) = ((1 : Nat) : Int) + ((header - 1 : Nat) : Int) := by omega
    have behind : (rows.filter fun row => (header : Int) ≤ row.number) = rows.drop (header - 1) := by
      rw [first]
      exact (delivered_of_contentRows? (Nat.le_refl 1) hrows).filter_eq_drop (header - 1)
    rw [behind]
    split
    · next fits =>
      exact outcome_read_eq_ok_iff.2
        ⟨hfound, fits, kind, content, hkind, hcontent, drop_contentRows? hpos hrows⟩
    · next long => exact outcome_read_of_long hfound long

end Table

end VestingTable
