import VestingTable.Proofs.Cell.Size
import VestingTable.Proofs.Session
import VestingTable.Proofs.Workbook.Stored
import VestingTable.Table

/-!
# The rows of a table

However a table is stored, its rows are delivered one after the other, numbered from
the first one asked for on, and their cells are of the kinds that files have
(`Table.delivered_of_contentRows?`).
-/

namespace VestingTable

/-! ## Rows that are numbered -/

namespace Row

theorem mem_numbered {first : Int} {rows : List (List Cell)} {row : Row}
    (h : row ∈ numbered first rows) : row.cells ∈ rows := by
  obtain ⟨i, hi, rfl⟩ := List.mem_mapIdx.1 h
  exact List.getElem_mem hi

/-- The rows from a number on are those behind the ones ahead of it. -/
theorem filter_numbered (first : Int) (rows : List (List Cell)) (k : Nat) :
    ((numbered first rows).filter fun row => first + k ≤ row.number) =
      numbered (first + k) (rows.drop k) := by
  induction k generalizing first rows with
  | zero =>
    rw [Int.natCast_zero, Int.add_zero, List.drop_zero, List.filter_eq_self]
    intro row hrow
    obtain ⟨i, -, rfl⟩ := List.mem_mapIdx.1 hrow
    simp
  | succ k ih =>
    cases rows with
    | nil => rfl
    | cons cells rows =>
      have shift : first + ((k + 1 : Nat) : Int) = first + 1 + k := by omega
      rw [numbered_cons, List.filter_cons_of_neg (by simp), List.drop_succ_cons, shift, ih]

end Row

/-! ## Cells that are delivered -/

theorem Modern.isDelivered_ofSerial (q : Rat) : (ofSerial q).IsDelivered := by
  unfold ofSerial
  dsimp only
  split
  · split <;> trivial
  · split <;> trivial

theorem Modern.isDelivered_read (c : StoredCell) : c.read.IsDelivered := by
  cases c with
  | number x => cases x <;> trivial
  | serial x => exact isDelivered_ofSerial _
  | absent | void | text | boolean => trivial

theorem Legacy.isDelivered_storedNumber (x : Binary64) : (storedNumber x).IsDelivered := by
  unfold storedNumber
  split <;> trivial

theorem Legacy.isDelivered_of_stored? {from1904 : Bool} {c : LegacyCell} {d : Cell}
    (h : stored? from1904 c = some d) : d.IsDelivered := by
  unfold stored? at h
  split at h
  · obtain rfl := Option.some.inj h
    trivial
  · obtain rfl := Option.some.inj h
    exact isDelivered_storedNumber _
  · obtain rfl := Option.some.inj h
    exact isDelivered_storedNumber _
  · obtain rfl := Option.some.inj h
    trivial
  · obtain rfl := Option.some.inj h
    trivial
  · obtain rfl := Option.some.inj h
    trivial
  · obtain ⟨m, -, rfl⟩ := Option.map_eq_some_iff.1 h
    trivial

/-! ## Tables -/

/-- Rows are numbered from a number on, and their cells are of the kinds that files have. -/
structure Row.Delivered (header : Int) (rows : List Row) : Prop where
  number : ∀ (i : Nat) (row : Row), rows[i]? = some row → row.number = header + i
  cells : ∀ row ∈ rows, ∀ c ∈ row.cells, c.IsDelivered

theorem Row.delivered_numbered {header : Int} {rows : List (List Cell)}
    (h : ∀ cells ∈ rows, ∀ c ∈ cells, c.IsDelivered) : Delivered header (numbered header rows) where
  number i row hrow := by
    rw [getElem?_numbered] at hrow
    obtain ⟨cells, -, rfl⟩ := Option.map_eq_some_iff.1 hrow
    rfl
  cells row hrow := h row.cells (mem_numbered hrow)

theorem Modern.delivered_readSheet? {s : Sheet StoredCell} {header : Nat} (hpos : 1 ≤ header)
    {rows : List Row} (h : readSheet? s header = some rows) : Row.Delivered header rows := by
  rw [readSheet?_of_pos s hpos] at h
  obtain rfl := Option.some.inj h
  refine Row.delivered_numbered fun cells hcells c hc => ?_
  replace hcells : cells ∈ Modern.rows s := List.mem_of_mem_drop hcells
  unfold Modern.rows at hcells
  split at hcells
  · rw [List.mem_singleton.1 hcells] at hc
    rw [List.mem_singleton.1 hc]
    trivial
  · obtain ⟨row, -, rfl⟩ := List.mem_map.1 hcells
    obtain ⟨c', -, rfl⟩ := List.mem_map.1 hc
    exact isDelivered_read c'

theorem Legacy.delivered_row? {from1904 : Bool} {grid : List (List LegacyCell)} {index : Int}
    {row : Row} (h : row? from1904 grid index = some row) :
    row.number = index + 1 ∧ ∀ c ∈ row.cells, c.IsDelivered := by
  unfold row? at h
  dsimp only at h
  generalize (if index < 0 then index + grid.length else index) = place at h
  split at h
  · contradiction
  · simp only [Option.pure_def, Option.bind_eq_bind,
      Option.bind_eq_some_iff, Option.some.injEq] at h
    obtain ⟨line, -, cells, hcells, rfl⟩ := h
    refine ⟨rfl, fun c hc => ?_⟩
    obtain ⟨c', hc'⟩ := exists_of_mem_mapM hcells hc
    exact isDelivered_of_stored? hc'

theorem Legacy.delivered_readSheet? {from1904 : Bool} {s : Sheet LegacyCell} {header : Int}
    {rows : List Row} (h : readSheet? from1904 s header = some rows) :
    Row.Delivered header rows := by
  unfold readSheet? at h
  dsimp only at h
  split at h
  · contradiction
  · refine ⟨fun i row hrow => ?_, fun row hrow => ?_⟩
    · obtain ⟨hlength, read⟩ := List.forall₂_iff_get.1 (forall₂_of_mapM_eq_some h)
      obtain ⟨hi, rfl⟩ := List.getElem?_eq_some_iff.1 hrow
      have number := (delivered_row? (read i (hlength ▸ hi) hi)).1
      simp only [List.get_eq_getElem, List.getElem_range] at number
      omega
    · obtain ⟨i, hi⟩ := exists_of_mem_mapM h hrow
      exact (delivered_row? hi).2

namespace Table

theorem delivered_textRows (records : List (List String)) {header : Nat} (hpos : 1 ≤ header) :
    Row.Delivered header (textRows records header) := by
  have first : (header : Int) = 1 + ((header - 1 : Nat) : Int) := by omega
  rw [textRows, first, Row.filter_numbered]
  refine Row.delivered_numbered fun cells hcells c hc => ?_
  obtain ⟨fields, -, rfl⟩ := List.mem_map.1 (List.mem_of_mem_drop hcells)
  obtain ⟨s, -, rfl⟩ := List.mem_map.1 hc
  trivial

/-- However a table is stored, its rows are delivered from the first one asked for on. -/
theorem delivered_of_contentRows? {kind : Kind} {path : Path} {title : Option String} {header : Nat}
    {content : FileContent} {rows : List Row} (hpos : 1 ≤ header)
    (h : contentRows? kind path title header content = some rows) : Row.Delivered header rows := by
  unfold contentRows? at h
  split at h
  · split at h
    · obtain ⟨s, -, hs⟩ := Option.bind_eq_some_iff.1 h
      exact Modern.delivered_readSheet? hpos hs
    · contradiction
  · split at h
    · obtain ⟨s, -, hs⟩ := Option.bind_eq_some_iff.1 h
      exact Legacy.delivered_readSheet? hs
    · contradiction
  · split at h
    · obtain ⟨text, -, h⟩ := Option.bind_eq_some_iff.1 h
      obtain ⟨records, -, h⟩ := Option.bind_eq_some_iff.1 h
      obtain rfl := Option.some.inj h
      exact delivered_textRows records hpos
    · contradiction

/-- Reading a table changes nothing but the log. -/
theorem onlyReports_read (file : String) (title : Option String) (header : Int) :
    (read file title header).OnlyReports := by
  unfold read
  refine .bind .ofFiles fun files => .bind (.of _) fun found => ?_
  dsimp only
  split
  · exact .throw_bind _ _
  · refine .bind (.of _) fun _ => .bind (.report _ _) fun _ => ?_
    split
    · exact .throw _
    · refine .bind .ofFiles fun files => ?_
      split
      · exact .throw _
      · exact .bind (.report _ _) fun _ => .pure _

/-- What is read are the rows of a content. -/
theorem gives_read (file : String) (title : Option String) (header : Int) :
    (read file title header).Gives fun rows =>
      ∃ kind content, contentRows? kind (Path.ofText file) title header content = some rows := by
  unfold read
  refine .bind fun files => .bind fun found => ?_
  dsimp only
  split
  · exact .throw_bind _ _
  · refine .bind fun _ => .bind fun _ => ?_
    split
    · exact .throw _
    · refine .bind fun files => ?_
      split
      · exact .throw _
      · next hrows =>
        obtain ⟨content, -, hcontent⟩ := Option.bind_eq_some_iff.1 hrows
        exact .bind fun _ => .pure ⟨_, content, hcontent⟩

theorem delivered_of_read {file : String} {title : Option String} {header : Nat} {files : Folder}
    {rows : List Row} (hpos : 1 ≤ header) (h : (read file title header).outcome files = .ok rows) :
    Row.Delivered header rows := by
  obtain ⟨kind, content, hrows⟩ := gives_read file title header { files } rows h
  exact delivered_of_contentRows? hpos hrows

end Table

end VestingTable
