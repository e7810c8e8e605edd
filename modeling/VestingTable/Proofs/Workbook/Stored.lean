import VestingTable.Proofs.Cell.Whole
import VestingTable.Proofs.Workbook.Grid
import VestingTable.Workbook.Legacy

/-!
# The same sheet in workbooks of both kinds

A legacy workbook keeps whole numbers as floats and has no truth values of its
own, and in a modern one no empty texts are written. What is read back from the two,
place by place, agrees (`Sheet.cellAt_storedAlike`), except that a truth value comes
from the legacy workbook as the integer one or zero (`Cell.StoredAlike`).
-/

namespace VestingTable

namespace Cell

/-- A cell of a sheet that holds nothing, a text, a whole number or a truth value. -/
inductive IsPlain : Cell → Prop
  | empty : IsPlain .empty
  /-- A text fits in a cell, and is no formula. -/
  | text {s : String} (short : s.toList.length ≤ Modern.maxTextLength)
    (noFormula : ∀ c cs, s.toList ≠ '=' :: c :: cs) : IsPlain (.text s)
  | integer {n : Nat} (hle : n ≤ maxExact) : IsPlain (.integer n)
  | float {n : Nat} {x : Binary64} (h : x.toInt? = some (n : Int)) (hle : n ≤ maxExact) :
    IsPlain (.float x)
  | boolean (b : Bool) : IsPlain (.boolean b)

/-- A text that does not start like a formula is none. -/
theorem IsPlain.text_of_head {s : String} (short : s.toList.length ≤ Modern.maxTextLength)
    (head : s.toList.head? ≠ some '=') : IsPlain (.text s) :=
  .text short fun _ _ h => head (by rw [h]; rfl)

/-- What is read back from a legacy workbook and from a modern one: cells that agree, but a truth
    value is an integer in the former. -/
inductive StoredAlike : Cell → Cell → Prop
  | agrees {a b : Cell} (h : Agrees a b) : StoredAlike a b
  | boolean (t : Bool) : StoredAlike (.integer (if t then 1 else 0)) (.boolean t)

theorem Agrees.isVoid_iff {a b : Cell} (h : a.Agrees b) : a.IsVoid ↔ b.IsVoid := by
  have whole {n : Nat} {c : Cell} (hc : Writes n c) : ¬ c.IsVoid := fun hvoid => by
    have := hc.blank
    rw [hvoid.blank] at this
    contradiction
  cases h with
  | void ha hb => exact ⟨fun _ => hb, fun _ => ha⟩
  | text s => exact Iff.rfl
  | whole _ ha hb => exact ⟨fun h => absurd h (whole ha), fun h => absurd h (whole hb)⟩

theorem StoredAlike.isVoid_iff {a b : Cell} (h : a.StoredAlike b) : a.IsVoid ↔ b.IsVoid := by
  cases h with
  | agrees h => exact h.isVoid_iff
  | boolean t => exact Iff.rfl

end Cell

/-! ## Numbers -/

/-- A whole number is written to a modern workbook without a point, and read back as an integer. -/
theorem Modern.read_writeAs_number {n : Nat} {x : Binary64} (h : x.toInt? = some (n : Int))
    (hle : n ≤ Cell.maxExact) : (writeAs .number x).read = .integer n := by
  obtain ⟨negative, m, rfl, hm, hzero⟩ := Cell.exists_magnitude h
  have read : (writeMagnitude negative m).read = .integer n := by
    rcases Nat.eq_zero_or_pos n with rfl | hn
    · rw [writeMagnitude, if_pos ((Binary64.Magnitude.mantissa_eq_zero_iff hm).2 rfl)]
      rfl
    · have hmantissa : ¬ m.mantissa = 0 := fun hm0 =>
        Nat.ne_of_gt hn ((Binary64.Magnitude.mantissa_eq_zero_iff hm).1 hm0)
      obtain rfl : negative = false := Bool.eq_false_iff.2 fun h => Nat.ne_of_gt hn (hzero h)
      have length := Cell.length_digits_le hle
      have small : Decimal.adjusted ⟨false, n * Numeral.tenTo (16 - (Numeral.digits n).length),
          -((16 - (Numeral.digits n).length : Nat) : Int)⟩ < 16 := by
        rw [Decimal.adjusted_zeros hn]
        omega
      have fits : Numeral.Fits n := Cell.fits_of_le hle
      rw [writeMagnitude, if_neg hmantissa, Binary64.Magnitude.rounded_of_toNat? hm hn hle]
      simp only [Decimal.toInt?_zeros, dif_pos (And.intro small fits)]
      rfl
  exact read

/-- A whole number is read back from a legacy workbook as a float. -/
theorem Legacy.writes_storedNumber {n : Nat} {x : Binary64} (h : x.toInt? = some (n : Int)) :
    Cell.Writes n (storedNumber x) := by
  obtain ⟨negative, m, rfl, hm, hzero⟩ := Cell.exists_magnitude h
  have unsigned : (negative && m.mantissa ≠ 0) = false := by
    cases negative with
    | false => rfl
    | true =>
      have := (Binary64.Magnitude.mantissa_eq_zero_iff hm).2 (hzero rfl)
      simp [this]
  rw [storedNumber, unsigned]
  exact .float (Option.map_eq_some_iff.2 ⟨n, hm, rfl⟩)

/-! ## Cells -/

/-- A cell without a format of its own, as it is read back from a legacy workbook. -/
def Legacy.storedPlain : Cell → Cell
  | .text s => .text s
  | .integer n => storedNumber (.ofInt n)
  | .float x => storedNumber x
  | .boolean b => .integer (if b then 1 else 0)
  | _ => .text ""

theorem Legacy.stored?_plain (from1904 : Bool) (c : Cell) :
    stored? from1904 (.plain c) = some (storedPlain c) := by
  cases c <;> rfl

theorem Modern.writeText_of_plain {s : String} (short : s.toList.length ≤ maxTextLength)
    (noFormula : ∀ c cs, s.toList ≠ '=' :: c :: cs) :
    writeText s = if s.toList = [] then .void else .text s := by
  rw [writeText, List.take_of_length_le short]
  split
  · next h => rw [if_pos h]
  · next h => exact absurd h (noFormula _ _)
  · next h _ => rw [if_neg h, String.ofList_toList]

/-- A cell is read back alike from workbooks of both kinds. -/
theorem Cell.IsPlain.storedAlike {c : Cell} (h : c.IsPlain) :
    (Legacy.storedPlain c).StoredAlike (Modern.write c).read := by
  cases h with
  | empty => exact .agrees (.void rfl trivial)
  | @text s short noFormula =>
    rw [Modern.write, Modern.writeText_of_plain short noFormula]
    split
    · next hs => exact .agrees (.void (by rw [Legacy.storedPlain, IsVoid, hs]; rfl) trivial)
    · exact .agrees (.text s)
  | integer hle =>
    have h := Binary64.toInt?_ofInt hle
    rw [Modern.write, Modern.read_writeAs_number h hle]
    exact .agrees (.whole hle (Legacy.writes_storedNumber h) .integer)
  | float h hle =>
    rw [Modern.write, Modern.read_writeAs_number h hle]
    exact .agrees (.whole hle (Legacy.writes_storedNumber h) .integer)
  | boolean b => exact .boolean b

/-! ## Rows -/

/-- The sheet of a legacy workbook with the same cells. -/
def Sheet.toLegacy (s : Sheet Cell) : Sheet Legacy.LegacyCell :=
  ⟨s.title, s.rows.map fun row => row.map .plain⟩

/-- The sheet of a modern workbook to which the same cells are written. -/
def Sheet.toModern (s : Sheet Cell) : Sheet Modern.StoredCell :=
  ⟨s.title, s.rows.map fun row => row.map Modern.write⟩

theorem mapM_eq_some_map {α β : Type} {f : α → Option β} {g : α → β} {l : List α}
    (h : ∀ x ∈ l, f x = some (g x)) : l.mapM f = some (l.map g) := by
  induction l with
  | nil => rfl
  | cons x l ih =>
    rw [List.mapM_cons, h x List.mem_cons_self, ih fun y hy => h y (List.mem_cons_of_mem _ hy)]
    rfl

theorem Row.getElem?_numbered (first : Int) (rows : List (List Cell)) (i : Nat) :
    (Row.numbered first rows)[i]? = rows[i]?.map fun cells => ⟨first + i, cells⟩ :=
  List.getElem?_mapIdx ..

theorem Row.numbered_cons (first : Int) (cells : List Cell) (rows : List (List Cell)) :
    Row.numbered first (cells :: rows) = ⟨first, cells⟩ :: Row.numbered (first + 1) rows := by
  refine List.ext_getElem? fun i => ?_
  cases i with
  | zero => simp [getElem?_numbered]
  | succ i =>
    have shift : first + ((i + 1 : Nat) : Int) = first + 1 + i := by omega
    rw [List.getElem?_cons_succ, getElem?_numbered, getElem?_numbered, List.getElem?_cons_succ,
      shift]

namespace Legacy

/-- A cell without a format of its own, as it is read back; there are no others in the sheet of a
    modern workbook. -/
def readCell : LegacyCell → Cell
  | .plain c => storedPlain c
  | _ => .empty

/-- The rows of a sheet from a row on, as they are read back. -/
def readRows (s : Sheet Cell) (header : Nat) : List (List Cell) :=
  ((grid s.toLegacy).drop (header - 1)).map fun row => row.map readCell

theorem stored?_of_mem_grid (from1904 : Bool) {s : Sheet Cell} {row : List LegacyCell}
    (hrow : row ∈ grid s.toLegacy) {c : LegacyCell} (hc : c ∈ row) :
    stored? from1904 c = some (readCell c) := by
  rcases Sheet.mem_grid hrow hc with rfl | ⟨r, hr, hcr⟩
  · rfl
  · obtain ⟨r', -, rfl⟩ := List.mem_map.1 hr
    obtain ⟨c', -, rfl⟩ := List.mem_map.1 hcr
    exact stored?_plain from1904 c'

theorem readSheet?_toLegacy (from1904 : Bool) (s : Sheet Cell) {header : Nat} (h : 1 ≤ header) :
    readSheet? from1904 s.toLegacy header = some (Row.numbered header (readRows s header)) := by
  have stored (row : List LegacyCell) (hrow : row ∈ grid s.toLegacy) :
      row.mapM (stored? from1904) = some (row.map readCell) :=
    mapM_eq_some_map fun c hc => stored?_of_mem_grid from1904 hrow hc
  rw [readSheet?, readRows]
  generalize grid s.toLegacy = cells at stored ⊢
  have notBefore : ¬ (header : Int) - 1 < -(cells.length : Int) := by omega
  have count :
      ((cells.length : Int) - ((header : Int) - 1)).toNat = cells.length - (header - 1) := by
    omega
  have rows : ∀ i ∈ List.range (cells.length - (header - 1)),
      row? from1904 cells ((header : Int) - 1 + (i : Nat)) =
        some ⟨header + (i : Nat), (cells.getD (header - 1 + i) []).map readCell⟩ := by
    intro i hi
    have hlt : header - 1 + i < cells.length := by
      have := List.mem_range.1 hi
      omega
    have place : ((header : Int) - 1 + (i : Nat)).toNat = header - 1 + i := by omega
    have number : (header : Int) - 1 + (i : Nat) + 1 = header + (i : Nat) := by omega
    have notNegative : ¬ (header : Int) - 1 + (i : Nat) < 0 := by omega
    simp only [row?, if_neg notNegative, place, List.getElem?_eq_getElem hlt, number,
      Option.bind_eq_bind, Option.bind_some, stored _ (List.getElem_mem hlt),
      List.getD_eq_getElem _ _ hlt]
    rfl
  simp only [if_neg notBefore, count]
  rw [mapM_eq_some_map rows]
  congr 1
  refine List.ext_getElem? fun i => ?_
  rw [Row.getElem?_numbered, List.getElem?_map, List.getElem?_map, List.getElem?_drop]
  rcases Nat.lt_or_ge i (cells.length - (header - 1)) with hi | hi
  · have hlt : header - 1 + i < cells.length := by omega
    rw [List.getElem?_range hi, List.getElem?_eq_getElem hlt]
    simp only [Option.map_some, List.getD_eq_getElem _ _ hlt]
  · rw [List.getElem?_eq_none (by simpa using hi), List.getElem?_eq_none (by omega)]
    rfl

theorem isVoid_of_unused {c : LegacyCell} (h : isUsed c = false) : (readCell c).IsVoid := by
  cases c with
  | plain c =>
    cases c with
    | empty => rfl
    | text s =>
      obtain rfl : s = "" := by simpa [isUsed] using h
      rfl
    | _ => contradiction
  | serial | error => contradiction

/-- At every place a legacy workbook has the cell of the sheet, or nothing where there is
    nothing. -/
theorem cellAt_readRows (s : Sheet Cell) (header i j : Nat) :
    Sheet.cellAt .empty (readRows s header) i j =
        storedPlain (Sheet.cellAt .empty s.rows (header - 1 + i) j) ∨
      (Sheet.cellAt .empty (readRows s header) i j).IsVoid ∧
        (storedPlain (Sheet.cellAt .empty s.rows (header - 1 + i) j)).IsVoid := by
  have read :=
    Sheet.cellAt_map (.plain .empty) .empty readCell ((grid s.toLegacy).drop (header - 1)) i j
  rw [Sheet.cellAt_drop] at read
  have sheet : Sheet.cellAt (.plain .empty) s.toLegacy.rows (header - 1 + i) j =
      .plain (Sheet.cellAt .empty s.rows (header - 1 + i) j) := by
    rcases Sheet.cellAt_map .empty (.plain .empty) LegacyCell.plain s.rows (header - 1 + i) j with
      h | ⟨h, hc⟩
    · exact h
    · rw [hc]
      exact h
  have held := @Sheet.cellAt_grid _ isUsed (.plain .empty) rfl s.toLegacy
    (header - 1 + i) j
  rw [sheet] at held
  rw [readRows]
  rcases held with hsame | ⟨hgrid, hunused⟩
  · rw [grid, hsame] at read
    refine read.imp_right fun ⟨hread, hempty⟩ => ?_
    rw [grid, hread]
    exact ⟨trivial, isVoid_of_unused (congrArg isUsed hempty)⟩
  · refine .inr ⟨?_, isVoid_of_unused hunused⟩
    rcases read with hread | ⟨hread, -⟩
    · rw [hread]
      exact isVoid_of_unused hgrid
    · rw [hread]
      trivial

end Legacy

namespace Modern

/-- The rows of a sheet from a row on, as they are read. -/
def readRows (s : Sheet StoredCell) (header : Nat) : List (List Cell) :=
  (rows s).drop (header - 1)

theorem readSheet?_of_pos (s : Sheet StoredCell) {header : Nat} (h : 1 ≤ header) :
    readSheet? s header = some (Row.numbered header (readRows s header)) := by
  rw [readSheet?, if_neg (by omega), if_neg (by omega), Int.toNat_natCast]
  rfl

theorem eq_absent_of_unused {c : StoredCell} (h : isUsed c = false) : c = .absent := by
  cases c with
  | absent => rfl
  | _ => contradiction

/-- At every place the cell of the sheet is read. -/
theorem cellAt_readRows (s : Sheet StoredCell) (header i j : Nat) :
    Sheet.cellAt .empty (readRows s header) i j =
      (Sheet.cellAt .absent s.rows (header - 1 + i) j).read := by
  have read : Sheet.cellAt .empty (rows s) (header - 1 + i) j =
      (Sheet.cellAt .absent (s.grid isUsed .absent) (header - 1 + i) j).read := by
    rw [rows]
    split
    · next hgrid =>
      have nothing : Sheet.cellAt .empty [[Cell.empty]] (header - 1 + i) j = .empty :=
        Sheet.forall_cellAt (P := fun c : Cell => c = .empty) rfl (by simp) _ _
      have absent : Sheet.cellAt StoredCell.absent [] (header - 1 + i) j = .absent :=
        Sheet.forall_cellAt (P := fun c : StoredCell => c = .absent) rfl (by simp) _ _
      rw [hgrid, nothing, absent]
      rfl
    · rcases Sheet.cellAt_map .absent .empty StoredCell.read (s.grid isUsed .absent)
          (header - 1 + i) j with h | ⟨h, hc⟩
      · exact h
      · rw [h, hc]
        rfl
  rw [readRows, Sheet.cellAt_drop, read]
  rcases @Sheet.cellAt_grid _ isUsed .absent rfl s (header - 1 + i) j with
    h | ⟨hgrid, hunused⟩
  · rw [h]
  · rw [eq_absent_of_unused hgrid, eq_absent_of_unused hunused]

/-- At every place a cell that was written is read back. -/
theorem cellAt_readRows_toModern (s : Sheet Cell) (header i j : Nat) :
    Sheet.cellAt .empty (readRows s.toModern header) i j =
      (write (Sheet.cellAt .empty s.rows (header - 1 + i) j)).read := by
  rw [cellAt_readRows]
  rcases Sheet.cellAt_map .empty .absent write s.rows (header - 1 + i) j with h | ⟨h, hc⟩
  · exact congrArg StoredCell.read h
  · rw [hc]
    exact congrArg StoredCell.read h

end Modern

/-- At every place the two workbooks of a sheet have cells that are read back alike. -/
theorem Sheet.cellAt_storedAlike {s : Sheet Cell} (plain : ∀ row ∈ s.rows, ∀ c ∈ row, c.IsPlain)
    (header i j : Nat) :
    (cellAt .empty (Legacy.readRows s header) i j).StoredAlike
      (cellAt .empty (Modern.readRows s.toModern header) i j) := by
  have alike := (forall_cellAt .empty plain (header - 1 + i) j).storedAlike
  rw [Modern.cellAt_readRows_toModern]
  rcases Legacy.cellAt_readRows s header i j with h | ⟨hread, hstored⟩
  · rw [h]
    exact alike
  · exact .agrees (.void hread (alike.isVoid_iff.1 hstored))

end VestingTable
