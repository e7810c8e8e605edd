import VestingTable.Workbook.Modern

/-!
# Legacy workbooks

A legacy workbook keeps all numbers as binary64 numbers, and tells a moment from a
number by the format of its cell. A moment is kept as a serial, its fraction to be
read to the millisecond. The serials below 60 count from 1899-12-31, the others
from 1899-12-30, or all of them from 1904-01-01 if the workbook says so.

Reading back a sheet gives the rectangle of the cells in use, with empty texts
where there is no cell. A moment out of the calendar fails the reading, if its row
is read.
-/

namespace VestingTable.Legacy

/-- A cell of a legacy workbook. -/
inductive LegacyCell
  | plain (c : Cell)
  /-- A number in the format of a moment. -/
  | serial (x : Binary64)
  /-- The code of an error. -/
  | error (code : Int)

/-- A legacy workbook. -/
structure Workbook where
  sheets : List (Sheet LegacyCell)
  /-- Moments count from 1904-01-01. -/
  from1904 : Bool := false

/-- A cell is in use. -/
def isUsed : LegacyCell → Bool
  | .plain .empty => false
  | .plain (.text s) => !s.isEmpty
  | _ => true

/-- The day number from which a serial counts. -/
def epoch (from1904 : Bool) (serial : Rat) : Int :=
  if from1904 then -24107 else if serial < 60 then -25568 else -25569

/-- The moment of a serial. -/
def ofSerial? (from1904 : Bool) (x : Binary64) : Option DateTime := do
  let q ← x.toRat?
  let days := truncate q
  let milliseconds := roundRat (Binary64.rounded ((q - days) * 86400000))
  DateTime.ofMilliseconds? (epoch from1904 q) (days * 86400000 + milliseconds)

/-- A number as it is read back; a zero has no sign. -/
def storedNumber : Binary64 → Cell
  | .finite negative m => .float (.finite (negative && m.mantissa ≠ 0) m)
  | x => .float x

/-- A cell as it is read back. -/
def stored? (from1904 : Bool) : LegacyCell → Option Cell
  | .plain (.text s) => some (.text s)
  | .plain (.integer n) => some (storedNumber (.ofInt n))
  | .plain (.float x) => some (storedNumber x)
  | .plain (.boolean b) => some (.integer (if b then 1 else 0))
  | .plain _ => some (.text "")
  | .error code => some (.integer code)
  | .serial x => (ofSerial? from1904 x).map .dateTime

/-- The rectangle of the cells in use. -/
def grid (s : Sheet LegacyCell) : List (List LegacyCell) :=
  s.grid isUsed (.plain .empty)

/-- The row of an index, which counts from the end if it is negative. -/
def row? (from1904 : Bool) (grid : List (List LegacyCell)) (index : Int) : Option Row := do
  let place := if index < 0 then index + grid.length else index
  if place < 0 then none
  let row ← grid[place.toNat]?
  return ⟨index + 1, ← row.mapM (stored? from1904)⟩

/-- The rows of a sheet from a row on, which are numbered from one. From row zero and below on, the
    rows counted from the end come first. -/
def readSheet? (from1904 : Bool) (s : Sheet LegacyCell) (header : Int) : Option (List Row) :=
  let grid := grid s
  let first := header - 1
  if first < -grid.length then none
  else (List.range (grid.length - first).toNat).mapM fun i : Nat => row? from1904 grid (first + i)

/-- The rows of a sheet of a workbook from a row on. -/
def read? (w : Workbook) (title : Option String) (header : Int) : Option (List Row) :=
  (Sheet.find? w.sheets title).bind fun s => readSheet? w.from1904 s header

end VestingTable.Legacy
