import VestingTable.Cell.Basic

/-!
# Modern workbooks

A workbook has sheets with titles, and a sheet has cells from its first row and
column on. A modern workbook keeps a number as a numeral, and a moment as a
*serial*: the days from 1899-12-30, save that the days up to the end of February
1900 are counted from the day after.

What a sheet holds (`Modern.StoredCell`) is apart from what wrote it. A numeral may
have any number of digits, and is read with all of them (`StoredCell.read`). The
writer of `Modern.write` keeps sixteen digits of a number and does not keep the
value of a formula; other writers do otherwise.

Reading a sheet gives the rectangle from the first cell to the last row and
column in use (`Sheet.grid`). A cell without a value is in use, though nothing is
read there.
-/

namespace VestingTable

/-- A sheet of a workbook, by its rows; the cells start in the first column. -/
structure Sheet (α : Type) where
  title : String
  rows : List (List α)

/-- A row of a table: its number and its cells. -/
structure Row where
  number : Int
  cells : List Cell

/-- The sheet of a title, or the first one. -/
def Sheet.find? {α : Type} (sheets : List (Sheet α)) (title : Option String) : Option (Sheet α) :=
  match title with
  | none | some "" => sheets.head?
  | some title => sheets.find? fun s => s.title = title

/-- The width of the columns in use. -/
def Sheet.width {α : Type} (isUsed : α → Bool) (rows : List (List α)) : Nat :=
  rows.foldl (fun width row => max width (row.reverse.dropWhile (!isUsed ·)).length) 0

/-- The rows up to the last one in use. -/
def Sheet.usedRows {α : Type} (isUsed : α → Bool) (rows : List (List α)) : List (List α) :=
  (rows.reverse.dropWhile fun row => !row.any isUsed).reverse

/-- The cells of a row up to a width. -/
def Sheet.padded {α : Type} (filler : α) (width : Nat) (row : List α) : List α :=
  (row ++ List.replicate (width - row.length) filler).take width

/-- The rectangle of the cells up to the last row and column in use. -/
def Sheet.grid {α : Type} (isUsed : α → Bool) (filler : α) (s : Sheet α) : List (List α) :=
  let rows := usedRows isUsed s.rows
  rows.map (padded filler (width isUsed rows))

/-- Rows numbered from a number on. -/
def Row.numbered (first : Int) (rows : List (List Cell)) : List Row :=
  rows.mapIdx fun i cells => ⟨first + i, cells⟩

/-- A moment so many milliseconds after the start of a day. -/
def DateTime.ofMilliseconds? (dayNumber milliseconds : Int) : Option DateTime := do
  let day := milliseconds.fdiv 86400000
  let date ← Date.ofDayNumber? (dayNumber + day)
  let time ← TimeOfDay.ofMilliseconds? (milliseconds.fmod 86400000).toNat
  return ⟨date, time, none⟩

/-- A rational, rounded to a binary64 number. -/
def Binary64.rounded (q : Rat) : Rat :=
  (Binary64.ofRat q).toRat?.getD 0

namespace Modern

/-- The longest text of a cell. -/
def maxTextLength : Nat := 32767

/-! ## What a sheet holds -/

/-- A number as it is kept: a numeral of digits alone, which is an integer, or one with a point or
    an exponent, which is a float. -/
inductive StoredNumber
  | digits (n : Int) (fits : Numeral.Fits n)
  | decimal (d : Decimal)

/-- A cell as it is kept. -/
inductive StoredCell
  /-- There is no cell. -/
  | absent
  /-- A cell without a value. -/
  | void
  | text (s : String)
  | boolean (b : Bool)
  | number (x : StoredNumber)
  /-- A number in the format of a moment. -/
  | serial (x : StoredNumber)

/-- A number as it is read. -/
def StoredNumber.read : StoredNumber → Cell
  | digits n _ => .integer n
  | decimal d => .float d.toBinary64

/-- The value of a number as it is read. -/
def StoredNumber.value : StoredNumber → Rat
  | digits n _ => n
  | decimal d => d.toBinary64.toRat?.getD 0

/-! ## Moments -/

/-- The day number of 1899-12-30. -/
def epoch : Int := -25569

/-- The part of the day that has passed at a time. -/
def dayFraction (t : TimeOfDay) : Rat :=
  let second := Binary64.rounded (mkRat t.microsecond 1000000)
  Binary64.rounded (Binary64.rounded (t.seconds + second) / 86400)

/-- The serial of a moment. -/
def serial (d : Date) (t : TimeOfDay) : Rat :=
  let days := d.dayNumber - epoch
  let days := if 0 < days ∧ days ≤ 60 then days - 1 else days
  Binary64.rounded (days + dayFraction t)

/-- The part of a serial behind its whole days. -/
def serialFraction (q : Rat) : Rat :=
  if q < 0 ∧ q.den ≠ 1 then Binary64.rounded (q - truncate q + 1) else q - q.floor

/-- The moment of a serial, or only the time of a serial without days. -/
def ofSerial (q : Rat) : Cell :=
  let milliseconds :=
    roundRat (Binary64.rounded (Binary64.rounded (serialFraction q * 86400) * 1000))
  if 0 ≤ q ∧ q < 1 ∧ milliseconds < 86400000 then
    match TimeOfDay.ofMilliseconds? milliseconds.toNat with
    | some t => .time t
    | none => .text "#VALUE!"
  else
    let day := if 0 < q ∧ q < 60 then q.floor + 1 else q.floor
    match DateTime.ofMilliseconds? (epoch + day) milliseconds with
    | some m => .dateTime m
    | none => .text "#VALUE!"

/-- A cell as it is read. -/
def StoredCell.read : StoredCell → Cell
  | absent | void => .empty
  | text s => .text s
  | boolean b => .boolean b
  | number x => x.read
  | serial x => ofSerial x.value

/-! ## Writing -/

/-- The numeral of sixteen digits of a number; it has no exponent if it is an integer of so many
    digits. -/
def writeMagnitude (negative : Bool) (m : Binary64.Magnitude) : StoredNumber :=
  if m.mantissa = 0 then .digits 0 Numeral.fits_zero
  else
    let (coefficient, exponent) := m.rounded 16
    let d : Decimal := ⟨negative, coefficient, exponent⟩
    match d.toInt? with
    | some n => if h : d.adjusted < 16 ∧ Numeral.Fits n then .digits n h.2 else .decimal d
    | none => .decimal d

/-- A number as it is written; one that is not finite is not kept. -/
def writeNumber? : Binary64 → Option StoredNumber
  | .finite negative m => some (writeMagnitude negative m)
  | _ => none

/-- A text as it is written: a formula has no value. -/
def writeText (s : String) : StoredCell :=
  let cs := s.toList.take maxTextLength
  match cs with
  | [] | '=' :: _ :: _ => .void
  | _ => .text (String.ofList cs)

/-- A number in some form, if it is kept. -/
def writeAs (form : StoredNumber → StoredCell) (x : Binary64) : StoredCell :=
  ((writeNumber? x).map form).getD .void

/-- A cell as it is written. -/
def write : Cell → StoredCell
  | .empty => .absent
  | .text s => writeText s
  | .boolean b => .boolean b
  | .integer n => writeAs .number (.ofInt n)
  | .float x => writeAs .number x
  | .decimal (.finite d) => writeAs .number d.toBinary64
  | .date d => writeAs .serial (.ofRat (serial d .midnight))
  | .time t => writeAs .serial (.ofRat (dayFraction t))
  | .dateTime m => writeAs .serial (.ofRat (serial m.date m.time))
  | _ => .void

/-! ## Sheets -/

/-- A cell is in use. -/
def isUsed : StoredCell → Bool
  | .absent => false
  | _ => true

/-- The rows of a sheet as they are read; a sheet without cells has one row of one cell. -/
def rows (s : Sheet StoredCell) : List (List Cell) :=
  match s.grid isUsed .absent with
  | [] => [[.empty]]
  | grid => grid.map fun row => row.map StoredCell.read

/-- The rows of a sheet from a row on. Rows are numbered from one; from row zero on there are all
    rows, numbered from zero, unless the sheet is empty. -/
def readSheet? (s : Sheet StoredCell) (header : Int) : Option (List Row) :=
  if header < 0 then none
  else if header = 0 then
    some (if s.rows.any (·.any isUsed) then Row.numbered 0 (rows s) else [])
  else some (Row.numbered header ((rows s).drop (header.toNat - 1)))

/-- The rows of a sheet of a workbook from a row on. -/
def read? (sheets : List (Sheet StoredCell)) (title : Option String) (header : Int) :
    Option (List Row) :=
  (Sheet.find? sheets title).bind fun s => readSheet? s header

end Modern

end VestingTable
