import VestingTable.Csv
import VestingTable.Layout
import VestingTable.Session

/-!
# Tables

A table is read from a file: a workbook, modern or legacy, or a text with
comma-separated values. What a file is read as goes by the suffix of its name. The
rows are numbered as the sheet shows them, and those ahead of the data are left
out.

* `Table.contentRows?` gives the rows of a content, or nothing if it cannot be
  read as a table of the kind;
* `Table.read` reads a file of a session;
* `Table.records` reads the rows by a layout.
-/

namespace VestingTable.Table

/-- The kinds of tables. -/
inductive Kind
  | modern
  | legacy
  | text
deriving DecidableEq

/-- The kind of a suffix in lower case. -/
def Kind.ofSuffix? (suffix : String) : Option Kind :=
  if suffix = ".xlsx" ∨ suffix = ".xlsm" then some .modern
  else if suffix = ".xls" then some .legacy
  else if suffix = ".csv" then some .text
  else none

/-- The bytes of a mark at the start of a text that tells its encoding. -/
def byteOrderMark : List UInt8 := [0xEF, 0xBB, 0xBF]

/-- The text of bytes in UTF-8, without a mark of the encoding. Bytes that are only the start of
    such a mark are no text at all. -/
def markedText? (b : ByteArray) : Option String :=
  if b.size < 3 ∧ b.toList = byteOrderMark.take b.size then some ""
  else if (b.extract 0 3).toList = byteOrderMark then String.fromUTF8? (b.extract 3 b.size)
  else String.fromUTF8? b

/-- The records of a text, numbered from one on, from a row on. -/
def textRows (records : List (List String)) (header : Int) : List Row :=
  (Row.numbered 1 (records.map fun fields => fields.map Cell.text)).filter fun row =>
    header ≤ row.number

/-- The rows of a content from a row on, read as a table of a kind; the sheet of a title or the
    first one. -/
def contentRows? (kind : Kind) (path : Path) (title : Option String) (header : Int) :
    FileContent → Option (List Row)
  | .modern sheets =>
    if kind = .modern ∧ path.hasPlainStem then Modern.read? sheets title header else none
  | .legacy w => if kind = .legacy then Legacy.read? w title header else none
  | .bytes b =>
    if kind = .text then do
      let text ← markedText? b
      let records ← Csv.read? text.toList
      return textRows records header
    else none

/-- The name of the logger of tables. -/
def logger : String := "vesting.parsing"

/-- The rows of a table in a file from a row on. -/
def read (file : String) (title : Option String) (header : Int) : Action (List Row) := do
  let path := Path.ofText file
  if !(← Action.of ((← Action.files).exists? path)) then throw (.fileNotFound file)
  Action.of (Numeral.spell [header])
  Action.report logger ("Reading schedule table from " ++ path.name ++ " (first data row " ++
    Numeral.ofInt header ++ ")")
  let suffix := Text.lower path.suffix
  match Kind.ofSuffix? suffix with
  | none => throw (.unsupportedFile suffix file)
  | some kind =>
    match ((← Action.files).content? path).bind (contentRows? kind path title header) with
    | none => throw (.unreadableTable path.name file title)
    | some rows =>
      Action.report logger ("Read " ++ Numeral.ofNat rows.length ++ " rows from " ++ path.name)
      return rows

/-- The records of rows, each with its number; a row may fail to be read. -/
def records (layout : Layout) (rows : List Row) : List (Int × Except Failure Record) :=
  rows.map fun row => (row.number, Record.ofCells layout (some row.number) row.cells)

end VestingTable.Table
