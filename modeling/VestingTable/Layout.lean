import VestingTable.Cell.Reading

/-!
# Column layouts

A layout tells which field each column of a table stands for, from the first
column on; a column may be ignored. A layout is given by the names of its
fields with commas between them, and is valid if each name is that of a field
or empty and no field occurs twice.

* `Layout.validate` checks such a text, and keeps it without the blanks around
  the names;
* `Record.ofCells` reads the cells of a row by a layout. Cells without a column
  and columns without a cell are passed over, and of two columns of one field
  the last one counts, even if its cell is blank.
-/

namespace VestingTable

/-- The fields of the columns, where an ignored column has none. -/
abbrev Layout := List (Option Field)

namespace Layout

/-- The layout of a table if nothing else is said. -/
def standardText : String :=
  "total,pool,subtotal,percent_of_total,name,amount,address," ++
    "start_at,interval,duration,cliff,portion_size,remainder"

/-- The parts of a text between its commas. -/
def parts (s : String) : List String :=
  (s.toList.splitOn ',').map String.ofList

/-- Texts with a comma between two of them. -/
def join (names : List String) : String :=
  ",".intercalate names

/-- The texts in order, each of them once. -/
def sortedOnce (names : List String) : List String :=
  (names.mergeSort fun a b => decide (a ≤ b)).eraseDups

/-- The names of a layout, without blanks around them, if it is valid. -/
def validate (s : String) : Except Problem String :=
  let names := (parts s).map Text.strip
  let given := names.filter (!·.isEmpty)
  match given.filter fun name => (Field.ofKey? name).isNone with
  | [] => if given.eraseDups.length = given.length then .ok (join names) else .error .repeatedColumn
  | unknown => .error (.unknownColumns (sortedOnce unknown))

/-- The layout of names of fields; a name of no field makes an ignored column. -/
def ofNames (names : List (Option String)) : Layout :=
  names.map fun name => name.bind Field.ofKey?

/-- The layout that a valid text denotes. -/
def ofText (s : String) : Layout :=
  ofNames ((parts s).map some)

/-- The names of the fields of a layout. -/
def names (l : Layout) : List (Option String) :=
  l.map fun column => column.map Field.key

end Layout

/-- The draft with the cell of a column read into it. -/
def Draft.read (row : Option Int) (d : Draft) : Option Field × Cell → Except Failure Draft
  | (none, _) => .ok d
  | (some field, cell) => do
    let v ← cell.read row field field.kind
    return d.set field v

/-- What the cells of a row say by a layout. -/
def Draft.ofCells (layout : Layout) (row : Option Int) (cells : List Cell) : Except Failure Draft :=
  (layout.zip cells).foldlM (Draft.read row) Draft.empty

/-- A validated value, or its complaints as a failure. -/
def Validated.orFail {α : Type} (v : Validated α) : Except Failure α :=
  match v with
  | .valid a => .ok a
  | .invalid cs => .error (.invalid cs)

/-- The record of the cells of a row. -/
def Record.ofCells (layout : Layout) (row : Option Int) (cells : List Cell) :
    Except Failure Record := do
  let draft ← Draft.ofCells layout row cells
  draft.validate.orFail

end VestingTable
