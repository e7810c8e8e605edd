/-!
# Comma-separated values

A table as text: its records are separated by line ends, and their fields by
commas. A field that starts with a quotation mark goes on up to the next single
one, so it may hold commas and line ends; two marks in a row are one mark of the
field. What follows the closing mark belongs to the field too. A line ends with
`\n`, `\r` or both, and an empty line is a record without fields.

`Csv.read?` reads a text character by character. It refuses only a field of more
than `maxFieldSize` characters.
-/

namespace VestingTable.Csv

/-- The most characters of a field. -/
def maxFieldSize : Nat := 131072

/-- Where the reader is. -/
inductive Mode
  /-- At the start of a record. -/
  | record
  /-- Behind a carriage return that ended a record; a line feed belongs to it. -/
  | carriageReturn
  /-- Behind a comma. -/
  | field
  | plain
  | quoted
  /-- Behind a quotation mark in a quoted field: the end of it, or the first half of a mark. -/
  | mark
deriving DecidableEq

/-- A reader in the middle of a text. What it has read comes last first. -/
structure Reader where
  records : List (List String) := []
  fields : List String := []
  chars : List Char := []
  size : Nat := 0
  mode : Mode := .record

namespace Reader

/-- The field is complete. -/
def endField (r : Reader) : Reader :=
  { r with fields := String.ofList r.chars.reverse :: r.fields, chars := [], size := 0, mode := .field }

/-- The record is complete, and its line ended in some way. -/
def endRecord (r : Reader) (mode : Mode) : Reader :=
  { records := r.fields.reverse :: r.records, mode }

/-- The field goes on with a character, unless it is full. -/
def add? (r : Reader) (c : Char) (mode : Mode) : Option Reader :=
  if r.size < maxFieldSize then
    some { r with chars := c :: r.chars, size := r.size + 1, mode }
  else none

/-- Where the reader is after a character that ends a line. -/
def lineEnd? (c : Char) : Option Mode :=
  if c = '\n' then some .record else if c = '\r' then some .carriageReturn else none

/-- A character at the start of a field. -/
def start? (r : Reader) (c : Char) : Option Reader :=
  match lineEnd? c with
  | some mode => some (r.endField.endRecord mode)
  | none =>
    if c = '\x22' then some { r with mode := .quoted }
    else if c = ',' then some r.endField
    else r.add? c .plain

/-- A character at the start of a line. -/
def startLine? (r : Reader) (c : Char) : Option Reader :=
  match lineEnd? c with
  | some mode => some (r.endRecord mode)
  | none => r.start? c

/-- A character behind a field that may go on. -/
def continue? (r : Reader) (c : Char) : Option Reader :=
  match lineEnd? c with
  | some mode => some (r.endField.endRecord mode)
  | none => if c = ',' then some r.endField else r.add? c .plain

/-- One more character. -/
def step (r : Reader) (c : Char) : Option Reader :=
  match r.mode with
  | .record => r.startLine? c
  | .carriageReturn => if c = '\n' then some { r with mode := .record } else r.startLine? c
  | .field => r.start? c
  | .plain => r.continue? c
  | .quoted => if c = '\x22' then some { r with mode := .mark } else r.add? c .quoted
  | .mark => if c = '\x22' then r.add? c .quoted else r.continue? c

/-- The records at the end of the text. -/
def finish (r : Reader) : List (List String) :=
  match r.mode with
  | .record | .carriageReturn => r.records.reverse
  | _ => (r.endField.endRecord .record).records.reverse

end Reader

/-- The records of a text. -/
def read? (cs : List Char) : Option (List (List String)) :=
  (cs.foldlM Reader.step {}).map Reader.finish

end VestingTable.Csv
