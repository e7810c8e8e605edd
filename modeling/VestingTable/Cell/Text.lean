import VestingTable.Text.Quoted
import VestingTable.Cell.Basic

/-!
# Texts of cells

A cell is written in two ways: as the text that it stands for in a column of
texts (`text?`), and so that its kind can be told, as a message shows it
(`quoted?`). Neither exists if an integer in the cell is too long to be written.
-/

namespace VestingTable

/-- The numeral of an integer that is not too long. -/
def Numeral.ofInt? (n : Int) : Option String :=
  if Fits n then some (ofInt n) else none

/-- A text between two others. -/
def Text.between (opening closing content : String) : String :=
  opening ++ content ++ closing

/-- Texts with a comma between two of them. -/
def Text.commaSeparated (items : List String) : String :=
  ", ".intercalate items

namespace TimeOfDay

/-- The numbers of a time, without a second and a microsecond that are zero. -/
def numerals (t : TimeOfDay) : List String :=
  [t.hour, t.minute].map Numeral.ofNat ++
    if t.microsecond ≠ 0 then [t.second, t.microsecond].map Numeral.ofNat
    else if t.second ≠ 0 then [Numeral.ofNat t.second]
    else []

end TimeOfDay

namespace DateTime

/-- The parts of an offset, those that are not zero. One that is behind universal time is a day
    less and the rest of it more. -/
def offsetParts (offset : Int) : List (String × Int) :=
  let days := offset.fdiv 86400000000
  let rest := offset.fmod 86400000000
  [("days", days), ("seconds", rest / 1000000), ("microseconds", rest % 1000000)].filter fun part =>
    part.2 ≠ 0

/-- The time zone of a moment, as a message shows it. -/
def quotedOffset (offset : Int) : String :=
  if offset = 0 then "datetime.timezone.utc"
  else Text.between "datetime.timezone(datetime.timedelta(" "))" <| Text.commaSeparated <|
    (offsetParts offset).map fun part => part.1 ++ "=" ++ Numeral.ofInt part.2

end DateTime

/-- The numbers of a date. -/
def Date.numerals (d : Date) : List String :=
  [d.year, d.month, d.day].map Numeral.ofNat

namespace Cell

/-- The name of a truth value. -/
def truthText (b : Bool) : String :=
  if b then "True" else "False"

mutual

/-- The cell as a message shows it. -/
def quoted? : Cell → Option String
  | empty => some "None"
  | boolean b => some (truthText b)
  | integer n => Numeral.ofInt? n
  | float x => some x.text
  | decimal d => some (Text.between "Decimal('" "')" d.text)
  | text s => some (Text.quoted s)
  | date d => some (Text.between "datetime.date(" ")" (Text.commaSeparated d.numerals))
  | time t => some (Text.between "datetime.time(" ")" (Text.commaSeparated t.numerals))
  | dateTime m =>
    some (Text.between "datetime.datetime(" ")" (Text.commaSeparated
      (m.date.numerals ++ m.time.numerals ++
        (m.offset.map fun offset => "tzinfo=" ++ DateTime.quotedOffset offset).toList)))
  | notATime => some "NaT"
  | notAvailable => some "<NA>"
  | list parts => (quotedParts? parts).map fun texts => Text.between "[" "]" (Text.commaSeparated texts)

/-- The cells of a list as a message shows them. -/
def quotedParts? : List Cell → Option (List String)
  | [] => some []
  | c :: cs => do
    let first ← quoted? c
    let rest ← quotedParts? cs
    return first :: rest

end

/-- The cell as a text. -/
def text? : Cell → Option String
  | text s => some s
  | decimal d => some d.text
  | date d => some d.text
  | time t => some t.text
  | dateTime m => some m.text
  | c => c.quoted?

end Cell

end VestingTable
