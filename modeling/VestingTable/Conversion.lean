import VestingTable.Builder
import VestingTable.Schedule.Encoding
import VestingTable.Settings
import VestingTable.Table

/-!
# Conversions

A converter turns tables into schedules, by its settings, and keeps the schedules
in files. It remembers which rows of the last table it could not recognize.

* `Converter.build` reads a table and builds its schedule;
* `Converter.convert` also writes it, to a given file or to a new one with the time
  in its name.

A failure of the program itself is passed on as it is; any other failure of a
conversion is reported as one of the conversion.
-/

namespace VestingTable

/-! ## Keeping schedules -/

/-- The name of the logger of exports. -/
def exportLogger : String := "vesting.exporters"

/-- The folder with a file of a text, where a refusal of the system is the failure to export it. -/
def Folder.export? (path : Path) (file : String) (text : Except Failure String) (f : Folder) :
    Except Failure Unit × Folder :=
  match f.makeDirectories path.parent with
  | (.error (.badPath ..), f) => (.error (.exportFailed file), f)
  | (.error failure, f) => (.error failure, f)
  | (.ok (), f) =>
    match text with
    | .error failure => (.error failure, f)
    | .ok text =>
      if hasNull path then (.error .nullInPath, f)
      else match f.writable? path with
        | none => (.error (.exportFailed file), f)
        | some place => (.ok (), f.put place (.file (.bytes text.toUTF8)))

/-- The text of a file that keeps a schedule. -/
def Schedule.fileText (s : Schedule) : Except Failure String :=
  (s.serialize (some 2)).map (· ++ "\n")

/-- A schedule, written to a file. -/
def Schedule.writeTo (s : Schedule) (file : String) : Action Unit := do
  Action.report exportLogger ("Exporting schedule with " ++ Numeral.ofNat s.pools.length ++
    " pools to " ++ file)
  Action.change (Folder.export? (Path.ofText file) file s.fileText)
  Action.report exportLogger ("Successfully exported to " ++ file)

/-- A new file for the schedule of a table, with the time in its name, in a directory that is made
    if needed. -/
def newFile (table directory time : String) : Action String := do
  let path := Path.ofText directory
  Action.change fun f => f.makeDirectories path
  return (path.child ((Path.ofText table).stem ++ "_schedule_" ++ time ++ ".json")).text

/-! ## Converters -/

/-- A converter of tables. -/
structure Converter where
  settings : Settings
  /-- The rows of the last table that were not recognized. -/
  skipped : List Int := []

/-- The numbers of a schedule. -/
structure Statistics where
  total : Nat
  pools : Nat
  accounts : Nat
  allocated : Nat
  skippedRows : List Int

/-- A list of numbers as it is written. -/
def numberList (ns : List Int) : String :=
  "[" ++ Text.commaSeparated (ns.map Numeral.ofInt) ++ "]"

/-- The statistics as they are written. -/
def Statistics.text (s : Statistics) : String :=
  "\x7b'total': '" ++ Numeral.ofNat s.total ++ "', 'pools': " ++ Numeral.ofNat s.pools ++
    ", 'accounts': " ++ Numeral.ofNat s.accounts ++ ", 'allocated': '" ++
    Numeral.ofNat s.allocated ++ "', 'skipped_rows': " ++ numberList s.skippedRows ++ "\x7d"

namespace Converter

/-- The name of the logger of conversions. -/
def logger : String := "services.schedule_service"

/-- The name of the logger of builders. -/
def builderLogger : String := "vesting.builder"

/-- The report on a schedule that was built. -/
def builtText (s : Schedule) (skipped : List Int) : String :=
  "Built schedule: total " ++ Numeral.ofNat s.total ++ ", " ++ Numeral.ofNat s.pools.length ++
    " pools, " ++ Numeral.ofNat s.accountCount ++ " accounts, " ++ Numeral.ofNat skipped.length ++
    " rows skipped"

/-- The sheet of a title, if it is given, else that of the settings. -/
def sheet (c : Converter) (title : Option String) : Option String :=
  title.filter (!·.isEmpty) <|> c.settings.sheet?

/-- The schedule of a table in a file, and the converter that remembers its rows. -/
def build (c : Converter) (file : String) (title : Option String) :
    Action (Schedule × Converter) := do
  let header := c.settings.headerHeight
  let rows ← Table.read file (c.sheet title) header
  let start : Builder := { headerRow := header, checkFinalPool := c.settings.checkFinalPool }
  let b ← Action.of (start.feedAll (Table.records c.settings.layout rows))
  let s ← Action.of b.finish
  Action.report builderLogger (builtText s b.skipped)
  if b.skipped ≠ [] then
    Action.report logger ("Skipped " ++ Numeral.ofNat b.skipped.length ++ " unrecognized rows: " ++
      numberList b.skipped)
  return (s, { c with skipped := b.skipped })

/-- The statistics of a schedule that was built last. -/
def statistics (c : Converter) (s : Schedule) : Statistics where
  total := s.total
  pools := s.pools.length
  accounts := s.accountCount
  allocated := s.allocated
  skippedRows := c.skipped

/-- What a conversion gives: the file of the schedule and its statistics. -/
structure Outcome where
  file : String
  statistics : Statistics

/-- A converter with settings, which fail as a configuration if they are not valid. -/
def ofSettings (settings : Except Failure Settings) : Except Failure Converter :=
  match settings with
  | .ok settings => .ok { settings }
  | .error (.invalid complaints) => .error (.invalidConfiguration complaints)
  | .error failure => .error failure

/-- A schedule, written to the given file or to a new one for its table. -/
def keep (c : Converter) (table : String) (output : Option String) (time : String)
    (s : Schedule) : Action Outcome := do
  let file ← match output with
    | some file => pure file
    | none => newFile (Path.ofText table).name c.settings.outputPath time
  s.writeTo file
  return { file, statistics := c.statistics s }

/-- The failure of a conversion. -/
def failure (table : String) (f : Failure) : Failure :=
  if f.isOwn then f else .conversionFailed table

/-- A table, converted at some time. The converter remembers the rows of the table once its
    schedule is built, also if it cannot be written. -/
def convert (c : Converter) (table : String) (output : Option String) (time : String)
    (s : Session) : Except Failure Outcome × Converter × Session :=
  let build : Action (Schedule × Converter) := do
    Action.report logger ("Converting schedule table: " ++ table)
    c.build table none
  match build.run s with
  | (.error f, s) => (.error (failure table f), c, s)
  | (.ok (schedule, c), s) =>
    match (c.keep table output time schedule).run s with
    | (.error f, s) => (.error (failure table f), c, s)
    | (.ok outcome, s) => (.ok outcome, c, s)

end Converter

end VestingTable
