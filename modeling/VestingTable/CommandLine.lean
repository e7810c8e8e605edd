import VestingTable.Conversion

/-!
# The command line

The program takes a table and, if it is given, the file for its schedule. It ends
with 0 if the table was converted, with 1 if that failed, and with 2 if it was
called in another way. The file of the schedule is printed, and everything else
is reported to the log.
-/

namespace VestingTable.CommandLine

/-- How the program ends, and what it prints besides the log. -/
structure Report where
  exitCode : Nat
  output : String := ""
  errors : String := ""

/-- The name of the logger of the program. -/
def logger : String := "main"

/-- How the program is called. -/
def usage : String :=
  "usage: main.py SCHEDULE_TABLE [OUTPUT_JSON]\n"

/-- The file of variables of the settings. -/
def variableFile : Path := Path.ofText ".env"

/-- A detail as it is written. -/
def detailText : Detail → String
  | .none => "None"
  | .number n => Numeral.ofInt n
  | .text s => Text.quoted s

/-- The details of a failure as they are written. -/
def detailsText (details : List (String × Detail)) : String :=
  "\x7b" ++ Text.commaSeparated (details.map fun (name, detail) =>
    Text.quoted name ++ ": " ++ detailText detail) ++ "\x7d"

/-- The lines of the log on a failure; one that is not of the program itself is quoted from
    elsewhere and not kept. -/
def failureLines (f : Failure) : List LogLine :=
  if !f.isOwn then []
  else
    let line (message : String) : LogLine := ⟨logger, .error, message⟩
    line ("Schedule error: " ++ f.message) ::
      if f.complaints?.isSome || f.quotesSystem then []
      else [line ("Details: " ++ detailsText f.details)]

/-- The end of the program after a failure. -/
def failed (f : Failure) (s : Session) : Report × Session :=
  ({ exitCode := 1 }, { s with log := s.log ++ failureLines f })

/-- The report on the settings. -/
def start (settings : Settings) : Action Unit := do
  Action.report logger ("Starting " ++ settings.appName)
  Action.report logger ("First data row: " ++ Numeral.ofNat settings.headerHeight)
  Action.report logger ("Check final pool: " ++ Cell.truthText settings.checkFinalPool)

/-- The program, called with arguments at some time in an environment. -/
def run (arguments : List String) (environment : List (String × String)) (time : String)
    (s : Session) : Report × Session :=
  let convert (table : String) (output : Option String) : Report × Session :=
    match Converter.ofSettings (Settings.load environment (s.files.bytes? variableFile)) with
    | .error f => failed f s
    | .ok c =>
      match c.convert table output time ((start c.settings).run s).2 with
      | (.error f, _, s) => failed f s
      | (.ok outcome, _, s) =>
        let (_, s) := (Action.report logger ("Schedule stats: " ++ outcome.statistics.text)).run s
        ({ exitCode := 0, output := outcome.file ++ "\n" }, s)
  match arguments with
  | [table] => convert table none
  | [table, output] => convert table (some output)
  | _ => ({ exitCode := 2, errors := usage }, s)

end VestingTable.CommandLine
