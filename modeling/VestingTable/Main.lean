import Std.Time.Format
import VestingTable.CommandLine

/-!
# The program

The outermost layer: it takes what the program sees from the system, the arguments,
the variables of the settings, the time, the table and the file of variables, and
gives the system what `CommandLine.run` makes of them. A table is seen as the bytes
of its file, so only tables in the form of texts are read.
-/

namespace VestingTable

/-- The variables of the settings. -/
def variableNames : List String :=
  ["APP_NAME", "LOG_LEVEL", "HEADER_HEIGHT", "SHEET_NAME", "SCHEDULE_COLUMNS", "CHECK_FINAL_POOL",
    "OUTPUT_PATH"]

/-- The variables of the settings that the environment has. -/
def readEnvironment : IO (List (String × String)) :=
  variableNames.filterMapM fun name => return (← IO.getEnv name).map (name, ·)

/-- The folder with the bytes of a file, if it can be read. -/
def seeFile (f : Folder) (file : String) : IO Folder := do
  try
    let bytes ← IO.FS.readBinFile file
    return f.withFile (Path.ofText file) (.file (.bytes bytes))
  catch _ => return f

/-- The files that the arguments name, and the file of variables. -/
def seeFiles (arguments : List String) : IO Folder :=
  (CommandLine.variableFile.text :: arguments.take 1).foldlM seeFile {}

/-- A file of a folder, written to the disk. -/
def writeFile (f : Folder) (file : String) : IO Unit := do
  let path := Path.ofText file
  match f.bytes? path with
  | none => return
  | some bytes =>
    IO.FS.createDirAll path.parent.text
    IO.FS.writeBinFile file bytes

/-- The lines of the log that are shown at a level. -/
def shownLines (level : LogLevel) (log : List LogLine) : List LogLine :=
  log.filter fun line => line.level.reaches level

end VestingTable

open VestingTable in
/-- Runs the program with its arguments. -/
def main (arguments : List String) : IO UInt32 := do
  let now ← Std.Time.PlainDateTime.now
  let environment ← readEnvironment
  let files ← seeFiles arguments
  let (report, session) := CommandLine.run arguments environment
    (now.format "uuuu-MM-dd'T'HH-mm-ss") { files }
  let level := Logger.levelOf none (environment.lookup "LOG_LEVEL")
  for line in shownLines level session.log do
    IO.println (line.text (now.format "uuuu-MM-dd HH:mm:ss"))
  IO.eprint report.errors
  if !report.output.isEmpty then
    writeFile session.files (String.ofList (report.output.toList.dropLast))
  IO.print report.output
  return report.exitCode.toUInt32
