import VestingTable.EnvFile
import VestingTable.Json.Lax
import VestingTable.Layout
import VestingTable.Log
import VestingTable.Text.Case

/-!
# Settings

How tables are read and schedules are kept. A setting is a variable of the
environment, or of a file of variables if the environment lacks it; names are
the same in upper and lower case, and variables that are no settings are passed
over. All settings have a value that holds if nothing is said.

`Settings.ofVariables` checks the settings, all of them at once, and
`Settings.load` does so for an environment and the bytes of a file.
-/

namespace VestingTable

/-- The settings. -/
structure Settings where
  appName : String := "Vesting Schedule Builder"
  logLevel : LogLevel := .info
  /-- The row of the grand total, which is the first one of the data. -/
  headerHeight : Nat := 5
  sheetName : String := ""
  columnText : String := Layout.standardText
  checkFinalPool : Bool := false
  outputPath : String := "schedules"
  headerHeight_pos : 0 < headerHeight := by decide

namespace Settings

/-- The layout of the columns. -/
def layout (s : Settings) : Layout :=
  Layout.ofText s.columnText

/-- The sheet to be read, if not the first one. -/
def sheet? (s : Settings) : Option String :=
  if s.sheetName.isEmpty then none else some s.sheetName

/-! ## Checks of the settings -/

/-- The level of a name. -/
def checkLevel (s : String) : Validated LogLevel :=
  match LogLevel.ofName? s with
  | some level => .valid level
  | none => .fail .unknownLevel

/-- The row of a numeral; rows are numbered from one on. -/
def checkHeaderHeight (s : String) : Validated { n : Nat // 0 < n } :=
  (Json.textInteger s).andThen fun n =>
    if h : 0 < n.toNat then .valid ⟨n.toNat, h⟩ else .fail .lowHeader

/-- The text of a valid layout. -/
def checkColumns (s : String) : Validated String :=
  match Layout.validate s with
  | .ok text => .valid text
  | .error problem => .fail problem

/-- A setting, checked if it is given. -/
def setting {α : Type} (given : String → Option String) (name : String)
    (check : String → Validated α) (default : α) : Validated α :=
  match given name with
  | none => .valid default
  | some s => (check s).under (.key name)

/-- The settings of variables, which are found by their names in upper case. -/
def ofVariables (given : String → Option String) : Validated Settings :=
  (fun appName logLevel headerHeight sheetName columnText checkFinalPool outputPath =>
    { appName, logLevel, headerHeight := headerHeight.1, sheetName, columnText, checkFinalPool,
      outputPath, headerHeight_pos := headerHeight.2 : Settings })
  <$> setting given "APP_NAME" .valid "Vesting Schedule Builder"
  <*> setting given "LOG_LEVEL" checkLevel .info
  <*> setting given "HEADER_HEIGHT" checkHeaderHeight ⟨5, by decide⟩
  <*> setting given "SHEET_NAME" .valid ""
  <*> setting given "SCHEDULE_COLUMNS" checkColumns Layout.standardText
  <*> setting given "CHECK_FINAL_POOL" Json.textBool false
  <*> setting given "OUTPUT_PATH" .valid "schedules"

/-! ## Variables -/

/-- The value of the last binding whose name is a given one in lower case. -/
def lastBinding (bs : List EnvFile.Binding) (name : String) : Option String :=
  ((bs.reverse.find? fun b => Text.lower b.1 = Text.lower name).map Prod.snd).join

/-- The value of a variable: that of the environment, else that of the file. -/
def valueOf? (environment : List (String × String)) (file : List EnvFile.Binding)
    (name : String) : Option String :=
  lastBinding (environment.map fun (name, value) => (name, some value)) name <|>
    lastBinding file name

/-- The settings of an environment and of a file of variables, if there is one. -/
def load (environment : List (String × String)) (file : Option ByteArray) :
    Except Failure Settings := do
  let bindings ← match file with
    | none => pure []
    | some bytes =>
      match Text.decodeUtf8 bytes with
      | .ok text => pure (EnvFile.values environment text)
      | .error fault => .error (.undecodable fault)
  (ofVariables (valueOf? environment bindings)).orFail

end Settings

end VestingTable
