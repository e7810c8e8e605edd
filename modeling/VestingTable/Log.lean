/-!
# The log

What is reported while a table is converted goes to loggers, which have names.
A logger shows the messages at and above its level. It prints through a handler,
which keeps the level that its logger had when it was first set up, so a message
has to pass both.
-/

namespace VestingTable

/-- How grave a message is. -/
inductive LogLevel
  | debug
  | info
  | warning
  | error
  | critical
deriving DecidableEq

namespace LogLevel

/-- The levels, from the least grave on. -/
def all : List LogLevel :=
  [debug, info, warning, error, critical]

/-- The place of a level among the others. -/
def rank : LogLevel → Nat
  | debug => 0
  | info => 1
  | warning => 2
  | error => 3
  | critical => 4

/-- The name of a level. -/
def name : LogLevel → String
  | debug => "DEBUG"
  | info => "INFO"
  | warning => "WARNING"
  | error => "ERROR"
  | critical => "CRITICAL"

/-- A letter of the names of levels in upper case. Beside the small letters there is the dotless
    one, whose upper case is the plain capital. -/
def capitalLetter (c : Char) : Char :=
  if 'a' ≤ c ∧ c ≤ 'z' then Char.ofNat (c.toNat - 32)
  else if c = 'ı' then 'I'
  else c

/-- The level of a name, in any case of its letters. -/
def ofName? (s : String) : Option LogLevel :=
  all.find? fun level => level.name.toList = s.toList.map capitalLetter

/-- A message of a level is shown at a threshold. -/
def reaches (level threshold : LogLevel) : Bool :=
  threshold.rank ≤ level.rank

end LogLevel

/-- A message in the log. -/
structure LogLine where
  logger : String
  level : LogLevel
  message : String
deriving DecidableEq

/-- A line of the log, as it is printed at some time. -/
def LogLine.text (l : LogLine) (time : String) : String :=
  " | ".intercalate [time, l.logger, l.level.name, l.message]

/-- A logger that has been set up. -/
structure Logger where
  name : String
  level : LogLevel
  handlerLevel : LogLevel

namespace Logger

/-- The logger shows messages of a level. -/
def shows (l : Logger) (level : LogLevel) : Bool :=
  level.reaches l.level && level.reaches l.handlerLevel

/-- The root of the loggers has no name of its own. -/
def nameOf (name : String) : String :=
  if name.isEmpty then "root" else name

/-- The level of a logger: that of the first text that is given and not empty, else of the second;
    without a text, or with one that names no level, it is `info`. -/
def levelOf (given environment : Option String) : LogLevel :=
  match given.filter (!·.isEmpty) <|> environment with
  | some s => (LogLevel.ofName? s).getD .info
  | none => .info

end Logger

/-- The loggers that were set up, with the levels of their handlers. -/
abbrev Loggers := List (String × LogLevel)

/-- The logger of a name, set up at a level. -/
def Loggers.setUp (ls : Loggers) (name : String) (level : LogLevel) : Logger × Loggers :=
  let name := Logger.nameOf name
  match ls.lookup name with
  | some handlerLevel => ({ name, level, handlerLevel }, ls)
  | none => ({ name, level, handlerLevel := level }, (name, level) :: ls)

end VestingTable
