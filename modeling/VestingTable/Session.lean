import VestingTable.Files.Folder
import VestingTable.Log

/-!
# Sessions

A conversion reads and writes files and reports to the log. A session is the
state of both, and an `Action` changes it and may fail; what an action did before
it failed stays done.
-/

namespace VestingTable

/-- The files, and the log so far. -/
structure Session where
  files : Folder := {}
  log : List LogLine := []

/-- What is done in a session. -/
abbrev Action := ExceptT Failure (StateM Session)

namespace Action

/-- An outcome that needs no session. -/
def of {α : Type} (outcome : Except Failure α) : Action α :=
  fun s => (outcome, s)

/-- A message of a logger. -/
def report (logger : String) (message : String) : Action Unit :=
  modify fun s => { s with log := s.log ++ [⟨logger, .info, message⟩] }

/-- The files. -/
def files : Action Folder :=
  return (← get).files

/-- A change of the files, which may fail. -/
def change (step : Folder → Except Failure Unit × Folder) : Action Unit :=
  fun s => let (outcome, files) := step s.files; (outcome, { s with files })

end Action

end VestingTable
