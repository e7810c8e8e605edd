import VestingTable.Numeral
import VestingTable.Text.Quoted

/-!
# Validation

Records, settings and schedules in the form of JSON are checked as a whole: all
that is wrong with them is reported, in the order of their fields. A complaint
names the place and the problem. `Validated` collects complaints: it is like
`Except`, save that two parts are checked both, and the complaints of the
first come first.
-/

namespace VestingTable

/-- What can be wrong with a value. -/
inductive Problem
  | missing
  | notText
  | notList
  | notObject
  | notInteger
  | unreadableInteger
  | oversizedInteger
  | fractionalInteger
  | notFinite
  | notBoolean
  | unreadableBoolean
  | negativeAmount (n : Int)
  | invalidJson
  | unknownLevel
  | lowHeader
  | unknownColumns (names : List String)
  | repeatedColumn
deriving DecidableEq

namespace Problem

/-- The class of a problem. -/
def type : Problem → String
  | missing => "missing"
  | notText => "string_type"
  | notList => "list_type"
  | notObject => "model_type"
  | notInteger => "int_type"
  | unreadableInteger => "int_parsing"
  | oversizedInteger => "int_parsing_size"
  | fractionalInteger => "int_from_float"
  | notFinite => "finite_number"
  | notBoolean => "bool_type"
  | unreadableBoolean => "bool_parsing"
  | invalidJson => "json_invalid"
  | negativeAmount _ | unknownLevel | lowHeader | unknownColumns _ | repeatedColumn => "value_error"

/-- What is said about a numeral that is too long to be written. -/
def unwritableText : String :=
  "Exceeds the limit (4300 digits) for integer string conversion; " ++
    "use sys.set_int_max_str_digits() to increase the limit"

/-- What is wrong, in words; about a text that is not JSON the words are the reader's own. -/
def message? : Problem → Option String
  | missing => some "Field required"
  | notText => some "Input should be a valid string"
  | notList => some "Input should be a valid array"
  | notObject => some "Input should be an object"
  | notInteger => some "Input should be a valid integer"
  | unreadableInteger => some "Input should be a valid integer, unable to parse string as an integer"
  | oversizedInteger =>
    some "Unable to parse input string as an integer, exceeded maximum size"
  | fractionalInteger =>
    some "Input should be a valid integer, got a number with a fractional part"
  | notFinite => some "Input should be a finite number"
  | notBoolean => some "Input should be a valid boolean"
  | unreadableBoolean => some "Input should be a valid boolean, unable to interpret input"
  | negativeAmount n =>
    some ("Value error, " ++
      if Numeral.Fits n then "amount must not be negative, got " ++ Numeral.ofInt n
      else unwritableText)
  | invalidJson => none
  | unknownLevel =>
    some "Value error, Log level must be one of: ['DEBUG', 'INFO', 'WARNING', 'ERROR', 'CRITICAL']"
  | lowHeader => some "Value error, Header height must be at least 1"
  | unknownColumns names =>
    some ("Value error, Unknown schedule columns: [" ++ ", ".intercalate (names.map Text.quoted) ++ "]")
  | repeatedColumn => some "Value error, Schedule columns must not repeat a field"

end Problem

/-- A step on the way to a value: the name of a field, or a place in a list. -/
inductive Step
  | key (name : String)
  | index (i : Nat)
deriving DecidableEq

/-- A problem and the way to the value that has it. -/
structure Complaint where
  location : List Step
  problem : Problem
deriving DecidableEq

/-- A checked value, or all complaints about it. -/
inductive Validated (α : Type)
  | valid (a : α)
  | invalid (complaints : List Complaint)

namespace Validated

variable {α β : Type}

/-- The value with a function applied to it. -/
def map (f : α → β) : Validated α → Validated β
  | valid a => valid (f a)
  | invalid cs => invalid cs

/-- Two values checked both, the complaints of the first ahead. -/
def seq (f : Validated (α → β)) (x : Unit → Validated α) : Validated β :=
  match f, x () with
  | valid f, valid a => valid (f a)
  | valid _, invalid cs => invalid cs
  | invalid cs, valid _ => invalid cs
  | invalid cs, invalid ds => invalid (cs ++ ds)

instance : Applicative Validated where
  pure := valid
  seq := seq
  map := map

/-- A value with one problem. -/
def fail (p : Problem) : Validated α :=
  invalid [⟨[], p⟩]

/-- A check that goes on with a value that passed another. -/
def andThen (x : Validated α) (f : α → Validated β) : Validated β :=
  match x with
  | valid a => f a
  | invalid cs => invalid cs

/-- The value as the part of another that is reached by a step. -/
def under (step : Step) : Validated α → Validated α
  | valid a => valid a
  | invalid cs => invalid (cs.map fun c => { c with location := step :: c.location })

/-- All values of a list, checked in order. -/
def all : List (Validated α) → Validated (List α)
  | [] => valid []
  | x :: xs => List.cons <$> x <*> all xs

/-- The outcome, where complaints are a failure. -/
def toExcept : Validated α → Except (List Complaint) α
  | valid a => .ok a
  | invalid cs => .error cs

/-! ## Values without complaints -/

theorem map_eq_valid_iff {f : α → β} {x : Validated α} {b : β} :
    f <$> x = valid b ↔ ∃ a, x = valid a ∧ f a = b := by
  show map f x = valid b ↔ _
  cases x <;> simp [map]

/-- Two values that are checked both are valid if each of them is. -/
theorem seq_eq_valid_iff {f : Validated (α → β)} {x : Validated α} {b : β} :
    f <*> x = valid b ↔ ∃ g a, f = valid g ∧ x = valid a ∧ g a = b := by
  show seq f (fun _ => x) = valid b ↔ _
  cases f <;> cases x <;> simp [seq]

theorem under_eq_valid_iff {step : Step} {x : Validated α} {a : α} :
    x.under step = valid a ↔ x = valid a := by
  cases x <;> simp [under]

end Validated

end VestingTable
