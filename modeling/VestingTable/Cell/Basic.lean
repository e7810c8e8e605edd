import VestingTable.Text.Blank
import VestingTable.Binary64.Shortest
import VestingTable.Calendar.DateTime

/-!
# Cells

What one cell of a table may hold, as the readers deliver it: nothing, a text,
a number in one of three forms, a truth value, a date or a time. There are two
more marks of a missing value, and a cell may itself hold a list.

A cell is *blank* if it shows nothing: it is missing, or its text has no
character that is not blank. A list is an array of its parts, as deep as all
its parts agree in shape, but no deeper than `maxDimensions`; it is blank if that
array has one element, which is missing. A signaling NaN cannot be compared, so a cell with one is neither.
-/

namespace VestingTable

/-- The content of a cell. -/
inductive Cell
  | empty
  | boolean (b : Bool)
  | integer (n : Int)
  | float (x : Binary64)
  | decimal (d : ExtendedDecimal)
  | text (s : String)
  | date (d : Date)
  | time (t : TimeOfDay)
  | dateTime (m : DateTime)
  /-- A missing moment. -/
  | notATime
  /-- A missing value of any kind. -/
  | notAvailable
  | list (parts : List Cell)
deriving Inhabited

namespace Cell

/-- The cell is a mark of a missing value. -/
def isMissing : Cell → Bool
  | empty | notATime | notAvailable | float .nan | decimal (.nan _ false _) => true
  | _ => false

/-- The cell is a NaN that cannot be compared. -/
def isSignaling : Cell → Bool
  | decimal (.nan _ true _) => true
  | _ => false

/-- The longest common start of two shapes. -/
def commonStart : List Nat → List Nat → List Nat
  | m :: ms, n :: ns => if m = n then m :: commonStart ms ns else []
  | _, _ => []

mutual

/-- The lengths of a cell as an array. -/
def shape : Cell → List Nat
  | list parts => parts.length :: sharedShape parts
  | _ => []

/-- The lengths in which all cells of a list agree. -/
def sharedShape : List Cell → List Nat
  | [] => []
  | [c] => shape c
  | c :: cs => commonStart (shape c) (sharedShape cs)

end

/-- The most dimensions of an array. -/
def maxDimensions : Nat := 64

/-- The number of dimensions of a cell as an array. -/
def dimensions (c : Cell) : Nat :=
  min c.shape.length maxDimensions

/-- The elements of a cell as an array of so many dimensions. -/
def elements : Nat → Cell → List Cell
  | n + 1, list parts => parts.flatMap (elements n)
  | _, c => [c]

/-- The cell shows nothing. There is no answer on a signaling NaN. -/
def isBlank? : Cell → Option Bool
  | text s => some (Text.trim s.toList).isEmpty
  | c =>
    let elements := c.elements c.dimensions
    if elements.any isSignaling then none
    else some (match elements with
      | [element] => element.isMissing
      | _ => false)

end Cell

end VestingTable
