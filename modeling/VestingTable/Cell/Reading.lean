import VestingTable.Cell.Text
import VestingTable.Failure

/-!
# Reading cells

What a cell says as the value of a field. A blank cell says nothing; any other
cell is read exactly or refused:

* an integer may be written in digits of any script with separators among them,
  be a number without a fraction, or a date, which counts as its seconds since
  1970-01-01. It is not negative. A float above `2 ^ 53` in size may have been
  rounded when it was stored and is refused (`Cell.readInteger`);
* a percentage may have percent signs behind it (`Cell.readPercent`);
* a text is taken without the blanks at its ends, and a number in its place as
  its numeral (`Cell.readText`).
-/

namespace VestingTable.Cell

/-- The cell shows nothing. -/
def blank (c : Cell) : Except Failure Bool :=
  match c.isBlank? with
  | some b => .ok b
  | none => .error .signalingNaN

/-- The cell as a message shows it. -/
def quoted (c : Cell) : Except Failure String :=
  match c.quoted? with
  | some s => .ok s
  | none => .error (.longNumeral none)

/-- The cell as a text. -/
def asText (c : Cell) : Except Failure String :=
  match c.text? with
  | some s => .ok s
  | none => .error (.longNumeral none)

/-! ## Integers -/

/-- The characters that may stand between the digits of an integer. -/
def separators : List Char :=
  [' ', ',', '_', '\u00a0', '\x27']

/-- The values of the digits of a numeral, which has one digit at least. -/
def someDigits? (cs : List Char) : Option (List Nat) :=
  if cs.isEmpty then none else Numeral.digitValues? cs

/-- The sign and the digits that a text has without its separators. -/
def signedDigits? (s : String) : Option (Bool × List Nat) :=
  match (Text.trim s.toList).filter fun c => !separators.contains c with
  | '-' :: cs => (someDigits? cs).map (true, ·)
  | cs => (someDigits? cs).map (false, ·)

/-- The integer of a sign and digits, of which there may not be too many. -/
def integerOfDigits (negative : Bool) (ds : List Nat) : Except Failure Int :=
  if Numeral.maxDigits < ds.length then .error (.longNumeral (some ds.length))
  else if negative then .ok (-Int.ofNat (Numeral.value ds))
  else .ok (Numeral.value ds)

/-- The greatest size up to which a float holds every integer. -/
def maxExact : Nat := Binary64.twoTo 53

/-- The integer that a cell denotes, of either sign, where `refuse` makes a failure of a fault. -/
def integer? (refuse : CellFault → Failure) (shown : String) : Cell → Except Failure Int
  | boolean _ => .error (refuse .boolean)
  | dateTime m => .ok m.seconds
  | date d => .ok (86400 * d.dayNumber)
  | integer n => .ok n
  | float x =>
    match x.toInt? with
    | none => .error (refuse (.fraction x.text))
    | some n => if maxExact < n.natAbs then .error (refuse .rounded) else .ok n
  | decimal (.finite d) =>
    if d.IsHeld then
      match d.toInt? with
      | none => .error (refuse (.fraction d.text))
      | some n => .ok n
    else .error .hugeInteger
  | decimal (.infinite _) => .error .infiniteInteger
  | text s =>
    match signedDigits? s with
    | none => .error (refuse (.noInteger shown))
    | some (negative, ds) => integerOfDigits negative ds
  | _ => .error (refuse (.noInteger shown))

/-- The failure of a cell of a column. -/
def refusal (row : Option Int) (field : Field) (shown : String) (fault : CellFault) : Failure :=
  Failure.raised (.cell row field fault shown)

/-- The integer of a column of amounts or times. -/
def readInteger (row : Option Int) (field : Field) (c : Cell) : Except Failure (Option Int) := do
  if ← c.blank then return none
  let shown ← c.quoted
  let refuse := refusal row field shown
  let n ← c.integer? refuse shown
  if n < 0 then .error (refuse (.negative n)) else return some n

/-! ## Percentages -/

/-- The text without blanks at its ends and percent signs behind it. -/
def percentText (s : String) : String :=
  String.ofList (Text.trim (Text.dropEnd (· = '%') (Text.trim s.toList)))

/-- The percentage of the column of percentages, which may be no finite number yet. -/
def readPercent (row : Option Int) (c : Cell) : Except Failure (Option ExtendedDecimal) := do
  if ← c.blank then return none
  match c with
  | boolean b => .error (refusal row .percentOfTotal (truthText b) .boolean)
  | _ =>
    match ExtendedDecimal.ofText? (percentText (← c.asText)) with
    | some d => return some d
    | none =>
      let shown ← c.quoted
      .error (refusal row .percentOfTotal shown (.noNumber shown))

/-! ## Texts -/

/-- A float without a fraction as an integer, and any other cell as it is. -/
def withoutFraction : Cell → Cell
  | float x => (x.toInt?.map integer).getD (float x)
  | c => c

/-- The text of a column of texts. -/
def readText (c : Cell) : Except Failure (Option String) := do
  if ← c.blank then return none
  return some (Text.strip (← c.withoutFraction.asText))

/-! ## By kind -/

/-- The value that a cell has in a column. -/
def read (row : Option Int) (field : Field) :
    (kind : FieldKind) → Cell → Except Failure (Option kind.Raw)
  | .amount, c | .time, c => c.readInteger row field
  | .percent, c => c.readPercent row
  | .text, c => c.readText

/-- A blank cell says nothing in any column. -/
theorem read_of_blank {c : Cell} (h : c.blank = .ok true) (row : Option Int) (field : Field)
    (kind : FieldKind) : c.read row field kind = .ok none := by
  cases kind
  case percent =>
    rw [read]
    unfold readPercent
    rw [h]
    rfl
  case text =>
    rw [read, readText, h]
    rfl
  all_goals
    rw [read, readInteger, h]
    rfl

end VestingTable.Cell
