import VestingTable.Record
import VestingTable.Text.Utf8

/-!
# Failures

All that can go wrong, each failure with its cause: the message, the details
and the category follow from it.

* `Failure.category` tells the failures of the program itself from those of
  what it rests on, such as a numeral that is too long or a file name that is;
* `Failure.message` is the text of a failure. A text that would have to spell a
  number of more than `Numeral.maxDigits` digits cannot be written:
  `Failure.raised` is the failure that arises in its place.
-/

namespace VestingTable

/-- What can be wrong with a cell. -/
inductive CellFault
  | boolean
  | fraction (shown : String)
  | rounded
  | noInteger (shown : String)
  | negative (n : Int)
  | noNumber (shown : String)
deriving DecidableEq

/-- What is wrong with a cell, in words. -/
def CellFault.text : CellFault → String
  | boolean => " must be a number, got a boolean"
  | fraction shown => " must be a whole number, got " ++ shown
  | rounded =>
    " was stored as a floating point number and may have lost digits; enter it as text"
  | noInteger shown => " is not an integer: " ++ shown
  | negative n => " must not be negative, got " ++ Numeral.ofInt n
  | noNumber shown => " is not a number: " ++ shown

/-- What the system says about a path. -/
inductive PathFault
  | alreadyThere
  | notADirectory
  | nameTooLong
  | missing
deriving DecidableEq

/-- The number and the words of a fault. -/
def PathFault.text : PathFault → String
  | alreadyThere => "[Errno 17] File exists: "
  | notADirectory => "[Errno 20] Not a directory: "
  | nameTooLong => "[Errno 36] File name too long: "
  | missing => "[Errno 2] No such file or directory: "

/-- What can go wrong. -/
inductive Failure
  /-- A cell does not hold a value of its column's field. -/
  | cell (row : Option Int) (field : Field) (fault : CellFault) (shown : String)
  /-- A record, an account, a pool, a schedule or settings that did not pass validation. -/
  | invalid (complaints : List Complaint)
  /-- A numeral that is too long, to be read with so many digits or to be written. -/
  | longNumeral (digits : Option Nat)
  /-- An infinity where an integer is meant. -/
  | infiniteInteger
  /-- An integer that is too large to be held. -/
  | hugeInteger
  /-- A NaN that cannot be compared. -/
  | signalingNaN
  /-- The row of the grand total lacks one of its two values. -/
  | totalIncomplete (row : Int) (total subtotal : Option Nat)
  /-- The two values of the grand total differ. -/
  | totalUnequal (row : Int) (total subtotal : Nat)
  /-- A pool or an account comes before the grand total. -/
  | beforeTotal (row : Int) (pool : Bool) (headerRow : Int)
  /-- The pools add up to more than the grand total. -/
  | totalExceeded (row : Int) (poolsTotal total : Nat)
  /-- The accounts of a pool do not add up to it. -/
  | poolUnbalanced (row : Int) (pool : String) (accountsTotal expected : Nat)
  /-- An account comes before any pool. -/
  | outsidePool (row : Int) (name : String)
  /-- No row was the grand total. -/
  | totalMissing (headerRow : Int) (rowsSeen : Nat)
  /-- The open pool went with the schedule that a second grand total replaced. -/
  | poolGone
  /-- A schedule with an amount that is too long to be written. -/
  | longAmount
  /-- An indentation by less than nothing. -/
  | negativeIndent
  /-- An indentation by more blanks than a machine word counts. -/
  | hugeIndent
  /-- An indentation by more blanks than a block of memory may hold. -/
  | wideIndent
  /-- A text that is not a schedule. -/
  | invalidSchedule (complaints : List Complaint)
  | fileNotFound (path : String)
  | unsupportedFile (suffix path : String)
  | unreadableTable (name path : String) (sheet : Option String)
  | exportFailed (path : String)
  | badPath (fault : PathFault) (path : String)
  /-- A path with a NUL character. -/
  | nullInPath
  /-- A file of settings that is not UTF-8. -/
  | undecodable (fault : Text.Utf8Fault)
  | invalidConfiguration (complaints : List Complaint)
  | conversionFailed (path : String)
deriving DecidableEq

/-- A detail of a failure. -/
inductive Detail
  | none
  | number (n : Int)
  | text (s : String)
deriving DecidableEq

namespace Failure

/-- What a failure concerns. -/
inductive Category
  | structural
  | invariant
  | parsing
  | dataNotFound
  | exporting
  | configuration
  | processing
  | validation
  | numeral
  | overflow
  | memory
  | index
  | arithmetic
  | serialization
  | panic
  | decoding
  | fileExists
  | notADirectory
  | fileNotFound
  | system
deriving DecidableEq

/-- What a failure concerns, by its cause. -/
def category : Failure → Category
  | totalIncomplete .. | beforeTotal .. | outsidePool .. | totalMissing .. => .structural
  | totalUnequal .. | totalExceeded .. | poolUnbalanced .. => .invariant
  | cell .. | invalidSchedule _ | unsupportedFile .. | unreadableTable .. => .parsing
  | fileNotFound _ => .dataNotFound
  | exportFailed _ => .exporting
  | invalidConfiguration _ => .configuration
  | conversionFailed _ => .processing
  | invalid _ => .validation
  | longNumeral _ | nullInPath => .numeral
  | infiniteInteger | negativeIndent | hugeIndent => .overflow
  | hugeInteger => .memory
  | poolGone => .index
  | signalingNaN => .arithmetic
  | longAmount => .serialization
  | wideIndent => .panic
  | undecodable _ => .decoding
  | badPath .alreadyThere _ => .fileExists
  | badPath .notADirectory _ => .notADirectory
  | badPath .missing _ => .fileNotFound
  | badPath .nameTooLong _ => .system

/-- The failure is one of the program itself, and has details. -/
def isOwn (f : Failure) : Bool :=
  match f.category with
  | .structural | .invariant | .parsing | .dataNotFound | .exporting | .configuration
  | .processing => true
  | _ => false

/-- The law of the table that a failure found broken. -/
def invariant? : Failure → Option String
  | totalUnequal .. => some "schedule_total"
  | totalExceeded .. => some "total_bound"
  | poolUnbalanced .. => some "pool_total"
  | _ => none

/-- The row of a failure of the builder. -/
def row? : Failure → Option Int
  | totalIncomplete row .. | totalUnequal row .. | beforeTotal row .. | totalExceeded row ..
  | poolUnbalanced row .. | outsidePool row _ | totalMissing row _ => some row
  | _ => none

/-- A row as a message names it. -/
def rowText : Option Int → String
  | some row => "row " ++ Numeral.ofInt row
  | none => "row None"

/-- The text of a failure. -/
def message : Failure → String
  | cell row field fault _ => rowText row ++ ": " ++ field.key ++ fault.text
  | invalid _ | hugeInteger => ""
  | longNumeral (some digits) =>
    "Exceeds the limit (4300 digits) for integer string conversion: value has " ++
      Numeral.ofNat digits ++ " digits; use sys.set_int_max_str_digits() to increase the limit"
  | longNumeral none => Problem.unwritableText
  | infiniteInteger => "cannot convert Infinity to integer"
  | signalingNaN => "[<class 'decimal.InvalidOperation'>]"
  | totalIncomplete row .. => rowText row ++ " (schedule total): expected both total and subtotal"
  | totalUnequal row total subtotal =>
    rowText row ++ " (schedule total): total must equal subtotal (total " ++ Numeral.ofNat total ++
      ", subtotal " ++ Numeral.ofNat subtotal ++ ")"
  | beforeTotal row pool headerRow =>
    rowText row ++ " (" ++ (if pool then "pool" else "account") ++
      "): appears before the schedule total row " ++ Numeral.ofInt headerRow
  | totalExceeded row poolsTotal total =>
    rowText row ++ " (pool): subtotals must not add up to more than total (" ++
      Numeral.ofNat poolsTotal ++ " > " ++ Numeral.ofNat total ++ ")"
  | poolUnbalanced row _ accountsTotal expected =>
    rowText row ++ " (pool): previous pool's subtotal was " ++ Numeral.ofNat accountsTotal ++
      " (expected " ++ Numeral.ofNat expected ++ ")"
  | outsidePool row name =>
    rowText row ++ " (account): account '" ++ name ++ "' appears before any pool"
  | totalMissing headerRow _ => "schedule total row " ++ Numeral.ofInt headerRow ++ " not found"
  | poolGone => "list index out of range"
  | longAmount => "Error calling function `str`: ValueError: " ++ Problem.unwritableText
  | negativeIndent => "can't convert negative int to unsigned"
  | hugeIndent => "int too big to convert"
  | wideIndent => "capacity overflow"
  | invalidSchedule _ => "Invalid serialized schedule"
  | fileNotFound path => "File not found: " ++ path
  | unsupportedFile suffix _ =>
    "Unsupported file type: " ++ if suffix.isEmpty then "(none)" else suffix
  | unreadableTable name .. => "Could not read schedule table from " ++ name
  | exportFailed _ => "Failed to export schedule"
  | badPath fault path => fault.text ++ Text.quoted path
  | nullInPath => "embedded null byte"
  | undecodable fault => fault.message
  | invalidConfiguration _ => "Invalid configuration"
  | conversionFailed _ => "Failed to convert schedule table"

/-- A number that may be absent, as a detail. -/
def numberDetail (n : Option Nat) : Detail :=
  match n with
  | some n => .number n
  | none => .none

/-- The details of a failure of the program itself, in their order. -/
def details : Failure → List (String × Detail)
  | cell row field _ shown =>
    [("row", match row with | some row => .number row | none => .none),
     ("field", .text field.key), ("value", .text shown)]
  | totalIncomplete row total subtotal =>
    [("row", .number row), ("total", numberDetail total), ("subtotal", numberDetail subtotal)]
  | totalUnequal row total subtotal =>
    [("row", .number row), ("total", .number total), ("subtotal", .number subtotal)]
  | beforeTotal row _ headerRow => [("row", .number row), ("header_row", .number headerRow)]
  | totalExceeded row poolsTotal total =>
    [("row", .number row), ("pools_total", .number poolsTotal), ("total", .number total)]
  | poolUnbalanced row pool accountsTotal expected =>
    [("row", .number row), ("pool", .text pool), ("accounts_total", .number accountsTotal),
     ("expected", .number expected)]
  | outsidePool row name => [("row", .number row), ("name", .text name)]
  | totalMissing headerRow rowsSeen =>
    [("header_row", .number headerRow), ("rows_seen", .number rowsSeen)]
  | fileNotFound path => [("file_path", .text path)]
  | unsupportedFile _ path => [("file_path", .text path)]
  | unreadableTable _ path sheet =>
    [("file_path", .text path), ("sheet_name", match sheet with | some s => .text s | none => .none)]
  | exportFailed path => [("output_path", .text path)]
  | conversionFailed path => [("file_path", .text path)]
  | _ => []

/-- The complaints that a failure carries. -/
def complaints? : Failure → Option (List Complaint)
  | invalid cs | invalidSchedule cs | invalidConfiguration cs => some cs
  | _ => none

/-- The details of the failure quote the system too, whose words are not kept. -/
def quotesSystem : Failure → Bool
  | unreadableTable .. | exportFailed _ | conversionFailed _ => true
  | _ => false

/-- The numbers that the text of a failure spells. -/
def spelled : Failure → List Int
  | cell row _ (.negative n) _ => row.toList ++ [n]
  | cell row .. => row.toList
  | totalIncomplete row .. => [row]
  | totalUnequal row total subtotal => [row, total, subtotal]
  | beforeTotal row _ headerRow => [row, headerRow]
  | totalExceeded row poolsTotal total => [row, poolsTotal, total]
  | poolUnbalanced row _ accountsTotal expected => [row, accountsTotal, expected]
  | outsidePool row _ => [row]
  | totalMissing headerRow _ => [headerRow]
  | _ => []

/-- The failure that arises: the given one if its text can be written. -/
def raised (f : Failure) : Failure :=
  if ∀ n ∈ f.spelled, Numeral.Fits n then f else longNumeral none

theorem raised_of_fits {f : Failure} (h : ∀ n ∈ f.spelled, Numeral.Fits n) : f.raised = f :=
  if_pos h

theorem raised_of_not_fits {f : Failure} {n : Int} (hn : n ∈ f.spelled) (h : ¬ Numeral.Fits n) :
    f.raised = longNumeral none :=
  if_neg fun all => h (all n hn)

end Failure

/-- The texts that spell some numbers can be written. -/
def Numeral.spell (ns : List Int) : Except Failure Unit :=
  if ∀ n ∈ ns, Fits n then .ok () else .error (.longNumeral none)

theorem Numeral.spell_eq_ok_iff {ns : List Int} : spell ns = .ok () ↔ ∀ n ∈ ns, Fits n := by
  unfold spell
  split <;> simp_all

/-- The text of one number can be written, or the number is too long. -/
theorem Numeral.spell_singleton (n : Int) :
    spell [n] = if Fits n then .ok () else .error (.longNumeral none) := by
  simp [spell]

theorem Numeral.spell_eq_error_iff {ns : List Int} {f : Failure} :
    spell ns = .error f ↔ (∃ n ∈ ns, ¬ Fits n) ∧ f = .longNumeral none := by
  unfold spell
  split
  · next h => simpa using fun n hn long => absurd (h n hn) long
  · next h =>
    obtain ⟨n, hn, long⟩ : ∃ n, n ∈ ns ∧ ¬ Fits n := by simpa using h
    exact ⟨fun hf => ⟨⟨n, hn, long⟩, (Except.error.inj hf).symm⟩, fun hf => by rw [hf.2]⟩

end VestingTable
