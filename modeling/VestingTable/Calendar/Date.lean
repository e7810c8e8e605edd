import VestingTable.Decimal

/-!
# Dates

The dates of the Gregorian calendar from the year 1 to the year 9999. A date is
counted by its days since 1970-01-01 (`dayNumber`), which `ofDayNumber?` undoes
within the calendar.
-/

namespace VestingTable

/-- The leap years of the Gregorian calendar. -/
def IsLeapYear (year : Nat) : Prop :=
  year % 4 = 0 ∧ (year % 100 ≠ 0 ∨ year % 400 = 0)

instance (year : Nat) : Decidable (IsLeapYear year) :=
  inferInstanceAs (Decidable (_ ∧ _))

/-- The number of days of a month. -/
def daysInMonth (year : Nat) : Nat → Nat
  | 2 => if IsLeapYear year then 29 else 28
  | 4 | 6 | 9 | 11 => 30
  | _ => 31

/-- A year, a month and a day make up a date. -/
def IsDate (year month day : Nat) : Prop :=
  (1 ≤ year ∧ year ≤ 9999) ∧ (1 ≤ month ∧ month ≤ 12) ∧ 1 ≤ day ∧ day ≤ daysInMonth year month

instance (year month day : Nat) : Decidable (IsDate year month day) :=
  inferInstanceAs (Decidable (_ ∧ _ ∧ _ ∧ _))

/-- A date of the Gregorian calendar. -/
structure Date where
  year : Nat
  month : Nat
  day : Nat
  isDate : IsDate year month day := by decide
deriving DecidableEq

namespace Date

/-- The date of a year, a month and a day. -/
def of? (year month day : Nat) : Option Date :=
  if h : IsDate year month day then some ⟨year, month, day, h⟩ else none

/-- The days before the first of January of a year, from the year 1 on. -/
def daysBeforeYear (year : Nat) : Nat :=
  365 * (year - 1) + (year - 1) / 4 - (year - 1) / 100 + (year - 1) / 400

/-- The days of a year before the first of a month. -/
def daysBeforeMonth (year : Nat) : Nat → Nat
  | 0 | 1 => 0
  | month + 2 => daysBeforeMonth year (month + 1) + daysInMonth year (month + 1)

/-- The number of a date, where the first day of the year 1 has the number 1. -/
def ordinal (d : Date) : Nat :=
  daysBeforeYear d.year + daysBeforeMonth d.year d.month + d.day

/-- The ordinal of 1970-01-01. -/
def epochOrdinal : Nat := 719163

/-- The days from 1970-01-01 to a date. -/
def dayNumber (d : Date) : Int :=
  d.ordinal - epochOrdinal

/-- The date of an ordinal. The year is found by its mean length, give or take one. -/
def ofOrdinal? (ordinal : Nat) : Option Date := do
  let guess := ordinal * 400 / 146097 + 1
  let year ← [guess + 1, guess, guess - 1].find? (daysBeforeYear · < ordinal)
  let inYear := ordinal - daysBeforeYear year
  let month ← (List.range 13).reverse.find? (daysBeforeMonth year · < inYear)
  of? year month (inYear - daysBeforeMonth year month)

/-- The date so many days after 1970-01-01. -/
def ofDayNumber? (n : Int) : Option Date :=
  if 0 < n + epochOrdinal then ofOrdinal? (n + epochOrdinal).toNat else none

/-- The date as it is written: the year, the month and the day between hyphens. -/
def text (d : Date) : String :=
  Numeral.padded 4 d.year ++ "-" ++ Numeral.padded 2 d.month ++ "-" ++ Numeral.padded 2 d.day

/-- The number that a text of so many digits denotes. -/
def digits? (width : Nat) (cs : List Char) : Option Nat :=
  if cs.length = width ∧ cs.all Char.isDigit then
    (Numeral.digitValues? cs).map Numeral.value
  else none

/-- The date that a text denotes. -/
def ofText? (s : String) : Option Date :=
  match s.toList.splitOn '-' with
  | [y, m, d] => do of? (← digits? 4 y) (← digits? 2 m) (← digits? 2 d)
  | _ => none

end Date

end VestingTable
