import VestingTable.Calendar.Date

/-!
# Times of day and moments

A moment is a date with a time of day, to the microsecond, and possibly the
offset of a time zone, to the microsecond too. Without an offset it is meant in
coordinated universal time.

`DateTime.seconds` is the time of a moment as tables count it: the seconds since
1970-01-01, as a binary64 number, without its fraction.
-/

namespace VestingTable

/-- A time of day. -/
structure TimeOfDay where
  hour : Nat
  minute : Nat
  second : Nat
  microsecond : Nat
  isTime : (hour < 24 ∧ minute < 60) ∧ second < 60 ∧ microsecond < 1000000 := by decide
deriving DecidableEq

namespace TimeOfDay

/-- The time of an hour, a minute, a second and a microsecond. -/
def of? (hour minute second microsecond : Nat) : Option TimeOfDay :=
  if h : (hour < 24 ∧ minute < 60) ∧ second < 60 ∧ microsecond < 1000000 then
    some ⟨hour, minute, second, microsecond, h⟩
  else none

/-- The start of a day. -/
def midnight : TimeOfDay :=
  ⟨0, 0, 0, 0, by decide⟩

/-- The whole seconds since the start of the day. -/
def seconds (t : TimeOfDay) : Nat :=
  3600 * t.hour + 60 * t.minute + t.second

/-- The microseconds since the start of the day. -/
def microseconds (t : TimeOfDay) : Nat :=
  1000000 * t.seconds + t.microsecond

/-- The time so many milliseconds after the start of the day. -/
def ofMilliseconds? (n : Nat) : Option TimeOfDay :=
  of? (n / 3600000) (n / 60000 % 60) (n / 1000 % 60) (n % 1000 * 1000)

/-- The time as it is written, with a fraction of six digits if there is one. -/
def text (t : TimeOfDay) : String :=
  Numeral.padded 2 t.hour ++ ":" ++ Numeral.padded 2 t.minute ++ ":" ++ Numeral.padded 2 t.second ++
    if t.microsecond = 0 then "" else "." ++ Numeral.padded 6 t.microsecond

/-- The microseconds of a fraction of a second. -/
def fraction? (cs : List Char) : Option Nat :=
  if cs.isEmpty then none else Date.digits? 6 ((cs ++ Text.zeroDigits (6 - cs.length)).take 6)

/-- The time that a text denotes; seconds and their fraction may be missing. -/
def ofChars? (cs : List Char) : Option TimeOfDay :=
  match cs.splitOn ':' with
  | [h, m] => do of? (← Date.digits? 2 h) (← Date.digits? 2 m) 0 0
  | [h, m, s] => do
    let microsecond ← if s.length ≤ 2 then pure 0 else
      if s[2]? = some '.' then fraction? (s.drop 3) else none
    of? (← Date.digits? 2 h) (← Date.digits? 2 m) (← Date.digits? 2 (s.take 2)) microsecond
  | _ => none

/-- The time that a text denotes. -/
def ofText? (s : String) : Option TimeOfDay :=
  ofChars? s.toList

end TimeOfDay

/-- A moment: a date, a time of day and the offset of its time zone in microseconds. -/
structure DateTime where
  date : Date
  time : TimeOfDay
  offset : Option Int := none
deriving DecidableEq

namespace DateTime

/-- The microseconds from 1970-01-01T00:00:00 in universal time to a moment. -/
def microseconds (m : DateTime) : Int :=
  1000000 * (86400 * m.date.dayNumber) + m.time.microseconds - m.offset.getD 0

/-- The seconds from 1970-01-01T00:00:00 in universal time to a moment: they are held as a binary64
    number and lose their fraction. -/
def seconds (m : DateTime) : Int :=
  ((Binary64.ofRat (mkRat m.microseconds 1000000)).toRat?.map truncate).getD 0

/-- The offset of a time zone as it is written, with a second and a fraction of it if there are
    any. -/
def offsetText (offset : Int) : String :=
  let n := offset.natAbs / 1000000
  let fraction := offset.natAbs % 1000000
  (if offset < 0 then "-" else "+") ++ Numeral.padded 2 (n / 3600) ++ ":" ++
    Numeral.padded 2 (n / 60 % 60) ++
    (if n % 60 = 0 ∧ fraction = 0 then "" else ":" ++ Numeral.padded 2 (n % 60)) ++
    if fraction = 0 then "" else "." ++ Numeral.padded 6 fraction

/-- The moment as it is written, with a text between its date and its time. -/
def textWith (between : String) (m : DateTime) : String :=
  m.date.text ++ between ++ m.time.text ++ (m.offset.map offsetText).getD ""

/-- The moment in the form of ISO 8601. -/
def isoText (m : DateTime) : String :=
  m.textWith "T"

/-- The moment as it is written in a text cell. -/
def text (m : DateTime) : String :=
  m.textWith " "

/-- The offset that a text after its sign denotes. One of less than a second counts as none. -/
def offset? (negative : Bool) (cs : List Char) : Option Int :=
  (TimeOfDay.ofChars? cs).map fun t =>
    if t.seconds = 0 then 0
    else if negative then -Int.ofNat t.microseconds
    else t.microseconds

/-- The moment that a text in the form of ISO 8601 denotes. -/
def ofText? (s : String) : Option DateTime := do
  let cs := s.toList
  let date ← Date.ofText? (String.ofList (cs.take 10))
  let rest := cs.drop 11
  let clock := rest.takeWhile fun c => c ≠ '+' ∧ c ≠ '-' ∧ c ≠ 'Z'
  let time ← if cs.length ≤ 10 then pure TimeOfDay.midnight else TimeOfDay.ofChars? clock
  let offset ← match rest.drop clock.length with
    | '+' :: zone => (offset? false zone).map some
    | '-' :: zone => (offset? true zone).map some
    | ['Z'] => pure (some 0)
    | _ => pure none
  return ⟨date, time, offset⟩

end DateTime

end VestingTable
