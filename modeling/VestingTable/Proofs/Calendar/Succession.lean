import Mathlib.Tactic.Common
import VestingTable.Calendar.Date

/-!
# One day after the other

Which date is the next one can be told without counting: the next day of the month, or the first
of the next month behind the last day of one, or the first of January behind the end of a year
(`Date.IsNext`). A count of the dates that starts at 1970-01-01 and goes up evenly with each next
date (`Date.IsDayCount`) is therefore given by the numbers of the days, and is the only one
(`Date.isDayCount_iff`).
-/

namespace VestingTable

namespace Date

/-- The next date of the calendar. -/
inductive IsNext (d e : Date) : Prop
  | day (year : e.year = d.year) (month : e.month = d.month) (day : e.day = d.day + 1)
  | month (last : d.day = daysInMonth d.year d.month) (year : e.year = d.year)
    (month : e.month = d.month + 1) (day : e.day = 1)
  | year (last : d.month = 12 ∧ d.day = 31) (year : e.year = d.year + 1) (month : e.month = 1)
    (day : e.day = 1)

/-- The first date of the calendar. -/
def first : Date := ⟨1, 1, 1, by decide⟩

/-- The date from which the days are counted. -/
def epoch : Date := ⟨1970, 1, 1, by decide⟩

/-- A count of the seconds from 1970-01-01 to the start of a date: it is 0 at its own start and
    goes up by those of a day to each next date. -/
structure IsDayCount (count : Date → Int) : Prop where
  epoch : count epoch = 0
  next : ∀ d e : Date, d.IsNext e → count e = count d + 86400

variable {d e : Date}

/-! ## Next dates -/

/-- A month is as long as the days ahead of the next one tell. -/
theorem daysBeforeMonth_succ (year : Nat) {month : Nat} (h : 1 ≤ month) :
    daysBeforeMonth year (month + 1) = daysBeforeMonth year month + daysInMonth year month := by
  obtain ⟨month, rfl⟩ := Nat.exists_eq_add_of_le' h
  rfl

theorem daysInMonth_pos (year month : Nat) : 1 ≤ daysInMonth year month := by
  unfold daysInMonth
  split <;> (try split) <;> omega

/-- The leap days up to a year. -/
theorem leapDays_succ (k : Nat) :
    (k + 1) / 4 - (k + 1) / 100 + (k + 1) / 400 =
      k / 4 - k / 100 + k / 400 + (if IsLeapYear (k + 1) then 1 else 0) := by
  have four := Nat.succ_div (a := k) (b := 4)
  have hundred := Nat.succ_div (a := k) (b := 100)
  have fourHundred := Nat.succ_div (a := k) (b := 400)
  simp only [Nat.dvd_iff_mod_eq_zero] at four hundred fourHundred
  rw [four, hundred, fourHundred]
  unfold IsLeapYear
  by_cases h4 : (k + 1) % 4 = 0
  · by_cases h100 : (k + 1) % 100 = 0
    · by_cases h400 : (k + 1) % 400 = 0
      · simp only [h4, h100, h400, if_true, ne_eq, not_true_eq_false, or_true, and_true]
        omega
      · simp only [h4, h100, h400, if_true, if_false, ne_eq, not_true_eq_false, or_self, and_false]
        omega
    · have h400 : (k + 1) % 400 ≠ 0 := by omega
      simp only [h4, h100, h400, if_true, if_false, ne_eq, not_false_eq_true, true_or, and_true]
      omega
  · have h100 : (k + 1) % 100 ≠ 0 := by omega
    have h400 : (k + 1) % 400 ≠ 0 := by omega
    simp only [h4, h100, h400, if_false, false_and, Nat.add_zero]

/-- A year has 365 days, or 366 in a leap year. -/
theorem daysBeforeYear_succ {year : Nat} (h : 1 ≤ year) :
    daysBeforeYear (year + 1) = daysBeforeYear year + daysBeforeMonth year 12 + 31 := by
  obtain ⟨k, rfl⟩ := Nat.exists_eq_add_of_le' h
  have months : daysBeforeMonth (k + 1) 12 = 334 + if IsLeapYear (k + 1) then 1 else 0 := by
    simp only [daysBeforeMonth, daysInMonth]
    split <;> rfl
  have leap := leapDays_succ k
  have hundreds : k / 100 ≤ k / 4 := by omega
  have hundreds' : (k + 1) / 100 ≤ (k + 1) / 4 := by omega
  rw [months]
  simp only [daysBeforeYear, Nat.add_sub_cancel]
  generalize (if IsLeapYear (k + 1) then 1 else 0) = leapDay at leap ⊢
  generalize k / 4 = a, k / 100 = b, k / 400 = c at leap hundreds ⊢
  generalize (k + 1) / 4 = a', (k + 1) / 100 = b', (k + 1) / 400 = c' at leap hundreds' ⊢
  omega

/-- The ordinal of a date is one less than that of the next. -/
theorem IsNext.ordinal_eq (h : d.IsNext e) : e.ordinal = d.ordinal + 1 := by
  obtain ⟨⟨hyear, -⟩, ⟨hmonth, -⟩, -⟩ := d.isDate
  unfold ordinal
  cases h with
  | day year month day => rw [year, month, day, Nat.add_assoc _ d.day]
  | month last year month day =>
    rw [year, month, day, daysBeforeMonth_succ _ hmonth, ← last, Nat.add_assoc _ _ d.day]
  | year last year month day =>
    rw [year, month, day, daysBeforeYear_succ hyear, last.1, last.2, daysBeforeMonth.eq_2,
      Nat.add_zero]

theorem IsNext.dayNumber_eq (h : d.IsNext e) : e.dayNumber = d.dayNumber + 1 := by
  have := h.ordinal_eq
  unfold dayNumber
  omega

/-- Every date but the first is the next one to another. -/
theorem exists_isNext (h : e ≠ first) : ∃ d : Date, d.IsNext e := by
  obtain ⟨year, month, day, isDate⟩ := e
  obtain ⟨⟨hyear, hyear'⟩, ⟨hmonth, hmonth'⟩, hday, hday'⟩ := isDate
  rcases Nat.lt_or_eq_of_le hday with hlt | rfl
  · exact ⟨⟨year, month, day - 1, ⟨hyear, hyear'⟩, ⟨hmonth, hmonth'⟩, by omega, by omega⟩,
      .day rfl rfl (by dsimp only; omega)⟩
  rcases Nat.lt_or_eq_of_le hmonth with hlt | rfl
  · exact ⟨⟨year, month - 1, daysInMonth year (month - 1), ⟨hyear, hyear'⟩, ⟨by omega, by omega⟩,
      daysInMonth_pos _ _, Nat.le_refl _⟩, .month rfl rfl (by dsimp only; omega) rfl⟩
  rcases Nat.lt_or_eq_of_le hyear with hlt | rfl
  · exact ⟨⟨year - 1, 12, 31, ⟨by omega, by omega⟩, by decide, by decide, Nat.le_refl _⟩,
      .year ⟨rfl, rfl⟩ (by dsimp only; omega) rfl rfl⟩
  · exact absurd rfl h

/-! ## Counts -/

/-- What is kept from each date to the next is the same for all dates. -/
theorem eq_first_of_next {α : Type} {f : Date → α} (h : ∀ d e : Date, d.IsNext e → f e = f d)
    (e : Date) : f e = f first := by
  -- The induction is on the number of the date.
  induction hn : e.ordinal using Nat.strongRecOn generalizing e with
  | _ n ih =>
    by_cases hfirst : e = first
    · rw [hfirst]
    · obtain ⟨d, hd⟩ := exists_isNext hfirst
      have := hd.ordinal_eq
      rw [h d e hd]
      exact ih d.ordinal (by omega) d rfl

/-- The days of the calendar are counted by their numbers, and in no other way. -/
theorem isDayCount_iff {count : Date → Int} :
    IsDayCount count ↔ ∀ d, count d = 86400 * d.dayNumber := by
  constructor
  · intro h d
    have same := eq_first_of_next (f := fun d => count d - 86400 * d.dayNumber) fun d e hnext => by
      rw [h.next d e hnext, hnext.dayNumber_eq]
      omega
    have zero : count epoch - 86400 * epoch.dayNumber = 0 := by
      rw [h.epoch]
      decide
    exact Int.sub_eq_zero.1 ((same d).trans ((same epoch).symm.trans zero))
  · intro h
    refine ⟨by rw [h]; decide, fun d e hnext => ?_⟩
    rw [h, h, hnext.dayNumber_eq]
    omega

end Date

end VestingTable
