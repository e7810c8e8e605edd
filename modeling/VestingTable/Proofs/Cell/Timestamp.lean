import VestingTable.Proofs.Binary64.Order
import VestingTable.Proofs.Calendar.Succession
import VestingTable.Proofs.Cell.Failing

/-!
# Times in columns of integers

A date in a column of integers stands for the seconds from 1970-01-01 to its start, and a moment
for those to it, in universal time. The seconds are counted by the calendar alone
(`Date.IsDayCount`). A moment is held as a binary64 number on the way, and is cut to whole seconds
(`DateTime.cut`), but the seconds of all dates are far from `2 ^ 53`, so

* whole seconds are exact, of either sign (`DateTime.cut_whole`), and
* of two moments in order the seconds are in order, even where the microseconds are rounded
  (`DateTime.cut_mono`).

`Cell.readInteger_times` says what a column makes of it. A clock without microseconds is not enough
for whole seconds, as a time zone may have some (`Cell.not_refused_brokenZone`).
-/

namespace VestingTable

namespace DateTime

variable {count : Date → Int} {m : DateTime} {u v t : Int}

/-- The offset of the time zone is less than a day. -/
def IsInZone (m : DateTime) : Prop :=
  ∀ offset ∈ m.offset, offset.natAbs < 86400000000

/-- The microseconds from 1970-01-01 to a moment in universal time, by a count of the seconds to
    the dates. -/
def instant (count : Date → Int) (m : DateTime) : Int :=
  (count m.date + m.time.seconds) * 1000000 + m.time.microsecond - m.offset.getD 0

/-- The whole seconds of so many microseconds, as they are held on the way. -/
def cut (u : Int) : Int :=
  ((Binary64.ofRat (mkRat u 1000000)).toRat?.map truncate).getD 0

/-- So many millions make as many ones. -/
theorem mkRat_million (n : Int) : mkRat (n * 1000000) 1000000 = n := by
  have extended := Rat.mkRat_mul_right (n := n) (d := 1) (a := 1000000) (by decide)
  rw [← Rat.mkRat_one]
  exact extended

theorem seconds_eq_cut (h : Date.IsDayCount count) (m : DateTime) :
    m.seconds = cut (m.instant count) := by
  have same : m.microseconds = m.instant count := by
    rw [microseconds, instant, TimeOfDay.microseconds, Date.isDayCount_iff.1 h]
    omega
  rw [seconds, same, cut]

/-- A moment is far from the limit up to which seconds are exact. -/
theorem natAbs_instant_lt (h : Date.IsDayCount count) (zone : m.IsInZone) :
    (m.instant count).natAbs < 2000000000000000000 := by
  have date := m.date.natAbs_seconds_lt
  have ⟨time, second, fraction⟩ := m.time.isTime
  have offset : (m.offset.getD 0).natAbs < 86400000000 := by
    cases hoffset : m.offset with
    | none => decide
    | some offset => exact zone offset hoffset
  rw [instant, Date.isDayCount_iff.1 h, TimeOfDay.seconds]
  omega

/-- Whole seconds are exact. -/
theorem cut_whole (small : t.natAbs ≤ Binary64.twoTo 53) : cut (t * 1000000) = t := by
  have held := Binary64.toRat?_ofInt small
  rw [Binary64.ofInt] at held
  rw [cut, mkRat_million, held, Option.map_some, Option.getD_some, truncate_intCast]

/-- The seconds of times in order are in order, where those of the later one are not negative. -/
theorem cut_mono (ordered : u ≤ v) (small : v ≤ (Binary64.twoTo 53 : Int) * 1000000)
    (hv : 0 ≤ cut v) : cut u ≤ cut v := by
  have quotients := mkRat_le_mkRat ordered 1000000
  by_cases hneg : mkRat u 1000000 < 0
  · -- A time ahead of 1970-01-01 is cut to no more than zero.
    refine le_trans ?_ hv
    rw [cut]
    cases hcut : (Binary64.ofRat (mkRat u 1000000)).toRat?.map truncate with
    | none => exact le_rfl
    | some n => exact Binary64.truncate_ofRat_nonpos hneg hcut
  · have limit : mkRat v 1000000 ≤ (Binary64.twoTo 53 : Int) :=
      mkRat_million _ ▸ mkRat_le_mkRat small 1000000
    obtain ⟨k, l, hk, hl, hle⟩ :=
      Binary64.truncate_ofRat_mono (not_lt.1 hneg) quotients limit
    rwa [cut, cut, hk, hl]

end DateTime

namespace Cell

variable {count : Date → Int} {c : Cell} {t u : Int}

/-- The cell denotes a time, so many microseconds from the start of 1970-01-01 in universal time: a
    date its own start, and a moment itself, where a time zone is less than a day ahead or
    behind. -/
inductive Denotes (count : Date → Int) : Cell → Int → Prop
  | date (d : Date) : Denotes count (.date d) (count d * 1000000)
  | dateTime (m : DateTime) (zone : m.IsInZone) : Denotes count (.dateTime m) (m.instant count)

/-- A clock without microseconds, in a time zone of whole seconds, denotes whole seconds. -/
theorem Denotes.of_whole {m : DateTime} {offset : Int} (zone : m.IsInZone)
    (clock : m.time.microsecond = 0) (whole : m.offset.getD 0 = offset * 1000000) :
    Denotes count (.dateTime m) ((count m.date + m.time.seconds - offset) * 1000000) := by
  have value : m.instant count = (count m.date + m.time.seconds - offset) * 1000000 := by
    rw [DateTime.instant, clock, whole]
    omega
  exact value ▸ .dateTime m zone

/-- Times are far from the limit up to which seconds are exact. -/
theorem Denotes.natAbs_lt (h : Date.IsDayCount count) (denotes : c.Denotes count u) :
    u.natAbs < 2000000000000000000 := by
  cases denotes with
  | date d =>
    have := d.natAbs_seconds_lt
    rw [Date.isDayCount_iff.1 h]
    omega
  | dateTime m zone => exact DateTime.natAbs_instant_lt h zone

/-- A column of integers takes the seconds of a time if they are not negative, and refuses the cell
    if they are: a parsing error names the row, the field and the cell, unless the number of the
    row cannot be written. -/
structure ReadsAs (c : Cell) (row : Option Int) (field : Field) (t : Int) : Prop where
  accepted : 0 ≤ t → c.readInteger row field = .ok (some t)
  refused : t < 0 → ∃ f shown, c.readInteger row field = .error f ∧ c.quoted? = some shown ∧
    f = Failure.raised (.cell row field (.negative t) shown) ∧
    ((∀ r ∈ row, Numeral.Fits r) → f = .cell row field (.negative t) shown)

/-- A cell is read as an integer that it holds in some form. -/
theorem readsAs_of_integer? {shown : String} (blank : c.blank = .ok false)
    (quoted : c.quoted? = some shown) (value : ∀ refuse, c.integer? refuse shown = .ok t)
    (fits : Numeral.Fits t) (row : Option Int) (field : Field) : c.ReadsAs row field t where
  accepted h := by
    rw [readInteger_eq_bind blank quoted, value, Except.bind, if_neg (not_lt.2 h)]
  refused h := by
    refine ⟨_, shown, ?_, quoted, rfl, fun hrow => ?_⟩
    · rw [readInteger_eq_bind blank quoted, value, Except.bind, if_pos h]
      rfl
    · exact refusal_of_fits hrow fun n hn => CellFault.negative.inj hn ▸ fits

/-- A cell that denotes a time is read as its seconds. -/
theorem Denotes.readsAs (h : Date.IsDayCount count) (denotes : c.Denotes count u)
    (row : Option Int) (field : Field) : c.ReadsAs row field (DateTime.cut u) := by
  cases denotes with
  | date d =>
    have small : (86400 * d.dayNumber).natAbs ≤ Binary64.twoTo 53 :=
      d.natAbs_seconds_lt.le.trans (by decide)
    rw [Date.isDayCount_iff.1 h, DateTime.cut_whole small]
    exact readsAs_of_integer? rfl rfl (fun _ => rfl) d.fits_seconds row field
  | dateTime m zone =>
    rw [← DateTime.seconds_eq_cut h]
    exact readsAs_of_integer? rfl rfl (fun _ => rfl) m.fits_seconds row field

theorem ReadsAs.eq_ok_iff {row : Option Int} {field : Field} (h : c.ReadsAs row field t)
    {n : Option Int} : c.readInteger row field = .ok n ↔ 0 ≤ t ∧ n = some t := by
  rcases lt_or_ge t 0 with hneg | hpos
  · obtain ⟨f, shown, hf, -⟩ := h.refused hneg
    rw [hf]
    exact iff_of_false (by simp) fun hpos => not_le.2 hneg hpos.1
  · rw [h.accepted hpos, Except.ok.injEq, eq_comm]
    exact (and_iff_right hpos).symm

/-- Cells that denote whole seconds are read as exactly these, cells that denote the same time are
    read alike, whatever their form, and the seconds of times are in the order of the times, even
    where they have microseconds. -/
theorem readInteger_times (h : Date.IsDayCount count) (row row' : Option Int)
    (field field' : Field) :
    (∀ (c : Cell) t, c.Denotes count (t * 1000000) → c.ReadsAs row field t) ∧
    (∀ (c c' : Cell) u, c.Denotes count u → c'.Denotes count u →
      ∀ n, c.readInteger row field = .ok n ↔ c'.readInteger row' field' = .ok n) ∧
    ∀ (c c' : Cell) u u', c.Denotes count u → c'.Denotes count u' → u ≤ u' →
      ∀ n n', c.readInteger row field = .ok (some n) →
        c'.readInteger row' field' = .ok (some n') → n ≤ n' := by
  have limit : 2000000000000000000 ≤ Binary64.twoTo 53 * 1000000 := by decide
  refine ⟨fun c t hc => ?_, ?_, ?_⟩
  · have near := hc.natAbs_lt h
    have small : t.natAbs ≤ Binary64.twoTo 53 := by omega
    have reads := hc.readsAs h row field
    rwa [DateTime.cut_whole small] at reads
  · intro c c' u hc hc' n
    rw [(hc.readsAs h row field).eq_ok_iff, (hc'.readsAs h row' field').eq_ok_iff]
  · intro c c' u u' hc hc' ordered n n' hn hn'
    obtain ⟨-, heq⟩ := (hc.readsAs h row field).eq_ok_iff.1 hn
    obtain ⟨hpos, heq'⟩ := (hc'.readsAs h row' field').eq_ok_iff.1 hn'
    have near := hc'.natAbs_lt h
    have small : u' ≤ (Binary64.twoTo 53 : Int) * 1000000 := by omega
    obtain rfl := Option.some.inj heq
    obtain rfl := Option.some.inj heq'
    exact DateTime.cut_mono ordered small hpos

/-! ### The start of a year -/

/-- The date on which a year starts. -/
def newYear : Date := ⟨2021, 1, 1, by decide⟩

/-- The same start, where the clock is ahead of universal time. -/
def easternNewYear : DateTime where
  date := newYear
  time := ⟨5, 30, 0, 0, by decide⟩
  offset := some 19800000000

/-- A moment of the last second of the calendar. -/
def lastSecond (microsecond : Nat) (h : microsecond < 1000000) : DateTime where
  date := ⟨9999, 12, 31, by decide⟩
  time := ⟨23, 59, 59, microsecond, ⟨by decide, by decide, h⟩⟩

theorem isDayCount_dayNumber : Date.IsDayCount fun d => 86400 * d.dayNumber :=
  Date.isDayCount_iff.2 fun _ => rfl

theorem readInteger_times_newYear :
    Date.IsDayCount (fun d => 86400 * d.dayNumber) ∧
      (date newYear).readInteger (some 7) .startAt = .ok (some 1609459200) ∧
      (dateTime easternNewYear).readInteger (some 8) .cliff = .ok (some 1609459200) ∧
      ∀ n n', (dateTime (lastSecond 999997 (by decide))).readInteger (some 7) .startAt =
          .ok (some n) →
        (dateTime (lastSecond 999998 (by decide))).readInteger (some 8) .cliff = .ok (some n') →
          n ≤ n' := by
  obtain ⟨reads, same, ordered⟩ :=
    readInteger_times isDayCount_dayNumber (some 7) (some 8) .startAt .cliff
  have start : (date newYear).Denotes (fun d => 86400 * d.dayNumber) (1609459200 * 1000000) :=
    .date newYear
  have eastern : (dateTime easternNewYear).Denotes (fun d => 86400 * d.dayNumber)
      (1609459200 * 1000000) := by
    have zone : easternNewYear.IsInZone := by
      intro offset hoffset
      obtain rfl : 19800000000 = offset := Option.some.inj hoffset
      decide
    have offset : easternNewYear.offset.getD 0 = 19800 * 1000000 := rfl
    have seconds : 86400 * easternNewYear.date.dayNumber + easternNewYear.time.seconds - 19800 =
        1609459200 := by decide
    rw [← seconds]
    exact .of_whole zone rfl offset
  have last (microsecond : Nat) (h : microsecond < 1000000) :
      (dateTime (lastSecond microsecond h)).Denotes (fun d => 86400 * d.dayNumber)
        ((lastSecond microsecond h).instant fun d => 86400 * d.dayNumber) :=
    .dateTime _ fun offset hoffset => by cases hoffset
  have read := (reads _ _ start).accepted (by decide)
  refine ⟨isDayCount_dayNumber, read, (same _ _ _ start eastern _).1 read, ?_⟩
  exact ordered _ _ _ _ (last _ _) (last _ _) (by decide)

/-! ### A time zone with a fraction of a second -/

/-- The first second behind the start of 1970-01-01, on a clock that is a second and a half ahead of
    universal time. -/
def brokenZone : DateTime where
  date := .epoch
  time := ⟨0, 0, 1, 0, by decide⟩
  offset := some 1500000

/-- A clock without microseconds may denote a time ahead of 1970-01-01 that is not refused: half a
    second is cut to nothing. -/
theorem not_refused_brokenZone :
    ¬ ∀ (m : DateTime) (row : Option Int) (field : Field), m.IsInZone → m.time.microsecond = 0 →
      m.instant (fun d => 86400 * d.dayNumber) < 0 →
        ∃ f, (dateTime m).readInteger row field = .error f ∧ f.category = .parsing := by
  intro refused
  have zone : brokenZone.IsInZone := by
    intro offset hoffset
    obtain rfl : 1500000 = offset := Option.some.inj hoffset
    decide
  have taken : (dateTime brokenZone).readInteger (some 7) .startAt = .ok (some 0) := by
    decide +kernel
  obtain ⟨f, hf, -⟩ := refused brokenZone (some 7) .startAt zone rfl (by decide)
  exact absurd (taken.symm.trans hf) (by simp)

end Cell

end VestingTable
