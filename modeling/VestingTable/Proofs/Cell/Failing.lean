import VestingTable.Proofs.Cell.Size
import VestingTable.Proofs.Cell.Spelling

/-!
# Cells that cannot be read

A cell that does not hold a value of its column's field is refused by a failure that
names the row, the field and the cell. Two kinds of rows fail otherwise: a numeral may
be too long to be read or to be named (`Cell.IsOverlong`), and a percentage may
be read as an infinity or a NaN, about which the record complains.

* `Cell.read_outcome`: what comes of a cell in a column, whatever its row;
* `Record.ofCells_eq_error_iff`: the failure of a row is that of its first cell that
  cannot be read, or the complaint about its percentage;
* `Record.reported_iff`: the rows of which the failure names a cell.
-/

namespace VestingTable

/-! ## Numbers that can be written -/

theorem Date.daysInMonth_le (year month : Nat) : daysInMonth year month ≤ 31 := by
  unfold daysInMonth
  split <;> (try split) <;> omega

theorem Date.daysBeforeMonth_le (year month : Nat) : daysBeforeMonth year month ≤ 31 * month := by
  induction month using daysBeforeMonth.induct with
  | case1 => exact Nat.zero_le _
  | case2 => exact Nat.zero_le _
  | case3 month ih =>
    have := daysInMonth_le year (month + 1)
    rw [daysBeforeMonth]
    omega

/-- All dates are within a few millions of days. -/
theorem Date.natAbs_seconds_lt (d : Date) : (86400 * d.dayNumber).natAbs < 1000000000000 := by
  obtain ⟨⟨-, hyear⟩, ⟨-, hmonth⟩, -, hday⟩ := d.isDate
  have month := daysBeforeMonth_le d.year d.month
  have day := daysInMonth_le d.year d.month
  simp only [dayNumber, ordinal, daysBeforeYear, epochOrdinal]
  omega

theorem Date.fits_seconds (d : Date) : Numeral.Fits (86400 * d.dayNumber) :=
  Nat.lt_of_lt_of_le d.natAbs_seconds_lt (Numeral.tenTo_le (by decide : 12 ≤ Numeral.maxDigits))

/-- A float that is a whole number is far from the longest numeral. -/
theorem Binary64.fits_toInt? {x : Binary64} {n : Int} (h : x.toInt? = some n) :
    Numeral.Fits n := by
  have bound {m : Magnitude} {k : Nat} (hk : m.toNat? = some k) :
      k < Numeral.tenTo Numeral.maxDigits := by
    calc k ≤ k * stepsInOne := Nat.le_mul_of_pos_right k stepsInOne_pos
      _ = m.steps := (Magnitude.toNat?_eq_some_iff.1 hk).symm
      _ < twoTo 2098 := m.steps_lt
      _ ≤ Numeral.tenTo 2098 := twoTo_le_tenTo 2098
      _ ≤ Numeral.tenTo Numeral.maxDigits := Numeral.tenTo_le (by decide)
  unfold toInt? at h
  split at h
  · obtain ⟨k, hk, rfl⟩ := Option.map_eq_some_iff.1 h
    exact bound hk
  · obtain ⟨k, hk, rfl⟩ := Option.map_eq_some_iff.1 h
    rw [Numeral.Fits, Int.natAbs_neg]
    exact bound hk
  · contradiction

theorem Numeral.ofInt?_of_fits {n : Int} (h : Fits n) : ofInt? n = some (ofInt n) :=
  if_pos h

theorem Numeral.ofInt?_of_not_fits {n : Int} (h : ¬ Fits n) : ofInt? n = none :=
  if_neg h

namespace Cell

/-! ## The kinds of cells -/

/-- The cell holds neither a decimal number nor a list. -/
def IsScalar : Cell → Prop
  | decimal _ | list _ => False
  | _ => True

instance : (c : Cell) → Decidable c.IsScalar
  | decimal _ | list _ => inferInstanceAs (Decidable False)
  | empty | boolean _ | integer _ | float _ | text _ | date _ | time _ | dateTime _ | notATime
  | notAvailable => inferInstanceAs (Decidable True)

theorem IsDelivered.isScalar {c : Cell} (h : c.IsDelivered) : c.IsScalar := by
  cases c <;> first | exact trivial | exact h.elim

/-- The numeral of the cell is longer than can be written, or than a column of integers takes it
    from a text. -/
def IsOverlong (kind : FieldKind) : Cell → Prop
  | integer n => ¬ Numeral.Fits n
  | text s => (kind = .amount ∨ kind = .time) ∧
    ∃ negative ds, signedDigits? s = some (negative, ds) ∧ Numeral.maxDigits < ds.length
  | _ => False

variable {c : Cell} {kind : FieldKind} {field : Field} {row : Option Int}

theorem exists_blank (scalar : c.IsScalar) : ∃ b, c.blank = .ok b := by
  cases c with
  | decimal | list => exact scalar.elim
  | float x => cases x <;> exact ⟨_, rfl⟩
  | _ => exact ⟨_, rfl⟩

theorem exists_quoted? (scalar : c.IsScalar) (short : ¬ c.IsOverlong kind) :
    ∃ shown, c.quoted? = some shown := by
  cases c with
  | decimal | list => exact scalar.elim
  | integer n => exact ⟨_, by rw [quoted?, Numeral.ofInt?_of_fits (Decidable.not_not.1 short)]⟩
  | _ => exact ⟨_, rfl⟩

theorem exists_text? (scalar : c.IsScalar) (short : ¬ c.IsOverlong kind) :
    ∃ s, c.text? = some s := by
  cases c with
  | decimal | list => exact scalar.elim
  | integer n =>
    exact ⟨Numeral.ofInt n,
      by simp only [text?, quoted?, Numeral.ofInt?_of_fits (Decidable.not_not.1 short)]⟩
  | _ => exact ⟨_, rfl⟩

/-! ## The failures of a cell -/

theorem refusal_of_fits {shown : String} {fault : CellFault} (hrow : ∀ r ∈ row, Numeral.Fits r)
    (hfault : ∀ n, fault = .negative n → Numeral.Fits n) :
    refusal row field shown fault = .cell row field fault shown := by
  refine Failure.raised_of_fits fun n hn => ?_
  cases fault with
  | negative k =>
    rcases List.mem_append.1 hn with hmem | hmem
    · exact hrow n (Option.mem_toList.1 hmem)
    · exact List.mem_singleton.1 hmem ▸ hfault k rfl
  | _ => exact hrow n (Option.mem_toList.1 hn)

theorem refusal_of_not_fits {shown : String} {fault : CellFault} {r : Int} (hrow : row = some r)
    (long : ¬ Numeral.Fits r) : refusal row field shown fault = .longNumeral none := by
  subst hrow
  refine Failure.raised_of_not_fits ?_ long
  cases fault <;> simp [Failure.spelled]

/-- What comes of a cell in a column, whatever the row: a value or a refusal, unless its numeral is
    too long. -/
inductive Outcome {α : Type} (field : Field) (kind : FieldKind) (c : Cell)
    (read : Option Int → Except Failure α) : Prop
  | value (v : α) (short : ¬ c.IsOverlong kind) (h : ∀ row, read row = .ok v)
  | refused (shown : String) (fault : CellFault) (short : ¬ c.IsOverlong kind)
    (quoted : c.quoted? = some shown) (fits : ∀ n, fault = .negative n → Numeral.Fits n)
    (h : ∀ row, read row = .error (refusal row field shown fault))
  | overlong (digits : Option Nat) (long : c.IsOverlong kind)
    (h : ∀ row, read row = .error (.longNumeral digits))

/-! ## In a column of integers -/

/-- The integer of a cell that is not too long can be written, or else the cell is refused. -/
theorem integer?_cases (scalar : c.IsScalar) (hkind : kind = .amount ∨ kind = .time)
    (short : ¬ c.IsOverlong kind) (shown : String) :
    (∃ n, Numeral.Fits n ∧ ∀ refuse, c.integer? refuse shown = .ok n) ∨
      ∃ fault, (∀ n, fault ≠ .negative n) ∧
        ∀ refuse, c.integer? refuse shown = .error (refuse fault) := by
  cases c with
  | decimal | list => exact scalar.elim
  | integer n => exact .inl ⟨n, Decidable.not_not.1 short, fun _ => rfl⟩
  | dateTime m => exact .inl ⟨_, m.fits_seconds, fun _ => rfl⟩
  | date d => exact .inl ⟨_, d.fits_seconds, fun _ => rfl⟩
  | float x =>
    simp only [integer?]
    cases hx : x.toInt? with
    | none => exact .inr ⟨.fraction x.text, by simp, fun _ => rfl⟩
    | some n =>
      by_cases large : maxExact < n.natAbs
      · exact .inr ⟨.rounded, by simp, fun _ => by simp only [if_pos large]⟩
      · exact .inl ⟨n, Binary64.fits_toInt? hx, fun _ => by simp only [if_neg large]⟩
  | text s =>
    simp only [integer?]
    cases hds : signedDigits? s with
    | none => exact .inr ⟨.noInteger shown, by simp, fun _ => rfl⟩
    | some pair =>
      obtain ⟨negative, ds⟩ := pair
      have hlength : ¬ Numeral.maxDigits < ds.length := fun long =>
        short ⟨hkind, negative, ds, hds, long⟩
      obtain ⟨n, hn⟩ : ∃ n, integerOfDigits negative ds = .ok n := by
        rw [integerOfDigits, if_neg hlength]
        cases negative <;> exact ⟨_, rfl⟩
      exact .inl ⟨n, fits_of_integerOfDigits (lt_ten_of_signedDigits? hds) hn, fun _ => hn⟩
  | boolean => exact .inr ⟨.boolean, by simp, fun _ => rfl⟩
  | empty | time | notATime | notAvailable =>
    exact .inr ⟨.noInteger shown, by simp, fun _ => rfl⟩

/-- A numeral that is too long is neither read nor named. -/
theorem readInteger_of_isOverlong (long : c.IsOverlong kind) (field : Field) :
    ∃ digits, ∀ row, c.readInteger row field = .error (.longNumeral digits) := by
  cases c with
  | integer n =>
    have blank : (integer n).blank = .ok false := rfl
    have quoted : (integer n).quoted = .error (.longNumeral none) := by
      rw [Cell.quoted, quoted?, Numeral.ofInt?_of_not_fits long]
    exact ⟨none, fun row => by rw [readInteger, blank, quoted]; rfl⟩
  | text s =>
    obtain ⟨-, negative, ds, hds, hlength⟩ := long
    have notBlank : Text.trim s.toList ≠ [] := fun hnil => by
      rw [signedDigits?, hnil] at hds
      contradiction
    refine ⟨some ds.length, fun row => ?_⟩
    rw [readInteger_text_of_ne_nil notBlank, hds]
    exact if_pos hlength
  | _ => exact long.elim

theorem readInteger_outcome (scalar : c.IsScalar) (hkind : kind = .amount ∨ kind = .time)
    (field : Field) : Outcome field kind c (c.readInteger · field) := by
  by_cases long : c.IsOverlong kind
  · obtain ⟨digits, h⟩ := readInteger_of_isOverlong long field
    exact .overlong digits long h
  obtain ⟨isBlank, hblank⟩ := exists_blank scalar
  cases isBlank with
  | true => exact .value none long fun row => by rw [readInteger, hblank]; rfl
  | false =>
    obtain ⟨shown, hshown⟩ := exists_quoted? scalar long
    rcases integer?_cases scalar hkind long shown with ⟨n, hn, hread⟩ | ⟨fault, hfault, hread⟩
    · by_cases negative : n < 0
      · refine .refused shown (.negative n) long hshown (fun k hk => by cases hk; exact hn)
          fun row => ?_
        rw [readInteger_eq_bind hblank hshown, hread, Except.bind, if_pos negative]
      · refine .value (some n) long fun row => ?_
        rw [readInteger_eq_bind hblank hshown, hread, Except.bind, if_neg negative]
    · refine .refused shown fault long hshown (fun k hk => absurd hk (hfault k)) fun row => ?_
      rw [readInteger_eq_bind hblank hshown, hread, Except.bind]

/-! ## In the column of percentages -/

/-- Whatever column shows the cell as a text, it has to write its integer. -/
theorem asText_of_not_fits {n : Int} (long : ¬ Numeral.Fits n) :
    (integer n).asText = .error (.longNumeral none) := by
  simp only [asText, text?, quoted?, Numeral.ofInt?_of_not_fits long]

theorem readPercent_outcome (scalar : c.IsScalar) :
    Outcome .percentOfTotal .percent c c.readPercent := by
  by_cases long : c.IsOverlong .percent
  · cases c with
    | integer n =>
      have blank : (integer n).blank = .ok false := rfl
      refine .overlong none long fun row => ?_
      rw [readPercent.eq_2 _ _ (by simp), blank, asText_of_not_fits long]
      rfl
    | text s => exact absurd long.1 (by simp)
    | _ => exact long.elim
  obtain ⟨isBlank, hblank⟩ := exists_blank scalar
  obtain ⟨shown, hshown⟩ := exists_quoted? scalar long
  obtain ⟨s, hs⟩ := exists_text? scalar long
  have quoted : c.quoted = .ok shown := by rw [Cell.quoted, hshown]
  have asText : c.asText = .ok s := by rw [Cell.asText, hs]
  cases isBlank with
  | true =>
    refine .value none long fun row => ?_
    unfold readPercent
    rw [hblank]
    rfl
  | false =>
    by_cases boolean : ∃ b, c = boolean b
    · obtain ⟨b, rfl⟩ := boolean
      exact .refused (truthText b) .boolean long rfl (by simp) fun row => rfl
    · rw [not_exists] at boolean
      cases hd : ExtendedDecimal.ofText? (percentText s) with
      | some d =>
        refine .value (some d) long fun row => ?_
        rw [readPercent.eq_2 _ _ boolean, hblank, asText]
        simp only [bind, Except.bind, hd, Bool.false_eq_true, if_false]
        rfl
      | none =>
        refine .refused shown (.noNumber shown) long hshown (by simp) fun row => ?_
        rw [readPercent.eq_2 _ _ boolean, hblank, asText, quoted]
        simp only [bind, Except.bind, hd, Bool.false_eq_true, if_false]

/-! ## In a column of texts -/

theorem exists_asText_withoutFraction (scalar : c.IsScalar) (short : ¬ c.IsOverlong kind) :
    ∃ s, c.withoutFraction.asText = .ok s := by
  have whole : ∃ s, c.withoutFraction.text? = some s := by
    cases c with
    | float x =>
      cases hx : x.toInt? with
      | none =>
        rw [withoutFraction, hx]
        exact ⟨_, rfl⟩
      | some n =>
        rw [withoutFraction, hx]
        have fits : ¬ IsOverlong kind (integer n) := not_not.2 (Binary64.fits_toInt? hx)
        exact exists_text? trivial fits
    | _ => exact exists_text? scalar short
  obtain ⟨s, hs⟩ := whole
  exact ⟨s, by rw [asText, hs]⟩

theorem readText_outcome (scalar : c.IsScalar) (field : Field) :
    Outcome field .text c fun _ => c.readText := by
  by_cases long : c.IsOverlong .text
  · cases c with
    | integer n =>
      have blank : (integer n).blank = .ok false := rfl
      refine .overlong none long fun _ => ?_
      rw [readText, blank, withoutFraction, asText_of_not_fits long]
      · rfl
      · simp
    | text s => exact absurd long.1 (by simp)
    | _ => exact long.elim
  obtain ⟨isBlank, hblank⟩ := exists_blank scalar
  cases isBlank with
  | true => exact .value none long fun _ => by rw [readText, hblank]; rfl
  | false =>
    obtain ⟨s, hs⟩ := exists_asText_withoutFraction scalar long
    exact .value (some (Text.strip s)) long fun _ => by rw [readText, hblank, hs]; rfl

/-- In every column a cell is read or refused, unless its numeral is too long. -/
theorem read_outcome (scalar : c.IsScalar) (field : Field) :
    Outcome field field.kind c (c.read · field field.kind) := by
  cases field
  case percentOfTotal => exact readPercent_outcome scalar
  case pool | name | address => exact readText_outcome scalar _
  case startAt | interval | duration => exact readInteger_outcome scalar (.inr rfl) _
  all_goals exact readInteger_outcome scalar (.inl rfl) _

/-- An amount that is read is not negative. -/
theorem readInteger_nonneg {n : Int} (h : c.readInteger row field = .ok (some n)) : 0 ≤ n := by
  obtain ⟨isBlank, -, h⟩ := exists_of_bind_eq_ok h
  split at h
  · exact absurd (Except.ok.inj h) (by simp)
  · obtain ⟨shown, -, h⟩ := exists_of_bind_eq_ok h
    obtain ⟨k, -, h⟩ := exists_of_bind_eq_ok h
    split at h
    · contradiction
    · next notNegative =>
      obtain rfl := Option.some.inj (Except.ok.inj h)
      exact Int.not_lt.1 notNegative

end Cell

/-- What is said against a value, if anything. -/
def Validated.complaints {α : Type} : Validated α → List Complaint
  | valid _ => []
  | invalid cs => cs

/-! ## The columns of a row -/

namespace Draft

variable {columns : List (Option Field × Cell)} {row : Option Int} {start d : Draft}

/-- The column is ignored, or its cell can be read. -/
def IsReadable (row : Option Int) (column : Option Field × Cell) : Prop :=
  ∀ field, column.1 = some field → ∃ v, column.2.read row field field.kind = .ok v

theorem exists_read (h : ∀ column ∈ columns, IsReadable row column) (start : Draft) :
    ∃ d, columns.foldlM (Draft.read row) start = .ok d := by
  induction columns generalizing start with
  | nil => exact ⟨start, rfl⟩
  | cons column columns ih =>
    obtain ⟨next, hnext⟩ : ∃ next, Draft.read row start column = .ok next := by
      obtain ⟨_ | field, c⟩ := column
      · exact ⟨start, rfl⟩
      · obtain ⟨v, hv⟩ := h _ List.mem_cons_self field rfl
        exact ⟨start.set field v, by rw [read, hv]; rfl⟩
    rw [List.foldlM_cons, hnext]
    exact ih (fun column hcolumn => h column (List.mem_cons_of_mem _ hcolumn)) next

theorem isReadable_of_read (h : columns.foldlM (Draft.read row) start = .ok d) :
    ∀ column ∈ columns, IsReadable row column := by
  induction columns generalizing start with
  | nil => simp
  | cons column columns ih =>
    rw [List.foldlM_cons] at h
    obtain ⟨next, hnext, h⟩ := exists_of_bind_eq_ok h
    refine List.forall_mem_cons.2 ⟨fun field hfield => ?_, ih h⟩
    obtain ⟨_, c⟩ := column
    obtain rfl := hfield
    obtain ⟨v, hv, -⟩ := exists_of_bind_eq_ok hnext
    exact ⟨v, hv⟩

/-- The columns fail with the first one of which the cell cannot be read. -/
theorem foldlM_read_eq_error_iff {f : Failure} :
    columns.foldlM (Draft.read row) start = .error f ↔
      ∃ ahead field c behind, columns = ahead ++ (some field, c) :: behind ∧
        (∀ column ∈ ahead, IsReadable row column) ∧ c.read row field field.kind = .error f := by
  constructor
  · intro h
    induction columns generalizing start with
    | nil => contradiction
    | cons column columns ih =>
      rw [List.foldlM_cons] at h
      cases hnext : Draft.read row start column with
      | ok next =>
        rw [hnext] at h
        obtain ⟨ahead, field, c, behind, rfl, readable, hread⟩ := ih h
        have single : [column].foldlM (Draft.read row) start = .ok next := by
          rw [List.foldlM_cons, hnext]
          rfl
        have first := isReadable_of_read single column List.mem_cons_self
        exact ⟨column :: ahead, field, c, behind, rfl, List.forall_mem_cons.2 ⟨first, readable⟩,
          hread⟩
      | error g =>
        rw [hnext] at h
        obtain rfl := Except.error.inj h
        obtain ⟨_ | field, c⟩ := column
        · contradiction
        · refine ⟨[], field, c, columns, rfl, by simp, ?_⟩
          rw [read] at hnext
          cases hread : c.read row field field.kind with
          | error e =>
            rw [hread] at hnext
            exact congrArg _ (Except.error.inj hnext)
          | ok v =>
            rw [hread] at hnext
            contradiction
  · rintro ⟨ahead, field, c, behind, rfl, readable, hread⟩
    obtain ⟨next, hnext⟩ := exists_read readable start
    rw [List.foldlM_append, hnext]
    show (Draft.read row next (some field, c) >>= _) = _
    rw [read, hread]
    rfl

/-- Columns of other fields do not change a field. -/
theorem eq_of_read {f : Field} (h : columns.foldlM (Draft.read row) start = .ok d)
    (elsewhere : ∀ column ∈ columns, column.1 ≠ some f) : d f = start f := by
  induction columns generalizing start with
  | nil => rw [Except.ok.inj h]
  | cons column columns ih =>
    rw [List.foldlM_cons] at h
    obtain ⟨next, hnext, h⟩ := exists_of_bind_eq_ok h
    obtain ⟨hcolumn, elsewhere⟩ := List.forall_mem_cons.1 elsewhere
    rw [ih h elsewhere]
    obtain ⟨_ | g, c⟩ := column
    · rw [Except.ok.inj hnext]
    · obtain ⟨v, -, hset⟩ := exists_of_bind_eq_ok hnext
      rw [← Except.ok.inj hset, set_of_ne _ _ fun hg => hcolumn (congrArg some hg)]

/-- Of the columns of a field the last one counts. -/
theorem read_last {ahead behind : List (Option Field × Cell)} {f : Field} {c : Cell}
    (h : (ahead ++ (some f, c) :: behind).foldlM (Draft.read row) start = .ok d)
    (last : ∀ column ∈ behind, column.1 ≠ some f) : c.read row f f.kind = .ok (d f) := by
  rw [List.foldlM_append] at h
  obtain ⟨before, -, h⟩ := exists_of_bind_eq_ok h
  rw [List.foldlM_cons] at h
  obtain ⟨next, hnext, h⟩ := exists_of_bind_eq_ok h
  obtain ⟨v, hv, hset⟩ := exists_of_bind_eq_ok hnext
  rw [eq_of_read h last, ← Except.ok.inj hset, set_self, hv]

/-- A column of a field is the last one, or there is another one behind. -/
theorem exists_last {f : Field} (h : ∃ column ∈ columns, column.1 = some f) :
    ∃ ahead c behind, columns = ahead ++ (some f, c) :: behind ∧
      ∀ column ∈ behind, column.1 ≠ some f := by
  induction columns with
  | nil => simp at h
  | cons column columns ih =>
    by_cases later : ∃ column ∈ columns, column.1 = some f
    · obtain ⟨ahead, c, behind, rfl, last⟩ := ih later
      exact ⟨column :: ahead, c, behind, rfl, last⟩
    · obtain ⟨column', hmem, hfield⟩ := h
      rcases List.mem_cons.1 hmem with rfl | hmem
      · obtain ⟨_, c⟩ := column'
        obtain rfl := hfield
        exact ⟨[], c, columns, rfl, fun column hcolumn hf => later ⟨column, hcolumn, hf⟩⟩
      · exact absurd ⟨column', hmem, hfield⟩ later

/-! ## The complaint about a percentage -/

/-- The percentage that is read is no number. -/
def percentageComplaint : Complaint :=
  ⟨[.key Field.percentOfTotal.key], .notFinite⟩

theorem field_of_ne {f : Field} (hf : f ≠ .percentOfTotal)
    (h : columns.foldlM (Draft.read row) empty = .ok d) : ∃ v, d.field f = .valid v := by
  rw [field]
  cases hv : d f with
  | none => exact ⟨none, rfl⟩
  | some v =>
    obtain hempty | ⟨column, -, -, hread⟩ := exists_cell h hv
    · contradiction
    · suffices valid : ∃ a, f.kind.check v = .valid a by
        obtain ⟨a, ha⟩ := valid
        exact ⟨some a, by simp only [ha]; rfl⟩
      cases f
      case percentOfTotal => exact absurd rfl hf
      case pool | name | address => exact ⟨v, rfl⟩
      case startAt | interval | duration => exact ⟨v, rfl⟩
      all_goals exact ⟨_, if_neg (Int.not_lt.2 (Cell.readInteger_nonneg hread))⟩

theorem complaints_eq_flatMap (d : Draft) :
    d.complaints = Field.all.flatMap fun f => (d.field f).complaints :=
  List.flatMap_congr fun f _ => by cases d.field f <;> rfl

theorem complaints_of_read (h : columns.foldlM (Draft.read row) empty = .ok d) :
    d.complaints = (d.field .percentOfTotal).complaints := by
  have silent (fs : List Field) (hfs : .percentOfTotal ∉ fs) :
      (fs.flatMap fun f => (d.field f).complaints) = [] :=
    List.flatMap_eq_nil_iff.2 fun f hf => by
      obtain ⟨v, hv⟩ := field_of_ne (fun heq => hfs (heq ▸ hf)) h
      rw [hv, Validated.complaints]
  have split : Field.all = Field.all.take 2 ++ .percentOfTotal :: Field.all.drop 3 := rfl
  rw [complaints_eq_flatMap, split, List.flatMap_append, List.flatMap_cons, silent _ (by decide),
    silent _ (by decide), List.nil_append, List.append_nil]

/-- A row that is read makes a record if its percentage is a number, if there is any. -/
theorem validate_of_read (h : columns.foldlM (Draft.read row) empty = .ok d) :
    (∃ r, d.validate.orFail = .ok r) ∧ (∀ x, d .percentOfTotal = some x → ∃ q, x = .finite q) ∨
      d.validate.orFail = .error (.invalid [percentageComplaint]) ∧
        ∃ x, d .percentOfTotal = some x ∧ ∀ q, x ≠ .finite q := by
  have complaints := complaints_of_read h
  rw [field] at complaints
  cases hx : d .percentOfTotal with
  | none =>
    simp only [hx] at complaints
    exact .inl ⟨⟨_, by rw [validate, complaints]; rfl⟩, by simp⟩
  | some x =>
    simp only [hx] at complaints
    cases x with
    | finite q =>
      exact .inl ⟨⟨_, by rw [validate, complaints]; rfl⟩,
        fun _ heq => ⟨q, (Option.some.inj heq).symm⟩⟩
    | infinite | nan => exact .inr ⟨by rw [validate, complaints]; rfl, _, rfl, by simp⟩

end Draft

/-! ## Rows -/

/-- The failure names the row, and the field and the content of one of its cells. -/
def Failure.Names (layout : Layout) (row : Option Int) (cells : List Cell) (f : Failure) : Prop :=
  ∃ field c fault shown, (some field, c) ∈ layout.zip cells ∧ c.quoted? = some shown ∧
    f = .cell row field fault shown

namespace Record

variable {layout : Layout} {row : Option Int} {cells : List Cell} {f : Failure}

/-- The row fails without a cell being named: the first cell that cannot be read has a numeral that
    is too long, or the number of the row is; or all can be read, and the percentage is no
    number. -/
inductive Escapes (layout : Layout) (row : Option Int) (cells : List Cell) : Prop
  | numeral {ahead behind : List (Option Field × Cell)} {field : Field} {c : Cell}
    (columns : layout.zip cells = ahead ++ (some field, c) :: behind)
    (readable : ∀ column ∈ ahead, Draft.IsReadable row column)
    (unreadable : ¬ Draft.IsReadable row (some field, c))
    (long : c.IsOverlong field.kind ∨ ∃ r ∈ row, ¬ Numeral.Fits r)
  | percentage {ahead behind : List (Option Field × Cell)} {c : Cell} {x : ExtendedDecimal}
    (columns : layout.zip cells = ahead ++ (some .percentOfTotal, c) :: behind)
    (readable : ∀ column ∈ layout.zip cells, Draft.IsReadable row column)
    (last : ∀ column ∈ behind, column.1 ≠ some .percentOfTotal)
    (percentage : c.readPercent row = .ok (some x)) (infinite : ∀ q, x ≠ .finite q)

/-- The failure of a row is that of its first cell that cannot be read, or the complaint about its
    percentage. -/
theorem ofCells_eq_error_iff : ofCells layout row cells = .error f ↔
    (∃ ahead field c behind, layout.zip cells = ahead ++ (some field, c) :: behind ∧
      (∀ column ∈ ahead, Draft.IsReadable row column) ∧ c.read row field field.kind = .error f) ∨
    ∃ d x, Draft.ofCells layout row cells = .ok d ∧ d .percentOfTotal = some x ∧
      (∀ q, x ≠ .finite q) ∧ f = .invalid [Draft.percentageComplaint] := by
  rw [← @Draft.foldlM_read_eq_error_iff _ _ Draft.empty, ofCells, Draft.ofCells]
  cases hd : (layout.zip cells).foldlM (Draft.read row) Draft.empty with
  | error g => simp [bind, Except.bind]
  | ok d =>
    simp only [bind, Except.bind, reduceCtorEq, Except.ok.injEq, false_or]
    rcases Draft.validate_of_read hd with ⟨⟨r, hr⟩, number⟩ | ⟨hcomplaint, x, hx, infinite⟩
    · rw [hr]
      refine iff_of_false (by simp) ?_
      rintro ⟨_, x, rfl, hx, infinite, -⟩
      obtain ⟨q, rfl⟩ := number x hx
      exact infinite q rfl
    · rw [hcomplaint, Except.error.injEq]
      constructor
      · rintro rfl
        exact ⟨d, x, rfl, hx, infinite, rfl⟩
      · rintro ⟨_, _, _, _, _, rfl⟩
        rfl

/-- A row that escapes fails, and its failure names no cell. -/
theorem exists_of_escapes (scalar : ∀ c ∈ cells, c.IsScalar) (h : Escapes layout row cells) :
    ∃ f, ofCells layout row cells = .error f ∧
      ((∃ digits, f = .longNumeral digits) ∨ f = .invalid [Draft.percentageComplaint]) := by
  cases h with
  | @numeral ahead behind field c columns readable unreadable long =>
    have hc : c ∈ cells := (List.of_mem_zip (columns ▸ List.mem_append_right _ List.mem_cons_self)).2
    suffices failed : ∃ digits, c.read row field field.kind = .error (.longNumeral digits) by
      obtain ⟨digits, hread⟩ := failed
      exact ⟨_, ofCells_eq_error_iff.2 (.inl ⟨ahead, field, c, behind, columns, readable, hread⟩),
        .inl ⟨digits, rfl⟩⟩
    cases Cell.read_outcome (scalar c hc) field with
    | value v short hread => exact absurd (fun _ hf => by cases hf; exact ⟨_, hread row⟩) unreadable
    | refused shown fault short quoted fits hread =>
      obtain ⟨r, hrow, hr⟩ := long.resolve_left short
      exact ⟨none, by rw [hread row, Cell.refusal_of_not_fits hrow hr]⟩
    | overlong digits long hread => exact ⟨digits, hread row⟩
  | @percentage ahead behind c x columns readable last percentage infinite =>
    obtain ⟨d, hd⟩ := Draft.exists_read readable Draft.empty
    have hx : d .percentOfTotal = some x := by
      rw [columns] at hd
      exact (Except.ok.inj ((Draft.read_last hd last).symm.trans percentage))
    exact ⟨_, ofCells_eq_error_iff.2 (.inr ⟨d, x, hd, hx, infinite, rfl⟩), .inr rfl⟩

/-- A row that fails and does not escape names a cell. -/
theorem names_or_escapes (scalar : ∀ c ∈ cells, c.IsScalar)
    (h : ofCells layout row cells = .error f) :
    f.Names layout row cells ∨ Escapes layout row cells := by
  rcases ofCells_eq_error_iff.1 h with
    ⟨ahead, field, c, behind, columns, readable, hread⟩ | ⟨d, x, hd, hx, infinite, -⟩
  · have hmem : (some field, c) ∈ layout.zip cells :=
      columns ▸ List.mem_append_right _ List.mem_cons_self
    have unreadable : ¬ Draft.IsReadable row (some field, c) := fun hreadable => by
      obtain ⟨v, hv⟩ := hreadable field rfl
      rw [hread] at hv
      contradiction
    by_cases long : c.IsOverlong field.kind ∨ ∃ r ∈ row, ¬ Numeral.Fits r
    · exact .inr (.numeral columns readable unreadable long)
    · obtain ⟨hshort, hrow⟩ := not_or.1 long
      cases Cell.read_outcome (scalar c (List.of_mem_zip hmem).2) field with
      | value v short hv =>
        exact absurd (hread.symm.trans (hv row)) (by simp)
      | overlong digits long => exact absurd long hshort
      | refused shown fault short quoted fits hrefused =>
        have named := (hread.symm.trans (hrefused row))
        rw [Cell.refusal_of_fits (fun r hr => by_contra fun hlong => hrow ⟨r, hr, hlong⟩) fits]
          at named
        exact .inl ⟨field, c, fault, shown, hmem, quoted, Except.error.inj named⟩
  · right
    have readable := Draft.isReadable_of_read hd
    by_cases given : ∃ column ∈ layout.zip cells, column.1 = some .percentOfTotal
    · obtain ⟨ahead, c, behind, columns, last⟩ := Draft.exists_last given
      refine .percentage columns readable last ?_ infinite
      rw [Draft.ofCells, columns] at hd
      rw [← hx]
      exact Draft.read_last hd last
    · have absent := Draft.eq_of_read hd fun column hcolumn hf => given ⟨column, hcolumn, hf⟩
      rw [hx] at absent
      contradiction

/-- Every failure of a row is a parsing error that names one of its cells, exactly unless the row
    escapes. -/
theorem reported_iff (scalar : ∀ c ∈ cells, c.IsScalar) :
    (∀ f, ofCells layout row cells = .error f →
      f.category = .parsing ∧ f.Names layout row cells) ↔ ¬ Escapes layout row cells := by
  constructor
  · intro reported escapes
    obtain ⟨f, hf, unnamed⟩ := exists_of_escapes scalar escapes
    have parsing := (reported f hf).1
    rcases unnamed with ⟨digits, rfl⟩ | rfl <;> contradiction
  · intro kept f hf
    have named := (names_or_escapes scalar hf).resolve_right kept
    refine ⟨?_, named⟩
    obtain ⟨field, c, fault, shown, -, -, rfl⟩ := named
    rfl

/-- A percentage that is read as a NaN is left to the record to complain about. -/
theorem ofCells_nan : ofCells [some .percentOfTotal] (some 7) [.text "NaN"] =
    .error (.invalid [Draft.percentageComplaint]) := by
  rfl

theorem reported_iff_nan : (∀ c ∈ [Cell.text "NaN"], c.IsScalar) ∧
    Escapes [some .percentOfTotal] (some 7) [.text "NaN"] := by
  have scalar : ∀ c ∈ [Cell.text "NaN"], c.IsScalar := by decide
  refine ⟨scalar, by_contra fun kept => ?_⟩
  have parsing := ((reported_iff scalar).2 kept _ ofCells_nan).1
  contradiction

/-- Not every failure of a row is a parsing error. -/
theorem not_parsing_nan : ¬ ∀ f,
    ofCells [some .percentOfTotal] (some 7) [.text "NaN"] = .error f → f.category = .parsing := by
  intro parsing
  have := parsing _ ofCells_nan
  contradiction

end Record

end VestingTable
