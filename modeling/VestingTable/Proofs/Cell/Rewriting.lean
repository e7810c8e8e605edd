import VestingTable.Proofs.Cell.Normal

/-!
# Values that are written into cells

A value is written into a cell as it is, or as a text with any blanks around it, and an
absent one as an empty cell or a blank text (`Cell.Holds`). Behind a percentage there may be
percent signs. A value in normal form is read back from such a cell, exactly as it was
(`Cell.Holds.read`).
-/

namespace VestingTable

open Text

/-! ## Writing -/

/-- A value as it is read. -/
def FieldKind.toRaw : (kind : FieldKind) → kind.Value → kind.Raw
  | amount, n => Int.ofNat n
  | time, n => n
  | percent, d => .finite d
  | text, s => s

/-- A value passes its check. -/
theorem FieldKind.check_toRaw (kind : FieldKind) (v : kind.Value) :
    kind.check (kind.toRaw v) = .valid v := by
  cases kind with
  | amount =>
    have nonneg : ¬ Int.ofNat v < 0 := Int.not_lt.2 (Int.natCast_nonneg v)
    exact (if_neg nonneg : (if Int.ofNat v < 0 then Validated.fail (.negativeAmount (Int.ofNat v))
      else .valid (Int.ofNat v).toNat) = _)
  | time | percent | text => rfl

/-- The text of a value. -/
def FieldKind.spelling : (kind : FieldKind) → kind.Value → List Char
  | amount, n => Numeral.digits n
  | time, n => Numeral.signedDigits n
  | percent, d => Decimal.signText d.negative ++ d.unsignedText
  | text, s => s.toList

namespace Cell

/-- A value in a cell of its own kind. -/
def ofValue : (kind : FieldKind) → kind.Value → Cell
  | .amount, n => integer (Int.ofNat n)
  | .time, n => integer n
  | .percent, d => decimal (.finite d)
  | .text, s => text s

/-- The cell holds a value, or none. -/
inductive Holds (kind : FieldKind) : Option kind.Value → Cell → Prop
  | native (v : kind.Value) : Holds kind (some v) (ofValue kind v)
  | spelled (v : kind.Value) {s : String} {before signs after : List Char}
      (hbefore : ∀ c ∈ before, isBlank c) (hsigns : ∀ c ∈ signs, kind = .percent ∧ c = '%')
      (hafter : ∀ c ∈ after, isBlank c)
      (hs : s.toList = before ++ (kind.spelling v ++ signs) ++ after) : Holds kind (some v) (text s)
  | empty : Holds kind none .empty
  | blank {s : String} (h : ∀ c ∈ s.toList, isBlank c) : Holds kind none (text s)

variable {kind : FieldKind} {row : Option Int} {field : Field} {before after : List Char}

/-! ## Integers -/

theorem readInteger_integer {n : Int} (fits : Numeral.Fits n) (nonneg : 0 ≤ n) :
    (integer n).readInteger row field = .ok (some n) := by
  have quoted : (integer n).quoted? = some (Numeral.ofInt n) := by
    rw [quoted?, Numeral.ofInt?_of_fits fits]
  rw [readInteger_eq_bind rfl quoted, integer?, Except.bind, if_neg (Int.not_lt.2 nonneg)]

/-- An integer is read from a text that spells it. -/
theorem readInteger_of_spells {s : String} {n : Nat} (h : Spells n s.toList) :
    (text s).readInteger row field = .ok (some (n : Int)) := by
  obtain ⟨negative, ds, hds, hlength, hzero, rfl⟩ := spells_iff.1 h
  exact readInteger_text_eq_some_iff.2 ⟨negative, ds, hds, hlength, hzero, rfl⟩

/-! ## Percentages -/

theorem trim_of_isNumberChar {cs : List Char} (chars : ∀ c ∈ cs, Decimal.IsNumberChar c) :
    trim cs = cs :=
  trim_eq_self_iff.2 ⟨fun c hc => (chars c (List.mem_of_mem_head? hc)).not_blank,
    fun c hc => (chars c (List.mem_of_getLast? hc)).not_blank⟩

/-- Percent signs behind a number and blanks around it do not count. -/
theorem percentText_padded {cs signs : List Char} (chars : ∀ c ∈ cs, Decimal.IsNumberChar c)
    (hbefore : ∀ c ∈ before, isBlank c) (hsigns : ∀ c ∈ signs, c = '%')
    (hafter : ∀ c ∈ after, isBlank c) {s : String}
    (hs : s.toList = before ++ (cs ++ signs) ++ after) : percentText s = String.ofList cs := by
  have notBlank : ∀ c ∈ cs ++ signs, isBlank c = false :=
    List.forall_mem_append.2
      ⟨fun c hc => (chars c hc).not_blank, fun c hc => hsigns c hc ▸ (by decide)⟩
  have trimmed : trim (cs ++ signs) = cs ++ signs :=
    trim_eq_self_iff.2 ⟨fun c hc => notBlank c (List.mem_of_mem_head? hc),
      fun c hc => notBlank c (List.mem_of_getLast? hc)⟩
  have signless : dropEnd (· = '%') (cs ++ signs) = cs := by
    rw [dropEnd_append_of_pos fun c hc => decide_eq_true (hsigns c hc), dropEnd_eq_self_iff]
    refine fun c hc => decide_eq_false ?_
    rintro rfl
    exact Decimal.not_isNumberChar_sign.1 (chars _ (List.mem_of_getLast? hc))
  rw [percentText, hs, trim_append_of_blank hbefore hafter, trimmed, signless,
    trim_of_isNumberChar chars]

/-- A number within the range of the format is read back from its text. -/
theorem ofText?_text {d : Decimal} (inRange : d.InRange) :
    ExtendedDecimal.ofText? d.text = some (.finite d) := by
  have chars := d.isNumberChar_of_mem_text
  exact ExtendedDecimal.ofText?_of_scan? (trim_of_isNumberChar chars)
    (fun hc => Decimal.not_isNumberChar_sign.2 (chars _ hc)) d.scan?_text inRange

theorem ofText?_percentText_padded {d : Decimal} (inRange : d.InRange) {signs : List Char}
    (hbefore : ∀ c ∈ before, isBlank c) (hsigns : ∀ c ∈ signs, c = '%')
    (hafter : ∀ c ∈ after, isBlank c) {s : String}
    (hs : s.toList =
      before ++ ((Decimal.signText d.negative ++ d.unsignedText) ++ signs) ++ after) :
    ExtendedDecimal.ofText? (percentText s) = some (.finite d) := by
  rw [percentText_padded d.isNumberChar_of_mem_text hbefore hsigns hafter hs]
  exact ofText?_text inRange

/-! ## Texts -/

/-- A text that shows something is read without the blanks around it. -/
theorem readText_of_trim {s t : String} (htrim : trim s.toList = t.toList) (hne : t.toList ≠ []) :
    (text s).readText = .ok (some t) := by
  have notBlank : (text s).blank = .ok false := by
    rw [blank_text, htrim, List.isEmpty_eq_false_iff.2 hne]
  have same : strip s = t := by rw [strip, htrim, String.ofList_toList]
  rw [readText, notBlank, ← same]
  rfl

/-! ## All kinds -/

/-- A value in normal form is read from a cell of its own kind. -/
theorem read_ofValue {v : kind.Value} (normal : kind.IsNormal v) :
    (ofValue kind v).read row field kind = .ok (some (kind.toRaw v)) := by
  cases kind with
  | amount => exact readInteger_integer normal (Int.natCast_nonneg v)
  | time => exact readInteger_integer normal.2 normal.1
  | percent =>
    have noBlank : ∀ c ∈ ([] : List Char), isBlank c := by simp
    have noSign : ∀ c ∈ ([] : List Char), c = '%' := by simp
    have shown : (Decimal.text v).toList =
        [] ++ ((Decimal.signText v.negative ++ v.unsignedText) ++ []) ++ [] := by
      simp [Decimal.text]
    have read := ofText?_percentText_padded normal noBlank noSign noBlank shown
    exact readPercent_of_text? rfl (fun _ => Cell.noConfusion) rfl read row
  | text => exact readText_of_trim normal.1 normal.2

/-- A value in normal form is read from a text of it, with blanks around. -/
theorem read_spelled {v : kind.Value} (normal : kind.IsNormal v) {signs : List Char}
    (hbefore : ∀ c ∈ before, isBlank c) (hsigns : ∀ c ∈ signs, kind = .percent ∧ c = '%')
    (hafter : ∀ c ∈ after, isBlank c) {s : String}
    (hs : s.toList = before ++ (kind.spelling v ++ signs) ++ after) :
    (text s).read row field kind = .ok (some (kind.toRaw v)) := by
  -- Signs stand behind percentages only.
  have signless (hkind : kind ≠ .percent) : s.toList = before ++ kind.spelling v ++ after := by
    have none : signs = [] := List.eq_nil_iff_forall_not_mem.2 fun c hc => hkind (hsigns c hc).1
    rw [hs, none, List.append_nil]
  cases kind with
  | amount =>
    refine readInteger_of_spells ?_
    rw [signless (by simp)]
    exact spells_padded normal hbefore hafter
  | time =>
    obtain ⟨nonneg, fits⟩ := normal
    obtain ⟨n, rfl⟩ := Int.eq_ofNat_of_zero_le nonneg
    refine readInteger_of_spells ?_
    rw [signless (by simp)]
    exact spells_padded fits hbefore hafter
  | percent =>
    have shown : Shows s.toList := by
      rw [hs]
      exact (((Decimal.shows_text v).append_left _).append_right _).append_left _
    have notBlank : (text s).blank = .ok false := by
      rw [blank_text, List.isEmpty_eq_false_iff.2 shown.trim_ne_nil]
    exact readPercent_of_text? notBlank (fun _ => Cell.noConfusion) rfl
      (ofText?_percentText_padded normal hbefore (fun c hc => (hsigns c hc).2) hafter hs) row
  | text =>
    refine readText_of_trim ?_ normal.2
    rw [signless (by simp), trim_append_of_blank hbefore hafter]
    exact normal.1

/-- A value in normal form is read back from a cell that holds it. -/
theorem Holds.read {v : Option kind.Value} {c : Cell} (h : Holds kind v c)
    (normal : ∀ a ∈ v, kind.IsNormal a) : c.read row field kind = .ok (v.map kind.toRaw) := by
  cases h with
  | native v => exact read_ofValue (normal v rfl)
  | spelled v hbefore hsigns hafter hs => exact read_spelled (normal v rfl) hbefore hsigns hafter hs
  | empty =>
    have void : Cell.empty.IsVoid := trivial
    exact void.read row field kind
  | @blank s h =>
    have void : (text s).IsVoid := trim_eq_nil_iff.2 h
    exact void.read row field kind

end Cell

end VestingTable
