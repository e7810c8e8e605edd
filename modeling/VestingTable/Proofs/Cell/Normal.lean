import Mathlib.Data.List.DropRight
import VestingTable.Proofs.Cell.Failing
import VestingTable.Proofs.DecimalText

/-!
# Normal forms of values

A value that was read from a cell is in a form that can be written again: an integer has no sign,
a percentage is within the range of the format, and a text is trimmed and shows something
(`FieldKind.IsNormal`). The last needs that no cell but a blank one has a text of blanks alone,
whatever its kind (`Cell.shows_text?`).

* `Record.isNormal_of_ofCells`: the records that are read from rows are normal forms.
-/

namespace VestingTable

namespace Text

variable {cs : List Char}

/-- The text has a character that is not blank. -/
def Shows (cs : List Char) : Prop :=
  ∃ c ∈ cs, isBlank c = false

theorem Shows.trim_ne_nil (h : Shows cs) : trim cs ≠ [] := by
  obtain ⟨c, hc, shown⟩ := h
  intro hnil
  rw [trim_eq_nil_iff.1 hnil c hc] at shown
  contradiction

theorem shows_of_trim_ne_nil (h : trim cs ≠ []) : Shows cs := by
  by_contra hidden
  simp only [Shows, not_exists, not_and, Bool.not_eq_false] at hidden
  exact h (trim_eq_nil_iff.2 hidden)

theorem dropEnd_dropEnd (p : Char → Bool) (cs : List Char) :
    dropEnd p (dropEnd p cs) = dropEnd p cs := by
  rw [dropEnd, dropEnd, List.reverse_reverse, List.dropWhile_idempotent]

/-- Both ends of a trimmed text are not blank. -/
theorem trim_trim (cs : List Char) : trim (trim cs) = trim cs := by
  have start : trimStart (trimStart cs) = trimStart cs := List.dropWhile_idempotent ..
  obtain ⟨after, -, heq⟩ := eq_dropEnd_append isBlank (trimStart cs)
  refine trim_eq_self_iff.2 ⟨fun c hc => ?_, dropEnd_eq_self_iff.1 (dropEnd_dropEnd ..)⟩
  have first : c ∈ (trimStart cs).head? := by
    have front : (dropEnd isBlank (trimStart cs)).head? = some c := hc
    rw [heq, List.head?_append, front]
    rfl
  exact dropWhile_eq_self_iff.1 start c first

theorem strip_strip (s : String) : strip (strip s) = strip s := by
  rw [strip, strip, String.toList_ofList, trim_trim]

/-! ## Texts that show something -/

theorem Shows.of_mem {c : Char} (hc : c ∈ cs) (shown : isBlank c = false) : Shows cs :=
  ⟨c, hc, shown⟩

theorem Shows.append_left (h : Shows cs) (more : List Char) : Shows (cs ++ more) := by
  obtain ⟨c, hc, shown⟩ := h
  exact ⟨c, List.mem_append_left _ hc, shown⟩

theorem Shows.append_right (h : Shows cs) (ahead : List Char) : Shows (ahead ++ cs) := by
  obtain ⟨c, hc, shown⟩ := h
  exact ⟨c, List.mem_append_right _ hc, shown⟩

/-- A point is among the digits unless it is behind all of them. -/
theorem point_mem_positional {ds : List Char} {point : Int} (h : point < ds.length) :
    '.' ∈ positional ds point := by
  unfold positional
  split
  · simp
  · simp
  · next k =>
    rw [if_pos (by simpa using h)]
    simp

end Text

open Text

theorem Decimal.shows_text (d : Decimal) : Shows (signText d.negative ++ d.unsignedText) := by
  have read := d.scan?_text
  have chars := d.isNumberChar_of_mem_text
  cases h : signText d.negative ++ d.unsignedText with
  | nil =>
    rw [h] at read
    contradiction
  | cons c cs =>
    rw [h] at chars
    exact .of_mem List.mem_cons_self (chars c List.mem_cons_self).not_blank

theorem Binary64.Magnitude.shows_text (m : Magnitude) : Shows m.text := by
  unfold text
  split
  · exact .of_mem List.mem_cons_self rfl
  · simp only
    split
    · split
      · exact .append_right (.of_mem List.mem_cons_self rfl) _
      · next ahead =>
        rw [List.append_nil]
        exact .of_mem (point_mem_positional (Int.not_le.1 ahead)) rfl
    · exact .append_right (.of_mem List.mem_cons_self rfl) _

theorem Binary64.shows_text (x : Binary64) : Shows x.text.toList := by
  cases x with
  | nan => exact .of_mem List.mem_cons_self rfl
  | infinite negative =>
    rw [text, String.toList_ofList]
    exact .append_right (.of_mem List.mem_cons_self rfl) _
  | finite negative m =>
    rw [text, String.toList_ofList]
    exact .append_right m.shows_text _

theorem Date.shows_text (d : Date) : Shows d.text.toList := by
  have hyphen : Shows "-".toList := .of_mem (List.mem_singleton_self '-') rfl
  simp only [text, String.toList_append]
  exact .append_left (.append_right hyphen _) _

theorem TimeOfDay.shows_text (t : TimeOfDay) : Shows t.text.toList := by
  have colon : Shows ":".toList := .of_mem (List.mem_singleton_self ':') rfl
  simp only [text, String.toList_append]
  exact .append_left (.append_left (.append_right colon _) _) _

theorem DateTime.shows_text (m : DateTime) : Shows m.text.toList := by
  simp only [text, textWith, String.toList_append]
  exact .append_left (.append_left (.append_left m.date.shows_text _) _) _

theorem ExtendedDecimal.shows_text (d : ExtendedDecimal) : Shows d.text.toList := by
  cases d with
  | finite d =>
    rw [text, Decimal.text, String.toList_ofList]
    exact d.shows_text
  | infinite negative =>
    rw [text, String.toList_ofList]
    exact .append_right (.of_mem (c := 'I') (by decide) rfl) _
  | nan negative signaling payload =>
    rw [text, String.toList_ofList]
    exact .append_left (.append_right (.of_mem (c := 'N') (by decide) rfl) _) _

theorem Numeral.shows_ofInt (n : Int) : Shows (ofInt n).toList := by
  rw [ofInt, String.toList_ofList]
  cases n with
  | ofNat n =>
    obtain ⟨c, cs, h⟩ := List.exists_cons_of_ne_nil (digits_ne_nil n)
    have hc : c ∈ digits n := h ▸ List.mem_cons_self
    exact .of_mem hc (isBlank_of_isDigit (isDigit_of_mem_digits hc))
  | negSucc n => exact .of_mem List.mem_cons_self rfl

namespace Cell

/-- No cell but a text has a text of blanks alone. -/
theorem shows_text? {c : Cell} {s : String} (notText : ∀ t, c ≠ text t) (h : c.text? = some s) :
    Shows s.toList := by
  cases c with
  | text t => exact absurd rfl (notText t)
  | empty =>
    obtain rfl := Option.some.inj h
    exact .of_mem (c := 'N') (by decide) rfl
  | boolean b =>
    obtain rfl := Option.some.inj h
    cases b
    · exact .of_mem (c := 'F') (by decide) rfl
    · exact .of_mem (c := 'T') (by decide) rfl
  | integer n =>
    simp only [text?, quoted?, Numeral.ofInt?] at h
    split at h
    · obtain rfl := Option.some.inj h
      exact Numeral.shows_ofInt n
    · contradiction
  | float x =>
    obtain rfl := Option.some.inj h
    exact x.shows_text
  | decimal d =>
    obtain rfl := Option.some.inj h
    exact d.shows_text
  | date d =>
    obtain rfl := Option.some.inj h
    exact d.shows_text
  | time t =>
    obtain rfl := Option.some.inj h
    exact t.shows_text
  | dateTime m =>
    obtain rfl := Option.some.inj h
    exact m.shows_text
  | notATime =>
    obtain rfl := Option.some.inj h
    exact .of_mem (c := 'N') (by decide) rfl
  | notAvailable =>
    obtain rfl := Option.some.inj h
    exact .of_mem (c := 'N') (by decide) rfl
  | list parts =>
    simp only [text?, quoted?] at h
    obtain ⟨texts, -, rfl⟩ := Option.map_eq_some_iff.1 h
    have bracket : Shows "[".toList := .of_mem (List.mem_singleton_self '[') rfl
    simp only [Text.between, String.toList_append]
    exact .append_left (.append_left bracket _) _

/-! ## Values that are read -/

variable {c : Cell} {row : Option Int}

/-- A percentage is read from the text of a cell. -/
theorem exists_of_readPercent {x : ExtendedDecimal} (h : c.readPercent row = .ok (some x)) :
    ∃ s, ExtendedDecimal.ofText? (percentText s) = some x := by
  by_cases boolean : ∃ b, c = boolean b
  · obtain ⟨b, rfl⟩ := boolean
    contradiction
  · rw [not_exists] at boolean
    rw [readPercent.eq_2 _ _ boolean] at h
    obtain ⟨isBlank, -, h⟩ := exists_of_bind_eq_ok h
    split at h
    · exact absurd (Except.ok.inj h) (by simp)
    · obtain ⟨s, -, h⟩ := exists_of_bind_eq_ok h
      cases hx : ExtendedDecimal.ofText? (percentText s) with
      | none =>
        simp only [hx] at h
        obtain ⟨shown, -, h⟩ := exists_of_bind_eq_ok h
        exact absurd h (by simp)
      | some y =>
        simp only [hx] at h
        exact ⟨s, Option.some.inj (Except.ok.inj h) ▸ hx⟩

theorem text?_of_asText {s : String} (h : c.asText = .ok s) : c.text? = some s := by
  rw [asText] at h
  split at h
  · next ht => exact Except.ok.inj h ▸ ht
  · contradiction

theorem withoutFraction_ne_text (notText : ∀ t, c ≠ text t) (t : String) :
    c.withoutFraction ≠ text t := by
  cases c with
  | float x =>
    rw [withoutFraction]
    cases x.toInt? <;> exact Cell.noConfusion
  | _ => exact notText t

/-- A text that is read is what a text that shows something is without the blanks at its ends. -/
theorem exists_of_readText {s : String} (h : c.readText = .ok (some s)) :
    ∃ t : String, s = strip t ∧ Shows t.toList := by
  obtain ⟨isBlank, hblank, h⟩ := exists_of_bind_eq_ok h
  split at h
  · exact absurd (Except.ok.inj h) (by simp)
  · next notBlank =>
    obtain ⟨t, ht, h⟩ := exists_of_bind_eq_ok h
    refine ⟨t, (Option.some.inj (Except.ok.inj h)).symm, ?_⟩
    by_cases isText : ∃ u, c = text u
    · obtain ⟨u, rfl⟩ := isText
      obtain rfl : u = t := Except.ok.inj ht
      rw [blank_text] at hblank
      obtain rfl := Except.ok.inj hblank
      exact shows_of_trim_ne_nil (by simpa using notBlank)
    · rw [not_exists] at isText
      exact shows_text? (withoutFraction_ne_text isText) (text?_of_asText ht)

end Cell

namespace ExtendedDecimal

/-- What is no number is an infinity or a NaN. -/
theorem special?_ne_finite (cs : List Char) (d : Decimal) : special? cs ≠ some (.finite d) := by
  intro h
  simp only [special?] at h
  split at h
  · exact absurd (Option.some.inj h) (by simp)
  · split at h
    · obtain ⟨n, -, heq⟩ := Option.map_eq_some_iff.1 h
      exact absurd heq (by simp)
    · obtain ⟨n, -, heq⟩ := Option.map_eq_some_iff.1 h
      exact absurd heq (by simp)
    · exact absurd h (by simp)

/-- What is read as a finite number is within the range of the format. -/
theorem inRange_of_ofText? {s : String} {d : Decimal} (h : ofText? s = some (.finite d)) :
    d.InRange := by
  rw [ofText?] at h
  split at h
  · split at h
    · next inRange =>
      cases h
      exact inRange
    · contradiction
  · exact absurd h (special?_ne_finite _ d)

end ExtendedDecimal

/-! ## Normal forms -/

/-- The value is written by a numeral that is not too long, by a number in the range of the format
    or by a text without blanks at its ends. -/
def FieldKind.IsNormal : (kind : FieldKind) → kind.Value → Prop
  | amount, n => Numeral.Fits (Int.ofNat n)
  | time, n => 0 ≤ n ∧ Numeral.Fits n
  | percent, d => d.InRange
  | text, s => trim s.toList = s.toList ∧ s.toList ≠ []

/-- All values of the record are in normal form. -/
def Record.IsNormal (r : Record) : Prop :=
  ∀ f v, r f = some v → f.kind.IsNormal v

/-- A value that was read from a cell and passed its check is in normal form, if it can be written
    where it is an integer. -/
theorem Cell.isNormal_of_read {kind : FieldKind} {c : Cell} {row : Option Int} {field : Field}
    {v : kind.Raw} {a : kind.Value} (h : c.read row field kind = .ok (some v))
    (ha : kind.check v = .valid a) (fits : ∀ n ∈ kind.integers a, Numeral.Fits n) :
    kind.IsNormal a := by
  cases kind with
  | amount => exact fits _ List.mem_cons_self
  | time =>
    obtain rfl := Validated.valid.inj ha
    exact ⟨Cell.readInteger_nonneg h, fits _ List.mem_cons_self⟩
  | percent =>
    obtain ⟨s, hs⟩ := exists_of_readPercent h
    cases v with
    | finite d =>
      obtain rfl := Validated.valid.inj ha
      exact ExtendedDecimal.inRange_of_ofText? hs
    | infinite => contradiction
    | nan => contradiction
  | text =>
    obtain rfl := Validated.valid.inj ha
    obtain ⟨t, rfl, shows⟩ := exists_of_readText h
    rw [FieldKind.IsNormal, strip, String.toList_ofList]
    exact ⟨trim_trim _, shows.trim_ne_nil⟩

/-- The records that are read from rows are normal forms. -/
theorem Record.isNormal_of_ofCells {layout : Layout} {row : Option Int} {cells : List Cell}
    {r : Record} (h : ofCells layout row cells = .ok r)
    (fits : ∀ n ∈ r.integers, Numeral.Fits n) : r.IsNormal := by
  obtain ⟨d, hd, hfield⟩ := ofCells_eq_ok h
  intro f a ha
  obtain ⟨v, hv, valid⟩ := Draft.exists_of_field (ha ▸ hfield f)
  rcases Draft.exists_cell hd hv with hempty | ⟨column, -, -, hread⟩
  · contradiction
  · exact Cell.isNormal_of_read hread valid fun n hn => fits n (mem_integers_iff.2 ⟨f, a, ha, hn⟩)

end VestingTable
