import VestingTable.Proofs.Agreement
import VestingTable.Proofs.Binary64.WholeText

/-!
# Cells that hold a whole number

A whole number comes as an integer, as a float, as a decimal number or as a
text of digits, depending on the kind of the table. Up to `Cell.maxExact` all
of these cells say the same in every column (`Cell.Writes.readInteger`,
`Cell.Writes.readPercent`, `Cell.Writes.readText`), so that cells agree if each
of them shows nothing, or both hold the same text or the same whole number
(`Cell.Agrees.read`).

The digits are those of the numeral, without a zero in front: in a column of
texts `007` is another text than `7`.
-/

namespace VestingTable.Cell

/-- The cell holds a whole number, in one of its forms. -/
inductive Writes (n : Nat) : Cell → Prop
  | integer : Writes n (.integer n)
  /-- Zero is also written as the float of a negative sign. -/
  | float {x : Binary64} (h : x.toInt? = some (n : Int)) : Writes n (.float x)
  | decimal : Writes n (.decimal (.finite ⟨false, n, 0⟩))
  | numeral : Writes n (.text (Numeral.ofNat n))

variable {n : Nat} {c : Cell}

/-! ## Cells that are not blank -/

theorem quoted_eq_ok_iff {shown : String} : c.quoted = .ok shown ↔ c.quoted? = some shown := by
  unfold quoted
  cases c.quoted? <;> simp

/-- A cell that is not blank is read as the integer that it denotes, unless this is negative. -/
theorem readInteger_eq_bind {shown : String} (blank : c.blank = .ok false)
    (quoted : c.quoted? = some shown) (row : Option Int) (field : Field) :
    c.readInteger row field = (c.integer? (refusal row field shown) shown).bind fun n =>
      if n < 0 then .error (refusal row field shown (.negative n)) else .ok (some n) := by
  rw [readInteger, blank, quoted_eq_ok_iff.2 quoted]
  rfl

/-! ## Floats and numerals -/

/-- A whole float has the sign that is written only if it is zero. -/
theorem exists_magnitude {x : Binary64} (h : x.toInt? = some (n : Int)) :
    ∃ (negative : Bool) (m : Binary64.Magnitude),
      x = .finite negative m ∧ m.toNat? = some n ∧ (negative = true → n = 0) := by
  cases x with
  | nan => contradiction
  | infinite => contradiction
  | finite negative m =>
    cases negative with
    | false =>
      obtain ⟨k, hk, heq⟩ := Option.map_eq_some_iff.1 h
      obtain rfl : k = n := Int.ofNat.inj heq
      exact ⟨false, m, rfl, hk, by simp⟩
    | true =>
      obtain ⟨k, hk, heq⟩ := Option.map_eq_some_iff.1 h
      have zero : k = 0 ∧ n = 0 := by
        simp only [Int.ofNat_eq_natCast] at heq
        omega
      obtain ⟨rfl, rfl⟩ := zero
      exact ⟨true, m, rfl, hk, fun _ => rfl⟩

theorem trim_digits (n : Nat) : Text.trim (Numeral.digits n) = Numeral.digits n :=
  Text.trim_eq_self_iff.2
    ⟨fun _ hc => Text.isBlank_of_isDigit (Numeral.isDigit_of_mem_digits (List.mem_of_mem_head? hc)),
      fun _ hc => Text.isBlank_of_isDigit (Numeral.isDigit_of_mem_digits (List.mem_of_getLast? hc))⟩

theorem not_mem_digits {n : Nat} {c : Char} (h : c.isDigit = false) : c ∉ Numeral.digits n :=
  fun hc => absurd (Numeral.isDigit_of_mem_digits hc) (by simp [h])

theorem length_digits_le (h : n ≤ maxExact) : (Numeral.digits n).length ≤ 16 :=
  Binary64.Magnitude.length_digits_le_sixteen h

theorem fits_of_le (h : n ≤ maxExact) : Numeral.Fits n :=
  Numeral.fits_natCast_of_le h (Nat.lt_of_lt_of_le (by decide : maxExact < Numeral.tenTo 16)
    (Numeral.tenTo_le (by decide : 16 ≤ Numeral.maxDigits)))

theorem ofInt?_natCast (h : n ≤ maxExact) : Numeral.ofInt? n = some (Numeral.ofNat n) :=
  if_pos (fits_of_le h)

theorem unsignedText_whole (n : Nat) :
    Decimal.unsignedText ⟨false, n, 0⟩ = Numeral.digits n := by
  have pos := Numeral.length_digits_pos n
  have adjusted : Decimal.adjusted ⟨false, n, 0⟩ = (Numeral.digits n).length - 1 := by
    rw [Decimal.adjusted, Int.zero_add]
  rw [Decimal.unsignedText, if_pos ⟨le_rfl, by rw [adjusted]; omega⟩]
  simp only [Int.zero_add]
  rw [Text.positional_of_length_le pos le_rfl, Nat.sub_self]
  exact List.append_nil _

theorem text?_integer (h : n ≤ maxExact) : (integer n).text? = some (Numeral.ofNat n) := by
  simp only [text?, quoted?, ofInt?_natCast h]

theorem text?_decimal (n : Nat) :
    (decimal (.finite ⟨false, n, 0⟩)).text? = some (Numeral.ofNat n) := by
  simp only [text?, ExtendedDecimal.text, Decimal.text, unsignedText_whole]
  rfl

/-- The text of a whole float is the numeral with an empty fraction. -/
theorem text_of_toInt? {x : Binary64} (h : x.toInt? = some (n : Int)) (hle : n ≤ maxExact) :
    ∃ negative : Bool, (negative = true → n = 0) ∧ x.text = String.ofList
      (Decimal.signText negative ++ (Numeral.digits n ++ ['.', '0'])) := by
  obtain ⟨negative, m, rfl, hm, hzero⟩ := exists_magnitude h
  exact ⟨negative, hzero, by rw [Binary64.text, Binary64.Magnitude.text_of_toNat? hm hle]⟩

/-- A cell that is no truth value is read as a percentage from its text. -/
theorem readPercent_of_text? {s : String} {x : ExtendedDecimal} (notBlank : c.blank = .ok false)
    (notBoolean : ∀ b, c ≠ boolean b) (htext : c.text? = some s)
    (hpercent : ExtendedDecimal.ofText? (percentText s) = some x) (row : Option Int) :
    c.readPercent row = .ok (some x) := by
  have text : c.asText = .ok s := by rw [asText, htext]
  rw [Cell.readPercent.eq_2 _ _ notBoolean, notBlank]
  simp only [bind, Except.bind, text, hpercent]
  rfl

namespace Writes

/-! ## In any column -/

theorem isBlank? (h : Writes n c) : c.isBlank? = some false := by
  cases h with
  | integer => rfl
  | float h =>
    obtain ⟨negative, m, rfl, -, -⟩ := exists_magnitude h
    rfl
  | decimal => rfl
  | numeral =>
    rw [Cell.isBlank?, Numeral.ofNat, String.toList_ofList, trim_digits]
    simp [Numeral.digits_ne_nil]

theorem blank (h : Writes n c) : c.blank = .ok false := by
  rw [Cell.blank, h.isBlank?]

theorem quoted (h : Writes n c) (hle : n ≤ maxExact) : ∃ shown, c.quoted = .ok shown := by
  cases h with
  | integer => exact ⟨_, by rw [Cell.quoted, quoted?, ofInt?_natCast hle]⟩
  | float => exact ⟨_, rfl⟩
  | decimal => exact ⟨_, rfl⟩
  | numeral => exact ⟨_, rfl⟩

/-! ## In a column of integers -/

theorem signedDigits?_ofNat (n : Nat) :
    ∃ ds, signedDigits? (Numeral.ofNat n) = some (false, ds) ∧ Numeral.value ds = n ∧
      ds.length = (Numeral.digits n).length := by
  obtain ⟨ds, hds, hvalue, hlength⟩ := Numeral.digits_values n
  have noDigits : separators.all (fun d => !d.isDigit) = true := by decide
  have noSeparator (d : Char) (hd : d ∈ separators) : d.isDigit = false := by
    simpa using List.all_eq_true.1 noDigits d hd
  have kept : (Numeral.digits n).filter (fun d => !separators.contains d) = Numeral.digits n :=
    List.filter_eq_self.2 fun d hd => by
      have : d ∉ separators := fun hmem => not_mem_digits (noSeparator d hmem) hd
      simpa using this
  have unsigned (cs : List Char) : Numeral.digits n ≠ '-' :: cs := fun heq =>
    not_mem_digits (n := n) (c := '-') rfl (heq ▸ List.mem_cons_self)
  refine ⟨ds, ?_, hvalue, hlength⟩
  rw [signedDigits?, Numeral.ofNat, String.toList_ofList, trim_digits, kept]
  split
  · next heq => exact absurd heq (unsigned _)
  · have some : someDigits? (Numeral.digits n) = .some ds := by
      rw [someDigits?, if_neg (by simp [Numeral.digits_ne_nil]), hds]
    rw [some, Option.map_some]

theorem integer? (h : Writes n c) (hle : n ≤ maxExact) (refuse : CellFault → Failure)
    (shown : String) : c.integer? refuse shown = .ok (n : Int) := by
  cases h with
  | integer => rfl
  | float h =>
    rw [Cell.integer?, h]
    exact if_neg (Nat.not_lt.2 hle)
  | decimal =>
    have held : Decimal.IsHeld ⟨false, n, 0⟩ := .inr (by
      have := length_digits_le hle
      simp only [Decimal.adjusted, Decimal.maxHeld]
      omega)
    simp only [Cell.integer?, if_pos held, Decimal.toInt?_whole]
  | numeral =>
    obtain ⟨ds, hds, hvalue, hlength⟩ := signedDigits?_ofNat n
    have short : ¬ Numeral.maxDigits < ds.length := by
      have := length_digits_le hle
      rw [Numeral.maxDigits, hlength]
      omega
    simp only [Cell.integer?, hds, integerOfDigits, if_neg short, hvalue]
    rfl

theorem readInteger (h : Writes n c) (hle : n ≤ maxExact) (row : Option Int) (field : Field) :
    c.readInteger row field = .ok (some (n : Int)) := by
  obtain ⟨shown, hshown⟩ := h.quoted hle
  have notNegative : ¬ (n : Int) < 0 := Int.not_lt.2 (Int.natCast_nonneg n)
  rw [readInteger_eq_bind h.blank (quoted_eq_ok_iff.1 hshown), h.integer? hle, Except.bind,
    if_neg notNegative]

/-! ## In the column of percentages -/

/-- A text that ends in no blank and in no percent sign is read as it stands. -/
theorem ofText?_percentText {cs : List Char} {d : Decimal} (trimmed : Text.trim cs = cs)
    (noSign : '%' ∉ cs) (noMark : '_' ∉ cs) (hscan : Decimal.scan? cs = some d)
    (inRange : d.InRange) :
    ExtendedDecimal.ofText? (percentText (String.ofList cs)) = some (.finite d) := by
  have kept : Text.dropEnd (· = '%') cs = cs := Text.dropEnd_eq_self_iff.2 fun c hc =>
    decide_eq_false fun hsign : c = '%' => noSign (hsign ▸ List.mem_of_getLast? hc)
  rw [percentText, String.toList_ofList, trimmed, kept, trimmed]
  exact ExtendedDecimal.ofText?_of_scan? trimmed noMark hscan inRange

theorem ofText?_digits (hle : n ≤ maxExact) :
    ExtendedDecimal.ofText? (percentText (Numeral.ofNat n)) = some (.finite ⟨false, n, 0⟩) := by
  refine ofText?_percentText (trim_digits n) (not_mem_digits rfl) (not_mem_digits rfl)
    (Decimal.scan?_digits n) ?_
  have := length_digits_le hle
  simp only [Decimal.InRange, Decimal.adjusted]
  omega

theorem cases_of_mem_emptyFraction {negative : Bool} {c : Char}
    (h : c ∈ Decimal.signText negative ++ (Numeral.digits n ++ ['.', '0'])) :
    c = '-' ∨ c = '.' ∨ c.isDigit := by
  rcases List.mem_append.1 h with hsign | h
  · cases negative with
    | true => exact .inl (List.mem_singleton.1 hsign)
    | false => exact absurd hsign List.not_mem_nil
  · rcases List.mem_append.1 h with hdigit | hfraction
    · exact .inr (.inr (Numeral.isDigit_of_mem_digits hdigit))
    · rcases List.mem_cons.1 hfraction with rfl | hzero
      · exact .inr (.inl rfl)
      · exact .inr (.inr (List.mem_singleton.1 hzero ▸ rfl))

theorem ofText?_emptyFraction (negative : Bool) (hle : n ≤ maxExact) :
    ExtendedDecimal.ofText? (percentText (String.ofList
      (Decimal.signText negative ++ (Numeral.digits n ++ ['.', '0'])))) =
        some (.finite ⟨negative, 10 * n, -1⟩) := by
  have notBlank {c : Char}
      (hc : c ∈ Decimal.signText negative ++ (Numeral.digits n ++ ['.', '0'])) :
      Text.isBlank c = false := by
    rcases cases_of_mem_emptyFraction hc with rfl | rfl | hdigit
    · rfl
    · rfl
    · exact Text.isBlank_of_isDigit hdigit
  refine ofText?_percentText ?_ (fun hc => ?_) (fun hc => ?_)
    (Decimal.scan?_emptyFraction negative n) ?_
  · exact Text.trim_eq_self_iff.2 ⟨fun _ hc => notBlank (List.mem_of_mem_head? hc),
      fun _ hc => notBlank (List.mem_of_getLast? hc)⟩
  · exact absurd (cases_of_mem_emptyFraction hc) (by decide)
  · exact absurd (cases_of_mem_emptyFraction hc) (by decide)
  · have small : maxExact < Numeral.tenTo 16 := by decide
    have length : (Numeral.digits (10 * n)).length ≤ 17 :=
      Numeral.length_digits_le (by decide) (by rw [Numeral.tenTo_succ]; omega)
    simp only [Decimal.InRange, Decimal.adjusted]
    omega

/-- The percentage that a cell with a whole number says has this number as its value. -/
theorem readPercent (h : Writes n c) (hle : n ≤ maxExact) (row : Option Int) :
    ∃ d : Decimal, c.readPercent row = .ok (some (.finite d)) ∧ d.toRat = n := by
  -- Each form is read from a text, that of the float having an empty fraction.
  have notBoolean (b : Bool) : c ≠ boolean b := by
    rintro rfl
    cases h
  have read {s : String} {d : Decimal} (htext : c.text? = some s)
      (hpercent : ExtendedDecimal.ofText? (percentText s) = some (.finite d)) :=
    readPercent_of_text? h.blank notBoolean htext hpercent row
  cases h with
  | integer =>
    exact ⟨_, read (text?_integer hle) (ofText?_digits hle), Decimal.toRat_whole n⟩
  | float h =>
    obtain ⟨negative, hzero, htext⟩ := text_of_toInt? h hle
    refine ⟨_, read (congrArg some htext) (ofText?_emptyFraction negative hle), ?_⟩
    cases negative with
    | false => exact Decimal.toRat_emptyFraction n
    | true =>
      rw [hzero rfl]
      exact Decimal.toRat_zero true (-1)
  | decimal => exact ⟨_, read (text?_decimal n) (ofText?_digits hle), Decimal.toRat_whole n⟩
  | numeral => exact ⟨_, read rfl (ofText?_digits hle), Decimal.toRat_whole n⟩

/-! ## In a column of texts -/

/-- The text that a cell with a whole number says is the numeral. -/
theorem readText (h : Writes n c) (hle : n ≤ maxExact) :
    c.readText = .ok (some (Numeral.ofNat n)) := by
  have strip : Text.strip (Numeral.ofNat n) = Numeral.ofNat n := by
    rw [Text.strip, Numeral.ofNat, String.toList_ofList, trim_digits]
  have htext : c.withoutFraction.text? = some (Numeral.ofNat n) := by
    cases h with
    | integer => exact text?_integer hle
    | float h =>
      rw [withoutFraction, h]
      exact text?_integer hle
    | decimal => exact text?_decimal n
    | numeral => rfl
  rw [Cell.readText, h.blank]
  simp only [bind, Except.bind, asText, htext]
  exact congrArg (fun s => Except.ok (some s)) strip

end Writes

/-! ## Cells that agree -/

/-- The cell shows nothing, as there is none or its text is blank. -/
def IsVoid : Cell → Prop
  | empty => True
  | text s => Text.trim s.toList = []
  | _ => False

theorem IsVoid.blank (h : c.IsVoid) : c.blank = .ok true := by
  cases c
  case empty => rfl
  case text s =>
    have trimmed : Text.trim s.toList = [] := h
    rw [Cell.blank, Cell.isBlank?, trimmed]
    rfl
  all_goals exact h.elim

theorem IsVoid.read (h : c.IsVoid) (row : Option Int) (field : Field) (kind : FieldKind) :
    c.read row field kind = .ok none :=
  read_of_blank h.blank row field kind

/-- Two cells both show nothing, or have the same text, or hold the same whole number. -/
inductive Agrees : Cell → Cell → Prop
  | void {a b : Cell} (ha : a.IsVoid) (hb : b.IsVoid) : Agrees a b
  | text (s : String) : Agrees (.text s) (.text s)
  | whole {n : Nat} (hn : n ≤ maxExact) {a b : Cell} (ha : Writes n a) (hb : Writes n b) :
    Agrees a b

theorem agreement_refl {E : Failure → Failure → Prop} (refl : ∀ f, E f f)
    {T : String → String → Prop} (same : ∀ s, T s s) {kind : FieldKind}
    (x : Except Failure (Option kind.Raw)) : Agreement E (Option.Rel (kind.RawAlike T)) x x := by
  cases x with
  | error f => exact .failed (refl f)
  | ok v =>
    cases v with
    | none => exact .read .none
    | some v =>
      refine .read (.some ?_)
      cases kind
      case percent => exact .inl rfl
      case text => exact same v
      all_goals exact rfl

/-- Cells that hold the same whole number are read alike in every column. -/
theorem Writes.agreement {E : Failure → Failure → Prop} {T : String → String → Prop}
    (same : ∀ s, T s s) {a b : Cell} (ha : Writes n a) (hb : Writes n b) (hle : n ≤ maxExact)
    (row row' : Option Int) (field : Field) (kind : FieldKind) :
    Agreement E (Option.Rel (kind.RawAlike T)) (a.read row field kind) (b.read row' field kind) := by
  cases kind with
  | percent =>
    obtain ⟨d, hd, hdn⟩ := ha.readPercent hle row
    obtain ⟨e, he, hen⟩ := hb.readPercent hle row'
    rw [Cell.read, Cell.read, hd, he]
    exact .read (.some (.inr ⟨d, e, rfl, rfl, hdn.trans hen.symm⟩))
  | text =>
    rw [Cell.read, Cell.read, ha.readText hle, hb.readText hle]
    exact .read (.some (same _))
  | amount | time =>
    rw [Cell.read, Cell.read, ha.readInteger hle, hb.readInteger hle]
    exact .read (.some rfl)

/-- Cells that agree are read alike in every column, and fail alike. -/
theorem Agrees.read {E : Failure → Failure → Prop} (refl : ∀ f, E f f)
    {T : String → String → Prop} (same : ∀ s, T s s) {a b : Cell} (h : a.Agrees b)
    (row : Option Int) (field : Field) (kind : FieldKind) :
    Agreement E (Option.Rel (kind.RawAlike T)) (a.read row field kind)
      (b.read row field kind) := by
  cases h with
  | void ha hb =>
    rw [ha.read, hb.read]
    exact .read .none
  | text s => exact agreement_refl refl same _
  | whole hn ha hb => exact ha.agreement same hb hn row row field kind

end VestingTable.Cell
