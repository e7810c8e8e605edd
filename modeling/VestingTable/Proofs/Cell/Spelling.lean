import Mathlib.Data.List.TakeWhile
import VestingTable.Cell.Reading
import VestingTable.Proofs.Numeral

/-!
# Spellings of an integer

In a column of amounts or times a text spells an integer by its digits, of any
scripts. Separators may stand anywhere, blanks only at the two ends, and a minus
sign before the first digit only if the integer is zero (`Cell.Spells`).

* `Cell.signedDigits?_of_shape`, `Cell.shape_of_signedDigits?`: the texts from which a sign
  and digits are read, in both directions;
* `Cell.readInteger_text_eq_ok_iff`: a text is read as an integer exactly if it spells it,
  and as none exactly if it is blank.
-/

namespace VestingTable

namespace Text

variable {cs : List Char}

/-! ## The blanks at the ends -/

theorem trimStart_append_of_blank {before : List Char} (h : ∀ c ∈ before, isBlank c) :
    trimStart (before ++ cs) = trimStart cs :=
  List.dropWhile_append_of_pos h

theorem dropEnd_append_of_pos {p : Char → Bool} {after : List Char} (h : ∀ c ∈ after, p c) :
    dropEnd p (cs ++ after) = dropEnd p cs := by
  rw [dropEnd, List.reverse_append,
    List.dropWhile_append_of_pos fun c hc => h c (List.mem_reverse.1 hc), dropEnd]

/-- Blanks at the two ends do not count. -/
theorem trim_append_of_blank {before after : List Char} (hbefore : ∀ c ∈ before, isBlank c)
    (hafter : ∀ c ∈ after, isBlank c) : trim (before ++ cs ++ after) = trim cs := by
  rw [List.append_assoc, trim, trimStart_append_of_blank hbefore, trimStart, List.dropWhile_append]
  split
  · next hnil =>
    -- There are only blanks, before the end as behind it.
    rw [trim, trimStart, List.isEmpty_iff.1 hnil, List.dropWhile_eq_nil_iff.2 hafter]
  · rw [dropEnd_append_of_pos hafter, trim, trimStart]

theorem eq_dropEnd_append (p : Char → Bool) (cs : List Char) :
    ∃ after, (∀ c ∈ after, p c) ∧ cs = dropEnd p cs ++ after := by
  refine ⟨(cs.reverse.takeWhile p).reverse,
    fun c hc => List.mem_takeWhile_imp (List.mem_reverse.1 hc), ?_⟩
  rw [dropEnd, ← List.reverse_append, List.takeWhile_append_dropWhile, List.reverse_reverse]

/-- Nothing but blanks is dropped. -/
theorem eq_append_trim_append (cs : List Char) :
    ∃ before after, (∀ c ∈ before, isBlank c) ∧ (∀ c ∈ after, isBlank c) ∧
      cs = before ++ trim cs ++ after := by
  obtain ⟨after, hafter, heq⟩ := eq_dropEnd_append isBlank (trimStart cs)
  refine ⟨cs.takeWhile isBlank, after, fun _ => List.mem_takeWhile_imp, hafter, ?_⟩
  rw [List.append_assoc, trim, ← heq, trimStart, List.takeWhile_append_dropWhile]

theorem trim_eq_nil_iff : trim cs = [] ↔ ∀ c ∈ cs, isBlank c := by
  constructor
  · intro h
    obtain ⟨before, after, hbefore, hafter, heq⟩ := eq_append_trim_append cs
    rw [h, List.append_nil] at heq
    intro c hc
    exact (List.mem_append.1 (heq ▸ hc)).elim (hbefore c) (hafter c)
  · intro h
    have dropped : trim (cs ++ [] ++ []) = trim [] := trim_append_of_blank h (by simp)
    rwa [List.append_nil, List.append_nil, trim_nil] at dropped

/-! ## The digits -/

/-- The values of the digits among the characters. -/
def digitsIn (cs : List Char) : List Nat :=
  cs.filterMap digit?

theorem digitsIn_append (cs ds : List Char) : digitsIn (cs ++ ds) = digitsIn cs ++ digitsIn ds :=
  List.filterMap_append

theorem digitsIn_eq_nil (h : ∀ c ∈ cs, digit? c = none) : digitsIn cs = [] :=
  List.filterMap_eq_nil_iff.2 h

/-- Characters that are no digits may be left out. -/
theorem digitsIn_filter {p : Char → Bool} (h : ∀ c, p c = false → digit? c = none) :
    digitsIn (cs.filter p) = digitsIn cs := by
  rw [digitsIn, digitsIn, List.filterMap_filter]
  refine List.filterMap_congr fun c _ => ?_
  cases hc : p c with
  | true => rfl
  | false => exact (h c hc).symm

theorem digitValues?_eq_some_iff {ds : List Nat} :
    Numeral.digitValues? cs = some ds ↔ (∀ c ∈ cs, isDigit c) ∧ digitsIn cs = ds := by
  induction cs generalizing ds with
  | nil => simp [Numeral.digitValues?, digitsIn]
  | cons c cs ih =>
    simp only [Numeral.digitValues?, List.mapM_cons, Option.bind_eq_bind, Option.bind_eq_some_iff,
      Option.pure_def, Option.some.injEq, List.forall_mem_cons] at ih ⊢
    constructor
    · rintro ⟨d, hd, rest, hrest, rfl⟩
      obtain ⟨hdigits, rfl⟩ := ih.1 hrest
      exact ⟨⟨Option.isSome_of_eq_some hd, hdigits⟩, List.filterMap_cons_some hd⟩
    · rintro ⟨⟨hc, hcs⟩, rfl⟩
      obtain ⟨d, hd⟩ := Option.isSome_iff_exists.1 hc
      exact ⟨d, hd, _, ih.2 ⟨hcs, rfl⟩, (List.filterMap_cons_some hd).symm⟩

/-- No range of blanks meets the digits of a script. -/
theorem digit?_of_isBlank {c : Char} (h : isBlank c) : digit? c = none := by
  have apart : ∀ range ∈ blanks, ∀ origin ∈ zeros,
      range.2 < origin ∨ origin + 10 ≤ range.1 := by decide +kernel
  obtain ⟨range, hrange, hlow, hhigh⟩ := Ranges.contains_iff.1 h
  rw [digit?, Option.map_eq_none_iff, List.find?_eq_none]
  intro origin horigin
  have := apart range hrange origin horigin
  simp only [Bool.and_eq_true, decide_eq_true_eq]
  omega

end Text

namespace Cell

open Text Decimal

variable {cs : List Char} {negative : Bool} {ds : List Nat}

/-! ## The sign and the digits of a text -/

/-- The characters but separators. -/
def unseparated (cs : List Char) : List Char :=
  cs.filter fun c => !separators.contains c

theorem digit?_of_mem_separators {c : Char} (h : c ∈ separators) : digit? c = none := by
  have none : separators.all (fun c => (digit? c).isNone) = true := by decide +kernel
  exact Option.isNone_iff_eq_none.1 (List.all_eq_true.1 none c h)

theorem digit?_of_mem_signText {c : Char} (h : c ∈ signText negative) : digit? c = none := by
  cases negative with
  | true => exact List.mem_singleton.1 h ▸ (by decide +kernel)
  | false => exact absurd h List.not_mem_nil

theorem digitsIn_unseparated : digitsIn (unseparated cs) = digitsIn cs :=
  digitsIn_filter fun _ hc => digit?_of_mem_separators (by simpa using hc)

theorem unseparated_eq_nil (h : ∀ c ∈ cs, c ∈ separators) : unseparated cs = [] :=
  List.filter_eq_nil_iff.2 fun c hc => by simpa using h c hc

theorem unseparated_append (cs ds : List Char) :
    unseparated (cs ++ ds) = unseparated cs ++ unseparated ds :=
  List.filter_append ..

theorem unseparated_signText (negative : Bool) :
    unseparated (signText negative) = signText negative := by
  cases negative <;> decide

/-- If the blanks of a text are separators, it need not be trimmed before these are left out. -/
theorem unseparated_trim (h : ∀ c ∈ cs, isBlank c → c ∈ separators) :
    unseparated (trim cs) = unseparated cs := by
  obtain ⟨before, after, hbefore, hafter, heq⟩ := eq_append_trim_append cs
  have dropped {ends : List Char} (hends : ∀ c ∈ ends, isBlank c) (hmem : ends ⊆ cs) :
      unseparated ends = [] :=
    unseparated_eq_nil fun c hc => h c (hmem hc) (hends c hc)
  have first : before ⊆ cs := fun c hc => heq ▸ by simp [hc]
  have last : after ⊆ cs := fun c hc => heq ▸ by simp [hc]
  conv_rhs => rw [heq]
  rw [unseparated_append, unseparated_append, dropped hbefore first, dropped hafter last,
    List.nil_append, List.append_nil]

theorem someDigits?_eq_some_iff :
    someDigits? cs = some ds ↔ (∀ c ∈ cs, isDigit c) ∧ digitsIn cs = ds ∧ ds ≠ [] := by
  rw [someDigits?, ← and_assoc, ← digitValues?_eq_some_iff]
  cases cs with
  | nil => simp [Numeral.digitValues?, eq_comm]
  | cons c cs =>
    rw [List.isEmpty_cons, if_neg Bool.false_ne_true, iff_self_and]
    intro h hnil
    have := Numeral.length_of_digitValues? h
    simp [hnil] at this

/-- A sign and digits are read from what is left without the separators. -/
theorem signedDigits?_eq_some_iff {s : String} :
    signedDigits? s = some (negative, ds) ↔
      ∃ rest, unseparated (trim s.toList) = signText negative ++ rest ∧
        someDigits? rest = some ds := by
  have minus : isDigit '-' = false := by decide +kernel
  rw [signedDigits?, ← unseparated]
  split
  · next rest heq =>
    rw [heq, Option.map_eq_some_iff]
    constructor
    · rintro ⟨ds', hds, hpair⟩
      obtain ⟨rfl, rfl⟩ := Prod.mk.inj hpair
      exact ⟨rest, rfl, hds⟩
    · rintro ⟨rest', hrest, hds⟩
      cases negative with
      | true => exact ⟨ds, (List.cons_eq_cons.1 hrest).2 ▸ hds, rfl⟩
      | false =>
        -- A minus sign is no digit.
        obtain rfl : '-' :: rest = rest' := hrest
        have := (someDigits?_eq_some_iff.1 hds).1 '-' List.mem_cons_self
        rw [minus] at this
        contradiction
  · next hunsigned =>
    rw [Option.map_eq_some_iff]
    constructor
    · rintro ⟨ds', hds, hpair⟩
      obtain ⟨rfl, rfl⟩ := Prod.mk.inj hpair
      exact ⟨_, rfl, hds⟩
    · rintro ⟨rest, hrest, hds⟩
      cases negative with
      | true => exact absurd hrest (hunsigned rest)
      | false => exact ⟨ds, hrest ▸ hds, rfl⟩

/-! ## Spellings -/

/-- What stands around the digits of a text: separators anywhere, blanks at the two ends, and
    before the first digit a minus sign if there is one. -/
structure IsShaped (negative : Bool) (before front back after : List Char) : Prop where
  before : ∀ c ∈ before, isBlank c
  front : ∀ c ∈ front, c ∈ separators
  back : ∀ c ∈ back, c ∈ separators ∨ isDigit c
  after : ∀ c ∈ after, isBlank c

/-- The text with the parts that `IsShaped` is about. -/
def shaped (negative : Bool) (before front back after : List Char) : List Char :=
  before ++ (front ++ (signText negative ++ back)) ++ after

variable {before front back after : List Char}

theorem digitsIn_shaped (h : IsShaped negative before front back after) :
    digitsIn (shaped negative before front back after) = digitsIn back := by
  rw [shaped, digitsIn_append, digitsIn_append, digitsIn_append, digitsIn_append,
    digitsIn_eq_nil fun c hc => digit?_of_isBlank (h.before c hc),
    digitsIn_eq_nil fun c hc => digit?_of_mem_separators (h.front c hc),
    digitsIn_eq_nil fun _ hc => digit?_of_mem_signText hc,
    digitsIn_eq_nil fun c hc => digit?_of_isBlank (h.after c hc),
    List.append_nil, List.nil_append, List.nil_append, List.nil_append]

theorem unseparated_trim_shaped (h : IsShaped negative before front back after) :
    unseparated (trim (shaped negative before front back after)) =
      signText negative ++ unseparated back := by
  have inner : ∀ c ∈ front ++ (signText negative ++ back), isBlank c → c ∈ separators := by
    intro c hc hblank
    rcases List.mem_append.1 hc with hfront | hc
    · exact h.front c hfront
    rcases List.mem_append.1 hc with hsign | hback
    · cases negative with
      | true =>
        rw [List.mem_singleton.1 hsign] at hblank
        exact absurd hblank (by decide)
      | false => exact absurd hsign List.not_mem_nil
    · refine (h.back c hback).resolve_right fun hdigit => ?_
      rw [isDigit, digit?_of_isBlank hblank] at hdigit
      contradiction
  rw [shaped, trim_append_of_blank h.before h.after, unseparated_trim inner, unseparated_append,
    unseparated_append, unseparated_eq_nil h.front, unseparated_signText, List.nil_append]

/-- Nothing that has the shape of an integer is refused for its characters. -/
theorem signedDigits?_of_shape {s : String} (h : IsShaped negative before front back after)
    (hs : s.toList = shaped negative before front back after) (hds : digitsIn s.toList = ds)
    (hne : ds ≠ []) : signedDigits? s = some (negative, ds) := by
  refine signedDigits?_eq_some_iff.2
    ⟨_, by rw [hs, unseparated_trim_shaped h], someDigits?_eq_some_iff.2 ⟨fun c hc => ?_, ?_, hne⟩⟩
  · obtain ⟨hback, hkept⟩ := List.mem_filter.1 hc
    exact (h.back c hback).resolve_left (by simpa using hkept)
  · rw [digitsIn_unseparated, ← digitsIn_shaped h, ← hs, hds]

/-- Nothing else is accepted. -/
theorem shape_of_signedDigits? {s : String} (h : signedDigits? s = some (negative, ds)) :
    digitsIn s.toList = ds ∧ ds ≠ [] ∧ ∃ before front back after,
      IsShaped negative before front back after ∧
        s.toList = shaped negative before front back after := by
  obtain ⟨rest, hrest, hds⟩ := signedDigits?_eq_some_iff.1 h
  obtain ⟨hdigit, hdigits, hne⟩ := someDigits?_eq_some_iff.1 hds
  obtain ⟨before, after, hbefore, hafter, heq⟩ := eq_append_trim_append s.toList
  -- The sign, if any, is found in the text, and in front of it are separators alone.
  obtain ⟨front, back, hfront, hback, hsplit⟩ : ∃ front back, (∀ c ∈ front, c ∈ separators) ∧
      unseparated back = rest ∧ trim s.toList = front ++ (signText negative ++ back) := by
    cases negative with
    | false => exact ⟨[], trim s.toList, by simp, hrest, rfl⟩
    | true =>
      obtain ⟨front, back, hsplit, hfront, -, hback⟩ := List.filter_eq_cons_iff.1 hrest
      exact ⟨front, back, fun c hc => by simpa using hfront c hc, hback, hsplit⟩
  have shape : IsShaped negative before front back after := by
    refine ⟨hbefore, hfront, fun c hc => ?_, hafter⟩
    by_cases hsep : c ∈ separators
    · exact .inl hsep
    · exact .inr (hdigit c (hback ▸ List.mem_filter.2 ⟨hc, by simpa using hsep⟩))
  have text : s.toList = shaped negative before front back after := by
    rw [shaped, ← hsplit, ← heq]
  refine ⟨?_, hne, before, front, back, after, shape, text⟩
  rw [text, digitsIn_shaped shape, ← digitsIn_unseparated, hback, hdigits]

/-- The text is a numeral of `n` that is not too long, with separators anywhere and blanks
    around it. Zero may have a minus sign before its first digit. -/
structure Spells (n : Nat) (cs : List Char) : Prop where
  digits_ne_nil : digitsIn cs ≠ []
  length_digits_le : (digitsIn cs).length ≤ Numeral.maxDigits
  value_digits : Numeral.value (digitsIn cs) = n
  shape : ∃ negative before front back after, (negative = true → n = 0) ∧
    IsShaped negative before front back after ∧ cs = shaped negative before front back after

/-- A number that can be written at all is spelled by its numeral, with blanks around it. -/
theorem spells_padded {n : Nat} (h : Numeral.Fits n) {before after : List Char}
    (hbefore : ∀ c ∈ before, isBlank c) (hafter : ∀ c ∈ after, isBlank c) :
    Spells n (before ++ Numeral.digits n ++ after) := by
  obtain ⟨ds, hds, hvalue, hlength⟩ := Numeral.digits_values n
  obtain ⟨hdigit, hdigits⟩ := digitValues?_eq_some_iff.1 hds
  have shape : IsShaped false before [] (Numeral.digits n) after :=
    ⟨hbefore, by simp, fun c hc => .inr (hdigit c hc), hafter⟩
  have text : before ++ Numeral.digits n ++ after =
      shaped false before [] (Numeral.digits n) after := rfl
  have digits : digitsIn (before ++ Numeral.digits n ++ after) = ds := by
    rw [text, digitsIn_shaped shape, hdigits]
  refine ⟨fun hnil => ?_, ?_, by rw [digits, hvalue], false, _, _, _, _, by simp, shape, text⟩
  · rw [← digits, hnil] at hlength
    exact absurd hlength (Nat.ne_of_lt (Numeral.length_digits_pos n))
  · rw [digits, hlength]
    exact Numeral.length_digits_le (by decide) h

/-! ## The reading of a text -/

theorem blank_text (s : String) : (text s).blank = .ok (trim s.toList).isEmpty := rfl

theorem readInteger_text_of_eq_nil {s : String} (h : trim s.toList = []) (row : Option Int)
    (field : Field) : (text s).readInteger row field = .ok none := by
  rw [readInteger, blank_text, h]
  rfl

/-- A text that is not blank is read from its sign and digits. -/
theorem readInteger_text_of_ne_nil {s : String} (h : trim s.toList ≠ []) (row : Option Int)
    (field : Field) :
    (text s).readInteger row field =
      match signedDigits? s with
      | none => .error (refusal row field (Text.quoted s) (.noInteger (Text.quoted s)))
      | some (negative, ds) =>
        if Numeral.maxDigits < ds.length then .error (.longNumeral (some ds.length))
        else if negative ∧ Numeral.value ds ≠ 0 then
          .error (refusal row field (Text.quoted s) (.negative (-Numeral.value ds)))
        else .ok (some (Numeral.value ds)) := by
  have shown : (text s).quoted = .ok (Text.quoted s) := rfl
  have notBlank : (text s).blank = .ok false := by
    rw [blank_text, List.isEmpty_eq_false_iff.2 h]
  rw [readInteger, notBlank, shown]
  simp only [bind, Except.bind, Bool.false_eq_true, if_false, integer?]
  cases signedDigits? s with
  | none => rfl
  | some pair =>
    obtain ⟨negative, ds⟩ := pair
    simp only [integerOfDigits]
    by_cases long : Numeral.maxDigits < ds.length
    · simp only [if_pos long]
    · simp only [if_neg long]
      cases negative with
      | true =>
        by_cases zero : Numeral.value ds = 0
        · simp [zero, pure, Except.pure]
        · have below : -Int.ofNat (Numeral.value ds) < 0 := by
            rw [Int.ofNat_eq_natCast]; omega
          simp only [if_true, if_pos below, true_and, if_pos zero]
          rfl
      | false =>
        have notBelow : ¬ (Numeral.value ds : Int) < 0 := Int.not_lt.2 (Int.natCast_nonneg _)
        simp [notBelow, pure, Except.pure]

/-- The spellings of a number are the texts from whose sign and digits it is read. -/
theorem spells_iff {s : String} {n : Nat} :
    Spells n s.toList ↔ ∃ negative ds, signedDigits? s = some (negative, ds) ∧
      ds.length ≤ Numeral.maxDigits ∧ (negative = true → Numeral.value ds = 0) ∧
        Numeral.value ds = n := by
  constructor
  · rintro ⟨hne, hlength, rfl, negative, before, front, back, after, hzero, shape, hs⟩
    exact ⟨negative, _, signedDigits?_of_shape shape hs rfl hne, hlength, hzero, rfl⟩
  · rintro ⟨negative, ds, hds, hlength, hzero, rfl⟩
    obtain ⟨rfl, hne, before, front, back, after, shape, hs⟩ := shape_of_signedDigits? hds
    exact ⟨hne, hlength, rfl, negative, before, front, back, after, hzero, shape, hs⟩

theorem readInteger_text_eq_some_iff {s : String} {row : Option Int} {field : Field} {m : Int} :
    (text s).readInteger row field = .ok (some m) ↔ ∃ negative ds,
      signedDigits? s = some (negative, ds) ∧ ds.length ≤ Numeral.maxDigits ∧
        (negative = true → Numeral.value ds = 0) ∧ m = Numeral.value ds := by
  by_cases hblank : trim s.toList = []
  · have none : signedDigits? s = none := by
      rw [signedDigits?, hblank]
      rfl
    simp [readInteger_text_of_eq_nil hblank, none]
  · rw [readInteger_text_of_ne_nil hblank]
    cases hds : signedDigits? s with
    | none => simp
    | some pair =>
      obtain ⟨negative, ds⟩ := pair
      simp only [Option.some.injEq, Prod.mk.injEq]
      constructor
      · intro h
        split at h
        · contradiction
        · next hlength =>
          split at h
          · contradiction
          · next hsign =>
            refine ⟨negative, ds, ⟨rfl, rfl⟩, Nat.not_lt.1 hlength, fun hneg => ?_,
              (Option.some.inj (Except.ok.inj h)).symm⟩
            exact Decidable.not_not.1 fun hvalue => hsign ⟨hneg, hvalue⟩
      · rintro ⟨_, _, ⟨rfl, rfl⟩, hlength, hzero, rfl⟩
        rw [if_neg (Nat.not_lt.2 hlength), if_neg fun ⟨hneg, hvalue⟩ => hvalue (hzero hneg)]

theorem readInteger_text_eq_none_iff {s : String} {row : Option Int} {field : Field} :
    (text s).readInteger row field = .ok none ↔ ∀ c ∈ s.toList, isBlank c := by
  rw [← trim_eq_nil_iff]
  refine ⟨fun h => ?_, fun h => readInteger_text_of_eq_nil h row field⟩
  by_contra hblank
  rw [readInteger_text_of_ne_nil hblank] at h
  -- No outcome of a text that is not blank is an absent value.
  split at h
  · contradiction
  · split at h
    · contradiction
    · split at h
      · contradiction
      · exact absurd (Except.ok.inj h) (by simp)

/-- A text is read as an integer exactly if it spells this integer, and as none exactly if it is
    blank. -/
theorem readInteger_text_eq_ok_iff (s : String) (row : Option Int) (field : Field) :
    (∀ m : Int, (text s).readInteger row field = .ok (some m) ↔
      ∃ n : Nat, m = n ∧ Spells n s.toList) ∧
    ((text s).readInteger row field = .ok none ↔ ∀ c ∈ s.toList, isBlank c) := by
  refine ⟨fun m => ?_, readInteger_text_eq_none_iff⟩
  rw [readInteger_text_eq_some_iff]
  constructor
  · rintro ⟨negative, ds, hds, hlength, hzero, rfl⟩
    exact ⟨_, rfl, spells_iff.2 ⟨negative, ds, hds, hlength, hzero, rfl⟩⟩
  · rintro ⟨n, rfl, h⟩
    obtain ⟨negative, ds, hds, hlength, hzero, rfl⟩ := spells_iff.1 h
    exact ⟨negative, ds, hds, hlength, hzero, rfl⟩

end Cell

end VestingTable
