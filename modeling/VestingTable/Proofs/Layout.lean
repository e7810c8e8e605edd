import Mathlib.Data.List.Nodup
import VestingTable.Layout
import VestingTable.Proofs.Cell.Normal

/-!
# Texts of layouts

The text of a layout is divided twice: when it is checked, and where its columns are needed. In
between it is kept without the blanks around its names. The kept text has the same names between
its commas as the given one (`Layout.namesIn_keptText`), so the columns are those that were given,
and a kept text is kept as it is.

* `Layout.IsValid`: each name of a text is empty or that of a field, and no field is named twice;
* `Layout.validate_eq_ok_iff`: these texts are accepted, and kept with their names trimmed;
* `Layout.names_ofText_keptText`: the columns of a valid text, part by part.
-/

namespace VestingTable

/-! ## Lists that are divided, and lists without repetitions -/

/-- No part of a text has the character at which it was divided. -/
theorem not_mem_of_mem_splitOn {c : Char} {cs part : List Char} (h : part ∈ cs.splitOn c) :
    c ∉ part := by
  induction cs generalizing part with
  | nil =>
    rw [List.splitOn_nil, List.mem_singleton] at h
    simp [h]
  | cons d cs ih =>
    rw [List.splitOn_cons_eq_if_modifyHead] at h
    split at h
    · rcases List.mem_cons.1 h with rfl | h
      · exact List.not_mem_nil
      · exact ih h
    · next hne =>
      -- The first part has one character more, at which the text is not divided.
      obtain ⟨first, rest, heq⟩ := List.exists_cons_of_ne_nil (List.splitOn_ne_nil c cs)
      rw [heq] at h ih
      rcases List.mem_cons.1 h with rfl | h
      · have hdc : c ≠ d := fun heq => hne (by simp [heq])
        exact List.not_mem_cons_of_ne_of_not_mem hdc (ih List.mem_cons_self)
      · exact ih (List.mem_cons_of_mem _ h)

theorem length_eraseDups_le {α : Type} [BEq α] (as : List α) :
    as.eraseDups.length ≤ as.length := by
  match as with
  | [] => simp
  | a :: as =>
    have filtered := List.length_filter_le (fun b => !b == a) as
    have rest := length_eraseDups_le (as.filter fun b => !b == a)
    rw [List.eraseDups_cons, List.length_cons, List.length_cons]
    omega
termination_by as.length
decreasing_by exact Nat.lt_succ_of_le (List.length_filter_le _ _)

/-- A list is as long without repetitions only if it has none. -/
theorem length_eraseDups_eq_iff {α : Type} [BEq α] [LawfulBEq α] {as : List α} :
    as.eraseDups.length = as.length ↔ as.Nodup := by
  induction as with
  | nil => simp
  | cons a as ih =>
    rw [List.eraseDups_cons, List.length_cons, List.length_cons, Nat.add_right_cancel_iff,
      List.nodup_cons, ← ih]
    constructor
    · intro h
      -- What the filter leaves is shorter if it leaves out anything.
      have kept : (as.filter fun b => !b == a) = as :=
        List.filter_sublist.eq_of_length_le (h ▸ length_eraseDups_le _)
      refine ⟨fun hmem => ?_, by rwa [kept] at h⟩
      have := List.filter_eq_self.1 kept a hmem
      simp at this
    · rintro ⟨absent, h⟩
      have kept : (as.filter fun b => !b == a) = as :=
        List.filter_eq_self.2 fun b hb => by
          have hne : b ≠ a := fun heq => absent (heq ▸ hb)
          simpa using hne
      rwa [kept]

namespace Layout

variable {s t : String}

/-! ## Texts between commas -/

theorem comma_not_mem_of_mem_parts {part : String} (h : part ∈ parts s) : ',' ∉ part.toList := by
  obtain ⟨cs, hcs, rfl⟩ := List.mem_map.1 h
  rw [String.toList_ofList]
  exact not_mem_of_mem_splitOn hcs

/-- Texts without a comma are found again between the commas. -/
theorem parts_join {names : List String} (hne : names ≠ [])
    (free : ∀ name ∈ names, ',' ∉ name.toList) : parts (join names) = names := by
  have divided : ([','].intercalate (names.map String.toList)).splitOn ',' =
      names.map String.toList :=
    List.splitOn_intercalate ',' (by simpa using free) (by simpa using hne)
  have chars : (join names).toList = [','].intercalate (names.map String.toList) :=
    String.toList_intercalate
  rw [parts, chars, divided, List.map_map]
  simp

/-- The names between the commas of a text, without blanks around them. -/
def namesIn (s : String) : List String :=
  (parts s).map Text.strip

/-- The text as it is kept. -/
def keptText (s : String) : String :=
  join (namesIn s)

theorem comma_not_mem_of_mem_namesIn {name : String} (h : name ∈ namesIn s) :
    ',' ∉ name.toList := by
  obtain ⟨part, hpart, rfl⟩ := List.mem_map.1 h
  obtain ⟨before, after, -, -, heq⟩ := Text.eq_append_trim_append part.toList
  intro hmem
  rw [Text.strip, String.toList_ofList] at hmem
  exact comma_not_mem_of_mem_parts hpart (heq ▸ by simp [hmem])

theorem parts_keptText (s : String) : parts (keptText s) = namesIn s :=
  parts_join (by simp [namesIn, parts, List.splitOn_ne_nil]) fun _ => comma_not_mem_of_mem_namesIn

/-- The kept text has the same names. -/
theorem namesIn_keptText (s : String) : namesIn (keptText s) = namesIn s := by
  rw [namesIn, parts_keptText, namesIn, List.map_map]
  exact List.map_congr_left fun part _ => Text.strip_strip part

theorem keptText_keptText (s : String) : keptText (keptText s) = keptText s := by
  rw [keptText, namesIn_keptText, keptText]

/-! ## Valid texts -/

/-- Each name of the text is empty or that of a field, and no field is named twice. -/
structure IsValid (s : String) : Prop where
  known : ∀ name ∈ namesIn s, name = "" ∨ ∃ f : Field, name = f.key
  once : ∀ f : Field, (namesIn s).count f.key ≤ 1

instance (s : String) : Decidable (IsValid s) :=
  decidable_of_iff
    ((∀ name ∈ namesIn s, name = "" ∨ ∃ f ∈ Field.all, name = f.key) ∧
      ∀ f ∈ Field.all, (namesIn s).count f.key ≤ 1)
    ⟨fun ⟨known, once⟩ => ⟨fun name h => (known name h).imp_right fun ⟨f, _, hf⟩ => ⟨f, hf⟩,
        fun f => once f (Field.mem_all f)⟩,
      fun ⟨known, once⟩ => ⟨fun name h => (known name h).imp_right fun ⟨f, hf⟩ =>
        ⟨f, Field.mem_all f, hf⟩, fun f _ => once f⟩⟩

theorem IsValid.keptText (h : IsValid s) : IsValid (keptText s) where
  known := by
    rw [namesIn_keptText]
    exact h.known
  once := by
    rw [namesIn_keptText]
    exact h.once

/-- A name is one that the check complains about unless it is empty or that of a field. -/
theorem unknown_eq_nil_iff : (((namesIn s).filter (!·.isEmpty)).filter fun name =>
      (Field.ofKey? name).isNone) = [] ↔
    ∀ name ∈ namesIn s, name = "" ∨ ∃ f : Field, name = f.key := by
  rw [List.filter_filter, List.filter_eq_nil_iff]
  refine forall₂_congr fun name _ => ?_
  by_cases hname : name = ""
  · simp [hname]
  · simp [hname, Field.ofKey?_eq_none_iff]

/-- Where all names are empty or those of fields, the ones that are not empty have no repetition
    exactly if no field is named twice. -/
theorem nodup_given_iff (known : ∀ name ∈ namesIn s, name = "" ∨ ∃ f : Field, name = f.key) :
    ((namesIn s).filter (!·.isEmpty)).Nodup ↔ ∀ f : Field, (namesIn s).count f.key ≤ 1 := by
  have counted (f : Field) : ((namesIn s).filter (!·.isEmpty)).count f.key =
      (namesIn s).count f.key :=
    List.count_filter (by simp [Field.isEmpty_key])
  rw [List.nodup_iff_count_le_one]
  constructor
  · exact fun h f => counted f ▸ h f.key
  · intro h name
    by_cases given : name ∈ (namesIn s).filter (!·.isEmpty)
    · obtain ⟨hmem, notEmpty⟩ := List.mem_filter.1 given
      rcases known name hmem with rfl | ⟨f, rfl⟩
      · contradiction
      · exact counted f ▸ h f
    · rw [List.count_eq_zero_of_not_mem given]
      exact Nat.zero_le 1

/-- The valid texts are accepted, and kept with their names trimmed. -/
theorem validate_eq_ok_iff : validate s = .ok t ↔ IsValid s ∧ t = Layout.keptText s := by
  rw [validate]
  split
  · next hnil =>
    have known := unknown_eq_nil_iff.1 hnil
    split
    · next hlength =>
      have once := (nodup_given_iff known).1 (length_eraseDups_eq_iff.1 hlength)
      rw [Except.ok.injEq, and_iff_right ⟨known, once⟩, eq_comm]
      rfl
    · next hlength =>
      refine iff_of_false (by simp) fun ⟨valid, _⟩ => hlength ?_
      exact length_eraseDups_eq_iff.2 ((nodup_given_iff known).2 valid.once)
  · next unknown =>
    refine iff_of_false (by simp) fun ⟨valid, _⟩ => unknown ?_
    exact unknown_eq_nil_iff.2 valid.known

/-! ## The columns of a valid text -/

/-- A kept text gives each part of a valid text its column. -/
theorem names_ofText_keptText (h : IsValid s) :
    (ofText (Layout.keptText s)).names = (parts s).map fun part =>
      if Text.strip part = "" then none else some (Text.strip part) := by
  rw [ofText, parts_keptText, namesIn, ofNames, names]
  simp only [List.map_map]
  refine List.map_congr_left fun part hpart => ?_
  -- A name of the text is found among those of the fields, unless it is empty.
  rcases h.known _ (List.mem_map_of_mem hpart) with hname | ⟨f, hname⟩
  · have absent : Field.ofKey? "" = none := rfl
    simp [hname, absent]
  · have notEmpty : f.key ≠ "" := fun heq => by simpa [heq] using Field.isEmpty_key f
    simp [hname, notEmpty]

/-- No field has two columns. -/
theorem nodup_ofText_keptText (h : IsValid s) :
    ((ofText (Layout.keptText s)).filterMap id).Nodup := by
  rw [ofText, parts_keptText, ofNames, List.map_map, List.filterMap_map,
    List.nodup_iff_count_le_one]
  intro f
  suffices counted : ((namesIn s).filterMap Field.ofKey?).count f = (namesIn s).count f.key from
    counted.trans_le (h.once f)
  rw [List.count, List.countP_filterMap, List.count]
  refine List.countP_congr fun name _ => ?_
  rw [beq_iff_eq, eq_comm (b := f.key), ← Field.ofKey?_eq_some_iff]
  cases Field.ofKey? name <;> simp

end Layout

end VestingTable
