import VestingTable.Text.Range

/-!
# Blank characters

The characters that do not count at the two ends of a cell's text: the ASCII
separators and the spaces and line ends of the Unicode standard. Zero-width
characters are not blank.

* `trim` drops the blank characters at both ends, and nothing else
  (`trim_eq_self_iff`: it fixes exactly the texts without a blank end).
-/

namespace VestingTable.Text

/-- The blank characters. -/
def blanks : Ranges :=
  [(0x09, 0x0D), (0x1C, 0x20), (0x85, 0x85), (0xA0, 0xA0), (0x1680, 0x1680), (0x2000, 0x200A),
   (0x2028, 0x2029), (0x202F, 0x202F), (0x205F, 0x205F), (0x3000, 0x3000)]

/-- A character that does not count at the ends of a text. -/
def isBlank (c : Char) : Bool :=
  blanks.contains c

/-- The text without its leading blank characters. -/
def trimStart (cs : List Char) : List Char :=
  cs.dropWhile isBlank

/-- The text without its trailing characters of a class. -/
def dropEnd (p : Char → Bool) (cs : List Char) : List Char :=
  (cs.reverse.dropWhile p).reverse

/-- The text without the blank characters at its two ends. -/
def trim (cs : List Char) : List Char :=
  dropEnd isBlank (trimStart cs)

/-- The text of a string without the blank characters at its two ends. -/
def strip (s : String) : String :=
  String.ofList (trim s.toList)

theorem dropWhile_eq_self_iff {p : Char → Bool} {cs : List Char} :
    cs.dropWhile p = cs ↔ ∀ c ∈ cs.head?, p c = false := by
  cases cs with
  | nil => simp
  | cons c r =>
    by_cases h : p c
    · simp only [List.dropWhile_cons, h, if_true, List.head?_cons, Option.mem_def,
        Option.some.injEq, forall_eq', Bool.true_eq_false, iff_false]
      intro e
      have := congrArg List.length e
      have := (List.dropWhile_sublist p (l := r)).length_le
      grind
    · simp [h]

theorem dropEnd_eq_self_iff {p : Char → Bool} {cs : List Char} :
    dropEnd p cs = cs ↔ ∀ c ∈ cs.getLast?, p c = false := by
  rw [dropEnd, List.reverse_eq_iff, dropWhile_eq_self_iff, List.head?_reverse]

theorem trim_nil : trim [] = [] := rfl

theorem length_dropEnd_le (p : Char → Bool) (cs : List Char) :
    (dropEnd p cs).length ≤ cs.length := by
  have h : (cs.reverse.dropWhile p).length ≤ cs.reverse.length :=
    (List.dropWhile_sublist p).length_le
  simpa [dropEnd] using h

/-- Trimming fixes exactly the texts whose two ends are not blank. -/
theorem trim_eq_self_iff {cs : List Char} :
    trim cs = cs ↔ (∀ c ∈ cs.head?, isBlank c = false) ∧ ∀ c ∈ cs.getLast?, isBlank c = false := by
  rw [← dropWhile_eq_self_iff, ← dropEnd_eq_self_iff]
  constructor
  · intro h
    have suffix : trimStart cs <:+ cs := List.dropWhile_suffix isBlank
    have long : cs.length ≤ (trimStart cs).length := by
      have := length_dropEnd_le isBlank (trimStart cs)
      rwa [show dropEnd isBlank (trimStart cs) = cs from h] at this
    have start : trimStart cs = cs := suffix.eq_of_length_le long
    exact ⟨start, by rwa [trim, start] at h⟩
  · rintro ⟨start, stop⟩
    rw [trim, trimStart, start, stop]

end VestingTable.Text
