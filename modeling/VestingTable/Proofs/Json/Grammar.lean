import VestingTable.Proofs.Json.Scanning

/-!
# The grammar of JSON

What a text of a value is, said by a grammar, apart from the writer and the reader
(`Json.IsText`). Values whose numbers are integers have texts; numbers with a fraction are
left out. Blanks are allowed around all parts, and a character of a string may be written in
several ways.

* `Json.isText_renderAt`: a value is written as a text of its own, at any indentation.
-/

namespace VestingTable

/-- The digits are those of the number to the base ten, without a zero ahead. -/
structure Numeral.IsCanonical (n : Nat) (cs : List Char) : Prop where
  ne_nil : cs ≠ []
  isDigit : ∀ c ∈ cs, c.isDigit
  eq_zero : cs.head? = some '0' → cs = ['0']
  value : Numeral.value (cs.map fun c => c.toNat - 0x30) = n

theorem Numeral.isCanonical_digits (n : Nat) : IsCanonical n (digits n) where
  ne_nil := digits_ne_nil n
  isDigit _ := isDigit_of_mem_digits
  eq_zero h := by
    rcases Nat.eq_zero_or_pos n with rfl | hn
    · rfl
    · exact absurd h (head?_digits_ne hn)
  value := by
    induction n using Nat.strongRecOn with
    | ind n ih =>
      have digit : ∀ d < 10, (Nat.digitChar d).toNat - 0x30 = d := by decide
      -- The last digit is the remainder, the others are those of the tenth part.
      by_cases hn : n < 10
      · simp [digits, Nat.toDigits_of_lt_base hn, Numeral.value, digit n hn]
      · rw [digits_of_ten_le (Nat.not_lt.1 hn), List.map_append, List.map_singleton,
          value_append_singleton, ih (n / 10) (by omega), digit _ (Nat.mod_lt _ (by decide)),
          Nat.div_add_mod]

namespace Json

/-! ## Strings -/

/-- The letters behind a backslash, and the characters that they stand for. -/
def letterEscapes : List (Char × Char) :=
  [('\x22', '\x22'), ('\\', '\\'), ('/', '/'), ('b', '\x08'), ('f', '\x0c'), ('n', '\n'),
    ('r', '\r'), ('t', '\t')]

/-- The number of the digits to the base 16. -/
def IsUnit (cs : List Char) (n : Nat) : Prop :=
  ∃ ds, cs.length = 4 ∧ cs.mapM hexDigit? = some ds ∧ ds.foldl (fun n d => 16 * n + d) 0 = n

/-- A way to write a character in a string. -/
inductive IsSpelling : Char → List Char → Prop
  | plain {c : Char} (quote : c ≠ '\x22') (slash : c ≠ '\\') (control : 0x20 ≤ c.toNat) :
      IsSpelling c [c]
  | letter {c letter : Char} (h : (letter, c) ∈ letterEscapes) : IsSpelling c ['\\', letter]
  | unit {c : Char} {cs : List Char} (h : IsUnit cs c.toNat) : IsSpelling c ('\\' :: 'u' :: cs)
  | halves {c : Char} {cs more : List Char} {high low : Nat} (first : IsUnit cs high)
      (isHigh : IsHighHalf high) (second : IsUnit more low) (isLow : IsLowHalf low)
      (char : c.toNat = 0x10000 + (high - 0xD800) * 0x400 + (low - 0xDC00)) :
      IsSpelling c ('\\' :: 'u' :: cs ++ '\\' :: 'u' :: more)

/-- A way to write characters in a string. -/
inductive IsSpelled : List Char → List Char → Prop
  | nil : IsSpelled [] []
  | cons {c : Char} {chars cs more : List Char} (first : IsSpelling c cs)
      (rest : IsSpelled chars more) : IsSpelled (c :: chars) (cs ++ more)

/-- A way to write a string. -/
def IsStringText (s : String) (cs : List Char) : Prop :=
  ∃ inner, IsSpelled s.toList inner ∧ cs = '\x22' :: inner ++ ['\x22']

/-! ## Values -/

/-- Blanks that may stand between the parts of a text. -/
def IsBlank (cs : List Char) : Prop :=
  ∀ c ∈ cs, c = ' ' ∨ c = '\t' ∨ c = '\n' ∨ c = '\r'

/-- A string with blanks around it. -/
def IsName (s : String) (cs : List Char) : Prop :=
  ∃ before text after, IsBlank before ∧ IsStringText s text ∧ IsBlank after ∧
    cs = before ++ text ++ after

mutual

/-- A text of a value, with any blanks around it. -/
inductive IsText : Json → List Char → Prop
  | null : IsText .null ['n', 'u', 'l', 'l']
  | true : IsText (.bool true) ['t', 'r', 'u', 'e']
  | false : IsText (.bool false) ['f', 'a', 'l', 's', 'e']
  | natural {n : Nat} {cs : List Char} (h : Numeral.IsCanonical n cs) : IsText (.integer n) cs
  | negative {n : Nat} {cs : List Char} (h : Numeral.IsCanonical n cs) :
      IsText (.integer (-n)) ('-' :: cs)
  | string {s : String} {cs : List Char} (h : IsStringText s cs) : IsText (.string s) cs
  | emptyArray {blank : List Char} (h : IsBlank blank) : IsText (.array []) ('[' :: blank ++ [']'])
  | array {items : List Json} {cs : List Char} (h : IsItems items cs) :
      IsText (.array items) ('[' :: cs ++ [']'])
  | emptyObject {blank : List Char} (h : IsBlank blank) :
      IsText (.object []) ('\x7b' :: blank ++ ['\x7d'])
  | object {fields : List (String × Json)} {cs : List Char} (h : IsFields fields cs) :
      IsText (.object fields) ('\x7b' :: cs ++ ['\x7d'])
  | padded {v : Json} {before cs after : List Char} (hbefore : IsBlank before) (h : IsText v cs)
      (hafter : IsBlank after) : IsText v (before ++ cs ++ after)

/-- A text of items, of which there is at least one. -/
inductive IsItems : List Json → List Char → Prop
  | single {v : Json} {cs : List Char} (h : IsText v cs) : IsItems [v] cs
  | cons {v : Json} {items : List Json} {cs more : List Char} (first : IsText v cs)
      (rest : IsItems items more) : IsItems (v :: items) (cs ++ ',' :: more)

/-- A text of fields, of which there is at least one. -/
inductive IsFields : List (String × Json) → List Char → Prop
  | single {name : String} {v : Json} {cs more : List Char} (hname : IsName name cs)
      (h : IsText v more) : IsFields [(name, v)] (cs ++ ':' :: more)
  | cons {name : String} {v : Json} {fields : List (String × Json)} {cs more rest : List Char}
      (hname : IsName name cs) (first : IsText v more) (hrest : IsFields fields rest) :
      IsFields ((name, v) :: fields) (cs ++ ':' :: more ++ ',' :: rest)

end

/-! ## Texts that are written -/

theorem mem_letterEscapes {letter c : Char} (h : unescape? letter = some c) :
    (letter, c) ∈ letterEscapes := by
  unfold unescape? at h
  split at h
  case h_9 => contradiction
  all_goals
    obtain rfl := Option.some.inj h
    decide

/-- A character is written in one of its ways. -/
theorem isSpelling_escape (c : Char) : IsSpelling c (escape c) := by
  have written := isWritten_escape c
  generalize escape c = cs at written
  cases written with
  | letter h => exact .letter (mem_letterEscapes h)
  | @digits high low hhigh hlow value control =>
    have zero : hexDigit? '0' = some 0 := rfl
    refine .unit ⟨[0, 0, high, low], ?_⟩
    simp [zero, hexDigit?_digitChar hhigh, hexDigit?_digitChar hlow, value]
  | plain quote slash control => exact .plain quote slash (Nat.not_lt.1 control)

theorem isSpelled_flatMap_escape (cs : List Char) : IsSpelled cs (cs.flatMap escape) := by
  induction cs with
  | nil => exact .nil
  | cons c cs ih => exact .cons (isSpelling_escape c) ih

theorem isStringText_renderString (s : String) : IsStringText s (renderString s) :=
  ⟨_, isSpelled_flatMap_escape _, rfl⟩

theorem isBlank_nil : IsBlank [] :=
  fun _ h => absurd h List.not_mem_nil

theorem isBlank_of_isSpace {cs : List Char} (h : ∀ c ∈ cs, isSpace c) : IsBlank cs := by
  intro c hc
  simpa [isSpace, or_assoc] using h c hc

theorem isBlank_lineBreak (indent : Option Nat) (depth : Nat) : IsBlank (lineBreak indent depth) :=
  isBlank_of_isSpace fun _ => isSpace_of_mem_lineBreak

theorem exists_colonText (indent : Option Nat) :
    ∃ space, IsBlank space ∧ colonText indent = ':' :: space := by
  cases indent with
  | none => exact ⟨[], isBlank_nil, rfl⟩
  | some width => exact ⟨[' '], by simp [IsBlank], rfl⟩

theorem isName_renderString (indent : Option Nat) (depth : Nat) (s : String) :
    IsName s (lineBreak indent depth ++ renderString s) :=
  ⟨_, _, [], isBlank_lineBreak indent depth, isStringText_renderString s, isBlank_nil,
    (List.append_nil _).symm⟩

theorem IsText.behind {v : Json} {before cs : List Char} (hbefore : IsBlank before)
    (h : IsText v cs) : IsText v (before ++ cs) := by
  simpa using h.padded hbefore isBlank_nil

theorem IsText.ahead {v : Json} {cs after : List Char} (h : IsText v cs) (hafter : IsBlank after) :
    IsText v (cs ++ after) :=
  .padded isBlank_nil h hafter

variable {indent : Option Nat} {depth : Nat}

/-- An item with those behind it, up to the end of the list. -/
theorem isItems_renderItems {v : Json} {vs : List Json} {cs after : List Char} (hv : IsText v cs)
    (h : ∀ w ∈ vs, IsText w (renderAt indent depth w)) (hafter : IsBlank after) :
    IsItems (v :: vs) (cs ++ renderItems indent depth vs ++ after) := by
  -- The blanks ahead of the end of the list belong to the last item.
  induction vs generalizing v cs with
  | nil =>
    rw [renderItems, List.append_nil]
    exact .single (hv.ahead hafter)
  | cons w vs ih =>
    have next := (h w List.mem_cons_self).behind (isBlank_lineBreak indent depth)
    have rest := ih next fun u hu => h u (List.mem_cons_of_mem _ hu)
    rw [renderItems]
    simpa using IsItems.cons hv rest

theorem isFields_renderFields {name : String} {v : Json} {fs : List (String × Json)}
    {cs more after : List Char} (hname : IsName name cs) (hv : IsText v more)
    (h : ∀ f ∈ fs, IsText f.2 (renderAt indent depth f.2)) (hafter : IsBlank after) :
    IsFields ((name, v) :: fs) (cs ++ ':' :: more ++ renderFields indent depth fs ++ after) := by
  induction fs generalizing name v cs more with
  | nil =>
    rw [renderFields, List.append_nil, List.append_assoc]
    exact .single hname (hv.ahead hafter)
  | cons f fs ih =>
    obtain ⟨next, w⟩ := f
    obtain ⟨space, hspace, colon⟩ := exists_colonText indent
    have value := (h (next, w) List.mem_cons_self).behind hspace
    have rest := ih (isName_renderString indent depth next) value
      fun g hg => h g (List.mem_cons_of_mem _ hg)
    rw [renderFields, colon]
    simpa using IsFields.cons hname hv rest

theorem isText_signedDigits (n : Int) : IsText (.integer n) (Numeral.signedDigits n) := by
  cases n with
  | ofNat n => exact .natural (Numeral.isCanonical_digits n)
  | negSucc n => exact .negative (Numeral.isCanonical_digits (n + 1))

/-- A value is written as a text of its own. -/
theorem isText_renderAt {levels : Nat} {v : Json} (h : IsExact levels v) (indent : Option Nat)
    (depth : Nat) : IsText v (renderAt indent depth v) := by
  induction h generalizing depth with
  | null => exact .null
  | bool b => cases b <;> constructor
  | @integer levels n fits => exact isText_signedDigits n
  | string s => exact .string (isStringText_renderString s)
  | @array levels items _ ih =>
    cases items with
    | nil => exact .emptyArray isBlank_nil
    | cons v vs =>
      have first := (ih v List.mem_cons_self (depth + 1)).behind
        (isBlank_lineBreak indent (depth + 1))
      have items := isItems_renderItems first
        (fun w hw => ih w (List.mem_cons_of_mem _ hw) (depth + 1)) (isBlank_lineBreak indent depth)
      rw [renderAt]
      simpa using IsText.array items
  | @object levels fields _ ih =>
    cases fields with
    | nil => exact .emptyObject isBlank_nil
    | cons f fs =>
      obtain ⟨name, v⟩ := f
      obtain ⟨space, hspace, colon⟩ := exists_colonText indent
      have first := (ih (name, v) List.mem_cons_self (depth + 1)).behind hspace
      have fields := isFields_renderFields (isName_renderString indent (depth + 1) name) first
        (fun g hg => ih g (List.mem_cons_of_mem _ hg) (depth + 1)) (isBlank_lineBreak indent depth)
      rw [renderAt, colon]
      simpa using IsText.object fields

end Json

end VestingTable
