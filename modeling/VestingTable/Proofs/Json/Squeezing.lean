import VestingTable.Proofs.Json.Scanning

/-!
# Blanks of JSON texts

A text without the blanks outside of its strings (`Json.squeeze`). Which quotation marks start a
string shows only when a text is read from its start, so its characters are taken one by one,
with the place that they are at (`Json.Place`). A part of a text leads from a place to another
(`Json.Squeezes`), and parts are put together by `Json.Squeezes.trans`.

* `Json.squeeze_renderAt`: a value at any indentation is squeezed to its text on a single line.
  So its texts at two indentations differ in blanks outside of strings only.
-/

namespace VestingTable.Json

/-- Where a character of a text is. -/
inductive Place
  | outside
  | inside
  /-- Behind a backslash in a string. -/
  | escaped
deriving DecidableEq

/-- Where the character behind the given one is. -/
def Place.next : Place → Char → Place
  | outside, c => if c = '\x22' then inside else outside
  | inside, c => if c = '\x22' then outside else if c = '\\' then escaped else inside
  | escaped, _ => inside

/-- The rest of a text, from a place on, without the blanks outside of strings. -/
def squeezeFrom : Place → List Char → List Char
  | _, [] => []
  | place, c :: cs =>
    if place = .outside ∧ isSpace c then squeezeFrom place cs
    else c :: squeezeFrom (place.next c) cs

/-- A text without the blanks outside of strings. -/
def squeeze (cs : List Char) : List Char :=
  squeezeFrom .outside cs

/-- A part of a text leads from a place to another, and is `ds` without its blanks. -/
def Squeezes (p q : Place) (cs ds : List Char) : Prop :=
  ∀ more, squeezeFrom p (cs ++ more) = ds ++ squeezeFrom q more

namespace Squeezes

variable {p q r : Place} {cs ds : List Char}

theorem nil (p : Place) : Squeezes p p [] [] :=
  fun _ => rfl

theorem trans {more rest : List Char} (h : Squeezes p q cs ds) (h' : Squeezes q r more rest) :
    Squeezes p r (cs ++ more) (ds ++ rest) := by
  intro tail
  rw [List.append_assoc, h, h', List.append_assoc]

/-- Blanks that are dropped. -/
theorem trans_nil {more : List Char} (h : Squeezes p q cs ds) (h' : Squeezes q r more []) :
    Squeezes p r (cs ++ more) ds := by
  simpa using h.trans h'

theorem char {c : Char} (h : p = .outside → isSpace c = false) :
    Squeezes p (p.next c) [c] [c] := by
  intro more
  exact if_neg fun hc => absurd hc.2 (by simp [h hc.1])

end Squeezes

theorem squeezes_spaces {cs : List Char} (h : ∀ c ∈ cs, isSpace c) :
    Squeezes .outside .outside cs [] := by
  intro more
  induction cs with
  | nil => rfl
  | cons c cs ih =>
    have space : isSpace c := h c List.mem_cons_self
    rw [List.cons_append, squeezeFrom, if_pos ⟨rfl, space⟩]
    exact ih fun d hd => h d (List.mem_cons_of_mem _ hd)

/-- Neither a blank nor the start of a string. -/
def IsSolid (c : Char) : Prop :=
  isSpace c = false ∧ c ≠ '\x22'

theorem squeezes_solid {cs : List Char} (h : ∀ c ∈ cs, IsSolid c) :
    Squeezes .outside .outside cs cs := by
  induction cs with
  | nil => exact .nil _
  | cons c cs ih =>
    obtain ⟨space, quote⟩ := h c List.mem_cons_self
    have first : Squeezes .outside .outside [c] [c] := by
      simpa [Place.next, quote] using Squeezes.char (p := .outside) fun _ => space
    exact first.trans (ih fun d hd => h d (List.mem_cons_of_mem _ hd))

theorem squeezes_inside {c : Char} (quote : c ≠ '\x22') (slash : c ≠ '\\') :
    Squeezes .inside .inside [c] [c] := by
  simpa [Place.next, quote, slash] using Squeezes.char (p := .inside) (c := c) (by simp)

theorem squeezes_letter (c : Char) : Squeezes .inside .inside ['\\', c] ['\\', c] := by
  have slash : Squeezes .inside .escaped ['\\'] ['\\'] := .char (by simp)
  have letter : Squeezes .escaped .inside [c] [c] := .char (by simp)
  exact slash.trans letter

/-- A character of a string stays as it is written. -/
theorem squeezes_escape (c : Char) : Squeezes .inside .inside (escape c) (escape c) := by
  have written := isWritten_escape c
  generalize escape c = cs at written
  cases written with
  | letter h => exact squeezes_letter _
  | @digits high low hhigh hlow value control =>
    have digit : ∀ d < 16, Nat.digitChar d ≠ '\x22' ∧ Nat.digitChar d ≠ '\\' := by decide
    obtain ⟨highQuote, highSlash⟩ := digit high hhigh
    obtain ⟨lowQuote, lowSlash⟩ := digit low hlow
    have zero : Squeezes .inside .inside ['0'] ['0'] := squeezes_inside (by decide) (by decide)
    exact (squeezes_letter 'u').trans (zero.trans (zero.trans
      ((squeezes_inside highQuote highSlash).trans (squeezes_inside lowQuote lowSlash))))
  | plain quote slash control => exact squeezes_inside quote slash

theorem squeezes_flatMap_escape (cs : List Char) :
    Squeezes .inside .inside (cs.flatMap escape) (cs.flatMap escape) := by
  induction cs with
  | nil => exact .nil _
  | cons c cs ih => exact (squeezes_escape c).trans ih

theorem squeezes_renderString (s : String) :
    Squeezes .outside .outside (renderString s) (renderString s) := by
  have opened : Squeezes .outside .inside ['\x22'] ['\x22'] := .char fun _ => rfl
  have closed : Squeezes .inside .outside ['\x22'] ['\x22'] := .char (by simp)
  exact (opened.trans (squeezes_flatMap_escape _)).trans closed

theorem squeezes_lineBreak (indent : Option Nat) (depth : Nat) :
    Squeezes .outside .outside (lineBreak indent depth) [] :=
  squeezes_spaces fun _ => isSpace_of_mem_lineBreak

theorem squeezes_mark {c : Char} (h : IsSolid c) : Squeezes .outside .outside [c] [c] :=
  squeezes_solid (by simpa using h)

theorem squeezes_colonText (indent : Option Nat) :
    Squeezes .outside .outside (colonText indent) [':'] := by
  have colon : Squeezes .outside .outside [':'] [':'] := squeezes_mark ⟨rfl, by decide⟩
  cases indent with
  | none => exact colon
  | some width =>
    have space : Squeezes .outside .outside [' '] [] := squeezes_spaces (by simp [isSpace])
    exact colon.trans_nil space

variable {indent : Option Nat} {depth : Nat}

theorem squeezes_renderItems {vs : List Json}
    (h : ∀ v ∈ vs, Squeezes .outside .outside (renderAt indent depth v) (renderAt none depth v)) :
    Squeezes .outside .outside (renderItems indent depth vs) (renderItems none depth vs) := by
  induction vs with
  | nil => exact .nil _
  | cons v vs ih =>
    have comma : Squeezes .outside .outside [','] [','] := squeezes_mark ⟨rfl, by decide⟩
    have value := h v List.mem_cons_self
    have rest := ih fun w hw => h w (List.mem_cons_of_mem _ hw)
    rw [renderItems, renderItems]
    exact ((comma.trans_nil (squeezes_lineBreak indent depth)).trans value).trans rest

theorem squeezes_renderFields {fs : List (String × Json)}
    (h : ∀ f ∈ fs,
      Squeezes .outside .outside (renderAt indent depth f.2) (renderAt none depth f.2)) :
    Squeezes .outside .outside (renderFields indent depth fs) (renderFields none depth fs) := by
  induction fs with
  | nil => exact .nil _
  | cons f fs ih =>
    obtain ⟨name, v⟩ := f
    have comma : Squeezes .outside .outside [','] [','] := squeezes_mark ⟨rfl, by decide⟩
    have value := h (name, v) List.mem_cons_self
    have rest := ih fun g hg => h g (List.mem_cons_of_mem _ hg)
    rw [renderFields, renderFields]
    exact ((((comma.trans_nil (squeezes_lineBreak indent depth)).trans
      (squeezes_renderString name)).trans (squeezes_colonText indent)).trans value).trans rest

/-- A name or a numeral stays as it is written. -/
theorem squeezes_bare {cs : List Char} (h : ∀ c ∈ cs, isBare c) :
    Squeezes .outside .outside cs cs := by
  refine squeezes_solid fun c hc => ⟨isSpace_of_isBare (h c hc), ?_⟩
  rintro rfl
  exact absurd (h _ hc) (by decide)

/-- The text of a value at any indentation is the one on a single line, but for blanks. -/
theorem squeezes_renderAt {levels : Nat} {v : Json} (h : IsExact levels v) (indent : Option Nat)
    (depth : Nat) :
    Squeezes .outside .outside (renderAt indent depth v) (renderAt none depth v) := by
  induction h generalizing depth with
  | null => exact squeezes_bare (List.all_eq_true.1 rfl)
  | bool b => cases b <;> exact squeezes_bare (List.all_eq_true.1 rfl)
  | integer fits => exact squeezes_bare fun _ => isBare_of_mem_signedDigits
  | string s => exact squeezes_renderString s
  | @array levels items _ ih =>
    have opened : Squeezes .outside .outside ['['] ['['] := squeezes_mark ⟨rfl, by decide⟩
    have closed : Squeezes .outside .outside [']'] [']'] := squeezes_mark ⟨rfl, by decide⟩
    cases items with
    | nil => exact opened.trans closed
    | cons v vs =>
      have first := ih v List.mem_cons_self (depth + 1)
      have rest := squeezes_renderItems fun w hw =>
        ih w (List.mem_cons_of_mem _ hw) (depth + 1)
      have start := (opened.trans_nil (squeezes_lineBreak indent (depth + 1))).trans first
      have body := start.trans rest
      rw [renderAt, renderAt]
      simpa [lineBreak] using (body.trans_nil (squeezes_lineBreak indent depth)).trans closed
  | @object levels fields _ ih =>
    have opened : Squeezes .outside .outside ['\x7b'] ['\x7b'] := squeezes_mark ⟨rfl, by decide⟩
    have closed : Squeezes .outside .outside ['\x7d'] ['\x7d'] := squeezes_mark ⟨rfl, by decide⟩
    cases fields with
    | nil => exact opened.trans closed
    | cons f fs =>
      obtain ⟨name, v⟩ := f
      have first := ih (name, v) List.mem_cons_self (depth + 1)
      have rest := squeezes_renderFields fun g hg =>
        ih g (List.mem_cons_of_mem _ hg) (depth + 1)
      have start := (opened.trans_nil (squeezes_lineBreak indent (depth + 1))).trans
        (squeezes_renderString name)
      have body := ((start.trans (squeezes_colonText indent)).trans first).trans rest
      rw [renderAt, renderAt]
      simpa [lineBreak, colonText] using
        (body.trans_nil (squeezes_lineBreak indent depth)).trans closed

/-- Without the blanks outside of strings, a text at any indentation is the one on a single line. -/
theorem squeeze_renderAt {levels : Nat} {v : Json} (h : IsExact levels v) (indent : Option Nat)
    (depth : Nat) : squeeze (renderAt indent depth v) = renderAt none depth v := by
  simpa [squeeze, squeezeFrom] using squeezes_renderAt h indent depth []

end VestingTable.Json
