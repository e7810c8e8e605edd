import VestingTable.Proofs.Json.Scanning

/-!
# The value of a text of JSON

The value is read back from the tokens of a value (`Json.Nest.run?_tokens`) as
long as it is not nested too deep, and so from its text, at any indentation and
with blanks behind it (`Json.ofText?_render`).

Behind the first token of a list the machine is in a state of its own, since the
list may end there. No value starts with the token that ends a list, so this
makes no difference to the items (`Json.Nest.run?_of_valueOrClose`).
-/

namespace VestingTable.Json

namespace Nest

/-- The open lists and objects behind tokens. -/
def run? (n : Nest) (ts : List Token) : Option Nest :=
  ts.foldlM step n

@[simp] theorem run?_nil (n : Nest) : n.run? [] = some n := rfl

theorem run?_cons (n : Nest) (t : Token) (ts : List Token) :
    n.run? (t :: ts) = (n.step t).bind fun n => n.run? ts :=
  List.foldlM_cons

theorem run?_append (n : Nest) (ts more : List Token) :
    n.run? (ts ++ more) = (n.run? ts).bind fun n => n.run? more :=
  List.foldlM_append

/-- A value has a first token, and it is not the end of a list. -/
theorem exists_tokens (v : Json) : ∃ t ts, tokens v = t :: ts ∧ t ≠ .closeBracket := by
  cases v with
  | array items => cases items <;> exact ⟨_, _, rfl, Token.noConfusion⟩
  | object fields =>
    cases fields with
    | nil => exact ⟨_, _, rfl, Token.noConfusion⟩
    | cons f fs => exact ⟨_, _, rfl, Token.noConfusion⟩
  | _ => exact ⟨_, _, rfl, Token.noConfusion⟩

/-- The first item of a list is read like any value. -/
theorem run?_of_valueOrClose (v : Json) {frames : List Frame} (room : frames.length < maxDepth) :
    run? ⟨frames, .valueOrClose⟩ (tokens v) = run? ⟨.array [] :: frames, .value⟩ (tokens v) := by
  obtain ⟨t, ts, hts, ht⟩ := exists_tokens v
  have first : step ⟨frames, .valueOrClose⟩ t = step ⟨.array [] :: frames, .value⟩ t := by
    cases t <;> first | exact absurd rfl ht | exact if_pos (by simpa [hasRoom] using room)
  rw [hts, run?_cons, run?_cons, first]

/-- The items behind the first one, and the end of the list, if each item is read. -/
theorem run?_itemTokens {vs : List Json} {frames : List Frame}
    (h : ∀ w ∈ vs, ∀ items, run? ⟨.array items :: frames, .value⟩ (tokens w) =
      some ⟨.array items :: frames, .more w⟩) (v : Json) (items : List Json) :
    run? ⟨.array items :: frames, .more v⟩ (itemTokens vs ++ [.closeBracket]) =
      some ⟨frames, .more (.array (items.reverse ++ v :: vs))⟩ := by
  -- The induction is on the items to come; the one that is complete goes to those kept aside.
  induction vs generalizing v items with
  | nil => simp [itemTokens, run?_cons, step, continue?]
  | cons w vs ih =>
    have comma : step ⟨.array items :: frames, .more v⟩ .comma =
        some ⟨.array (v :: items) :: frames, .value⟩ := rfl
    rw [itemTokens, List.cons_append, List.cons_append, List.append_assoc, run?_cons, comma,
      Option.bind_some, run?_append, h w List.mem_cons_self, Option.bind_some,
      ih fun u hu => h u (List.mem_cons_of_mem _ hu)]
    simp

/-- The fields behind the first one, and the end of the object, if the value of each is read. -/
theorem run?_fieldTokens {fs : List (String × Json)} {frames : List Frame}
    (h : ∀ f ∈ fs, ∀ fields name, run? ⟨.object fields name :: frames, .value⟩ (tokens f.2) =
      some ⟨.object fields name :: frames, .more f.2⟩) (v : Json)
    (fields : List (String × Json)) (name : String) :
    run? ⟨.object fields name :: frames, .more v⟩ (fieldTokens fs ++ [.closeBrace]) =
      some ⟨frames, .more (.object (fields.reverse ++ (name, v) :: fs))⟩ := by
  induction fs generalizing v fields name with
  | nil => simp [fieldTokens, run?_cons, step, continue?]
  | cons f fs ih =>
    obtain ⟨next, w⟩ := f
    have comma : step ⟨.object fields name :: frames, .more v⟩ .comma =
        some ⟨frames, .name ((name, v) :: fields)⟩ := rfl
    have named : step ⟨frames, .name ((name, v) :: fields)⟩ (.string next) =
        some ⟨frames, .colon ((name, v) :: fields) next⟩ := rfl
    have colon : step ⟨frames, .colon ((name, v) :: fields) next⟩ .colon =
        some ⟨.object ((name, v) :: fields) next :: frames, .value⟩ := rfl
    simp only [fieldTokens, List.cons_append, List.append_assoc]
    rw [run?_cons, comma, Option.bind_some, run?_cons, named, Option.bind_some, run?_cons, colon,
      Option.bind_some, run?_append, h (next, w) List.mem_cons_self, Option.bind_some,
      ih fun u hu => h u (List.mem_cons_of_mem _ hu)]
    simp

/-- A value is read back from its tokens, where there is room for its levels. -/
theorem run?_tokens {levels : Nat} {v : Json} (h : IsExact levels v) {frames : List Frame}
    (room : frames.length + levels ≤ maxDepth) :
    run? ⟨frames, .value⟩ (tokens v) = some ⟨frames, .more v⟩ := by
  -- The induction is on the levels: the items of a list have one more frame below them, and one
  -- level less above.
  induction h generalizing frames with
  | null | bool | integer | string => rfl
  | @array levels items _ ih =>
    have opened : step ⟨frames, .value⟩ .openBracket = some ⟨frames, .valueOrClose⟩ := rfl
    cases items with
    | nil => rfl
    | cons v vs =>
      rw [tokens, List.cons_append, List.cons_append, List.append_assoc, run?_cons, opened,
        Option.bind_some, run?_append, run?_of_valueOrClose v (by omega),
        ih v List.mem_cons_self (by simp; omega), Option.bind_some,
        run?_itemTokens fun w hw items => ih w (List.mem_cons_of_mem _ hw) (by simp; omega)]
      rfl
  | @object levels fields _ ih =>
    have opened : step ⟨frames, .value⟩ .openBrace = some ⟨frames, .nameOrClose⟩ := rfl
    cases fields with
    | nil => rfl
    | cons f fs =>
      obtain ⟨name, v⟩ := f
      have named : step ⟨frames, .nameOrClose⟩ (.string name) = some ⟨frames, .colon [] name⟩ :=
        if_pos (by simp [hasRoom]; omega)
      have colon : step ⟨frames, .colon [] name⟩ .colon =
          some ⟨.object [] name :: frames, .value⟩ := rfl
      simp only [tokens, List.cons_append, List.append_assoc]
      rw [run?_cons, opened, Option.bind_some, run?_cons, named, Option.bind_some, run?_cons, colon,
        Option.bind_some, run?_append, ih (name, v) List.mem_cons_self (by simp; omega),
        Option.bind_some,
        run?_fieldTokens fun f hf fields name => ih f (List.mem_cons_of_mem _ hf) (by simp; omega)]
      rfl

end Nest

/-- A value is read back from its tokens. -/
theorem ofTokens?_tokens {levels : Nat} {v : Json} (h : IsExact levels v)
    (room : levels ≤ maxDepth) : ofTokens? (tokens v) = some v := by
  have run : Nest.run? {} (tokens v) = some ⟨[], .more v⟩ :=
    Nest.run?_tokens h (by simpa using room)
  rw [ofTokens?, show (tokens v).foldlM Nest.step {} = _ from run]
  rfl

/-- A value is read back from its text at any indentation, with any blanks behind it. -/
theorem ofText?_render {levels : Nat} {v : Json} (h : IsExact levels v) (room : levels ≤ maxDepth)
    (indent : Option Nat) {blanks : String} (hblanks : ∀ c ∈ blanks.toList, isSpace c) :
    ofText? (v.render indent ++ blanks) = some v := by
  have scanned := ((leads_renderAt h indent 0).trans_nil (leads_spaces_of_hasRead hblanks)).scan?
  rw [ofText?, String.toList_append, render, String.toList_ofList, scanned, Option.bind_some,
    ofTokens?_tokens h room]

end VestingTable.Json
