import VestingTable.Proofs.Json.Numeral

/-!
# The tokens of a text of JSON

The lexer reads back the tokens of a value from its text, at any indentation
(`Json.leads_renderAt`). It is between two tokens, or a bare token is still open:
its end shows only by what comes next. So the proof is about two kinds of
states, that *behind* the tokens (`Lexer.IsBehind`) and those that *have read*
them (`Lexer.HasRead`). A piece of text leads from states of one kind to states of
another (`Leads`), and pieces are put together by `Leads.trans`.

Values with numbers other than integers are left out, and so are integers that
cannot be written (`Json.IsExact`).
-/

namespace VestingTable.Json

/-- The numbers of the value are integers that can be written, and its lists and objects are
    nested `levels` deep at most. -/
inductive IsExact : Nat → Json → Prop
  | null {levels : Nat} : IsExact levels .null
  | bool {levels : Nat} (b : Bool) : IsExact levels (.bool b)
  | integer {levels : Nat} {n : Int} (fits : Numeral.Fits n) : IsExact levels (.integer n)
  | string {levels : Nat} (s : String) : IsExact levels (.string s)
  | array {levels : Nat} {items : List Json} (exact : ∀ v ∈ items, IsExact levels v) :
      IsExact (levels + 1) (.array items)
  | object {levels : Nat} {fields : List (String × Json)}
      (exact : ∀ f ∈ fields, IsExact levels f.2) : IsExact (levels + 1) (.object fields)

/-! ## States of the lexer -/

namespace Lexer

/-- The lexer behind characters. -/
def run? (l : Lexer) (cs : List Char) : Option Lexer :=
  cs.foldlM step l

@[simp] theorem run?_nil (l : Lexer) : l.run? [] = some l := rfl

theorem run?_cons (l : Lexer) (c : Char) (cs : List Char) :
    l.run? (c :: cs) = (l.step c).bind fun l => l.run? cs :=
  List.foldlM_cons

theorem run?_append (l : Lexer) (cs more : List Char) :
    l.run? (cs ++ more) = (l.run? cs).bind fun l => l.run? more :=
  List.foldlM_append

/-- The lexer behind tokens. -/
def behind (ts : List Token) : Lexer :=
  { tokens := ts.reverse }

/-- The lexer is behind the tokens. -/
def IsBehind (ts : List Token) (l : Lexer) : Prop :=
  l = behind ts

/-- The lexer has read the tokens: it is behind them, or at the last one, which is bare. -/
inductive HasRead : List Token → Lexer → Prop
  | whole (ts : List Token) : HasRead ts (behind ts)
  | bare {ts : List Token} {t : Token} {read : List Char} (h : bareToken? read.reverse = some t) :
      HasRead (ts ++ [t]) { tokens := ts.reverse, mode := .bare read }

variable {ts : List Token} {l : Lexer}

theorem HasRead.finish? (h : HasRead ts l) : l.finish? = some ts := by
  cases h with
  | whole => simp [Lexer.finish?, behind]
  | bare h => simp [Lexer.finish?, h]

/-- What is not part of a bare token comes behind all tokens. -/
theorem HasRead.step {c : Char} (h : HasRead ts l) (hc : isBare c = false) :
    l.step c = (behind ts).start? c := by
  cases h with
  | whole => rfl
  | bare h => simp [Lexer.step, hc, h, push, behind]

end Lexer

open Lexer

/-- A text leads from states of one kind, with some tokens, to states of another, with the tokens
    `ts` behind these. -/
def Leads (P Q : List Token → Lexer → Prop) (cs : List Char) (ts : List Token) : Prop :=
  ∀ before l, P before l → ∃ l', l.run? cs = some l' ∧ Q (before ++ ts) l'

namespace Leads

variable {P Q R : List Token → Lexer → Prop} {cs more : List Char} {ts us : List Token}

theorem trans (h : Leads P Q cs ts) (h' : Leads Q R more us) :
    Leads P R (cs ++ more) (ts ++ us) := by
  intro before l hl
  obtain ⟨m, hm, hQ⟩ := h before l hl
  obtain ⟨l', hl', hR⟩ := h' _ m hQ
  refine ⟨l', ?_, by rwa [← List.append_assoc]⟩
  rw [run?_append, hm]
  exact hl'

/-- A text that has no token of its own. -/
theorem trans_nil (h : Leads P Q cs ts) (h' : Leads Q R more []) : Leads P R (cs ++ more) ts := by
  simpa using h.trans h'

theorem nil (P : List Token → Lexer → Prop) : Leads P P [] [] :=
  fun _ l hl => ⟨l, rfl, by rwa [List.append_nil]⟩

theorem ofHasRead (h : Leads HasRead Q cs ts) : Leads IsBehind Q cs ts := by
  rintro before l rfl
  exact h before _ (.whole before)

theorem toHasRead (h : Leads P IsBehind cs ts) : Leads P HasRead cs ts := by
  intro before l hl
  obtain ⟨_, hrun, rfl⟩ := h before l hl
  exact ⟨_, hrun, .whole _⟩

end Leads

/-! ## Marks and blanks -/

theorem leads_mark {c : Char} {t : Token} (h : markToken? c = some t) :
    Leads HasRead IsBehind [c] [t] := by
  have started : isBare c = false ∧ ∀ ts, (behind ts).start? c = some (behind (ts ++ [t])) := by
    unfold markToken? at h
    split at h <;> cases h <;>
      exact ⟨rfl, fun ts => by simp [start?, isSpace, isBare, markToken?, push, behind]⟩
  intro before l hl
  exact ⟨behind (before ++ [t]), by rw [run?_cons, hl.step started.1, started.2]; rfl, rfl⟩

theorem run?_spaces {cs : List Char} (h : ∀ c ∈ cs, isSpace c) (ts : List Token) :
    (behind ts).run? cs = some (behind ts) := by
  induction cs with
  | nil => rfl
  | cons c cs ih =>
    have start : (behind ts).start? c = some (behind ts) := if_pos (h c List.mem_cons_self)
    rw [run?_cons, show (behind ts).step c = (behind ts).start? c from rfl, start]
    exact ih fun d hd => h d (List.mem_cons_of_mem _ hd)

theorem leads_spaces {cs : List Char} (h : ∀ c ∈ cs, isSpace c) : Leads IsBehind IsBehind cs [] := by
  rintro before l rfl
  exact ⟨_, run?_spaces h before, by rw [List.append_nil]; rfl⟩

theorem isBare_of_isSpace {c : Char} (h : isSpace c) : isBare c = false := by
  simp only [isSpace, Bool.or_eq_true, decide_eq_true_eq, or_assoc] at h
  rcases h with rfl | rfl | rfl | rfl <;> rfl

/-- Blanks end a bare token. -/
theorem leads_spaces_of_hasRead {cs : List Char} (h : ∀ c ∈ cs, isSpace c) :
    Leads HasRead HasRead cs [] := by
  cases cs with
  | nil => exact .nil HasRead
  | cons c cs =>
    intro before l hl
    -- The first blank closes the token; the lexer is behind it from there on.
    have space : isSpace c := h c List.mem_cons_self
    have start : (behind before).start? c = some (behind before) := if_pos space
    refine ⟨behind before, ?_, by rw [List.append_nil]; exact .whole before⟩
    rw [run?_cons, hl.step (isBare_of_isSpace space), start]
    exact run?_spaces (fun d hd => h d (List.mem_cons_of_mem _ hd)) before

theorem isSpace_of_mem_lineBreak {indent : Option Nat} {depth : Nat} {c : Char}
    (h : c ∈ lineBreak indent depth) : isSpace c := by
  cases indent with
  | none => exact absurd h List.not_mem_nil
  | some width =>
    rcases List.mem_cons.1 h with rfl | h
    · rfl
    · rw [List.eq_of_mem_replicate h]
      rfl

/-! ## Bare tokens -/

theorem isSpace_of_isBare {c : Char} (h : isBare c) : isSpace c = false := by
  by_contra hspace
  rw [isBare_of_isSpace (by simpa using hspace)] at h
  exact absurd h (by simp)

theorem run?_bare {cs : List Char} (h : ∀ c ∈ cs, isBare c) (ts : List Token) (read : List Char) :
    run? { tokens := ts, mode := .bare read } cs =
      some { tokens := ts, mode := .bare (cs.reverse ++ read) } := by
  induction cs generalizing read with
  | nil => rfl
  | cons c cs ih =>
    have goesOn : step { tokens := ts, mode := .bare read } c =
        some { tokens := ts, mode := .bare (c :: read) } := if_pos (h c List.mem_cons_self)
    rw [run?_cons, goesOn, Option.bind_some, ih fun d hd => h d (List.mem_cons_of_mem _ hd)]
    simp

theorem leads_bare {cs : List Char} {t : Token} (hne : cs ≠ []) (h : ∀ c ∈ cs, isBare c)
    (ht : bareToken? cs = some t) : Leads IsBehind HasRead cs [t] := by
  rintro before l rfl
  -- The first character opens the token, and none of the others closes it.
  obtain ⟨c, cs, rfl⟩ := List.exists_cons_of_ne_nil hne
  have bare : isBare c := h c List.mem_cons_self
  have quote : c ≠ '\x22' := by
    rintro rfl
    exact absurd bare (by decide)
  have start : (behind before).step c = some { tokens := before.reverse, mode := .bare [c] } := by
    simp [step, start?, isSpace_of_isBare bare, bare, quote, behind]
  have token : bareToken? (c :: cs).reverse.reverse = some t := by rwa [List.reverse_reverse]
  refine ⟨_, ?_, .bare token⟩
  rw [run?_cons, start, Option.bind_some, run?_bare fun d hd => h d (List.mem_cons_of_mem _ hd)]
  simp

theorem isBare_of_mem_signedDigits {n : Int} {c : Char} (h : c ∈ Numeral.signedDigits n) :
    isBare c := by
  have digit {m : Nat} (hm : c ∈ Numeral.digits m) : isBare c := by
    simp [isBare, Char.isAlphanum, Numeral.isDigit_of_mem_digits hm]
  cases n with
  | ofNat n => exact digit h
  | negSucc n =>
    rcases List.mem_cons.1 h with rfl | h
    · rfl
    · exact digit h

theorem signedDigits_ne_nil (n : Int) : Numeral.signedDigits n ≠ [] := by
  cases n with
  | ofNat n => exact Numeral.digits_ne_nil n
  | negSucc n => exact List.cons_ne_nil _ _

/-! ## Strings -/

/-- The digits to the base 16 of a control character, as they are written behind `\u`. -/
theorem leftpad_toDigits {n : Nat} (h : n < 0x20) :
    (Nat.toDigits 16 n).leftpad 4 '0' =
      ['0', '0', Nat.digitChar (n / 16), Nat.digitChar (n % 16)] := by
  have : ∀ n < 0x20, (Nat.toDigits 16 n).leftpad 4 '0' =
      ['0', '0', Nat.digitChar (n / 16), Nat.digitChar (n % 16)] := by decide
  exact this n h

theorem hexDigit?_digitChar {d : Nat} (h : d < 16) : hexDigit? d.digitChar = some d := by
  have : ∀ d < 16, hexDigit? (Nat.digitChar d) = some d := by decide
  exact this d h

/-- How a character of a string is written: by a letter behind a backslash, by its digits to the
    base 16, the first two of them zeros, or as it is. -/
inductive IsWritten (c : Char) : List Char → Prop
  | letter {letter : Char} (h : unescape? letter = some c) : IsWritten c ['\\', letter]
  | digits {high low : Nat} (hhigh : high < 16) (hlow : low < 16)
      (value : 16 * high + low = c.toNat) (control : c.toNat < 0x20) :
      IsWritten c ['\\', 'u', '0', '0', high.digitChar, low.digitChar]
  | plain (quote : c ≠ '\x22') (slash : c ≠ '\\') (control : ¬ c.toNat < 0x20) : IsWritten c [c]

theorem isWritten_escape (c : Char) : IsWritten c (escape c) := by
  unfold escape
  -- The characters with a letter of their own behind the backslash come first.
  split
  · next h => subst h; exact .letter rfl
  split
  · next h => subst h; exact .letter rfl
  split
  · next h => subst h; exact .letter rfl
  split
  · next h => subst h; exact .letter rfl
  split
  · next h => subst h; exact .letter rfl
  split
  · next h => subst h; exact .letter rfl
  split
  · next h => subst h; exact .letter rfl
  split
  · next control =>
    rw [leftpad_toDigits control]
    exact .digits (by omega) (by omega) (Nat.div_add_mod _ _) control
  · next quote slash _ _ _ _ _ control => exact .plain quote slash control

/-- A character of a string is read back from the way it is written. -/
theorem run?_escape (ts : List Token) (read : List Char) (c : Char) :
    run? { tokens := ts, mode := .string read } (escape c) =
      some { tokens := ts, mode := .string (c :: read) } := by
  have written := isWritten_escape c
  generalize escape c = cs at written
  cases written with
  | @letter letter h =>
    have single : letter ≠ 'u' := by
      rintro rfl
      contradiction
    simp [run?_cons, step, single, h, inString]
  | digits hhigh hlow value control =>
    have high := hexDigit?_digitChar hhigh
    have low := hexDigit?_digitChar hlow
    have zero : hexDigit? '0' = some 0 := rfl
    have unpaired : ¬ IsHighHalf c.toNat ∧ ¬ IsLowHalf c.toNat := by
      unfold IsHighHalf IsLowHalf
      omega
    simp [run?_cons, step, zero, high, low, value, unit?, unpaired, inString]
  | plain quote slash control => simp [run?_cons, step, quote, slash, control, inString]

theorem run?_escapes (ts : List Token) (read cs : List Char) :
    run? { tokens := ts, mode := .string read } (cs.flatMap escape) =
      some { tokens := ts, mode := .string (cs.reverse ++ read) } := by
  induction cs generalizing read with
  | nil => rfl
  | cons c cs ih =>
    rw [List.flatMap_cons, run?_append, run?_escape, Option.bind_some, ih]
    simp

theorem leads_renderString (s : String) : Leads HasRead IsBehind (renderString s) [.string s] := by
  intro before l hl
  have opened : l.step '\x22' = some { tokens := before.reverse, mode := .string [] } :=
    hl.step rfl
  have closed : step { tokens := before.reverse, mode := .string s.toList.reverse } '\x22' =
      some (behind (before ++ [.string s])) := by
    simp [step, push, behind]
  refine ⟨_, ?_, rfl⟩
  rw [renderString, List.cons_append, run?_cons, opened, Option.bind_some, run?_append,
    run?_escapes, Option.bind_some, List.append_nil, run?_cons, closed]
  rfl

/-! ## Values -/

section

variable {indent : Option Nat} {depth : Nat}

/-- A line break behind a token that is no bare one. -/
theorem leads_lineBreak : Leads IsBehind IsBehind (lineBreak indent depth) [] :=
  leads_spaces fun _ => isSpace_of_mem_lineBreak

theorem leads_lineBreak_of_hasRead : Leads HasRead HasRead (lineBreak indent depth) [] :=
  leads_spaces_of_hasRead fun _ => isSpace_of_mem_lineBreak

theorem leads_colonText : Leads IsBehind IsBehind (colonText indent) [.colon] := by
  have colon : Leads IsBehind IsBehind [':'] [.colon] := (leads_mark rfl).ofHasRead
  cases indent with
  | none => exact colon
  | some width =>
    have space : Leads IsBehind IsBehind [' '] [] := leads_spaces (by simp [isSpace])
    exact colon.trans_nil space

/-- The items behind the first, if each of them is read. -/
theorem leads_renderItems {vs : List Json}
    (h : ∀ v ∈ vs, Leads IsBehind HasRead (renderAt indent depth v) (tokens v)) :
    Leads HasRead HasRead (renderItems indent depth vs) (itemTokens vs) := by
  induction vs with
  | nil => exact .nil HasRead
  | cons v vs ih =>
    rw [renderItems, itemTokens]
    have comma : Leads HasRead IsBehind [','] [.comma] := leads_mark rfl
    have value := h v List.mem_cons_self
    have rest := ih fun w hw => h w (List.mem_cons_of_mem _ hw)
    exact ((comma.trans_nil leads_lineBreak).trans value).trans rest

/-- The fields behind the first, if the value of each is read. -/
theorem leads_renderFields {fs : List (String × Json)}
    (h : ∀ f ∈ fs, Leads IsBehind HasRead (renderAt indent depth f.2) (tokens f.2)) :
    Leads HasRead HasRead (renderFields indent depth fs) (fieldTokens fs) := by
  induction fs with
  | nil => exact .nil HasRead
  | cons f fs ih =>
    obtain ⟨name, v⟩ := f
    rw [renderFields, fieldTokens]
    have comma : Leads HasRead IsBehind [','] [.comma] := leads_mark rfl
    have string := (leads_renderString name).ofHasRead
    have value := h (name, v) List.mem_cons_self
    have rest := ih fun w hw => h w (List.mem_cons_of_mem _ hw)
    simpa using
      ((((comma.trans_nil leads_lineBreak).trans string).trans leads_colonText).trans value).trans rest

end

/-- The tokens of a value are read back from its text. -/
theorem leads_renderAt {levels : Nat} {v : Json} (h : IsExact levels v) (indent : Option Nat)
    (depth : Nat) : Leads IsBehind HasRead (renderAt indent depth v) (tokens v) := by
  induction h generalizing depth with
  | null =>
    rw [renderAt, tokens]
    exact leads_bare (List.cons_ne_nil _ _) (List.all_eq_true.1 rfl) rfl
  | bool b =>
    rw [renderAt, tokens]
    cases b <;> exact leads_bare (List.cons_ne_nil _ _) (List.all_eq_true.1 rfl) rfl
  | integer fits =>
    exact leads_bare (signedDigits_ne_nil _) (fun _ => isBare_of_mem_signedDigits)
      (bareToken?_signedDigits fits)
  | string s => exact (leads_renderString s).ofHasRead.toHasRead
  | @array levels items _ ih =>
    have opened : Leads IsBehind IsBehind ['['] [.openBracket] := (leads_mark rfl).ofHasRead
    have closed : Leads HasRead IsBehind [']'] [.closeBracket] := leads_mark rfl
    -- An empty list is written without a line break, so it is a case of its own.
    cases items with
    | nil => exact (opened.toHasRead.trans closed).toHasRead
    | cons v vs =>
      rw [renderAt, tokens]
      have first := ih v List.mem_cons_self (depth + 1)
      have rest := leads_renderItems fun w hw => ih w (List.mem_cons_of_mem _ hw) (depth + 1)
      exact (((((opened.trans_nil leads_lineBreak).trans first).trans rest).trans_nil
        leads_lineBreak_of_hasRead).trans closed).toHasRead
  | @object levels fields _ ih =>
    have opened : Leads IsBehind IsBehind ['\x7b'] [.openBrace] := (leads_mark rfl).ofHasRead
    have closed : Leads HasRead IsBehind ['\x7d'] [.closeBrace] := leads_mark rfl
    cases fields with
    | nil => exact (opened.toHasRead.trans closed).toHasRead
    | cons f fs =>
      obtain ⟨name, v⟩ := f
      rw [renderAt, tokens]
      have string := (leads_renderString name).ofHasRead
      have first := ih (name, v) List.mem_cons_self (depth + 1)
      have rest := leads_renderFields fun w hw => ih w (List.mem_cons_of_mem _ hw) (depth + 1)
      have newline : Leads IsBehind IsBehind (lineBreak indent (depth + 1)) [] := leads_lineBreak
      have colon : Leads IsBehind IsBehind (colonText indent) [.colon] := leads_colonText
      have body := ((((opened.trans_nil newline).trans string).trans colon).trans first).trans rest
      have newline' : Leads HasRead HasRead (lineBreak indent depth) [] := leads_lineBreak_of_hasRead
      simpa using ((body.trans_nil newline').trans closed).toHasRead

/-- The tokens of a text that leads to them from its start. -/
theorem Leads.scan? {cs : List Char} {ts : List Token} (h : Leads IsBehind HasRead cs ts) :
    Json.scan? cs = some ts := by
  obtain ⟨l, hrun, hl⟩ := h [] _ rfl
  rw [Json.scan?, show cs.foldlM step {} = some l from hrun]
  exact hl.finish?

end VestingTable.Json
