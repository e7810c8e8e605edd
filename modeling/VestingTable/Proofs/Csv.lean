import VestingTable.Csv
import Mathlib.Tactic.Common

/-!
# How comma-separated values are written

How a table may be written, as a relation that leaves the choices open: a field may be enclosed in
marks where it need not be, and each line may end in its own way.

* `Csv.IsField`, `Csv.IsRecord`, `Csv.IsTable`: what a field, a record and a table are written as;
* `Csv.Reader.run_fields`: what a reader makes of the fields of a line, from the start of any of
  them on;
* `Csv.read?_of_isTable`: a table is read back field by field, however it was written.
-/

namespace VestingTable.Csv

/-! ## Writing -/

/-- The characters that a field can hold only in marks. -/
def specials : List Char := [',', '\x22', '\r', '\n']

/-- A character in marks, where a mark is written twice. -/
def doubled (c : Char) : List Char :=
  if c = '\x22' then [c, c] else [c]

/-- A field as it is written: as it is, if none of its characters is special, or in marks. -/
inductive IsField (s : String) : List Char → Prop
  | plain (h : ∀ c ∈ s.toList, c ∉ specials) : IsField s s.toList
  | marked : IsField s ('\x22' :: (s.toList.flatMap doubled ++ ['\x22']))

/-- Fields as they are written, with commas between them. -/
inductive IsFields : List String → List Char → Prop
  | last {s cs} : IsField s cs → IsFields [s] cs
  | more {s cs rest ds} : IsField s cs → IsFields rest ds → IsFields (s :: rest) (cs ++ ',' :: ds)

/-- A record as it is written. Only the one without fields is an empty line, so a field that is
    empty and alone is written in marks. -/
inductive IsRecord : List String → List Char → Prop
  | empty : IsRecord [] []
  | fields {fields cs} : IsFields fields cs → cs ≠ [] → IsRecord fields cs

/-- What a line may end with. -/
def lineEnds : List (List Char) := [['\n'], ['\r', '\n']]

/-- A table as it is written, each record on a line of its own, or on several if a field has line
    ends. -/
inductive IsTable : List (List String) → List Char → Prop
  | nil : IsTable [] []
  | cons {fields cs lineEnd rows rest} : IsRecord fields cs → lineEnd ∈ lineEnds →
      IsTable rows rest → IsTable (fields :: rows) (cs ++ lineEnd ++ rest)

theorem not_mem_specials {c : Char} :
    c ∉ specials ↔ c ≠ ',' ∧ c ≠ '\x22' ∧ c ≠ '\r' ∧ c ≠ '\n' := by
  simp [specials]

/-! ## Reading -/

namespace Reader

/-- The reader after some characters. -/
def run (r : Reader) (cs : List Char) : Option Reader :=
  cs.foldlM step r

@[simp] theorem run_nil (r : Reader) : r.run [] = some r := rfl

theorem run_cons (r : Reader) (c : Char) (cs : List Char) :
    r.run (c :: cs) = (r.step c).bind fun r => r.run cs := rfl

theorem run_append (r : Reader) (cs ds : List Char) :
    r.run (cs ++ ds) = (r.run cs).bind fun r => r.run ds :=
  List.foldlM_append

theorem lineEnd?_of_not_mem {c : Char} (h : c ∉ specials) : lineEnd? c = none := by
  obtain ⟨-, -, hr, hn⟩ := not_mem_specials.1 h
  rw [lineEnd?, if_neg hn, if_neg hr]

theorem add?_of_lt {r : Reader} (h : r.size < maxFieldSize) (c : Char) (mode : Mode) :
    r.add? c mode = some { r with chars := c :: r.chars, size := r.size + 1, mode } :=
  if_pos h

/-- A character that is not special is added to a field that is not in marks. -/
theorem step_plain {r : Reader} {c : Char} (hmode : r.mode = .field ∨ r.mode = .plain)
    (hc : c ∉ specials) : r.step c = r.add? c .plain := by
  obtain ⟨hcomma, hmark, -, -⟩ := not_mem_specials.1 hc
  rcases hmode with hmode | hmode
  · simp [step, hmode, start?, lineEnd?_of_not_mem hc, hcomma, hmark]
  · simp [step, hmode, continue?, lineEnd?_of_not_mem hc, hcomma]

/-- Characters that are not special are the rest of a field. -/
theorem run_plain {cs : List Char} (h : ∀ c ∈ cs, c ∉ specials) {r : Reader}
    (hmode : r.mode = .field ∨ r.mode = .plain) (fits : r.size + cs.length ≤ maxFieldSize) :
    r.run cs = some { r with
      chars := cs.reverse ++ r.chars
      size := r.size + cs.length
      mode := if cs = [] then r.mode else .plain } := by
  induction cs generalizing r with
  | nil => rfl
  | cons c cs ih =>
    obtain ⟨hc, hcs⟩ := List.forall_mem_cons.1 h
    rw [List.length_cons] at fits
    rw [run_cons, step_plain hmode hc, add?_of_lt (by omega), Option.bind_some,
      ih hcs (.inr rfl) (by dsimp only; omega)]
    simp [Nat.add_comm, Nat.add_left_comm]

/-- In marks, all characters are the rest of a field. -/
theorem run_marked {cs : List Char} {r : Reader} (hmode : r.mode = .quoted)
    (fits : r.size + cs.length ≤ maxFieldSize) :
    r.run (cs.flatMap doubled) =
      some { r with chars := cs.reverse ++ r.chars, size := r.size + cs.length } := by
  induction cs generalizing r with
  | nil => rfl
  | cons c cs ih =>
    rw [List.length_cons] at fits
    have added : r.run (doubled c) =
        some { r with chars := c :: r.chars, size := r.size + 1 } := by
      have room : r.size < maxFieldSize := by omega
      unfold doubled
      split
      · next hc => simp [run_cons, step, hmode, hc, add?, room]
      · next hc => simp [run_cons, step, hmode, hc, add?, room]
    rw [List.flatMap_cons, run_append, added, Option.bind_some,
      ih (r := { r with chars := c :: r.chars, size := r.size + 1 }) hmode (by dsimp only; omega)]
    simp [Nat.add_comm, Nat.add_left_comm]

variable {records : List (List String)} {fields : List String} {s : String} {cs : List Char}

/-- The reader at the start of a field. -/
def atField (records : List (List String)) (fields : List String) : Reader :=
  { records, fields, mode := .field }

/-- The reader at the start of a record. -/
def atRecord (records : List (List String)) : Reader :=
  { records }

/-- The reader behind a field. -/
def behind (records : List (List String)) (fields : List String) (s : String) (mode : Mode) :
    Reader :=
  { records, fields, chars := s.toList.reverse, size := s.length, mode }

/-- A field that is written is what the reader has behind it, where it does not say yet that the
    field has ended. -/
theorem run_field (records : List (List String)) (fields : List String) (h : IsField s cs)
    (fits : s.length ≤ maxFieldSize) :
    ∃ mode, (mode = .field ∨ mode = .plain ∨ mode = .mark) ∧
      (atField records fields).run cs = some (behind records fields s mode) := by
  rw [← String.length_toList] at fits
  cases h with
  | plain h =>
    refine ⟨if s.toList = [] then .field else .plain, by split <;> simp, ?_⟩
    rw [run_plain h (.inl rfl) (by simpa [atField] using fits)]
    simp [atField, behind, String.length_toList]
  | marked =>
    refine ⟨.mark, by simp, ?_⟩
    rw [run_cons]
    have opened : (atField records fields).step '\x22' =
      some { atField records fields with mode := .quoted } := rfl
    rw [opened, Option.bind_some, run_append, run_marked rfl (by simpa [atField] using fits),
      Option.bind_some]
    simp [run_cons, step, atField, behind, String.length_toList]

@[simp] theorem endField_behind (records : List (List String)) (fields : List String) (s : String)
    (mode : Mode) : (behind records fields s mode).endField = atField records (s :: fields) := by
  simp [behind, endField, atField]

/-- Behind a field, a comma or the end of a line ends it. -/
theorem step_behind {mode : Mode} (h : mode = .field ∨ mode = .plain ∨ mode = .mark) {c : Char}
    (hc : c ∈ specials) (hmark : c ≠ '\x22') :
    (behind records fields s mode).step c = (behind records fields s mode).continue? c := by
  simp only [specials, List.mem_cons, List.not_mem_nil, or_false] at hc
  rcases h with rfl | rfl | rfl
  · rcases hc with rfl | rfl | rfl | rfl
    · rfl
    · contradiction
    · rfl
    · rfl
  · rfl
  · exact if_neg hmark

/-- Behind a field, a comma leads to the next one. -/
theorem step_comma {mode : Mode} (h : mode = .field ∨ mode = .plain ∨ mode = .mark) :
    (behind records fields s mode).step ',' = some (atField records (s :: fields)) := by
  rw [step_behind h (by decide) (by decide), ← endField_behind]
  rfl

/-- Behind a field, the end of a line leads to the next record. -/
theorem run_lineEnd {mode : Mode} (h : mode = .field ∨ mode = .plain ∨ mode = .mark)
    {lineEnd : List Char} (he : lineEnd ∈ lineEnds) :
    (behind records fields s mode).run lineEnd =
      some (atRecord ((s :: fields).reverse :: records)) := by
  simp only [lineEnds, List.mem_cons, List.not_mem_nil, or_false] at he
  rcases he with rfl | rfl
  · rw [run_cons, step_behind h (by decide) (by decide)]
    simp only [continue?, lineEnd?, endField_behind]
    rfl
  · rw [run_cons, step_behind h (by decide) (by decide)]
    simp only [continue?, lineEnd?, endField_behind]
    rfl

/-- Fields that are written with a line end behind them are read as the rest of a record. -/
theorem run_fields {written : List String} (h : IsFields written cs)
    (fits : ∀ s ∈ written, s.length ≤ maxFieldSize) {lineEnd : List Char} (he : lineEnd ∈ lineEnds) :
    (atField records fields).run (cs ++ lineEnd) =
      some (atRecord ((fields.reverse ++ written) :: records)) := by
  induction h generalizing fields with
  | last field =>
    obtain ⟨mode, hmode, hrun⟩ := run_field records fields field (by simpa using fits)
    rw [run_append, hrun, Option.bind_some, run_lineEnd hmode he, List.reverse_cons]
  | more field _ ih =>
    obtain ⟨fit, fits⟩ := List.forall_mem_cons.1 fits
    obtain ⟨mode, hmode, hrun⟩ := run_field records fields field fit
    rw [List.append_assoc, run_append, hrun, Option.bind_some, List.cons_append, run_cons,
      step_comma hmode, Option.bind_some, ih fits, List.reverse_cons, List.append_assoc,
      List.singleton_append]

/-! ## Records -/

theorem head_field (h : IsField s cs) {c : Char} (hc : c ∈ cs.head?) : lineEnd? c = none := by
  cases h with
  | plain h => exact lineEnd?_of_not_mem (h c (List.mem_of_mem_head? hc))
  | marked =>
    obtain rfl : '\x22' = c := Option.some.inj hc
    rfl

/-- The fields of a line do not start with its end. -/
theorem head_fields {written : List String} (h : IsFields written cs) {c : Char}
    (hc : c ∈ cs.head?) : lineEnd? c = none := by
  cases h with
  | last field => exact head_field field hc
  | @more s cs rest ds field _ =>
    cases cs with
    | nil =>
      obtain rfl : ',' = c := Option.some.inj hc
      rfl
    | cons d cs => exact head_field field hc

/-- At the start of a record its first field starts, unless the line ends there. -/
theorem step_atRecord (records : List (List String)) {c : Char} (h : lineEnd? c = none) :
    (atRecord records).step c = (atField records []).step c := by
  have started : (atRecord records).step c = (atRecord records).start? c := by
    simp [step, atRecord, startLine?, h]
  rw [started]
  simp only [step, atField, atRecord, start?, h]
  rfl

theorem run_record {written : List String} (h : IsRecord written cs)
    (fits : ∀ s ∈ written, s.length ≤ maxFieldSize) {lineEnd : List Char} (he : lineEnd ∈ lineEnds) :
    (atRecord records).run (cs ++ lineEnd) = some (atRecord (written :: records)) := by
  cases h with
  | empty =>
    simp only [lineEnds, List.mem_cons, List.not_mem_nil, or_false] at he
    rcases he with rfl | rfl <;> rfl
  | fields fields hne =>
    cases cs with
    | nil => contradiction
    | cons c cs =>
      have start := step_atRecord records (head_fields fields (c := c) rfl)
      rw [List.cons_append, run_cons, start, ← run_cons, ← List.cons_append,
        run_fields fields fits he]
      rfl

theorem run_table {rows : List (List String)} (h : IsTable rows cs)
    (fits : ∀ fields ∈ rows, ∀ s ∈ fields, s.length ≤ maxFieldSize) :
    (atRecord records).run cs = some (atRecord (rows.reverse ++ records)) := by
  induction h generalizing records with
  | nil => rfl
  | cons record he _ ih =>
    obtain ⟨fit, fits⟩ := List.forall_mem_cons.1 fits
    rw [run_append, run_record record fit he, Option.bind_some, ih fits, List.reverse_cons,
      List.append_assoc, List.singleton_append]

end Reader

/-- A table is read back field by field, however it was written. -/
theorem read?_of_isTable {rows : List (List String)} {cs : List Char} (h : IsTable rows cs)
    (fits : ∀ fields ∈ rows, ∀ s ∈ fields, s.length ≤ maxFieldSize) : read? cs = some rows := by
  have start : read? cs = ((Reader.atRecord []).run cs).map Reader.finish := rfl
  rw [start, Reader.run_table h fits, List.append_nil, Option.map_some]
  exact congrArg some rows.reverse_reverse

end VestingTable.Csv
