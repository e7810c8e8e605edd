import VestingTable.Text.Blank
import VestingTable.Text.Utf8

/-!
# Files of variables

A file of variables has a line `NAME=value` for each variable, perhaps with the
word `export` ahead of it. A name or a value may stand in single quotation marks
and a value in double ones; marked values may span lines and have escapes. A `#`
starts a comment; within a value without marks it does so behind a blank
character only. A line that is not of this form is passed over, and a name
without `=` takes its variable away.

In a value, `${NAME}` and `${NAME:-other}` stand for the value of another
variable: the one that the file gave it last, else that of the environment, else
the other text.
-/

namespace VestingTable.EnvFile

/-- Lines end in one way, whatever the file had. -/
def unifyLines : List Char → List Char
  | '\r' :: '\n' :: cs => '\n' :: unifyLines cs
  | '\r' :: cs => '\n' :: unifyLines cs
  | c :: cs => c :: unifyLines cs
  | [] => []

/-- A blank character within a line. -/
def isGap (c : Char) : Bool :=
  Text.isBlank c && c ≠ '\n'

/-- What follows the word `export` and a gap, if they are there. -/
def afterExport (cs : List Char) : List Char :=
  if cs.take 6 = "export".toList then
    match cs.drop 6 with
    | c :: rest => if isGap c then rest.dropWhile isGap else cs
    | [] => cs
  else cs

/-- The text up to a single quotation mark, which is not empty, and what follows the mark. -/
def quotedName? (cs : List Char) : Option (List Char × List Char) :=
  match cs.span (· ≠ '\x27') with
  | ([], _) | (_, []) => none
  | (name, _ :: rest) => some (name, rest)

/-- The name of a variable and what follows it; a comment has no name. -/
def name? : List Char → Option (Option (List Char) × List Char)
  | '#' :: cs => some (none, '#' :: cs)
  | '\x27' :: cs => (quotedName? cs).map fun (name, rest) => (some name, rest)
  | cs =>
    match cs.span fun c => c ≠ '=' && c ≠ '#' && !Text.isBlank c with
    | ([], _) => none
    | (name, rest) => some (some name, rest)

/-- The text up to a mark, and what follows the mark. A backslash takes the next character of its
    line with it, so that a mark behind it is not the end. -/
def spanMarked? (mark : Char) : List Char → Option (List Char × List Char)
  | [] => none
  | ['\\'] => none
  | '\\' :: c :: cs =>
    if c = '\n' then none
    else (spanMarked? mark cs).map fun (text, rest) => ('\\' :: c :: text, rest)
  | c :: cs =>
    if c = mark then some ([], cs)
    else (spanMarked? mark cs).map fun (text, rest) => (c :: text, rest)

/-- The characters that a backslash makes of others between single marks. -/
def singleEscapes : List (Char × Char) :=
  [('\\', '\\'), ('\x27', '\x27')]

/-- The characters that a backslash makes of others between double marks. -/
def doubleEscapes : List (Char × Char) :=
  singleEscapes ++ [('\x22', '\x22'), ('a', '\x07'), ('b', '\x08'), ('f', '\x0c'), ('n', '\n'),
    ('r', '\r'), ('t', '\t'), ('v', '\x0b')]

/-- The text with its escapes replaced; other backslashes stay. -/
def unescape (escapes : List (Char × Char)) : List Char → List Char
  | '\\' :: c :: cs =>
    match escapes.lookup c with
    | some d => d :: unescape escapes cs
    | none => '\\' :: unescape escapes (c :: cs)
  | c :: cs => c :: unescape escapes cs
  | [] => []

/-- The text up to a gap with a comment behind it. -/
def beforeComment : List Char → List Char
  | [] => []
  | c :: cs =>
    if Text.isBlank c && (cs.dropWhile Text.isBlank).head? = some '#' then []
    else c :: beforeComment cs

/-- The value behind an equals sign, and what follows it. Without marks it is all of its line but
    for a comment and the blanks around. -/
def value? (cs : List Char) : Option (List Char × List Char) :=
  match cs.dropWhile isGap with
  | '\x27' :: rest =>
    (spanMarked? '\x27' rest).map fun (text, rest) => (unescape singleEscapes text, rest)
  | '\x22' :: rest =>
    (spanMarked? '\x22' rest).map fun (text, rest) => (unescape doubleEscapes text, rest)
  | _ =>
    let (line, rest) := cs.span (· ≠ '\n')
    some (Text.trim (beforeComment line), rest)

/-- What follows a comment, if there is one, and the end of the line. -/
def afterLine? (cs : List Char) : Option (List Char) :=
  let rest := cs.dropWhile isGap
  let rest := if rest.head? = some '#' then rest.dropWhile (· ≠ '\n') else rest
  match rest.dropWhile isGap with
  | [] => some []
  | '\n' :: rest => some rest
  | _ => none

/-- A name and its value, if there is one. -/
abbrev Binding := String × Option String

/-- The binding of a line, and what follows it. Where a line goes wrong, the rest of it is passed
    over. -/
def line (cs : List Char) : Option Binding × List Char :=
  let skipLine (cs : List Char) := (cs.dropWhile (· ≠ '\n')).drop 1
  let cs := afterExport cs
  match name? cs with
  | none => (none, skipLine cs)
  | some (name, rest) =>
    let rest := rest.dropWhile isGap
    let bind (value : Option (List Char)) : Option Binding :=
      name.map fun n => (String.ofList n, value.map String.ofList)
    match rest with
    | '=' :: rest =>
      match value? rest with
      | none => (none, skipLine rest)
      | some (value, rest) =>
        match afterLine? rest with
        | some after => (bind (some value), after)
        | none => (none, skipLine rest)
    | rest =>
      match afterLine? rest with
      | some after => (bind none, after)
      | none => (none, skipLine rest)

/-- The bindings of a text, of which each takes up a character at least. -/
def bindingsWithin : Nat → List Char → List Binding
  | 0, _ => []
  | fuel + 1, cs =>
    match cs.dropWhile Text.isBlank with
    | [] => []
    | cs => let (binding, rest) := line cs; binding.toList ++ bindingsWithin fuel rest

/-- The bindings of a text, in order. -/
def bindings (text : String) : List Binding :=
  let cs := unifyLines text.toList
  bindingsWithin cs.length cs

/-! ## References to other variables -/

/-- A reference behind its opening brace: the name, what stands for it if it has no value, and what
    follows. -/
def reference? (cs : List Char) : Option (String × String × List Char) :=
  let (name, rest) := cs.span fun c => c ≠ '\x7d' && c ≠ ':'
  match rest with
  | '\x7d' :: rest => some (String.ofList name, "", rest)
  | ':' :: '-' :: rest =>
    match rest.span (· ≠ '\x7d') with
    | (other, _ :: rest) => some (String.ofList name, String.ofList other, rest)
    | (_, []) => none
  | _ => none

/-- The text with its references replaced by their values. -/
def expandWithin (value : String → Option String) : Nat → List Char → List Char
  | 0, cs => cs
  | _, [] => []
  | fuel + 1, '$' :: '\x7b' :: cs =>
    match reference? cs with
    | some (name, other, rest) =>
      ((value name).getD other).toList ++ expandWithin value fuel rest
    | none => '$' :: expandWithin value fuel ('\x7b' :: cs)
  | fuel + 1, c :: cs => c :: expandWithin value fuel cs

/-- A text with its references replaced. -/
def expand (value : String → Option String) (s : String) : String :=
  String.ofList (expandWithin value s.toList.length s.toList)

/-- The bindings with one more, in place of an earlier one of its name. -/
def assign (bs : List Binding) (b : Binding) : List Binding :=
  if bs.any (·.1 = b.1) then bs.map fun old => if old.1 = b.1 then b else old else bs ++ [b]

/-- The value of a name: the one of the file, where none counts as empty, or of the environment. -/
def lookup (environment : List (String × String)) (bs : List Binding) (name : String) :
    Option String :=
  match bs.lookup name with
  | some value => some (value.getD "")
  | none => environment.lookup name

/-- The variables of a file in an environment. -/
def values (environment : List (String × String)) (text : String) : List Binding :=
  (bindings text).foldl
    (fun bs (name, value) => assign bs (name, value.map (expand (lookup environment bs)))) []

end VestingTable.EnvFile
