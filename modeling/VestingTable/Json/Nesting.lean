import VestingTable.Json.Token

/-!
# Nesting of JSON

The value of a list of tokens. The tokens are taken one by one (`Nest.step`), and
the lists and objects that are open are kept aside: there may be `maxDepth` of
them at once. An empty one does not count.
-/

namespace VestingTable.Json

/-- The most levels of lists and objects. -/
def maxDepth : Nat := 200

/-- A list or an object that is open, with its items or fields so far, the last first. -/
inductive Frame
  | array (items : List Json)
  | object (fields : List (String × Json)) (name : String)

/-- What comes next. -/
inductive Next
  | value
  | valueOrClose
  | nameOrClose
  | name (fields : List (String × Json))
  | colon (fields : List (String × Json)) (name : String)
  /-- A value is complete. -/
  | more (v : Json)

/-- The open lists and objects, the inmost first, and what comes next. -/
structure Nest where
  frames : List Frame := []
  next : Next := .value

namespace Nest

/-- The first token of a value. -/
def begin? (frames : List Frame) : Token → Option Nest
  | .null => some ⟨frames, .more .null⟩
  | .bool b => some ⟨frames, .more (.bool b)⟩
  | .integer n => some ⟨frames, .more (.integer n)⟩
  | .float x => some ⟨frames, .more (.float x)⟩
  | .string s => some ⟨frames, .more (.string s)⟩
  | .openBracket => some ⟨frames, .valueOrClose⟩
  | .openBrace => some ⟨frames, .nameOrClose⟩
  | _ => none

/-- There is room for one more list or object that is not empty. -/
def hasRoom (n : Nest) : Bool :=
  n.frames.length < maxDepth

/-- The token behind a complete value. -/
def continue? (frames : List Frame) (v : Json) (t : Token) : Option Nest :=
  match frames, t with
  | .array items :: frames, .comma => some ⟨.array (v :: items) :: frames, .value⟩
  | .array items :: frames, .closeBracket => some ⟨frames, .more (.array (v :: items).reverse)⟩
  | .object fields name :: frames, .comma => some ⟨frames, .name ((name, v) :: fields)⟩
  | .object fields name :: frames, .closeBrace =>
    some ⟨frames, .more (.object ((name, v) :: fields).reverse)⟩
  | _, _ => none

/-- One more token. -/
def step (n : Nest) (t : Token) : Option Nest :=
  match n.next, t with
  | .value, t => begin? n.frames t
  | .valueOrClose, .closeBracket => some ⟨n.frames, .more (.array [])⟩
  | .valueOrClose, t => if n.hasRoom then begin? (.array [] :: n.frames) t else none
  | .nameOrClose, .closeBrace => some ⟨n.frames, .more (.object [])⟩
  | .nameOrClose, .string name => if n.hasRoom then some ⟨n.frames, .colon [] name⟩ else none
  | .name fields, .string name => some ⟨n.frames, .colon fields name⟩
  | .colon fields name, .colon => some ⟨.object fields name :: n.frames, .value⟩
  | .more v, t => continue? n.frames v t
  | _, _ => none

/-- The value at the end of the tokens. -/
def finish? (n : Nest) : Option Json :=
  match n.frames, n.next with
  | [], .more v => some v
  | _, _ => none

end Nest

/-- The value of tokens. -/
def ofTokens? (ts : List Token) : Option Json :=
  (ts.foldlM Nest.step {}).bind Nest.finish?

/-- The value that a text denotes. -/
def ofText? (s : String) : Option Json :=
  (scan? s.toList).bind ofTokens?

/-- The value of a field; of several of one name the last counts. -/
def field? (fields : List (String × Json)) (name : String) : Option Json :=
  (fields.reverse.find? fun f => f.1 = name).map Prod.snd

end VestingTable.Json
