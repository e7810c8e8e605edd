import VestingTable.Text.Case

/-!
# Paths

A path is a root, if it is absolute, and the names on the way from there. Empty
names and single dots between slashes do not count, while double dots do. Two
slashes at the start, and no more, are a root of their own.

The name of a file has a *suffix*, from its last dot on, unless that dot is the
first or the last character of the name.
-/

namespace VestingTable

/-- A path. -/
structure Path where
  root : String
  parts : List String
deriving DecidableEq

namespace Path

/-- The root of a text. -/
def rootOf (cs : List Char) : String :=
  match cs.takeWhile (· = '/') with
  | [] => ""
  | ['/', '/'] => "//"
  | _ => "/"

/-- The path that a text denotes. -/
def ofText (s : String) : Path where
  root := rootOf s.toList
  parts := ((s.toList.splitOn '/').map String.ofList).filter fun part => part ≠ "" ∧ part ≠ "."

/-- The path as it is written. -/
def text (p : Path) : String :=
  if p.root = "" ∧ p.parts = [] then "." else p.root ++ "/".intercalate p.parts

/-- The last name on the way. -/
def name (p : Path) : String :=
  p.parts.getLast?.getD ""

/-- The path without its last name. -/
def parent (p : Path) : Path :=
  { p with parts := p.parts.dropLast }

/-- The path up to so many names. -/
def upTo (p : Path) (n : Nat) : Path :=
  { p with parts := p.parts.take n }

/-- The path of a name in the directory of a path. -/
def child (p : Path) (name : String) : Path :=
  { p with parts := p.parts ++ [name] }

/-- The characters of a name ahead of the dot of its suffix, and those behind it. -/
def splitName? (name : String) : Option (List Char × List Char) :=
  let (behind, ahead) := name.toList.reverse.span (· ≠ '.')
  match ahead with
  | _ :: ahead => if behind = [] ∨ ahead = [] then none else some (ahead.reverse, behind.reverse)
  | [] => none

/-- The suffix of the last name, with its dot. -/
def suffix (p : Path) : String :=
  match splitName? p.name with
  | some (_, behind) => String.ofList ('.' :: behind)
  | none => ""

/-- The last name without its suffix. -/
def stem (p : Path) : String :=
  match splitName? p.name with
  | some (ahead, _) => String.ofList ahead
  | none => p.name

/-- The part ahead of the suffix is more than dots. -/
def hasPlainStem (p : Path) : Bool :=
  match splitName? p.name with
  | some (ahead, _) => ahead.any (· ≠ '.')
  | none => false

end Path

end VestingTable
