import VestingTable.Failure
import VestingTable.Files.Path
import VestingTable.Workbook.Legacy

/-!
# Files

The files that a conversion can see: a folder is the working directory with all
that is in it, and knows of nothing outside. A file holds bytes or a workbook. A
path is followed name by name, where all but the last one must be directories.

What fails is told apart as far as it matters: a name may be missing, be no
directory, be too long, or be there already (`PathFault`).
-/

namespace VestingTable

/-- The content of a file. -/
inductive FileContent
  | bytes (b : ByteArray)
  | modern (sheets : List (Sheet Modern.StoredCell))
  | legacy (w : Legacy.Workbook)

/-- Where the names of a place start. -/
inductive Anchor
  | workingDirectory
  /-- So many levels and one above the working directory. -/
  | above (levels : Nat)
  | root
deriving DecidableEq

/-- A place where a file may be. -/
structure Place where
  anchor : Anchor
  names : List String
deriving DecidableEq

/-- What is at a place. -/
inductive Node
  | directory
  | file (content : FileContent)

/-- The directory that a place is in. -/
def Place.parent (p : Place) : Place :=
  match p.names, p.anchor with
  | [], .workingDirectory => ⟨.above 0, []⟩
  | [], .above n => ⟨.above (n + 1), []⟩
  | [], .root => p
  | names, anchor => ⟨anchor, names.dropLast⟩

/-- The place of a name in a directory. -/
def Place.child (p : Place) (name : String) : Place :=
  { p with names := p.names ++ [name] }

/-- The working directory, by the places in it. -/
structure Folder where
  nodes : List (Place × Node) := []

namespace Folder

/-- What is at a place. The places without names are directories. -/
def node? (f : Folder) (p : Place) : Option Node :=
  if p.names = [] then some .directory else f.nodes.lookup p

/-- The folder with a node at a place, instead of what was there. -/
def put (f : Folder) (p : Place) (n : Node) : Folder :=
  ⟨(p, n) :: f.nodes.filter fun entry => entry.1 ≠ p⟩

/-- The most bytes of a name. -/
def maxNameSize : Nat := 255

/-- The bytes of a path from which on it is too long. -/
def maxPathSize : Nat := 4096

/-- One name further on from a directory. -/
def follow (f : Folder) (p : Place) (name : String) : Except PathFault Place :=
  match f.node? p with
  | none => .error .missing
  | some (.file _) => .error .notADirectory
  | some .directory =>
    if name = ".." then .ok p.parent
    else if maxNameSize < name.utf8ByteSize then .error .nameTooLong
    else .ok (p.child name)

/-- The place from which a path starts. -/
def start (p : Path) : Place :=
  ⟨if p.root = "" then .workingDirectory else .root, []⟩

/-- The place that a path leads to, where nothing needs to be. -/
def locate (f : Folder) (p : Path) : Except PathFault Place :=
  if maxPathSize ≤ p.text.utf8ByteSize then .error .nameTooLong
  else p.parts.foldlM f.follow (start p)

/-- A path with a NUL character is no path to the system. -/
def hasNull (p : Path) : Bool :=
  p.text.toList.contains '\x00'

/-- What a path leads to. -/
def find (f : Folder) (p : Path) : Except PathFault Node := do
  match f.node? (← f.locate p) with
  | some n => .ok n
  | none => .error .missing

/-- A path leads to something. Only a path that is too long gives no answer. -/
def exists? (f : Folder) (p : Path) : Except Failure Bool :=
  if hasNull p then .ok false
  else match f.find p with
    | .ok _ => .ok true
    | .error .nameTooLong => .error (.badPath .nameTooLong p.text)
    | .error _ => .ok false

/-- A path leads to a directory. -/
def isDirectory (f : Folder) (p : Path) : Bool :=
  match f.find p with
  | .ok .directory => true
  | _ => false

/-- The content of the file that a path leads to. -/
def content? (f : Folder) (p : Path) : Option FileContent :=
  if hasNull p then none
  else match f.find p with
    | .ok (.file content) => some content
    | _ => none

/-- The bytes of the file that a path leads to. -/
def bytes? (f : Folder) (p : Path) : Option ByteArray :=
  match f.content? p with
  | some (.bytes b) => some b
  | _ => none

/-! ## Directories -/

/-- A new directory, in one that exists. -/
def makeDirectory (f : Folder) (p : Path) : Except PathFault Folder :=
  match p.parts.getLast? with
  | none => .error .alreadyThere
  | some name => do
    if maxPathSize ≤ p.text.utf8ByteSize then .error .nameTooLong
    let place ← f.follow (← f.locate p.parent) name
    if name = ".." ∨ (f.node? place).isSome then .error .alreadyThere
    else .ok (f.put place .directory)

/-- A directory that may exist already, where a fault is a failure. -/
def ensured (f : Folder) (p : Path) (fault : PathFault) : Except Failure Folder :=
  if fault ≠ .missing ∧ f.isDirectory p then .ok f else .error (.badPath fault p.text)

/-- The directory of the first names of a path, and the directories on the way there. The folder
    keeps those that were made before a failure. -/
def makeUpTo (f : Folder) (p : Path) : Nat → Except Failure Unit × Folder
  | 0 =>
    match f.makeDirectory (p.upTo 0) with
    | .ok made => (.ok (), made)
    | .error fault => ((f.ensured (p.upTo 0) fault).map fun _ => (), f)
  | n + 1 =>
    match f.makeDirectory (p.upTo (n + 1)) with
    | .ok made => (.ok (), made)
    | .error .missing =>
      match f.makeUpTo p n with
      | (.error failure, f) => (.error failure, f)
      | (.ok (), f) =>
        match f.makeDirectory (p.upTo (n + 1)) with
        | .ok made => (.ok (), made)
        | .error fault => ((f.ensured (p.upTo (n + 1)) fault).map fun _ => (), f)
    | .error fault => ((f.ensured (p.upTo (n + 1)) fault).map fun _ => (), f)

/-- The directory of a path, and the directories on the way there. -/
def makeDirectories (f : Folder) (p : Path) : Except Failure Unit × Folder :=
  if hasNull p then (.error .nullInPath, f) else f.makeUpTo p p.parts.length

/-! ## Files -/

/-- The place where a file of a path can be written. -/
def writable? (f : Folder) (p : Path) : Option Place :=
  match p.parts.getLast?, f.locate p with
  | some name, .ok place =>
    match f.node? place with
    | some .directory => none
    | _ => if name = ".." then none else some place
  | _, _ => none

/-- The folder with a file of a content, and the directories on the way to it. -/
def withFile (f : Folder) (p : Path) (n : Node) : Folder :=
  let names := p.parts
  let made := (List.range names.length).foldl (fun f i =>
    let place : Place := ⟨.workingDirectory, names.take i⟩
    if (f.node? place).isSome then f else f.put place .directory) f
  made.put ⟨.workingDirectory, names⟩ n

end Folder

end VestingTable
