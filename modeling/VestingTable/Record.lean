import VestingTable.Field
import VestingTable.Decimal
import VestingTable.Validation

/-!
# Records

A record holds the fields of one row of a table. A field without a value is
absent, which is not the same as zero. Its amounts are not negative and its
percentage is a number: a `Draft` is what the cells of a row say before this is
checked.
-/

namespace VestingTable

/-- The values of a kind as they are read. -/
abbrev FieldKind.Raw : FieldKind → Type
  | amount | time => Int
  | percent => ExtendedDecimal
  | text => String

/-- The values of a kind. -/
abbrev FieldKind.Value : FieldKind → Type
  | amount => Nat
  | time => Int
  | percent => Decimal
  | text => String

/-- The value of a kind that was read, unless it is none. -/
def FieldKind.check : (kind : FieldKind) → kind.Raw → Validated kind.Value
  | amount, n => if n < 0 then .fail (.negativeAmount n) else .valid n.toNat
  | time, n => .valid n
  | percent, .finite d => .valid d
  | percent, _ => .fail .notFinite
  | text, s => .valid s

/-- The fields of a row as they are read. -/
def Draft := (f : Field) → Option f.kind.Raw

/-- The fields of a row. -/
def Record := (f : Field) → Option f.kind.Value

namespace Record

/-- The record without any field. -/
def empty : Record := fun _ => none

/-- The field has a value. -/
def has (r : Record) (f : Field) : Bool :=
  (r f).isSome

/-- All of the fields have a value. -/
def present (r : Record) (fs : List Field) : Bool :=
  fs.all r.has

/-- No field has a value. -/
def isBlank (r : Record) : Bool :=
  !Field.all.any r.has

/-- The record with a value of a field in place of what it had. -/
def set (r : Record) (f : Field) (v : Option f.kind.Value) : Record :=
  fun g => if h : f = g then h ▸ v else r g

end Record

namespace Draft

/-- The draft without any field. -/
def empty : Draft := fun _ => none

/-- The draft with a value of a field in place of what it had. -/
def set (d : Draft) (f : Field) (v : Option f.kind.Raw) : Draft :=
  fun g => if h : f = g then h ▸ v else d g

@[simp] theorem set_self (d : Draft) (f : Field) (v : Option f.kind.Raw) : d.set f v f = v := by
  simp [set]

theorem set_of_ne (d : Draft) {f g : Field} (v : Option f.kind.Raw) (h : f ≠ g) :
    d.set f v g = d g := by
  simp [set, h]

/-- A field of a draft, checked. -/
def field (d : Draft) (f : Field) : Validated (Option f.kind.Value) :=
  match d f with
  | none => .valid none
  | some v => ((f.kind.check v).under (.key f.key)).map some

/-- The complaints about the fields of a draft. -/
def complaints (d : Draft) : List Complaint :=
  Field.all.flatMap fun f => match d.field f with
    | .valid _ => []
    | .invalid cs => cs

/-- The record of a draft without complaints. -/
def validate (d : Draft) : Validated Record :=
  match d.complaints with
  | [] => .valid fun f => match d.field f with
    | .valid v => v
    | .invalid _ => none
  | cs => .invalid cs

end Draft

end VestingTable
