import VestingTable.Proofs.Json.Grammar
import VestingTable.Proofs.Json.Squeezing
import VestingTable.Proofs.Schedule.RoundTrip

/-!
# The shape of schedules as JSON

What a schedule is as JSON, said without the writer: which fields an object has, in which
order, and what each of them is. Amounts are strings that are numerals without a sign and
without a zero ahead, times are bare integers, and what is absent has no field, not even one
that is null.

* `Schedule.serialize_hasShape`: a schedule is written as a text of a value of this shape, and
  its texts at all indentations are texts of the same value and differ in blanks outside of
  strings only.
-/

namespace VestingTable

namespace Json

/-! ## Shapes of values -/

/-- The string of these characters. -/
def IsString (s : String) (v : Json) : Prop :=
  v = .string s

/-- A string that is the numeral of the amount. -/
def IsAmount (n : Nat) (v : Json) : Prop :=
  ∃ s, v = .string s ∧ Numeral.IsCanonical n s.toList

/-- The bare integer. -/
def IsTime (n : Int) (v : Json) : Prop :=
  v = .integer n

/-- The truth value. -/
def IsBool (b : Bool) (v : Json) : Prop :=
  v = .bool b

/-- A list of items of these shapes. -/
def IsList (shapes : List (Json → Prop)) (v : Json) : Prop :=
  ∃ items, v = .array items ∧ List.Forall₂ (fun shape w => shape w) shapes items

/-- A field of this name and this shape. -/
def IsMember (member : String × (Json → Prop)) (field : String × Json) : Prop :=
  field.1 = member.1 ∧ member.2 field.2

/-- An object with fields of these names and shapes, in this order, and no others. -/
def IsObject (members : List (String × (Json → Prop))) (v : Json) : Prop :=
  ∃ fields, v = .object fields ∧ List.Forall₂ IsMember members fields

/-- The members of those that may be absent. -/
def present (members : List (String × Option (Json → Prop))) : List (String × (Json → Prop)) :=
  members.filterMap fun member => member.2.map fun shape => (member.1, shape)

/-- The value is not null, nor is any within it. -/
inductive IsNullFree : Json → Prop
  | bool (b : Bool) : IsNullFree (.bool b)
  | integer (n : Int) : IsNullFree (.integer n)
  | float (x : Binary64) : IsNullFree (.float x)
  | string (s : String) : IsNullFree (.string s)
  | array {items : List Json} (h : ∀ v ∈ items, IsNullFree v) : IsNullFree (.array items)
  | object {fields : List (String × Json)} (h : ∀ f ∈ fields, IsNullFree f.2) :
      IsNullFree (.object fields)

end Json

open Json

/-- What an account is. -/
def Account.HasShape (a : Account) : Json → Prop :=
  IsObject <| present
    [("name", some (IsString a.name)), ("amount", some (IsAmount a.amount)),
      ("address", a.address.map IsString), ("start_at", a.startAt.map IsTime),
      ("interval", a.interval.map IsTime), ("duration", a.duration.map IsTime),
      ("cliff", a.cliff.map IsAmount), ("portion_size", a.portionSize.map IsAmount),
      ("remainder", a.remainder.map IsAmount)]

/-- What a pool is. -/
def Pool.HasShape (p : Pool) : Json → Prop :=
  IsObject
    [("name", IsString p.name), ("total", IsAmount p.total), ("partial", IsBool p.isPartial),
      ("accounts", IsList (p.accounts.map Account.HasShape))]

/-- What a schedule is. -/
def Schedule.HasShape (s : Schedule) : Json → Prop :=
  IsObject [("total", IsAmount s.total), ("pools", IsList (s.pools.map Pool.HasShape))]

/-! ## Values that are written -/

namespace Json

theorem isAmount_ofAmount (n : Nat) : IsAmount n (ofAmount n) :=
  ⟨_, rfl, by rw [Numeral.ofNat, String.toList_ofList]; exact Numeral.isCanonical_digits n⟩

theorem isList_map {α : Type} {shape : α → Json → Prop} {encode : α → Json} {as : List α}
    (h : ∀ a ∈ as, shape a (encode a)) : IsList (as.map shape) (.array (as.map encode)) := by
  refine ⟨_, rfl, ?_⟩
  rw [List.forall₂_map_left_iff, List.forall₂_map_right_iff, List.forall₂_same]
  exact h

/-- One more member, that is written if it is there. -/
theorem forall₂_present_cons {α : Type} (name : String) {shape : α → Json → Prop}
    {encode : α → Json} {members : List (String × Option (Json → Prop))}
    {fields : List (String × Json)} (value : Option α) (h : ∀ a, shape a (encode a))
    (rest : List.Forall₂ IsMember (present members) fields) :
    List.Forall₂ IsMember (present ((name, value.map shape) :: members))
      (fieldOf name encode value ++ fields) := by
  cases value with
  | none => exact rest
  | some a => exact .cons ⟨rfl, h a⟩ rest

end Json

theorem Account.hasShape_toJson (a : Account) : a.HasShape a.toJson := by
  have text (s : String) : IsString s (.string s) := rfl
  have time (n : Int) : IsTime n (.integer n) := rfl
  have none : List.Forall₂ IsMember (present []) [] := .nil
  refine ⟨_, rfl, ?_⟩
  rw [← List.append_nil (fieldOf "remainder" _ _)]
  simp only [List.append_assoc]
  -- The first two are always there; each of the others is written if it is there.
  exact .cons ⟨rfl, rfl⟩ <| .cons ⟨rfl, isAmount_ofAmount _⟩ <|
    forall₂_present_cons "address" a.address text <|
    forall₂_present_cons "start_at" a.startAt time <|
    forall₂_present_cons "interval" a.interval time <|
    forall₂_present_cons "duration" a.duration time <|
    forall₂_present_cons "cliff" a.cliff isAmount_ofAmount <|
    forall₂_present_cons "portion_size" a.portionSize isAmount_ofAmount <|
    forall₂_present_cons "remainder" a.remainder isAmount_ofAmount none

theorem Pool.hasShape_toJson (p : Pool) : p.HasShape p.toJson :=
  ⟨_, rfl, .cons ⟨rfl, rfl⟩ <| .cons ⟨rfl, isAmount_ofAmount _⟩ <| .cons ⟨rfl, rfl⟩ <|
    .cons ⟨rfl, isList_map fun a _ => a.hasShape_toJson⟩ .nil⟩

theorem Schedule.hasShape_toJson (s : Schedule) : s.HasShape s.toJson :=
  ⟨_, rfl, .cons ⟨rfl, isAmount_ofAmount _⟩ <|
    .cons ⟨rfl, isList_map fun p _ => p.hasShape_toJson⟩ .nil⟩

/-! ## No null -/

theorem Account.isNullFree_toJson (a : Account) : IsNullFree a.toJson := by
  have text {name : String} {value : Option String} :
      ∀ f ∈ fieldOf name .string value, IsNullFree f.2 :=
    forall_mem_fieldOf fun s _ => .string s
  have time {name : String} {value : Option Int} :
      ∀ f ∈ fieldOf name .integer value, IsNullFree f.2 :=
    forall_mem_fieldOf fun n _ => .integer n
  have amount {name : String} {value : Option Nat} :
      ∀ f ∈ fieldOf name ofAmount value, IsNullFree f.2 :=
    forall_mem_fieldOf fun _ _ => .string _
  refine .object ?_
  simp only [List.forall_mem_append]
  refine ⟨⟨⟨⟨⟨⟨⟨?_, text⟩, time⟩, time⟩, time⟩, amount⟩, amount⟩, amount⟩
  simpa using ⟨.string _, .string _⟩

theorem Pool.isNullFree_toJson (p : Pool) : IsNullFree p.toJson := by
  have accounts : IsNullFree (.array (p.accounts.map Account.toJson)) := by
    refine .array ?_
    rw [List.forall_mem_map]
    exact fun a _ => a.isNullFree_toJson
  refine .object ?_
  simpa using ⟨.string _, .string _, .bool _, accounts⟩

theorem Schedule.isNullFree_toJson (s : Schedule) : IsNullFree s.toJson := by
  have pools : IsNullFree (.array (s.pools.map Pool.toJson)) := by
    refine .array ?_
    rw [List.forall_mem_map]
    exact fun p _ => p.isNullFree_toJson
  refine .object ?_
  simpa using ⟨.string _, pools⟩

/-! ## The text of a schedule -/

/-- A schedule whose integers can be written is written, at any indentation that can be, as a text of
    one value of its shape that has no null. Without the blanks outside of strings it is the text on
    a single line. -/
theorem Schedule.serialize_hasShape {s : Schedule} (hamounts : s.IsWritable)
    (htimes : ∀ n ∈ s.times, Numeral.Fits n) :
    ∃ v compact, s.HasShape v ∧ IsNullFree v ∧ s.serialize none = .ok compact ∧
      ∀ indent : Option Int, (∀ n ∈ indent, 0 ≤ n ∧ n < indentLimit) →
        ∃ text, s.serialize indent = .ok text ∧ IsText v text.toList ∧ ofText? text = some v ∧
          squeeze text.toList = compact.toList := by
  have exact := isExact_toJson htimes
  refine ⟨s.toJson, s.toJson.render none, s.hasShape_toJson, s.isNullFree_toJson,
    serialize_eq_ok hamounts (by simp), fun indent hindent => ?_⟩
  refine ⟨s.toJson.render (indent.map Int.toNat), serialize_eq_ok hamounts hindent, ?_, ?_, ?_⟩
  · rw [render, String.toList_ofList]
    exact isText_renderAt exact _ 0
  · have noBlanks : ∀ c ∈ ("" : String).toList, isSpace c := fun c hc => absurd hc List.not_mem_nil
    have value := ofText?_render exact (by decide) (indent.map Int.toNat) noBlanks
    rwa [String.append_empty] at value
  · rw [render, render, String.toList_ofList, String.toList_ofList]
    exact squeeze_renderAt exact _ 0

/-- Names that are escaped, with blanks in them, at an indentation by two. -/
theorem Schedule.serialize_hasShape_unusual :
    ∃ v compact, unusualSchedule.HasShape v ∧ IsNullFree v ∧
      unusualSchedule.serialize none = .ok compact ∧
      ∃ text, unusualSchedule.serialize (some 2) = .ok text ∧ IsText v text.toList ∧
        ofText? text = some v ∧ squeeze text.toList = compact.toList := by
  obtain ⟨v, compact, shape, nullFree, onOneLine, indented⟩ :=
    serialize_hasShape (s := unusualSchedule) (by decide +kernel) (by decide +kernel)
  exact ⟨v, compact, shape, nullFree, onOneLine, indented (some 2) (by decide)⟩

/-- There is no text at an indentation whose blanks are too many for a machine word. -/
theorem Schedule.not_serialize_hasShape_huge :
    ¬ ∀ s : Schedule, s.IsWritable → (∀ n ∈ s.times, Numeral.Fits n) →
      ∃ v compact, s.HasShape v ∧ IsNullFree v ∧ s.serialize none = .ok compact ∧
        ∀ indent : Option Int, (∀ n ∈ indent, 0 ≤ n) →
          ∃ text, s.serialize indent = .ok text ∧ IsText v text.toList ∧ ofText? text = some v ∧
            squeeze text.toList = compact.toList := by
  intro claimed
  obtain ⟨v, compact, -, -, -, indented⟩ :=
    claimed unusualSchedule (by decide +kernel) (by decide +kernel)
  obtain ⟨text, written, -⟩ := indented (some 0x10000000000000000) (by decide)
  rw [Schedule.serialize_of_le _ (by decide)] at written
  exact absurd written (by simp)

end VestingTable
