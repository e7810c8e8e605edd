import VestingTable.Proofs.Json.Nesting
import VestingTable.Schedule.Encoding

/-!
# Schedules read back

A schedule is the same after it was written and read (`Schedule.load_serialize`).
The writer and the reader are not each other's mirror: amounts are written as
texts and times as bare integers, and a field that is absent is not written at
all. So the fields of an account are found by their names, wherever the fields
ahead of them ended (`Json.field?_append`). Only an indentation of too many blanks
cannot be written (`Json.indentLimit`).
-/

namespace VestingTable

/-! ## Fields -/

namespace Validated

variable {α : Type}

@[simp] theorem under_valid (step : Step) (a : α) : (valid a).under step = valid a := rfl

end Validated

namespace Json

variable {α : Type}

@[simp] theorem field?_nil (name : String) : field? [] name = none := rfl

/-- Of two runs of fields the second counts. -/
@[simp] theorem field?_append (fs more : List (String × Json)) (name : String) :
    field? (fs ++ more) name = (field? more name).or (field? fs name) := by
  rw [field?, List.reverse_append, List.find?_append, Option.map_or]
  rfl

@[simp] theorem field?_cons (f : String × Json) (fs : List (String × Json)) (name : String) :
    field? (f :: fs) name = (field? fs name).or (if f.1 = name then some f.2 else none) := by
  rw [← List.singleton_append, field?_append]
  by_cases h : f.1 = name <;> simp [field?, h]

@[simp] theorem field?_fieldOf (key name : String) (f : α → Json) (value : Option α) :
    field? (fieldOf key f value) name = if key = name then value.map f else none := by
  cases value with
  | none => simp [fieldOf]
  | some a => simp [fieldOf]

variable {fields : List (String × Json)} {name : String} {decode : Json → Validated α}

theorem required_of_field? {v : Json} {a : α} (h : field? fields name = some v)
    (hv : decode v = .valid a) : required fields name decode = .valid a := by
  rw [required, h]
  simp only [hv, Validated.under_valid]

/-- A field that was written if it was there. -/
theorem optional_of_field? {encode : α → Json} (value : Option α)
    (h : field? fields name = value.map encode) (hnull : ∀ a, encode a ≠ .null)
    (hv : ∀ a ∈ value, decode (encode a) = .valid a) :
    optional fields name decode = .valid value := by
  rw [optional, h]
  cases value with
  | none => rfl
  | some a =>
    rw [Option.map_some]
    split
    · next hv => exact absurd hv (by simp)
    · next hv => exact absurd (Option.some.inj hv) (hnull a)
    · next v _ heq =>
      obtain rfl := Option.some.inj heq
      rw [hv a rfl]
      rfl

theorem withDefault_of_field? {v : Json} {a : α} (default : α) (h : field? fields name = some v)
    (hv : decode v = .valid a) : withDefault fields name decode default = .valid a := by
  rw [withDefault, h]
  simp only [hv, Validated.under_valid]

/-- The items of a list that was written item by item. -/
theorem toItems_map {encode : α → Json} {as : List α}
    (h : ∀ a ∈ as, decode (encode a) = .valid a) :
    toItems decode (.array (as.map encode)) = .valid as := by
  -- The places of the items only matter to complaints, so the induction lets them vary.
  have all (place : Nat → Nat) : Validated.all ((as.map encode).mapIdx fun i v =>
      (decode v).under (.index (place i))) = .valid as := by
    induction as generalizing place with
    | nil => rfl
    | cons a as ih =>
      rw [List.map_cons, List.mapIdx_cons, Validated.all, h a List.mem_cons_self,
        ih (fun b hb => h b (List.mem_cons_of_mem _ hb)) fun i => place (i + 1)]
      rfl
  exact all id

/-- An amount is read back from its text. -/
theorem toAmount_ofAmount {n : Nat} (h : Numeral.Fits n) : toAmount (ofAmount n) = .valid n := by
  have read : toInteger (ofAmount n) = .valid (n : Int) := textInteger_ofNat h
  rw [toAmount, read, Validated.andThen, FieldKind.check,
    if_neg (Int.not_lt.2 (Int.natCast_nonneg n)), Int.toNat_natCast]

end Json

/-! ## Parts of a schedule -/

/-- An account is read back from its fields. -/
theorem Account.ofJson_toJson {a : Account} (h : ∀ n ∈ a.amounts, Numeral.Fits (n : Nat)) :
    Account.ofJson a.toJson = .valid a := by
  have amount {n : Nat} (hn : n ∈ a.amounts) : Json.toAmount (Json.ofAmount n) = .valid n :=
    Json.toAmount_ofAmount (h n hn)
  have notNull (n : Nat) : Json.ofAmount n ≠ .null := Json.noConfusion
  have timeNotNull (n : Int) : Json.integer n ≠ .null := Json.noConfusion
  have textNotNull (s : String) : Json.string s ≠ .null := Json.noConfusion
  -- Each field is looked up among all that were written, by its own name.
  rw [toJson, ofJson, Json.toFields,
    Json.required_of_field? (v := .string a.name) (a := a.name) (by simp) rfl,
    Json.required_of_field? (v := .ofAmount a.amount) (by simp) (amount (by simp [amounts])),
    Json.optional_of_field? a.address (by simp) textNotNull fun _ _ => rfl,
    Json.optional_of_field? a.startAt (by simp) timeNotNull fun _ _ => rfl,
    Json.optional_of_field? a.interval (by simp) timeNotNull fun _ _ => rfl,
    Json.optional_of_field? a.duration (by simp) timeNotNull fun _ _ => rfl,
    Json.optional_of_field? a.cliff (by simp) notNull
      fun n hn => amount (by simp [amounts, Option.mem_def.1 hn]),
    Json.optional_of_field? a.portionSize (by simp) notNull
      fun n hn => amount (by simp [amounts, Option.mem_def.1 hn]),
    Json.optional_of_field? a.remainder (by simp) notNull
      fun n hn => amount (by simp [amounts, Option.mem_def.1 hn])]
  rfl

/-- A pool is read back from its fields. -/
theorem Pool.ofJson_toJson {p : Pool} (htotal : Numeral.Fits p.total)
    (h : ∀ a ∈ p.accounts, ∀ n ∈ a.amounts, Numeral.Fits (n : Nat)) :
    Pool.ofJson p.toJson = .valid p := by
  have accounts := Json.toItems_map fun a ha => Account.ofJson_toJson (h a ha)
  rw [toJson, ofJson, Json.toFields,
    Json.required_of_field? (v := .string p.name) (a := p.name) (by simp) rfl,
    Json.required_of_field? (v := .ofAmount p.total) (by simp) (Json.toAmount_ofAmount htotal),
    Json.withDefault_of_field? (v := .bool p.isPartial) (a := p.isPartial) _ (by simp) rfl,
    Json.withDefault_of_field? _ (by simp) accounts]
  rfl

/-- A schedule is read back from its fields. -/
theorem Schedule.ofJson_toJson {s : Schedule} (h : s.IsWritable) :
    Schedule.ofJson s.toJson = .valid s := by
  have part {p : Pool} (hp : p ∈ s.pools) {n : Nat}
      (hn : n ∈ p.total :: p.accounts.flatMap Account.amounts) : Numeral.Fits n :=
    h n (List.mem_cons_of_mem _ (List.mem_flatMap.2 ⟨p, hp, hn⟩))
  have pools := Json.toItems_map fun p hp => Pool.ofJson_toJson (part hp List.mem_cons_self)
    fun a ha n hn => part hp (List.mem_cons_of_mem _ (List.mem_flatMap.2 ⟨a, ha, hn⟩))
  rw [toJson, ofJson, Json.toFields,
    Json.required_of_field? (v := .ofAmount s.total) (by simp)
      (Json.toAmount_ofAmount (h s.total List.mem_cons_self)),
    Json.withDefault_of_field? _ (by simp) pools]
  rfl

/-! ## The text of a schedule -/

/-- The times of an account. -/
def Account.times (a : Account) : List Int :=
  a.startAt.toList ++ a.interval.toList ++ a.duration.toList

/-- The times of a schedule. -/
def Schedule.times (s : Schedule) : List Int :=
  s.pools.flatMap fun p => p.accounts.flatMap Account.times

/-- Fields that are written if they are there. -/
theorem Json.forall_mem_fieldOf {α : Type} {P : Json → Prop} {name : String} {encode : α → Json}
    {value : Option α} (h : ∀ a ∈ value, P (encode a)) :
    ∀ f ∈ fieldOf name encode value, P f.2 := by
  cases value with
  | none => exact fun _ hf => absurd hf List.not_mem_nil
  | some a =>
    intro f hf
    obtain rfl := List.mem_singleton.1 hf
    exact h a rfl

theorem Account.isExact_toJson {a : Account} (h : ∀ n ∈ a.times, Numeral.Fits n) :
    Json.IsExact 1 a.toJson := by
  have time {value : Option Int} (hsub : ∀ n ∈ value, n ∈ a.times) (name : String) :
      ∀ f ∈ Json.fieldOf name .integer value, Json.IsExact 0 f.2 :=
    Json.forall_mem_fieldOf fun n hn => .integer (h n (hsub n hn))
  have amount (value : Option Nat) (name : String) :
      ∀ f ∈ Json.fieldOf name .ofAmount value, Json.IsExact 0 f.2 :=
    Json.forall_mem_fieldOf fun n _ => .string _
  refine .object ?_
  simp only [List.forall_mem_append]
  refine ⟨⟨⟨⟨⟨⟨⟨?_, ?_⟩, ?_⟩, ?_⟩, ?_⟩, ?_⟩, ?_⟩, ?_⟩
  · simpa using ⟨.string _, .string _⟩
  · exact Json.forall_mem_fieldOf fun s _ => .string s
  · exact time (fun n hn => by simp [times, Option.mem_def.1 hn]) _
  · exact time (fun n hn => by simp [times, Option.mem_def.1 hn]) _
  · exact time (fun n hn => by simp [times, Option.mem_def.1 hn]) _
  · exact amount _ _
  · exact amount _ _
  · exact amount _ _

theorem Pool.isExact_toJson {p : Pool} (h : ∀ a ∈ p.accounts, ∀ n ∈ a.times, Numeral.Fits n) :
    Json.IsExact 3 p.toJson := by
  have accounts : Json.IsExact 2 (.array (p.accounts.map Account.toJson)) := by
    refine .array ?_
    rw [List.forall_mem_map]
    exact fun a ha => Account.isExact_toJson (h a ha)
  refine .object ?_
  simpa using ⟨.string _, .string _, .bool _, accounts⟩

/-- A schedule is nested five levels deep at most. -/
theorem Schedule.isExact_toJson {s : Schedule} (h : ∀ n ∈ s.times, Numeral.Fits n) :
    Json.IsExact 5 s.toJson := by
  have pools : Json.IsExact 4 (.array (s.pools.map Pool.toJson)) := by
    refine .array ?_
    rw [List.forall_mem_map]
    exact fun p hp => Pool.isExact_toJson fun a ha n hn =>
      h n (List.mem_flatMap.2 ⟨p, hp, List.mem_flatMap.2 ⟨a, ha, hn⟩⟩)
  refine .object ?_
  simpa using ⟨.string _, pools⟩

/-- A schedule is read back from its text, with any blanks behind it. -/
theorem Schedule.load_render {s : Schedule} (hamounts : s.IsWritable)
    (htimes : ∀ n ∈ s.times, Numeral.Fits n) (indent : Option Nat) (blanks : String)
    (hblanks : ∀ c ∈ blanks.toList, Json.isSpace c) :
    Schedule.load (s.toJson.render indent ++ blanks) = .ok s := by
  have value := Json.ofText?_render (Schedule.isExact_toJson htimes) (by decide) indent hblanks
  rw [load, ofText, value]
  simp only [Schedule.ofJson_toJson hamounts]

theorem Json.indentWidth_of_lt {n : Int} (hpos : 0 ≤ n) (hlt : n < indentLimit) :
    indentWidth n = .ok n.toNat := by
  have positive : 0 < indentLimit := by decide
  rw [indentWidth, if_neg (by omega), if_neg (by omega), if_neg (by omega)]

/-- A schedule is written if its amounts and the indentation can be. -/
theorem Schedule.serialize_eq_ok {s : Schedule} {indent : Option Int} (hamounts : s.IsWritable)
    (hindent : ∀ n ∈ indent, 0 ≤ n ∧ n < Json.indentLimit) :
    s.serialize indent = .ok (s.toJson.render (indent.map Int.toNat)) := by
  have width : indent.mapM Json.indentWidth = .ok (indent.map Int.toNat) := by
    cases indent with
    | none => rfl
    | some n =>
      obtain ⟨hpos, hlt⟩ := hindent n rfl
      rw [Option.mapM_some, Json.indentWidth_of_lt hpos hlt]
      rfl
  rw [serialize, width]
  simp only [bind, Except.bind, if_pos hamounts]
  rfl

/-- A schedule is written, and read back from what was written. Its amounts and times can be
    written as numerals, and an indentation is not by less than nothing and not by too much. -/
theorem Schedule.load_serialize {s : Schedule} {indent : Option Int} (hamounts : s.IsWritable)
    (htimes : ∀ n ∈ s.times, Numeral.Fits n)
    (hindent : ∀ n ∈ indent, 0 ≤ n ∧ n < Json.indentLimit) :
    ∃ text, s.serialize indent = .ok text ∧ Schedule.load text = .ok s ∧
      Schedule.load (text ++ "\n") = .ok s := by
  refine ⟨s.toJson.render (indent.map Int.toNat), serialize_eq_ok hamounts hindent, ?_, ?_⟩
  · have plain := Schedule.load_render hamounts htimes (indent.map Int.toNat) ""
      fun c hc => absurd hc List.not_mem_nil
    rwa [String.append_empty] at plain
  · exact Schedule.load_render hamounts htimes _ "\n" fun c hc => by
      rw [List.mem_singleton.1 hc]
      rfl

/-- A schedule with names that are escaped, a time ahead of the epoch and fields that are absent. -/
def unusualSchedule : Schedule where
  total := 1000000000000000000000
  pools := [
    { name := "Café \"A\" \\ \x07\n", total := 12, isPartial := true,
      accounts := [{ name := "", amount := 12, startAt := some (-86400), cliff := some 0 }] },
    { name := "数", total := 0 }]

theorem Schedule.load_serialize_unusual :
    ∃ text, unusualSchedule.serialize (some 2) = .ok text ∧
      Schedule.load text = .ok unusualSchedule ∧
      Schedule.load (text ++ "\n") = .ok unusualSchedule :=
  Schedule.load_serialize (by decide +kernel) (by decide +kernel) (by decide)

/-- An indentation that is no machine word is refused, whatever the schedule. -/
theorem Schedule.serialize_of_le {n : Int} (s : Schedule) (h : 2 * Json.indentLimit ≤ n) :
    s.serialize (some n) = .error .hugeIndent := by
  have positive : 0 < Json.indentLimit := by decide
  have width : Json.indentWidth n = .error .hugeIndent := by
    rw [Json.indentWidth, if_neg (by omega), if_pos h]
  rw [serialize, Option.mapM_some, width]
  rfl

/-- Not every indentation can be written: its blanks may be too many for a machine word. -/
theorem Schedule.not_load_serialize_huge :
    ¬ ∀ (s : Schedule) (indent : Option Int), s.IsWritable → (∀ n ∈ s.times, Numeral.Fits n) →
      (∀ n ∈ indent, 0 ≤ n) → ∃ text, s.serialize indent = .ok text ∧
        Schedule.load text = .ok s ∧ Schedule.load (text ++ "\n") = .ok s := by
  intro claimed
  have writable : ({ total := 1 } : Schedule).IsWritable := by decide +kernel
  obtain ⟨text, written, -⟩ := claimed { total := 1 } (some 0x10000000000000000) writable
    (by decide +kernel) (by decide)
  rw [Schedule.serialize_of_le _ (by decide)] at written
  exact absurd written (by simp)

end VestingTable
