import VestingTable.Proofs.Binary64.Whole
import VestingTable.Proofs.Cell.Failing

/-!
# Integers that a float has rounded

An integer that is typed into a spreadsheet is stored as the float nearest to
it. Up to `Cell.maxExact` this is the integer itself, and every integer above
is refused, whether it was rounded or not, as soon as its float is above
`Cell.maxExact` too. One integer is not told from another by this: the next one after
`Cell.maxExact` is rounded down to it.

* `Cell.readInteger_ofInt`: the reading of the float nearest to an integer, for
  every integer that has one.
-/

namespace VestingTable.Cell

open Binary64

variable {n : Nat} {m : Magnitude}

theorem ofInt_eq_finite_iff : ofInt n = .finite false m ↔ Magnitude.nearest? n 1 = some m := by
  rw [ofInt_natCast, Magnitude.nearest_eq_finite_iff]

theorem toInt?_finite {k : Nat} (hk : m.toNat? = some k) : (finite false m).toInt? = some (k : Int) :=
  Option.map_eq_some_iff.2 ⟨k, hk, rfl⟩

/-- A whole float above the limit is refused. -/
theorem readInteger_float_of_gt {x : Binary64} {k : Nat} (hx : x.toInt? = some (k : Int))
    (hk : maxExact < k) (row : Option Int) (field : Field) :
    (float x).readInteger row field = .error (refusal row field x.text .rounded) := by
  have blank : (float x).blank = .ok false := by
    cases x with
    | nan => contradiction
    | infinite => contradiction
    | finite => rfl
  have large : maxExact < (k : Int).natAbs := hk
  rw [readInteger_eq_bind blank rfl]
  simp only [integer?, hx, if_pos large, Except.bind]

/-- The next integer after the limit is stored as the limit, and is read as such. -/
theorem readInteger_ofInt_succ (row : Option Int) (field : Field) :
    (float (ofInt (maxExact + 1 : Nat))).readInteger row field = .ok (some (maxExact : Int)) := by
  obtain ⟨m, hm, hk⟩ := Magnitude.nearest?_tie
  rw [show ofInt (maxExact + 1 : Nat) = .finite false m from ofInt_eq_finite_iff.2 hm]
  exact (Writes.float (toInt?_finite hk)).readInteger le_rfl row field

theorem readInteger_ofInt_of_gt (hn : maxExact + 1 < n) (nearest : ofInt n = .finite false m)
    (row : Option Int) (field : Field) :
    (float (ofInt n)).readInteger row field =
      .error (refusal row field (ofInt n).text .rounded) := by
  have hm := ofInt_eq_finite_iff.1 nearest
  have large : twoTo 52 ≤ n :=
    Nat.le_trans (twoTo_le (by decide)) (Nat.le_of_lt (Nat.lt_of_succ_lt hn))
  obtain ⟨k, hk⟩ := Magnitude.exists_toNat?_of_nearest? large hm
  rw [nearest]
  exact readInteger_float_of_gt (toInt?_finite hk) (Magnitude.lt_of_nearest? hn hm hk) row field

/-- The float nearest to an integer is read as this integer up to the limit and refused above it,
    but for the next integer after the limit, which is read as the limit. -/
theorem readInteger_ofInt (nearest : ofInt n = .finite false m) (row : Option Int) (field : Field) :
    (float (ofInt n)).readInteger row field =
      if n ≤ maxExact then .ok (some (n : Int))
      else if n = maxExact + 1 then .ok (some (maxExact : Int))
      else .error (refusal row field (ofInt n).text .rounded) := by
  split
  · next hle => exact (Writes.float (toInt?_ofInt hle)).readInteger hle row field
  · next hgt =>
    split
    · next hn => rw [hn, readInteger_ofInt_succ]
    · next hne => exact readInteger_ofInt_of_gt (by omega) nearest row field

theorem readInteger_ofInt_even : ∃ m, ofInt (maxExact + 2 : Nat) = .finite false m ∧
    (float (ofInt (maxExact + 2 : Nat))).readInteger (some 5) .total =
      .error (.cell (some 5) .total .rounded (ofInt (maxExact + 2 : Nat)).text) := by
  have finite : (Magnitude.nearest? (maxExact + 2) 1).isSome := by decide +kernel
  obtain ⟨m, hm⟩ := Option.isSome_iff_exists.1 finite
  have nearest := ofInt_eq_finite_iff.2 hm
  have five : Numeral.Fits 5 := fits_of_le (by decide : 5 ≤ maxExact)
  refine ⟨m, nearest, ?_⟩
  rw [readInteger_ofInt nearest, if_neg (by decide), if_neg (by decide),
    refusal_of_fits (by simpa using five) (by simp)]

/-- An integer that was rounded when it was stored may thus be read as another one. -/
theorem not_exact_ofInt_succ : ¬ ∀ k : Int,
    (float (ofInt (maxExact + 1 : Nat))).readInteger (some 5) .total = .ok (some k) →
      k = (maxExact + 1 : Nat) := by
  intro exact
  have := exact maxExact (readInteger_ofInt_succ (some 5) .total)
  omega

end VestingTable.Cell
