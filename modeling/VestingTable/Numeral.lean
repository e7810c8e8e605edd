import VestingTable.Text.Digit

/-!
# Numerals

Amounts of tokens are counted in base units and may have any number of digits;
a numeral of more than `maxDigits` digits is taken for a mistake, both where
it is read and where it would be written.

* `digitValues?_digits`: the digits of a number, read back, have the number as their value.
-/

namespace VestingTable.Numeral

/-- A power of ten. -/
def tenTo (exponent : Nat) : Nat :=
  Nat.pow 10 exponent

theorem tenTo_pos (exponent : Nat) : 0 < tenTo exponent :=
  Nat.pow_pos (by decide)

/-- The most digits a numeral may have. -/
def maxDigits : Nat := 4300

/-- The number can be written with at most `maxDigits` digits, its sign aside. -/
def Fits (n : Int) : Prop :=
  n.natAbs < tenTo maxDigits

instance (n : Int) : Decidable (Fits n) :=
  inferInstanceAs (Decidable (_ < _))

theorem fits_natCast_of_le {n m : Nat} (h : n ≤ m) (hm : m < tenTo maxDigits) : Fits (n : Int) := by
  unfold Fits
  rw [Int.natAbs_natCast]
  exact Nat.lt_of_le_of_lt h hm

theorem fits_zero : Fits 0 :=
  tenTo_pos maxDigits

/-- The least number that is too long to be written. -/
def leastLong : Nat :=
  tenTo maxDigits

theorem not_fits_leastLong : ¬ Fits leastLong := by
  rw [Fits, Int.natAbs_natCast]
  exact Nat.lt_irrefl _

/-- The digits of a number to the base ten, from the first to the last. -/
def digits (n : Nat) : List Char :=
  Nat.toDigits 10 n

/-- The digits of an integer, after a minus sign if it is negative. -/
def signedDigits : Int → List Char
  | .ofNat n => digits n
  | .negSucc n => '-' :: digits (n + 1)

/-- The numeral of a number. -/
def ofNat (n : Nat) : String :=
  String.ofList (digits n)

/-- The numeral of an integer. -/
def ofInt (n : Int) : String :=
  String.ofList (signedDigits n)

/-- The digits of a number, filled up with zeros to a width. -/
def padded (width n : Nat) : String :=
  String.ofList ((digits n).leftpad width '0')

/-- The number with the given values of digits, the first of them the greatest. -/
def value (ds : List Nat) : Nat :=
  ds.foldl (fun n d => 10 * n + d) 0

/-- The values of the digits of a text, of any scripts; nothing if another character occurs. -/
def digitValues? (cs : List Char) : Option (List Nat) :=
  cs.mapM Text.digit?

theorem value_append_singleton (ds : List Nat) (d : Nat) :
    value (ds ++ [d]) = 10 * value ds + d := by
  simp [value]

theorem digitValues?_append_singleton {cs : List Char} {ds : List Nat} {c : Char} {d : Nat}
    (hs : digitValues? cs = some ds) (h : Text.digit? c = some d) :
    digitValues? (cs ++ [c]) = some (ds ++ [d]) := by
  simp only [digitValues?] at hs ⊢
  simp [List.mapM_append, hs, h]

/-- The digits of a number, read back, have the number as their value. -/
theorem digitValues?_digits (n : Nat) :
    ∃ ds, digitValues? (digits n) = some ds ∧ value ds = n := by
  induction n using Nat.strongRecOn with
  | ind n ih =>
    by_cases h : n < 10
    · refine ⟨[n], ?_, by simp [value]⟩
      simp [digits, digitValues?, Nat.toDigits_of_lt_base h, Text.digit?_digitChar h]
    · obtain ⟨ds, hs, hv⟩ := ih (n / 10) (by omega)
      have hlast : n % 10 < 10 := by omega
      refine ⟨ds ++ [n % 10], ?_, ?_⟩
      · rw [digits, Nat.toDigits_of_base_le (by omega) (by omega)]
        exact digitValues?_append_singleton hs (Text.digit?_digitChar hlast)
      · rw [value_append_singleton, hv]
        omega

end VestingTable.Numeral
