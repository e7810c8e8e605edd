/-!
# Ranges of characters

The character classes of the Unicode standard are given by tables of ranges of
code points. A table is searched from its start, so the classes that matter
for plain tables of figures are decided before a table is consulted.
-/

namespace VestingTable.Text

/-- A table of ranges of code points, both ends included. -/
abbrev Ranges := List (Nat × Nat)

/-- `c` lies in one of the ranges of the table. -/
def Ranges.contains (table : Ranges) (c : Char) : Bool :=
  table.any fun range => range.1 ≤ c.toNat && c.toNat ≤ range.2

theorem Ranges.contains_iff {table : Ranges} {c : Char} :
    table.contains c ↔ ∃ range ∈ table, range.1 ≤ c.toNat ∧ c.toNat ≤ range.2 := by
  simp [Ranges.contains]

end VestingTable.Text
