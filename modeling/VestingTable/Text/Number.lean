import VestingTable.Numeral

/-!
# Layouts of digits

How the digits of a number with a fraction are laid out: with a point among
them, or with one digit before the point and an exponent. The digits are
`d₁ … dₙ` and stand for `0.d₁ … dₙ * 10 ^ point`.
-/

namespace VestingTable.Text

/-- So many zeros. -/
def zeroDigits (n : Nat) : List Char :=
  List.replicate n '0'

/-- The digits around their point, which has digits on its left; nothing follows a point at the
    end, where it is left out. -/
def positional (ds : List Char) (point : Int) : List Char :=
  match point with
  | .negSucc k => '0' :: '.' :: zeroDigits (k + 1) ++ ds
  | 0 => '0' :: '.' :: ds
  | .ofNat k =>
    if k < ds.length then ds.take k ++ '.' :: ds.drop k else ds ++ zeroDigits (k - ds.length)

/-- The digits with the point behind the first one. -/
def pointed : List Char → List Char
  | d :: r :: ds => d :: '.' :: r :: ds
  | ds => ds

end VestingTable.Text
