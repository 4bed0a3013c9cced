import Columnar.IntKind

/-!
# Scaled decimals

An integer and a scale stand for the integer times ten to the minus scale. Its text is exact: a
positive scale sets a point before that many digits, with zeros in front where digits are missing,
and a negative scale appends zeros.
-/

namespace Columnar.Decimal

/-- Decimal digits with zeros in front, at least `n` of them. -/
def padded (n : Nat) (digits : List Nat) : List Nat :=
  List.replicate (n - digits.length) 0 ++ digits

/-- Decimal digits with a point before the last `scale` of them. -/
def pointed (scale : Nat) (digits : List Nat) : Text :=
  let whole := digits.length - scale
  (digits.take whole).map Text.digit ++ Text.ascii "." ++ (digits.drop whole).map Text.digit

/-- The number of zeros that a scale appends, as a 32-bit word. No such word is minus the least
scale, whose number of zeros is negative. -/
def zeros (scale : Int) : Int := if scale < 0 then (IntKind.int .w32).wrap (-scale) else 0

/-- A magnitude at a scale. -/
def magnitude (n : Nat) (scale : Int) : Text :=
  let digits := Text.digits n
  if scale > 0 then pointed scale.toNat (padded (scale.toNat + 1) digits)
  else (digits ++ List.replicate (zeros scale).toNat 0).map Text.digit

/-- An unscaled integer at a scale. -/
def scaled (unscaled scale : Int) : Text :=
  (if unscaled < 0 then Text.ascii "-" else []) ++ magnitude unscaled.natAbs scale

end Columnar.Decimal
