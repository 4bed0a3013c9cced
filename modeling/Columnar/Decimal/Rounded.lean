import Columnar.Powers
import Columnar.Text

/-!
# Rounded decimals

A floating-point number is shown with at most six significant digits: its exact value is rounded to
the nearest, a tie to the even neighbour, and zeros at the end are dropped. Numbers below one
ten-thousandth and from a million on are shown with an exponent of at least two digits.
-/

namespace Columnar.Decimal

/-- The quotient rounded to nearest, a tie to the even neighbour. -/
def roundDiv (num den : Nat) : Nat :=
  let q := num / den
  let twice := 2 * (num % den)
  if twice > den ∨ (twice = den ∧ q % 2 = 1) then q + 1 else q

/-- The greatest exponent whose power of ten is not above `num / den`, for a positive quotient. -/
def exponent (num den : Nat) : Int :=
  if den ≤ num then ((Text.digits (num / den)).length : Int) - 1
  else
    let k := (Text.digits den).length - (Text.digits num).length
    if den ≤ num * 10 ^ k then -(k : Int) else -(k + 1 : Int)

/-- Significant digits of a number, and the exponent of the first of them. -/
structure Scientific where
  digits : List Nat
  exponent : Int
deriving DecidableEq, Repr

/-- A positive quotient rounded to `precision` significant digits. -/
def toScientific (precision num den : Nat) : Scientific :=
  let e := exponent num den
  let shift := (precision : Int) - 1 - e
  let n := roundDiv (num * 10 ^ shift.toNat) (den * 10 ^ (-shift).toNat)
  if n = 10 ^ precision then ⟨Text.digits (n / 10), e + 1⟩ else ⟨Text.digits n, e⟩

/-- Digits without the zeros at their end. -/
def dropZeros (digits : List Nat) : List Nat := (digits.reverse.dropWhile (· == 0)).reverse

/-- Digits behind a point, which is left out with them when there are none. -/
def fraction (digits : List Nat) : Text :=
  match dropZeros digits with
  | [] => []
  | ds => Text.ascii "." ++ ds.map Text.digit

/-- An exponent with its sign and at least two digits. -/
def exponentText (e : Int) : Text :=
  let n := e.natAbs
  Text.ascii (if e < 0 then "e-" else "e+") ++
    (if n < 10 then Text.ascii "0" else []) ++ Text.ofNat n

/-- How many significant digits are shown. -/
def precision : Nat := 6

/-- A rounded number, in positional notation unless its exponent is out of bounds. -/
def Scientific.text (s : Scientific) : Text :=
  if s.exponent < -4 ∨ s.exponent ≥ precision then
    (s.digits.take 1).map Text.digit ++ fraction (s.digits.drop 1) ++ exponentText s.exponent
  else if s.exponent < 0 then
    Text.ascii "0" ++ fraction (List.replicate ((-s.exponent).toNat - 1) 0 ++ s.digits)
  else
    (s.digits.take (s.exponent.toNat + 1)).map Text.digit ++
      fraction (s.digits.drop (s.exponent.toNat + 1))

/-- A format of binary floating-point numbers: bits of the fraction and of the exponent. -/
structure FloatFormat where
  fractionBits : Nat
  exponentBits : Nat
deriving DecidableEq, Repr

namespace FloatFormat

/-- Numbers of 32 bits. -/
def single : FloatFormat := ⟨23, 8⟩

/-- Numbers of 64 bits. -/
def double : FloatFormat := ⟨52, 11⟩

/-- The text of the number with the given bits. The exact value of a finite number is its
significand times a power of two. -/
def text (f : FloatFormat) (bits : Nat) : Text :=
  let fraction := bits % 2 ^ f.fractionBits
  let biased := bits / 2 ^ f.fractionBits % 2 ^ f.exponentBits
  let negative := bits / 2 ^ (f.fractionBits + f.exponentBits) % 2 = 1
  let sign := if negative then Text.ascii "-" else []
  if biased = 2 ^ f.exponentBits - 1 then
    sign ++ Text.ascii (if fraction = 0 then "inf" else "nan")
  else
    let significand := if biased = 0 then fraction else fraction + 2 ^ f.fractionBits
    let power : Int := (max biased 1 : Nat) - (2 ^ (f.exponentBits - 1) - 1 : Nat) - f.fractionBits
    if significand = 0 then sign ++ Text.ascii "0"
    else
      sign ++
        (toScientific precision (significand * 2 ^ power.toNat) (2 ^ (-power).toNat)).text

end FloatFormat

end Columnar.Decimal
