/-! # Decimal numbers as texts

A number with a fractional part is written with the digits that it needs and no more, around a
point that has a digit on either side. Numbers far from one are written with an exponent instead
of zeros around the digits.
-/

namespace SelectClause.Text

/-- The least exponent of the leading digit for which a number is written without exponent. -/
def plainFrom : Int := -4

/-- The least exponent of the leading digit above these. -/
def plainBelow : Int := 16

/-- Digits, or a zero where there are none. -/
def orZero (digits : List Char) : List Char := if digits.isEmpty then ['0'] else digits

/-- Digits around a point that stands behind the given number of them. -/
def aroundPoint (digits : List Char) (point : Int) : List Char :=
  let whole := digits.take point.toNat ++ List.replicate (point.toNat - digits.length) '0'
  let fraction := List.replicate (-point).toNat '0' ++ digits.drop point.toNat
  orZero whole ++ '.' :: orZero fraction

/-- Digits around a point behind the first of them, with an exponent of at least two digits. -/
def withExponent (digits : List Char) (exponent : Int) : List Char :=
  let size := Nat.toDigits 10 exponent.natAbs
  let fraction := digits.drop 1
  digits.take 1 ++ (if fraction.isEmpty then [] else '.' :: fraction) ++
    'e' :: (if exponent < 0 then '-' else '+') :: List.replicate (2 - size.length) '0' ++ size

/-- The number that is given by its sign, by its digits and by how many of them follow the
point. -/
def decimal (negative : Bool) (digits places : Nat) : String :=
  let written := Nat.toDigits 10 digits
  let needed := (written.reverse.dropWhile (· == '0')).reverse
  let point : Int := if digits = 0 then 0 else (written.length : Int) - places
  let unsigned :=
    if plainFrom ≤ point - 1 ∧ point - 1 < plainBelow then aroundPoint needed point
    else withExponent needed (point - 1)
  String.ofList (if negative then '-' :: unsigned else unsigned)

end SelectClause.Text
