import PageMarkup.Text.Basic

/-!
# Numerals of real numbers

A real number is written with a point and at least one digit on either side of it, unless its digits are far
from the point: then the power of ten stands behind the digits.
-/
namespace PageMarkup.Text

/-- The largest number of places ahead of the point. -/
def maxPlacesAhead : Int := 16

/-- The largest number of zeros between the point and the first digit. -/
def maxZerosBehind : Int := 3

def dropLastZeros (digits : Text) : Text := (digits.reverse.dropWhile (· = '0')).reverse

/-- A power of ten as it stands behind the digits: its exponent with a sign and at least two digits. -/
def exponentText (exponent : Int) : Text :=
  let digits := Nat.toDigits 10 exponent.natAbs
  ['e', if exponent < 0 then '-' else '+'] ++ List.replicate (2 - digits.length) '0' ++ digits

/-- The digits with a point at `point` places behind the beginning of the first one. -/
def pointed (digits : Text) (point : Int) : Text :=
  let part := dropLastZeros (List.replicate (-point).toNat '0' ++ digits.drop point.toNat)
  let whole := digits.take point.toNat
  (if whole.isEmpty then ['0'] else whole ++ List.replicate (point.toNat - whole.length) '0') ++ ['.'] ++
    (if part.isEmpty then ['0'] else part)

/-- The number `digits / 10 ^ places` as it is written. -/
def magnitudeNumeral (digits places : Nat) : Text :=
  if digits = 0 then ['0', '.', '0']
  else
    let all := Nat.toDigits 10 digits
    let point : Int := all.length - places
    if -maxZerosBehind ≤ point ∧ point ≤ maxPlacesAhead then pointed all point
    else
      match dropLastZeros all with
      | [first] => first :: exponentText (point - 1)
      | first :: rest => first :: '.' :: rest ++ exponentText (point - 1)
      | [] => []

/-- A real number as it is written; a zero may have a sign, too. -/
def realNumeral (negative : Bool) (digits places : Nat) : Text :=
  (if negative then ['-'] else []) ++ magnitudeNumeral digits places

end PageMarkup.Text
