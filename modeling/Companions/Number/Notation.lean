import Companions.Number.Shortest

/-!
Ways to write a floating-point number: with all its digits placed around the point, and the
notation of JSON, which moves to an exponent for very large and very small numbers.
-/

namespace Companions.Number

/-- The decimal digits of a whole number. -/
def decimalDigits (n : Nat) : String :=
  String.ofList (Nat.toDigits 10 n)

/-- So many zeros. -/
def zeros (n : Nat) : String :=
  String.ofList (List.replicate n '0')

/-- A decimal with every digit in its place, and a point only before a fraction. -/
def Decimal.positional (d : Decimal) : String :=
  let digits := Nat.toDigits 10 d.digits
  match d.exponent with
  | .ofNat n => String.ofList digits ++ zeros n
  | .negSucc n =>
    let places := n + 1
    if places < digits.length then
      String.ofList (digits.take (digits.length - places)) ++ "."
        ++ String.ofList (digits.drop (digits.length - places))
    else "0." ++ zeros (places - digits.length) ++ String.ofList digits

/-- A decimal in scientific form: one digit before the point, and a signed exponent. -/
def Decimal.scientific (d : Decimal) : String :=
  let digits := Nat.toDigits 10 d.digits
  let place := d.exponent + digits.length - 1
  let fraction := digits.drop 1
  let sign := if place < 0 then "-" else "+"
  String.ofList (digits.take 1) ++ (if fraction.isEmpty then "" else "." ++ String.ofList fraction)
    ++ "e" ++ sign ++ decimalDigits place.natAbs

namespace Binary64

/-- The minus sign of a negative number. -/
def sign (x : Binary64) : String :=
  if x.negative then "-" else ""

/-- The fewest digits that read back, placed around the point; a number too long for its grid is
filled with zeros, and equally near decimals go up. -/
def plain (x : Binary64) : String :=
  if x.isNaN then "NaN"
  else if !x.isFinite then x.sign ++ "inf"
  else x.sign ++ (shortest .up x).positional

/-- A literal that stays floating-point: whole numbers are written out exactly with one zero
after the point, all others with the fewest digits that read back. -/
def literal (x : Binary64) : String :=
  if x.isWhole then x.sign ++ decimalDigits x.magnitude.floor ++ ".0" else x.plain

/-- The notation of JSON: positional when the point falls between four zeros before the digits and
sixteen digits, with `.0` after whole numbers, and otherwise an exponent. -/
def json (x : Binary64) : String :=
  let d := shortest .even x
  let point := d.exponent + digitCount d.digits
  x.sign ++
    if x.isZero then "0.0"
    else if 0 ≤ d.exponent ∧ point ≤ 16 then d.positional ++ ".0"
    else if -5 < point ∧ point ≤ 16 then d.positional
    else d.scientific

end Binary64

end Companions.Number
