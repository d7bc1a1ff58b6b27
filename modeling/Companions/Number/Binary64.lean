import Companions.Number.Ratio

/-!
Numbers of the IEEE format binary64, held as their 64 bits: a sign, eleven bits of exponent and
52 bits of fraction. A finite number is `mantissa * 2 ^ exponent`. Arithmetic is exact on
fractions and rounded once, to the nearest representable number, ties to even.
-/

namespace Companions.Number

/-- A 64-bit floating-point number. Two are equal when their bits are. -/
structure Binary64 where
  bits : UInt64
deriving Repr, DecidableEq, Inhabited

namespace Binary64

/-- Whether the sign bit is set. -/
def negative (x : Binary64) : Bool :=
  Nat.pow 2 63 ≤ x.bits.toNat

/-- The biased exponent. -/
def field (x : Binary64) : Nat :=
  x.bits.toNat / Nat.pow 2 52 % Nat.pow 2 11

/-- The trailing 52 bits. -/
def fraction (x : Binary64) : Nat :=
  x.bits.toNat % Nat.pow 2 52

/-- Neither infinite nor a NaN. -/
def isFinite (x : Binary64) : Bool :=
  x.field != 2047

/-- Not a number. -/
def isNaN (x : Binary64) : Bool :=
  x.field == 2047 && x.fraction != 0

/-- Either zero. -/
def isZero (x : Binary64) : Bool :=
  x.field == 0 && x.fraction == 0

/-- The whole number that `2 ^ exponent` multiplies. -/
def mantissa (x : Binary64) : Nat :=
  if x.field = 0 then x.fraction else x.fraction + Nat.pow 2 52

/-- The power of two of the last bit. -/
def exponent (x : Binary64) : Int :=
  if x.field = 0 then -1074 else (x.field : Int) - 1075

/-- The absolute value of a finite number. -/
def magnitude (x : Binary64) : Ratio :=
  (Ratio.power 2 x.exponent).mul ⟨x.mantissa, 1⟩

/-- The number with the given sign whose remaining bits are `magnitude`, at most infinity. -/
def ofMagnitudeBits (negative : Bool) (magnitude : Nat) : Binary64 :=
  let capped := min magnitude (2047 * Nat.pow 2 52)
  ⟨UInt64.ofNat (if negative then Nat.pow 2 63 + capped else capped)⟩

/-- The representable number nearest to a fraction, ties to even. Magnitudes beyond the largest
finite number become infinite. -/
def ofRatio (negative : Bool) (r : Ratio) : Binary64 :=
  if r.num = 0 then ofMagnitudeBits negative 0
  else
    let guess : Int := (r.num.log2 : Int) - r.den.log2 - 52
    let place :=
      if (r.div (Ratio.power 2 guess)).lt ⟨Nat.pow 2 52, 1⟩ then guess - 1 else guess
    let place := max place (-1074)
    let mantissa := (r.div (Ratio.power 2 place)).roundEven
    ofMagnitudeBits negative ((place + 1074).toNat * Nat.pow 2 52 + mantissa)

/-- The representable number nearest to a whole number. -/
def ofInt (n : Int) : Binary64 :=
  ofRatio (n < 0) ⟨n.natAbs, 1⟩

/-- The product of two finite numbers. -/
def mul (x y : Binary64) : Binary64 :=
  ofRatio (x.negative != y.negative) (x.magnitude.mul y.magnitude)

/-- The quotient of a finite number by a finite number other than zero. -/
def div (x y : Binary64) : Binary64 :=
  ofRatio (x.negative != y.negative) (x.magnitude.div y.magnitude)

/-- The number with the opposite sign. -/
def neg (x : Binary64) : Binary64 :=
  ofMagnitudeBits (!x.negative) (x.bits.toNat % Nat.pow 2 63)

/-- A finite number without a fractional part. -/
def isWhole (x : Binary64) : Bool :=
  x.isFinite && x.magnitude.num % x.magnitude.den == 0

end Binary64

end Companions.Number
