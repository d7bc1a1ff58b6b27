/-!
Nonnegative fractions and their rounding to the nearest whole number. The denominator is kept as
given, so scaling by a power multiplies one of the two parts and nothing is lost.
-/

namespace Companions.Number

/-- The fraction `num / den`. -/
structure Ratio where
  num : Nat
  den : Nat
deriving Repr, DecidableEq

namespace Ratio

/-- `base ^ exponent` as a fraction. -/
def power (base : Nat) : Int → Ratio
  | .ofNat n => ⟨Nat.pow base n, 1⟩
  | .negSucc n => ⟨1, Nat.pow base (n + 1)⟩

/-- The product of two fractions. -/
def mul (a b : Ratio) : Ratio :=
  ⟨a.num * b.num, a.den * b.den⟩

/-- The quotient of two fractions. -/
def div (a b : Ratio) : Ratio :=
  ⟨a.num * b.den, a.den * b.num⟩

/-- The largest whole number not above the fraction. -/
def floor (a : Ratio) : Nat :=
  a.num / a.den

/-- `a ≤ b`, by cross multiplication. -/
def le (a b : Ratio) : Bool :=
  a.num * b.den ≤ b.num * a.den

/-- `a < b`, by cross multiplication. -/
def lt (a b : Ratio) : Bool :=
  a.num * b.den < b.num * a.den

/-- The nearest whole number; of two equally near ones the even one. -/
def roundEven (a : Ratio) : Nat :=
  let quotient := a.num / a.den
  let twice := 2 * (a.num % a.den)
  if a.den < twice || (twice == a.den && quotient % 2 == 1) then quotient + 1 else quotient

end Ratio

end Companions.Number
