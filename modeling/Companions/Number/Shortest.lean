import Companions.Number.Binary64

/-!
The shortest decimal that reads back as a given binary64 number. A decimal reads back when it lies
between the midpoints to the two neighbouring numbers; the midpoints themselves count when the
mantissa is even. For one digit, two digits, and so on up to seventeen, the two decimals next to
the number on that grid are tested: the first grid with a hit decides the length, and of two hits
the nearer one is taken.
-/

namespace Companions.Number

/-- The decimal `digits * 10 ^ exponent`. -/
structure Decimal where
  digits : Nat
  exponent : Int
deriving Repr, DecidableEq

/-- Which of two equally near decimals is taken. -/
inductive Tie where
  | up
  | even
deriving Repr, DecidableEq

/-- The number of decimal digits of `n`; zero has none. -/
def digitCount (n : Nat) : Nat :=
  if n = 0 then 0 else (Nat.toDigits 10 n).length

/-- The exponent of the leading decimal digit of a positive fraction above `10 ^ -400`. -/
def leadingPlace (r : Ratio) : Int :=
  (digitCount (r.num * Nat.pow 10 400 / r.den) : Int) - 401

/-- The numbers that a decimal may lie between to read back as the same number. -/
structure Basin where
  value : Ratio
  low : Ratio
  high : Ratio
  closed : Bool

namespace Basin

/-- The basin of a positive finite number. Just above a power of two the lower neighbour is only
half as far away as the upper one. -/
def of (x : Binary64) : Basin :=
  let quarter := Ratio.power 2 (x.exponent - 2)
  let m := x.mantissa
  let below := if m = Nat.pow 2 52 ∧ 1 < x.field then 1 else 2
  { value := quarter.mul ⟨4 * m, 1⟩
    low := quarter.mul ⟨4 * m - below, 1⟩
    high := quarter.mul ⟨4 * m + 2, 1⟩
    closed := m % 2 == 0 }

/-- Whether a decimal reads back as the number. -/
def contains (b : Basin) (d : Decimal) : Bool :=
  let r := (Ratio.power 10 d.exponent).mul ⟨d.digits, 1⟩
  if b.closed then b.low.le r && r.le b.high else b.low.lt r && r.lt b.high

/-- The decimal on the grid `10 ^ place` that reads back, the nearer one if both neighbours do. -/
def onGrid? (b : Basin) (tie : Tie) (place : Int) : Option Decimal :=
  let steps := b.value.div (Ratio.power 10 place)
  let below : Decimal := ⟨steps.floor, place⟩
  let above : Decimal := ⟨steps.floor + 1, place⟩
  match b.contains below, b.contains above with
  | false, false => none
  | true, false => some below
  | false, true => some above
  | true, true =>
    let twice := 2 * (steps.num % steps.den)
    if twice < steps.den then some below
    else if steps.den < twice then some above
    else match tie with
      | .up => some above
      | .even => some (if below.digits % 2 = 0 then below else above)

/-- The hit on the coarsest of the next `count` grids, from `10 ^ place` downwards. -/
def search (b : Basin) (tie : Tie) : (count : Nat) → (place : Int) → Decimal
  | 0, place => ⟨(b.value.div (Ratio.power 10 place)).floor, place⟩
  | count + 1, place =>
    match b.onGrid? tie place with
    | some d => d
    | none => search b tie count (place - 1)

end Basin

/-- The decimal without the zeros at its end; at most `count` of them are taken off. -/
def Decimal.dropZeros (d : Decimal) : (count : Nat) → Decimal
  | 0 => d
  | count + 1 =>
    if d.digits != 0 && d.digits % 10 == 0 then
      Decimal.dropZeros ⟨d.digits / 10, d.exponent + 1⟩ count
    else d

/-- The shortest decimal that reads back as the absolute value of a finite number. -/
def shortest (tie : Tie) (x : Binary64) : Decimal :=
  if x.isZero then ⟨0, 0⟩
  else
    let basin := Basin.of x
    (basin.search tie 17 (leadingPlace basin.value)).dropZeros 17

end Companions.Number
