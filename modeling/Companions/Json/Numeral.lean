import Companions.Json.Scan

/-!
Numbers of JSON: how they are written, and what they stand for. Digits are gathered as long as they
fit 64 bits; digits after that only count as powers of ten. A number without fraction and exponent
is an integer if 64 bits hold it, with or without a sign. All others are floating-point: the
gathered digits become a number first, which is then multiplied or divided by a power of ten.
-/

namespace Companions.Json

/-- A number as it is written. -/
structure Numeral where
  negative : Bool
  whole : List Char
  fraction : List Char := []
  /-- The digits of the exponent, after whether it is negative. -/
  exponent : Option (Bool × List Char) := none
deriving Repr, DecidableEq

/-- What a number stands for. -/
inductive Quantity where
  | integer (value : Int)
  | float (value : Number.Binary64)
deriving Repr, DecidableEq

namespace Numeral

/-! ### Reading -/

/-- The digits that come next. -/
def digits : Scan (List Char) := do
  let isDigit (b : UInt8) : Bool := 48 ≤ b && b ≤ 57
  let bytes ← get
  set (bytes.dropWhile isDigit)
  return (bytes.takeWhile isDigit).map fun b => Char.ofNat b.toNat

/-- The digits that come next, at least one; `atEnd` is the cause if the text ends instead. -/
def someDigits (atEnd : Cause) : Scan (List Char) := do
  match ← Scan.peek with
  | none => Scan.failHere atEnd
  | some c =>
    if c.isDigit then digits
    else
      Scan.advance
      Scan.failHere .badNumber

/-- The exponent of a number, if it has one. -/
def readExponent (atEnd : Cause) : Scan (Option (Bool × List Char)) := do
  let c ← Scan.peek
  if c = some 'e' ∨ c = some 'E' then
    Scan.advance
    let sign ← Scan.peek
    if sign = some '+' ∨ sign = some '-' then Scan.advance
    return some (sign = some '-', ← someDigits atEnd)
  else return none

/-- The fraction of a number, if it has one. -/
def readFraction (atEnd : Cause) : Scan (List Char) := do
  if (← Scan.peek) = some '.' then
    Scan.advance
    match ← digits with
    | [] => Scan.failNext (if (← get).isEmpty then atEnd else .badNumber)
    | fraction => return fraction
  else return []

/-- The digits before the point. A zero stands alone. -/
def readWhole (atEnd : Cause) : Scan (List Char) := do
  if (← Scan.peek) = some '0' then
    Scan.advance
    match ← Scan.peek with
    | some c => if c.isDigit then Scan.failNext .badNumber else return ['0']
    | none => return ['0']
  else someDigits atEnd

/-- A number; `atEnd` is the cause if the text ends inside it. -/
def read (atEnd : Cause) : Scan Numeral := do
  let negative := (← Scan.peek) = some '-'
  if negative then Scan.advance
  let whole ← readWhole atEnd
  let fraction ← readFraction atEnd
  let exponent ← readExponent atEnd
  return { negative, whole, fraction, exponent }

/-! ### Value -/

/-- Appends digits to a number while it stays within `limit`; also the digits that are left. -/
def gather (limit value : Nat) : List Char → Nat × List Char
  | [] => (value, [])
  | c :: rest =>
    let next := 10 * value + (c.toNat - 48)
    if next ≤ limit then gather limit next rest else (value, c :: rest)

/-- A power of ten as a floating-point number. -/
def tenTo (n : Nat) : Number.Binary64 :=
  Number.Binary64.ofInt (Int.pow 10 n)

/-- The number divided by a power of ten, in steps that stay within the range. -/
def divided (x : Number.Binary64) (places : Nat) : Number.Binary64 :=
  if places ≤ 308 then x.div (tenTo places)
  else if x.isZero then x
  else divided (x.div (tenTo 308)) (places - 308)
termination_by places

/-- The number times a power of ten, if it is in range. -/
def scaled? (x : Number.Binary64) : (exponent : Int) → Option Number.Binary64
  | .ofNat places =>
    if x.isZero then some x
    else if places ≤ 308 then
      let product := x.mul (tenTo places)
      if product.isFinite then some product else none
    else none
  | .negSucc places => some (divided x (places + 1))

/-- The number that gathered digits and an exponent stand for. If it is too large, the number of
digits that come after the one that shows this. -/
def floating (n : Numeral) (significand : Nat) (exponent : Int) : Except Nat Number.Binary64 :=
  let signed (x : Number.Binary64) : Number.Binary64 := if n.negative then x.neg else x
  let scaled (exponent : Int) : Except Nat Number.Binary64 :=
    match scaled? (Number.Binary64.ofInt significand) exponent with
    | some x => .ok (signed x)
    | none => .error 0
  match n.exponent with
  | none => scaled exponent
  | some (negative, digits) =>
    match gather (Nat.pow 2 31 - 1) 0 digits with
    | (value, []) => scaled (if negative then exponent - value else exponent + value)
    | (_, _ :: rest) =>
      if significand = 0 ∨ negative then .ok (signed (Number.Binary64.ofInt 0))
      else .error rest.length

/-- What the number stands for. -/
def quantity (n : Numeral) : Except Nat Quantity :=
  let (significand, dropped) := gather (Nat.pow 2 64 - 1) 0 n.whole
  if dropped = [] ∧ n.fraction = [] ∧ n.exponent = none then
    if !n.negative then .ok (.integer significand)
    else if 0 < significand ∧ significand ≤ Nat.pow 2 63 then .ok (.integer (-significand))
    else .ok (.float (Number.Binary64.ofInt significand).neg)
  else
    let (significand, lost) := gather (Nat.pow 2 64 - 1) significand n.fraction
    let places : Int := (dropped.length : Int) - (n.fraction.length - lost.length)
    (n.floating significand places).map .float

/-- A number and what it stands for. -/
def readQuantity : Scan Quantity := do
  match (← read (.ended .value)).quantity with
  | .ok quantity => return quantity
  | .error after =>
    throw { cause := .tooLarge, left := some ((← get).length + after) }

end Numeral

end Companions.Json
