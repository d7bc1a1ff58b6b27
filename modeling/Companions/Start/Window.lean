import Companions.Field
import Companions.Target

/-!
The optional fields as a ring. For every length from one to one less than all, and every field to
begin with, the run of that many fields around the ring is one window, and one callable of the
start family takes exactly its fields. That makes `n * (n - 1)` windows of `n` fields.
-/

namespace Companions

/-! ### Names of the start family -/

/-- The verb that the names of the start family begin with. -/
def Kind.verb : Kind → String
  | .activity => "start"
  | .fragment => "show"

namespace Kind

/-- The name of the callable that takes every field. -/
def fullName (k : Kind) : String :=
  k.verb

/-- The name of the callable that takes the required fields only. -/
def noOptionalName (k : Kind) : String :=
  k.verb ++ "WithoutOptional"

/-- What the names of all other callables of the family begin with. -/
def withOptionalName (k : Kind) : String :=
  k.verb ++ "WithOptional"

/-- The name of the callable that takes the optional fields of the given names. -/
def variantName (k : Kind) (names : List String) : String :=
  k.withOptionalName ++ joined "And" (names.map Naming.capitalize)

end Kind

/-! ### Windows -/

/-- A run of fields around the ring. -/
structure Window where
  step : Nat
  start : Nat
  name : String
  fields : List Field

/-- The windows that are still to come. -/
structure Windows where
  kind : Kind
  fields : List Field
  step : Nat := 1
  start : Nat := 0

namespace Windows

/-- The number of windows of `n` fields. -/
def count (n : Nat) : Nat :=
  if n < 2 then 0 else n * (n - 1)

/-- The number of windows that have passed. -/
def passed (w : Windows) : Nat :=
  (w.step - 1) * w.fields.length + w.start

/-- The number of windows still to come. -/
def remaining (w : Windows) : Nat :=
  count w.fields.length - w.passed

/-- The first window, and those after it. -/
def next? (w : Windows) : Option (Window × Windows) :=
  let size := w.fields.length
  if size ≤ w.step then none
  else
    let fields := (w.fields.drop w.start ++ w.fields).take w.step
    let window : Window :=
      { step := w.step, start := w.start, fields
        name := w.kind.variantName (fields.map (·.name)) }
    let rest :=
      if w.start + 1 = size then { w with start := 0, step := w.step + 1 }
      else { w with start := w.start + 1 }
    some (window, rest)

/-- The first `count` windows, or all of them. -/
def take : (count : Nat) → Windows → List Window
  | 0, _ => []
  | count + 1, w =>
    match w.next? with
    | some (window, rest) => window :: take count rest
    | none => []

/-- Every window still to come. -/
def toList (w : Windows) : List Window :=
  w.take w.remaining

end Windows

end Companions
