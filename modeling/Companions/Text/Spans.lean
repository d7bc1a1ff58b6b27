/-!
Sets of code points written as tables. `inSpans` reads closed ranges, `inStrides` reads ranges of
which only every `step`-th member counts, which is how upper and lower case alternate in most
alphabets.
-/

namespace Companions.Text

/-- Whether `n` lies in one of the closed ranges. -/
def inSpans (spans : List (Nat × Nat)) (n : Nat) : Bool :=
  spans.any fun span => span.1 ≤ n && n ≤ span.2

/-- Whether `n` is a member of one of the arithmetic progressions `(first, last, step)`. -/
def inStrides (strides : List (Nat × Nat × Nat)) (n : Nat) : Bool :=
  strides.any fun s => s.1 ≤ n && n ≤ s.2.1 && (n - s.1) % s.2.2 == 0

end Companions.Text
