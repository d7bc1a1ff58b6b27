import Companions.Text.Spans

/-!
Blank characters are those with the Unicode property `White_Space`. Trimming removes them at the
ends of a text, and `lines` cuts a text at its line feeds.
-/

namespace Companions.Text

/-- Blank code points. -/
def blankSpans : List (Nat × Nat) := [
  (9, 13), (32, 32), (133, 133), (160, 160), (5760, 5760), (8192, 8202), (8232, 8233),
  (8239, 8239), (8287, 8287), (12288, 12288)]

/-- Whether the character has the property `White_Space`. -/
def isBlank (c : Char) : Bool :=
  inSpans blankSpans c.toNat

/-- The characters without the blanks at their start. -/
def trimStart (cs : List Char) : List Char :=
  cs.dropWhile isBlank

/-- The characters without the blanks at their end. -/
def trimEnd (cs : List Char) : List Char :=
  (cs.reverse.dropWhile isBlank).reverse

/-- The characters without the blanks at both ends. -/
def trim (cs : List Char) : List Char :=
  trimEnd (trimStart cs)

/-- The pieces between line feeds; a line feed at the end opens no further piece. -/
def lines : List Char → List (List Char)
  | [] => []
  | c :: rest =>
    if c = '\n' then [] :: lines rest
    else match lines rest with
      | [] => [[c]]
      | line :: more => (c :: line) :: more

end Companions.Text
