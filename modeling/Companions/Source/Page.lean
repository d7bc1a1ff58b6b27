/-!
A page of source text that is written line by line. The depth says how far the next line is
indented; opening a block goes one level deeper and closing it comes back.
-/

namespace Companions

/-- The blanks in front of a line at the given depth. -/
def indentation (depth : Nat) : String :=
  String.ofList (List.replicate (4 * depth) ' ')

/-- Source text written so far, and the depth of the next line. -/
structure Page where
  text : String := ""
  depth : Nat := 0
deriving Repr, DecidableEq

namespace Page

/-- An empty page. -/
def empty : Page := {}

/-- An empty page whose first line stands at `depth`. -/
def startingAt (depth : Nat) : Page :=
  { depth }

/-- Writes a line. An empty line is not indented, and the later lines of a text that spans several
are taken as they are. -/
def line (page : Page) (text : String) : Page :=
  { page with
    text := page.text ++ (if text.isEmpty then "" else indentation page.depth) ++ text ++ "\n" }

/-- Leaves one line free, except at the top, after a free line and after an opening brace. -/
def blank (page : Page) : Page :=
  if page.text.isEmpty || page.text.endsWith "\n\n" || page.text.endsWith "\x7b\n" then page
  else { page with text := page.text ++ "\n" }

/-- Writes the head of a block and goes one level deeper. -/
def opening (page : Page) (head : String) : Page :=
  let page := page.line (head ++ " \x7b")
  { page with depth := page.depth + 1 }

/-- Comes back one level and writes the end of a block. -/
def closing (page : Page) (text : String) : Page :=
  line { page with depth := page.depth - 1 } text

/-- Ends a block and opens the next one on the same line. -/
def reopening (page : Page) (head : String) : Page :=
  let page := line { page with depth := page.depth - 1 } ("\x7d " ++ head ++ " \x7b")
  { page with depth := page.depth + 1 }

/-- Writes a documentation comment, or nothing if there are no lines. -/
def comment (page : Page) (lines : List String) : Page :=
  if lines.isEmpty then page
  else
    let page := page.line "/**"
    let page := lines.foldl
      (fun page text => page.line (if text.isEmpty then " *" else " * " ++ text)) page
    page.line " */"

/-- The text without the line breaks at its end, to be put into a line of another page. -/
def inline (page : Page) : String :=
  String.ofList (page.text.toList.reverse.dropWhile (· == '\n')).reverse

end Page

end Companions
