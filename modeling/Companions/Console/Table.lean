import Companions.Text.Columns

/-!
Plain tables. Every column is as wide as its widest line, with a blank on both sides; columns have a
blank between them. Rules stand above the header, below it and below the rows; the one below the
header has no gaps. A cell may have several lines, and its row is as high as its highest cell.
-/

namespace Companions.Console

/-- A cell: its lines, and whether they are set to the right. -/
structure Cell where
  lines : List String
  right : Bool := false
deriving Repr, DecidableEq

namespace Cell

/-- The pieces of a text between line feeds, at least one. -/
def pieces : List Char → List (List Char)
  | [] => [[]]
  | c :: rest =>
    match pieces rest with
    | [] => [[c]]
    | piece :: more => if c = '\n' then [] :: piece :: more else (c :: piece) :: more

/-- A cell of text. -/
def ofText (text : String) : Cell :=
  { lines := (pieces text.toList).map String.ofList }

/-- A cell of a number. -/
def ofNat (n : Nat) : Cell :=
  { lines := [toString n], right := true }

/-- The columns that the cell needs. -/
def width (c : Cell) : Nat :=
  (c.lines.map Text.width).foldl max 0

end Cell

namespace Table

/-- So many blanks. -/
def blanks (n : Nat) : String :=
  String.ofList (List.replicate n ' ')

/-- One line of a cell in a column of the given width. -/
def padded (width : Nat) (right : Bool) (text : String) : String :=
  let fill := blanks (width - Text.width text)
  " " ++ (if right then fill ++ text else text ++ fill) ++ " "

/-- The lines of a row. -/
def rowLines (widths : List Nat) (row : List Cell) : List String :=
  let height := (row.map fun c => c.lines.length).foldl max 0
  (List.range height).map fun i =>
    " ".intercalate ((widths.zip row).map fun (width, c) =>
      padded width c.right (c.lines.getD i ""))

/-- A rule over columns of the given widths, with `gap` between them. -/
def rule (gap : String) (widths : List Nat) : String :=
  gap.intercalate (widths.map fun width => String.ofList (List.replicate (width + 2) '─'))

/-- The width of every column of the rows. -/
def columnWidths : List (List Cell) → List Nat
  | [] => []
  | [row] => row.map Cell.width
  | row :: rest => List.zipWith max (row.map Cell.width) (columnWidths rest)

/-- The lines of a table. -/
def lines (header : List String) (rows : List (List Cell)) : List String :=
  let header := header.map Cell.ofText
  let widths := columnWidths (header :: rows)
  let border := rule " " widths
  [border] ++ rowLines widths header ++ [rule "─" widths] ++ rows.flatMap (rowLines widths)
    ++ [border]

end Table

end Companions.Console
