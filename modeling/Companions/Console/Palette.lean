import Companions.Console.Choice
import Companions.Warning

/-!
Colours of console output. A palette is made for a dark or a light background and may be switched
off; then every text is still marked as coloured, but with the colour that the terminal has anyway.
-/

namespace Companions.Console

/-- The background that colours are made for. -/
inductive Theme where
  | dark
  | light
deriving Repr, DecidableEq, Inhabited

/-- The background of a number in decimal digits up to 255, with or without a plus sign: from eight
on it is light. -/
def Theme.ofCode? (code : List Char) : Option Theme :=
  let digits := match code with
    | '+' :: rest => rest
    | _ => code
  if digits.isEmpty || !digits.all Char.isDigit then none
  else
    let value : Nat := digits.foldl (fun value c => 10 * value + (c.toNat - 48)) 0
    if 255 < value then none else some (if 8 ≤ value then .light else .dark)

/-- The background that a terminal announces after the last semicolon. -/
def Theme.announced? (value : String) : Option Theme :=
  Theme.ofCode? (value.toList.reverse.takeWhile (· != ';')).reverse

/-- The background to use; unless it is known, it is dark. -/
def ThemeMode.theme (mode : ThemeMode) (announced : Option String) : Theme :=
  match mode with
  | dark => .dark
  | light => .light
  | auto => (announced.bind Theme.announced?).getD .dark

/-- What a piece of output tells. -/
inductive Accent where
  | timestamp
  | progress
  | statLabel
  | statValue
  | kind
  | generatedPath
  | written
  | note
  | classSkipped
  | emissionFailed
deriving Repr, DecidableEq, Inhabited

namespace Accent

/-- The accent of a warning. -/
def ofWarning : Warning → Accent
  | .classSkipped .. => classSkipped
  | .emissionFailed .. => emissionFailed
  | .orphanField .. | .duplicateTarget _ | .resultTypesIgnored _ => note

end Accent

/-- A colour: the terminal's own, or shares of red, green and blue up to 255. -/
inductive Colour where
  | plain
  | rgb (red green blue : Nat)
deriving Repr, DecidableEq

/-- The colour of an accent on a background. -/
def Accent.colour : Accent → Theme → Colour
  | timestamp, .dark => .rgb 118 166 166
  | timestamp, .light => .rgb 92 62 38
  | progress, .dark => .rgb 233 237 239
  | progress, .light => .rgb 7 48 66
  | statLabel, .dark => .rgb 127 82 255
  | statLabel, .light => .rgb 92 45 145
  | statValue, .dark => .rgb 233 237 239
  | statValue, .light => .rgb 32 33 36
  | kind, .dark => .rgb 244 128 36
  | kind, .light => .rgb 186 72 20
  | generatedPath, .dark => .rgb 118 166 166
  | generatedPath, .light => .rgb 40 111 170
  | written, .dark => .rgb 61 220 132
  | written, .light => .rgb 24 128 56
  | note, .dark => .rgb 255 203 107
  | note, .light => .rgb 153 102 0
  | classSkipped, .dark => .rgb 255 150 80
  | classSkipped, .light => .rgb 176 74 0
  | emissionFailed, .dark => .rgb 255 95 95
  | emissionFailed, .light => .rgb 170 20 20

/-- The escape sequence that switches to a colour. -/
def Colour.escape : Colour → String
  | plain => "\x1b[39m"
  | rgb red green blue =>
    "\x1b[38;2;" ++ toString red ++ ";" ++ toString green ++ ";" ++ toString blue ++ "m"

/-- The colours of one run. -/
structure Palette where
  enabled : Bool
  theme : Theme
deriving Repr, DecidableEq

namespace Palette

/-- The colour of an accent. -/
def colour (p : Palette) (accent : Accent) : Colour :=
  if p.enabled then accent.colour p.theme else .plain

/-- The text in the colour of an accent. -/
def paint (p : Palette) (accent : Accent) (text : String) : String :=
  (p.colour accent).escape ++ text ++ Colour.plain.escape

end Palette

end Companions.Console
