import Companions.Text.Escaped

/-!
String literals of the generated code. Both languages share one form; Kotlin also needs a
backslash before a dollar sign, which would otherwise start a template.
-/

namespace Companions.Source

/-- One character inside a string literal. -/
def quotedChar (escapeDollar : Bool) (c : Char) : String :=
  if c = '"' then "\\\""
  else if c = '\\' then "\\\\"
  else if c = '\n' then "\\n"
  else if c = '\r' then "\\r"
  else if c = '\t' then "\\t"
  else if c = '$' && escapeDollar then "\\$"
  else if Text.isControl c then "\\u" ++ Text.hex 4 c.toNat
  else c.toString

/-- The string literal of a text. -/
def quoted (escapeDollar : Bool) (text : String) : String :=
  "\"" ++ String.join (text.toList.map (quotedChar escapeDollar)) ++ "\""

end Companions.Source
