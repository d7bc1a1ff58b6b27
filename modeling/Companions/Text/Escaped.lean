import Companions.Text.Printable

/-!
Texts quoted for messages: in double quotes, with quotes, backslashes, line breaks and tabs escaped
by a backslash, and every character that would not show by itself written as its code point.
-/

namespace Companions.Text

/-- The lower-case hexadecimal digits of `n`, padded with zeros to at least `places`. -/
def hex (places n : Nat) : String :=
  let digits := Nat.toDigits 16 n
  String.ofList (List.replicate (places - digits.length) '0' ++ digits)

/-- One character of a quoted text. -/
def escapedChar (c : Char) : String :=
  if c = '\x00' then "\\0"
  else if c = '\t' then "\\t"
  else if c = '\r' then "\\r"
  else if c = '\n' then "\\n"
  else if c = '\\' then "\\\\"
  else if c = '"' then "\\\""
  else if isExtending c || !isPrintable c then "\\u\x7b" ++ hex 1 c.toNat ++ "\x7d"
  else c.toString

/-- The text in double quotes, made visible. -/
def escaped (text : String) : String :=
  "\"" ++ String.join (text.toList.map escapedChar) ++ "\""

end Companions.Text
