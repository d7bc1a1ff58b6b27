import Companions.Number.Notation
import Companions.Text.Escaped

/-!
JSON values and their compact text. Numbers without fraction and exponent are integers; the members
of an object keep the order in which their names were first seen.
-/

namespace Companions.Json

/-- A JSON value. -/
inductive Value where
  | null
  | boolean (value : Bool)
  | integer (value : Int)
  | float (value : Number.Binary64)
  | text (value : String)
  | list (items : List Value)
  | object (members : List (String × Value))
deriving Repr, Inhabited

/-- Gives a member its value. A name that is there already keeps its place. -/
def setMember (name : String) (value : Value) : List (String × Value) → List (String × Value)
  | [] => [(name, value)]
  | (other, old) :: rest =>
    if name = other then (name, value) :: rest else (other, old) :: setMember name value rest

/-- One character of a JSON string. -/
def quotedChar (c : Char) : String :=
  if c = '"' then "\\\""
  else if c = '\\' then "\\\\"
  else if c = '\x08' then "\\b"
  else if c = '\t' then "\\t"
  else if c = '\n' then "\\n"
  else if c = '\x0c' then "\\f"
  else if c = '\r' then "\\r"
  else if c.toNat < 32 then "\\u" ++ Text.hex 4 c.toNat
  else c.toString

/-- A JSON string. -/
def quoted (text : String) : String :=
  "\"" ++ String.join (text.toList.map quotedChar) ++ "\""

namespace Value

mutual

/-- The value in JSON, without blanks. -/
def compact : Value → String
  | .null => "null"
  | .boolean value => if value then "true" else "false"
  | .integer value => toString value
  | .float value => value.json
  | .text value => quoted value
  | .list items => "[" ++ ",".intercalate (compactItems items) ++ "]"
  | .object members => "\x7b" ++ ",".intercalate (compactMembers members) ++ "\x7d"

/-- Values in order. -/
def compactItems : List Value → List String
  | [] => []
  | item :: rest => compact item :: compactItems rest

/-- Members in order, each after its name. -/
def compactMembers : List (String × Value) → List String
  | [] => []
  | (name, value) :: rest => (quoted name ++ ":" ++ compact value) :: compactMembers rest

end

end Value

end Companions.Json
