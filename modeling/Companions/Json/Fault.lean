import Companions.Number.Notation
import Companions.Text.Escaped

/-!
Why a text cannot be read as the JSON that is wanted, where in the text, and where among the values.

A place in the text is kept as the number of bytes that are left there. Faults of the text itself
know their place at once. One that only says that a value is not the wanted one gets its place
after the value has been passed over.
-/

namespace Companions.Json

/-- What a text may be in the middle of when it ends. -/
inductive Unfinished where
  | list
  | object
  | text
  | value
deriving Repr, DecidableEq

/-- What was found where another kind of value was wanted. -/
inductive Found where
  | null
  | boolean (value : Bool)
  | integer (value : Int)
  | float (value : Number.Binary64)
  | text (value : String)
  | list
  | object
deriving Repr, DecidableEq

/-- Why reading stopped. -/
inductive Cause where
  | ended (inside : Unfinished)
  | badWord
  | badEscape
  | badNumber
  | tooLarge
  | notUnicode
  | controlCharacter
  | nameNotText
  | loneSurrogate
  | pairUnfinished
  | trailingComma
  | trailingCharacters
  | tooDeep
  | colonExpected
  | listEndExpected
  | objectEndExpected
  | valueExpected
  | wrongType (found : Found) (wanted : String)
  | outOfRange (value : Int) (wanted : String)
  | wrongLength (length : Nat) (wanted : String)
  | unknownVariant (found : String) (wanted : List String)
  | missing (member : String)
  | repeated (member : String)
deriving Repr, DecidableEq

/-- What a message calls the unfinished part. -/
def Unfinished.name : Unfinished → String
  | list => "a list"
  | object => "an object"
  | text => "a string"
  | value => "a value"

/-- What a message calls the found value. -/
def Found.name : Found → String
  | null => "null"
  | boolean value => if value then "boolean `true`" else "boolean `false`"
  | integer value => "integer `" ++ toString value ++ "`"
  | float value => "floating point `" ++ value.json ++ "`"
  | text value => "string " ++ Text.escaped value
  | list => "sequence"
  | object => "map"

/-- A choice among names, in words. -/
def alternatives (names : List String) : String :=
  let marked := names.map fun name => "`" ++ name ++ "`"
  if names.length ≤ 2 then " or ".intercalate marked else "one of " ++ ", ".intercalate marked

/-- The message for the cause, without its place. -/
def Cause.message : Cause → String
  | ended inside => "EOF while parsing " ++ inside.name
  | badWord => "expected ident"
  | badEscape => "invalid escape"
  | badNumber => "invalid number"
  | tooLarge => "number out of range"
  | notUnicode => "invalid unicode code point"
  | controlCharacter => "control character (\\u0000-\\u001F) found while parsing a string"
  | nameNotText => "key must be a string"
  | loneSurrogate => "lone leading surrogate in hex escape"
  | pairUnfinished => "unexpected end of hex escape"
  | trailingComma => "trailing comma"
  | trailingCharacters => "trailing characters"
  | tooDeep => "recursion limit exceeded"
  | colonExpected => "expected `:`"
  | listEndExpected => "expected `,` or `]`"
  | objectEndExpected => "expected `,` or `\x7d`"
  | valueExpected => "expected value"
  | wrongType found wanted => "invalid type: " ++ found.name ++ ", expected " ++ wanted
  | outOfRange value wanted =>
    "invalid value: integer `" ++ toString value ++ "`, expected " ++ wanted
  | wrongLength length wanted => "invalid length " ++ toString length ++ ", expected " ++ wanted
  | unknownVariant found wanted =>
    "unknown variant `" ++ found ++ "`, expected " ++ alternatives wanted
  | missing member => "missing field `" ++ member ++ "`"
  | repeated member => "duplicate field `" ++ member ++ "`"

/-! ### Places -/

/-- One step from a value to a value inside it; `unnamed` leads to a member whose name was not
read. -/
inductive Step where
  | member (name : String)
  | item (index : Nat)
  | unnamed
deriving Repr, DecidableEq

namespace Step

/-- A step at the start of a path. -/
def text : Step → String
  | member name => name
  | item index => "[" ++ toString index ++ "]"
  | unnamed => "?"

/-- A step after another one. -/
def continued : Step → String
  | item index => text (.item index)
  | step => "." ++ step.text

end Step

/-- The steps with a dot before each name but the first; no steps at all are a dot. -/
def pathText : List Step → String
  | [] => "."
  | first :: rest => first.text ++ String.join (rest.map Step.continued)

/-- A failure to read: its cause, the bytes left at its place, and the steps to the value. -/
structure Fault where
  cause : Cause
  left : Option Nat := none
  path : List Step := []
deriving Repr, DecidableEq

/-- The line and the column that a number of bytes leads to. Lines are counted from one, columns by
the bytes passed on the line. -/
def lineAndColumn (passed : List UInt8) : Nat × Nat :=
  (passed.count 10 + 1, (passed.reverse.takeWhile (· != 10)).length)

/-- The message for a failure to read the text. -/
def Fault.message (text : List UInt8) (fault : Fault) : String :=
  match fault.left with
  | none => fault.cause.message
  | some left =>
    let (line, column) := lineAndColumn (text.take (text.length - left))
    fault.cause.message ++ " at line " ++ toString line ++ " column " ++ toString column

/-- The message after the path to the value that could not be read. -/
def Fault.located (text : List UInt8) (fault : Fault) : String :=
  "at '" ++ pathText fault.path ++ "': " ++ fault.message text

end Companions.Json
