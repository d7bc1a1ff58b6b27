import Companions.Text.Numeric
import Companions.Text.Casing

/-!
Words of the two output languages. A member name must be a plain ASCII identifier that Java does
not keep for itself; Kotlin keeps other words, and takes those in backticks.
-/

namespace Companions.Naming

/-- Words that Java does not accept as the name of a member. -/
def javaKeywords : List String := [
  "abstract", "assert", "boolean", "break", "byte", "case", "catch", "char", "class", "const",
  "continue", "default", "do", "double", "else", "enum", "extends", "final", "finally", "float",
  "for", "goto", "if", "implements", "import", "instanceof", "int", "interface", "long", "native",
  "new", "package", "private", "protected", "public", "return", "short", "static", "strictfp",
  "super", "switch", "synchronized", "this", "throw", "throws", "transient", "try", "void",
  "volatile", "while", "true", "false", "null", "var", "record", "yield"]

/-- Words that Kotlin accepts as a name only in backticks. -/
def kotlinKeywords : List String := [
  "as", "break", "class", "continue", "do", "else", "false", "for", "fun", "if", "in",
  "interface", "is", "null", "object", "package", "return", "super", "this", "throw", "true",
  "try", "typealias", "typeof", "val", "var", "when", "while"]

/-- Names that the generated start and show bodies declare themselves. -/
def reservedBindings : List String := [
  "activity", "container", "containerId", "context", "intent", "sharedElements"]

/-- A character an ASCII identifier may start with. -/
def isWordStart (c : Char) : Bool :=
  c.isAlpha || c == '_' || c == '$'

/-- A character an ASCII identifier may go on with. -/
def isWordPart (c : Char) : Bool :=
  isWordStart c || c.isDigit

/-- An ASCII identifier, keyword or not. -/
def isWord (name : String) : Bool :=
  match name.toList with
  | [] => false
  | c :: rest => isWordStart c && rest.all isWordPart

/-- A name that a member of a Java class can have. -/
def isMemberName (name : String) : Bool :=
  isWord name && !javaKeywords.contains name

/-- Whether a field of this name would shadow a name of the generated bodies. -/
def isReserved (name : String) : Bool :=
  reservedBindings.contains name

/-- The name as Kotlin spells it. -/
def kotlinName (name : String) : String :=
  if kotlinKeywords.contains name then "`" ++ name ++ "`" else name

/-- The name with its first character in upper case. -/
def capitalize (name : String) : String :=
  match name.toList with
  | [] => ""
  | c :: rest => String.ofList (Text.uppercase c ++ rest)

/-- Whether a character separates the words of a name. -/
def isSeparator (c : Char) : Bool :=
  c == ' ' || c == '-' || c == '_'

/-- Words joined by underscores in upper case: separators become underscores, and one more goes
between a lower-case and an upper-case character. -/
def constantChars : List Char → List Char
  | [] => []
  | c :: rest =>
    let here := if isSeparator c then ['_'] else Text.uppercase c
    match rest with
    | [] => here
    | d :: _ =>
      if Text.isLowercase c && Text.isUppercase d then here ++ '_' :: constantChars rest
      else here ++ constantChars rest

/-- The name of the constant that holds a key: the role it plays, then the key as a constant. -/
def constantName (role key : String) : String :=
  role ++ String.ofList (constantChars key.toList)

/-- The local that holds a value read back before it is assigned. -/
def valueLocal (name : String) : String :=
  name ++ "Value"

end Companions.Naming
