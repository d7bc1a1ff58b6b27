import Companions.ValueType
import Companions.Text.Blank

/-!
Reading a type from its notation: a name, type arguments in angle brackets, and a pair of square
brackets for every array level, with blanks anywhere between these parts but not inside `[]`.

The readers work on the characters that are left. A failure keeps the characters left where it
arose, and only `parse` turns them into a position. Nested types are read with a budget of steps;
every step but the first of an argument list takes a character, so twice the length is enough.
-/

namespace Companions.ValueType

/-- A failure, with the characters that were left when it arose. -/
inductive Trouble where
  | endOfText
  | unexpected (found : Char) (left : List Char)
  | openBracket
  | invalidName (name : String)
  | unclosedArguments
  | primitiveWithArguments (name : String)
deriving Repr, DecidableEq

/-- Classes of `java.lang` that may be named without their package. -/
def implicitClasses : List String := [
  "Boolean", "Byte", "CharSequence", "Character", "Double", "Float", "Integer", "Long", "Object",
  "Short", "String"]

/-- The class of a dotted name; some classes of `java.lang` go by their bare names. -/
def resolveClass (name : String) : Except Trouble ClassName :=
  if implicitClasses.contains name then .ok ⟨javaLang, name, []⟩
  else match ClassName.parse name with
    | .ok c => .ok c
    | .error _ => .error (.invalidName name)

/-- A character that goes on a dotted name. -/
def isNamePart (c : Char) : Bool :=
  ClassName.isSegmentPart c || c == '.'

/-- A dotted name at the start of the text, and what follows it. -/
def readName : List Char → Except Trouble (String × List Char)
  | [] => .error .endOfText
  | c :: rest =>
    if ClassName.isSegmentStart c then
      .ok (String.ofList (c :: rest.takeWhile isNamePart), rest.dropWhile isNamePart)
    else .error (.unexpected c (c :: rest))

/-- The array levels that follow a type; blanks after them are taken too. -/
def readArrays (t : ValueType) : List Char → Except Trouble (ValueType × List Char)
  | [] => .ok (t, [])
  | c :: rest =>
    if Text.isBlank c then readArrays t rest
    else if c = '[' then
      match rest with
      | [] => .error .openBracket
      | d :: more => if d = ']' then readArrays (.array t) more else .error (.unexpected d rest)
    else .ok (t, c :: rest)

/-- The type of a name that no argument list follows. -/
def plainType (name : String) : Except Trouble ValueType :=
  match Primitive.ofName? name with
  | some p => .ok (.primitive p)
  | none => (resolveClass name).map ofClass

mutual

/-- A type at the start of the text, and what follows it. -/
def readType : (budget : Nat) → List Char → Except Trouble (ValueType × List Char)
  | 0, _ => .error .endOfText
  | budget + 1, text => do
    let (name, text) ← readName (Text.trimStart text)
    match Text.trimStart text with
    | [] => readArrays (← plainType name) []
    | c :: rest =>
      if c = '<' then
        if (Primitive.ofName? name).isSome then .error (.primitiveWithArguments name)
        else
          let (arguments, text) ← readArguments budget rest
          readArrays (.declared (← resolveClass name) arguments) text
      else readArrays (← plainType name) (c :: rest)

/-- The types up to the closing angle bracket, and what follows it. -/
def readArguments : (budget : Nat) → List Char → Except Trouble (List ValueType × List Char)
  | 0, _ => .error .endOfText
  | budget + 1, text => do
    let (first, text) ← readType budget text
    match Text.trimStart text with
    | [] => .error .unclosedArguments
    | c :: rest =>
      if c = ',' then
        let (others, text) ← readArguments budget rest
        .ok (first :: others, text)
      else if c = '>' then .ok ([first], rest)
      else .error (.unexpected c (c :: rest))

end

/-- The bytes that characters take in UTF-8. -/
def byteLength (cs : List Char) : Nat :=
  cs.foldr (fun c n => c.utf8Size + n) 0

/-- The failure with its place counted from the start of `text`. -/
def Trouble.locate (text : List Char) : Trouble → TypeError
  | endOfText => .empty
  | unexpected found left => .unexpected (byteLength text - byteLength left) found
  | openBracket => .unexpected (byteLength text) '['
  | invalidName name => .invalidName name
  | unclosedArguments => .unclosedArguments
  | primitiveWithArguments name => .primitiveWithArguments name

/-- A type and nothing after it. -/
def readWhole (text : List Char) : Except Trouble ValueType :=
  match readType (2 * text.length + 1) text with
  | .error trouble => .error trouble
  | .ok (t, []) => .ok t
  | .ok (_, c :: rest) => .error (.unexpected c (c :: rest))

/-- The type that a text stands for; blanks around it do not count. -/
def parse (descriptor : String) : Except TypeError ValueType :=
  let text := Text.trim descriptor.toList
  (readWhole text).mapError (Trouble.locate text)

end Companions.ValueType
