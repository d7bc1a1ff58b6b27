import Companions.ClassName

/-!
Types of the values that are passed around: the eight primitive types, classes with type
arguments, and arrays. A type prints in the same notation in which it is read.
-/

namespace Companions

/-- The primitive types of Java. -/
inductive Primitive where
  | boolean
  | byte
  | short
  | int
  | long
  | char
  | float
  | double
deriving Repr, DecidableEq, Inhabited

namespace Primitive

/-- Every primitive type. -/
def all : List Primitive :=
  [boolean, byte, short, int, long, char, float, double]

/-- The Java keyword of the type. -/
def name : Primitive → String
  | boolean => "boolean"
  | byte => "byte"
  | short => "short"
  | int => "int"
  | long => "long"
  | char => "char"
  | float => "float"
  | double => "double"

/-- The class in `java.lang` whose objects hold a value of the type. -/
def boxedName : Primitive → String
  | boolean => "Boolean"
  | byte => "Byte"
  | short => "Short"
  | int => "Integer"
  | long => "Long"
  | char => "Character"
  | float => "Float"
  | double => "Double"

/-- The Kotlin name of the type. -/
def kotlinName : Primitive → String
  | boolean => "Boolean"
  | byte => "Byte"
  | short => "Short"
  | int => "Int"
  | long => "Long"
  | char => "Char"
  | float => "Float"
  | double => "Double"

/-- The type of that keyword. -/
def ofName? (text : String) : Option Primitive :=
  all.find? fun p => p.name == text

/-- Whether the type holds fractions. -/
def isFloating : Primitive → Bool
  | float | double => true
  | _ => false

/-- The least and the greatest value of an integral type. -/
def range? : Primitive → Option (Int × Int)
  | byte => some (-Int.pow 2 7, Int.pow 2 7 - 1)
  | short => some (-Int.pow 2 15, Int.pow 2 15 - 1)
  | int => some (-Int.pow 2 31, Int.pow 2 31 - 1)
  | long => some (-Int.pow 2 63, Int.pow 2 63 - 1)
  | char => some (0, Int.pow 2 16 - 1)
  | boolean | float | double => none

/-- Whether an integral type holds the value without wrapping. -/
def holds (p : Primitive) (value : Int) : Bool :=
  match p.range? with
  | some (least, greatest) => least ≤ value && value ≤ greatest
  | none => false

end Primitive

/-- The package whose classes need no import. -/
def javaLang : String := "java.lang"

/-- The type of a value, apart from how an output language spells it. -/
inductive ValueType where
  | primitive (kind : Primitive)
  | declared (cls : ClassName) (arguments : List ValueType)
  | array (component : ValueType)
deriving Repr, Inhabited

namespace ValueType

/-- A class without type arguments. -/
def ofClass (cls : ClassName) : ValueType :=
  .declared cls []

/-- `java.lang.String`. -/
def string : ValueType :=
  ofClass ⟨javaLang, "String", []⟩

/-- The primitive type, if it is one. -/
def primitive? : ValueType → Option Primitive
  | .primitive kind => some kind
  | _ => none

/-- Whether it is one of the primitive types. -/
def isPrimitive (t : ValueType) : Bool :=
  t.primitive?.isSome

/-- Whether values of the type are texts. -/
def isString : ValueType → Bool
  | .declared cls [] => cls.canonical == "java.lang.String"
  | _ => false

/-- The type in places where only objects fit: a primitive type becomes its box. -/
def boxed : ValueType → ValueType
  | .primitive kind => ofClass ⟨javaLang, kind.boxedName, []⟩
  | t => t

mutual

/-- The type in the notation in which it is read. -/
def text : ValueType → String
  | .primitive kind => kind.name
  | .declared cls arguments =>
    if arguments.isEmpty then cls.canonical
    else cls.canonical ++ "<" ++ joined ", " (texts arguments) ++ ">"
  | .array component => text component ++ "[]"

/-- The types of a list, each in its notation. -/
def texts : List ValueType → List String
  | [] => []
  | t :: rest => text t :: texts rest

end

mutual

/-- Every class the type mentions, from left to right. -/
def classes : ValueType → List ClassName
  | .primitive _ => []
  | .declared cls arguments => cls :: classesOf arguments
  | .array component => classes component

/-- Every class a list of types mentions. -/
def classesOf : List ValueType → List ClassName
  | [] => []
  | t :: rest => classes t ++ classesOf rest

end

end ValueType

end Companions
