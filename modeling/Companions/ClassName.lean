import Companions.Text.Numeric
import Companions.TypeError

/-!
Fully qualified names of classes: a package, the outermost class, and the classes nested on the
way to the one that is named. A dotted name is split at its first segment with an ASCII capital;
without one the last segment alone is the class.
-/

namespace Companions

/-- A class by its package and the simple names that lead to it from the outermost class. -/
structure ClassName where
  package : String
  outer : String
  inner : List String := []
deriving Repr, DecidableEq, Inhabited

/-- The texts with `separator` between them. -/
def joined (separator : String) (parts : List String) : String :=
  separator.intercalate parts

namespace ClassName

/-- Every simple name from the outermost class inwards. -/
def simpleNames (c : ClassName) : List String :=
  c.outer :: c.inner

/-- The name of the class itself, without those around it. -/
def simpleName (c : ClassName) : String :=
  c.inner.getLastD c.outer

/-- The class of that name directly inside `c`. -/
def nest (c : ClassName) (name : String) : ClassName :=
  { c with inner := c.inner ++ [name] }

/-- The outermost class, which is the one an import names. -/
def topLevel (c : ClassName) : ClassName :=
  { c with inner := [] }

/-- Whether the class stands inside another one. -/
def isNested (c : ClassName) : Bool :=
  !c.inner.isEmpty

/-- The name as seen from inside the package. -/
def relative (c : ClassName) : String :=
  joined "." c.simpleNames

/-- The name with its package. -/
def canonical (c : ClassName) : String :=
  if c.package.isEmpty then c.relative else c.package ++ "." ++ c.relative

/-- Classes are ordered by package, then by their simple names from the outermost one on. -/
def before (a b : ClassName) : Bool :=
  a.package < b.package || (a.package == b.package && a.simpleNames < b.simpleNames)

/-! ### Reading dotted names -/

/-- A character a segment may start with. -/
def isSegmentStart (c : Char) : Bool :=
  Text.isAlphabetic c || c == '_' || c == '$'

/-- A character a segment may go on with. -/
def isSegmentPart (c : Char) : Bool :=
  Text.isAlphanumeric c || c == '_' || c == '$'

/-- A segment: not empty, and no numeral in front. -/
def isSegment : List Char → Bool
  | [] => false
  | c :: rest => isSegmentStart c && rest.all isSegmentPart

/-- The pieces of a text between its dots. -/
def segments : List Char → List (List Char)
  | [] => [[]]
  | c :: rest =>
    if c = '.' then [] :: segments rest
    else match segments rest with
      | [] => [[c]]
      | segment :: more => (c :: segment) :: more

/-- Whether a segment starts with an ASCII capital, and so names a class. -/
def startsCapital : List Char → Bool
  | [] => false
  | c :: _ => c.isUpper

/-- The class that a list of segments names, the package in front. -/
def ofSegments : (package : List String) → List (List Char) → Option ClassName
  | _, [] => none
  | package, segment :: rest =>
    if startsCapital segment || rest.isEmpty then
      some ⟨joined "." package, String.ofList segment, rest.map String.ofList⟩
    else ofSegments (package ++ [String.ofList segment]) rest

/-- The class a dotted name stands for; every segment must be an identifier. -/
def parse (name : String) : Except TypeError ClassName :=
  let parts := segments name.toList
  match if parts.all isSegment then ofSegments [] parts else none with
  | some c => .ok c
  | none => .error (.invalidName name)

end ClassName

/-! ### Sorted sets of classes -/

/-- Adds a class to a sorted list that does not have it yet. -/
def insertClass (c : ClassName) : List ClassName → List ClassName
  | [] => [c]
  | d :: rest =>
    if c = d then d :: rest
    else if c.before d then c :: d :: rest
    else d :: insertClass c rest

/-- The classes in order, each once. -/
def sortedClasses (classes : List ClassName) : List ClassName :=
  classes.foldr insertClass []

end Companions
