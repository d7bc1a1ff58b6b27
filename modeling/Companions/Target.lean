import Companions.Field
import Companions.Text.Blank

/-!
Screens that get a companion: activities and fragments, with the values an activity hands back,
the shared elements of a fragment's transition, and the languages the start family is wanted in.
-/

namespace Companions

/-- The two kinds of screen. -/
inductive Kind where
  | activity
  | fragment
deriving Repr, DecidableEq, Inhabited

namespace Kind

/-- The kind as listings show it. -/
def name : Kind → String
  | activity => "activity"
  | fragment => "fragment"

end Kind

/-- The languages that receive the start family and the finishing callable. -/
structure Dialects where
  java : Bool
  kotlin : Bool
deriving Repr, DecidableEq, Inhabited

/-- Which languages a screen asks for. -/
inductive Mode where
  | auto
  | javaOnly
  | kotlinOnly
  | both
deriving Repr, DecidableEq, Inhabited

namespace Mode

/-- The languages a mode selects; `auto` follows the language the screen is written in and
always keeps Java. -/
def dialects (mode : Mode) (kotlinSource : Bool) : Dialects :=
  match mode with
  | auto => ⟨true, kotlinSource⟩
  | javaOnly => ⟨true, false⟩
  | kotlinOnly => ⟨false, true⟩
  | both => ⟨true, true⟩

end Mode

/-- Where the source of a shared element comes from: a view, named by its id, or a transition
name. -/
inductive ElementSource where
  | id (value : Int)
  | name (value : String)
deriving Repr, DecidableEq

/-- A pair of transition names that a fragment is shown with. -/
structure SharedElement where
  source : ElementSource
  targetName : String
deriving Repr, DecidableEq

/-- The element with the given parts. The id zero stands for none; the source is then the name,
which must not be empty. -/
def SharedElement.ofParts? (id : Int) (name : Option String) (targetName : String) :
    Option SharedElement :=
  if id = 0 then
    match name with
    | some name => if name.isEmpty then none else some ⟨.name name, targetName⟩
    | none => none
  else some ⟨.id id, targetName⟩

/-- A value that an activity hands back. -/
structure ResultValue where
  name : String
  type : ValueType

/-- A result value, if its name can be used. -/
def ResultValue.make (name : String) (type : ValueType) : Except FieldError ResultValue :=
  if name.isEmpty then .error .emptyName
  else if Naming.isMemberName name then .ok ⟨name, type⟩
  else .error (.invalidName name)

/-- The lines of a documentation text, without the blanks at their ends. -/
def docLines (text : String) : List String :=
  (Text.lines text.toList).map fun line => String.ofList (Text.trimEnd line)

/-- A screen before its fields are attached. -/
structure Target where
  cls : ClassName
  kind : Kind
  kotlinSource : Bool := false
  mode : Mode := .auto
  results : List ResultValue := []
  sharedElements : List SharedElement := []
  docs : List String := []

namespace Target

/-- The class that holds what is generated: beside the screen, nested names joined by `_`. -/
def companion (t : Target) : ClassName :=
  ⟨t.cls.package, joined "_" t.cls.simpleNames ++ "Builder", []⟩

/-- The languages the screen asks for. -/
def dialects (t : Target) : Dialects :=
  t.mode.dialects t.kotlinSource

end Target

/-- The first name that occurs a second time. -/
def firstRepeated? (names : List String) : Option String :=
  go [] names
where
  /-- The first of the names that is among `seen` or repeats an earlier one. -/
  go (seen : List String) : List String → Option String
    | [] => none
    | name :: rest => if seen.contains name then some name else go (name :: seen) rest

end Companions
