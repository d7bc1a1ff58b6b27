import Companions.Naming.Word
import Companions.Number.Notation
import Companions.Text.Escaped
import Companions.ValueType

/-!
Fields of a screen: the values it is started with and keeps in its saved state. A field has a
member name that no generated body uses for itself, a type, an order key, and, if it is optional,
perhaps a default that its type can hold. Fields are ordered by key, then by name; a `FieldSet`
lists them in that order and holds no two that are equal in it.
-/

namespace Companions

/-! ### Defaults -/

/-- The value an optional field takes when nothing was passed for it. -/
inductive Default where
  | boolean (value : Bool)
  | integer (value : Int)
  | float (value : Number.Binary64)
  | text (value : String)
deriving Repr, DecidableEq

namespace Default

/-- Whether a field of the type may have the default. -/
def fits (d : Default) (t : ValueType) : Bool :=
  match d, t.primitive? with
  | boolean _, some .boolean => true
  | integer value, some p => p.isFloating || p.holds value
  | float _, some p => p.isFloating
  | text _, none => t.isString
  | _, _ => false

/-- The default as messages show it. -/
def display : Default → String
  | boolean value => if value then "true" else "false"
  | integer value => toString value
  | float value => value.plain
  | text value => Text.escaped value

end Default

/-! ### What can be wrong with a field -/

/-- Why a field, or a result value, cannot be used. -/
inductive FieldError where
  | emptyName
  | invalidName (name : String)
  | reservedName (name : String)
  | unresolvedType (field descriptor : String) (reason : TypeError)
  | defaultMismatch (field value typeText : String)
  | defaultOnRequired (field : String)
  | duplicate (field : String)
deriving Repr, DecidableEq

/-- The message shown for the failure. -/
def FieldError.message : FieldError → String
  | emptyName => "field name must not be empty"
  | invalidName name => "field name '" ++ name ++ "' is not a valid identifier"
  | reservedName name =>
    "field name '" ++ name ++ "' collides with a parameter of the generated methods"
  | unresolvedType field descriptor reason =>
    "field '" ++ field ++ "' has unresolved type '" ++ descriptor ++ "': " ++ reason.message
  | defaultMismatch field value typeText =>
    "field '" ++ field ++ "' declares default " ++ value ++ ", which does not fit type '"
      ++ typeText ++ "'"
  | defaultOnRequired field => "required field '" ++ field ++ "' cannot declare a default value"
  | duplicate field => "field '" ++ field ++ "' is declared more than once"

/-! ### Fields -/

/-- A value of a screen. -/
structure Field where
  name : String
  type : ValueType
  required : Bool
  order : Nat
  default : Option Default
  isMemberName : Naming.isMemberName name = true
  notReserved : Naming.isReserved name = false
  defaultFits : ∀ d ∈ default, required = false ∧ d.fits type = true

namespace Field

/-- A field without a default, if its name can be used. -/
def make (name : String) (type : ValueType) (required : Bool) (order : Nat) :
    Except FieldError Field :=
  if name.isEmpty then .error .emptyName
  else if hn : Naming.isMemberName name = true then
    if hr : Naming.isReserved name = true then .error (.reservedName name)
    else
      .ok { name, type, required, order, default := none, isMemberName := hn
            notReserved := by simpa using hr
            defaultFits := by simp }
  else .error (.invalidName name)

/-- The field with a default, if it is optional and its type can hold the value. -/
def withDefault (f : Field) (d : Default) : Except FieldError Field :=
  if hr : f.required = true then .error (.defaultOnRequired f.name)
  else if hf : d.fits f.type = true then
    .ok { f with
          default := some d
          defaultFits := by intro e he; simp_all }
  else .error (.defaultMismatch f.name d.display f.type.text)

/-- How two fields are ordered: by key, then by name. -/
def compare (f g : Field) : Ordering :=
  (Ord.compare f.order g.order).then (Ord.compare f.name g.name)

end Field

/-- Fields in ascending order. -/
structure FieldSet where
  toList : List Field

namespace FieldSet

/-- The set without fields. -/
def empty : FieldSet := ⟨[]⟩

/-- Adds a field at its place; one that is there already stays. -/
def insertInto (f : Field) : List Field → List Field
  | [] => [f]
  | g :: rest =>
    match f.compare g with
    | .lt => f :: g :: rest
    | .eq => g :: rest
    | .gt => g :: insertInto f rest

/-- The set with one more field. -/
def insert (s : FieldSet) (f : Field) : FieldSet :=
  ⟨insertInto f s.toList⟩

/-- The names of the fields in order. -/
def names (s : FieldSet) : List String :=
  s.toList.map (·.name)

end FieldSet

end Companions
