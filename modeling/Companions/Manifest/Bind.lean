import Companions.Assembly
import Companions.Manifest
import Companions.ValueType.Reader

/-!
From declarations to screens and fields. Every name that is declared as a screen gets one binding,
made from its first declaration, with the fields that name it as their owner. Each declaration is
converted for itself, so that a bad one can be reported against its class; later declarations of a
name and fields without a screen are left out with a warning.
-/

namespace Companions

/-! ### Screens -/

/-- The result value of a declaration. -/
def ResultEntry.toResult (e : ResultEntry) : Except FieldError ResultValue :=
  match ValueType.parse e.typeText with
  | .ok type => ResultValue.make e.name type
  | .error reason => .error (.unresolvedType e.name e.typeText reason)

/-- The shared element of a declaration. -/
def ElementEntry.toElement? (e : ElementEntry) : Option SharedElement :=
  SharedElement.ofParts? e.sourceId e.sourceName e.targetName

namespace TargetEntry

/-- The class of a declared screen. -/
def toClass (e : TargetEntry) : Except GenerationError ClassName :=
  (ClassName.parse e.qualifiedName).mapError fun reason =>
    .invalidTarget e.qualifiedName reason.message

/-- The result values of a declared screen. -/
def toResults (e : TargetEntry) : Except GenerationError (List ResultValue) :=
  (e.resultTypes.mapM ResultEntry.toResult).mapError .field

/-- The shared elements of a declared screen. -/
def toElements (e : TargetEntry) : Except GenerationError (List SharedElement) :=
  e.sharedElements.mapM fun element =>
    match element.toElement? with
    | some shared => .ok shared
    | none =>
      .error (.invalidTarget e.qualifiedName
        ("shared element '" ++ element.targetName
          ++ "' has neither a source id nor a source name"))

/-- The screen of a declaration. -/
def toTarget (e : TargetEntry) : Except GenerationError Target := do
  let cls ← e.toClass
  let results ← e.toResults
  let sharedElements ← e.toElements
  return {
    cls
    kind := e.kind
    kotlinSource := e.kotlinSource
    mode := e.mode
    results
    sharedElements
    docs := (e.doc.map docLines).getD [] }

end TargetEntry

/-! ### Fields -/

namespace FieldEntry

/-- The largest order key. -/
def maxOrder : Nat := Nat.pow 2 32 - 1

/-- The order key of the field: the declared one, or its position among the declarations. -/
def orderAt (e : FieldEntry) (position : Nat) : Nat :=
  e.order.getD (min position maxOrder)

/-- The default that a value stands for. Numbers beyond 64 bits with a sign are floating-point. -/
def toDefault (e : FieldEntry) (value : Json.Value) : Except FieldError Default :=
  match value with
  | .boolean value => .ok (.boolean value)
  | .integer value =>
    .ok (if Primitive.long.holds value then .integer value
      else .float (Number.Binary64.ofInt value))
  | .float value => .ok (.float value)
  | .text value => .ok (.text value)
  | .null | .list _ | .object _ => .error (.defaultMismatch e.name value.compact e.typeText)

/-- The declared field without its default. -/
def toPlainField (e : FieldEntry) (position : Nat) : Except FieldError Field :=
  match ValueType.parse e.typeText with
  | .ok type => Field.make e.name type e.required (e.orderAt position)
  | .error reason => .error (.unresolvedType e.name e.typeText reason)

/-- The field of a declaration. -/
def toField (e : FieldEntry) (position : Nat) : Except FieldError Field := do
  let field ← e.toPlainField position
  match e.default with
  | some value => field.withDefault (← e.toDefault value)
  | none => return field

end FieldEntry

/-! ### Bindings -/

/-- A declared screen with its fields, each converted for itself. -/
structure Binding where
  className : String
  target : Except GenerationError Target
  fields : List (Except FieldError Field)

namespace Manifest

/-- The first declaration of each name that is not among `seen`, and the names of the others. -/
def firstTargets (seen : List String) : List TargetEntry → List TargetEntry × List String
  | [] => ([], [])
  | entry :: rest =>
    let name := entry.qualifiedName
    if seen.contains name then
      let (firsts, repeated) := firstTargets seen rest
      (firsts, name :: repeated)
    else
      let (firsts, repeated) := firstTargets (name :: seen) rest
      (entry :: firsts, repeated)

/-- The fields that name a class as their owner. -/
def fieldsOf (m : Manifest) (name : String) : List (Except FieldError Field) :=
  (m.fields.zipIdx.filter fun (entry, _) => entry.owner == name).map fun (entry, position) =>
    entry.toField position

/-- The binding of a declared screen. -/
def binding (m : Manifest) (entry : TargetEntry) : Binding :=
  { className := entry.qualifiedName
    target := entry.toTarget
    fields := m.fieldsOf entry.qualifiedName }

/-- The declared fields whose owner is not declared. -/
def orphans (m : Manifest) : List FieldEntry :=
  m.fields.filter fun field => !m.targets.any fun target => target.qualifiedName == field.owner

/-- The bindings in order of first declaration, and what was left out. -/
def bind (m : Manifest) : List Binding × List Warning :=
  let (firsts, repeated) := firstTargets [] m.targets
  (firsts.map m.binding,
    repeated.map .duplicateTarget ++ m.orphans.map fun field => .orphanField field.owner field.name)

end Manifest

end Companions
