import Companions.Json.Decoder
import Companions.Manifest

/-!
The JSON form of a manifest. While a record is read, every member is kept as an option, so that a
member that was not given can be told from one that was; those that may be left out get their
values when the record is complete.
-/

namespace Companions

open Json Json.Decoder

namespace Manifest

/-- The kinds of screens by name. -/
def kinds : List (String × Kind) :=
  [("activity", .activity), ("fragment", .fragment)]

/-- The modes by name. -/
def modes : List (String × Mode) :=
  [("auto", .auto), ("javaOnly", .javaOnly), ("kotlinOnly", .kotlinOnly), ("both", .both)]

/-- A member that has to be there. -/
def needed {α : Type} (name : String) : Option α → Except String α
  | some value => .ok value
  | none => .error name

/-! ### Result values -/

/-- A result value being read. -/
structure ResultDraft where
  name : Option String := none
  typeText : Option String := none

/-- The form of a result value. -/
def resultRecord : Record ResultDraft ResultEntry where
  name := "struct ResultTypeDescriptor"
  members := [
    .make "name" (·.name.isSome) string fun d value => { d with name := some value },
    .make "type" (·.typeText.isSome) string fun d value => { d with typeText := some value }]
  finish d := do
    return { name := ← needed "name" d.name, typeText := ← needed "type" d.typeText }

/-! ### Shared elements -/

/-- A shared element being read. -/
structure ElementDraft where
  sourceId : Option Int := none
  sourceName : Option (Option String) := none
  targetName : Option String := none

/-- The form of a shared element. Ids have 32 bits. -/
def elementRecord : Record ElementDraft ElementEntry where
  name := "struct SharedElementDescriptor"
  members := [
    .make "sourceId" (·.sourceId.isSome) (integer (-Int.pow 2 31) (Int.pow 2 31 - 1) "i32")
      fun d value => { d with sourceId := some value },
    .make "sourceName" (·.sourceName.isSome) (optional string)
      fun d value => { d with sourceName := some value },
    .make "targetName" (·.targetName.isSome) string
      fun d value => { d with targetName := some value }]
  finish d := do
    return {
      sourceId := d.sourceId.getD 0
      sourceName := d.sourceName.join
      targetName := ← needed "targetName" d.targetName }

/-! ### Screens -/

/-- A screen being read. -/
structure TargetDraft where
  kind : Option Kind := none
  qualifiedName : Option String := none
  kotlinSource : Option Bool := none
  mode : Option Mode := none
  resultTypes : Option (List ResultEntry) := none
  sharedElements : Option (List ElementEntry) := none
  doc : Option (Option String) := none

/-- The form of a screen. -/
def targetRecord : Record TargetDraft TargetEntry where
  name := "struct TargetDescriptor"
  members := [
    .make "kind" (·.kind.isSome) (choice kinds) fun d value => { d with kind := some value },
    .make "qualifiedName" (·.qualifiedName.isSome) string
      fun d value => { d with qualifiedName := some value },
    .make "kotlinSource" (·.kotlinSource.isSome) boolean
      fun d value => { d with kotlinSource := some value },
    .make "mode" (·.mode.isSome) (choice modes) fun d value => { d with mode := some value },
    .make "resultTypes" (·.resultTypes.isSome) (list (resultRecord.decode {}))
      fun d value => { d with resultTypes := some value },
    .make "sharedElements" (·.sharedElements.isSome) (list (elementRecord.decode {}))
      fun d value => { d with sharedElements := some value },
    .make "doc" (·.doc.isSome) (optional string) fun d value => { d with doc := some value }]
  finish d := do
    return {
      kind := ← needed "kind" d.kind
      qualifiedName := ← needed "qualifiedName" d.qualifiedName
      kotlinSource := d.kotlinSource.getD false
      mode := d.mode.getD .auto
      resultTypes := d.resultTypes.getD []
      sharedElements := d.sharedElements.getD []
      doc := d.doc.join }

/-! ### Fields -/

/-- A field being read. -/
structure FieldDraft where
  owner : Option String := none
  name : Option String := none
  typeText : Option String := none
  required : Option Bool := none
  order : Option (Option Int) := none
  default : Option (Option Value) := none

/-- The form of a field. Order keys have 32 bits and no sign, and a default of `null` is none. -/
def fieldRecord : Record FieldDraft FieldEntry where
  name := "struct FieldDescriptor"
  members := [
    .make "owner" (·.owner.isSome) string fun d value => { d with owner := some value },
    .make "name" (·.name.isSome) string fun d value => { d with name := some value },
    .make "type" (·.typeText.isSome) string fun d value => { d with typeText := some value },
    .make "required" (·.required.isSome) boolean fun d value => { d with required := some value },
    .make "order" (·.order.isSome) (optional (integer 0 (Int.pow 2 32 - 1) "u32"))
      fun d value => { d with order := some value },
    .make "default" (·.default.isSome) (optional any)
      fun d value => { d with default := some value }]
  finish d := do
    return {
      owner := ← needed "owner" d.owner
      name := ← needed "name" d.name
      typeText := ← needed "type" d.typeText
      required := ← needed "required" d.required
      order := d.order.join.map Int.toNat
      default := d.default.join }

/-! ### Manifests -/

/-- A manifest being read. -/
structure Draft where
  targets : Option (List TargetEntry) := none
  fields : Option (List FieldEntry) := none

/-- The form of a manifest. -/
def record : Record Draft Manifest where
  name := "struct DescriptorSet"
  members := [
    .make "targets" (·.targets.isSome) (list (targetRecord.decode {}))
      fun d value => { d with targets := some value },
    .make "fields" (·.fields.isSome) (list (fieldRecord.decode {}))
      fun d value => { d with fields := some value }]
  finish d := .ok { targets := d.targets.getD [], fields := d.fields.getD [] }

/-- The manifest that a text in JSON holds. -/
def parse (bytes : List UInt8) : Except Fault Manifest :=
  run (record.decode {}) bytes

end Manifest

end Companions
