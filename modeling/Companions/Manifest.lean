import Companions.Json.Value
import Companions.Target

/-!
The manifest that a run starts from: declared screens and declared fields, as they are written.
Nothing is checked here but the kinds of the values; types are still texts, and a field names the
class it belongs to.
-/

namespace Companions

/-- A declared result value. -/
structure ResultEntry where
  name : String
  typeText : String
deriving Repr, Inhabited

/-- A declared shared element. -/
structure ElementEntry where
  sourceId : Int := 0
  sourceName : Option String := none
  targetName : String
deriving Repr, Inhabited

/-- A declared screen. -/
structure TargetEntry where
  kind : Kind
  qualifiedName : String
  kotlinSource : Bool := false
  mode : Mode := .auto
  resultTypes : List ResultEntry := []
  sharedElements : List ElementEntry := []
  doc : Option String := none
deriving Repr, Inhabited

/-- A declared field. -/
structure FieldEntry where
  owner : String
  name : String
  typeText : String
  required : Bool
  order : Option Nat := none
  default : Option Json.Value := none
deriving Repr, Inhabited

/-- What a manifest declares, in order. -/
structure Manifest where
  targets : List TargetEntry := []
  fields : List FieldEntry := []
deriving Repr, Inhabited

end Companions
