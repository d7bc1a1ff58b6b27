import Companions.Companion
import Companions.SavedState
import Companions.Start.Draft
import Companions.Start.Window
import Companions.Warning

/-!
The companion of one screen while its fields come in. Fields go into a required and an optional set,
and no two of a screen share a name. From these sets the start family is written: the full callable,
one callable per window of the optional fields, and the one with required fields only; the state
callables, the constants and the finishing callable follow.
-/

namespace Companions

/-- Why a screen gets no companion. -/
inductive GenerationError where
  | field (reason : FieldError)
  | draft (reason : DraftError)
  | invalidTarget (cls reason : String)
  | duplicateCallable (cls name : String)
deriving Repr, DecidableEq

/-- The message shown for the failure. -/
def GenerationError.message : GenerationError → String
  | field reason => reason.message
  | draft reason => reason.message
  | invalidTarget cls reason => "invalid target class '" ++ cls ++ "': " ++ reason
  | duplicateCallable cls name =>
    "callable '" ++ name ++ "' is generated more than once for '" ++ cls ++ "'"

/-- Choices that hold for every screen of a run. -/
structure Settings where
  runtime : Runtime := {}
  /-- Replaces the languages that each screen asks for. -/
  dialects : Option Dialects := none
deriving Repr, DecidableEq

/-- A companion being put together. -/
structure Assembly where
  owner : Owner
  dialects : Dialects
  contract : Option Contract
  required : FieldSet := .empty
  optional : FieldSet := .empty
  warnings : List Warning := []

namespace Assembly

/-- The assembly of a screen without fields. Only activities have a contract; the result values of
a fragment are left out with a warning. -/
def begin (settings : Settings) (target : Target) : Except GenerationError Assembly :=
  let owner : Owner := { target, runtime := settings.runtime }
  let dialects := settings.dialects.getD target.dialects
  match target.kind with
  | .activity =>
    match Contract.make target with
    | .ok contract => .ok { owner, dialects, contract }
    | .error reason => .error (.field reason)
  | .fragment =>
    .ok { owner, dialects, contract := none
          warnings :=
            if target.results.isEmpty then []
            else [.resultTypesIgnored target.cls.canonical] }

/-- Every field, the required ones first. -/
def fields (a : Assembly) : List Field :=
  a.required.toList ++ a.optional.toList

/-- Takes a field, unless one of its name is there. -/
def add (a : Assembly) (f : Field) : Except FieldError Assembly :=
  if a.fields.any fun g => g.name == f.name then .error (.duplicate f.name)
  else if f.required then .ok { a with required := a.required.insert f }
  else .ok { a with optional := a.optional.insert f }

/-- The warnings so far, and the assembly without them. -/
def takeWarnings (a : Assembly) : List Warning × Assembly :=
  (a.warnings, { a with warnings := [] })

/-! ### The start family -/

/-- The kind of the screen. -/
def kind (a : Assembly) : Kind :=
  a.owner.target.kind

/-- The callable of one window: the required fields, then those of the window. -/
def variant (a : Assembly) (required : Draft) (window : Window) : Except DraftError Callable := do
  let draft ← (required.copy a.kind.withOptionalName).visitAll window.fields
  let draft ← draft.close a.contract
  (draft.rename window.name).build

/-- The full callable, the callables of the windows, and the one without optional fields. -/
def startFamily (a : Assembly) : Except DraftError (Callable × List Callable × Callable) := do
  let full ← (Draft.begin a.owner a.kind.fullName).visitAll a.required.toList
  let noOptional := full.copy a.kind.noOptionalName
  let full ← full.visitAll a.optional.toList
  let full ← (← full.close a.contract).build
  let windows : Windows := { kind := a.kind, fields := a.optional.toList }
  let variants ← windows.toList.mapM (a.variant noOptional)
  let noOptional ← (← noOptional.close a.contract).build
  return (full, variants, noOptional)

/-! ### The other members -/

/-- The receivers from which Kotlin can start an activity besides a context. -/
def delegates (a : Assembly) : List Delegate :=
  if a.kind = .activity ∧ a.dialects.kotlin then
    [{ receiver := Platform.view, property := "context", nullable := false },
      { receiver := Platform.fragment, property := "activity", nullable := true }]
  else []

/-- A constant for the key of each field and of each result value. -/
def constants (a : Assembly) : List Constant :=
  let named (role : String) (key : String) : Constant := ⟨Naming.constantName role key, key⟩
  a.required.names.map (named "REQUIRED_") ++ a.optional.names.map (named "OPTIONAL_")
    ++ a.contract.toList.flatMap fun c => c.results.map fun r => named "RESULT_" r.name

/-- The documentation of the companion class. -/
def docs (a : Assembly) : List String :=
  let own := a.owner.target.docs
  ("Generated companion of \x7b@link " ++ a.owner.target.cls.relative ++ "\x7d.")
    :: if own.isEmpty then [] else "" :: own

/-- The companion made of a start family. -/
def companionWith (a : Assembly) (family : Callable × List Callable × Callable) : Companion :=
  { name := a.owner.target.companion
    target := a.owner.target.cls
    kind := a.kind
    dialects := a.dialects
    docs := a.docs
    constants := a.constants
    full := family.1
    variants := family.2.1
    noOptional := family.2.2
    delegates := a.delegates
    inject := SavedState.inject a.owner a.fields
    saveState := SavedState.saveState a.owner a.fields
    listener := a.contract.map Contract.listener
    finishWithResult := a.contract.map (Result.finishWithResult a.owner) }

/-- The companion of the fields so far. No two of its callables may share a name. -/
def generate (a : Assembly) : Except GenerationError Companion :=
  match a.startFamily with
  | .error reason => .error (.draft reason)
  | .ok family =>
    let companion := a.companionWith family
    match firstRepeated? (companion.callables.map (·.name)) with
    | some name => .error (.duplicateCallable a.owner.target.cls.canonical name)
    | none => .ok companion

end Assembly

end Companions
