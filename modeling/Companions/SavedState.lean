import Companions.Owner

/-!
State callables: `inject` copies the extras a screen was started with, or its saved state, into its
fields, and `saveState` writes the fields back under the same keys. Both act only on an instance of
the screen's class.
-/

namespace Companions

namespace SavedState

/-- The instance under the type of the screen. -/
def typedInstance : Expr := .ident "typedInstance"

/-- The body under the test that the instance is one of the screen's class. -/
def guarded (owner : Owner) (body : List Statement) : Statement :=
  let cls := owner.target.cls
  .branch (.instanceOf (.ident "instance") cls)
    (.declare "typedInstance" false (.ofClass cls) (.cast cls (.ident "instance")) :: body) []

/-- The literal of a default, typed as the field is: a whole number becomes a floating-point
literal for a floating-point field. -/
def defaultLiteral (d : Default) (t : ValueType) : Literal :=
  match d, t.primitive? with
  | .boolean value, _ => .boolean value
  | .text value, _ => .text value
  | .float value, p => .float value (p.getD .double)
  | .integer value, some p =>
    if p.isFloating then .float (Number.Binary64.ofInt value) p else .integer value p
  | .integer value, none => .integer value .int

/-- Reads one field back. Without a default the value may be absent, and the field then keeps
what it was initialised with. -/
def readField (runtime : Runtime) (f : Field) : List Statement :=
  let name := Naming.valueLocal f.name
  let fallback := f.default.toList.map fun d => Expr.literal (defaultLiteral d f.type)
  let read : Statement :=
    .declare name false f.type.boxed
      (.singletonCall runtime.bundleUtils "get" [f.type.boxed]
        (.ident "extras" :: Code.text f.name :: fallback))
  let assign : Statement := .assign (.field typedInstance f.name) (.ident name)
  if f.default.isSome then [read, assign]
  else [read, .branch (.notNull (.ident name)) [assign] []]

/-- Where the extras of a fresh screen are. -/
def freshExtras : Kind → Expr
  | .activity => .property (.property typedInstance "intent") "extras"
  | .fragment => .property typedInstance "arguments"

/-- The callable that binds fields when a screen is created. -/
def inject (owner : Owner) (fields : List Field) : Callable :=
  let extras : Statement :=
    .declare "extras" false (.ofClass Platform.bundle)
      (.conditional (.isNull (.ident "savedInstanceState"))
        (freshExtras owner.target.kind) (.ident "savedInstanceState"))
  let reading :=
    if fields.isEmpty then []
    else
      [Statement.branch (.notNull (.ident "extras"))
        (fields.flatMap (readField owner.runtime)) []]
  { name := "inject"
    purpose := .inject
    parameters :=
      [{ name := "instance", type := .ofClass Platform.object },
        { name := "savedInstanceState", type := .ofClass Platform.bundle, nullable := true }]
    body := [guarded owner (extras :: reading)]
    docs :=
      ["Binds the extras of a newly created instance, preferring saved state when present."] }

/-- The callable that writes the fields into the state to be saved. -/
def saveState (owner : Owner) (fields : List Field) : Callable :=
  { name := "saveState"
    purpose := .saveState
    parameters :=
      [{ name := "instance", type := .ofClass Platform.object },
        { name := "outState", type := .ofClass Platform.bundle }]
    body :=
      [guarded owner
        (Code.declareIntent []
          :: (fields.map fun f => Code.putExtra f.name (.field typedInstance f.name))
          ++ [.run (.call (.ident "outState") "putAll" [] [Code.intentExtras])])] }

end SavedState

end Companions
