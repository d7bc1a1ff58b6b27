import Companions.Result

/-!
A start or show callable while it is being written. A draft begins with its preamble; every field
that is visited adds a parameter and puts its value into the intent; closing adds the launch and
the injection call, once. Only a closed draft yields a callable, and only an open one takes fields.
-/

namespace Companions

/-- What goes wrong when a draft is used out of order. -/
inductive DraftError where
  | closedTwice (cls method : String)
  | notClosed (cls method : String)
  | visitedWhenClosed
deriving Repr, DecidableEq

/-- The message shown for the failure. -/
def DraftError.message : DraftError → String
  | closedTwice cls method => "method '" ++ method ++ "' of '" ++ cls ++ "' was finalized twice"
  | notClosed cls method =>
    "method '" ++ method ++ "' of '" ++ cls ++ "' was built before it was finalized"
  | visitedWhenClosed => "field visited after finalization"

/-- A start or show callable being written. -/
structure Draft where
  owner : Owner
  name : String
  parameters : List Parameter
  visited : List Field := []
  body : List Statement
  closed : Bool := false

namespace Draft

/-! ### Preamble and launch -/

/-- The context an activity is started from. -/
def context : Expr := .ident "context"

/-- The activity a fragment is shown in. -/
def activity : Expr := .ident "activity"

/-- The view that a fragment is put into. -/
def containerId : Expr := .ident "containerId"

/-- A call on the runtime's activity builder. -/
def onActivityBuilder (owner : Owner) (method : String) (arguments : List Expr) : Statement :=
  .run (.singletonCall owner.runtime.activityBuilder method [] arguments)

/-- The parameters that every start callable begins with. -/
def preambleParameters : Kind → List Parameter
  | .activity => [{ name := "context", type := .ofClass Platform.context, role := .receiver }]
  | .fragment =>
    [{ name := "activity", type := .ofClass Platform.activity, role := .receiver },
      { name := "containerId", type := .primitive .int }]

/-- The statements that every start callable begins with. -/
def preambleBody (owner : Owner) : List Statement :=
  match owner.target.kind with
  | .activity =>
    [onActivityBuilder owner "init" [context],
      Code.declareIntent [context, .classLiteral owner.target.cls]]
  | .fragment => [onActivityBuilder owner "init" [activity], Code.declareIntent []]

/-- What starts an activity from an activity: with the listener registered if there is one. -/
def startFromActivity (owner : Owner) (contract : Option Contract) : List Statement :=
  let asActivity : Expr := .cast Platform.activity context
  match contract with
  | some contract =>
    [.branch (.isNull (.ident contract.listenerName))
      [.run (.call asActivity "startActivityForResult" []
        [Code.intent, Code.int owner.runtime.requestCode])]
      [onActivityBuilder owner "startActivityForResult"
        [asActivity, Code.intent, Result.callback owner.runtime contract]]]
  | none => [.run (.call context "startActivity" [] [Code.intent])]

/-- The launch of an activity; from anywhere but an activity it needs a new task. -/
def launchActivity (owner : Owner) (contract : Option Contract) : Statement :=
  .branch (.instanceOf context Platform.activity) (startFromActivity owner contract)
    [.run (.call Code.intent "addFlags" []
        [.staticField Platform.intent "FLAG_ACTIVITY_NEW_TASK"]),
      .run (.call context "startActivity" [] [Code.intent])]

/-- A view found by its id. -/
def findView (root : Expr) (id : Expr) : Expr :=
  .call root "findViewById" [.ofClass Platform.view] [id]

/-- The name of the source of a shared element: given, or read off its view. -/
def elementSource : ElementSource → Expr
  | .name name => Code.text name
  | .id id =>
    .nonNull (.staticCall Platform.viewCompat "getTransitionName" []
      [findView (.ident "container") (Code.int id)])

/-- Adds one shared element to the list. -/
def addElement (element : SharedElement) : Statement :=
  .run (.call (.ident "sharedElements") "add" []
    [.create Platform.pair true [elementSource element.source, Code.text element.targetName]])

/-- Whether the source of a shared element is a view. -/
def SharedElement.needsContainer (element : SharedElement) : Bool :=
  match element.source with
  | .id _ => true
  | .name _ => false

/-- The list of shared elements, and the container if one of their views is needed. -/
def collectElements (elements : List SharedElement) : List Statement :=
  if elements.isEmpty then []
  else
    [.declare "sharedElements" true Platform.sharedElementList
        (.create Platform.arrayList true [])]
      ++ (if elements.any SharedElement.needsContainer then
          [.declare "container" true (.ofClass Platform.view) (findView activity containerId)]
        else [])
      ++ elements.map addElement

/-- The launch of a fragment. -/
def launchFragment (owner : Owner) : Statement :=
  let elements := owner.target.sharedElements
  let sharedElements : Expr :=
    if elements.isEmpty then .literal .null else .ident "sharedElements"
  .branch (.instanceOf activity Platform.fragmentActivity)
    (collectElements elements
      ++ [.run (.singletonCall owner.runtime.fragmentBuilder "showFragment" []
          [.cast Platform.fragmentActivity activity, containerId, Code.intentExtras,
            .classLiteral owner.target.cls, sharedElements])])
    []

/-- The statements that close a start callable. Fragments have no use for a contract. -/
def closingBody (owner : Owner) (contract : Option Contract) : List Statement :=
  let launch := match owner.target.kind with
    | .activity => launchActivity owner contract
    | .fragment => launchFragment owner
  [launch, onActivityBuilder owner "inject" []]

/-- The parameters that close a start callable: the listener of an activity's contract. -/
def closingParameters (owner : Owner) (contract : Option Contract) : List Parameter :=
  match owner.target.kind with
  | .activity => contract.toList.map Contract.listenerParameter
  | .fragment => []

/-! ### Operations -/

/-- A draft that holds its preamble only. -/
def begin (owner : Owner) (name : String) : Draft :=
  { owner, name
    parameters := preambleParameters owner.target.kind
    body := preambleBody owner }

/-- The draft with one more field. -/
def push (d : Draft) (f : Field) : Draft :=
  { d with
    parameters := d.parameters ++ [{ name := f.name, type := f.type }]
    visited := d.visited ++ [f]
    body := d.body ++ [Code.putExtra f.name (.ident f.name)] }

/-- Takes one more field, while the draft is open. -/
def visit (d : Draft) (f : Field) : Except DraftError Draft :=
  if d.closed then .error .visitedWhenClosed else .ok (d.push f)

/-- Takes fields in order. -/
def visitAll (d : Draft) (fields : List Field) : Except DraftError Draft :=
  fields.foldlM visit d

/-- The name of the class the draft is written for. -/
def className (d : Draft) : String :=
  d.owner.target.cls.canonical

/-- Adds the launch and the injection call. -/
def close (d : Draft) (contract : Option Contract) : Except DraftError Draft :=
  if d.closed then .error (.closedTwice d.className d.name)
  else
    .ok { d with
          parameters := d.parameters ++ closingParameters d.owner contract
          body := d.body ++ closingBody d.owner contract
          closed := true }

/-- The draft under another name. -/
def rename (d : Draft) (name : String) : Draft :=
  { d with name }

/-- An open draft that has visited the same fields. -/
def copy (d : Draft) (name : String) : Draft :=
  d.visited.foldl push (begin d.owner name)

/-- The callable of a closed draft. -/
def build (d : Draft) : Except DraftError Callable :=
  if d.closed then
    .ok { name := d.name
          purpose := match d.owner.target.kind with
            | .activity => .start
            | .fragment => .show
          parameters := d.parameters
          body := d.body }
  else .error (.notClosed d.className d.name)

end Draft

end Companions
