import Companions.Owner

/-!
Handing back values: `finishWithResult` puts each value into an intent under its name, and the
callback that the start family registers takes them out again and passes them to the listener.
-/

namespace Companions

namespace Result

/-- One value taken out of the returned bundle; a primitive one is known to be there. -/
def read (runtime : Runtime) (r : ResultValue) : Expr :=
  let value : Expr :=
    .singletonCall runtime.bundleUtils "get" [r.type.boxed] [.ident "data", Code.text r.name]
  if r.type.isPrimitive then .nonNull value else value

/-- The callback that passes the returned values on when the result is `RESULT_OK`. -/
def callback (runtime : Runtime) (contract : Contract) : Expr :=
  .listener runtime.resultListener Contract.method
    [{ name := "resultCode", type := .primitive .int },
      { name := "data", type := .ofClass Platform.bundle, nullable := true }]
    [.branch (.equal (.ident "resultCode") (.staticField Platform.activity "RESULT_OK"))
      [.run (.call (.ident contract.listenerName) Contract.method []
        (contract.results.map (read runtime)))]
      []]

/-- The activity that finishes. -/
def activity : Expr := .ident "activity"

/-- The callable with which an activity hands back its values and finishes. -/
def finishWithResult (owner : Owner) (contract : Contract) : Callable :=
  { name := "finishWithResult"
    purpose := .finishWithResult
    parameters :=
      { name := "activity", type := .ofClass owner.target.cls, role := .receiver }
        :: contract.results.map fun r => { name := r.name, type := r.type }
    body :=
      Code.declareIntent []
        :: (contract.results.map fun r => Code.putExtra r.name (.ident r.name))
        ++ [.run (.call activity "setResult" []
              [.staticField Platform.activity "RESULT_OK", Code.intent]),
            .run (.staticCall Platform.activityCompat "finishAfterTransition" [] [activity])]
    docs :=
      ["Finishes " ++ owner.target.cls.simpleName ++ " with "
        ++ toString contract.results.length ++ " result value(s)."] }

end Result

end Companions
