import Companions.Callable

/-!
The contract between an activity that hands back values and those who start it: a listener
interface nested in the companion, with one method that takes the values in order.
-/

namespace Companions

/-- The result values of an activity, and the listener that receives them. -/
structure Contract where
  listenerType : ClassName
  listenerName : String
  results : List ResultValue

namespace Contract

/-- The method of the listener. -/
def method : String := "onResult"

/-- The contract of a screen: none without result values, and no two values of one name. -/
def make (t : Target) : Except FieldError (Option Contract) :=
  if t.results.isEmpty then .ok none
  else match firstRepeated? (t.results.map (·.name)) with
    | some name => .error (.duplicate name)
    | none =>
      let simple := t.cls.simpleName
      .ok (some
        { listenerType := t.companion.nest ("On" ++ simple ++ "ResultListener")
          listenerName := "on" ++ simple ++ "ResultListener"
          results := t.results })

/-- The parameter that a start callable takes the listener in. -/
def listenerParameter (c : Contract) : Parameter :=
  { name := c.listenerName, type := .ofClass c.listenerType, role := .listener, nullable := true }

/-- The listener interface. -/
def listener (c : Contract) : Listener :=
  { name := c.listenerType
    method
    parameters := c.results.map fun r => { name := r.name, type := r.type } }

end Contract

end Companions
