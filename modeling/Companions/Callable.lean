import Companions.Code
import Companions.Target

/-!
Generated methods, and the other members of a companion class: constants, the listener interface,
and the delegates through which Kotlin reaches the full callable from other receivers.
-/

namespace Companions

/-- What a callable is for. -/
inductive Purpose where
  | start
  | show
  | inject
  | saveState
  | finishWithResult
deriving Repr, DecidableEq, Inhabited

/-- A generated method. -/
structure Callable where
  name : String
  purpose : Purpose
  parameters : List Parameter := []
  body : List Statement := []
  docs : List String := []
deriving Inhabited

namespace Callable

/-- The parameter the callable is called on. -/
def receiver? (c : Callable) : Option Parameter :=
  c.parameters.find? Parameter.isReceiver

/-- The other parameters, in order. -/
def arguments (c : Callable) : List Parameter :=
  c.parameters.filter fun p => !p.isReceiver

/-- Every class the callable mentions. -/
def classes (c : Callable) : List ClassName :=
  parameterClasses c.parameters ++ Statement.classesOf c.body

end Callable

/-- A named text constant of the companion class. -/
structure Constant where
  name : String
  value : String
deriving Repr, DecidableEq, Inhabited

/-- An interface with a single method, nested in the companion class. -/
structure Listener where
  name : ClassName
  method : String
  parameters : List Parameter
deriving Repr, Inhabited

/-- Another type of receiver in Kotlin: its `property` is the context to start from. -/
structure Delegate where
  receiver : ClassName
  property : String
  nullable : Bool
deriving Repr, DecidableEq, Inhabited

end Companions
