import Companions.Callable

/-!
The companion of a screen: the class with everything that is generated for it.
-/

namespace Companions

/-- Everything that is generated for one screen. -/
structure Companion where
  name : ClassName
  target : ClassName
  kind : Kind
  dialects : Dialects
  docs : List String := []
  constants : List Constant := []
  /-- The callable that takes every field. -/
  full : Callable
  /-- The callables that take some of the optional fields. -/
  variants : List Callable := []
  /-- The callable that takes the required fields only. -/
  noOptional : Callable
  delegates : List Delegate := []
  inject : Callable
  saveState : Callable
  listener : Option Listener := none
  finishWithResult : Option Callable := none
deriving Inhabited

namespace Companion

/-- The start family: full, the variants, then the one without optional fields. -/
def startFamily (c : Companion) : List Callable :=
  c.full :: c.variants ++ [c.noOptional]

/-- Every callable of the companion. -/
def callables (c : Companion) : List Callable :=
  c.startFamily ++ [c.inject, c.saveState] ++ c.finishWithResult.toList

end Companion

end Companions
