import Companions.Contract
import Companions.Platform

/-!
Whom generated bodies belong to, and the expressions that all of them use.
-/

namespace Companions

/-- A screen, and what the code generated for it is written against. -/
structure Owner where
  target : Target
  runtime : Runtime := {}

namespace Code

/-- The name of the local that holds the intent being filled. -/
def intentName : String := "intent"

/-- The intent being filled. -/
def intent : Expr := .ident intentName

/-- A text literal. -/
def text (value : String) : Expr :=
  .literal (.text value)

/-- A literal of type `int`. -/
def int (value : Int) : Expr :=
  .literal (.integer value .int)

/-- Declares the intent. -/
def declareIntent (arguments : List Expr) : Statement :=
  .declare intentName false (.ofClass Platform.intent)
    (.create Platform.intent false arguments)

/-- Puts a value into the intent under a key. -/
def putExtra (key : String) (value : Expr) : Statement :=
  .run (.call intent "putExtra" [] [text key, value])

/-- What was put into the intent. -/
def intentExtras : Expr :=
  .property intent "extras"

end Code

end Companions
