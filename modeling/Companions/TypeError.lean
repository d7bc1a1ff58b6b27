/-!
Why a text does not name a type. Positions count the bytes of the text in UTF-8 without the blanks
around it.
-/

namespace Companions

/-- The ways in which a text fails to name a type. -/
inductive TypeError where
  | empty
  | unexpected (position : Nat) (found : Char)
  | invalidName (name : String)
  | unclosedArguments
  | primitiveWithArguments (name : String)
deriving Repr, DecidableEq

/-- The message shown for the failure. -/
def TypeError.message : TypeError → String
  | .empty => "type descriptor is empty"
  | .unexpected position found =>
    "unexpected '" ++ found.toString ++ "' at position " ++ toString position
  | .invalidName name => "'" ++ name ++ "' is not a valid type name"
  | .unclosedArguments => "unclosed '<' in type arguments"
  | .primitiveWithArguments name => "primitive '" ++ name ++ "' cannot take type arguments"

end Companions
