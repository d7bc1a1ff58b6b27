/-!
What a run reports without stopping: screens that were skipped, files that could not be written,
and declarations that had no effect.
-/

namespace Companions

/-- A note about a screen, a field or a file. -/
inductive Warning where
  | classSkipped (cls error : String)
  | orphanField (owner field : String)
  | emissionFailed (path error : String)
  | duplicateTarget (cls : String)
  | resultTypesIgnored (cls : String)
deriving Repr, DecidableEq

namespace Warning

/-- The text of the note. -/
def text : Warning → String
  | classSkipped cls error => "Skipped '" ++ cls ++ "': " ++ error
  | orphanField owner field =>
    "Field '" ++ field ++ "' belongs to unknown class '" ++ owner ++ "'"
  | emissionFailed path error => "Failed to write '" ++ path ++ "': " ++ error
  | duplicateTarget cls =>
    "Class '" ++ cls ++ "' is declared more than once; keeping the first declaration"
  | resultTypesIgnored cls =>
    "Fragment '" ++ cls ++ "' declares result types, which only activities support"

/-- Whether something was left out because of it. -/
def isSkip : Warning → Bool
  | classSkipped .. | emissionFailed .. => true
  | _ => false

end Warning

end Companions
