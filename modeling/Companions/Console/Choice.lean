import Companions.Target

/-!
The named choices of the command line.
-/

namespace Companions.Console

/-- Whether output is coloured. -/
inductive ColorMode where
  | always
  | auto
  | never
deriving Repr, DecidableEq, Inhabited

/-- The background that colours are chosen for. -/
inductive ThemeMode where
  | dark
  | light
  | auto
deriving Repr, DecidableEq, Inhabited

/-- The languages asked for on the command line. -/
inductive DialectChoice where
  | auto
  | java
  | kotlin
  | both
  | none
deriving Repr, DecidableEq, Inhabited

/-- The modes by name. -/
def ColorMode.choices : List (String × ColorMode) :=
  [("always", .always), ("auto", .auto), ("never", .never)]

/-- The modes by name. -/
def ThemeMode.choices : List (String × ThemeMode) :=
  [("dark", .dark), ("light", .light), ("auto", .auto)]

/-- The languages by name. -/
def DialectChoice.choices : List (String × DialectChoice) :=
  [("auto", .auto), ("java", .java), ("kotlin", .kotlin), ("both", .both), ("none", .none)]

/-- What replaces the languages that each screen asks for. -/
def DialectChoice.selection? : DialectChoice → Option Dialects
  | auto => Option.none
  | java => some ⟨true, false⟩
  | kotlin => some ⟨false, true⟩
  | both => some ⟨true, true⟩
  | none => some ⟨false, false⟩

end Companions.Console
