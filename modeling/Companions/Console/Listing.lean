import Companions.Batch
import Companions.Console.Table

/-!
The listing of declared screens: how many fields each has and how many start callables it gets, or
why it gets none.
-/

namespace Companions.Console

/-- One declared screen in the listing. -/
structure Listed where
  className : String
  kind : String
  required : Nat := 0
  optional : Nat := 0
  /-- The number of start callables. -/
  callables : Except String Nat

namespace Listed

/-- The screen of a binding. Its fields are added in order, up to the first that cannot be, and are
only counted if all of them could be added. -/
def ofBinding (b : Binding) : Listed :=
  match b.target with
  | .error reason => { className := b.className, kind := "?", callables := .error reason.message }
  | .ok target =>
    let row : Listed := { className := b.className, kind := target.kind.name, callables := .ok 0 }
    match Assembly.begin {} target with
    | .error reason => { row with callables := .error reason.message }
    | .ok assembly =>
      match b.fields.foldlM (fun assembly field => field.bind assembly.add) assembly with
      | .error reason => { row with callables := .error reason.message }
      | .ok assembly =>
        { row with
          required := assembly.required.toList.length
          optional := assembly.optional.toList.length
          callables := match assembly.generate with
            | .ok companion => .ok companion.startFamily.length
            | .error reason => .error reason.message }

/-- The cells of the screen. -/
def cells (l : Listed) : List Cell :=
  [.ofText l.className, .ofText l.kind, .ofNat l.required, .ofNat l.optional,
    match l.callables with
    | .ok count => .ofNat count
    | .error reason => .ofText reason]

end Listed

/-- Every declared screen in order of first declaration. -/
def listing (m : Manifest) : List Listed :=
  m.bind.1.map Listed.ofBinding

/-- The lines of the listing, sorted by class. -/
def listingLines (m : Manifest) : List String :=
  let rows := (listing m).mergeSort fun a b => !(b.className < a.className)
  Table.lines ["CLASS", "KIND", "REQUIRED", "OPTIONAL", "CALLABLES"] (rows.map Listed.cells)

end Companions.Console
