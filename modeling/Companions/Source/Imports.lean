import Companions.Source.Page
import Companions.Text.Blank
import Companions.ValueType

/-!
Which classes a source file imports and how it spells each class. A simple name belongs to one
outermost class: first to the class the file declares, then to classes of its own package, then to
imported ones in order, and last to those of `java.lang`. A class whose name belongs to another one,
or is reserved for a member of the file, is spelled with its package.
-/

namespace Companions

/-- The owners of simple names in one file, and what it imports. -/
structure Imports where
  package : String
  owners : List (String × ClassName)
  imported : List String
deriving Repr

namespace Imports

/-- Adds a name to a sorted list that does not have it yet. -/
def insertName (name : String) : List String → List String
  | [] => [name]
  | other :: rest =>
    if name = other then other :: rest
    else if name < other then name :: other :: rest
    else other :: insertName name rest

/-- Gives the class its simple name, unless that is reserved or taken. -/
def claim (reserved : List String) (needsImport : Bool) (table : Imports) (top : ClassName) :
    Imports :=
  if reserved.contains top.simpleName || (table.owners.lookup top.simpleName).isSome then table
  else
    { table with
      owners := (top.simpleName, top) :: table.owners
      imported :=
        if needsImport then insertName top.canonical table.imported else table.imported }

/-- The table of a file of `package` that declares `declared` and mentions `classes`. -/
def make (package : String) (declared : ClassName) (reserved : List String)
    (classes : List ClassName) : Imports :=
  let tops := sortedClasses (classes.map ClassName.topLevel)
  let own := tops.filter fun c => c.package == package
  let others := tops.filter fun c => c.package != package
  let foreign := others.filter fun c => c.package != javaLang
  let implicit := others.filter fun c => c.package == javaLang
  let table : Imports :=
    { package, owners := [(declared.simpleName, declared.topLevel)], imported := [] }
  let table := own.foldl (claim reserved false) table
  let table := foreign.foldl (claim reserved true) table
  implicit.foldl (claim reserved false) table

/-- How the file spells a class. -/
def spell (table : Imports) (c : ClassName) : String :=
  if table.owners.lookup c.outer == some c.topLevel then c.relative else c.canonical

/-- The top of a file: header, package clause and imports, each clause closed by `ending`. -/
def writeTop (table : Imports) (header ending : String) : Page :=
  let page := (Page.empty.line (String.ofList (Text.trimEnd header.toList))).blank
  let page :=
    if table.package.isEmpty then page
    else (page.line ("package " ++ table.package ++ ending)).blank
  if table.imported.isEmpty then page
  else
    (table.imported.foldl (fun page name => page.line ("import " ++ name ++ ending)) page).blank

end Imports

end Companions
