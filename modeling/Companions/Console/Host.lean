import Companions.Source.File

/-!
What a command needs from its surroundings, as operations of some monad, and how a generated file
is put below the output root.
-/

namespace Companions.Console

/-- A failure of the file system. -/
inductive FileError where
  | missing
  | existsAlready
  | noDevice
  | notDirectory
  | isDirectory
  | nameTooLong
  | nulByte
  | other (text : String)
deriving Repr, DecidableEq

/-- The failure in the words of the operating system. -/
def FileError.text : FileError → String
  | missing => "No such file or directory (os error 2)"
  | existsAlready => "File exists (os error 17)"
  | noDevice => "No such device (os error 19)"
  | notDirectory => "Not a directory (os error 20)"
  | isDirectory => "Is a directory (os error 21)"
  | nameTooLong => "File name too long (os error 36)"
  | nulByte => "file name contained an unexpected NUL byte"
  | other text => text

/-- The surroundings of a command. Only a file can be read. A directory can only be made, and a file
only be written, in a directory that is there. -/
structure Host (m : Type → Type) where
  readFile : (path : String) → m (Except FileError (List UInt8))
  makeDirectory : (path : String) → m (Except FileError Unit)
  isDirectory : (path : String) → m Bool
  writeFile : (path contents : String) → m (Except FileError Unit)
  print : (line : String) → m Unit
  printError : (line : String) → m Unit
  /-- The time of day in brackets. -/
  timeOfDay : m String

/-! ### Paths -/

/-- The steps of a path. -/
def steps (path : String) : List String :=
  (path.toList.splitOn '/').map String.ofList

/-- Takes slashes, and dots that name the directory they stand in, from the end of a reversed
path. -/
def trimmedEnd : List Char → List Char
  | ['/'] => ['/']
  | '/' :: rest => trimmedEnd rest
  | '.' :: '/' :: rest => trimmedEnd ('/' :: rest)
  | path => path

/-- The directory that holds what a path leads to. -/
def parentOf (path : String) : String :=
  String.ofList (trimmedEnd (path.toList.reverse.dropWhile (· != '/'))).reverse

/-! ### Writing below a root -/

section Writing

variable {m : Type → Type} [Monad m] (host : Host m)

/-- Makes a directory, after those that lead to it if they are missing. The steps are given from the
last one on; a directory that is there already is left as it is, as are the root and the directory
of the run. -/
def makeDirectories : (inward : List String) → m (Except FileError Unit)
  | [] | [""] => return .ok ()
  | name :: outer => do
    let path := joined "/" (name :: outer).reverse
    let unlessThere (reason : FileError) : m (Except FileError Unit) := do
      return if ← host.isDirectory path then .ok () else .error reason
    match ← host.makeDirectory path with
    | .ok () => return .ok ()
    | .error .missing =>
      match ← makeDirectories outer with
      | .error reason => return .error reason
      | .ok () =>
        match ← host.makeDirectory path with
        | .ok () => return .ok ()
        | .error reason => unlessThere reason
    | .error reason => unlessThere reason

/-- Writes a file below the output root, with the directories that lead to it. -/
def writeBelow (root : String) (f : SourceFile) : m (Except String Unit) := do
  let path := below root f.pathText
  let parent := parentOf path
  match ← makeDirectories host (steps parent).reverse with
  | .error reason => return .error ("creating " ++ parent ++ ": " ++ reason.text)
  | .ok () =>
    match ← host.writeFile path f.contents with
    | .error reason => return .error ("writing " ++ path ++ ": " ++ reason.text)
    | .ok () => return .ok ()

end Writing

end Companions.Console
