import Companions.Console.Host

/-!
Files and directories in memory, with the failures of a file system, and a host that keeps its
output there. A run against it shows what a command would read, write and print.

A path that does not start at the root starts at the directory of the run. Every step on the way
has to be a directory, also where the path goes on with `.` or `..`.
-/

namespace Companions.Console

/-! ### Entries -/

/-- What a name in a directory stands for. A device is there without being a file or a directory,
and what is written to it is gone. -/
inductive Entry where
  | file (contents : String)
  | directory (members : List (String × Entry))
  | device

namespace Entry

/-- What the names in it stand for; nothing but a directory has any. -/
def members : Entry → List (String × Entry)
  | directory members => members
  | file _ | device => []

/-- The entry with another one where the names lead; directories on the way are made. -/
def put (e new : Entry) : (names : List String) → Entry
  | [] => new
  | name :: rest =>
    let inner := ((e.members.lookup name).getD (.directory [])).put new rest
    .directory ((name, inner) :: e.members.filter fun m => m.1 != name)

end Entry

/-! ### Places -/

/-- A place that names lead to: the names from the last one on, the entry there, if any, and the
directories on the way, from the last one on. -/
structure Place where
  inward : List String
  here : Option Entry
  above : List Entry

namespace Place

/-- The names that lead to the place. -/
def names (p : Place) : List String :=
  p.inward.reverse

/-- The place of a name in the directory that is here. -/
def down (p : Place) (name : String) : Place :=
  match p.here with
  | some e => ⟨name :: p.inward, e.members.lookup name, e :: p.above⟩
  | none => ⟨name :: p.inward, none, p.above⟩

/-- The directory that holds the place. The root holds itself. -/
def up (p : Place) : Place :=
  match p.above with
  | e :: above => ⟨p.inward.tail, some e, above⟩
  | [] => p

/-- The longest name of an entry, in bytes. -/
def longestName : Nat := 255

/-- The place that steps lead to from another one. What they stand for need not be there. -/
def walk (p : Place) : (steps : List String) → Except FileError Place
  | [] => .ok p
  | step :: rest =>
    match p.here with
    | none => .error .missing
    | some (.file _) | some .device => .error .notDirectory
    | some (.directory _) =>
      if step = "" ∨ step = "." then p.walk rest
      else if step = ".." then p.up.walk rest
      else if longestName < step.utf8ByteSize then .error .nameTooLong
      else (p.down step).walk rest

end Place

/-! ### Trees -/

/-- All files and directories from the root on, and the names that lead to the directory of the
run, which is empty at first. -/
structure FileTree where
  root : Entry := .directory
    [("dev", .directory [("null", .device)]), ("tmp", .directory [("run", .directory [])])]
  home : List String := ["tmp", "run"]

namespace FileTree

/-- The place of the root. -/
def top (t : FileTree) : Place :=
  ⟨[], some t.root, []⟩

/-- The directory of the run. -/
def start (t : FileTree) : Place :=
  t.home.foldl Place.down t.top

/-- The longest path, in bytes. -/
def longestPath : Nat := 4095

/-- The place a path leads to. -/
def resolve (t : FileTree) (path : String) : Except FileError Place :=
  if path.toList.contains '\x00' then .error .nulByte
  else if path.isEmpty then .error .missing
  else if longestPath < path.utf8ByteSize then .error .nameTooLong
  else (if path.startsWith "/" then t.top else t.start).walk (steps path)

/-- The contents of a file. -/
def read (t : FileTree) (path : String) : Except FileError String := do
  match (← t.resolve path).here with
  | some (.file contents) => .ok contents
  | some (.directory _) | some .device => .error .noDevice
  | none => .error .missing

/-- The tree with an entry at a place. -/
def put (t : FileTree) (p : Place) (e : Entry) : FileTree :=
  { t with root := t.root.put e p.names }

/-- Writes a file in a directory that is there. -/
def write (t : FileTree) (path contents : String) : Except FileError FileTree := do
  let place ← t.resolve path
  match place.here with
  | some (.directory _) => .error .isDirectory
  | some .device => .ok t
  | some (.file _) | none => .ok (t.put place (.file contents))

/-- Makes a directory in one that is there. -/
def makeDirectory (t : FileTree) (path : String) : Except FileError FileTree := do
  let place ← t.resolve path
  match place.here with
  | some _ => .error .existsAlready
  | none => .ok (t.put place (.directory []))

/-- Whether a path leads to a directory. -/
def isDirectory (t : FileTree) (path : String) : Bool :=
  match t.resolve path with
  | .ok { here := some (.directory _), .. } => true
  | _ => false

end FileTree

/-! ### Runs in memory -/

/-- A tree, and what has been printed so far. -/
structure Session where
  tree : FileTree := {}
  printed : String := ""
  errors : String := ""

namespace Session

/-- Changes the tree, or says why that cannot be done. -/
def change (f : FileTree → Except FileError FileTree) : StateM Session (Except FileError Unit) := do
  match f (← get).tree with
  | .ok tree =>
    modify fun s => { s with tree }
    return .ok ()
  | .error reason => return .error reason

/-- The host of a run in memory, where it is always the same time of day. -/
def host (timeOfDay : String) : Host (StateM Session) where
  readFile path := do
    return ((← get).tree.read path).map fun contents => contents.toUTF8.toList
  makeDirectory path := change fun tree => tree.makeDirectory path
  isDirectory path := do return (← get).tree.isDirectory path
  writeFile path contents := change fun tree => tree.write path contents
  print line := modify fun s => { s with printed := s.printed ++ line ++ "\n" }
  printError line := modify fun s => { s with errors := s.errors ++ line ++ "\n" }
  timeOfDay := return timeOfDay

end Session

end Companions.Console
