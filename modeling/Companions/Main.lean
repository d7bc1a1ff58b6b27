import Companions.Console.Run
import Std.Time.Zoned

/-!
The program: carries out its arguments on the file system and the terminal.
-/

namespace Companions.Console

/-- The number of a failure, which has either sign, and its words. -/
def errorNumber? : IO.Error → Option (Nat × String)
  | .alreadyExists _ code words | .noFileOrDirectory _ code words | .inappropriateType _ code words
  | .invalidArgument _ code words | .permissionDenied _ code words =>
    some (min code.toNat (UInt32.size - code.toNat), words)
  | _ => none

/-- A failure that the file system reports. -/
def fileError (e : IO.Error) : FileError :=
  match errorNumber? e with
  | some (2, _) => .missing
  | some (17, _) => .existsAlready
  | some (20, _) => .notDirectory
  | some (21, _) => .isDirectory
  | some (36, _) => .nameTooLong
  | some (number, words) =>
    .other (words.capitalize ++ " (os error " ++ toString number ++ ")")
  | none => .other (toString e)

/-- An action whose failure is kept. -/
def attempt {α : Type} (action : IO α) : IO (Except FileError α) := do
  try
    return .ok (← action)
  catch e => return .error (fileError e)

/-- Two digits of a number below a hundred. -/
def twoDigits (n : Int) : String :=
  let digits := toString n
  if digits.length < 2 then "0" ++ digits else digits

/-- The time of day in brackets. -/
def clock : IO String := do
  let now ← Std.Time.PlainTime.now
  return "[" ++ twoDigits now.hour.val ++ ":" ++ twoDigits now.minute.val ++ ":"
    ++ twoDigits now.second.val ++ "]"

/-- The file system and the terminal. -/
def systemHost : Host IO where
  readFile path := do
    match ← attempt do return (← (← IO.FS.realPath path).metadata).type with
    | .ok .file => attempt do return (← IO.FS.readBinFile path).toList
    | .ok _ => return .error .noDevice
    | .error reason => return .error reason
  makeDirectory path := attempt (IO.FS.createDir path)
  isDirectory path := do
    match ← attempt (IO.FS.realPath path) with
    | .ok real => real.isDir
    | .error _ => return false
  writeFile path contents := attempt (IO.FS.writeFile path contents)
  print line := IO.println line
  printError line := IO.eprintln line
  timeOfDay := clock

end Companions.Console

open Companions.Console in
/-- Carries out the arguments; the exit code says whether that went well. -/
def main (arguments : List String) : IO UInt32 := do
  match Invocation.parse arguments with
  | .error reason =>
    if reason.isRequest then
      IO.println reason.message
      return 0
    IO.eprintln ("error: " ++ reason.message)
    return 2
  | .ok invocation =>
    let isTerminal ← (← IO.getStdout).isTty
    let background ← IO.getEnv "COLORFGBG"
    match ← invocation.run systemHost isTerminal background with
    | .ok () => return 0
    | .error reason =>
      IO.eprintln ("Error: " ++ reason.message)
      return 1
