import Companions.Console.Arguments
import Companions.Console.Host
import Companions.Console.Listing
import Companions.Console.Report
import Companions.Manifest.Decode

/-!
The commands. `list targets` prints the listing of a manifest. `generate` prints what it does,
generates every class, and writes the files or, in a dry run, prints them; it fails if a file could
not be written.
-/

namespace Companions.Console

/-! ### Settings -/

/-- Why a command stops. -/
inductive RunError where
  | invalidPackage (package : String)
  | verboseAndQuiet
  | cannotOpen (path : String) (reason : FileError)
  | cannotParse (path reason : String)
  | notWritten (failed total : Nat)
deriving Repr, DecidableEq

/-- Why a path could not be read. What it leads to is opened first and then mapped into memory,
which only files can be. -/
def readFailure (path : String) (reason : FileError) : String :=
  match reason with
  | .noDevice => reason.text ++ ": mmap failed: " ++ reason.text
  | _ =>
    path ++ ": unable to open file: " ++ reason.text ++ ": IO error: " ++ reason.text
      ++ ": IO error: " ++ reason.text

/-- The message shown for the failure. -/
def RunError.message : RunError → String
  | invalidPackage package =>
    "Invalid runtime package '" ++ package ++ "': expected a dotted Java package name"
  | verboseAndQuiet => "--verbose and --quiet cannot be combined"
  | cannotOpen path reason =>
    "opening descriptor file " ++ path ++ ": " ++ readFailure path reason
  | cannotParse path reason => "parsing " ++ path ++ ": " ++ reason
  | notWritten failed total =>
    toString failed ++ " of " ++ toString total ++ " files could not be written"

/-- Whether a text is the dotted name of a package: every part can name a member. -/
def isPackageName (package : String) : Bool :=
  (ClassName.segments package.toList).all fun part => Naming.isMemberName (String.ofList part)

/-- What `generate` has been told to do. -/
structure GenerateSettings where
  input : String
  output : String
  dialect : DialectChoice
  runtimePackage : String
  dryRun : Bool
  verbose : Bool
  quiet : Bool
deriving Repr, DecidableEq

namespace GenerateSettings

/-- The settings that options ask for. -/
def ofOptions (o : GenerateOptions) : Except RunError GenerateSettings :=
  let runtimePackage := o.runtimePackage.getD ({} : Runtime).package
  if !isPackageName runtimePackage then .error (.invalidPackage runtimePackage)
  else if o.verbose && o.quiet then .error .verboseAndQuiet
  else
    .ok { input := o.input, output := o.output, dialect := o.dialect, runtimePackage
          dryRun := o.dryRun, verbose := o.verbose, quiet := o.quiet }

/-- What holds for every class of the run. -/
def settings (g : GenerateSettings) : Settings :=
  { runtime := { package := g.runtimePackage }, dialects := g.dialect.selection? }

end GenerateSettings

/-! ### Commands -/

section Commands

variable {m : Type → Type} [Monad m] (host : Host m) (palette : Palette)

/-- Prints lines in order. -/
def printAll (lines : List String) : m Unit :=
  lines.forM host.print

/-- Reads a manifest from a file. -/
def loadManifest (path : String) : m (Except RunError Manifest) := do
  match ← host.readFile path with
  | .error reason => return .error (.cannotOpen path reason)
  | .ok bytes =>
    return (Manifest.parse bytes).mapError fun fault => .cannotParse path (fault.located bytes)

/-- Prints the listing of a manifest. -/
def listTargets (input : String) : m (Except RunError Unit) := do
  match ← loadManifest host input with
  | .error reason => return .error reason
  | .ok manifest =>
    printAll host (listingLines manifest)
    return .ok ()

/-- Prints a step of the run. -/
def printStep (g : GenerateSettings) (accent : Accent) (message : String) : m Unit := do
  if !g.quiet then
    host.print (Report.step palette accent (← host.timeOfDay) message)

/-- Prints statistics, and the warnings after a free line. -/
def printStatistics (g : GenerateSettings) (s : Statistics) : m Unit := do
  if !g.quiet then
    printAll host (Report.statistics palette s)
    let shown := Report.shown g.verbose s.warnings
    if !shown.isEmpty then host.print ""
    shown.forM fun w => host.printError (Report.warning palette w)

/-- Prints the files instead of writing them. -/
def printFiles (files : List SourceFile) : m Unit :=
  files.forM fun f => do
    host.print ("// " ++ f.pathText)
    host.print f.contents

/-- Writes the files of a run. -/
def writeFiles (g : GenerateSettings) (batch : Batch) : m (Except RunError Unit) := do
  printStep host palette g .progress ("Writing to: " ++ g.output)
  if g.verbose then printAll host (batch.files.map (Report.file palette))
  let stats ← Batch.emit (writeBelow host g.output) batch.files batch.statistics
  printStatistics host palette g stats
  let total := batch.files.length
  if stats.filesWritten < total then
    return .error (.notWritten (total - stats.filesWritten) total)
  if !g.quiet then host.print ""
  printStep host palette g .written
    ("Successfully wrote " ++ toString stats.filesWritten ++ " files")
  return .ok ()

/-- Generates the companions of a manifest. -/
def generate (g : GenerateSettings) : m (Except RunError Unit) := do
  printStep host palette g .progress ("Loading descriptors from: " ++ g.input)
  match ← loadManifest host g.input with
  | .error reason => return .error reason
  | .ok manifest =>
    printStep host palette g .progress
      ("Generating companions for " ++ toString manifest.targets.length ++ " classes ("
        ++ toString manifest.fields.length ++ " fields)...")
    let batch := Batch.generate g.settings g.input manifest
    if g.dryRun then
      printStatistics host palette g batch.statistics
      printFiles host batch.files
      return .ok ()
    writeFiles host palette g batch

/-- Carries out a command. -/
def runCommand (c : Command) : m (Except RunError Unit) := do
  match c with
  | .listTargets input => listTargets host input
  | .generate options =>
    match GenerateSettings.ofOptions options with
    | .error reason => return .error reason
    | .ok g => generate host palette g

end Commands

/-- Carries out an invocation on a terminal or elsewhere; a terminal may announce its
background. -/
def Invocation.run {m : Type → Type} [Monad m] (host : Host m) (isTerminal : Bool)
    (background : Option String) (i : Invocation) : m (Except RunError Unit) :=
  let enabled := match i.color with
    | .always => true
    | .never => false
    | .auto => isTerminal
  runCommand host { enabled, theme := i.theme.theme background } i.command

end Companions.Console
