import Companions.Manifest.Bind
import Companions.Source.File

/-!
A run over a whole manifest. Every binding is generated for itself: one that fails is skipped with a
warning, and the others go on. Writing the files is left to the caller; a file that cannot be
written leaves a warning too.
-/

namespace Companions

/-! ### Statistics -/

/-- What a run has done so far. -/
structure Statistics where
  classesGenerated : Nat := 0
  activitiesGenerated : Nat := 0
  fragmentsGenerated : Nat := 0
  classesSkipped : Nat := 0
  javaFiles : Nat := 0
  kotlinFiles : Nat := 0
  startCallables : Nat := 0
  windowedVariants : Nat := 0
  constantsGenerated : Nat := 0
  resultContracts : Nat := 0
  filesWritten : Nat := 0
  warnings : List Warning := []
deriving Repr, DecidableEq

namespace Statistics

/-- Counts a companion. -/
def addCompanion (s : Statistics) (c : Companion) : Statistics :=
  { s with
    classesGenerated := s.classesGenerated + 1
    activitiesGenerated := s.activitiesGenerated + if c.kind = .activity then 1 else 0
    fragmentsGenerated := s.fragmentsGenerated + if c.kind = .fragment then 1 else 0
    startCallables := s.startCallables + c.startFamily.length
    windowedVariants := s.windowedVariants + c.variants.length
    constantsGenerated := s.constantsGenerated + c.constants.length
    resultContracts := s.resultContracts + if c.listener.isSome then 1 else 0 }

/-- Counts a file. -/
def addFile (s : Statistics) (f : SourceFile) : Statistics :=
  match f.dialect with
  | .java => { s with javaFiles := s.javaFiles + 1 }
  | .kotlin => { s with kotlinFiles := s.kotlinFiles + 1 }

/-- Counts a file that has been written. -/
def addWritten (s : Statistics) : Statistics :=
  { s with filesWritten := s.filesWritten + 1 }

/-- Records a warning, and counts it if a class was skipped. -/
def addWarning (s : Statistics) (w : Warning) : Statistics :=
  match w with
  | .classSkipped .. =>
    { s with classesSkipped := s.classesSkipped + 1, warnings := s.warnings ++ [w] }
  | _ => { s with warnings := s.warnings ++ [w] }

/-- Records warnings in order. -/
def addWarnings (s : Statistics) (warnings : List Warning) : Statistics :=
  warnings.foldl addWarning s

end Statistics

/-! ### Generation -/

/-- The assembly of a binding, with every field added. -/
def Binding.assemble (settings : Settings) (b : Binding) : Except GenerationError Assembly := do
  let target ← b.target
  let assembly ← Assembly.begin settings target
  b.fields.foldlM (fun assembly field => (field.bind assembly.add).mapError .field) assembly

/-- What a run has produced. -/
structure Batch where
  companions : List Companion := []
  files : List SourceFile := []
  statistics : Statistics := {}

namespace Batch

/-- Records that a class was skipped. -/
def skip (batch : Batch) (className : String) (reason : GenerationError) : Batch :=
  { batch with
    statistics := batch.statistics.addWarning (.classSkipped className reason.message) }

/-- Adds a companion and its files. -/
def add (batch : Batch) (source : String) (companion : Companion) : Batch :=
  let files := companion.files source
  { companions := batch.companions ++ [companion]
    files := batch.files ++ files
    statistics :=
      files.foldl Statistics.addFile (batch.statistics.addCompanion companion) }

/-- Generates one binding. The warnings of a class are recorded once all its fields are added. -/
def addBinding (settings : Settings) (source : String) (batch : Batch) (b : Binding) : Batch :=
  match b.assemble settings with
  | .error reason => batch.skip b.className reason
  | .ok assembly =>
    let (warnings, assembly) := assembly.takeWarnings
    let batch := { batch with statistics := batch.statistics.addWarnings warnings }
    match assembly.generate with
    | .error reason => batch.skip b.className reason
    | .ok companion => batch.add source companion

/-- Generates every class of a manifest; `source` is only named in the files. -/
def generate (settings : Settings) (source : String) (m : Manifest) : Batch :=
  let (bindings, warnings) := m.bind
  bindings.foldl (addBinding settings source)
    { statistics := ({} : Statistics).addWarnings warnings }

/-- Records what came of writing one file. -/
def recordWrite (s : Statistics) (f : SourceFile) : Except String Unit → Statistics
  | .ok () => s.addWritten
  | .error reason => s.addWarning (.emissionFailed f.pathText reason)

/-- Writes files in order; a failure does not stop the others. -/
def emit {m : Type → Type} [Monad m] (write : SourceFile → m (Except String Unit))
    (files : List SourceFile) (s : Statistics) : m Statistics :=
  files.foldlM (fun s f => do return recordWrite s f (← write f)) s

end Batch

end Companions
