import Companions.Batch
import Companions.Console.Palette

/-!
The lines that a generating run prints: steps with the time of day, statistics, files and warnings.
-/

namespace Companions.Console

namespace Report

variable (p : Palette)

/-- A step of the run. -/
def step (accent : Accent) (time message : String) : String :=
  p.paint .timestamp time ++ " " ++ p.paint accent message

/-- One line of the statistics. -/
def stat (label value : String) : String :=
  "            " ++ p.paint .statLabel label ++ " " ++ p.paint .statValue value

/-- The statistics of a run. Counts of what is unusual are left out while they are zero. -/
def statistics (s : Statistics) : List String :=
  let nonzero (n : Nat) (label : String) : List String :=
    if n = 0 then [] else [stat p label (toString n)]
  [stat p "Classes generated:" (toString s.classesGenerated),
    stat p "" (toString s.activitiesGenerated ++ " activities"),
    stat p "" (toString s.fragmentsGenerated ++ " fragments")]
    ++ nonzero s.classesSkipped "Classes skipped:"
    ++ [stat p "Start callables:" (toString s.startCallables),
      stat p "" (toString s.windowedVariants ++ " windowed variants")]
    ++ nonzero s.resultContracts "Result contracts:"
    ++ [stat p "Constants:" (toString s.constantsGenerated),
      stat p "Files:" (toString s.javaFiles ++ " java, " ++ toString s.kotlinFiles ++ " kotlin")]
    ++ nonzero s.warnings.length "Warnings:"

/-- The line of a generated file. -/
def file (f : SourceFile) : String :=
  let name := f.dialect.name
  let fill := String.ofList (List.replicate (6 - name.length) ' ')
  "              " ++ p.paint .kind (name ++ fill) ++ " " ++ p.paint .generatedPath f.pathText

/-- The line of a warning. -/
def warning (w : Warning) : String :=
  p.paint (Accent.ofWarning w) (if w.isSkip then "Skipped:" else "Warning:") ++ " "
    ++ p.paint .progress w.text

/-- The warnings that are shown: without `verbose` only what was left out. -/
def shown (verbose : Bool) (warnings : List Warning) : List Warning :=
  warnings.filter fun w => w.isSkip || verbose

end Report

end Companions.Console
