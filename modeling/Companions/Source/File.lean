import Companions.Source.Java
import Companions.Source.Kotlin

/-!
The files of a companion: always a Java class, and a Kotlin file if Kotlin is selected. A file is
found below the output root by the package of its class.
-/

namespace Companions

/-- The language of a file. -/
inductive Dialect where
  | java
  | kotlin
deriving Repr, DecidableEq, Inhabited

namespace Dialect

/-- The language as listings show it. -/
def name : Dialect → String
  | java => "java"
  | kotlin => "kotlin"

/-- What follows the last dot of a file name. -/
def extension : Dialect → String
  | java => "java"
  | kotlin => "kt"

end Dialect

/-- The path of what a step leads to from another path. A step from the root leaves that path
behind. -/
def below (path step : String) : String :=
  if step.startsWith "/" then step
  else if path.isEmpty || path.endsWith "/" then path ++ step
  else path ++ "/" ++ step

/-- A file of source text. -/
structure SourceFile where
  cls : ClassName
  dialect : Dialect
  contents : String
deriving Repr, DecidableEq

namespace SourceFile

/-- The directories that a package stands for. -/
def packageParts (package : String) : List String :=
  ((ClassName.segments package.toList).filter fun part => !part.isEmpty).map String.ofList

/-- The steps from the output root to the file. -/
def path (f : SourceFile) : List String :=
  packageParts f.cls.package ++ [f.cls.simpleName ++ "." ++ f.dialect.extension]

/-- The path as text. -/
def pathText (f : SourceFile) : String :=
  f.path.foldl below ""

end SourceFile

/-- The comment at the top of every file, naming where its declarations came from. -/
def fileHeader (source : String) : String :=
  "// AUTO-GENERATED CODE - DO NOT EDIT!\n// Source: " ++ source
    ++ "\n// Generated by `companion-gen`\n"

/-- The files of a companion. -/
def Companion.files (c : Companion) (source : String) : List SourceFile :=
  ⟨c.name, .java, Java.render c (fileHeader source)⟩
    :: if c.dialects.kotlin then [⟨c.name, .kotlin, Kotlin.render c (fileHeader source)⟩] else []

end Companions
