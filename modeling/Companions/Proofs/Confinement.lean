import Companions.Proofs.Paths
import Companions.Proofs.Placement

/-!
Why output stays below its root.

The name of a screen can be read as that of a class, and so can the name of its companion
(`ClassName.Segmented.companion`): the packages and the class in it are identifiers, and no
character of an identifier parts a path or ends it (`Component.of_letters`). So the path of a file
is made up of components, one for each package and one for the file
(`SourceFile.component_of_mem_path`), and its text goes through these and nothing else
(`SourceFile.steps_pathText`). From there it is a matter of paths alone: whatever root the text is
joined to, it leads further in. Since the packages and the class can be read back from the
components, so can the class and the language from the text (`SourceFile.pathText_eq_iff`).
`Batch.generate_confines` says so of all files of all runs.
-/

namespace Companions

open Console (Component FileTree Place arrival steps)

/-! ### Identifiers as components -/

/-- Letters of identifiers and dots make a component, unless they are a step of another kind. -/
theorem Console.Component.of_letters {step : String}
    (letters : ∀ c ∈ step.toList, ClassName.isSegmentPart c = true ∨ c = '.')
    (ne_empty : step ≠ "") (ne_stay : step ≠ ".") (ne_back : step ≠ "..") : Component step where
  ne_empty := ne_empty
  ne_stay := ne_stay
  ne_back := ne_back
  slash_not_mem inside := absurd (letters _ inside) (by decide)
  backslash_not_mem inside := absurd (letters _ inside) (by decide)
  nul_not_mem inside := absurd (letters _ inside) (by decide)

namespace ClassName

theorem Identifier.component {name : String} (identifier : Identifier name.toList) :
    Component name := by
  have dotless := identifier.dot_not_mem
  refine .of_letters (fun c hc => Or.inl (identifier.isSegmentPart hc)) ?_ ?_ ?_ <;> rintro rfl
  · exact identifier.ne_nil rfl
  · exact dotless (by decide)
  · exact dotless (by decide)

theorem Identifier.append {text more : List Char} (identifier : Identifier text)
    (further : ∀ c ∈ more, ClassName.isSegmentPart c = true) : Identifier (text ++ more) := by
  obtain ⟨first, rest, rfl, start, parts⟩ := identifier
  exact ⟨first, rest ++ more, rfl, start, List.forall_mem_append.mpr ⟨parts, further⟩⟩

/-- Identifiers with underscores between them are an identifier. -/
theorem identifier_joined {names : List String} (some : names ≠ [])
    (identifiers : ∀ name ∈ names, Identifier name.toList) :
    Identifier (joined "_" names).toList := by
  induction names with
  | nil => exact absurd rfl some
  | cons name rest ih =>
      obtain ⟨first, others⟩ := List.forall_mem_cons.mp identifiers
      cases rest with
      | nil => rwa [joined, String.intercalate_singleton]
      | cons second rest =>
          have joint := ih (List.cons_ne_nil _ _) others
          rw [joined, String.intercalate_cons_cons, String.toList_append, String.toList_append,
            List.append_assoc]
          refine first.append (List.forall_mem_append.mpr ⟨?_, fun c hc => joint.isSegmentPart hc⟩)
          exact List.all_eq_true.mp (by decide)

namespace Segmented

variable {c : ClassName} {before rest : List (List Char)} {segment : List Char}

/-- A class that is not nested has one simple name. -/
theorem simpleNames_eq (made : Segmented c before segment []) : c.simpleNames = [c.simpleName] := by
  rw [made.eq]
  rfl

/-- The class beside a screen that can be read can be read as well. -/
theorem companion {t : Target} (made : Segmented t.cls before segment rest) :
    Segmented t.companion before t.companion.outer.toList [] where
  identifiers part hpart := by
    rcases List.mem_append.mp hpart with package | outer
    · exact made.identifiers part (List.mem_append_left _ package)
    · rw [List.mem_singleton.mp outer, Target.companion, String.toList_append]
      exact (identifier_joined (List.cons_ne_nil _ _) made.identifier_of_mem_simpleNames).append
        (List.all_eq_true.mp (by decide))
  lower := made.lower
  capital := Or.inr rfl
  eq := by
    have package : t.cls.package = joined "." (before.map String.ofList) := by rw [made.eq]
    rw [String.ofList_toList, ← package]
    rfl

end Segmented

end ClassName

/-! ### Files -/

namespace SourceFile

variable {f g : SourceFile} {before before' : List (List Char)} {segment segment' : List Char}

/-- The language ends in a letter, so that a file name is neither a stay nor a way back. -/
theorem component_fileName {name : String} (identifier : ClassName.Identifier name.toList)
    (d : Dialect) : Component (name ++ "." ++ d.extension) := by
  have last : ∀ text : String, name ++ "." ++ d.extension = text →
      text.toList.getLast? = some 'a' ∨ text.toList.getLast? = some 't' := by
    rintro _ rfl
    cases d <;> simp [Dialect.extension]
  have extension : ∀ c ∈ d.extension.toList, ClassName.isSegmentPart c = true :=
    List.all_eq_true.mp (by cases d <;> decide)
  refine .of_letters (fun c hc => ?_) ?_ ?_ ?_
  · rw [String.toList_append, String.toList_append, List.mem_append, List.mem_append] at hc
    rcases hc with (inside | dot) | behind
    · exact Or.inl (identifier.isSegmentPart inside)
    · exact Or.inr (List.mem_singleton.mp dot)
    · exact Or.inl (extension c behind)
  all_goals exact fun same => absurd (last _ same) (by decide)

theorem path_eq (made : f.cls.Segmented before segment []) :
    f.path = before.map String.ofList ++ [f.cls.simpleName ++ "." ++ f.dialect.extension] := by
  rw [path, made.packageParts_eq]

theorem component_of_mem_path (made : f.cls.Segmented before segment []) :
    ∀ step ∈ f.path, Component step := by
  intro step hstep
  rw [path_eq made] at hstep
  rcases List.mem_append.mp hstep with package | file
  · obtain ⟨part, hpart, rfl⟩ := List.mem_map.mp package
    refine ClassName.Identifier.component ?_
    rw [String.toList_ofList]
    exact made.identifiers part (List.mem_append_left _ hpart)
  · rw [List.mem_singleton.mp file]
    exact component_fileName (made.identifier_of_mem_simpleNames _ List.getLastD_mem_cons) _

theorem path_ne_nil : f.path ≠ [] :=
  List.append_ne_nil_of_right_ne_nil _ (List.cons_ne_nil _ _)

theorem pathText_eq (made : f.cls.Segmented before segment []) :
    f.pathText = joined "/" f.path := by
  have components := component_of_mem_path made
  have relative := Console.startsWith_slash_joined components
  rw [pathText, Console.foldl_below path_ne_nil components, Console.below_eq relative]
  exact String.empty_append

/-- The steps of the text are those of the path. -/
theorem steps_pathText (made : f.cls.Segmented before segment []) : steps f.pathText = f.path := by
  rw [pathText_eq made]
  exact Console.steps_joined path_ne_nil fun step hstep =>
    (component_of_mem_path made step hstep).slash_not_mem

theorem below_pathText (made : f.cls.Segmented before segment []) (root : String) :
    below root f.pathText = f.path.foldl below root := by
  rw [pathText_eq made, Console.foldl_below path_ne_nil (component_of_mem_path made)]

/-- **The path of a file tells its class and its language.** -/
theorem pathText_eq_iff (made : f.cls.Segmented before segment [])
    (made' : g.cls.Segmented before' segment' []) :
    f.pathText = g.pathText ↔ f.cls = g.cls ∧ f.dialect = g.dialect := by
  have paths : f.pathText = g.pathText ↔ f.path = g.path :=
    ⟨fun same => by rw [← steps_pathText made, same, steps_pathText made'],
      fun same => by rw [pathText, pathText, same]⟩
  rw [paths, path_eq_iff, ← and_assoc]
  refine and_congr_left fun _ => ⟨fun ⟨packages, names⟩ => ?_, fun same => by rw [same]; simp⟩
  refine ClassName.eq_of_simpleNames_eq (made.package_eq made' packages) ?_
  rw [made.simpleNames_eq, made'.simpleNames_eq, names]

end SourceFile

namespace Batch

variable {settings : Settings} {source : String} {m : Manifest}

/-- The class of a file is that of a companion, and it can be read. -/
theorem exists_segmented_of_mem_files {f : SourceFile}
    (member : f ∈ (generate settings source m).files) :
    (∃ c ∈ (generate settings source m).companions, f.cls = c.name) ∧
      ∃ before segment, f.cls.Segmented before segment [] := by
  rw [files_generate] at member
  obtain ⟨c, hc, hf⟩ := List.mem_flatMap.mp member
  obtain ⟨e, -, target, _, a, converted, reached, generated⟩ := exists_reached_of_mem hc
  obtain ⟨before, _, _, made⟩ :=
    ClassName.segmented_of_parse (TargetEntry.parse_of_toTarget converted)
  have cls := Companion.cls_of_mem_files hf
  refine ⟨⟨c, hc, cls⟩, before, target.companion.outer.toList, ?_⟩
  rw [cls, reached.name_of_generate generated]
  exact made.companion

/-- **Output stays below its root.** A file of a run has the class of a companion. The path to it
goes through one directory for each segment of the package and ends in the name of the class with
the ending of the language; these are what stands between the slashes of its text, and every one is
a component. Whatever root the path is joined to, at once or step by step, and wherever that root
leads, each step leads one entry further in, and a tree of files has the place nowhere else. The
text of the path tells the class and the language, even among the files of all runs. -/
theorem generate_confines (settings : Settings) (source : String) (m : Manifest) :
    ∀ f ∈ (generate settings source m).files,
      (∃ c ∈ (generate settings source m).companions, f.cls = c.name) ∧
      (∃ package : List String, f.cls.package = joined "." package ∧
        (∀ segment ∈ package, ClassName.Identifier segment.toList) ∧
        f.path = package
          ++ [f.cls.simpleName ++ if f.dialect = .java then ".java" else ".kt"]) ∧
      steps f.pathText = f.path ∧
      (∀ step ∈ f.path, Component step) ∧
      (∀ root : String, below root f.pathText = f.path.foldl below root ∧
        ∀ home way, way <+: f.path →
          arrival home (way.foldl below root) = arrival home root ++ way) ∧
      (∀ (tree : FileTree) (root : String) (place : Place),
        tree.resolve (below root f.pathText) = .ok place →
          place.names = arrival tree.home root ++ f.path) ∧
      ∀ settings' source' m', ∀ g ∈ (generate settings' source' m').files,
        f.pathText = g.pathText ↔ f.cls = g.cls ∧ f.dialect = g.dialect := by
  intro f hf
  obtain ⟨owned, before, segment, made⟩ := exists_segmented_of_mem_files hf
  have components := SourceFile.component_of_mem_path made
  have leads : ∀ root home way, way <+: f.path →
      arrival home (way.foldl below root) = arrival home root ++ way := fun root home way part =>
    Console.arrival_foldl_below fun step hstep => components step (part.subset hstep)
  refine ⟨owned, ⟨before.map String.ofList, ?_, ?_, ?_⟩, SourceFile.steps_pathText made, components,
    fun root => ⟨SourceFile.below_pathText made root, leads root⟩, ?_, ?_⟩
  · rw [made.eq]
  · refine List.forall_mem_map.mpr fun part hpart => ?_
    rw [String.toList_ofList]
    exact made.identifiers part (List.mem_append_left _ hpart)
  · rw [SourceFile.path_eq made]
    cases f.dialect <;> simp [Dialect.extension, String.append_assoc]
  · intro tree root place resolved
    rw [FileTree.names_of_resolve resolved, SourceFile.below_pathText made]
    exact leads root tree.home f.path List.prefix_rfl
  · intro settings' source' m' g hg
    obtain ⟨-, _, _, made'⟩ := exists_segmented_of_mem_files hg
    exact SourceFile.pathText_eq_iff made made'

/-- A page inside a desk, in Kotlin too, and a note without a package. -/
def desk : Manifest :=
  { targets := [
      { kind := .activity, qualifiedName := "com.example.Desk.Page", kotlinSource := true },
      { kind := .fragment, qualifiedName := "Note" }] }

/-- The package of the page is put beside the directory of the run and the note inside it, each
where its root is. -/
theorem generate_confines_desk :
    ∃ page ∈ (generate {} "desk.json" desk).files, ∃ note ∈ (generate {} "desk.json" desk).files,
      page.path = ["com", "example", "Desk_PageBuilder.kt"] ∧ note.path = ["NoteBuilder.java"] ∧
      ["com", "example"] <+: page.path ∧
      arrival ["tmp", "run"] (["com", "example"].foldl below "../out/")
        = ["tmp", "out", "com", "example"] ∧
      (∃ place, FileTree.resolve {} (below "." note.pathText) = .ok place ∧
        place.names = ["tmp", "run", "NoteBuilder.java"]) ∧
      ¬(page.cls = note.cls ∧ page.dialect = note.dialect) := by
  have paths : (generate {} "desk.json" desk).files.map SourceFile.path
      = [["com", "example", "Desk_PageBuilder.java"], ["com", "example", "Desk_PageBuilder.kt"],
        ["NoteBuilder.java"]] := by decide +kernel
  obtain ⟨page, hpage, pagePath⟩ := List.mem_map.mp
    (show ["com", "example", "Desk_PageBuilder.kt"] ∈ _ by rw [paths]; decide)
  obtain ⟨note, hnote, notePath⟩ := List.mem_map.mp
    (show ["NoteBuilder.java"] ∈ _ by rw [paths]; decide)
  obtain ⟨-, -, -, -, joins, -, tells⟩ := generate_confines {} "desk.json" desk page hpage
  obtain ⟨-, -, -, -, -, placed, -⟩ := generate_confines {} "desk.json" desk note hnote
  have part : ["com", "example"] <+: page.path := by
    rw [pagePath]
    exact ⟨["Desk_PageBuilder.kt"], rfl⟩
  have pageText : page.pathText = "com/example/Desk_PageBuilder.kt" := by
    rw [SourceFile.pathText, pagePath]
    decide +kernel
  have noteText : note.pathText = "NoteBuilder.java" := by
    rw [SourceFile.pathText, notePath]
    decide +kernel
  have found : (FileTree.resolve {} (below "." "NoteBuilder.java")).toOption.isSome := by
    decide +kernel
  obtain ⟨place, resolved⟩ :
      ∃ place, FileTree.resolve {} (below "." note.pathText) = .ok place := by
    rw [noteText]
    cases outcome : FileTree.resolve {} (below "." "NoteBuilder.java") with
    | error reason => simp [outcome, Except.toOption] at found
    | ok place => exact ⟨place, rfl⟩
  refine ⟨page, hpage, note, hnote, pagePath, notePath, part, ?_, ⟨place, resolved, ?_⟩, ?_⟩
  · rw [(joins "../out/").2 ["tmp", "run"] _ part]
    decide +kernel
  · rw [placed {} "." place resolved, notePath]
    decide +kernel
  · rw [← tells {} "desk.json" desk note hnote, pageText, noteText]
    decide

end Batch

end Companions
