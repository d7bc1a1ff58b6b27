import Companions.Proofs.Isolation
import Mathlib.Logic.Function.Basic

/-!
Where the files of a run are put.

The path of a file tells the package of its class, the class and the language
(`SourceFile.path_eq_iff`), and the directories of a package tell the package
(`ClassName.Segmented.package_eq`). So two files of a run meet in one place exactly when their
companions have one name. A companion is named after its screen, with the simple names of the screen
joined by underscores, and this is where a name can be lost: `Outer.Inner` and `Outer_Inner` join to
the same text. It takes both a nested class and an underscore in a simple name
(`ClassName.nested_of_joined_eq`). `Batch.generate_places` puts this together for a whole run, and
says that a run whose files do not meet can be written without losing one of them.
-/

namespace Companions

/-! ### Paths -/

namespace SourceFile

/-- The language shows in the last letter of a file name, and the class in all before the dot. -/
theorem fileName_inj {name name' : String} {d d' : Dialect}
    (same : name ++ "." ++ d.extension = name' ++ "." ++ d'.extension) :
    name = name' ∧ d = d' := by
  have language : d = d' := by
    have letters := congrArg (fun text : String => text.toList.getLast?) same
    cases d <;> cases d' <;> simp [Dialect.extension] at letters ⊢
  subst language
  rw [String.append_left_inj, String.append_left_inj] at same
  exact ⟨same, rfl⟩

theorem path_eq_iff {f g : SourceFile} :
    f.path = g.path ↔ packageParts f.cls.package = packageParts g.cls.package ∧
      f.cls.simpleName = g.cls.simpleName ∧ f.dialect = g.dialect := by
  constructor
  · intro same
    obtain ⟨packages, names⟩ := List.append_inj' same rfl
    obtain ⟨name, language⟩ := fileName_inj (List.singleton_inj.mp names)
    exact ⟨packages, name, language⟩
  · rintro ⟨packages, name, language⟩
    rw [path, path, packages, name, language]

end SourceFile

namespace ClassName.Segmented

variable {c d : ClassName} {before before' rest rest' : List (List Char)}
  {segment segment' : List Char}

/-- There is one directory for every segment of the package. -/
theorem packageParts_eq (made : Segmented c before segment rest) :
    SourceFile.packageParts c.package = before.map String.ofList := by
  have package : c.package = joined "." (before.map String.ofList) := by rw [made.eq]
  rw [package]
  cases before with
  | nil => rfl
  | cons first more =>
      have identifiers : ∀ part ∈ first :: more, Identifier part :=
        fun part hpart => made.identifiers part (List.mem_append_left _ hpart)
      rw [SourceFile.packageParts, segments_joined (List.cons_ne_nil _ _) identifiers,
        List.filter_eq_self.mpr fun part hpart => by simpa using (identifiers part hpart).ne_nil]

/-- The package can be read back from the directories. -/
theorem package_eq (made : Segmented c before segment rest)
    (made' : Segmented d before' segment' rest')
    (same : SourceFile.packageParts c.package = SourceFile.packageParts d.package) :
    c.package = d.package := by
  rw [made.packageParts_eq, made'.packageParts_eq] at same
  rw [made.eq, made'.eq, same]

end ClassName.Segmented

/-! ### Names of companions -/

/-- Names without underscores can be read back from what they make with underscores between
them. -/
theorem joined_underscore_inj {names names' : List String}
    (plain : ∀ name ∈ names, '_' ∉ name.toList) (plain' : ∀ name ∈ names', '_' ∉ name.toList)
    (some : names ≠ []) (some' : names' ≠ []) (same : joined "_" names = joined "_" names') :
    names = names' := by
  have texts := congrArg String.toList same
  simp only [joined, String.toList_intercalate] at texts
  have pieces := congrArg (List.splitOn '_') texts
  rw [show "_".toList = ['_'] from rfl,
    List.splitOn_intercalate '_' (by simpa using plain) (by simpa using some),
    List.splitOn_intercalate '_' (by simpa using plain') (by simpa using some')] at pieces
  exact List.map_injective_iff.mpr (fun _ _ => String.toList_inj.mp) pieces

namespace ClassName

variable {c d : ClassName}

/-- Whether an underscore stands in one of the simple names. -/
def hasUnderscore (c : ClassName) : Bool :=
  c.simpleNames.any fun name => name.toList.contains '_'

theorem eq_of_simpleNames_eq (package : c.package = d.package)
    (names : c.simpleNames = d.simpleNames) : c = d := by
  obtain ⟨outer, inner⟩ := List.cons.inj names
  cases c
  cases d
  simp_all

/-- Two classes of one package whose simple names join to one text are the same class, unless one of
them is nested and one of them has an underscore. -/
theorem nested_of_joined_eq (other : c ≠ d) (package : c.package = d.package)
    (same : joined "_" c.simpleNames = joined "_" d.simpleNames) :
    (c.isNested = true ∨ d.isNested = true) ∧
      (c.hasUnderscore = true ∨ d.hasUnderscore = true) := by
  have apart : c.simpleNames ≠ d.simpleNames := fun names =>
    other (eq_of_simpleNames_eq package names)
  constructor
  · by_contra flat
    simp only [isNested, Bool.not_eq_true', List.isEmpty_eq_false_iff, not_or, not_not] at flat
    simp only [simpleNames, flat, joined, String.intercalate_singleton] at same apart
    exact apart (congrArg (fun name => [name]) same)
  · by_contra plain
    simp only [hasUnderscore, List.any_eq_true, List.contains_iff_mem, not_or, not_exists,
      not_and] at plain
    exact apart (joined_underscore_inj plain.1 plain.2 (List.cons_ne_nil _ _)
      (List.cons_ne_nil _ _) same)

end ClassName

theorem Target.companion_eq_iff {t t' : Target} :
    t.companion = t'.companion ↔ t.cls.package = t'.cls.package ∧
      joined "_" t.cls.simpleNames = joined "_" t'.cls.simpleNames := by
  simp [companion, String.append_left_inj]

/-! ### Files of one companion -/

namespace Companion

variable {source : String} {c : Companion} {f : SourceFile}

theorem cls_of_mem_files (member : f ∈ c.files source) : f.cls = c.name := by
  unfold files at member
  split at member <;> simp only [List.mem_cons, List.not_mem_nil, or_false] at member
  · rcases member with rfl | rfl <;> rfl
  · rw [member]

/-- The Java file is always there. -/
theorem exists_java_file (source : String) (c : Companion) :
    ∃ f ∈ c.files source, f.dialect = .java :=
  ⟨_, List.mem_cons_self, rfl⟩

/-- The files of a companion differ in their languages. -/
theorem files_pairwise (source : String) (c : Companion) :
    (c.files source).Pairwise fun f g => f.path ≠ g.path := by
  have languages : (c.files source).Pairwise fun f g => f.dialect ≠ g.dialect := by
    unfold files
    split <;> simp
  exact languages.imp fun apart same => apart (SourceFile.path_eq_iff.mp same).2.2

end Companion

/-! ### Directories -/

/-- What is found at each path below the root of the output. -/
abbrev Directory := List String → Option String

namespace Directory

/-- The directory with a file at its path, in place of what was there. -/
def put (dir : Directory) (f : SourceFile) : Directory :=
  Function.update dir f.path (some f.contents)

/-- Writes a file. -/
def write (f : SourceFile) : StateM Directory (Except String Unit) := do
  modify (·.put f)
  return .ok ()

theorem put_self {dir : Directory} {f : SourceFile} : dir.put f f.path = some f.contents :=
  Function.update_self ..

theorem put_of_ne {dir : Directory} {f : SourceFile} {path : List String} (other : path ≠ f.path) :
    dir.put f path = dir path :=
  Function.update_of_ne other ..

/-- Files that are put elsewhere leave what is at a path. -/
theorem foldl_put_of_not_mem {files : List SourceFile} {dir : Directory} {path : List String}
    (elsewhere : path ∉ files.map SourceFile.path) : files.foldl put dir path = dir path := by
  induction files generalizing dir with
  | nil => rfl
  | cons f rest ih =>
      obtain ⟨other, elsewhere⟩ := not_or.mp (mt List.mem_cons.mpr elsewhere)
      rw [List.foldl_cons, ih elsewhere, put_of_ne other]

/-- Files with paths of their own are all found again. -/
theorem foldl_put_of_mem {files : List SourceFile} {dir : Directory} {f : SourceFile}
    (distinct : (files.map SourceFile.path).Nodup) (member : f ∈ files) :
    files.foldl put dir f.path = some f.contents := by
  induction files generalizing dir with
  | nil => exact absurd member List.not_mem_nil
  | cons g rest ih =>
      obtain ⟨fresh, distinct⟩ := List.nodup_cons.mp distinct
      rw [List.foldl_cons]
      rcases List.mem_cons.mp member with rfl | member
      · rw [foldl_put_of_not_mem fresh, put_self]
      · exact ih distinct member

/-- Writing files puts one after the other into the directory. -/
theorem emit_write (files : List SourceFile) (s : Statistics) (dir : Directory) :
    (Batch.emit write files s).run dir
      = (files.foldl (fun s _ => s.addWritten) s, files.foldl put dir) := by
  induction files generalizing s dir with
  | nil => rfl
  | cons f rest ih => exact ih s.addWritten (dir.put f)

end Directory

/-! ### The whole run -/

namespace Batch

variable {settings : Settings} {source : String} {m : Manifest} {c d : Companion}

/-- The name of a companion in a run tells the screen but for how its simple names were joined. -/
theorem name_eq_iff_of_mem (hc : c ∈ (generate settings source m).companions)
    (hd : d ∈ (generate settings source m).companions) :
    c.name = d.name ↔ c.target.package = d.target.package ∧
      joined "_" c.target.simpleNames = joined "_" d.target.simpleNames := by
  obtain ⟨-, -, t, _, a, -, reached, generated⟩ := exists_reached_of_mem hc
  obtain ⟨-, -, t', _, a', -, reached', generated'⟩ := exists_reached_of_mem hd
  rw [reached.name_of_generate generated, reached'.name_of_generate generated',
    reached.target_of_generate generated, reached'.target_of_generate generated']
  exact Target.companion_eq_iff

/-- Two companions of a run have a file in the same place exactly when they have one name. -/
theorem exists_path_eq_iff (hc : c ∈ (generate settings source m).companions)
    (hd : d ∈ (generate settings source m).companions) :
    (∃ f ∈ c.files source, ∃ g ∈ d.files source, f.path = g.path) ↔ c.name = d.name := by
  obtain ⟨e, -, t, _, a, converted, reached, generated⟩ := exists_reached_of_mem hc
  obtain ⟨e', -, t', _, a', converted', reached', generated'⟩ := exists_reached_of_mem hd
  obtain ⟨_, _, _, made⟩ := ClassName.segmented_of_parse (TargetEntry.parse_of_toTarget converted)
  obtain ⟨_, _, _, made'⟩ :=
    ClassName.segmented_of_parse (TargetEntry.parse_of_toTarget converted')
  have name := reached.name_of_generate generated
  have name' := reached'.name_of_generate generated'
  constructor
  · rintro ⟨f, hf, g, hg, same⟩
    obtain ⟨packages, simple, -⟩ := SourceFile.path_eq_iff.mp same
    rw [Companion.cls_of_mem_files hf, Companion.cls_of_mem_files hg, name, name']
      at packages simple
    rw [name, name']
    exact congrArg₂ (fun package outer => (⟨package, outer, []⟩ : ClassName))
      (made.package_eq made' packages) simple
  · intro same
    obtain ⟨f, hf, java⟩ := c.exists_java_file source
    obtain ⟨g, hg, java'⟩ := d.exists_java_file source
    refine ⟨f, hf, g, hg, SourceFile.path_eq_iff.mpr ?_⟩
    rw [Companion.cls_of_mem_files hf, Companion.cls_of_mem_files hg, same, java, java']
    exact ⟨rfl, rfl, rfl⟩

/-- The files of a run have paths of their own exactly when its companions have names of their
own. -/
theorem paths_nodup_iff :
    ((generate settings source m).files.map SourceFile.path).Nodup
      ↔ ((generate settings source m).companions.map (·.name)).Nodup := by
  rw [files_generate, List.Nodup, List.Nodup, List.pairwise_map, List.pairwise_map,
    List.pairwise_flatMap]
  refine (and_iff_right fun c _ => c.files_pairwise source).trans
    (List.Pairwise.iff_of_mem fun hc hd => ?_)
  rw [ne_eq, ← exists_path_eq_iff hc hd]
  simp

/-- **Where the files of a run meet.** The screens of a run are different classes, but their
companions need not be. Two files have one path exactly when two companions have one name, which is
when the screens are of one package and their simple names join to one text; one of them is nested
then, and one has an underscore in a simple name. As long as no two files meet, a run can be written
in its order, over whatever there was, and every file is found afterwards. -/
theorem generate_places (settings : Settings) (source : String) (m : Manifest) :
    let batch := generate settings source m
    ((batch.files.map SourceFile.path).Nodup ↔ (batch.companions.map (·.name)).Nodup) ∧
      (batch.companions.Pairwise fun c d => c.target ≠ d.target ∧
        (c.name = d.name ↔ c.target.package = d.target.package ∧
          joined "_" c.target.simpleNames = joined "_" d.target.simpleNames) ∧
        (c.name = d.name → (c.target.isNested = true ∨ d.target.isNested = true) ∧
          (c.target.hasUnderscore = true ∨ d.target.hasUnderscore = true))) ∧
      ((batch.files.map SourceFile.path).Nodup → ∀ (s : Statistics) (dir : Directory),
        ∀ f ∈ batch.files,
          ((emit Directory.write batch.files s).run dir).2 f.path = some f.contents) := by
  intro batch
  refine ⟨paths_nodup_iff, pairwise_companions.imp_of_mem fun hc hd before => ?_,
    fun distinct s dir f hf => ?_⟩
  · have other : ∀ {c d : Companion}, (m.targets.map (·.qualifiedName)).idxOf c.target.canonical
        < (m.targets.map (·.qualifiedName)).idxOf d.target.canonical → c.target ≠ d.target :=
      fun before same => absurd before (by rw [same]; exact lt_irrefl _)
    refine ⟨other before, name_eq_iff_of_mem hc hd, fun same => ?_⟩
    obtain ⟨package, joins⟩ := (name_eq_iff_of_mem hc hd).mp same
    exact ClassName.nested_of_joined_eq (other before) package joins
  · rw [Directory.emit_write]
    exact Directory.foldl_put_of_mem distinct hf

/-- A page inside an editor, and an editor page beside it. -/
def namesakes : Manifest :=
  { targets := [
      { kind := .activity, qualifiedName := "com.example.Editor.Page" },
      { kind := .activity, qualifiedName := "com.example.Editor_Page" }] }

/-- Both pages get a companion, and the second is put where the first was. -/
theorem paths_namesakes :
    let batch := generate {} "pages.json" namesakes
    batch.companions.map (·.target.canonical)
        = ["com.example.Editor.Page", "com.example.Editor_Page"] ∧
      batch.files.map SourceFile.path
        = List.replicate 2 ["com", "example", "Editor_PageBuilder.java"] ∧
      ¬ (batch.files.map SourceFile.path).Nodup := by
  decide +kernel

end Batch

end Companions
