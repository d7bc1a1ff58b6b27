import Companions.Proofs.Finishing
import Companions.Proofs.Source.JavaNames
import Companions.Proofs.Source.KotlinSpelling
import Companions.Proofs.Source.Renaming

/-!
Keywords in a Kotlin file.

Kotlin takes its keywords for names in backticks, and Java takes some of them as they are. Variables
are put into backticks wherever they are written, so the file is that of a companion none of whose
variables is a keyword (`Kotlin.escaped`), and a variable is spelled everywhere as it is declared,
unless it has the name of the receiver. Packages and classes are written as they are. So a file has
a bare keyword in its package clause, in an import or in the spelling of a class exactly if the
package of the runtime library has it, or the name of a class that the screen was declared with
(`Assembly.generate_kotlin_names`).
-/

namespace Companions

open ClassName (packageWords)

/-! ### Words of classes -/

/-- No class of generated code has a keyword of Kotlin in its name, unless the screen brings it. -/
theorem Naming.foreign_of_mem_kotlinKeywords {word : String} (keyword : word ∈ kotlinKeywords) :
    Code.Foreign word :=
  .of_mem (by decide +kernel) keyword

namespace Kotlin

/-- No class that Kotlin has has a keyword in its name. -/
theorem builtin?_eq_none {word : String} (keyword : word ∈ Naming.kotlinKeywords)
    {cls : ClassName} (inside : word ∈ cls.words) : builtin? cls = none := by
  have clear : ∀ b ∈ builtins, ∀ word ∈ (⟨javaLang, b.1, []⟩ : ClassName).words,
      word ∉ Naming.kotlinKeywords := by decide +kernel
  cases own : builtin? cls with
  | none => rfl
  | some name =>
      obtain ⟨listed, eq⟩ := builtin?_eq_some own
      rw [eq] at inside
      exact absurd keyword (clear _ listed word inside)

theorem members_subset (c : Companion) : members c ⊆ c.callables := by
  intro m hm
  rw [Companion.callables, List.append_assoc]
  rw [members, List.mem_append] at hm
  exact List.mem_append.mpr (hm.imp_right (List.mem_append_right _))

/-! ### The package clause -/

theorem has_package_render {c : Companion} (packaged : c.name.package ≠ "") (header : String) :
    Text.Has (render c header) ("package " ++ c.name.package ++ "\n") := by
  have package : (imports c).package = c.name.package := Imports.package_make
  have clause := Imports.has_package_writeTop (package.symm ▸ packaged) header ""
  rw [package, String.append_empty] at clause
  exact grows_writeExtensions.has clause

/-! ### Variables -/

/-- A variable is spelled as it is declared unless it is the receiver. -/
theorem exprText_ident_eq_iff {spell : ClassName → String} {receiver : Option String} {depth : Nat}
    {name : String} :
    exprText spell receiver depth (.ident name) = Naming.kotlinName name
      ↔ receiver ≠ some name := by
  constructor
  · rintro declared rfl
    exact kotlinName_ne_this (declared.symm.trans (exprText_ident_eq_this_iff.mpr rfl))
  · intro other
    rw [exprText, if_neg (mt beq_iff_eq.mp other)]

/-- The companion with the variables of its Kotlin functions in backticks where they are
keywords. -/
def escaped (c : Companion) : Companion :=
  renamed Naming.kotlinName c

/-- No variable of an escaped companion is a keyword. -/
theorem not_mem_of_mem_vars_escaped {c : Companion} {m : Callable} (member : m ∈ members (escaped c))
    {name : String} (used : name ∈ m.vars) : name ∉ Naming.kotlinKeywords := by
  rw [escaped, members_renamed] at member
  obtain ⟨m, -, rfl⟩ := List.mem_map.mp member
  rw [Callable.vars_renamed] at used
  obtain ⟨old, -, rfl⟩ := List.mem_map.mp used
  exact Naming.kotlinName_not_mem old

end Kotlin

namespace Assembly

variable {settings : Settings} {entry : TargetEntry} {target : Target} {fields : List Field}
  {a : Assembly} {c : Companion}

/-- The name of what a callable of the start family is called on. -/
def receiverName : Kind → String
  | .activity => "context"
  | .fragment => "activity"

theorem receiver?_finished {owner : Owner} {contract : Option Contract} {name : String}
    {taken : List Field} :
    (Draft.finished owner contract name taken).receiver?.map (·.name)
      = some (receiverName owner.target.kind) := by
  unfold Draft.finished Callable.receiver? Draft.preambleParameters
  cases owner.target.kind <;> rfl

/-- No argument of the start family has the name of the receiver. -/
theorem name_ne_receiverName {owner : Owner} {contract : Option Contract} {name : String}
    {taken : List Field} (apart : ∀ k ∈ contract, k.listenerName ∉ Naming.reservedBindings) :
    ∀ p ∈ (Draft.finished owner contract name taken).arguments,
      p.name ≠ receiverName owner.target.kind := by
  intro p hp same
  have reserved : p.name ∈ Naming.reservedBindings := by
    rw [same]
    cases owner.target.kind <;> decide
  obtain ⟨given, argument⟩ := List.mem_filter.mp hp
  rcases List.mem_append.mp given with given | listener
  · rcases List.mem_append.mp given with preamble | field
    · have first : ∀ p ∈ Draft.preambleParameters owner.target.kind, (!p.isReceiver) = true →
          p.name ≠ receiverName owner.target.kind := by
        cases owner.target.kind <;> decide
      exact first p preamble argument same
    · obtain ⟨f, -, rfl⟩ := List.mem_map.mp field
      exact Field.name_ne_of_mem_reserved reserved rfl
  · unfold Draft.closingParameters at listener
    cases kind : owner.target.kind with
    | fragment =>
        rw [kind] at listener
        exact absurd listener List.not_mem_nil
    | activity =>
        rw [kind] at listener
        obtain ⟨k, contract, rfl⟩ := List.mem_map.mp listener
        exact apart k (Option.mem_toList.mp contract) reserved

/-- What the functions of a companion are called on is never a keyword. -/
theorem Reached.unseen_kotlinName (reached : Reached settings target fields a)
    (generated : a.generate = .ok c) :
    ∀ m ∈ Kotlin.members c, Kotlin.Unseen Naming.kotlinName (m.receiver?.map (·.name)) := by
  have receivers : ∀ r ∈ ["context", "activity"],
      r ∉ Naming.kotlinKeywords ∧ r.toList.head? ≠ some '\x60' := by decide
  intro m hm
  refine Kotlin.unseen_kotlinName fun r hr => receivers r ?_
  rcases List.mem_append.mp hm with start | finish
  · obtain ⟨name, taken, rfl, -⟩ := reached.exists_finished_of_mem generated start
    rw [receiver?_finished] at hr
    rw [← Option.mem_some.mp hr]
    cases target.kind <;> decide
  · obtain ⟨rfl, -⟩ := generate_eq_ok_iff.mp generated
    rw [companionWith, Option.toList_map] at finish
    obtain ⟨k, -, rfl⟩ := List.mem_map.mp finish
    obtain rfl : "activity" = r := Option.mem_some.mp hr
    decide

/-- **Variables are spelled as they are declared** in all functions, exactly if no value that is
handed back is named like the activity. -/
theorem Reached.spelled_as_declared_iff (reached : Reached settings target fields a)
    (generated : a.generate = .ok c) :
    (∀ m ∈ Kotlin.members c, ∀ p ∈ m.arguments, ∀ spell depth,
      Kotlin.exprText spell (m.receiver?.map (·.name)) depth (.ident p.name)
        = Naming.kotlinName p.name) ↔ ∀ r ∈ target.handedBack, r.name ≠ "activity" := by
  simp only [Kotlin.exprText_ident_eq_iff]
  constructor
  · intro declared r hr
    rw [← reached.results_eq] at hr
    obtain ⟨k, contract, hr⟩ := List.mem_flatMap.mp hr
    have finish := (reached.result_of_generate generated (Option.mem_toList.mp contract)).2
    have member : Result.finishWithResult { target, runtime := settings.runtime } k
        ∈ Kotlin.members c :=
      List.mem_append_right _ (Option.mem_toList.mpr finish)
    have argument : r.name ∈ (Result.finishWithResult { target, runtime := settings.runtime }
        k).arguments.map (·.name) := by
      rw [Result.names_arguments_finishWithResult]
      exact List.mem_map_of_mem hr
    obtain ⟨p, hp, named⟩ := List.mem_map.mp argument
    rintro same
    exact declared _ member p hp (fun _ => "") 0 (by rw [named, same]; rfl)
  · intro apart m hm p hp spell depth
    rcases List.mem_append.mp hm with start | finish
    · obtain ⟨name, taken, rfl, -⟩ := reached.exists_finished_of_mem generated start
      rw [receiver?_finished]
      have other := name_ne_receiverName (fun k contract =>
        Contract.listenerName_not_reserved (reached.make_contract contract).2) p hp
      exact fun same => other (Option.some.inj same).symm
    · obtain ⟨rfl, -⟩ := generate_eq_ok_iff.mp generated
      rw [companionWith, Option.toList_map] at finish
      obtain ⟨k, contract, rfl⟩ := List.mem_map.mp finish
      have value : p.name ∈ k.results.map (·.name) := by
        rw [← Result.names_arguments_finishWithResult]
        exact List.mem_map_of_mem hp
      obtain ⟨r, hr, named⟩ := List.mem_map.mp value
      have handed : r ∈ target.handedBack := by
        rw [← reached.results_eq]
        exact List.mem_flatMap.mpr ⟨k, contract, hr⟩
      intro same
      have activity : "activity" = p.name := Option.some.inj same
      exact apart r handed (named.trans activity.symm)

/-! ### The classes of a Kotlin file -/

/-- A start callable mentions the class that it starts. -/
theorem target_mem_classes_finished {owner : Owner} {contract : Option Contract} {name : String}
    {taken : List Field} :
    owner.target.cls ∈ (Draft.finished owner contract name taken).classes := by
  refine List.mem_append_right _ ?_
  rw [Draft.finished, Statement.classesOf_append, Statement.classesOf_append]
  cases kind : owner.target.kind with
  | activity =>
      refine List.mem_append_left _ (List.mem_append_left _ ?_)
      simp [Draft.preambleBody, kind, Code.declareIntent, Statement.classesOf, Statement.classes,
        Expr.classes, Expr.classesOf]
  | fragment =>
      refine List.mem_append_right _ ?_
      simp [Draft.closingBody, kind, Draft.launchFragment, Statement.classesOf, Statement.classes,
        Statement.classesOf_append, Expr.classes, Expr.classesOf]

/-- A start callable mentions the class of the runtime library that it calls first. -/
theorem activityBuilder_mem_classes_finished {owner : Owner} {contract : Option Contract}
    {name : String} {taken : List Field} :
    owner.runtime.activityBuilder ∈ (Draft.finished owner contract name taken).classes := by
  refine List.mem_append_right _ ?_
  rw [Draft.finished, Statement.classesOf_append, Statement.classesOf_append]
  refine List.mem_append_left _ (List.mem_append_left _ ?_)
  cases kind : owner.target.kind <;>
    simp [Draft.preambleBody, kind, Draft.onActivityBuilder, Statement.classesOf,
      Statement.classes, Expr.classes]

/-- The functions of a Kotlin file mention every class that the screen was declared with, and the
runtime library. -/
theorem Reached.mem_classes_kotlin (reached : Reached settings target fields a)
    (generated : a.generate = .ok c) :
    settings.runtime.activityBuilder ∈ Kotlin.classes c ∧
      ∀ d ∈ target.declaredClasses fields, d ∈ Kotlin.classes c := by
  have full : c.full = a.member (a.kind.fullName, a.optional.toList) := by
    obtain ⟨rfl, -⟩ := generate_eq_ok_iff.mp generated
    rfl
  have written {m : Callable} (hm : m ∈ Kotlin.members c) {cls : ClassName}
      (h : cls ∈ m.classes) : cls ∈ Kotlin.classes c :=
    List.mem_append_left _ (List.mem_flatMap.mpr ⟨m, hm, h⟩)
  have started {cls : ClassName} (h : cls ∈ c.full.classes) : cls ∈ Kotlin.classes c :=
    written (List.mem_append_left _ List.mem_cons_self) h
  rw [full, member, reached.owner_eq] at started
  refine ⟨started activityBuilder_mem_classes_finished, fun d declared => ?_⟩
  rcases Target.mem_declaredClasses_iff.mp declared with rfl | ⟨f, hf, inside⟩ | ⟨r, hr, inside⟩
  · exact started target_mem_classes_finished
  · refine started (List.mem_append_left _ (mem_parameterClasses_iff.mpr
      ⟨Draft.fieldParameter f, ?_, inside⟩))
    refine List.mem_append_left _ (List.mem_append_right _ (List.mem_map_of_mem ?_))
    exact reached.mem_fields_iff.mpr hf
  · rw [← reached.results_eq] at hr
    obtain ⟨k, contract, hr⟩ := List.mem_flatMap.mp hr
    have finish := (reached.result_of_generate generated (Option.mem_toList.mp contract)).2
    refine written (List.mem_append_right _ (Option.mem_toList.mpr finish))
      (List.mem_append_left _ (mem_parameterClasses_iff.mpr
        ⟨{ name := r.name, type := r.type }, ?_, inside⟩))
    exact List.mem_cons_of_mem _ (List.mem_map_of_mem (f := fun r : ResultValue =>
      ({ name := r.name, type := r.type } : Parameter)) hr)

/-- **The words of a Kotlin file.** A keyword is written in a package or class name exactly if the
package of the runtime library has it, or a class that the screen was declared with. -/
theorem Reached.mem_words_kotlin_iff (accepted : entry.toTarget = .ok target)
    (reached : Reached settings target fields a) (generated : a.generate = .ok c) {word : String}
    (keyword : word ∈ Naming.kotlinKeywords) :
    word ∈ (Kotlin.imports c).words (Kotlin.mentioned c)
      ↔ word ∈ packageWords settings.runtime.package ∨
        ∃ d ∈ target.declaredClasses fields, word ∈ d.words := by
  have foreign := Naming.foreign_of_mem_kotlinKeywords keyword
  obtain ⟨_, _, _, named⟩ := ClassName.segmented_of_parse (TargetEntry.parse_of_toTarget accepted)
  have delegates : ∀ d ∈ c.delegates, d.receiver ∈ Platform.classes := by
    obtain ⟨rfl, -⟩ := generate_eq_ok_iff.mp generated
    simp only [companionWith, Assembly.delegates]
    split
    · decide
    · exact fun _ none => absurd none List.not_mem_nil
  obtain ⟨library, declared⟩ := reached.mem_classes_kotlin generated
  rw [Kotlin.imports, Imports.mem_words_make_iff rfl foreign.not_mem_javaLang]
  constructor
  · rintro (clause | ⟨cls, mentioned, inside⟩)
    · exact Or.inr (reached.exists_of_mem_package generated clause)
    · rcases List.mem_append.mp (Kotlin.mem_mentioned_iff.mp mentioned).1 with used | receiver
      · obtain ⟨m, hm, inCallable⟩ := List.mem_flatMap.mp used
        exact reached.borrows generated named foreign (Kotlin.members_subset c hm) inCallable inside
      · obtain ⟨d, hd, rfl⟩ := List.mem_map.mp receiver
        exact absurd inside (foreign.not_mem_platform (delegates d hd))
  · have mentioned {cls : ClassName} (h : cls ∈ Kotlin.classes c) (inside : word ∈ cls.words) :
        ∃ cls ∈ Kotlin.mentioned c, word ∈ cls.words :=
      ⟨cls, Kotlin.mem_mentioned_iff.mpr ⟨h, Kotlin.builtin?_eq_none keyword inside⟩, inside⟩
    rintro (package | ⟨d, hd, inside⟩)
    · refine Or.inr (mentioned library ?_)
      rw [ClassName.words_eq]
      exact List.mem_append_left _ package
    · exact Or.inr (mentioned (declared d hd) inside)

/-- **Keywords in a Kotlin file.** Whatever the screen, its fields and its result values are, the
file is that of a companion none of whose variables is a keyword, since all of them are written in
backticks where they need it. In every function a parameter is referred to as it is declared,
exactly if no value that is handed back is named like the activity. And a keyword is written in the
package clause, in an import or in the spelling of a class exactly if the package of the runtime
library has it or the name of a class that the screen was declared with: its own, or one in the
type of a field or of a value that is handed back. -/
theorem generate_kotlin_names (accepted : entry.toTarget = .ok target)
    (reached : Reached settings target fields a) (generated : a.generate = .ok c) :
    (∀ header, Kotlin.render c header
        = Kotlin.renderWith (Kotlin.imports c) (Kotlin.escaped c) header) ∧
      (∀ m ∈ Kotlin.members (Kotlin.escaped c), ∀ name ∈ m.vars,
        name ∉ Naming.kotlinKeywords) ∧
      ((∀ m ∈ Kotlin.members c, ∀ p ∈ m.arguments, ∀ spell depth,
          Kotlin.exprText spell (m.receiver?.map (·.name)) depth (.ident p.name)
            = Naming.kotlinName p.name) ↔ ∀ r ∈ target.handedBack, r.name ≠ "activity") ∧
      ∀ word ∈ Naming.kotlinKeywords,
        word ∈ (Kotlin.imports c).words (Kotlin.mentioned c)
          ↔ word ∈ packageWords settings.runtime.package ∨
            ∃ d ∈ target.declaredClasses fields, word ∈ d.words :=
  ⟨fun header =>
      (Kotlin.renderWith_renamed (reached.unseen_kotlinName generated) _ header).symm,
    fun _ hm _ hname => Kotlin.not_mem_of_mem_vars_escaped hm hname,
    reached.spelled_as_declared_iff generated,
    fun _ keyword => reached.mem_words_kotlin_iff accepted generated keyword⟩

/-- The Kotlin file of the editor has no bare keyword. -/
theorem generate_kotlin_names_editor :
    ∃ a c, editorEntry.toTarget = .ok editor ∧ Reached {} editor editorFields a ∧
      a.generate = .ok c ∧
      (∀ m ∈ Kotlin.members c, ∀ p ∈ m.arguments, ∀ spell depth,
        Kotlin.exprText spell (m.receiver?.map (·.name)) depth (.ident p.name)
          = Naming.kotlinName p.name) ∧
      ∀ word ∈ Naming.kotlinKeywords, word ∉ (Kotlin.imports c).words (Kotlin.mentioned c) := by
  have accepted : editorEntry.toTarget = .ok editor := rfl
  obtain ⟨a, c, reached, generated⟩ := editor_generates
  obtain ⟨-, -, spelled, classes⟩ := generate_kotlin_names accepted reached generated
  refine ⟨a, c, accepted, reached, generated, spelled.mpr (by decide), fun word keyword => ?_⟩
  have clear : ∀ word ∈ Naming.kotlinKeywords,
      ¬ (word ∈ packageWords ({} : Settings).runtime.package ∨
        ∃ d ∈ editor.declaredClasses editorFields, word ∈ d.words) := by
    decide +kernel
  exact mt (classes word keyword).mp (clear word keyword)

/-- A screen in a package that Java accepts and Kotlin does not. -/
def objectEntry : TargetEntry :=
  { kind := .activity, qualifiedName := "com.object.Editor", mode := .kotlinOnly }

/-- It is accepted, and its Kotlin file has the bare keyword in its package clause. -/
theorem kotlin_names_object :
    ∃ target a c, objectEntry.toTarget = .ok target ∧ Reached {} target [] a ∧
      a.generate = .ok c ∧ c.dialects.kotlin = true ∧ "object" ∈ Naming.kotlinKeywords ∧
      "object" ∈ (Kotlin.imports c).words (Kotlin.mentioned c) ∧
      ∀ header, Text.Has (Kotlin.render c header) "package com.object\n" := by
  let target : Target :=
    { cls := ⟨"com.object", "Editor", []⟩, kind := .activity, mode := .kotlinOnly }
  have accepted : objectEntry.toTarget = .ok target := rfl
  have keyword : "object" ∈ Naming.kotlinKeywords := by decide
  obtain ⟨a, c, reached, generated, kotlin, package⟩ : ∃ a c, Reached {} target [] a ∧
      a.generate = .ok c ∧ c.dialects.kotlin = true ∧ c.name.package = "com.object" :=
    exists_generated (by decide +kernel)
  have own : target.cls ∈ target.declaredClasses [] ∧ "object" ∈ target.cls.words := by decide
  refine ⟨target, a, c, accepted, reached, generated, kotlin, keyword,
    (reached.mem_words_kotlin_iff accepted generated keyword).mpr (Or.inr ⟨target.cls, own⟩),
    fun header => ?_⟩
  have clause := Kotlin.has_package_render (c := c) (by rw [package]; decide) header
  rw [package] at clause
  exact clause

end Assembly

end Companions
