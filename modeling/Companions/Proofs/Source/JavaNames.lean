import Companions.Console.Run
import Companions.Proofs.Documentation
import Companions.Proofs.Overloads
import Companions.Proofs.Vocabulary

/-!
Keywords in a Java file.

Java takes none of its keywords for a name. The names of members never are keywords, whatever a
screen is declared with: fields and result values are checked for it, and all other names are made
by putting something in front of a word or behind it (`Naming.not_mem_javaKeywords_of_front`,
`Naming.not_mem_javaKeywords_of_back`). The package of the runtime library is checked as well. The
classes that a screen is declared with are not: a file has a keyword in its package clause, its
imports or the spelling of a class exactly if one of these has it in its name
(`Assembly.generate_java_names`).
-/

namespace Companions

namespace Naming

/-! ### Names that are no keywords -/

theorem not_mem_javaKeywords {name : String} (named : isMemberName name = true) :
    name ∉ javaKeywords := by
  rw [isMemberName, Bool.and_eq_true, Bool.not_eq_true'] at named
  exact fun keyword => Bool.false_ne_true (named.2.symm.trans (List.contains_iff_mem.mpr keyword))

theorem not_mem_javaKeywords_of_front {front : String} (rest : String)
    (clear : ∀ word ∈ javaKeywords, ¬ front.toList <+: word.toList) :
    front ++ rest ∉ javaKeywords := fun keyword => clear _ keyword <| by
  rw [String.toList_append]
  exact List.prefix_append _ _

theorem not_mem_javaKeywords_of_back {back : String} (start : String)
    (clear : ∀ word ∈ javaKeywords, ¬ back.toList <:+ word.toList) :
    start ++ back ∉ javaKeywords := fun keyword => clear _ keyword <| by
  rw [String.toList_append]
  exact List.suffix_append _ _

/-- No class of generated code has a keyword in its name, unless the screen brings it. -/
theorem foreign_of_mem_javaKeywords {word : String} (keyword : word ∈ javaKeywords) :
    Code.Foreign word :=
  .of_mem (by decide +kernel) keyword

/-- No part of a package that was checked is a keyword. -/
theorem not_mem_packageWords {package word : String}
    (checked : Console.isPackageName package = true) (keyword : word ∈ javaKeywords) :
    word ∉ ClassName.packageWords package := by
  intro inside
  unfold ClassName.packageWords at inside
  split at inside
  · exact absurd inside List.not_mem_nil
  · obtain ⟨part, hpart, rfl⟩ := List.mem_map.mp inside
    exact not_mem_javaKeywords (List.all_eq_true.mp checked part hpart) keyword

end Naming

/-! ### Result values that were declared -/

theorem ResultEntry.isMemberName_of_toResult {e : ResultEntry} {r : ResultValue}
    (made : e.toResult = .ok r) : Naming.isMemberName r.name = true := by
  unfold toResult at made
  split at made
  · unfold ResultValue.make at made
    split_ifs at made with empty named
    rw [← Except.ok.inj made]
    exact named
  · exact nomatch made

theorem TargetEntry.isMemberName_of_toTarget {e : TargetEntry} {t : Target}
    (accepted : e.toTarget = .ok t) : ∀ r ∈ t.results, Naming.isMemberName r.name = true := by
  obtain ⟨cls, -, accepted⟩ := bind_eq_ok_iff.mp accepted
  obtain ⟨results, made, accepted⟩ := bind_eq_ok_iff.mp accepted
  obtain ⟨elements, -, accepted⟩ := bind_eq_ok_iff.mp accepted
  rw [← Except.ok.inj accepted]
  have each := forall₂_of_mapM_eq_ok (mapError_eq_ok_iff.mp made)
  exact ((List.forall₂_and_left _ _).mp (each.flip.imp fun r e found =>
    ⟨ResultEntry.isMemberName_of_toResult found, found⟩)).1

/-! ### The package clause -/

namespace Page

theorem has_line_break {page : Page} {text : String} :
    Text.Has (page.line text).text (text ++ "\n") := by
  rw [line]
  simp only [String.append_assoc]
  exact Text.Has.self.right.right

end Page

/-- A file of a package says so in a line at its top. -/
theorem Imports.has_package_writeTop {table : Imports} (packaged : table.package ≠ "")
    (header ending : String) :
    Text.Has (table.writeTop header ending).text ("package " ++ table.package ++ ending ++ "\n") := by
  have clause (page : Page) :
      Text.Has (page.line ("package " ++ table.package ++ ending)).blank.text
        ("package " ++ table.package ++ ending ++ "\n") :=
    Page.grows_blank.has Page.has_line_break
  have named : ¬ table.package.isEmpty = true := mt String.isEmpty_iff.mp packaged
  unfold writeTop
  simp only [if_neg named]
  split
  · exact clause _
  · exact ((Page.grows_foldl fun _ _ _ => Page.grows_line).trans Page.grows_blank).has (clause _)

theorem Java.has_package_render {c : Companion} (packaged : c.name.package ≠ "")
    (header : String) :
    Text.Has (render c header) ("package " ++ c.name.package ++ ";" ++ "\n") := by
  have package : (imports c).package = c.name.package := Imports.package_make
  have clause := Imports.has_package_writeTop (package.symm ▸ packaged) header ";"
  rw [package] at clause
  exact ((Page.grows_comment.trans Page.grows_opening).trans
    (grows_writeClass _ _ c)).has clause

/-! ### The names of a Java file -/

/-- The names that a Java file declares and refers to: the class, its constants, its methods with
their parameters, locals and the members they use, and the listener. -/
def Java.names (c : Companion) : List String :=
  c.name.simpleName :: c.constants.map (·.name)
    ++ (members c).flatMap (fun m =>
      m.name :: m.parameters.map (·.name) ++ Statement.namesOf m.body)
    ++ c.listener.toList.flatMap fun l =>
      l.name.simpleName :: l.method :: l.parameters.map (·.name)

theorem Java.members_subset (c : Companion) : members c ⊆ c.callables := by
  intro m hm
  rw [members, List.mem_append] at hm
  rw [Companion.callables, List.mem_append, List.mem_append]
  rcases hm with written | state
  · split at written
    · exact (List.mem_append.mp written).imp_left Or.inl
    · exact absurd written List.not_mem_nil
  · exact Or.inl (Or.inr state)

namespace Assembly

variable {settings : Settings} {entry : TargetEntry} {target : Target} {fields : List Field}
  {a : Assembly} {c : Companion}

/-- The names of callables begin with a verb. -/
theorem Reached.exists_verb (reached : Reached settings target fields a)
    (generated : a.generate = .ok c) {callable : Callable} (member : callable ∈ c.callables) :
    ∃ verb ∈ ["start", "show", "inject", "saveState", "finishWithResult"], ∃ rest,
      callable.name = verb ++ rest := by
  rw [reached.callables_of_generate generated, List.mem_append, List.mem_append] at member
  rcases member with (start | state) | finish
  · obtain ⟨choice, hchoice, rfl⟩ := List.mem_map.mp start
    obtain ⟨rest, -, named⟩ := Kind.exists_ending hchoice
    exact ⟨_, by cases target.kind <;> decide, rest, named⟩
  · rcases List.mem_pair.mp state with rfl | rfl
    · exact ⟨"inject", by decide, "", rfl⟩
    · exact ⟨"saveState", by decide, "", rfl⟩
  · obtain ⟨k, -, rfl⟩ := List.mem_map.mp finish
    exact ⟨"finishWithResult", by decide, "", rfl⟩

/-- No callable is called like a keyword. -/
theorem Reached.name_not_mem_javaKeywords (reached : Reached settings target fields a)
    (generated : a.generate = .ok c) :
    ∀ callable ∈ c.callables, callable.name ∉ Naming.javaKeywords := by
  intro callable member
  obtain ⟨verb, hverb, rest, named⟩ := reached.exists_verb generated member
  rw [named]
  have clear : ∀ verb ∈ ["start", "show", "inject", "saveState", "finishWithResult"],
      ∀ word ∈ Naming.javaKeywords, ¬ verb.toList <+: word.toList := by
    decide +kernel
  exact Naming.not_mem_javaKeywords_of_front rest (clear verb hverb)

/-- The names of constants begin with a role. -/
theorem Reached.exists_role (reached : Reached settings target fields a)
    (generated : a.generate = .ok c) {constant : Constant} (member : constant ∈ c.constants) :
    ∃ role ∈ ["REQUIRED_", "OPTIONAL_", "RESULT_"], ∃ rest, constant.name = role ++ rest := by
  have constants : c.constants = a.constants := by
    obtain ⟨rfl, -⟩ := generate_eq_ok_iff.mp generated
    rfl
  rw [constants, reached.constants_eq, List.mem_append, List.mem_append] at member
  rcases member with (member | member) | member <;>
    obtain ⟨key, -, rfl⟩ := List.mem_map.mp member <;>
    exact ⟨_, by decide, _, rfl⟩

/-- The listener of a companion is that of its contract. -/
theorem listener_of_generate (generated : a.generate = .ok c) :
    c.listener = a.contract.map Contract.listener := by
  obtain ⟨rfl, -⟩ := generate_eq_ok_iff.mp generated
  rfl

/-- **The names of a Java file are no keywords.** -/
theorem Reached.not_mem_names (accepted : entry.toTarget = .ok target)
    (reached : Reached settings target fields a) (generated : a.generate = .ok c) {word : String}
    (keyword : word ∈ Naming.javaKeywords) : word ∉ Java.names c := by
  let v : Vocabulary :=
    { name := fun name => name ∉ Naming.javaKeywords
      cls := fun _ => True }
  have results : ∀ r ∈ target.results, r.name ∉ Naming.javaKeywords := fun r hr =>
    Naming.not_mem_javaKeywords (TargetEntry.isMemberName_of_toTarget accepted r hr)
  have fixed : ∀ name ∈ Code.words, name ∉ Naming.javaKeywords := by decide +kernel
  have basic : v.Basic { target, runtime := settings.runtime } :=
    ⟨fixed, fun _ _ => trivial, fun _ _ => trivial, trivial⟩
  have takes : ∀ f ∈ fields, v.Takes f := fun f _ =>
    { name := Naming.not_mem_javaKeywords f.isMemberName
      binding := Naming.not_mem_javaKeywords_of_back _ (by decide +kernel)
      classes := fun _ _ => trivial }
  have hands : ∀ k ∈ a.contract, v.Hands k := fun k contract => by
    obtain ⟨values, -, listener⟩ := Contract.make_eq_ok (reached.make_contract contract).2
    refine ⟨?_, trivial, fun r hr => results r (values ▸ hr), fun _ _ _ _ => trivial⟩
    rw [listener]
    exact Naming.not_mem_javaKeywords_of_back _ fun _ keyword =>
      (Naming.foreign_of_mem_javaKeywords keyword).listener
  have clear : ∀ name ∈ Java.names c, name ∉ Naming.javaKeywords := by
    intro name member
    rw [Java.names, List.mem_append, List.mem_append, List.mem_cons] at member
    rcases member with ((rfl | constant) | method) | listener
    · rw [reached.name_of_generate generated]
      exact Naming.not_mem_javaKeywords_of_back _ fun _ keyword =>
        (Naming.foreign_of_mem_javaKeywords keyword).companion
    · obtain ⟨constant, hconstant, rfl⟩ := List.mem_map.mp constant
      obtain ⟨role, hrole, rest, named⟩ := reached.exists_role generated hconstant
      have roles : ∀ role ∈ ["REQUIRED_", "OPTIONAL_", "RESULT_"],
          ∀ word ∈ Naming.javaKeywords, ¬ role.toList <+: word.toList := by decide +kernel
      rw [named]
      exact Naming.not_mem_javaKeywords_of_front rest (roles role hrole)
    · obtain ⟨m, hm, inside⟩ := List.mem_flatMap.mp method
      have covers := reached.coversCallable generated basic takes hands m (Java.members_subset c hm)
      rw [List.cons_append, List.mem_cons, List.mem_append] at inside
      rcases inside with rfl | parameter | used
      · exact reached.name_not_mem_javaKeywords generated m (Java.members_subset c hm)
      · obtain ⟨p, hp, rfl⟩ := List.mem_map.mp parameter
        exact (covers.parameters p hp).1
      · exact covers.body.names name used
    · obtain ⟨l, hl, inside⟩ := List.mem_flatMap.mp listener
      rw [listener_of_generate generated, Option.toList_map] at hl
      obtain ⟨k, contract, rfl⟩ := List.mem_map.mp hl
      have hands := hands k (Option.mem_toList.mp contract)
      have made := (reached.make_contract (Option.mem_toList.mp contract)).2
      rcases List.mem_cons.mp inside with rfl | inside
      · have simple : k.listener.name.simpleName
            = "On" ++ target.cls.simpleName ++ "ResultListener" := by
          rw [Contract.listener, Contract.listenerType_of_make made]
          rfl
        rw [simple]
        exact Naming.not_mem_javaKeywords_of_back _ fun _ keyword =>
          (Naming.foreign_of_mem_javaKeywords keyword).listener
      rcases List.mem_cons.mp inside with rfl | inside
      · exact fixed "onResult" (by decide)
      · obtain ⟨p, hp, rfl⟩ := List.mem_map.mp inside
        obtain ⟨r, hr, rfl⟩ := List.mem_map.mp hp
        exact hands.names r hr
  exact fun member => clear word member keyword

/-! ### The classes of a Java file -/

/-- `inject` mentions the class of the screen. -/
theorem target_mem_classes_inject {owner : Owner} :
    owner.target.cls ∈ (SavedState.inject owner fields).classes := by
  refine List.mem_append_right _ ?_
  rw [SavedState.inject, SavedState.guarded]
  simp [Statement.classesOf, Statement.classes, Condition.classes]

/-- `inject` mentions the classes in the types of the fields, where it reads them. -/
theorem mem_classes_inject {owner : Owner} {f : Field} (hf : f ∈ fields) {cls : ClassName}
    (h : cls ∈ f.type.classes) : cls ∈ (SavedState.inject owner fields).classes := by
  have boxed : cls ∈ f.type.boxed.classes := Vocabulary.classes_subset_boxed f.type h
  have read : cls ∈ Statement.classesOf (SavedState.readField owner.runtime f) := by
    unfold SavedState.readField
    cases f.default <;> simp [Statement.classesOf, Statement.classes, boxed]
  have reading : cls ∈ Statement.classesOf (fields.flatMap (SavedState.readField owner.runtime)) := by
    rw [Statement.classesOf_flatMap]
    exact List.mem_flatMap.mpr ⟨f, hf, read⟩
  have filled : ¬ fields.isEmpty = true := fun empty =>
    List.not_mem_nil (List.isEmpty_iff.mp empty ▸ hf)
  refine List.mem_append_right _ ?_
  rw [SavedState.inject, SavedState.guarded]
  simp [Statement.classesOf, Statement.classes, filled, reading]

/-- The listener mentions the classes in the types of the values that are handed back. -/
theorem Reached.mem_classes_listener_iff (reached : Reached settings target fields a)
    (generated : a.generate = .ok c) {cls : ClassName} :
    (cls ∈ c.listener.toList.flatMap fun l => parameterClasses l.parameters)
      ↔ ∃ r ∈ target.handedBack, cls ∈ r.type.classes := by
  rw [listener_of_generate generated, Option.toList_map, List.flatMap_map, ← reached.results_eq]
  simp only [List.mem_flatMap, mem_parameterClasses_iff, Contract.listener, List.mem_map]
  constructor
  · rintro ⟨k, hk, -, ⟨r, hr, rfl⟩, inside⟩
    exact ⟨r, ⟨k, hk, hr⟩, inside⟩
  · rintro ⟨r, ⟨k, hk, hr⟩, inside⟩
    exact ⟨k, hk, _, ⟨r, hr, rfl⟩, inside⟩

/-- The Java file mentions every class that the screen was declared with. -/
theorem Reached.mem_mentioned_java (reached : Reached settings target fields a)
    (generated : a.generate = .ok c) {d : ClassName} (declared : d ∈ target.declaredClasses fields) :
    d ∈ Java.mentioned c := by
  have injected {cls : ClassName} (h : cls ∈ c.inject.classes) : cls ∈ Java.mentioned c :=
    List.mem_append_left _ (List.mem_flatMap.mpr
      ⟨c.inject, List.mem_append_right _ List.mem_cons_self, h⟩)
  rw [reached.inject_of_generate generated] at injected
  rcases Target.mem_declaredClasses_iff.mp declared with rfl | ⟨f, hf, inside⟩ | handed
  · exact injected target_mem_classes_inject
  · exact injected (mem_classes_inject (reached.mem_fields_iff.mpr hf) inside)
  · exact List.mem_append_right _ ((reached.mem_classes_listener_iff generated).mpr handed)

/-- **The words of a Java file.** A word that generated code does not have of its own is written in
a package or class name exactly if a class that the screen was declared with has it. -/
theorem Reached.mem_words_java_iff (accepted : entry.toTarget = .ok target)
    (reached : Reached settings target fields a) (generated : a.generate = .ok c) {word : String}
    (foreign : Code.Foreign word)
    (library : word ∉ ClassName.packageWords settings.runtime.package) :
    word ∈ (Java.imports c).words (Java.mentioned c)
      ↔ ∃ d ∈ target.declaredClasses fields, word ∈ d.words := by
  obtain ⟨_, _, _, named⟩ := ClassName.segmented_of_parse (TargetEntry.parse_of_toTarget accepted)
  rw [Java.imports, Imports.mem_words_make_iff rfl foreign.not_mem_javaLang]
  constructor
  · rintro (clause | ⟨cls, mentioned, inside⟩)
    · exact reached.exists_of_mem_package generated clause
    · rw [Java.mentioned, List.mem_append] at mentioned
      rcases mentioned with used | handed
      · obtain ⟨m, hm, inCallable⟩ := List.mem_flatMap.mp used
        exact (reached.borrows generated named foreign (Java.members_subset c hm) inCallable
          inside).resolve_left library
      · have values := (reached.mem_classes_listener_iff generated).mp handed
        exact ⟨cls, Target.mem_declaredClasses_iff.mpr (Or.inr (Or.inr values)), inside⟩
  · rintro ⟨d, declared, inside⟩
    exact Or.inr ⟨d, reached.mem_mentioned_java generated declared, inside⟩

/-- **Keywords in a Java file.** Whatever the screen, its fields, its result values and a checked
package of the runtime library are, no name of a member is a keyword, and neither is that of a
getter. A package clause, an import or the spelling of a class has a keyword in it exactly if the
name of a class has that the screen was declared with: its own, or one in the type of a field or of
a value that is handed back. -/
theorem generate_java_names (accepted : entry.toTarget = .ok target)
    (library : Console.isPackageName settings.runtime.package = true)
    (reached : Reached settings target fields a) (generated : a.generate = .ok c) :
    ∀ word ∈ Naming.javaKeywords,
      word ∉ Java.names c ∧ (∀ name, "get" ++ Naming.capitalize name ≠ word) ∧
        (word ∈ (Java.imports c).words (Java.mentioned c)
          ↔ ∃ d ∈ target.declaredClasses fields, word ∈ d.words) := by
  intro word keyword
  refine ⟨reached.not_mem_names accepted generated keyword, fun name same => ?_,
    reached.mem_words_java_iff accepted generated (Naming.foreign_of_mem_javaKeywords keyword)
      (Naming.not_mem_packageWords library keyword)⟩
  have getter : ∀ word ∈ Naming.javaKeywords, ¬ "get".toList <+: word.toList := by decide +kernel
  exact Naming.not_mem_javaKeywords_of_front _ getter (same ▸ keyword)

/-- The declaration of the editor. -/
def editorEntry : TargetEntry :=
  { kind := .activity, qualifiedName := "com.example.Editor"
    resultTypes := [⟨"status", "String"⟩, ⟨"count", "int"⟩] }

/-- The Java file of the editor has no keyword for a name. -/
theorem generate_java_names_editor :
    ∃ a c, editorEntry.toTarget = .ok editor ∧
      Console.isPackageName ({} : Settings).runtime.package = true ∧
      Reached {} editor editorFields a ∧ a.generate = .ok c ∧
      ∀ word ∈ Naming.javaKeywords,
        word ∉ Java.names c ∧ word ∉ (Java.imports c).words (Java.mentioned c) := by
  have accepted : editorEntry.toTarget = .ok editor := rfl
  have library : Console.isPackageName ({} : Settings).runtime.package = true := by decide
  obtain ⟨a, c, reached, generated⟩ := editor_generates
  refine ⟨a, c, accepted, library, reached, generated, fun word keyword => ?_⟩
  obtain ⟨members, -, classes⟩ :=
    generate_java_names accepted library reached generated word keyword
  refine ⟨members, mt classes.mp ?_⟩
  have clear : ∀ word ∈ Naming.javaKeywords,
      ¬ ∃ d ∈ editor.declaredClasses editorFields, word ∈ d.words := by
    decide +kernel
  exact clear word keyword

/-- A screen in a package with a keyword in it. -/
def integerEntry : TargetEntry :=
  { kind := .activity, qualifiedName := "com.int.Editor" }

/-- It is accepted, and its Java file has the keyword in its package clause. -/
theorem java_names_integer :
    ∃ target a c, integerEntry.toTarget = .ok target ∧
      Console.isPackageName ({} : Settings).runtime.package = true ∧
      Reached {} target [] a ∧ a.generate = .ok c ∧ "int" ∈ Naming.javaKeywords ∧
      "int" ∈ (Java.imports c).words (Java.mentioned c) ∧
      ∀ header, Text.Has (Java.render c header) "package com.int;\n" := by
  let target : Target := { cls := ⟨"com.int", "Editor", []⟩, kind := .activity }
  have accepted : integerEntry.toTarget = .ok target := rfl
  have library : Console.isPackageName ({} : Settings).runtime.package = true := by decide
  have keyword : "int" ∈ Naming.javaKeywords := by decide
  obtain ⟨a, c, reached, generated, package⟩ : ∃ a c, Reached {} target [] a ∧
      a.generate = .ok c ∧ c.name.package = "com.int" := exists_generated (by decide +kernel)
  have own : target.cls ∈ target.declaredClasses [] ∧ "int" ∈ target.cls.words := by decide
  refine ⟨target, a, c, accepted, library, reached, generated, keyword,
    (reached.mem_words_java_iff accepted generated (Naming.foreign_of_mem_javaKeywords keyword)
      (Naming.not_mem_packageWords library keyword)).mpr ⟨target.cls, own⟩, fun header => ?_⟩
  have clause := Java.has_package_render (c := c) (by rw [package]; decide) header
  rw [package] at clause
  exact clause

end Assembly

end Companions
