import Companions.Proofs.Imports
import Companions.Proofs.Start.Family
import Companions.Source.Kotlin
import Mathlib.Data.List.Dedup

/-!
Kotlin's own names beside the import table.

A Kotlin file spells some classes of `java.lang` by the names that Kotlin has for them, and all
others by its import table, which knows nothing of these. So a class from elsewhere may own such a
name in the table: it is imported, and spelled like the class that Kotlin has under it
(`Kotlin.Hides`). `Kotlin.spells_apart` says that this is the only way in which two classes of a
file get one spelling. Even the name of a nested class is enough to hide Kotlin's own one, since its
outermost class is imported: what owns a name in the table is what the name stands for in the file
(`Imports.meaning?_eq_lookup`).
-/

namespace Companions

/-! ### Dots -/

namespace ClassName

variable {c : ClassName}

theorem relative_of_flat (flat : c.inner = []) : c.relative = c.outer := by
  rw [relative, simpleNames, flat, joined, String.intercalate_singleton]

/-- The name of a nested class has a dot. -/
theorem dot_mem_relative (nested : c.inner ≠ []) : '.' ∈ c.relative.toList := by
  obtain ⟨name, rest, split⟩ := List.exists_cons_of_ne_nil nested
  rw [relative, simpleNames, split, joined, String.toList_intercalate, List.map_cons,
    List.map_cons, List.intercalate_cons_cons]
  exact List.mem_append_left _ (List.mem_append_right _ List.mem_cons_self)

/-- A name with its package has a dot. -/
theorem dot_mem_canonical (packaged : c.package ≠ "") : '.' ∈ c.canonical.toList := by
  have some : c.package.isEmpty = false := by simpa using packaged
  rw [canonical, some, if_neg Bool.false_ne_true, String.toList_append, String.toList_append]
  exact List.mem_append_left _ (List.mem_append_right _ List.mem_cons_self)

end ClassName

namespace Imports

variable {table : Imports} {c : ClassName} {name : String}

/-- A spelling without dots is the simple name of an outermost class that owns it. -/
theorem spell_eq_iff_of_plain (plain : '.' ∉ name.toList) (packaged : c.package ≠ "") :
    table.spell c = name ↔
      c.inner = [] ∧ c.outer = name ∧ table.owners.lookup name = some c := by
  constructor
  · rintro rfl
    by_cases owner : table.owners.lookup c.outer = some c.topLevel
    · rw [spell_of_owner owner] at plain ⊢
      have flat : c.inner = [] := by
        by_contra nested
        exact plain (ClassName.dot_mem_relative nested)
      have itself : c.topLevel = c := by
        cases c
        simp_all [ClassName.topLevel]
      rw [itself] at owner
      rw [ClassName.relative_of_flat flat]
      exact ⟨flat, rfl, owner⟩
    · rw [spell_of_not_owner owner] at plain
      exact absurd (ClassName.dot_mem_canonical packaged) plain
  · rintro ⟨flat, rfl, owner⟩
    have itself : c.topLevel = c := by
      cases c
      simp_all [ClassName.topLevel]
    rw [spell_of_owner (itself.symm ▸ owner), ClassName.relative_of_flat flat]

/-! ### Owners and meanings -/

section Make

variable {declared : ClassName} {reserved : List String} {classes : List ClassName}
  {package simple : String}

/-- A name that is free has an owner as soon as a class that is mentioned begins with it. -/
theorem exists_owner_iff (other : simple ≠ declared.simpleName) (free : simple ∉ reserved) :
    (∃ top, (make package declared reserved classes).owners.lookup simple = some top) ↔
      ∃ c ∈ classes, c.outer = simple := by
  constructor
  · rintro ⟨top, owner⟩
    have owns := ownsByClaim_of_lookup other owner
    obtain ⟨c, hc, rfl⟩ := mem_tops_iff.mp owns.mentioned
    exact ⟨c, hc, owns.named⟩
  · rintro ⟨c, hc, named⟩
    by_contra vacant
    have missed := Option.eq_none_iff_forall_not_mem.mpr (not_exists.mp vacant)
    rw [lookup_make other free, Option.or_eq_none_iff, Option.or_eq_none_iff] at missed
    obtain ⟨⟨noneOwn, noneForeign⟩, noneImplicit⟩ := missed
    have mentioned : c.topLevel ∈ tops classes := mem_tops_iff.mpr ⟨c, hc, rfl⟩
    by_cases home : c.package = package
    · exact outer_ne_of_find?_eq_none (fun d hd => (mem_own_iff.mp hd).1) noneOwn _
        (mem_own_iff.mpr ⟨mentioned, home⟩) named
    · by_cases bare : c.package = javaLang
      · exact outer_ne_of_find?_eq_none (fun d hd => (mem_implicit_iff.mp hd).1) noneImplicit _
          (mem_implicit_iff.mpr ⟨mentioned, home, bare⟩) named
      · exact outer_ne_of_find?_eq_none (fun d hd => (mem_foreign_iff.mp hd).1) noneForeign _
          (mem_foreign_iff.mpr ⟨mentioned, home, bare⟩) named

/-- **What owns a simple name is what the name stands for**, and a name without an owner stands for
nothing. -/
theorem meaning?_eq_lookup (outermost : declared.inner = []) (apart : declared.outer ∉ reserved)
    (nameable : ∀ c ∈ classes, Nameable c) (free : simple ∉ reserved) :
    (scope (make declared.package declared reserved classes) declared reserved classes).meaning?
        simple
      = (make declared.package declared reserved classes).owners.lookup simple := by
  cases owner : (make declared.package declared reserved classes).owners.lookup simple with
  | some top => exact meaning?_of_owner outermost apart nameable owner
  | none =>
      have simpleDeclared : declared.simpleName = declared.outer := by
        simp [ClassName.simpleName, outermost]
      have other : simple ≠ declared.simpleName := by
        rintro rfl
        rw [lookup_make_declared] at owner
        exact absurd owner (Option.some_ne_none _)
      have absent : ∀ top ∈ tops classes, top.outer ≠ simple := by
        rintro top mentioned rfl
        obtain ⟨c, hc, rfl⟩ := mem_tops_iff.mp mentioned
        rw [Option.eq_none_iff_forall_not_mem] at owner
        exact not_exists.mpr owner ((exists_owner_iff other free).mpr ⟨c, hc, rfl⟩)
      have unimported : ((make declared.package declared reserved classes).imported.filter
          fun name => importedAs name == simple) = [] := by
        refine List.filter_eq_nil_iff.mpr fun name imported named => ?_
        obtain ⟨top, member, rfl, -⟩ := (mem_imported_make_iff rfl).mp imported
        have mentioned := (mem_foreign_iff.mp member).1
        obtain ⟨before, segment, made⟩ := segmented_of_mem_tops nameable mentioned
        rw [beq_iff_eq, importedAs_canonical made] at named
        exact absent top mentioned named
      have unmentioned : ∀ package, (⟨package, simple, []⟩ : ClassName) ∉ tops classes :=
        fun package mentioned => absent _ mentioned rfl
      simp only [Scope.meaning?, scope, if_neg free, if_neg (simpleDeclared ▸ other), unimported,
        unmentioned, ↓reduceIte]

end Make

end Imports

/-! ### Kotlin's own names -/

namespace Kotlin

/-- The classes that Kotlin has under names of its own. -/
def builtins : List (String × String) := [
  ("Object", "Any"), ("String", "String"), ("CharSequence", "CharSequence"), ("Integer", "Int"),
  ("Character", "Char"), ("Boolean", "Boolean"), ("Byte", "Byte"), ("Short", "Short"),
  ("Long", "Long"), ("Float", "Float"), ("Double", "Double")]

variable {x y : ClassName} {name : String}

theorem builtin?_eq : builtin? x
    = if x.package = javaLang ∧ x.inner = [] then builtins.lookup x.outer else none := by
  unfold builtin?
  split
  · split
    case h_12 =>
      symm
      simp_all [builtins, List.lookup_eq_none_iff]
    all_goals
      rename_i named
      rw [named]
      rfl
  · rfl

/-- What Kotlin has under a name of its own: an outermost class of `java.lang`. -/
theorem builtin?_eq_some (own : builtin? x = some name) :
    (x.outer, name) ∈ builtins ∧ x = ⟨javaLang, x.outer, []⟩ := by
  rw [builtin?_eq, Option.ite_none_right_eq_some] at own
  obtain ⟨⟨package, flat⟩, found⟩ := own
  obtain ⟨before, after, table, -⟩ := List.lookup_eq_some_iff.mp found
  refine ⟨table ▸ List.mem_append_right _ List.mem_cons_self, ?_⟩
  rw [← package, ← flat]

/-- The names that Kotlin has for classes of `java.lang`. -/
def builtinNames : List String :=
  builtins.map Prod.snd

theorem mem_builtinNames_iff : name ∈ builtinNames ↔ ∃ x, builtin? x = some name := by
  constructor
  · have known : ∀ b ∈ builtins, builtin? ⟨javaLang, b.1, []⟩ = some b.2 := by decide
    rw [builtinNames, List.mem_map]
    rintro ⟨b, member, rfl⟩
    exact ⟨_, known b member⟩
  · rintro ⟨x, own⟩
    exact List.mem_map_of_mem (builtin?_eq_some own).1

/-- Kotlin has no two classes under one name. -/
theorem builtin?_inj (own : builtin? x = some name) (own' : builtin? y = some name) : x = y := by
  have unique : ∀ b ∈ builtins, ∀ b' ∈ builtins, b.2 = b'.2 → b.1 = b'.1 := by decide
  obtain ⟨member, eq⟩ := builtin?_eq_some own
  obtain ⟨member', eq'⟩ := builtin?_eq_some own'
  have outer : x.outer = y.outer := unique _ member _ member' rfl
  rw [eq, eq', outer]

theorem dot_not_mem_builtinNames (own : name ∈ builtinNames) : '.' ∉ name.toList := by
  revert name
  decide

/-! ### Spellings in a Kotlin file -/

/-- In a file with this table, one class has the name that Kotlin has for the other. -/
def Hides (table : Imports) (y x : ClassName) : Prop :=
  builtin? y = none ∧ builtin? x = some y.outer ∧ y.inner = [] ∧
    table.owners.lookup y.outer = some y

variable {table : Imports}

theorem classText_of_builtin (own : builtin? x = some name) :
    classText table.spell x = name := by
  rw [classText, own, Option.getD_some]

theorem classText_of_none {spell : ClassName → String} (foreign : builtin? x = none) :
    classText spell x = spell x := by
  rw [classText, foreign, Option.getD_none]

/-- A class is spelled like one that Kotlin has exactly when it owns that simple name. -/
theorem classText_eq_iff_of_builtin (own : builtin? x = some name) (foreign : builtin? y = none)
    (packaged : y.package ≠ "") :
    classText table.spell x = classText table.spell y ↔ Hides table y x := by
  have plain := dot_not_mem_builtinNames (mem_builtinNames_iff.mpr ⟨_, own⟩)
  rw [classText_of_builtin own, classText_of_none foreign, eq_comm,
    Imports.spell_eq_iff_of_plain plain packaged, Hides, own, Option.some_inj]
  constructor
  · rintro ⟨flat, rfl, owner⟩
    exact ⟨foreign, rfl, flat, owner⟩
  · rintro ⟨-, rfl, flat, owner⟩
    exact ⟨flat, rfl, owner⟩

theorem not_hides_of_builtin (own : builtin? y = some name) : ¬ Hides table y x := by
  rintro ⟨foreign, -⟩
  rw [own] at foreign
  exact nomatch foreign

theorem not_hides_of_none (foreign : builtin? x = none) : ¬ Hides table y x := by
  rintro ⟨-, own, -⟩
  rw [foreign] at own
  exact nomatch own

/-- **Two classes have one spelling only if one of them has the name that Kotlin has for the
other.** -/
theorem classText_eq_iff (nameable : Imports.Nameable x) (nameable' : Imports.Nameable y)
    (other : x ≠ y) :
    classText table.spell x = classText table.spell y ↔ Hides table y x ∨ Hides table x y := by
  cases own : builtin? x with
  | some name =>
      rw [or_iff_left (not_hides_of_builtin own)]
      cases own' : builtin? y with
      | some name' =>
          refine iff_of_false (fun same => other ?_) (not_hides_of_builtin own')
          rw [classText_of_builtin own, classText_of_builtin own'] at same
          exact builtin?_inj own (same ▸ own')
      | none => exact classText_eq_iff_of_builtin own own' nameable'.2
  | none =>
      rw [or_iff_right (not_hides_of_none own)]
      cases own' : builtin? y with
      | some name' =>
          rw [eq_comm]
          exact classText_eq_iff_of_builtin own' own nameable.2
      | none =>
          refine iff_of_false (fun same => other ?_) (not_hides_of_none own')
          rw [classText_of_none own, classText_of_none own'] at same
          exact Imports.eq_of_spell_eq nameable nameable' same

variable {c : Companion}

/-- Every class of the Kotlin file. -/
def classes (c : Companion) : List ClassName :=
  (members c).flatMap Callable.classes ++ c.delegates.map (·.receiver)

/-- The import table is made of the classes that Kotlin does not have. -/
theorem mem_mentioned_iff : y ∈ mentioned c ↔ y ∈ classes c ∧ builtin? y = none := by
  rw [mentioned, List.mem_filter, Option.isNone_iff_eq_none]
  rfl

/-- What simple names stand for in the Kotlin file. -/
def scope (c : Companion) : Imports.Scope :=
  Imports.scope (imports c) c.name [] (mentioned c)

/-- **When Kotlin spellings meet.** Two classes of a Kotlin file have one spelling exactly when one
of them has a name of its own in Kotlin and the other has this simple name and owns it in the import
table. More generally a class that Kotlin does not have is spelled like one that it has exactly when
it has this simple name and owns it. So if no class in the import table begins with such a name, all
spellings are different and none of them is misread. But each such name at the beginning of a class,
nested or not, has an owner, and in the file it stands for that one. -/
theorem spells_apart (nameable : ∀ x ∈ classes c, Imports.Nameable x) :
    let table := imports c
    let spelled := classText table.spell
    (∀ x ∈ classes c, ∀ y ∈ classes c, x ≠ y →
      (spelled x = spelled y ↔ Hides table y x ∨ Hides table x y)) ∧
    (∀ y ∈ classes c, builtin? y = none → ∀ name ∈ builtinNames,
      (spelled y = name ↔ y.inner = [] ∧ y.outer = name ∧ table.owners.lookup name = some y)) ∧
    ((∀ y ∈ mentioned c, y.outer ∉ builtinNames) →
      (∀ x ∈ classes c, ∀ y ∈ classes c, spelled x = spelled y → x = y) ∧
        ∀ y ∈ classes c, builtin? y = none → spelled y ∉ builtinNames) ∧
    (∀ name, name ≠ c.name.simpleName →
      ((∃ top, table.owners.lookup name = some top) ↔ ∃ y ∈ mentioned c, y.outer = name)) ∧
    (c.name.inner = [] → ∀ name, (scope c).meaning? name = table.owners.lookup name) := by
  intro table spelled
  have apart : ∀ x ∈ classes c, ∀ y ∈ classes c, x ≠ y →
      (spelled x = spelled y ↔ Hides table y x ∨ Hides table x y) :=
    fun x hx y hy => classText_eq_iff (nameable x hx) (nameable y hy)
  have foreign : ∀ y ∈ classes c, builtin? y = none → ∀ name ∈ builtinNames,
      (spelled y = name ↔ y.inner = [] ∧ y.outer = name ∧ table.owners.lookup name = some y) := by
    intro y hy foreign name own
    show classText table.spell y = name ↔ _
    rw [classText_of_none foreign]
    exact Imports.spell_eq_iff_of_plain (dot_not_mem_builtinNames own) (nameable y hy).2
  refine ⟨apart, foreign, fun ordinary => ⟨?_, ?_⟩, ?_, ?_⟩
  · intro x hx y hy same
    have shown : ∀ {x y}, y ∈ classes c → ¬ Hides table y x := by
      rintro x y hy ⟨none, own, -⟩
      exact ordinary y (mem_mentioned_iff.mpr ⟨hy, none⟩) (mem_builtinNames_iff.mpr ⟨_, own⟩)
    by_contra other
    rcases (apart x hx y hy other).mp same with hides | hides
    · exact shown hy hides
    · exact shown hx hides
  · intro y hy none own
    obtain ⟨-, named, -⟩ := (foreign y hy none _ own).mp rfl
    exact ordinary y (mem_mentioned_iff.mpr ⟨hy, none⟩) (named ▸ own)
  · exact fun name other => Imports.exists_owner_iff other List.not_mem_nil
  · exact fun outermost name => Imports.meaning?_eq_lookup outermost List.not_mem_nil
      (fun y hy => nameable y (mem_mentioned_iff.mp hy).1) List.not_mem_nil

/-- Classes are nameable if each of them is in a package and is read from its own name. -/
theorem nameable_of_parse {classes : List ClassName} (read : ∀ x ∈ classes.dedup,
    (ClassName.parse x.canonical).toOption = some x ∧ x.package ≠ "") :
    ∀ x ∈ classes, Imports.Nameable x := by
  intro x hx
  obtain ⟨read, packaged⟩ := read x (List.mem_dedup.mpr hx)
  cases result : ClassName.parse x.canonical with
  | error reason =>
      rw [result] at read
      exact nomatch read
  | ok c =>
      rw [result] at read
      exact ⟨⟨_, result.trans (congrArg Except.ok (Option.some.inj read))⟩, packaged⟩

open Assembly

/-- The Kotlin file of an editor without fields has no name twice. -/
theorem spells_apart_editor :
    ∃ a c, Reached {} editor [] a ∧ a.generate = .ok c ∧
      (∀ x ∈ classes c, Imports.Nameable x) ∧ (∀ y ∈ mentioned c, y.outer ∉ builtinNames) ∧
      ∀ x ∈ classes c, ∀ y ∈ classes c,
        classText (imports c).spell x = classText (imports c).spell y → x = y := by
  obtain ⟨a, c, reached, generated, read, ordinary⟩ :
      ∃ a c, Reached {} editor [] a ∧ a.generate = .ok c ∧
        (∀ x ∈ (classes c).dedup,
          (ClassName.parse x.canonical).toOption = some x ∧ x.package ≠ "") ∧
        ∀ y ∈ mentioned c, y.outer ∉ builtinNames :=
    exists_generated (by decide +kernel)
  have nameable : ∀ x ∈ classes c, Imports.Nameable x := nameable_of_parse read
  exact ⟨a, c, reached, generated, nameable, ordinary,
    ((spells_apart nameable).2.2.1 ordinary).1⟩

/-- A text, and a value of a class that has the same simple name. -/
def namesakes : List Field :=
  [sampleField "caption" .string true 1 (by decide) (by decide),
    sampleField "thread" (.declared ⟨"com.other", "String", []⟩ []) true 2 (by decide) (by decide)]

/-- Both get the same spelling in the Kotlin file of an editor, which imports the one that Kotlin
does not have. -/
theorem spellings_namesakes :
    ∃ a c, Reached { dialects := some ⟨true, true⟩ } editor namesakes a ∧ a.generate = .ok c ∧
      c.dialects.kotlin = true ∧ (∀ x ∈ classes c, Imports.Nameable x) ∧
      (imports c).imported.contains "com.other.String" = true ∧
      ∃ x ∈ classes c, ∃ y ∈ classes c, x ≠ y ∧ y.package ≠ javaLang ∧
        classText (imports c).spell x = "String" ∧ classText (imports c).spell y = "String" := by
  obtain ⟨a, c, reached, generated, kotlin, read, imported, text, value, spelled, spelled'⟩ :
      ∃ a c, Reached { dialects := some ⟨true, true⟩ } editor namesakes a ∧ a.generate = .ok c ∧
        c.dialects.kotlin = true ∧
        (∀ x ∈ (classes c).dedup,
          (ClassName.parse x.canonical).toOption = some x ∧ x.package ≠ "") ∧
        (imports c).imported.contains "com.other.String" = true ∧
        (⟨javaLang, "String", []⟩ : ClassName) ∈ classes c ∧
        (⟨"com.other", "String", []⟩ : ClassName) ∈ classes c ∧
        classText (imports c).spell ⟨javaLang, "String", []⟩ = "String" ∧
        classText (imports c).spell ⟨"com.other", "String", []⟩ = "String" :=
    exists_generated (by decide +kernel)
  exact ⟨a, c, reached, generated, kotlin, nameable_of_parse read, imported, _, text, _, value,
    by decide, by decide, spelled, spelled'⟩

end Kotlin

end Companions
