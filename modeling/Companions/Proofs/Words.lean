import Companions.Proofs.Imports

/-!
The words of dotted names.

A source file writes packages and classes as dotted names: in the package clause, in the imports,
and wherever it spells a class. The words of such a name are what stands between its dots
(`ClassName.pieces`), and `Imports.words` are those that a file writes. A class is spelled with its
package or without, but what is left out then stands in the package clause or in an import, unless
it is `java.lang`. So a file writes the words of its package and all words of the classes that it
mentions (`Imports.mem_words_make_iff`).
-/

namespace Companions

namespace ClassName

/-! ### Pieces of a dotted name -/

/-- The words between the dots of a name. -/
def pieces (name : String) : List String :=
  (segments name.toList).map String.ofList

/-- The words of a package. The one without a name has none. -/
def packageWords (package : String) : List String :=
  if package.isEmpty then [] else pieces package

/-- The words of the name of a class, package included. -/
def words (c : ClassName) : List String :=
  pieces c.canonical

theorem segments_append_dot (text more : List Char) :
    segments (text ++ '.' :: more) = segments text ++ segments more := by
  induction text with
  | nil => rfl
  | cons c rest ih =>
      rw [List.cons_append, segments, segments, ih]
      split
      · rfl
      · cases split : segments rest with
        | nil => exact absurd split (segments_ne_nil rest)
        | cons segment others => rfl

theorem pieces_append_dot (name more : String) :
    pieces (name ++ "." ++ more) = pieces name ++ pieces more := by
  have text : (name ++ "." ++ more).toList = name.toList ++ '.' :: more.toList := by
    simp [String.toList_append]
  rw [pieces, text, segments_append_dot, List.map_append]
  rfl

theorem pieces_joined {first : String} {more : List String} :
    pieces (joined "." (first :: more)) = (first :: more).flatMap pieces := by
  induction more generalizing first with
  | nil => simp [joined, String.intercalate_singleton]
  | cons second more ih =>
      rw [List.flatMap_cons, ← ih, joined, joined, String.intercalate_cons_cons, pieces_append_dot]

/-- A name without dots is its only word. -/
theorem pieces_of_plain {name : String} (plain : '.' ∉ name.toList) : pieces name = [name] := by
  have alone : segments name.toList = [name.toList] := by
    have cut := segments_intercalate (List.cons_ne_nil name.toList [])
      (List.forall_mem_singleton.mpr plain)
    rwa [List.intercalate_singleton] at cut
  rw [pieces, alone, List.map_singleton, String.ofList_toList]

/-- The words of a class are those of its package and those of its simple names. -/
theorem words_eq (c : ClassName) :
    c.words = packageWords c.package ++ pieces c.relative := by
  rw [words, canonical, packageWords]
  split
  · rw [List.nil_append]
  · exact pieces_append_dot c.package c.relative

theorem pieces_relative (c : ClassName) : pieces c.relative = c.simpleNames.flatMap pieces :=
  pieces_joined

/-- The class around all others has its words from the one inside. -/
theorem words_topLevel_subset (c : ClassName) : c.topLevel.words ⊆ c.words := by
  rw [words_eq, words_eq, pieces_relative, pieces_relative]
  refine List.append_subset.mpr ⟨List.subset_append_left _ _, ?_⟩
  refine List.Subset.trans ?_ (List.subset_append_right _ _)
  intro word member
  rw [simpleNames, topLevel, List.flatMap_singleton] at member
  exact List.mem_flatMap.mpr ⟨c.outer, List.mem_cons_self, member⟩

end ClassName

open ClassName (pieces packageWords)

namespace Imports

/-! ### What a file writes -/

/-- The words of the package clause, the imports and the spellings of some classes. -/
def words (table : Imports) (classes : List ClassName) : List String :=
  packageWords table.package ++ table.imported.flatMap pieces
    ++ classes.flatMap fun c => pieces (table.spell c)

variable {package : String} {declared : ClassName} {reserved : List String}
  {classes : List ClassName} {word : String}

theorem package_foldl_claim {needsImport : Bool} {table : Imports} {tops : List ClassName} :
    (tops.foldl (claim reserved needsImport) table).package = table.package := by
  induction tops generalizing table with
  | nil => rfl
  | cons top rest ih =>
      rw [List.foldl_cons, ih, claim]
      split <;> rfl

theorem package_make : (make package declared reserved classes).package = package := by
  rw [make_eq, package_foldl_claim, afterForeign, package_foldl_claim, afterOwn,
    package_foldl_claim]
  rfl

/-- **A file writes the words of its package and of the classes that it mentions**, except perhaps
`java` and `lang`. -/
theorem mem_words_make_iff (home : declared.package = package)
    (apart : word ∉ packageWords javaLang) :
    word ∈ (make package declared reserved classes).words classes ↔
      word ∈ packageWords package ∨ ∃ c ∈ classes, word ∈ c.words := by
  let table := make package declared reserved classes
  rw [words, package_make, List.mem_append, List.mem_append, List.mem_flatMap, List.mem_flatMap,
    or_assoc]
  constructor
  · rintro (clause | ⟨name, listed, inside⟩ | ⟨c, mentioned, spelled⟩)
    · exact Or.inl clause
    · obtain ⟨top, foreign, rfl, -⟩ := (mem_imported_make_iff home).mp listed
      obtain ⟨c, mentioned, rfl⟩ := mem_tops_iff.mp (mem_foreign_iff.mp foreign).1
      exact Or.inr ⟨c, mentioned, c.words_topLevel_subset inside⟩
    · refine Or.inr ⟨c, mentioned, ?_⟩
      by_cases owner : table.owners.lookup c.outer = some c.topLevel
      · rw [spell_of_owner owner] at spelled
        rw [ClassName.words_eq]
        exact List.mem_append_right _ spelled
      · rwa [spell_of_not_owner owner] at spelled
  · rintro (clause | ⟨c, mentioned, inside⟩)
    · exact Or.inl clause
    by_cases stranger : table.owners.lookup c.outer ≠ some c.topLevel
    · rw [ClassName.words, ← spell_of_not_owner stranger] at inside
      exact Or.inr (Or.inr ⟨c, mentioned, inside⟩)
    have owner := Decidable.not_not.mp stranger
    rw [ClassName.words_eq, List.mem_append] at inside
    rcases inside with before | spelled
    · -- The package is left out: it is the own one or that of an import.
      by_cases own : c.package = package
      · exact Or.inl (own ▸ before)
      · have explicit : c.package ≠ javaLang := fun bare => apart (bare ▸ before)
        have foreign : c.topLevel ∈ foreign package classes :=
          mem_foreign_iff.mpr ⟨mem_tops_iff.mpr ⟨c, mentioned, rfl⟩, own, explicit⟩
        have listed : c.topLevel.canonical ∈ table.imported :=
          (mem_imported_make_iff home).mpr ⟨c.topLevel, foreign, rfl, owner⟩
        refine Or.inr (Or.inl ⟨c.topLevel.canonical, listed, ?_⟩)
        show word ∈ c.topLevel.words
        rw [ClassName.words_eq]
        exact List.mem_append_left _ before
    · rw [← spell_of_owner owner] at spelled
      exact Or.inr (Or.inr ⟨c, mentioned, spelled⟩)

end Imports

end Companions
