import Companions.Proofs.ClassName
import Companions.Source.Imports

/-!
What the names in a source file stand for.

`Scope.meaning?` says which class a simple name stands for in a file: a member of the file, the
class that the file declares, an import, a class of the file's own package, or a class of
`java.lang`, the first of these that there is. The owners of simple names in `Imports` are filled in
a different way, by claims in three passes:

* `lookup_foldl_claim`: a simple name goes to the first class of a pass that has it, unless it is
  taken or reserved;
* `mem_imported_foldl_claim_iff`: the pass of imports adds the classes that gain their names by it;
* `mem_imported_make_iff`: imported are the foreign outermost classes that own their simple names;
* `meaning?_of_owner`: who owns a simple name is what the name stands for.

So no spelling in the file is read as another class (`spell_sound`).
-/

namespace Companions.Imports

/-! ### Sets of names and classes -/

theorem mem_insertName_iff {name other : String} {names : List String} :
    other ∈ insertName name names ↔ other = name ∨ other ∈ names := by
  induction names with
  | nil => simp [insertName]
  | cons first rest ih =>
      rw [insertName]
      split
      · rename_i same
        simp [same]
      · split
        · exact List.mem_cons
        · rw [List.mem_cons, ih, List.mem_cons]
          constructor
          · rintro (h | h | h)
            · exact Or.inr (Or.inl h)
            · exact Or.inl h
            · exact Or.inr (Or.inr h)
          · rintro (h | h | h)
            · exact Or.inr (Or.inl h)
            · exact Or.inl h
            · exact Or.inr (Or.inr h)

/-- Insertion keeps the names ascending, so each stands there once. -/
theorem insertName_pairwise {name : String} {names : List String}
    (ascending : names.Pairwise (· < ·)) : (insertName name names).Pairwise (· < ·) := by
  induction names with
  | nil => exact List.pairwise_singleton _ _
  | cons first rest ih =>
      obtain ⟨least, ascending⟩ := List.pairwise_cons.mp ascending
      rw [insertName]
      split
      · exact List.pairwise_cons.mpr ⟨least, ascending⟩
      · rename_i other
        split
        · rename_i below
          refine List.pairwise_cons.mpr ⟨?_, List.pairwise_cons.mpr ⟨least, ascending⟩⟩
          intro later hlater
          rcases List.mem_cons.mp hlater with rfl | hlater
          · exact below
          · exact String.lt_trans below (least later hlater)
        · rename_i notBelow
          have above : first < name :=
            Std.lt_of_le_of_ne (String.not_lt.mp notBelow) (Ne.symm other)
          refine List.pairwise_cons.mpr ⟨?_, ih ascending⟩
          intro later hlater
          rcases mem_insertName_iff.mp hlater with rfl | hlater
          · exact above
          · exact least later hlater

/-- An ascending list without a second name is a single name. -/
theorem eq_singleton_of_ascending {name : String} {names : List String}
    (ascending : names.Pairwise (· < ·)) (listed : name ∈ names)
    (alone : ∀ other ∈ names, other = name) : names = [name] := by
  cases names with
  | nil => exact absurd listed List.not_mem_nil
  | cons first rest =>
      have first_eq := alone first List.mem_cons_self
      cases rest with
      | nil => rw [first_eq]
      | cons second rest =>
          have second_eq := alone second (List.mem_cons_of_mem _ List.mem_cons_self)
          have below := (List.pairwise_cons.mp ascending).1 second List.mem_cons_self
          rw [first_eq, second_eq] at below
          exact absurd below (String.lt_irrefl name)

theorem mem_insertClass_iff {c d : ClassName} {classes : List ClassName} :
    d ∈ insertClass c classes ↔ d = c ∨ d ∈ classes := by
  induction classes with
  | nil => simp [insertClass]
  | cons first rest ih =>
      rw [insertClass]
      by_cases same : c = first
      · simp [same]
      · rw [if_neg same]
        split
        · exact List.mem_cons
        · rw [List.mem_cons, ih, List.mem_cons, or_left_comm]

theorem mem_sortedClasses_iff {d : ClassName} {classes : List ClassName} :
    d ∈ sortedClasses classes ↔ d ∈ classes := by
  induction classes with
  | nil => rfl
  | cons first rest ih =>
      rw [sortedClasses, List.foldr_cons, ← sortedClasses, mem_insertClass_iff, ih, List.mem_cons]

/-! ### Claims -/

section Claims

variable {reserved : List String} {needsImport : Bool} {table : Imports} {tops : List ClassName}
  {top : ClassName} {simple name : String}

theorem lookup_claim_of_ne (other : simple ≠ top.simpleName) :
    (claim reserved needsImport table top).owners.lookup simple = table.owners.lookup simple := by
  unfold claim
  split
  · rfl
  · rw [List.lookup_cons, beq_false_of_ne other]

/-- A claim for a name that is taken or reserved is ignored. -/
theorem claim_of_taken
    (taken : top.simpleName ∈ reserved ∨ (table.owners.lookup top.simpleName).isSome = true) :
    claim reserved needsImport table top = table := by
  unfold claim
  rw [if_pos]
  simpa using taken

theorem claim_of_free (free : top.simpleName ∉ reserved)
    (vacant : table.owners.lookup top.simpleName = none) :
    claim reserved needsImport table top =
      { table with
        owners := (top.simpleName, top) :: table.owners
        imported :=
          if needsImport then insertName top.canonical table.imported else table.imported } := by
  unfold claim
  rw [if_neg]
  simp [free, vacant]

theorem lookup_claim_self (free : top.simpleName ∉ reserved)
    (vacant : table.owners.lookup top.simpleName = none) :
    (claim reserved needsImport table top).owners.lookup top.simpleName = some top := by
  rw [claim_of_free free vacant]
  exact List.lookup_cons_self

/-- A reserved name keeps the owner that it has, or stays without one. -/
theorem lookup_foldl_claim_of_reserved (isReserved : simple ∈ reserved) :
    (tops.foldl (claim reserved needsImport) table).owners.lookup simple
      = table.owners.lookup simple := by
  induction tops generalizing table with
  | nil => rfl
  | cons top rest ih =>
      rw [List.foldl_cons, ih]
      by_cases same : simple = top.simpleName
      · rw [claim_of_taken (Or.inl (same ▸ isReserved))]
      · exact lookup_claim_of_ne same

/-- **The first class to claim a name that is free owns it.** -/
theorem lookup_foldl_claim (free : simple ∉ reserved) :
    (tops.foldl (claim reserved needsImport) table).owners.lookup simple
      = (table.owners.lookup simple).or (tops.find? fun top => top.simpleName == simple) := by
  induction tops generalizing table with
  | nil => simp
  | cons top rest ih =>
      rw [List.foldl_cons, ih]
      by_cases same : simple = top.simpleName
      · subst same
        rw [List.find?_cons_of_pos (by simp)]
        cases owner : table.owners.lookup top.simpleName with
        | none => rw [lookup_claim_self free owner, Option.some_or, Option.none_or]
        | some former =>
            rw [claim_of_taken (Or.inr (by simp [owner])), owner, Option.some_or, Option.some_or]
      · rw [lookup_claim_of_ne same, List.find?_cons_of_neg (by simpa using Ne.symm same)]

/-- Whoever owns a name keeps it when another claim is made. -/
theorem lookup_claim_of_some {c : ClassName} (owner : table.owners.lookup simple = some c) :
    (claim reserved needsImport table top).owners.lookup simple = some c := by
  by_cases same : simple = top.simpleName
  · rw [claim_of_taken (Or.inr (by simp [← same, owner])), owner]
  · rw [lookup_claim_of_ne same, owner]

/-- Whoever owns a name keeps it in a pass of claims. -/
theorem lookup_foldl_claim_of_some (owner : table.owners.lookup simple = some top) :
    (tops.foldl (claim reserved needsImport) table).owners.lookup simple = some top := by
  induction tops generalizing table with
  | nil => exact owner
  | cons first rest ih => exact ih (lookup_claim_of_some owner)

/-- Claims without imports import nothing. -/
theorem imported_foldl_claim :
    (tops.foldl (claim reserved false) table).imported = table.imported := by
  induction tops generalizing table with
  | nil => rfl
  | cons top rest ih =>
      rw [List.foldl_cons, ih, claim]
      split <;> rfl

/-- Between the two tables the class came to own its simple name, which was free before. -/
def Gains (table later : Imports) (top : ClassName) : Prop :=
  table.owners.lookup top.simpleName = none ∧ later.owners.lookup top.simpleName = some top

theorem not_gains_self {c : ClassName} : ¬ Gains table table c := by
  rintro ⟨vacant, owner⟩
  rw [vacant] at owner
  exact nomatch owner

/-- By a claim, only the class that makes it gains its name. -/
theorem eq_of_gains_claim {c : ClassName}
    (gains : Gains table (claim reserved needsImport table top) c) : c = top := by
  obtain ⟨vacant, owner⟩ := gains
  by_cases same : c.simpleName = top.simpleName
  · by_cases isReserved : top.simpleName ∈ reserved
    · rw [claim_of_taken (Or.inl isReserved), vacant] at owner
      exact nomatch owner
    · rw [same] at vacant owner
      rw [lookup_claim_self isReserved vacant] at owner
      exact (Option.some.inj owner).symm
  · rw [lookup_claim_of_ne same, vacant] at owner
    exact nomatch owner

theorem mem_imported_claim_iff :
    name ∈ (claim reserved true table top).imported ↔
      name ∈ table.imported ∨
        ∃ c, name = c.canonical ∧ Gains table (claim reserved true table top) c := by
  by_cases taken : top.simpleName ∈ reserved ∨
      (table.owners.lookup top.simpleName).isSome = true
  · rw [claim_of_taken taken]
    simp [not_gains_self]
  · obtain ⟨free, occupied⟩ := not_or.mp taken
    have vacant := Option.not_isSome_iff_eq_none.mp occupied
    have listed : name ∈ (claim reserved true table top).imported ↔
        name = top.canonical ∨ name ∈ table.imported := by
      rw [claim_of_free free vacant]
      exact mem_insertName_iff
    rw [listed, or_comm]
    refine or_congr_right ⟨?_, ?_⟩
    · rintro rfl
      exact ⟨top, rfl, vacant, lookup_claim_self free vacant⟩
    · rintro ⟨c, rfl, gains⟩
      rw [eq_of_gains_claim gains]

/-- What a pass brings is brought by its first claim or by those after it. -/
theorem gains_foldl_cons_iff {rest : List ClassName} {c : ClassName} :
    Gains table ((top :: rest).foldl (claim reserved needsImport) table) c ↔
      Gains table (claim reserved needsImport table top) c ∨
        Gains (claim reserved needsImport table top)
          ((top :: rest).foldl (claim reserved needsImport) table) c := by
  rw [List.foldl_cons]
  constructor
  · rintro ⟨vacant, owner⟩
    cases between : (claim reserved needsImport table top).owners.lookup c.simpleName with
    | none => exact Or.inr ⟨between, owner⟩
    | some d =>
        rw [lookup_foldl_claim_of_some between] at owner
        exact Or.inl ⟨vacant, owner ▸ between⟩
  · rintro (⟨vacant, owner⟩ | ⟨vacant, owner⟩)
    · exact ⟨vacant, lookup_foldl_claim_of_some owner⟩
    · refine ⟨?_, owner⟩
      cases before : table.owners.lookup c.simpleName with
      | none => rfl
      | some d =>
          rw [lookup_claim_of_some before] at vacant
          exact nomatch vacant

/-- A pass of imports adds the classes that gain their names by it. -/
theorem mem_imported_foldl_claim_iff :
    name ∈ (tops.foldl (claim reserved true) table).imported ↔
      name ∈ table.imported ∨
        ∃ c, name = c.canonical ∧ Gains table (tops.foldl (claim reserved true) table) c := by
  induction tops generalizing table with
  | nil => simp [not_gains_self]
  | cons top rest ih =>
      simp only [gains_foldl_cons_iff, and_or_left, exists_or]
      rw [List.foldl_cons, ih, mem_imported_claim_iff, or_assoc]

/-- Only a class of the pass gains its name by it. -/
theorem mem_of_gains {c : ClassName}
    (gains : Gains table (tops.foldl (claim reserved needsImport) table) c) : c ∈ tops := by
  induction tops generalizing table with
  | nil => exact absurd gains not_gains_self
  | cons top rest ih =>
      rcases gains_foldl_cons_iff.mp gains with first | later
      · rw [eq_of_gains_claim first]
        exact List.mem_cons_self
      · exact List.mem_cons_of_mem top (ih later)

theorem imported_foldl_claim_pairwise (ascending : table.imported.Pairwise (· < ·)) :
    (tops.foldl (claim reserved needsImport) table).imported.Pairwise (· < ·) := by
  induction tops generalizing table with
  | nil => exact ascending
  | cons top rest ih =>
      rw [List.foldl_cons]
      refine ih ?_
      unfold claim
      split
      · exact ascending
      · cases needsImport with
        | false => exact ascending
        | true => exact insertName_pairwise ascending

end Claims

/-! ### The table of a file -/

/-- The outermost classes around those that are mentioned. -/
def tops (classes : List ClassName) : List ClassName :=
  sortedClasses (classes.map ClassName.topLevel)

/-- Those of the file's own package. -/
def own (package : String) (classes : List ClassName) : List ClassName :=
  (tops classes).filter fun c => c.package == package

/-- Those that need an import to go by their simple names. -/
def foreign (package : String) (classes : List ClassName) : List ClassName :=
  ((tops classes).filter fun c => c.package != package).filter fun c => c.package != javaLang

/-- Those of `java.lang`, in a file of another package. -/
def implicit (package : String) (classes : List ClassName) : List ClassName :=
  ((tops classes).filter fun c => c.package != package).filter fun c => c.package == javaLang

section Make

variable {declared top c : ClassName} {reserved : List String} {classes : List ClassName}
  {package simple name : String}

theorem mem_tops_iff : top ∈ tops classes ↔ ∃ c ∈ classes, c.topLevel = top := by
  rw [tops, mem_sortedClasses_iff, List.mem_map]

theorem mem_own_iff : top ∈ own package classes ↔ top ∈ tops classes ∧ top.package = package := by
  simp [own]

theorem mem_foreign_iff :
    top ∈ foreign package classes ↔
      top ∈ tops classes ∧ top.package ≠ package ∧ top.package ≠ javaLang := by
  simp only [foreign, List.mem_filter, bne_iff_ne, and_assoc]

theorem mem_implicit_iff :
    top ∈ implicit package classes ↔
      top ∈ tops classes ∧ top.package ≠ package ∧ top.package = javaLang := by
  simp only [implicit, List.mem_filter, bne_iff_ne, beq_iff_eq, and_assoc]

theorem simpleName_of_mem_tops (mentioned : top ∈ tops classes) : top.simpleName = top.outer := by
  obtain ⟨c, -, rfl⟩ := mem_tops_iff.mp mentioned
  rfl

/-- The table before any claim: the class that the file declares owns its name. -/
def begin (package : String) (declared : ClassName) : Imports :=
  { package, owners := [(declared.simpleName, declared.topLevel)], imported := [] }

/-- The table after the claims of the file's own package. -/
def afterOwn (package : String) (declared : ClassName) (reserved : List String)
    (classes : List ClassName) : Imports :=
  (own package classes).foldl (claim reserved false) (begin package declared)

/-- The table after the claims of the classes to import. -/
def afterForeign (package : String) (declared : ClassName) (reserved : List String)
    (classes : List ClassName) : Imports :=
  (foreign package classes).foldl (claim reserved true)
    (afterOwn package declared reserved classes)

theorem make_eq :
    make package declared reserved classes =
      (implicit package classes).foldl (claim reserved false)
        (afterForeign package declared reserved classes) :=
  rfl

theorem lookup_begin_of_ne (other : simple ≠ declared.simpleName) :
    (begin package declared).owners.lookup simple = none := by
  rw [begin, List.lookup_cons, beq_false_of_ne other]
  rfl

/-- The class that the file declares owns its name, even if that is reserved. -/
theorem lookup_make_declared :
    (make package declared reserved classes).owners.lookup declared.simpleName
      = some declared.topLevel := by
  have owner : (begin package declared).owners.lookup declared.simpleName
      = some declared.topLevel := List.lookup_cons_self
  rw [make_eq]
  exact lookup_foldl_claim_of_some (lookup_foldl_claim_of_some (lookup_foldl_claim_of_some owner))

theorem lookup_make_of_reserved (other : simple ≠ declared.simpleName)
    (isReserved : simple ∈ reserved) :
    (make package declared reserved classes).owners.lookup simple = none := by
  rw [make_eq, lookup_foldl_claim_of_reserved isReserved, afterForeign,
    lookup_foldl_claim_of_reserved isReserved, afterOwn,
    lookup_foldl_claim_of_reserved isReserved, lookup_begin_of_ne other]

theorem lookup_make (other : simple ≠ declared.simpleName) (free : simple ∉ reserved) :
    (make package declared reserved classes).owners.lookup simple =
      (((own package classes).find? fun top => top.simpleName == simple).or
        ((foreign package classes).find? fun top => top.simpleName == simple)).or
        ((implicit package classes).find? fun top => top.simpleName == simple) := by
  rw [make_eq, lookup_foldl_claim free, afterForeign, lookup_foldl_claim free, afterOwn,
    lookup_foldl_claim free, lookup_begin_of_ne other, Option.none_or]

/-- Who owns a simple name that is not the one of the class the file declares: a class that has it,
and no class of an earlier pass has it too. -/
structure OwnsByClaim (package : String) (reserved : List String) (classes : List ClassName)
    (simple : String) (top : ClassName) : Prop where
  free : simple ∉ reserved
  mentioned : top ∈ tops classes
  named : top.outer = simple
  noneOwn : top.package ≠ package → ∀ c ∈ tops classes, c.package = package → c.outer ≠ simple
  noneForeign : top.package ≠ package → top.package = javaLang →
    ∀ c ∈ foreign package classes, c.outer ≠ simple

theorem outer_of_find? {pass : List ClassName} (inside : ∀ c ∈ pass, c ∈ tops classes)
    (found : (pass.find? fun top => top.simpleName == simple) = some top) :
    top ∈ pass ∧ top.outer = simple := by
  have member := List.mem_of_find?_eq_some found
  have same := List.find?_some found
  rw [beq_iff_eq, simpleName_of_mem_tops (inside top member)] at same
  exact ⟨member, same⟩

theorem outer_ne_of_find?_eq_none {pass : List ClassName} (inside : ∀ c ∈ pass, c ∈ tops classes)
    (missed : (pass.find? fun top => top.simpleName == simple) = none) :
    ∀ c ∈ pass, c.outer ≠ simple := by
  intro c hc
  have other := List.find?_eq_none.mp missed c hc
  rwa [beq_iff_eq, simpleName_of_mem_tops (inside c hc)] at other

theorem ownsByClaim_of_lookup (other : simple ≠ declared.simpleName)
    (owner : (make package declared reserved classes).owners.lookup simple = some top) :
    OwnsByClaim package reserved classes simple top := by
  have free : simple ∉ reserved := by
    intro isReserved
    rw [lookup_make_of_reserved other isReserved] at owner
    exact nomatch owner
  have insideOwn : ∀ c ∈ own package classes, c ∈ tops classes :=
    fun c hc => (mem_own_iff.mp hc).1
  have insideForeign : ∀ c ∈ foreign package classes, c ∈ tops classes :=
    fun c hc => (mem_foreign_iff.mp hc).1
  rw [lookup_make other free, Option.or_eq_some_iff, Option.or_eq_some_iff,
    Option.or_eq_none_iff] at owner
  rcases owner with (found | ⟨missed, found⟩) | ⟨⟨missed, missed'⟩, found⟩
  · obtain ⟨member, named⟩ := outer_of_find? insideOwn found
    obtain ⟨mentioned, home⟩ := mem_own_iff.mp member
    exact ⟨free, mentioned, named, fun away => absurd home away, fun away => absurd home away⟩
  · obtain ⟨member, named⟩ := outer_of_find? insideForeign found
    obtain ⟨mentioned, -, explicit⟩ := mem_foreign_iff.mp member
    have noneOwn := outer_ne_of_find?_eq_none insideOwn missed
    exact ⟨free, mentioned, named, fun _ c hc home => noneOwn c (mem_own_iff.mpr ⟨hc, home⟩),
      fun _ bare => absurd bare explicit⟩
  · obtain ⟨member, named⟩ := outer_of_find? (fun c hc => (mem_implicit_iff.mp hc).1) found
    have noneOwn := outer_ne_of_find?_eq_none insideOwn missed
    have noneForeign := outer_ne_of_find?_eq_none insideForeign missed'
    exact ⟨free, (mem_implicit_iff.mp member).1, named,
      fun _ c hc home => noneOwn c (mem_own_iff.mpr ⟨hc, home⟩), fun _ _ => noneForeign⟩

/-- A foreign class that owns its name gained it in the pass of imports. -/
theorem gains_of_owner (home : declared.package = package) (member : top ∈ foreign package classes)
    (owner : (make package declared reserved classes).owners.lookup top.outer = some top) :
    Gains (afterOwn package declared reserved classes)
      (afterForeign package declared reserved classes) top := by
  obtain ⟨mentioned, away, explicit⟩ := mem_foreign_iff.mp member
  have other : top.outer ≠ declared.simpleName := by
    intro same
    rw [same, lookup_make_declared] at owner
    exact away (Option.some.inj owner ▸ home)
  have owns := ownsByClaim_of_lookup other owner
  have missed : ((own package classes).find? fun c => c.simpleName == top.outer) = none := by
    refine List.find?_eq_none.mpr fun c hc => ?_
    obtain ⟨inside, near⟩ := mem_own_iff.mp hc
    rw [beq_iff_eq, simpleName_of_mem_tops inside]
    exact owns.noneOwn away c inside near
  have vacant : (afterOwn package declared reserved classes).owners.lookup top.outer = none := by
    rw [afterOwn, lookup_foldl_claim owns.free, lookup_begin_of_ne other, missed, Option.or_none]
  rw [Gains, simpleName_of_mem_tops mentioned]
  refine ⟨vacant, ?_⟩
  rw [lookup_make other owns.free, missed, Option.none_or, Option.or_eq_some_iff] at owner
  rcases owner with found | ⟨-, found⟩
  · rw [afterForeign, lookup_foldl_claim owns.free, vacant, Option.none_or, found]
  · have bare := (mem_implicit_iff.mp (List.mem_of_find?_eq_some found)).2.2
    exact absurd bare explicit

/-- **What is imported**: the foreign outermost classes that own their simple names. -/
theorem mem_imported_make_iff (home : declared.package = package) :
    name ∈ (make package declared reserved classes).imported ↔
      ∃ top ∈ foreign package classes, name = top.canonical ∧
        (make package declared reserved classes).owners.lookup top.outer = some top := by
  have passes : name ∈ (make package declared reserved classes).imported ↔
      ∃ top, name = top.canonical ∧ Gains (afterOwn package declared reserved classes)
        (afterForeign package declared reserved classes) top := by
    rw [make_eq, imported_foldl_claim, afterForeign, mem_imported_foldl_claim_iff, afterOwn,
      imported_foldl_claim]
    simp [begin]
  rw [passes]
  constructor
  · rintro ⟨top, rfl, gains⟩
    have member : top ∈ foreign package classes := mem_of_gains gains
    refine ⟨top, member, rfl, ?_⟩
    rw [← simpleName_of_mem_tops (mem_foreign_iff.mp member).1]
    exact lookup_foldl_claim_of_some gains.2
  · rintro ⟨top, member, rfl, owner⟩
    exact ⟨top, rfl, gains_of_owner home member owner⟩

theorem imported_make_pairwise :
    (make package declared reserved classes).imported.Pairwise (· < ·) := by
  rw [make_eq]
  exact imported_foldl_claim_pairwise (imported_foldl_claim_pairwise
    (imported_foldl_claim_pairwise List.Pairwise.nil))

end Make

/-! ### What a simple name stands for -/

/-- What decides the meaning of simple names in a file: the class that it declares, the names of
the members in it, its imports, and the outermost classes that there are. -/
structure Scope where
  declared : ClassName
  members : List String
  imports : List String
  classes : List ClassName

/-- The simple name under which an import makes a class known. -/
def importedAs (name : String) : String :=
  String.ofList ((ClassName.segments name.toList).getLastD [])

/-- The class that a simple name stands for at the head of a type. A member of the file hides all
classes of its name; two imports of one simple name leave it without a meaning. -/
def Scope.meaning? (s : Scope) (simple : String) : Option ClassName :=
  if simple ∈ s.members then none
  else if simple = s.declared.outer then some s.declared
  else
    match s.imports.filter fun name => importedAs name == simple with
    | [name] => (ClassName.parse name).toOption
    | _ :: _ :: _ => none
    | [] =>
      if (⟨s.declared.package, simple, []⟩ : ClassName) ∈ s.classes then
        some ⟨s.declared.package, simple, []⟩
      else if (⟨javaLang, simple, []⟩ : ClassName) ∈ s.classes then some ⟨javaLang, simple, []⟩
      else none

/-- The scope of a file with this table of imports. -/
def scope (table : Imports) (declared : ClassName) (reserved : List String)
    (classes : List ClassName) : Scope :=
  { declared, members := reserved, imports := table.imported, classes := tops classes }

section Meaning

variable {declared top c d : ClassName} {reserved : List String} {classes : List ClassName}
  {simple name : String}

/-- Classes as they are mentioned in code that was read: in a package, and with a name that can be
read. -/
def Nameable (c : ClassName) : Prop :=
  (∃ name, ClassName.parse name = .ok c) ∧ c.package ≠ ""

theorem segmented_of_mem_tops (nameable : ∀ c ∈ classes, Nameable c)
    (mentioned : top ∈ tops classes) :
    ∃ before segment, ClassName.Segmented top before segment [] := by
  obtain ⟨c, hc, rfl⟩ := mem_tops_iff.mp mentioned
  obtain ⟨⟨name, read⟩, -⟩ := nameable c hc
  obtain ⟨before, segment, rest, made⟩ := ClassName.segmented_of_parse read
  exact ⟨before, segment, made.topLevel⟩

theorem importedAs_canonical {before : List (List Char)} {segment : List Char}
    (made : ClassName.Segmented top before segment []) : importedAs top.canonical = top.outer := by
  rw [importedAs, made.segments_canonical, made.outer_eq]
  simp

/-- An import of a simple name is that of the class that owns the name. -/
theorem eq_of_imported (nameable : ∀ c ∈ classes, Nameable c)
    (owner : (make declared.package declared reserved classes).owners.lookup simple = some top)
    (imported : name ∈ (make declared.package declared reserved classes).imported)
    (named : importedAs name = simple) :
    name = top.canonical ∧ top ∈ foreign declared.package classes := by
  obtain ⟨d, member, rfl, owns⟩ := (mem_imported_make_iff rfl).mp imported
  obtain ⟨before, segment, made⟩ := segmented_of_mem_tops nameable (mem_foreign_iff.mp member).1
  rw [importedAs_canonical made] at named
  rw [named, owner] at owns
  obtain rfl := Option.some.inj owns
  exact ⟨rfl, member⟩

/-- A class that is not to be imported owns a name that no import has. -/
theorem imports_eq_nil (nameable : ∀ c ∈ classes, Nameable c)
    (owner : (make declared.package declared reserved classes).owners.lookup simple = some top)
    (known : top ∉ foreign declared.package classes) :
    ((make declared.package declared reserved classes).imported.filter fun name =>
      importedAs name == simple) = [] := by
  refine List.filter_eq_nil_iff.mpr fun name imported named => ?_
  exact known (eq_of_imported nameable owner imported (beq_iff_eq.mp named)).2

/-- A class to be imported owns the name of its import, and no other import has it. -/
theorem imports_eq_singleton (nameable : ∀ c ∈ classes, Nameable c)
    (owner : (make declared.package declared reserved classes).owners.lookup simple = some top)
    (member : top ∈ foreign declared.package classes) (named : top.outer = simple) :
    ((make declared.package declared reserved classes).imported.filter fun name =>
      importedAs name == simple) = [top.canonical] := by
  obtain ⟨before, segment, made⟩ := segmented_of_mem_tops nameable (mem_foreign_iff.mp member).1
  have imported : top.canonical ∈ (make declared.package declared reserved classes).imported :=
    (mem_imported_make_iff rfl).mpr ⟨top, member, rfl, named ▸ owner⟩
  have listed : top.canonical ∈ (make declared.package declared reserved classes).imported.filter
      fun name => importedAs name == simple :=
    List.mem_filter.mpr ⟨imported, beq_iff_eq.mpr ((importedAs_canonical made).trans named)⟩
  have alone : ∀ name ∈ (make declared.package declared reserved classes).imported.filter
      fun name => importedAs name == simple, name = top.canonical := by
    intro name hname
    obtain ⟨imported, named⟩ := List.mem_filter.mp hname
    exact (eq_of_imported nameable owner imported (beq_iff_eq.mp named)).1
  have distinct : ((make declared.package declared reserved classes).imported.filter
      fun name => importedAs name == simple).Pairwise (· < ·) :=
    imported_make_pairwise.filter _
  exact eq_singleton_of_ascending distinct listed alone

/-- **Who owns a simple name is what the name stands for.** -/
theorem meaning?_of_owner (outermost : declared.inner = []) (apart : declared.outer ∉ reserved)
    (nameable : ∀ c ∈ classes, Nameable c)
    (owner : (make declared.package declared reserved classes).owners.lookup simple = some top) :
    (scope (make declared.package declared reserved classes) declared reserved classes).meaning?
      simple = some top := by
  have simpleDeclared : declared.simpleName = declared.outer := by
    simp [ClassName.simpleName, outermost]
  unfold Scope.meaning?
  generalize inFile : scope (make declared.package declared reserved classes) declared reserved
    classes = file
  have members : file.members = reserved := by rw [← inFile]; rfl
  have itself : file.declared = declared := by rw [← inFile]; rfl
  have imports : file.imports = (make declared.package declared reserved classes).imported := by
    rw [← inFile]; rfl
  have known : file.classes = tops classes := by rw [← inFile]; rfl
  rw [members, itself, imports, known]
  by_cases named : simple = declared.outer
  · have top_eq : declared.topLevel = declared := by
      rw [ClassName.topLevel, ← outermost]
    rw [named, ← simpleDeclared, lookup_make_declared, top_eq] at owner
    rw [named, if_neg apart, if_pos rfl]
    exact owner
  · have owns := ownsByClaim_of_lookup (simpleDeclared ▸ named) owner
    have shape : top = ⟨top.package, simple, []⟩ := by
      obtain ⟨c, -, rfl⟩ := mem_tops_iff.mp owns.mentioned
      rw [← owns.named]
      rfl
    rw [if_neg owns.free, if_neg named]
    by_cases home : top.package = declared.package
    · have near : top ∉ foreign declared.package classes :=
        fun member => (mem_foreign_iff.mp member).2.1 home
      rw [home] at shape
      rw [imports_eq_nil nameable owner near, ← shape]
      exact if_pos owns.mentioned
    · by_cases bare : top.package = javaLang
      · have near : top ∉ foreign declared.package classes :=
          fun member => (mem_foreign_iff.mp member).2.2 bare
        have absent : (⟨declared.package, simple, []⟩ : ClassName) ∉ tops classes :=
          fun mentioned => owns.noneOwn home _ mentioned rfl rfl
        rw [bare] at shape
        rw [imports_eq_nil nameable owner near, ← shape]
        simp only [if_neg absent]
        exact if_pos owns.mentioned
      · have member := mem_foreign_iff.mpr ⟨owns.mentioned, home, bare⟩
        obtain ⟨before, segment, made⟩ := segmented_of_mem_tops nameable owns.mentioned
        rw [imports_eq_singleton nameable owner member owns.named]
        simp only [made.parse_canonical]
        rfl

/-! ### Spellings -/

theorem spell_of_owner {table : Imports} (owner : table.owners.lookup c.outer = some c.topLevel) :
    table.spell c = c.relative := by
  rw [spell, if_pos (beq_iff_eq.mpr owner)]

theorem spell_of_not_owner {table : Imports}
    (stranger : table.owners.lookup c.outer ≠ some c.topLevel) : table.spell c = c.canonical := by
  rw [spell, if_neg (mt beq_iff_eq.mp stranger)]

theorem eq_of_spell_eq {table : Imports} (nameable : Nameable c) (nameable' : Nameable d)
    (same : table.spell c = table.spell d) : c = d := by
  obtain ⟨⟨name, read⟩, packaged⟩ := nameable
  obtain ⟨⟨name', read'⟩, packaged'⟩ := nameable'
  obtain ⟨before, segment, rest, made⟩ := ClassName.segmented_of_parse read
  obtain ⟨before', segment', rest', made'⟩ := ClassName.segmented_of_parse read'
  by_cases owner : table.owners.lookup c.outer = some c.topLevel
  · rw [spell_of_owner owner] at same
    by_cases owner' : table.owners.lookup d.outer = some d.topLevel
    · rw [spell_of_owner owner'] at same
      obtain ⟨outer, inner⟩ := made.eq_of_relative_eq made' same
      rw [outer, owner'] at owner
      have package := congrArg ClassName.package (Option.some.inj owner)
      cases c
      cases d
      simp_all [ClassName.topLevel]
    · rw [spell_of_not_owner owner'] at same
      exact absurd same (made.relative_ne_canonical made' packaged')
  · rw [spell_of_not_owner owner] at same
    by_cases owner' : table.owners.lookup d.outer = some d.topLevel
    · rw [spell_of_owner owner'] at same
      exact absurd same.symm (made'.relative_ne_canonical made packaged)
    · rw [spell_of_not_owner owner'] at same
      have again := made.parse_canonical
      rw [same, made'.parse_canonical] at again
      exact (Except.ok.inj again).symm

theorem importedAs_nodup (nameable : ∀ c ∈ classes, Nameable c) :
    ((make declared.package declared reserved classes).imported.map importedAs).Nodup := by
  refine List.pairwise_map.mpr (imported_make_pairwise.imp_of_mem ?_)
  intro name other hname hother below same
  obtain ⟨top, member, rfl, owner⟩ := (mem_imported_make_iff rfl).mp hother
  obtain ⟨before, segment, made⟩ := segmented_of_mem_tops nameable (mem_foreign_iff.mp member).1
  rw [importedAs_canonical made] at same
  rw [(eq_of_imported nameable owner hname same).1] at below
  exact String.lt_irrefl _ below

/-- What an import is: a foreign class that is mentioned, by a name that is free. -/
theorem imported_free (outermost : declared.inner = []) (nameable : ∀ c ∈ classes, Nameable c)
    (imported : name ∈ (make declared.package declared reserved classes).imported) :
    importedAs name ≠ declared.outer ∧ importedAs name ∉ reserved ∧
      ∃ c ∈ classes, name = c.topLevel.canonical ∧ c.package ≠ declared.package ∧
        c.package ≠ javaLang := by
  obtain ⟨top, member, rfl, owner⟩ := (mem_imported_make_iff rfl).mp imported
  obtain ⟨mentioned, away, explicit⟩ := mem_foreign_iff.mp member
  obtain ⟨before, segment, made⟩ := segmented_of_mem_tops nameable mentioned
  have simpleDeclared : declared.simpleName = declared.outer := by
    simp [ClassName.simpleName, outermost]
  have other : top.outer ≠ declared.simpleName := by
    intro same
    rw [same, lookup_make_declared] at owner
    exact away (congrArg ClassName.package (Option.some.inj owner)).symm
  rw [importedAs_canonical made]
  refine ⟨simpleDeclared ▸ other, (ownsByClaim_of_lookup other owner).free, ?_⟩
  obtain ⟨c, hc, rfl⟩ := mem_tops_iff.mp mentioned
  exact ⟨c, hc, rfl, away, explicit⟩

theorem spell_eq_relative_iff (nameable : ∀ c ∈ classes, Nameable c) (mentioned : c ∈ classes)
    (away : c.package ≠ declared.package) (explicit : c.package ≠ javaLang) :
    (make declared.package declared reserved classes).spell c = c.relative ↔
      c.topLevel.canonical ∈ (make declared.package declared reserved classes).imported := by
  obtain ⟨⟨name, read⟩, packaged⟩ := nameable c mentioned
  obtain ⟨before, segment, rest, made⟩ := ClassName.segmented_of_parse read
  have top : c.topLevel ∈ foreign declared.package classes :=
    mem_foreign_iff.mpr ⟨mem_tops_iff.mpr ⟨c, mentioned, rfl⟩, away, explicit⟩
  rw [mem_imported_make_iff rfl]
  constructor
  · intro short
    refine ⟨c.topLevel, top, rfl, ?_⟩
    by_cases owner : (make declared.package declared reserved classes).owners.lookup c.outer
        = some c.topLevel
    · exact owner
    · rw [spell_of_not_owner owner] at short
      exact absurd short.symm (made.relative_ne_canonical made packaged)
  · rintro ⟨d, member, same, owner⟩
    obtain ⟨before', segment', made'⟩ :=
      segmented_of_mem_tops nameable (mem_foreign_iff.mp member).1
    have again := made.topLevel.parse_canonical
    rw [same, made'.parse_canonical] at again
    obtain rfl := Except.ok.inj again
    exact spell_of_owner owner

/-- **No spelling is read as another class.** In a file that declares an outermost class, whatever
names its members reserve, every class mentioned is spelled with its package or from its outermost
class on, and then the simple name of that one is not reserved and stands for it in the file. So
different classes have different spellings. No two imports have one simple name, and none has that
of the declared class or of a member, or comes from the file's package or `java.lang`; a class from
elsewhere goes without its package exactly if its outermost class is imported. -/
theorem spell_sound (outermost : declared.inner = []) (apart : declared.outer ∉ reserved)
    (nameable : ∀ c ∈ classes, Nameable c) :
    let table := make declared.package declared reserved classes
    let file := scope table declared reserved classes
    (∀ c ∈ classes, table.spell c = c.canonical ∨
      table.spell c = c.relative ∧ c.outer ∉ reserved ∧
        file.meaning? c.outer = some c.topLevel) ∧
    (∀ c ∈ classes, ∀ d ∈ classes, table.spell c = table.spell d → c = d) ∧
    (table.imported.map importedAs).Nodup ∧
    (∀ name ∈ table.imported, importedAs name ≠ declared.outer ∧ importedAs name ∉ reserved ∧
      ∃ c ∈ classes, name = c.topLevel.canonical ∧ c.package ≠ declared.package ∧
        c.package ≠ javaLang) ∧
    ∀ c ∈ classes, c.package ≠ declared.package → c.package ≠ javaLang →
      (table.spell c = c.relative ↔ c.topLevel.canonical ∈ table.imported) := by
  intro table file
  refine ⟨?_, ?_, importedAs_nodup nameable, ?_, ?_⟩
  · intro c mentioned
    by_cases owner : table.owners.lookup c.outer = some c.topLevel
    · have means := meaning?_of_owner outermost apart nameable owner
      refine Or.inr ⟨spell_of_owner owner, fun isReserved => ?_, means⟩
      rw [Scope.meaning?, if_pos (show c.outer ∈ (scope _ _ _ _).members from isReserved)] at means
      exact nomatch means
    · exact Or.inl (spell_of_not_owner owner)
  · intro c hc d hd same
    exact eq_of_spell_eq (nameable c hc) (nameable d hd) same
  · intro name imported
    exact imported_free outermost nameable imported
  · intro c mentioned away explicit
    exact spell_eq_relative_iff nameable mentioned away explicit

/-- Two classes of one simple name, one of the file's own package and one that a member hides. -/
def bundles : List ClassName :=
  [⟨"com.other", "Bundle", []⟩, ⟨"android.os", "Bundle", []⟩, ⟨"java.lang", "String", []⟩,
    ⟨"com.example", "Editor", ["Mode"]⟩, ⟨"com.other", "Listener", []⟩]

theorem spell_sound_bundles :
    let declared : ClassName := ⟨"com.example", "EditorCompanion", []⟩
    let table := make declared.package declared ["Listener"] bundles
    declared.inner = [] ∧ declared.outer ∉ ["Listener"] ∧ (∀ c ∈ bundles, Nameable c) ∧
      table.imported = ["android.os.Bundle"] ∧
      bundles.map table.spell
        = ["com.other.Bundle", "Bundle", "String", "Editor.Mode", "com.other.Listener"] ∧
      (∀ c ∈ bundles, ∀ d ∈ bundles, table.spell c = table.spell d → c = d) ∧
      (scope table declared ["Listener"] bundles).meaning? "Bundle"
        = some ⟨"android.os", "Bundle", []⟩ := by
  intro declared table
  have checked : ∀ c ∈ bundles,
      (ClassName.parse c.canonical).toOption = some c ∧ c.package ≠ "" := by decide +kernel
  have nameable : ∀ c ∈ bundles, Nameable c := by
    intro c hc
    obtain ⟨read, packaged⟩ := checked c hc
    cases result : ClassName.parse c.canonical with
    | error error => simp [result, Except.toOption] at read
    | ok d =>
        simp only [result, Except.toOption, Option.some.injEq] at read
        exact ⟨⟨c.canonical, read ▸ result⟩, packaged⟩
  have apart : declared.outer ∉ ["Listener"] := by decide
  have spellings : bundles.map table.spell
      = ["com.other.Bundle", "Bundle", "String", "Editor.Mode", "com.other.Listener"] := by
    decide +kernel
  obtain ⟨sound, distinct, -⟩ := spell_sound (rfl : declared.inner = []) apart nameable
  refine ⟨rfl, apart, nameable, by decide +kernel, spellings, distinct, ?_⟩
  have mentioned : (⟨"android.os", "Bundle", []⟩ : ClassName) ∈ bundles := by decide
  have short : table.spell ⟨"android.os", "Bundle", []⟩ ≠ "android.os.Bundle" := by decide +kernel
  rcases sound _ mentioned with long | ⟨-, -, means⟩
  · exact absurd long short
  · exact means

end Meaning

end Companions.Imports
