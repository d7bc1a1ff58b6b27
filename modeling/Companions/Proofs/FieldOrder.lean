import Companions.Field
import Mathlib.Data.List.Sort

/-!
The order of fields and what insertion makes of it.

* `Field.Before` is a strict order, total on fields whose keys or names differ.
* `FieldSet.insertInto_perm`, `FieldSet.insertInto_pairwise` — inserting loses nothing when no
  equal field is there, and keeps an ascending list ascending.
* `Field.eq_inOrder` — an ascending list is determined by its members: it is `Field.inOrder` of any
  rearrangement of itself. So a set of fields is its members in order, however it was filled.
-/

namespace Companions

namespace Field

/-- `f` stands before `g`: its key is lower, or the keys agree and its name is. -/
def Before (f g : Field) : Prop :=
  f.compare g = .lt

/-- The fields by ascending key, those of one key by name. -/
def inOrder (fields : List Field) : List Field :=
  fields.mergeSort fun f g => (f.compare g).isLE

/-- Comparing fields is the lexicographic product of comparing keys and comparing names, so it
inherits the laws of both. -/
instance : Std.TransCmp compare :=
  inferInstanceAs (Std.TransCmp (compareLex (compareOn order) (compareOn name)))

theorem compare_eq_eq_iff {f g : Field} :
    f.compare g = .eq ↔ f.order = g.order ∧ f.name = g.name := by
  simp only [compare, Ordering.then_eq_eq, Std.LawfulEqCmp.compare_eq_iff_eq]

/-- The order, spelled out. -/
theorem before_iff {f g : Field} :
    Before f g ↔ f.order < g.order ∨ f.order = g.order ∧ f.name < g.name := by
  unfold Before compare
  rw [Ordering.then_eq_lt, Nat.compare_eq_lt, Nat.compare_eq_eq]
  exact or_congr_right (and_congr_right fun _ => compareOfLessAndEq_eq_lt)

theorem Before.trans {f g h : Field} (fg : Before f g) (gh : Before g h) : Before f h :=
  Std.TransCmp.lt_trans fg gh

/-- A field is before another when the other is after it. -/
theorem before_iff_gt {f g : Field} : Before f g ↔ g.compare f = .gt :=
  Std.OrientedCmp.gt_iff_lt.symm

theorem Before.isLE {f g : Field} (h : Before f g) : (f.compare g).isLE = true := by
  rw [Before] at h
  rw [h]
  rfl

/-- Two members of an ascending list that stand at one place of the order are the same member. -/
theorem eq_of_compare_eq {l : List Field} (ascending : l.Pairwise Before) {f g : Field}
    (hf : f ∈ l) (hg : g ∈ l) (same : f.compare g = .eq) : f = g := by
  have apart : l.Pairwise fun f g => f.compare g = .eq → f = g :=
    ascending.imp fun before equal => by simp [Before, equal] at before
  have apartFlipped : l.Pairwise (flip fun f g => f.compare g = .eq → f = g) :=
    ascending.imp fun before equal => by simp [before_iff_gt.mp before] at equal
  exact apart.forall_of_forall_of_flip (fun _ _ _ => rfl) apartFlipped hf hg same

/-- **An ascending list is determined by its members.** -/
theorem eq_inOrder {l fields : List Field} (perm : l.Perm fields)
    (ascending : l.Pairwise Before) : l = inOrder fields := by
  have sorted : (inOrder fields).Pairwise fun f g => (f.compare g).isLE = true :=
    List.pairwise_mergeSort (fun _ _ _ => Std.TransCmp.isLE_trans)
      (fun f g => by
        rw [show g.compare f = (f.compare g).swap from Std.OrientedCmp.eq_swap]
        cases f.compare g <;> rfl) fields
  have same : l.Perm (inOrder fields) := perm.trans (List.mergeSort_perm fields _).symm
  refine List.Perm.eq_of_pairwise (fun f g hf hg fg gf => ?_)
    (ascending.imp Before.isLE) sorted same
  exact eq_of_compare_eq ascending hf (same.mem_iff.mpr hg)
    (Std.OrientedCmp.isLE_antisymm fg gf)

theorem inOrder_perm (fields : List Field) : (inOrder fields).Perm fields :=
  List.mergeSort_perm fields _

end Field

namespace FieldSet

open Companions.Field

/-- The fields that insertion leaves are those that were there, and at most the new one. -/
theorem mem_of_mem_insertInto {f g : Field} {l : List Field} (h : g ∈ insertInto f l) :
    g = f ∨ g ∈ l := by
  induction l with
  | nil => exact Or.inl (List.mem_singleton.mp h)
  | cons head rest ih =>
      simp only [insertInto] at h
      split at h
      · exact List.mem_cons.mp h
      · exact Or.inr h
      · rcases List.mem_cons.mp h with rfl | h
        · exact Or.inr List.mem_cons_self
        · exact (ih h).imp_right (List.mem_cons_of_mem head)

/-- Unless an equal field is there, insertion adds the field and keeps all others. -/
theorem insertInto_perm {f : Field} {l : List Field} (fresh : ∀ g ∈ l, f.compare g ≠ .eq) :
    (insertInto f l).Perm (f :: l) := by
  induction l with
  | nil => exact List.Perm.refl _
  | cons head rest ih =>
      have freshRest : ∀ g ∈ rest, f.compare g ≠ .eq :=
        fun g hg => fresh g (List.mem_cons_of_mem head hg)
      simp only [insertInto]
      split
      · exact List.Perm.refl _
      · rename_i same
        exact absurd same (fresh head List.mem_cons_self)
      · exact ((ih freshRest).cons head).trans (List.Perm.swap f head rest)

/-- Insertion keeps an ascending list ascending. -/
theorem insertInto_pairwise {f : Field} {l : List Field} (ascending : l.Pairwise Before) :
    (insertInto f l).Pairwise Before := by
  induction l with
  | nil => exact List.pairwise_singleton Before f
  | cons head rest ih =>
      obtain ⟨first, ascendingRest⟩ := List.pairwise_cons.mp ascending
      simp only [insertInto]
      split
      · rename_i before
        refine List.pairwise_cons.mpr ⟨fun g hg => ?_, ascending⟩
        rcases List.mem_cons.mp hg with rfl | hg
        · exact before
        · exact Before.trans before (first g hg)
      · exact ascending
      · rename_i after
        refine List.pairwise_cons.mpr ⟨fun g hg => ?_, ih ascendingRest⟩
        rcases mem_of_mem_insertInto hg with rfl | hg
        · exact before_iff_gt.mpr after
        · exact first g hg

end FieldSet

end Companions
