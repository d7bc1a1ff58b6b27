import Companions.Proofs.Start.Window

/-!
Names of the start family.

* `Windows.names` — the names of the windows, in the order of the enumeration.
* `Kind.fixedNames_nodup`, `Kind.variantName_not_mem_fixedNames` — the names that do not depend on
  the fields differ from each other, and no window has one of them, whatever its fields are called.
* `Kind.variantName_injective` — where no capitalised name contains the joint `And`, the name of a
  window can be read back: the joint does not overlap with itself, so it occurs only where it was
  put.
* `Windows.names_nodup` — so windows of such fields have names of their own, if no two fields agree
  up to the case of their first character.
-/

namespace Companions

/-! ### Names with a joint -/

namespace Naming

/-- What stands between the names of a window. -/
def joint : List Char :=
  "And".toList

variable {x y s t : List Char}

/-- The joint does not overlap with itself: the next one begins right here, unless a whole one
stands before it. -/
theorem eq_nil_of_joint_append (free : ¬ joint <:+: x)
    (same : joint ++ s = x ++ (joint ++ t)) : x = [] := by
  match x with
  | [] => rfl
  | [a] => simp [joint] at same
  | [a, b] => simp [joint] at same
  | a :: b :: c :: rest =>
      simp only [joint, String.reduceToList, List.cons_append, List.nil_append,
        List.cons.injEq] at same
      obtain ⟨rfl, rfl, rfl, -⟩ := same
      exact absurd (List.prefix_append joint rest).isInfix free

/-- The first joint of a text can be found. -/
theorem append_joint_inj (freeX : ¬ joint <:+: x) (freeY : ¬ joint <:+: y)
    (same : x ++ (joint ++ s) = y ++ (joint ++ t)) : x = y ∧ s = t := by
  rcases List.append_eq_append_iff.mp same with ⟨d, rfl, rest⟩ | ⟨d, rfl, rest⟩
  · have none : d = [] := eq_nil_of_joint_append
      (fun h => freeY (h.trans (List.suffix_append x d).isInfix)) rest
    subst none
    exact ⟨(List.append_nil x).symm, List.append_cancel_left rest⟩
  · have none : d = [] := eq_nil_of_joint_append
      (fun h => freeX (h.trans (List.suffix_append y d).isInfix)) rest
    subst none
    exact ⟨List.append_nil y, (List.append_cancel_left rest).symm⟩

/-- Texts without the joint can be read back from what they make with joints between them. -/
theorem intercalate_joint_inj {xs ys : List (List Char)} (freeXs : ∀ x ∈ xs, ¬ joint <:+: x)
    (freeYs : ∀ y ∈ ys, ¬ joint <:+: y) (someXs : xs ≠ []) (someYs : ys ≠ [])
    (same : joint.intercalate xs = joint.intercalate ys) : xs = ys := by
  induction xs generalizing ys with
  | nil => exact absurd rfl someXs
  | cons x xs ih =>
      obtain ⟨y, ys, rfl⟩ := List.exists_cons_of_ne_nil someYs
      obtain ⟨freeX, freeXs⟩ := List.forall_mem_cons.mp freeXs
      obtain ⟨freeY, freeYs⟩ := List.forall_mem_cons.mp freeYs
      have joined : ∀ {a s : List Char}, joint <:+: a ++ (joint ++ s) :=
        fun {a s} => ⟨a, s, List.append_assoc a joint s⟩
      match xs, ys with
      | [], [] => simpa using same
      | [], y' :: ys =>
          rw [List.intercalate_singleton, List.intercalate_cons_cons, List.append_assoc] at same
          exact absurd (same ▸ joined) freeX
      | x' :: xs, [] =>
          rw [List.intercalate_singleton, List.intercalate_cons_cons, List.append_assoc] at same
          exact absurd (same ▸ joined) freeY
      | x' :: xs, y' :: ys =>
          rw [List.intercalate_cons_cons, List.intercalate_cons_cons, List.append_assoc,
            List.append_assoc] at same
          obtain ⟨rfl, rest⟩ := append_joint_inj freeX freeY same
          rw [ih freeXs freeYs (List.cons_ne_nil _ _) (List.cons_ne_nil _ _) rest]

end Naming

/-! ### Names of one kind of screen -/

namespace Kind

/-- The names that callables have whatever the fields are. -/
def fixedNames (k : Kind) : List String :=
  [k.fullName, k.noOptionalName, "inject", "saveState", "finishWithResult"]

theorem fixedNames_nodup (k : Kind) : k.fixedNames.Nodup := by
  cases k <;> decide

/-- The name of a window begins like no fixed one. -/
theorem variantName_not_mem_fixedNames {k : Kind} {names : List String} :
    k.variantName names ∉ k.fixedNames := by
  intro member
  have texts := List.mem_map_of_mem (f := String.toList) member
  cases k <;>
    simp [fixedNames, variantName, fullName, noOptionalName, withOptionalName, verb] at texts

/-- The name of a window tells the capitalised names of its fields, if the joint is in none. -/
theorem variantName_injective {k : Kind} {xs ys : List String}
    (freeXs : ∀ x ∈ xs, ¬ Naming.joint <:+: (Naming.capitalize x).toList)
    (freeYs : ∀ y ∈ ys, ¬ Naming.joint <:+: (Naming.capitalize y).toList)
    (someXs : xs ≠ []) (someYs : ys ≠ []) (same : k.variantName xs = k.variantName ys) :
    xs.map Naming.capitalize = ys.map Naming.capitalize := by
  have texts := congrArg String.toList ((String.append_right_inj _).mp same)
  simp only [joined, String.toList_intercalate] at texts
  have lists := Naming.intercalate_joint_inj (by simpa using freeXs) (by simpa using freeYs)
    (by simpa using someXs) (by simpa using someYs) texts
  exact List.map_injective_iff.mpr (fun _ _ => String.toList_inj.mp) lists

end Kind

/-! ### Names of the windows -/

namespace Windows

variable {kind : Kind} {fields : List Field}

/-- The names of the windows of `fields`, in the order of the enumeration. -/
def names (kind : Kind) (fields : List Field) : List String :=
  ({ kind, fields } : Windows).toList.map (·.name)

theorem names_eq_map_places :
    names kind fields = (places fields.length).map fun place =>
      kind.variantName ((cyclicRun fields place.1 place.2).map (·.name)) := by
  rw [names, toList_eq_map_places, List.map_map]
  rfl

theorem length_names : (names kind fields).length = fields.length * (fields.length - 1) := by
  rw [names_eq_map_places, List.length_map, length_places]

/-- **Windows of ordinary fields have names of their own.** -/
theorem names_nodup (distinct : (fields.map fun f => Naming.capitalize f.name).Nodup)
    (free : ∀ f ∈ fields, ¬ Naming.joint <:+: (Naming.capitalize f.name).toList) :
    (names kind fields).Nodup := by
  have readable : ∀ place ∈ places fields.length,
      (∀ name ∈ (cyclicRun fields place.1 place.2).map (·.name),
        ¬ Naming.joint <:+: (Naming.capitalize name).toList) ∧
      (cyclicRun fields place.1 place.2).map (·.name) ≠ [] := by
    intro place hplace
    obtain ⟨long, short, inside⟩ := mem_places_iff.mp hplace
    refine ⟨fun name hname => ?_, fun none => ?_⟩
    · obtain ⟨f, hf, rfl⟩ := List.mem_map.mp hname
      exact free f (mem_of_mem_cyclicRun hf)
    · have length := congrArg List.length none
      rw [List.length_map, length_cyclicRun inside short.le, List.length_nil] at length
      omega
  rw [names_eq_map_places]
  refine (places_nodup _).map_on fun place hplace place' hplace' same => ?_
  have labels := Kind.variantName_injective (readable place hplace).1 (readable place' hplace').1
    (readable place hplace).2 (readable place' hplace').2 same
  rw [List.map_map, List.map_map] at labels
  exact place_eq_of_map_cyclicRun distinct hplace hplace' labels

end Windows

end Companions
