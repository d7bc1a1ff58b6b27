import Companions.Proofs.Assembly

/-!
Contracts that are made.

A contract takes its result values from the screen, no two of them of one name
(`Contract.make_eq_ok`). The listener parameter ends in `ResultListener`, so it meets no name that
generated bodies use themselves (`Contract.listenerName_ne`); only a field may still be named like
it.
-/

namespace Companions

/-! ### Names that repeat -/

theorem firstRepeated?_go_eq_none_iff {seen names : List String} :
    firstRepeated?.go seen names = none ↔ names.Nodup ∧ ∀ name ∈ names, name ∉ seen := by
  induction names generalizing seen with
  | nil => simp [firstRepeated?.go]
  | cons name rest ih =>
      rw [firstRepeated?.go, List.nodup_cons]
      by_cases present : name ∈ seen
      · rw [if_pos (List.contains_iff_mem.mpr present)]
        exact ⟨nofun, fun h => absurd present (h.2 name List.mem_cons_self)⟩
      · rw [if_neg (mt List.contains_iff_mem.mp present), ih]
        constructor
        · rintro ⟨distinct, apart⟩
          refine ⟨⟨fun again => apart name again List.mem_cons_self, distinct⟩, ?_⟩
          intro other hother
          rcases List.mem_cons.mp hother with rfl | hother
          · exact present
          · exact fun hseen => apart other hother (List.mem_cons_of_mem _ hseen)
        · rintro ⟨⟨fresh, distinct⟩, apart⟩
          refine ⟨distinct, fun other hother hseen => ?_⟩
          rcases List.mem_cons.mp hseen with rfl | hseen
          · exact fresh hother
          · exact apart other (List.mem_cons_of_mem _ hother) hseen

/-- No name is repeated exactly when the names are distinct. -/
theorem firstRepeated?_eq_none_iff {names : List String} :
    firstRepeated? names = none ↔ names.Nodup := by
  rw [firstRepeated?, firstRepeated?_go_eq_none_iff]
  simp

/-- Names that repeat nothing are passed over. -/
theorem firstRepeated?_go_append {seen before rest : List String} (distinct : before.Nodup)
    (apart : ∀ name ∈ before, name ∉ seen) :
    firstRepeated?.go seen (before ++ rest) = firstRepeated?.go (before.reverse ++ seen) rest := by
  induction before generalizing seen with
  | nil => rfl
  | cons name before ih =>
      obtain ⟨fresh, distinct⟩ := List.nodup_cons.mp distinct
      obtain ⟨unseen, apart⟩ := List.forall_mem_cons.mp apart
      rw [List.cons_append, firstRepeated?.go, if_neg (mt List.contains_iff_mem.mp unseen),
        ih distinct fun other hother => ?_, List.reverse_cons, List.append_assoc]
      · rfl
      · rw [List.mem_cons, not_or]
        exact ⟨fun same => fresh (same ▸ hother), apart other hother⟩

theorem exists_split_of_go_eq_some {seen names : List String} {name : String}
    (found : firstRepeated?.go seen names = some name) :
    ∃ before after, names = before ++ name :: after ∧ before.Nodup ∧
      (∀ other ∈ before, other ∉ seen) ∧ (name ∈ before ∨ name ∈ seen) := by
  induction names generalizing seen with
  | nil => exact nomatch found
  | cons head rest ih =>
      rw [firstRepeated?.go] at found
      split at found
      · rename_i present
        rw [← Option.some.inj found]
        exact ⟨[], rest, rfl, List.nodup_nil, nofun, Or.inr (List.contains_iff_mem.mp present)⟩
      · rename_i unseen
        obtain ⟨before, after, rfl, distinct, apart, again⟩ := ih found
        have apartHead : ∀ other ∈ before, other ≠ head ∧ other ∉ seen := fun other hother =>
          not_or.mp fun h => apart other hother (List.mem_cons.mpr h)
        refine ⟨head :: before, after, rfl, ?_, ?_, ?_⟩
        · exact List.nodup_cons.mpr ⟨fun h => (apartHead head h).1 rfl, distinct⟩
        · exact List.forall_mem_cons.mpr
            ⟨mt List.contains_iff_mem.mpr unseen, fun other hother => (apartHead other hother).2⟩
        · rw [List.mem_cons] at again ⊢
          rcases again with again | again | again
          · exact Or.inl (Or.inr again)
          · exact Or.inl (Or.inl again)
          · exact Or.inr again

/-- The first name that repeats stands behind distinct names and is one of them. -/
theorem firstRepeated?_eq_some_iff {names : List String} {name : String} :
    firstRepeated? names = some name ↔
      ∃ before after, names = before ++ name :: after ∧ before.Nodup ∧ name ∈ before := by
  constructor
  · intro found
    obtain ⟨before, after, split, distinct, -, again⟩ := exists_split_of_go_eq_some found
    exact ⟨before, after, split, distinct, again.resolve_right List.not_mem_nil⟩
  · rintro ⟨before, after, rfl, distinct, again⟩
    have present : (before.reverse ++ []).contains name = true := by simpa using again
    rw [firstRepeated?, firstRepeated?_go_append distinct fun _ _ => List.not_mem_nil,
      firstRepeated?.go, if_pos present]

namespace Contract

/-! ### The contract of a screen -/

variable {t : Target} {k : Contract}

/-- What a contract that was made holds. -/
theorem make_eq_ok (made : Contract.make t = .ok (some k)) :
    k.results = t.results ∧ (k.results.map (·.name)).Nodup ∧
      k.listenerName = "on" ++ t.cls.simpleName ++ "ResultListener" := by
  unfold Contract.make at made
  split at made
  · exact nomatch made
  · split at made
    · exact nomatch made
    · rename_i distinct
      rw [← Option.some.inj (Except.ok.inj made)]
      exact ⟨rfl, firstRepeated?_eq_none_iff.mp distinct, rfl⟩

/-- The listener is nested in the companion. -/
theorem listenerType_of_make (made : Contract.make t = .ok (some k)) :
    k.listenerType = t.companion.nest ("On" ++ t.cls.simpleName ++ "ResultListener") := by
  unfold Contract.make at made
  split at made
  · exact nomatch made
  · split at made
    · exact nomatch made
    · rw [← Option.some.inj (Except.ok.inj made)]

/-- There is a contract exactly when there are values to hand back. -/
theorem isSome_of_make {contract : Option Contract} (made : Contract.make t = .ok contract) :
    contract.isSome = true ↔ t.results ≠ [] := by
  unfold Contract.make at made
  split at made
  · rename_i none
    rw [← Except.ok.inj made, List.isEmpty_iff.mp none]
    simp
  · rename_i some
    split at made
    · exact nomatch made
    · rw [← Except.ok.inj made]
      exact iff_of_true rfl (mt List.isEmpty_iff.mpr some)

/-- The listener parameter has none of the names that do not end like it. -/
theorem listenerName_ne (made : Contract.make t = .ok (some k)) {name : String}
    (unlike : ¬ "ResultListener".toList <:+ name.toList) : k.listenerName ≠ name := by
  rintro rfl
  refine unlike ?_
  rw [(make_eq_ok made).2.2, String.toList_append]
  exact List.suffix_append _ _

/-- Generated bodies use the name of the listener for nothing else. -/
theorem listenerName_not_reserved (made : Contract.make t = .ok (some k)) :
    k.listenerName ∉ Naming.reservedBindings := by
  intro reserved
  have unlike : ∀ name ∈ Naming.reservedBindings,
      ¬ "ResultListener".toList <:+ name.toList := by decide
  exact listenerName_ne made (unlike _ reserved) rfl

end Contract

namespace Assembly.Reached

variable {settings : Settings} {target : Target} {fields : List Field} {a : Assembly}

/-- Only the screen of an activity has a contract, and it was made of it. -/
theorem make_contract (reached : Reached settings target fields a) {k : Contract}
    (contract : a.contract = some k) :
    target.kind = .activity ∧ Contract.make target = .ok (some k) := by
  have made := reached.contract_eq
  cases kind : target.kind with
  | activity =>
      rw [kind, contract] at made
      exact ⟨rfl, made⟩
  | fragment =>
      rw [kind, contract] at made
      exact nomatch made

/-- Activities with result values have a contract, and no other screens. -/
theorem exists_contract_iff (reached : Reached settings target fields a) :
    (∃ k, a.contract = some k) ↔ target.kind = .activity ∧ target.results ≠ [] := by
  constructor
  · rintro ⟨k, contract⟩
    obtain ⟨kind, made⟩ := reached.make_contract contract
    exact ⟨kind, (Contract.isSome_of_make made).mp rfl⟩
  · rintro ⟨kind, filled⟩
    have made := reached.contract_eq
    rw [kind] at made
    exact Option.isSome_iff_exists.mp ((Contract.isSome_of_make made).mpr filled)

end Assembly.Reached

end Companions
