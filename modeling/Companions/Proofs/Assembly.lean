import Companions.Assembly
import Companions.Proofs.FieldOrder

/-!
Assemblies that can be reached, and what they hold.

`Assembly.Reached settings target fields a` says that `a` is the assembly of `target` after exactly
`fields` were taken. It is closed under everything that can be done to an assembly; a field that is
refused leaves none behind. From it follow, whatever the fields are:

* `Reached.required_eq`, `Reached.optional_eq` — the two sets are the required and the optional
  fields in order, with none lost and none twice;
* `Reached.names_nodup` — no two of the fields share a name;
* `Reached.owner_eq`, `Reached.contract_eq` — owner and contract are those of the target.
-/

namespace Companions

namespace Assembly

/-! ### Begin and one field -/

/-- An assembly begins without fields; its contract is the target's, and a fragment has none. -/
theorem begin_eq_ok {settings : Settings} {target : Target} {a : Assembly}
    (begun : Assembly.begin settings target = .ok a) :
    a.owner = { target, runtime := settings.runtime } ∧
      a.required = .empty ∧ a.optional = .empty ∧
      match target.kind with
      | .activity => Contract.make target = .ok a.contract
      | .fragment => a.contract = none := by
  unfold Assembly.begin at begun
  cases kind : target.kind with
  | activity =>
      rw [kind] at begun
      cases made : Contract.make target with
      | ok contract =>
          rw [made] at begun
          rw [← Except.ok.inj begun]
          exact ⟨rfl, rfl, rfl, rfl⟩
      | error reason =>
          rw [made] at begun
          exact nomatch begun
  | fragment =>
      rw [kind] at begun
      rw [← Except.ok.inj begun]
      exact ⟨rfl, rfl, rfl, rfl⟩

/-- The assembly with the field in its set, whether or not the name is taken. -/
def file (a : Assembly) (f : Field) : Assembly :=
  if f.required then { a with required := a.required.insert f }
  else { a with optional := a.optional.insert f }

/-- A field is taken exactly when its name is new, and then it is filed. -/
theorem add_eq_ok_iff {a b : Assembly} {f : Field} :
    a.add f = .ok b ↔ (∀ g ∈ a.fields, g.name ≠ f.name) ∧ b = a.file f := by
  unfold add file
  by_cases taken : (a.fields.any fun g => g.name == f.name) = true
  · rw [if_pos taken]
    obtain ⟨g, hg, same⟩ := List.any_eq_true.mp taken
    refine ⟨fun h => by simp at h, fun h => ?_⟩
    exact absurd (eq_of_beq same) (h.1 g hg)
  · rw [if_neg taken]
    have fresh : ∀ g ∈ a.fields, g.name ≠ f.name := fun g hg same =>
      taken (List.any_eq_true.mpr ⟨g, hg, beq_iff_eq.mpr same⟩)
    constructor
    · intro h
      refine ⟨fresh, ?_⟩
      split at h <;> rename_i role <;> simp only [role] <;> exact (Except.ok.inj h).symm
    · rintro ⟨-, rfl⟩
      split <;> rfl

/-- The failure of a field whose name is taken. -/
theorem add_eq_error_iff {a : Assembly} {f : Field} {reason : FieldError} :
    a.add f = .error reason ↔ (∃ g ∈ a.fields, g.name = f.name) ∧ reason = .duplicate f.name := by
  unfold add
  by_cases taken : (a.fields.any fun g => g.name == f.name) = true
  · rw [if_pos taken]
    have holder : ∃ g ∈ a.fields, g.name = f.name := by simpa using taken
    constructor
    · intro failed
      exact ⟨holder, (Except.error.inj failed).symm⟩
    · rintro ⟨-, rfl⟩
      rfl
  · rw [if_neg taken]
    have free : ¬ ∃ g ∈ a.fields, g.name = f.name := by simpa using taken
    constructor
    · intro failed
      split at failed <;> exact nomatch failed
    · rintro ⟨holder, -⟩
      exact absurd holder free

/-! ### Reached assemblies -/

/-- `a` is the assembly of `target` after `fields` were taken in this order. -/
inductive Reached (settings : Settings) (target : Target) : List Field → Assembly → Prop where
  | begin {a : Assembly} : Assembly.begin settings target = .ok a → Reached settings target [] a
  | add {fields : List Field} {a b : Assembly} {f : Field} :
      Reached settings target fields a → a.add f = .ok b →
      Reached settings target (fields ++ [f]) b
  | takeWarnings {fields : List Field} {a : Assembly} :
      Reached settings target fields a → Reached settings target fields a.takeWarnings.2

namespace Reached

variable {settings : Settings} {target : Target} {fields : List Field} {a : Assembly}

/-- Fields that are taken one after the other lead to a reached assembly. -/
theorem foldlM {more : List Field} {b : Assembly} (reached : Reached settings target fields a)
    (taken : more.foldlM Assembly.add a = .ok b) :
    Reached settings target (fields ++ more) b := by
  induction more generalizing fields a with
  | nil =>
      rw [List.append_nil]
      exact (Except.ok.inj taken) ▸ reached
  | cons f rest ih =>
      rw [List.foldlM_cons] at taken
      cases first : a.add f with
      | error reason =>
          rw [first] at taken
          exact nomatch taken
      | ok next =>
          rw [first] at taken
          rw [List.append_cons]
          exact ih (reached.add first) taken

theorem owner_eq (reached : Reached settings target fields a) :
    a.owner = { target, runtime := settings.runtime } := by
  induction reached with
  | begin begun => exact (begin_eq_ok begun).1
  | add _ taken ih =>
      obtain ⟨-, rfl⟩ := add_eq_ok_iff.mp taken
      unfold file
      split <;> exact ih
  | takeWarnings _ ih => exact ih

/-- The contract is the target's; a fragment has none. -/
theorem contract_eq (reached : Reached settings target fields a) :
    match target.kind with
    | .activity => Contract.make target = .ok a.contract
    | .fragment => a.contract = none := by
  induction reached with
  | begin begun => exact (begin_eq_ok begun).2.2.2
  | add _ taken ih =>
      obtain ⟨-, rfl⟩ := add_eq_ok_iff.mp taken
      unfold file
      split <;> split <;> simp_all
  | takeWarnings _ ih => exact ih

/-- What the two sets of a reached assembly are, before the order is read off them. -/
theorem sets (reached : Reached settings target fields a) :
    (a.required.toList.Perm (fields.filter (·.required)) ∧
        a.required.toList.Pairwise Field.Before) ∧
      (a.optional.toList.Perm (fields.filter (!·.required)) ∧
        a.optional.toList.Pairwise Field.Before) := by
  induction reached with
  | begin begun =>
      obtain ⟨-, required, optional, -⟩ := begin_eq_ok begun
      rw [required, optional]
      exact ⟨⟨.nil, .nil⟩, ⟨.nil, .nil⟩⟩
  | @add fields a b f _ taken ih =>
      obtain ⟨fresh, rfl⟩ := add_eq_ok_iff.mp taken
      obtain ⟨⟨requiredPerm, requiredAscending⟩, ⟨optionalPerm, optionalAscending⟩⟩ := ih
      -- A name that is new in both sets is new at its place in the order of either.
      have apart : ∀ g ∈ a.fields, f.compare g ≠ .eq := fun g hg same =>
        fresh g hg (Field.compare_eq_eq_iff.mp same).2.symm
      have snoc : ∀ {l l' : List Field}, l.Perm l' →
          (∀ g ∈ l, f.compare g ≠ .eq) → (FieldSet.insertInto f l).Perm (l' ++ [f]) :=
        fun perm fresh => (FieldSet.insertInto_perm fresh).trans
          ((perm.cons f).trans (List.perm_append_singleton f _).symm)
      unfold file
      split <;> rename_i role
      · refine ⟨⟨?_, FieldSet.insertInto_pairwise requiredAscending⟩, ?_, optionalAscending⟩
        · have kept := snoc requiredPerm fun g hg => apart g (List.mem_append_left _ hg)
          simpa [role, FieldSet.insert] using kept
        · simpa [role] using optionalPerm
      · refine ⟨⟨?_, requiredAscending⟩, ?_, FieldSet.insertInto_pairwise optionalAscending⟩
        · simpa [role] using requiredPerm
        · have kept := snoc optionalPerm fun g hg => apart g (List.mem_append_right _ hg)
          simpa [role, FieldSet.insert] using kept
  | takeWarnings _ ih => exact ih

/-- **The required set is the required fields in order.** -/
theorem required_eq (reached : Reached settings target fields a) :
    a.required.toList = Field.inOrder (fields.filter (·.required)) :=
  Field.eq_inOrder reached.sets.1.1 reached.sets.1.2

/-- **The optional set is the optional fields in order.** -/
theorem optional_eq (reached : Reached settings target fields a) :
    a.optional.toList = Field.inOrder (fields.filter (!·.required)) :=
  Field.eq_inOrder reached.sets.2.1 reached.sets.2.2

theorem mem_required_iff (reached : Reached settings target fields a) {f : Field} :
    f ∈ a.required.toList ↔ f ∈ fields ∧ f.required = true := by
  rw [reached.sets.1.1.mem_iff, List.mem_filter]

theorem mem_optional_iff (reached : Reached settings target fields a) {f : Field} :
    f ∈ a.optional.toList ↔ f ∈ fields ∧ f.required = false := by
  rw [reached.sets.2.1.mem_iff, List.mem_filter, Bool.not_eq_true']

/-- Both sets together are the fields that were taken. -/
theorem fields_perm (reached : Reached settings target fields a) : a.fields.Perm fields :=
  (reached.sets.1.1.append reached.sets.2.1).trans
    (List.filter_append_perm (·.required) fields)

theorem mem_fields_iff (reached : Reached settings target fields a) {f : Field} :
    f ∈ a.fields ↔ f ∈ fields :=
  reached.fields_perm.mem_iff

/-- No two fields of a reached assembly share a name. -/
theorem names_nodup (reached : Reached settings target fields a) :
    (fields.map (·.name)).Nodup := by
  induction reached with
  | begin => exact List.nodup_nil
  | @add fields a b f earlier taken ih =>
      obtain ⟨fresh, -⟩ := add_eq_ok_iff.mp taken
      rw [List.map_append, List.nodup_append]
      refine ⟨ih, List.nodup_singleton _, fun name hname other hother same => ?_⟩
      obtain ⟨g, hg, rfl⟩ := List.mem_map.mp hname
      rw [List.map_singleton, List.mem_singleton] at hother
      exact fresh g (earlier.mem_fields_iff.mpr hg) (same.trans hother)
  | takeWarnings _ ih => exact ih

/-- Fields of a reached assembly that share a name are the same field. -/
theorem eq_of_name_eq (reached : Reached settings target fields a) {f g : Field}
    (hf : f ∈ fields) (hg : g ∈ fields) (same : f.name = g.name) : f = g :=
  List.inj_on_of_nodup_map reached.names_nodup hf hg same

theorem optional_nodup (reached : Reached settings target fields a) :
    a.optional.toList.Nodup :=
  reached.sets.2.1.nodup_iff.mpr (reached.names_nodup.of_map.filter _)

end Reached

end Assembly

end Companions
