import Companions.Proofs.Outcome

/-!
What is wrong with the fields of a class, whatever their order.

A field may be impossible to make, or have a name that another one has. The list of these `defects`
does not depend on the order of the fields, and it decides whether a class can be assembled: without
a defect the fields lead to one assembly in any order, and otherwise assembling fails with one of
them. Which one that is depends on the order (`Binding.assemble_of_perm`).
-/

namespace Companions

/-! ### Two sets of fields -/

namespace Assembly

variable {settings : Settings} {target : Target} {fields fields' : List Field} {a b : Assembly}

/-- Assemblies that agree in their fields and beside them are equal. -/
theorem eq_of_bare_eq (beside : a.bare = b.bare) (required : a.required = b.required)
    (optional : a.optional = b.optional) : a = b := by
  cases a
  cases b
  simp_all [bare]

/-- Reached assemblies of the same fields, in any order, have them in the same sets. -/
theorem Reached.sets_eq_of_perm (reached : Reached settings target fields a)
    (reached' : Reached settings target fields' b) (perm : fields'.Perm fields) :
    b.required = a.required ∧ b.optional = a.optional := by
  obtain ⟨⟨required, ascending⟩, optional, ascending'⟩ := reached'.sets
  have sets : b.required.toList = a.required.toList ∧ b.optional.toList = a.optional.toList :=
    ⟨(Field.eq_inOrder (required.trans (perm.filter _)) ascending).trans reached.required_eq.symm,
      (Field.eq_inOrder (optional.trans (perm.filter _)) ascending').trans
        reached.optional_eq.symm⟩
  exact ⟨congrArg FieldSet.mk sets.1, congrArg FieldSet.mk sets.2⟩

/-- **The order in which fields are taken does not show.** -/
theorem eq_of_perm {blank : Assembly} (begun : Assembly.begin settings target = .ok blank)
    (taken : fields.foldlM add blank = .ok a) (taken' : fields'.foldlM add blank = .ok b)
    (perm : fields'.Perm fields) : b = a := by
  obtain ⟨required, optional⟩ := ((Reached.begin begun).foldlM taken).sets_eq_of_perm
    ((Reached.begin begun).foldlM taken') perm
  exact eq_of_bare_eq ((bare_foldlM taken').trans (bare_foldlM taken).symm) required optional

end Assembly

/-! ### Defects -/

namespace Binding

/-- The names of the fields that could be made. -/
def madeNames (fields : List (Except FieldError Field)) : List String :=
  (fields.filterMap Except.toOption).map (·.name)

/-- What is wrong with fields: the failures of those that could not be made, and the names that
others have twice. -/
def defects (fields : List (Except FieldError Field)) : List FieldError :=
  (fields.filterMap fun
      | .ok _ => none
      | .error reason => some reason)
    ++ ((madeNames fields).filter fun name => 1 < (madeNames fields).count name).map .duplicate

variable {fields fields' : List (Except FieldError Field)}

theorem toOption_map_ok (made : List Field) :
    ((made.map .ok : List (Except FieldError Field)).filterMap Except.toOption) = made := by
  rw [List.filterMap_map]
  exact List.filterMap_some

theorem madeNames_map_ok (made : List Field) :
    madeNames (made.map .ok) = made.map (·.name) := by
  rw [madeNames, toOption_map_ok]

theorem mem_defects_iff {d : FieldError} :
    d ∈ defects fields ↔ .error d ∈ fields ∨
      ∃ name, 1 < (madeNames fields).count name ∧ d = .duplicate name := by
  rw [defects, List.mem_append]
  refine or_congr ?_ ?_
  · rw [List.mem_filterMap]
    constructor
    · rintro ⟨field, member, failed⟩
      cases field with
      | ok f => exact nomatch failed
      | error reason => exact Option.some.inj failed ▸ member
    · intro member
      exact ⟨_, member, rfl⟩
  · rw [List.mem_map]
    constructor
    · rintro ⟨name, kept, rfl⟩
      exact ⟨name, by simpa using (List.mem_filter.mp kept).2, rfl⟩
    · rintro ⟨name, twice, rfl⟩
      have member : name ∈ madeNames fields := List.count_pos_iff.mp (by omega)
      exact ⟨name, List.mem_filter.mpr ⟨member, by simpa using twice⟩, rfl⟩

theorem defects_perm (perm : fields'.Perm fields) : (defects fields').Perm (defects fields) := by
  have names : (madeNames fields').Perm (madeNames fields) := (perm.filterMap _).map _
  unfold defects
  refine (perm.filterMap _).append (List.Perm.map _ ?_)
  simp only [names.count_eq]
  exact names.filter _

/-- There is nothing wrong with fields that were all taken. -/
theorem defects_map_ok {settings : Settings} {target : Target} {made : List Field} {a : Assembly}
    (reached : Assembly.Reached settings target made a) : defects (made.map .ok) = [] := by
  refine List.eq_nil_iff_forall_not_mem.mpr fun d h => ?_
  rcases mem_defects_iff.mp h with failed | ⟨name, twice, -⟩
  · obtain ⟨f, -, impossible⟩ := List.mem_map.mp failed
    exact nomatch impossible
  · rw [madeNames_map_ok] at twice
    have := List.nodup_iff_count_le_one.mp reached.names_nodup name
    omega

/-- Whoever fails to take fields fails because of a defect. -/
theorem exists_defect_of_foldlM_take {settings : Settings} {target : Target} {done : List Field}
    {a : Assembly} {reason : GenerationError}
    (reached : Assembly.Reached settings target done a)
    (failed : fields.foldlM take a = .error reason) :
    ∃ d ∈ defects (done.map .ok ++ fields), reason = .field d := by
  -- The fields taken so far stay in view, since a later one may have the name of one of them.
  induction fields generalizing done a with
  | nil => exact nomatch failed
  | cons field rest ih =>
      rw [List.foldlM_cons] at failed
      cases field with
      | error d =>
          refine ⟨d, mem_defects_iff.mpr (Or.inl ?_), (Except.error.inj failed).symm⟩
          exact List.mem_append_right _ List.mem_cons_self
      | ok f =>
          rw [take_ok] at failed
          cases added : a.add f with
          | error d =>
              rw [added] at failed
              obtain ⟨⟨g, hg, same⟩, rfl⟩ := Assembly.add_eq_error_iff.mp added
              refine ⟨.duplicate f.name, mem_defects_iff.mpr (Or.inr ⟨f.name, ?_, rfl⟩),
                (Except.error.inj failed).symm⟩
              have earlier : 0 < (done.map (·.name)).count f.name :=
                List.count_pos_iff.mpr
                  (List.mem_map.mpr ⟨g, reached.mem_fields_iff.mp hg, same⟩)
              have names : madeNames (done.map .ok ++ .ok f :: rest)
                  = done.map (·.name) ++ f.name :: madeNames rest := by
                rw [madeNames, List.filterMap_append, toOption_map_ok, List.map_append]
                rfl
              rw [names, List.count_append, List.count_cons_self]
              omega
          | ok next =>
              rw [added] at failed
              have found := ih (reached.add added) failed
              rwa [List.map_append, List.append_assoc] at found

/-! ### Assembling in another order -/

variable {settings : Settings} {b b' : Binding}

/-- Once its target is fine, a binding is assembled if its fields have no defect, and otherwise
fails because of one. -/
theorem assemble_or_defect {target : Target} {blank : Assembly} (htarget : b.target = .ok target)
    (begun : Assembly.begin settings target = .ok blank) :
    (defects b.fields = [] ∧ ∃ (made : List Field) (a : Assembly), b.fields = made.map .ok ∧
        made.foldlM Assembly.add blank = .ok a ∧ b.assemble settings = .ok a) ∨
      ∃ d ∈ defects b.fields, b.assemble settings = .error (.field d) := by
  rw [assemble_of_begin htarget begun]
  cases taken : b.fields.foldlM take blank with
  | ok a =>
      obtain ⟨made, split, added⟩ := foldlM_take_eq_ok_iff.mp taken
      refine Or.inl ⟨?_, made, a, split, added, rfl⟩
      rw [split]
      exact defects_map_ok ((Assembly.Reached.begin begun).foldlM added)
  | error reason =>
      obtain ⟨d, defect, rfl⟩ := exists_defect_of_foldlM_take (.begin begun) taken
      exact Or.inr ⟨d, defect, rfl⟩

/-- **In another order, the fields of a class give the same assembly or fail as well.** The failure
may name another defect, if there are several. -/
theorem assemble_of_perm (settings : Settings) (perm : b'.fields.Perm b.fields)
    (same : b'.target = b.target) :
    b'.assemble settings = b.assemble settings ∨
      ∃ d ∈ defects b.fields, ∃ d' ∈ defects b.fields,
        b.assemble settings = .error (.field d) ∧ b'.assemble settings = .error (.field d') := by
  cases htarget : b.target with
  | error reason =>
      refine Or.inl ?_
      rw [assemble_of_target_error htarget, assemble_of_target_error (same.trans htarget)]
  | ok target =>
      cases begun : Assembly.begin settings target with
      | error reason =>
          refine Or.inl ?_
          rw [assemble_of_begin_error htarget begun,
            assemble_of_begin_error (same.trans htarget) begun]
      | ok blank =>
          have defectsPerm := defects_perm perm
          rcases assemble_or_defect htarget begun with
              ⟨none, made, a, split, added, assembled⟩ | ⟨d, defect, failed⟩ <;>
            rcases assemble_or_defect (same.trans htarget) begun with
              ⟨none', made', a', split', added', assembled'⟩ | ⟨d', defect', failed'⟩
          · have madePerm : made'.Perm made := by
              rw [split, split'] at perm
              simpa only [toOption_map_ok] using perm.filterMap Except.toOption
            rw [assembled, assembled', Assembly.eq_of_perm begun added added' madePerm]
            exact Or.inl rfl
          · rw [none, List.perm_nil] at defectsPerm
            rw [defectsPerm] at defect'
            exact absurd defect' List.not_mem_nil
          · rw [none', List.nil_perm] at defectsPerm
            rw [defectsPerm] at defect
            exact absurd defect List.not_mem_nil
          · exact Or.inr ⟨d, defect, d', defectsPerm.mem_iff.mp defect', failed, failed'⟩

end Binding

end Companions
