import Companions.Proofs.Bindings
import Companions.Proofs.Start.Ring

/-!
Which optional fields the callables of a start family take.

The fields that a callable takes are read off its parameters (`Callable.optionalFields`). As sets,
the selections of a family are all different (`Kind.selections_nodup`): runs around the ring that
take the same fields are at the same place, and each of them takes some field and leaves out
another. So no callable of a generated family could stand in for another one
(`generate_irredundant`).
-/

namespace Companions

/-- The optional ones of the given fields that the callable takes. -/
def Callable.optionalFields (callable : Callable) (fields : List Field) : Set Field :=
  {f | f ∈ fields ∧ f.required = false ∧ Draft.fieldParameter f ∈ callable.parameters}

/-! ### Selections -/

/-- The fields that are selected for each callable of a start family. -/
def Kind.selections (kind : Kind) (optional : List Field) : List (Set Field) :=
  (kind.choices optional).map fun choice => {f | f ∈ choice.2}

/-- The fields of the run at a place. -/
def runAt (optional : List Field) (place : Nat × Nat) : Set Field :=
  {f | f ∈ cyclicRun optional place.1 place.2}

section Selections

variable {kind : Kind} {optional : List Field} {place place' : Nat × Nat}

theorem Kind.selections_eq : kind.selections optional
    = {f | f ∈ optional} :: ((places optional.length).map (runAt optional) ++ [∅]) := by
  simp only [selections, choices, List.map_append, List.map_cons, List.map_map, List.map_nil,
    List.cons_append, List.not_mem_nil, Set.ofPred_false]
  rfl

theorem runAt_injOn (distinct : optional.Nodup) (hplace : place ∈ places optional.length)
    (hplace' : place' ∈ places optional.length)
    (same : runAt optional place = runAt optional place') : place = place' :=
  place_eq_of_mem_cyclicRun_iff distinct hplace hplace' fun f => Set.ext_iff.mp same f

theorem runAt_ne_empty (distinct : optional.Nodup) (hplace : place ∈ places optional.length) :
    runAt optional place ≠ ∅ := by
  obtain ⟨⟨f, -, taken⟩, -⟩ := exists_mem_and_not_mem_cyclicRun distinct hplace
  exact Set.nonempty_iff_ne_empty.mp ⟨f, taken⟩

theorem runAt_ne_all (distinct : optional.Nodup) (hplace : place ∈ places optional.length) :
    runAt optional place ≠ {f | f ∈ optional} := by
  obtain ⟨-, f, hf, leftOut⟩ := exists_mem_and_not_mem_cyclicRun distinct hplace
  exact fun same => leftOut ((Set.ext_iff.mp same f).mpr hf)

/-- **No two selections are the same**, if there is anything to select. -/
theorem Kind.selections_nodup (some : 1 ≤ optional.length) (distinct : optional.Nodup) :
    (kind.selections optional).Nodup := by
  have runs : ((places optional.length).map (runAt optional)).Nodup :=
    (places_nodup _).map_on fun place hplace place' hplace' =>
      runAt_injOn distinct hplace hplace'
  rw [selections_eq, List.nodup_cons, List.nodup_append', List.mem_append, List.mem_singleton]
  refine ⟨?_, runs, List.nodup_singleton _, fun selection run none => ?_⟩
  · rintro (run | none)
    · obtain ⟨place, hplace, same⟩ := List.mem_map.mp run
      exact runAt_ne_all distinct hplace same
    · obtain ⟨f, hf⟩ := List.exists_mem_of_length_pos some
      exact Set.notMem_empty f (none ▸ hf)
  · obtain ⟨place, hplace, rfl⟩ := List.mem_map.mp run
    exact runAt_ne_empty distinct hplace (List.mem_singleton.mp none)

end Selections

/-! ### Generated families -/

namespace Assembly

section Reached

variable {settings : Settings} {target : Target} {fields : List Field} {a : Assembly}
  {c : Companion}

/-- A callable takes the optional fields that were chosen for it. -/
theorem Reached.optionalFields_member (reached : Reached settings target fields a)
    {choice : String × List Field} (h : choice ∈ target.kind.choices a.optional.toList) :
    (a.member choice).optionalFields fields = {f | f ∈ choice.2} := by
  have chosen := (Kind.subperm_of_mem_choices h).subset
  ext f
  constructor
  · rintro ⟨hf, optional, taken⟩
    obtain ⟨g, hg, same⟩ := Draft.exists_name_eq_of_mem_finished taken
    rcases List.mem_append.mp hg with hg | hg
    · obtain ⟨member, required⟩ := reached.mem_required_iff.mp hg
      rw [reached.eq_of_name_eq member hf same, optional] at required
      exact nomatch required
    · exact reached.eq_of_name_eq (reached.mem_optional_iff.mp (chosen hg)).1 hf same ▸ hg
  · intro hf
    obtain ⟨member, optional⟩ := reached.mem_optional_iff.mp (chosen hf)
    exact ⟨member, optional, Execution.fieldParameter_mem_finished (List.mem_append_right _ hf)⟩

/-- **No callable is redundant.** A screen with `n` optional fields, one at least, has
`n * (n - 1) + 2` start callables, and no two of them take the same optional fields: the first takes
all, the last none, and those between them take the runs around the ring, one for every length
below `n` and every beginning. Runs that take the same fields have the same length and the same
beginning, and none of them takes all fields or none. -/
theorem generate_irredundant (reached : Reached settings target fields a)
    (generated : a.generate = .ok c) (some : 1 ≤ (fields.filter (!·.required)).length) :
    let all : Set Field := {f | f ∈ fields ∧ f.required = false}
    let selected (step start : Nat) : Set Field :=
      runAt (Field.inOrder (fields.filter (!·.required))) (step, start)
    let n := (fields.filter (!·.required)).length
    c.startFamily.length = n * (n - 1) + 2 ∧
      (c.startFamily.map (·.optionalFields fields)).Nodup ∧
      c.startFamily.map (·.optionalFields fields)
        = all :: ((places n).map (fun place => selected place.1 place.2) ++ [∅]) ∧
      (∀ step start step' start', 1 ≤ step → step < n → 1 ≤ step' → step' < n →
        start < n → start' < n → selected step start = selected step' start' →
        step = step' ∧ start = start') ∧
      ∀ step start, 1 ≤ step → step < n → start < n →
        selected step start ≠ ∅ ∧ selected step start ≠ all := by
  intro all selected n
  have optional : Field.inOrder (fields.filter (!·.required)) = a.optional.toList :=
    reached.optional_eq.symm
  have size : a.optional.toList.length = n := reached.sets.2.1.length_eq
  have everything : all = {f | f ∈ a.optional.toList} :=
    Set.ext fun f => reached.mem_optional_iff.symm
  have family : c.startFamily.map (·.optionalFields fields)
      = target.kind.selections a.optional.toList := by
    rw [reached.startFamily_of_generate generated, List.map_map]
    exact List.map_congr_left fun choice => reached.optionalFields_member
  have atPlace {step start : Nat} (long : 1 ≤ step) (short : step < n) (inside : start < n) :
      (step, start) ∈ places a.optional.toList.length := by
    rw [size]
    exact mem_places_iff.mpr ⟨long, short, inside⟩
  refine ⟨?_, ?_, ?_, ?_, ?_⟩
  · rw [reached.startFamily_of_generate generated, List.length_map, Kind.length_choices, size]
  · rw [family]
    exact Kind.selections_nodup (size ▸ some) reached.optional_nodup
  · simp only [selected]
    rw [family, Kind.selections_eq, everything, size, optional]
  · intro step start step' start' long short long' short' inside inside' same
    simp only [selected, optional] at same
    exact Prod.mk.inj (runAt_injOn reached.optional_nodup (atPlace long short inside)
      (atPlace long' short' inside') same)
  · intro step start long short inside
    simp only [selected, optional, everything]
    exact ⟨runAt_ne_empty reached.optional_nodup (atPlace long short inside),
      runAt_ne_all reached.optional_nodup (atPlace long short inside)⟩

end Reached

/-- The eight callables of the editor take eight different sets of its three optional fields. -/
theorem generate_irredundant_editor :
    ∃ a c, Reached {} editor editorFields a ∧ a.generate = .ok c ∧
      1 ≤ (editorFields.filter (!·.required)).length ∧ c.startFamily.length = 8 ∧
      (c.startFamily.map (·.optionalFields editorFields)).Nodup := by
  obtain ⟨a, c, reached, generated⟩ := editor_generates
  have some : 1 ≤ (editorFields.filter (!·.required)).length := by decide
  obtain ⟨eight, different, -⟩ := generate_irredundant reached generated some
  exact ⟨a, c, reached, generated, some, eight, different⟩

end Assembly

end Companions
