import Companions.Proofs.Defects
import Companions.Proofs.OrderKeys

/-!
Fields in another order.

A field that declares its order key does not depend on its position. So when all fields of a
manifest declare one, putting them in another order puts the fields of every class in another order
(`Manifest.fieldsOf_perm`), which at most exchanges one defect of a class for another
(`Binding.outcome_of_perm`). A run over the manifest does not show more than that either
(`Batch.generate_rearranged`).
-/

namespace Companions

/-! ### Warnings up to texts that may differ -/

namespace Warning

/-- Whether the warning is about a field without a class. -/
def isOrphan : Warning → Bool
  | .orphanField .. => true
  | .classSkipped .. | .emissionFailed .. | .duplicateTarget _ | .resultTypesIgnored _ => false

/-- The warning without the reason for which a class was skipped, if that is hidden. -/
def withoutReason (hidden : String → Bool) : Warning → Warning
  | .classSkipped cls reason => .classSkipped cls (if hidden cls then "" else reason)
  | w => w

variable {hidden : String → Bool} {warnings : List Warning}

theorem countP_isOrphan_withoutReason :
    (warnings.map (withoutReason hidden)).countP isOrphan = warnings.countP isOrphan := by
  rw [List.countP_map]
  refine List.countP_congr fun w _ => ?_
  cases w <;> rfl

theorem exists_skipped_withoutReason (hidden : String → Bool) {cls : String} :
    (∃ reason, .classSkipped cls reason ∈ warnings.map (withoutReason hidden))
      ↔ ∃ reason, .classSkipped cls reason ∈ warnings := by
  constructor
  · rintro ⟨reason, h⟩
    obtain ⟨w, hw, same⟩ := List.mem_map.mp h
    cases w with
    | classSkipped cls' reason' =>
        obtain ⟨rfl, -⟩ := Warning.classSkipped.inj same
        exact ⟨reason', hw⟩
    | _ => exact nomatch same
  · rintro ⟨reason, h⟩
    exact ⟨_, List.mem_map_of_mem h⟩

end Warning

/-! ### One class -/

namespace Binding

variable {b b' : Binding}

/-- The outcome of a class is the same with its fields in another order, unless some of them have
defects. Then each order fails with one of these. -/
theorem outcome_of_perm (settings : Settings) (perm : b'.fields.Perm b.fields)
    (name : b'.className = b.className) (target : b'.target = b.target) :
    b'.outcome settings = b.outcome settings ∨
      ∃ d ∈ defects b.fields, ∃ d' ∈ defects b.fields,
        b.outcome settings = ⟨b.className, [], .error (.field d)⟩ ∧
        b'.outcome settings = ⟨b.className, [], .error (.field d')⟩ := by
  unfold outcome
  rw [name]
  rcases assemble_of_perm settings perm target with same |
    ⟨d, defect, d', defect', failed, failed'⟩
  · rw [same]
    exact Or.inl rfl
  · rw [failed, failed']
    exact Or.inr ⟨d, defect, d', defect', rfl, rfl⟩

end Binding

/-! ### All classes -/

namespace Manifest

variable {m : Manifest} {fields' : List FieldEntry}

/-- Whether two things are wrong with the fields of a class that are not the same thing. -/
def severalDefects (m : Manifest) (name : String) : Bool :=
  let defects := Binding.defects (m.fieldsOf name)
  defects.any fun d => defects.any (· ≠ d)

/-- Fields that declare their keys are made each for itself. -/
theorem fieldsOf_of_keyed (keyed : ∀ e ∈ m.fields, e.order.isSome) (name : String) :
    m.fieldsOf name = (m.fields.filter (·.owner == name)).map (·.toField 0) := by
  have anywhere : m.fieldsOf name
      = (m.fields.zipIdx.filter fun x => x.1.owner == name).map fun x => x.1.toField 0 := by
    refine List.map_congr_left fun x hx => ?_
    have member := List.fst_mem_of_mem_zipIdx (List.mem_filter.mp hx).1
    exact FieldEntry.toField_of_declared (keyed x.1 member)
  rw [anywhere, filter_eq_map_zipIdx fun e : FieldEntry => e.owner == name, List.map_map]
  rfl

theorem fieldsOf_perm (keyed : ∀ e ∈ m.fields, e.order.isSome) (perm : fields'.Perm m.fields)
    (name : String) :
    ({ m with fields := fields' }.fieldsOf name).Perm (m.fieldsOf name) := by
  rw [fieldsOf_of_keyed keyed, fieldsOf_of_keyed fun e he => keyed e (perm.mem_iff.mp he)]
  exact (perm.filter _).map _

section Rearranged

variable (settings : Settings) (keyed : ∀ e ∈ m.fields, e.order.isSome)
  (perm : fields'.Perm m.fields)

include keyed perm

/-- With the fields in another order a class has the same companion and the same notes, but for the
defect that it fails with if it has several. -/
theorem outcome_perm (e : TargetEntry) :
    let o := (m.binding e).outcome settings
    let o' := ({ m with fields := fields' }.binding e).outcome settings
    o'.companion? = o.companion? ∧
      o'.notes.map (Warning.withoutReason m.severalDefects)
        = o.notes.map (Warning.withoutReason m.severalDefects) := by
  intro o o'
  have fields : ({ m with fields := fields' }.binding e).fields.Perm (m.binding e).fields :=
    fieldsOf_perm keyed perm e.qualifiedName
  have alike : o' = o ∨ ∃ d ∈ Binding.defects (m.binding e).fields,
      ∃ d' ∈ Binding.defects (m.binding e).fields,
        o = ⟨e.qualifiedName, [], .error (.field d)⟩ ∧
        o' = ⟨e.qualifiedName, [], .error (.field d')⟩ :=
    Binding.outcome_of_perm settings fields rfl rfl
  rcases alike with same | ⟨d, defect, d', defect', failed, failed'⟩
  · rw [same]
    exact ⟨rfl, rfl⟩
  · rw [failed, failed']
    refine ⟨rfl, ?_⟩
    by_cases equal : d' = d
    · rw [equal]
    · have several : m.severalDefects e.qualifiedName = true :=
        List.any_eq_true.mpr
          ⟨d, defect, List.any_eq_true.mpr ⟨d', defect', decide_eq_true equal⟩⟩
      simp only [Outcome.notes, List.nil_append, List.map_singleton, Warning.withoutReason,
        several, ↓reduceIte]

theorem companions_outcomes_perm :
    ({ m with fields := fields' }.outcomes settings).map Outcome.companion?
      = (m.outcomes settings).map Outcome.companion? := by
  simp only [outcomes, bind, List.map_map]
  exact List.map_congr_left fun e _ => (outcome_perm settings keyed perm e).1

theorem notes_outcomes_perm :
    (({ m with fields := fields' }.outcomes settings).flatMap Outcome.notes).map
        (Warning.withoutReason m.severalDefects)
      = ((m.outcomes settings).flatMap Outcome.notes).map
        (Warning.withoutReason m.severalDefects) := by
  simp only [outcomes, bind, List.map_map, List.map_flatMap, List.flatMap_map]
  exact List.flatMap_congr fun e _ => (outcome_perm settings keyed perm e).2

end Rearranged

/-- The same declarations are left out, perhaps in another order. -/
theorem left_out_perm (perm : fields'.Perm m.fields) :
    { m with fields := fields' }.bind.2.Perm m.bind.2 :=
  ((perm.filter _).map _).append_left _

end Manifest

/-! ### The whole run -/

namespace Batch

variable {m : Manifest} {fields' : List FieldEntry}

/-- **The order of the fields does not show**, if all of them declare an order key. In any other
order a run yields the same companions in the same files with the same counters. It skips the same
classes, reports as many fields without a class, and gives the same warnings, up to their order and
to the reason given for a class whose fields have several defects. -/
theorem generate_rearranged (settings : Settings) (source : String)
    (keyed : ∀ e ∈ m.fields, e.order.isSome) (perm : fields'.Perm m.fields) :
    let before := generate settings source m
    let after := generate settings source { m with fields := fields' }
    after.companions = before.companions ∧ after.files = before.files ∧
      after.statistics.counters = before.statistics.counters ∧
      (∀ cls, (∃ reason, .classSkipped cls reason ∈ after.statistics.warnings)
        ↔ ∃ reason, .classSkipped cls reason ∈ before.statistics.warnings) ∧
      after.statistics.warnings.countP Warning.isOrphan
        = before.statistics.warnings.countP Warning.isOrphan ∧
      (after.statistics.warnings.map (Warning.withoutReason m.severalDefects)).Perm
        (before.statistics.warnings.map (Warning.withoutReason m.severalDefects)) := by
  intro before after
  have outcomes := Manifest.companions_outcomes_perm settings keyed perm
  have companions : after.companions = before.companions := by
    have made : ∀ l : List Outcome,
        l.filterMap Outcome.companion? = (l.map Outcome.companion?).filterMap id := by
      intro l
      rw [List.filterMap_map]
      rfl
    show (generate settings source { m with fields := fields' }).companions
      = (generate settings source m).companions
    rw [companions_generate, companions_generate, made, made, outcomes]
  have counters : after.statistics.counters = before.statistics.counters := by
    show (generate settings source { m with fields := fields' }).statistics.counters
      = (generate settings source m).statistics.counters
    rw [counters_generate, counters_generate, outcomes]
  have warnings : (after.statistics.warnings.map (Warning.withoutReason m.severalDefects)).Perm
      (before.statistics.warnings.map (Warning.withoutReason m.severalDefects)) := by
    show ((generate settings source { m with fields := fields' }).statistics.warnings.map _).Perm
      ((generate settings source m).statistics.warnings.map _)
    rw [warnings_generate, warnings_generate, List.map_append, List.map_append,
      Manifest.notes_outcomes_perm settings keyed perm]
    exact ((Manifest.left_out_perm perm).map _).append_right _
  refine ⟨companions, ?_, counters, fun cls => ?_, ?_, warnings⟩
  · exact files_generate.trans (companions ▸ files_generate.symm)
  · exact (Warning.exists_skipped_withoutReason m.severalDefects).symm.trans
      ((exists_congr fun reason => warnings.mem_iff).trans
        (Warning.exists_skipped_withoutReason m.severalDefects))
  · rw [← Warning.countP_isOrphan_withoutReason, warnings.countP_eq,
      Warning.countP_isOrphan_withoutReason]

/-- A screen whose fields share an order key, one with two defects, and a field of neither. -/
def album : Manifest :=
  { targets := [
      { kind := .activity, qualifiedName := "com.example.Editor" },
      { kind := .fragment, qualifiedName := "com.example.Viewer" }]
    fields := [
      { owner := "com.example.Editor", name := "text", typeText := "long", required := true
        order := some 0 },
      { owner := "com.example.Viewer", name := "zoom", typeText := "int", required := true
        order := some 1 },
      { owner := "com.example.Nowhere", name := "text", typeText := "int", required := true
        order := some 0 },
      { owner := "com.example.Viewer", name := "zoom", typeText := "int", required := false
        order := some 2 },
      { owner := "com.example.Editor", name := "font", typeText := "int", required := true
        order := some 0 },
      { owner := "com.example.Viewer", name := "", typeText := "int", required := true
        order := some 0 }] }

/-- Read backwards, the fields of the editor give the same companion, and the viewer is skipped for
its other defect. -/
theorem generate_rearranged_album :
    let before := generate {} "album.json" album
    let after := generate {} "album.json" { album with fields := album.fields.reverse }
    (∀ e ∈ album.fields, e.order.isSome) ∧ album.fields.reverse.Perm album.fields ∧
      after.companions = before.companions ∧
      before.companions.map (fun c => c.constants.map (·.name))
        = [["REQUIRED_FONT", "REQUIRED_TEXT"]] ∧
      album.severalDefects "com.example.Viewer" = true ∧
      .classSkipped "com.example.Viewer" "field 'zoom' is declared more than once"
        ∈ before.statistics.warnings ∧
      .classSkipped "com.example.Viewer" "field name must not be empty"
        ∈ after.statistics.warnings := by
  intro before after
  have keyed : ∀ e ∈ album.fields, e.order.isSome := by decide
  have perm : album.fields.reverse.Perm album.fields := List.reverse_perm _
  obtain ⟨companions, -⟩ := generate_rearranged {} "album.json" keyed perm
  refine ⟨keyed, perm, companions, ?_, ?_, ?_, ?_⟩
  · decide +kernel
  · decide +kernel
  · decide +kernel
  · decide +kernel

end Batch

end Companions
