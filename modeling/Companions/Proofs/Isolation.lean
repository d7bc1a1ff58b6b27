import Companions.Proofs.OrderKeys

/-!
What a class of a manifest owes to the rest of it: nothing.

Cut down to one class, a manifest has the binding of that class with its fields at other positions.
If all of them declare a key, positions are not looked at (`Manifest.fieldsOf_only_of_declared`); if
none does, positions are the keys, and cutting away other fields keeps their order
(`Manifest.fieldsOf_only_of_undeclared`). So the class has the same outcome
(`Manifest.outcome_only`), and with it the same companion, files and warnings
(`Batch.generate_isolates`).
-/

namespace Companions

/-! ### The binding of a class by itself -/

namespace Manifest

variable {settings : Settings} {m : Manifest} {name : String}

/-- Either every field of the class declares its order key, or none does. -/
def KeyedAlike (m : Manifest) (name : String) : Prop :=
  (∀ e ∈ m.fields, e.owner = name → e.order.isSome) ∨
    (∀ e ∈ m.fields, e.owner = name → e.order = none)

instance : Decidable (m.KeyedAlike name) :=
  inferInstanceAs (Decidable (_ ∨ _))

/-- Fields that declare their keys are the same when their class is by itself. -/
theorem fieldsOf_only_of_declared
    (declared : ∀ e ∈ m.fields, e.owner = name → e.order.isSome) :
    (m.only name).fieldsOf name = m.fieldsOf name := by
  rw [fieldsOf_only, fieldsOf]
  refine List.map_congr_left fun ⟨e, position⟩ hx => ?_
  obtain ⟨member, owned⟩ := List.mem_filter.mp hx
  exact FieldEntry.toField_of_declared
    (declared e (List.fst_mem_of_mem_zipIdx member) (by simpa using owned))

section Undeclared

variable (few : m.fields.length ≤ 2 ^ 32)
  (undeclared : ∀ e ∈ m.fields, e.owner = name → e.order = none)

include few undeclared

/-- No position among the fields is beyond the largest key. -/
theorem orderAt_of_undeclared {e : FieldEntry} {position place : Nat}
    (found : m.fields[position]? = some e) (owned : e.owner = name) (before : place ≤ position) :
    e.orderAt place = place := by
  have inside : position < m.fields.length := (List.getElem?_eq_some_iff.mp found).1
  exact FieldEntry.orderAt_of_undeclared (undeclared e (List.mem_of_getElem? found) owned)
    (by omega)

/-- Without declared keys the fields of a class have their positions as keys. -/
theorem order_mem_positions {f : Field} (hf : .ok f ∈ m.fieldsOf name) :
    f.order ∈ m.positions name := by
  obtain ⟨e, position, found, owned, made⟩ := mem_fieldsOf hf
  rw [FieldEntry.order_of_toField made.symm,
    orderAt_of_undeclared few undeclared found owned le_rfl]
  exact ⟨e, found, owned⟩

/-- When their class is by itself, they have their ranks as keys. -/
theorem fieldsOf_only_of_undeclared :
    (m.only name).fieldsOf name
      = (m.fieldsOf name).map (Except.map (Field.rekeyed (m.rank name))) := by
  rw [fieldsOf_only, fieldsOf, List.map_map]
  refine List.map_congr_left fun ⟨e, position⟩ hx => FieldEntry.toField_rekeyed ?_
  obtain ⟨member, owned⟩ := List.mem_filter.mp hx
  have found : m.fields[position]? = some e := List.mk_mem_zipIdx_iff_getElem?.mp member
  have owned : e.owner = name := by simpa using owned
  rw [orderAt_of_undeclared few undeclared found owned (rank_le position),
    orderAt_of_undeclared few undeclared found owned le_rfl]

end Undeclared

/-- **By itself, a class has the same outcome.** -/
theorem outcome_only (settings : Settings) {e : TargetEntry} (few : m.fields.length ≤ 2 ^ 32)
    (alike : m.KeyedAlike e.qualifiedName) :
    ((m.only e.qualifiedName).binding e).outcome settings = (m.binding e).outcome settings := by
  rcases alike with declared | undeclared
  · have same : (m.only e.qualifiedName).binding e = m.binding e :=
      congrArg (Binding.mk _ _) (fieldsOf_only_of_declared declared)
    rw [same]
  · have same : (m.only e.qualifiedName).binding e
        = (m.binding e).rekeyed (m.rank e.qualifiedName) :=
      congrArg (Binding.mk _ _) (fieldsOf_only_of_undeclared few undeclared)
    rw [same]
    exact Binding.outcome_rekeyed rank_strictMonoOn fun f => order_mem_positions few undeclared

/-- What is left out tells nothing of what became of a class. -/
theorem filter_bind (m : Manifest) (name : String) : m.bind.2.filter (·.tellsOf name) = [] := by
  refine List.filter_eq_nil_iff.mpr fun w hw => ?_
  rcases List.mem_append.mp hw with hw | hw <;> obtain ⟨-, -, rfl⟩ := List.mem_map.mp hw
  all_goals simp [Warning.tellsOf]

/-- By itself, a class that is declared has one outcome. -/
theorem exists_outcome_only (settings : Settings)
    (declared : ∃ e ∈ m.targets, e.qualifiedName = name) :
    ∃ o, (m.only name).outcomes settings = [o] ∧ o.className = name := by
  obtain ⟨e, first, rfl⟩ := exists_first declared
  exact ⟨((m.only e.qualifiedName).binding e).outcome settings,
    by rw [outcomes, bind_only first]; rfl, rfl⟩

/-- The outcomes of a manifest cut down to one class are those that it has for this class. -/
theorem outcomes_only (settings : Settings)
    (declared : ∃ e ∈ m.targets, e.qualifiedName = name) (few : m.fields.length ≤ 2 ^ 32)
    (alike : m.KeyedAlike name) :
    (m.only name).outcomes settings
      = (m.outcomes settings).filter (·.className == name) := by
  obtain ⟨e, first, rfl⟩ := exists_first declared
  have own : (m.outcomes settings).filter (·.className == e.qualifiedName)
      = ((firstTargets [] m.targets).1.filter (·.qualifiedName == e.qualifiedName)).map
        fun e => (m.binding e).outcome settings := by
    rw [outcomes, bind, List.map_map, List.filter_map]
    rfl
  rw [own, filter_firstTargets, if_neg List.not_mem_nil, first, outcomes, bind_only first]
  exact congrArg (fun o => [o]) (outcome_only settings few alike)

/-- Outcomes stand in the order in which their classes are first declared. -/
theorem pairwise_outcomes :
    (m.outcomes settings).Pairwise fun o o' =>
      (m.targets.map (·.qualifiedName)).idxOf o.className
        < (m.targets.map (·.qualifiedName)).idxOf o'.className := by
  rw [outcomes, bind, List.map_map, List.pairwise_map]
  exact pairwise_firstTargets

end Manifest

/-! ### What a run tells of a class -/

namespace Outcome

variable {outcomes : List Outcome}

theorem filter_companions (named : ∀ o ∈ outcomes, o.Named) (name : String) :
    (outcomes.filterMap companion?).filter (·.target.canonical == name)
      = (outcomes.filter (·.className == name)).filterMap companion? := by
  rw [List.filter_filterMap, List.filterMap_filter]
  refine List.filterMap_congr fun o ho => ?_
  cases made : o.companion? with
  | none => simp
  | some c => rw [Option.filter_some, (named o ho).companion c made]

theorem filter_notes (named : ∀ o ∈ outcomes, o.Named) (name : String) :
    (outcomes.flatMap notes).filter (·.tellsOf name)
      = (outcomes.filter (·.className == name)).flatMap notes := by
  induction outcomes with
  | nil => rfl
  | cons o rest ih =>
      obtain ⟨head, rest⟩ := List.forall_mem_cons.mp named
      have own : o.notes.filter (·.tellsOf name) = if o.className == name then o.notes else [] := by
        rw [List.filter_congr fun w hw => head.tellsOf hw]
        cases o.className == name <;> simp
      rw [List.flatMap_cons, List.filter_append, ih rest, own, List.filter_cons]
      split <;> rfl

end Outcome

namespace Batch

variable {settings : Settings} {source : String} {m : Manifest} {name : String}

/-- Companions stand in the order in which their classes are first declared. -/
theorem pairwise_companions :
    (generate settings source m).companions.Pairwise fun c c' =>
      (m.targets.map (·.qualifiedName)).idxOf c.target.canonical
        < (m.targets.map (·.qualifiedName)).idxOf c'.target.canonical := by
  rw [companions_generate, List.pairwise_filterMap]
  refine Manifest.pairwise_outcomes.imp_of_mem fun ho ho' before c hc c' hc' => ?_
  rwa [(Manifest.named_outcome ho).companion c hc, (Manifest.named_outcome ho').companion c' hc']

/-- **Nothing else in a manifest influences a class.** If all of its fields declare a key, or none
does, then a run over the whole manifest makes of the class what a run makes of its first
declaration and its own fields: the same companion with the same files, or the same note that it
was skipped, and the same note on result values without effect. Companions come in the order in
which their classes are first declared. -/
theorem generate_isolates (settings : Settings) (source : String)
    (declared : ∃ e ∈ m.targets, e.qualifiedName = name) (few : m.fields.length ≤ 2 ^ 32)
    (alike : m.KeyedAlike name) :
    let whole := generate settings source m
    let alone := generate settings source (m.only name)
    let own := whole.companions.filter (·.target.canonical == name)
    own = alone.companions ∧
      whole.files = whole.companions.flatMap (·.files source) ∧
      own.flatMap (·.files source) = alone.files ∧
      whole.statistics.warnings.filter (·.tellsOf name) = alone.statistics.warnings ∧
      ((∃ c, alone.companions = [c] ∧
          ∀ reason, .classSkipped name reason ∉ alone.statistics.warnings) ∨
        (alone.companions = [] ∧
          ∃ reason, .classSkipped name reason ∈ alone.statistics.warnings)) ∧
      whole.companions.Pairwise fun c c' =>
        (m.targets.map (·.qualifiedName)).idxOf c.target.canonical
          < (m.targets.map (·.qualifiedName)).idxOf c'.target.canonical := by
  intro whole alone own
  have only := Manifest.outcomes_only settings declared few alike
  have companions : own = alone.companions := by
    show (generate settings source m).companions.filter _
      = (generate settings source (m.only name)).companions
    rw [companions_generate, companions_generate, only,
      Outcome.filter_companions fun o => Manifest.named_outcome]
  have warnings : whole.statistics.warnings.filter (·.tellsOf name)
      = alone.statistics.warnings := by
    show (generate settings source m).statistics.warnings.filter _
      = (generate settings source (m.only name)).statistics.warnings
    rw [warnings_generate, warnings_generate, only, List.filter_append,
      Outcome.filter_notes fun o => Manifest.named_outcome, Manifest.filter_bind,
      Manifest.bind_only_left declared]
  refine ⟨companions, files_generate, ?_, warnings, ?_, pairwise_companions⟩
  · rw [companions]
    exact files_generate.symm
  · obtain ⟨o, alone_outcome, rfl⟩ :=
      Manifest.exists_outcome_only settings declared
    have named : o.Named := Manifest.named_outcome (alone_outcome ▸ List.mem_singleton_self o)
    have made : alone.companions = o.companion?.toList := by
      show (generate settings source (m.only o.className)).companions = _
      rw [companions_generate, alone_outcome]
      cases h : o.companion? <;> simp [h]
    have told : alone.statistics.warnings = o.notes := by
      show (generate settings source (m.only o.className)).statistics.warnings = _
      rw [warnings_generate, alone_outcome, Manifest.bind_only_left declared]
      exact List.append_nil _
    rw [made, told]
    cases result : o.result with
    | ok c =>
        refine Or.inl ⟨c, by simp [Outcome.companion?, result, Except.toOption], fun reason h => ?_⟩
        simp only [Outcome.notes, result, List.append_nil] at h
        have ignored := named.warnings _ h
        cases ignored
    | error reason =>
        refine Or.inr ⟨by simp [Outcome.companion?, result, Except.toOption], reason.message, ?_⟩
        simp [Outcome.notes, result]

/-- Two screens whose fields stand between each other, one of them broken. -/
def gallery : Manifest :=
  { targets := [
      { kind := .activity, qualifiedName := "com.example.Editor" },
      { kind := .fragment, qualifiedName := "com.example.Viewer" },
      { kind := .fragment, qualifiedName := "com.example.Editor" }]
    fields := [
      { owner := "com.example.Viewer", name := "zoom", typeText := "int", required := true },
      { owner := "com.example.Editor", name := "text", typeText := "long", required := true },
      { owner := "com.example.Viewer", name := "zoom", typeText := "long", required := false },
      { owner := "com.example.Nowhere", name := "text", typeText := "int", required := true },
      { owner := "com.example.Editor", name := "font", typeText := "int", required := false }] }

/-- The viewer is skipped for a name that it has twice, and the editor gets its companion, each as
if it were declared alone. -/
theorem generate_isolates_gallery :
    let whole := generate {} "gallery.json" gallery
    ((∃ e ∈ gallery.targets, e.qualifiedName = "com.example.Editor") ∧
        gallery.fields.length ≤ 2 ^ 32 ∧ gallery.KeyedAlike "com.example.Editor") ∧
      (whole.companions.filter (·.target.canonical == "com.example.Editor")).map
          (fun c => c.constants.map (·.name)) = [["REQUIRED_TEXT", "OPTIONAL_FONT"]] ∧
      whole.statistics.warnings.filter (·.tellsOf "com.example.Viewer")
        = [.classSkipped "com.example.Viewer" "field 'zoom' is declared more than once"] := by
  intro whole
  have editorHolds : (∃ e ∈ gallery.targets, e.qualifiedName = "com.example.Editor") ∧
      gallery.fields.length ≤ 2 ^ 32 ∧ gallery.KeyedAlike "com.example.Editor" := by decide +kernel
  have viewerHolds : (∃ e ∈ gallery.targets, e.qualifiedName = "com.example.Viewer") ∧
      gallery.fields.length ≤ 2 ^ 32 ∧ gallery.KeyedAlike "com.example.Viewer" := by decide +kernel
  obtain ⟨editor, -⟩ :=
    generate_isolates {} "gallery.json" editorHolds.1 editorHolds.2.1 editorHolds.2.2
  obtain ⟨-, -, -, viewer, -⟩ :=
    generate_isolates {} "gallery.json" viewerHolds.1 viewerHolds.2.1 viewerHolds.2.2
  refine ⟨editorHolds, ?_, ?_⟩
  · rw [editor]
    decide +kernel
  · rw [viewer]
    decide +kernel

end Batch

end Companions
