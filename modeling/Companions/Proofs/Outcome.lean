import Companions.Batch
import Companions.Proofs.Assembly
import Companions.Proofs.ClassName
import Companions.Proofs.Failure
import Companions.Proofs.Manifest
import Companions.Proofs.Start.Family

/-!
A run over a manifest, class by class.

What a run does with a class is its `Outcome`: the warnings of the class, and its companion or the
reason why it was skipped. `Batch.addBinding_eq_record` says that nothing else of a binding reaches
the batch. So companions, files, warnings and counters of a whole run are read off the outcomes, in
the order in which the classes are first declared (`companions_generate`, `files_generate`,
`warnings_generate`, `counters_generate`). `Binding.assemble_eq_ok_iff` says when a binding can be
assembled, and of what; all that an outcome tells is about its own class (`Manifest.named_outcome`).
-/

namespace Companions

/-! ### Outcomes -/

/-- What generation makes of one binding: the warnings of its class, and its companion or the reason
why there is none. -/
structure Outcome where
  className : String
  warnings : List Warning
  result : Except GenerationError Companion

namespace Outcome

/-- The companion, if there is one. -/
def companion? (o : Outcome) : Option Companion :=
  o.result.toOption

/-- The warnings of the class and, if there is no companion, the one that it was skipped. -/
def notes (o : Outcome) : List Warning :=
  o.warnings ++ match o.result with
    | .ok _ => []
    | .error reason => [.classSkipped o.className reason.message]

end Outcome

/-- What becomes of a binding. -/
def Binding.outcome (settings : Settings) (b : Binding) : Outcome :=
  { className := b.className
    warnings := match b.assemble settings with
      | .ok a => a.warnings
      | .error _ => []
    result := b.assemble settings >>= Assembly.generate }

/-- What becomes of the classes of a manifest, in the order in which they are first declared. -/
def Manifest.outcomes (settings : Settings) (m : Manifest) : List Outcome :=
  m.bind.1.map (Binding.outcome settings)

/-- Whether a warning tells what became of the class: that it was skipped, or that its result values
have no effect. -/
def Warning.tellsOf (name : String) : Warning → Bool
  | .classSkipped cls _ => cls == name
  | .resultTypesIgnored cls => cls == name
  | .orphanField .. | .emissionFailed .. | .duplicateTarget _ => false

/-- An outcome in which everything is about its own class. -/
structure Outcome.Named (o : Outcome) : Prop where
  companion : ∀ c, o.companion? = some c → c.target.canonical = o.className
  warnings : ∀ w ∈ o.warnings, w = .resultTypesIgnored o.className

theorem Outcome.Named.tellsOf {o : Outcome} (named : o.Named) {w : Warning} (h : w ∈ o.notes)
    {name : String} : w.tellsOf name = (o.className == name) := by
  rcases List.mem_append.mp h with h | h
  · rw [named.warnings w h]
    rfl
  · cases result : o.result with
    | ok c => simp [result] at h
    | error reason =>
        simp only [result, List.mem_singleton] at h
        rw [h]
        rfl

/-! ### Statistics -/

namespace Statistics

/-- The numbers without the warnings. -/
def counters (s : Statistics) : Statistics :=
  { s with warnings := [] }

/-- What a class adds to the counters, with its companion or without one. -/
def count (source : String) (s : Statistics) : Option Companion → Statistics
  | some c => (c.files source).foldl addFile (s.addCompanion c)
  | none => { s with classesSkipped := s.classesSkipped + 1 }

theorem warnings_addWarning (s : Statistics) (w : Warning) :
    (s.addWarning w).warnings = s.warnings ++ [w] := by
  cases w <;> rfl

theorem warnings_addWarnings (s : Statistics) (warnings : List Warning) :
    (s.addWarnings warnings).warnings = s.warnings ++ warnings := by
  induction warnings generalizing s with
  | nil => exact (List.append_nil _).symm
  | cons w rest ih =>
      rw [addWarnings, List.foldl_cons]
      exact (ih _).trans (by rw [warnings_addWarning, List.append_assoc]; rfl)

theorem counters_addWarning {s : Statistics} {w : Warning}
    (kept : ∀ cls reason, w ≠ .classSkipped cls reason) :
    (s.addWarning w).counters = s.counters := by
  cases w with
  | classSkipped cls reason => exact absurd rfl (kept cls reason)
  | _ => rfl

theorem counters_addWarnings {s : Statistics} {warnings : List Warning}
    (kept : ∀ cls reason, .classSkipped cls reason ∉ warnings) :
    (s.addWarnings warnings).counters = s.counters := by
  induction warnings generalizing s with
  | nil => rfl
  | cons w rest ih =>
      rw [addWarnings, List.foldl_cons]
      refine (ih fun cls reason h => kept cls reason (List.mem_cons_of_mem _ h)).trans ?_
      exact counters_addWarning fun cls reason h => kept cls reason (h ▸ List.mem_cons_self)

theorem counters_foldl_addFile {s : Statistics} {files : List SourceFile} :
    (files.foldl addFile s).counters = files.foldl addFile s.counters := by
  induction files generalizing s with
  | nil => rfl
  | cons f rest ih =>
      rw [List.foldl_cons, List.foldl_cons, ih]
      unfold addFile
      cases f.dialect <;> rfl

theorem warnings_foldl_addFile {s : Statistics} {files : List SourceFile} :
    (files.foldl addFile s).warnings = s.warnings := by
  induction files generalizing s with
  | nil => rfl
  | cons f rest ih =>
      rw [List.foldl_cons, ih]
      unfold addFile
      cases f.dialect <;> rfl

end Statistics

/-! ### Bindings -/

namespace Assembly

variable {settings : Settings} {target : Target} {a b : Assembly}

/-- The assembly without its fields: nothing else is touched when fields are taken. -/
def bare (a : Assembly) : Assembly :=
  { a with required := .empty, optional := .empty }

theorem bare_foldlM {fields : List Field} (taken : fields.foldlM add a = .ok b) :
    b.bare = a.bare := by
  induction fields generalizing a with
  | nil => rw [← Except.ok.inj taken]
  | cons f rest ih =>
      obtain ⟨next, added, taken⟩ := foldlM_cons_eq_ok_iff.mp taken
      obtain ⟨-, rfl⟩ := add_eq_ok_iff.mp added
      rw [ih taken]
      unfold file
      split <;> rfl

/-- An assembly begins with at most one warning: that of result values which have no effect. -/
theorem warnings_begin (begun : Assembly.begin settings target = .ok a) :
    ∀ w ∈ a.warnings, w = .resultTypesIgnored target.cls.canonical := by
  intro w hw
  unfold Assembly.begin at begun
  cases kind : target.kind with
  | activity =>
      rw [kind] at begun
      cases made : Contract.make target with
      | ok contract =>
          rw [made] at begun
          rw [← Except.ok.inj begun] at hw
          exact absurd hw List.not_mem_nil
      | error reason =>
          rw [made] at begun
          exact nomatch begun
  | fragment =>
      rw [kind] at begun
      rw [← Except.ok.inj begun] at hw
      simp only at hw
      split at hw
      · exact absurd hw List.not_mem_nil
      · exact List.mem_singleton.mp hw

end Assembly

namespace Binding

variable {settings : Settings} {b : Binding} {a : Assembly}

/-- Takes a field of a binding, unless it could not be made. -/
def take (a : Assembly) (field : Except FieldError Field) : Except GenerationError Assembly :=
  (field.bind a.add).mapError .field

theorem take_ok {f : Field} : take a (.ok f) = (a.add f).mapError GenerationError.field := rfl

theorem take_eq_ok_iff {field : Except FieldError Field} {c : Assembly} :
    take a field = .ok c ↔ ∃ f, field = .ok f ∧ a.add f = .ok c := by
  cases field with
  | error reason => exact ⟨nofun, nofun⟩
  | ok f =>
      rw [take_ok]
      cases added : a.add f with
      | error reason => simp [Except.mapError, added]
      | ok next => simp [Except.mapError, added]

/-- Fields are taken when all of them could be made and are taken one after the other. -/
theorem foldlM_take_eq_ok_iff {fields : List (Except FieldError Field)} {c : Assembly} :
    fields.foldlM take a = .ok c ↔
      ∃ made : List Field, fields = made.map Except.ok ∧ made.foldlM Assembly.add a = .ok c := by
  induction fields generalizing a with
  | nil =>
      constructor
      · intro h
        exact ⟨[], rfl, congrArg Except.ok (Except.ok.inj h)⟩
      · rintro ⟨made, none, h⟩
        obtain rfl := List.map_eq_nil_iff.mp none.symm
        exact congrArg Except.ok (Except.ok.inj h)
  | cons field rest ih =>
      rw [foldlM_cons_eq_ok_iff]
      constructor
      · rintro ⟨next, first, taken⟩
        obtain ⟨f, rfl, added⟩ := take_eq_ok_iff.mp first
        obtain ⟨made, rfl, others⟩ := ih.mp taken
        exact ⟨f :: made, rfl, foldlM_cons_eq_ok_iff.mpr ⟨next, added, others⟩⟩
      · rintro ⟨made, split, taken⟩
        obtain ⟨f, made, rfl, rfl, rfl⟩ := List.map_eq_cons_iff.mp split.symm
        obtain ⟨next, added, others⟩ := foldlM_cons_eq_ok_iff.mp taken
        exact ⟨next, take_eq_ok_iff.mpr ⟨f, rfl, added⟩, ih.mpr ⟨made, rfl, others⟩⟩

theorem assemble_of_target_error {reason : GenerationError} (failed : b.target = .error reason) :
    b.assemble settings = .error reason := by
  unfold assemble
  rw [failed]
  rfl

theorem assemble_of_begin_error {target : Target} {reason : GenerationError}
    (htarget : b.target = .ok target) (failed : Assembly.begin settings target = .error reason) :
    b.assemble settings = .error reason := by
  unfold assemble
  rw [htarget]
  show (Assembly.begin settings target >>= _) = _
  rw [failed]
  rfl

theorem assemble_of_begin {target : Target} {blank : Assembly}
    (htarget : b.target = .ok target) (begun : Assembly.begin settings target = .ok blank) :
    b.assemble settings = b.fields.foldlM take blank := by
  unfold assemble
  rw [htarget]
  show (Assembly.begin settings target >>= _) = _
  rw [begun]
  rfl

/-- How a binding is assembled. -/
theorem assemble_eq_ok_iff :
    b.assemble settings = .ok a ↔ ∃ (target : Target) (blank : Assembly) (made : List Field),
      b.target = .ok target ∧ Assembly.begin settings target = .ok blank ∧
        b.fields = made.map Except.ok ∧ made.foldlM Assembly.add blank = .ok a := by
  constructor
  · intro assembled
    cases htarget : b.target with
    | error reason =>
        rw [assemble_of_target_error htarget] at assembled
        exact nomatch assembled
    | ok target =>
        cases begun : Assembly.begin settings target with
        | error reason =>
            rw [assemble_of_begin_error htarget begun] at assembled
            exact nomatch assembled
        | ok blank =>
            rw [assemble_of_begin htarget begun, foldlM_take_eq_ok_iff] at assembled
            obtain ⟨made, split, taken⟩ := assembled
            exact ⟨target, blank, made, rfl, begun, split, taken⟩
  · rintro ⟨target, blank, made, htarget, begun, split, taken⟩
    rw [assemble_of_begin htarget begun]
    exact foldlM_take_eq_ok_iff.mpr ⟨made, split, taken⟩

/-- A binding that is assembled leads to a reached assembly of its target. -/
theorem reached_of_assemble (assembled : b.assemble settings = .ok a) :
    ∃ target made, b.target = .ok target ∧ b.fields = made.map Except.ok ∧
      Assembly.Reached settings target made a ∧
      ∀ w ∈ a.warnings, w = .resultTypesIgnored target.cls.canonical := by
  obtain ⟨target, blank, made, htarget, begun, split, taken⟩ := assemble_eq_ok_iff.mp assembled
  have kept := congrArg Assembly.warnings (Assembly.bare_foldlM taken)
  exact ⟨target, made, htarget, split, (Assembly.Reached.begin begun).foldlM taken,
    fun w hw => Assembly.warnings_begin begun w (kept ▸ hw)⟩

/-- The warnings of a class count nobody as skipped. -/
theorem not_skipped_of_mem_warnings {cls reason : String} :
    .classSkipped cls reason ∉ (b.outcome settings).warnings := by
  intro h
  cases assembled : b.assemble settings with
  | error failure =>
      simp only [outcome, assembled] at h
      exact absurd h List.not_mem_nil
  | ok a =>
      simp only [outcome, assembled] at h
      obtain ⟨target, made, -, -, -, own⟩ := reached_of_assemble assembled
      exact nomatch own _ h

theorem companion?_eq_some_iff {c : Companion} :
    (b.outcome settings).companion? = some c ↔
      ∃ a, b.assemble settings = .ok a ∧ a.generate = .ok c := by
  rw [← bind_eq_ok_iff, Outcome.companion?, outcome]
  cases b.assemble settings >>= Assembly.generate <;> simp [Except.toOption]

/-- A companion is generated from an assembly of the target that was reached. -/
theorem exists_reached {c : Companion} (made : (b.outcome settings).companion? = some c) :
    ∃ target fields a, b.target = .ok target ∧ Assembly.Reached settings target fields a ∧
      a.generate = .ok c := by
  obtain ⟨a, assembled, generated⟩ := companion?_eq_some_iff.mp made
  obtain ⟨target, fields, htarget, -, reached, -⟩ := reached_of_assemble assembled
  exact ⟨target, fields, a, htarget, reached, generated⟩

/-- A binding under the name of its class has an outcome that is about this class. -/
theorem named_outcome (named : ∀ t, b.target = .ok t → t.cls.canonical = b.className) :
    (b.outcome settings).Named := by
  constructor
  · intro c hc
    obtain ⟨target, fields, a, htarget, reached, generated⟩ := exists_reached hc
    rw [reached.target_of_generate generated]
    exact named target htarget
  · intro w hw
    cases assembled : b.assemble settings with
    | error failure =>
        simp only [outcome, assembled] at hw
        exact absurd hw List.not_mem_nil
    | ok a =>
        simp only [outcome, assembled] at hw
        obtain ⟨target, made, htarget, -, -, own⟩ := reached_of_assemble assembled
        rw [own w hw, named target htarget]
        rfl

end Binding

/-- The class of a screen is read from the name that was declared. -/
theorem TargetEntry.parse_of_toTarget {e : TargetEntry} {t : Target}
    (converted : e.toTarget = .ok t) : ClassName.parse e.qualifiedName = .ok t.cls := by
  unfold toTarget at converted
  cases read : ClassName.parse e.qualifiedName with
  | error reason =>
      simp only [toClass, read, bind, Except.bind, Except.mapError] at converted
      cases converted
  | ok cls =>
      simp only [toClass, read, bind, Except.bind, Except.mapError] at converted
      split at converted
      · cases converted
      · split at converted
        · cases converted
        · rw [← Except.ok.inj converted]

/-- The class of a screen has the name that was declared. -/
theorem TargetEntry.canonical_of_toTarget {e : TargetEntry} {t : Target}
    (converted : e.toTarget = .ok t) : t.cls.canonical = e.qualifiedName :=
  ClassName.canonical_of_parse (parse_of_toTarget converted)

/-- Everything that is told of a declared class is told under its name. -/
theorem Manifest.named_outcome {settings : Settings} {m : Manifest} {o : Outcome}
    (h : o ∈ m.outcomes settings) : o.Named := by
  obtain ⟨b, hb, rfl⟩ := List.mem_map.mp h
  obtain ⟨e, -, rfl⟩ := List.mem_map.mp hb
  exact Binding.named_outcome fun t => TargetEntry.canonical_of_toTarget

/-! ### The whole run -/

namespace Batch

variable {source : String} {batch : Batch} {o : Outcome}

/-- Records the outcome of one class. -/
def record (source : String) (batch : Batch) (o : Outcome) : Batch :=
  let noted := { batch with statistics := batch.statistics.addWarnings o.warnings }
  match o.result with
  | .ok c => noted.add source c
  | .error reason => noted.skip o.className reason

/-- A binding does to a batch what its outcome says. -/
theorem addBinding_eq_record {settings : Settings} {b : Binding} :
    batch.addBinding settings source b = batch.record source (b.outcome settings) := by
  cases assembled : b.assemble settings with
  | error reason =>
      simp only [addBinding, record, Binding.outcome, assembled]
      rfl
  | ok a =>
      -- The warnings are taken out first, but generation does not look at them.
      have same : a.takeWarnings.2.generate = a.generate := rfl
      cases generated : a.generate with
      | error reason =>
          rw [generated] at same
          simp only [addBinding, record, Binding.outcome, assembled, bind, Except.bind, same,
            generated]
          rfl
      | ok c =>
          rw [generated] at same
          simp only [addBinding, record, Binding.outcome, assembled, bind, Except.bind, same,
            generated]
          rfl

theorem companions_record :
    (batch.record source o).companions = batch.companions ++ o.companion?.toList := by
  rcases o with ⟨cls, warnings, c | reason⟩
  · exact (List.append_nil _).symm
  · rfl

theorem files_record :
    (batch.record source o).files
      = batch.files ++ o.companion?.toList.flatMap (·.files source) := by
  rcases o with ⟨cls, warnings, reason | c⟩
  · exact (List.append_nil _).symm
  · exact congrArg _ (List.flatMap_singleton _ _).symm

theorem warnings_record :
    (batch.record source o).statistics.warnings = batch.statistics.warnings ++ o.notes := by
  rcases o with ⟨cls, warnings, reason | c⟩
  · show (Statistics.addWarning _ _).warnings = _
    rw [Statistics.warnings_addWarning, Statistics.warnings_addWarnings, List.append_assoc]
    rfl
  · show ((c.files source).foldl Statistics.addFile _).warnings = _
    rw [Statistics.warnings_foldl_addFile]
    exact (Statistics.warnings_addWarnings _ _).trans (congrArg _ (List.append_nil _).symm)

theorem counters_record (kept : ∀ cls reason, .classSkipped cls reason ∉ o.warnings) :
    (batch.record source o).statistics.counters
      = batch.statistics.counters.count source o.companion? := by
  have noted : (batch.statistics.addWarnings o.warnings).counters = batch.statistics.counters :=
    Statistics.counters_addWarnings kept
  rcases o with ⟨cls, warnings, reason | c⟩
  · exact congrArg
      (fun s : Statistics => { s with classesSkipped := s.classesSkipped + 1 }) noted
  · show ((c.files source).foldl Statistics.addFile _).counters = _
    rw [Statistics.counters_foldl_addFile]
    show (c.files source).foldl Statistics.addFile ((Statistics.counters _).addCompanion c) = _
    rw [noted]
    rfl

/-! ### Run of a list of outcomes -/

theorem companions_foldl_record {outcomes : List Outcome} :
    (outcomes.foldl (record source) batch).companions
      = batch.companions ++ outcomes.filterMap Outcome.companion? := by
  induction outcomes generalizing batch with
  | nil => exact (List.append_nil _).symm
  | cons o rest ih =>
      rw [List.foldl_cons, ih, companions_record, List.append_assoc, List.filterMap_cons]
      cases o.companion? <;> rfl

theorem files_foldl_record {outcomes : List Outcome} :
    (outcomes.foldl (record source) batch).files
      = batch.files ++ (outcomes.filterMap Outcome.companion?).flatMap (·.files source) := by
  induction outcomes generalizing batch with
  | nil => exact (List.append_nil _).symm
  | cons o rest ih =>
      rw [List.foldl_cons, ih, files_record, List.append_assoc, List.filterMap_cons]
      cases o.companion? <;> simp

theorem warnings_foldl_record {outcomes : List Outcome} :
    (outcomes.foldl (record source) batch).statistics.warnings
      = batch.statistics.warnings ++ outcomes.flatMap Outcome.notes := by
  induction outcomes generalizing batch with
  | nil => exact (List.append_nil _).symm
  | cons o rest ih =>
      rw [List.foldl_cons, ih, warnings_record, List.append_assoc, List.flatMap_cons]

theorem counters_foldl_record {outcomes : List Outcome}
    (kept : ∀ o ∈ outcomes, ∀ cls reason, .classSkipped cls reason ∉ o.warnings) :
    (outcomes.foldl (record source) batch).statistics.counters
      = (outcomes.map Outcome.companion?).foldl (Statistics.count source)
        batch.statistics.counters := by
  induction outcomes generalizing batch with
  | nil => rfl
  | cons o rest ih =>
      obtain ⟨keptHead, keptRest⟩ := List.forall_mem_cons.mp kept
      rw [List.foldl_cons, List.map_cons, List.foldl_cons, ih keptRest, counters_record keptHead]

end Batch

namespace Batch

variable {settings : Settings} {source : String} {m : Manifest}

theorem generate_eq_foldl_record :
    generate settings source m = (m.outcomes settings).foldl (record source)
      { statistics := ({} : Statistics).addWarnings m.bind.2 } := by
  have step : addBinding settings source
      = fun batch b => record source batch (b.outcome settings) := by
    funext batch b
    exact addBinding_eq_record
  rw [Manifest.outcomes, List.foldl_map, ← step]
  rfl

theorem companions_generate :
    (generate settings source m).companions
      = (m.outcomes settings).filterMap Outcome.companion? := by
  rw [generate_eq_foldl_record, companions_foldl_record]
  rfl

/-- Every companion of a run is that of a declared screen. -/
theorem exists_reached_of_mem {c : Companion}
    (member : c ∈ (generate settings source m).companions) :
    ∃ e ∈ m.targets, ∃ target fields a, e.toTarget = .ok target ∧
      Assembly.Reached settings target fields a ∧ a.generate = .ok c := by
  rw [companions_generate] at member
  obtain ⟨o, ho, made⟩ := List.mem_filterMap.mp member
  obtain ⟨b, hb, rfl⟩ := List.mem_map.mp ho
  obtain ⟨e, he, rfl⟩ := List.mem_map.mp hb
  obtain ⟨target, fields, a, htarget, reached, generated⟩ := Binding.exists_reached made
  have declared : e ∈ m.targets := List.mem_of_find?_eq_some (Manifest.mem_firstTargets_iff.mp he).2
  exact ⟨e, declared, target, fields, a, htarget, reached, generated⟩

theorem files_generate :
    (generate settings source m).files
      = (generate settings source m).companions.flatMap (·.files source) := by
  rw [companions_generate, generate_eq_foldl_record, files_foldl_record]
  rfl

theorem warnings_generate :
    (generate settings source m).statistics.warnings
      = m.bind.2 ++ (m.outcomes settings).flatMap Outcome.notes := by
  rw [generate_eq_foldl_record, warnings_foldl_record, Statistics.warnings_addWarnings]
  rfl

/-- Leaving out declarations skips no class. -/
theorem not_skipped_of_mem_bind {cls reason : String} : .classSkipped cls reason ∉ m.bind.2 := by
  simp only [Manifest.bind, List.mem_append, List.mem_map, not_or]
  constructor
  · rintro ⟨repeated, -, same⟩
    cases same
  · rintro ⟨orphan, -, same⟩
    cases same

theorem counters_generate :
    (generate settings source m).statistics.counters
      = ((m.outcomes settings).map Outcome.companion?).foldl (Statistics.count source) {} := by
  rw [generate_eq_foldl_record, counters_foldl_record, Statistics.counters_addWarnings]
  · rfl
  · exact fun _ _ => not_skipped_of_mem_bind
  · intro o ho cls reason
    obtain ⟨b, -, rfl⟩ := List.mem_map.mp ho
    exact Binding.not_skipped_of_mem_warnings

end Batch

end Companions
