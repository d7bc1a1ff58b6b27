import Companions.Console.Listing
import Companions.Proofs.Statistics

/-!
The listing against a run.

The listing adds the fields of a class by itself, under settings of its own, and reports what went
wrong as text. It is the outcome of the class all the same (`Listed.callables_ofBinding`), for two
reasons. A fold that reports a failure in another form fails at the same place
(`foldlM_mapError`). And settings reach no further than the runtime and the languages of an
assembly: with other ones (`Assembly.under`) the same fields are taken, the same fail, and the start
family has as many callables (`Binding.assemble_under`, `Assembly.callables_under`).

`Console.listing_agrees` says this of all rows of a listing and any run over the same manifest.
-/

namespace Companions

/-! ### Other settings -/

namespace Assembly

variable {settings : Settings} {target : Target} {a : Assembly}

/-- The assembly as it is under other settings. -/
def under (settings : Settings) (a : Assembly) : Assembly :=
  { a with
    owner := { a.owner with runtime := settings.runtime }
    dialects := settings.dialects.getD a.owner.target.dialects }

theorem begin_under (settings : Settings) (target : Target) :
    Assembly.begin settings target = (Assembly.begin {} target).map (under settings) := by
  unfold Assembly.begin
  cases target.kind with
  | activity => cases Contract.make target <;> rfl
  | fragment => rfl

theorem add_under {f : Field} :
    (a.under settings).add f = (a.add f).map (under settings) := by
  have taken : (a.under settings).fields = a.fields := rfl
  unfold add
  rw [taken]
  split
  · rfl
  · split <;> rfl

/-- Settings change neither the failure nor the number of callables of the start family. -/
theorem callables_under : (a.under settings).generate.map (·.startFamily.length)
    = a.generate.map (·.startFamily.length) := by
  have kind : (a.under settings).kind = a.kind := rfl
  have optional : (a.under settings).optional = a.optional := rfl
  have cls : (a.under settings).owner.target = a.owner.target := rfl
  rw [generate_eq, generate_eq, kind, optional, cls]
  cases firstRepeated? (Windows.names a.kind a.optional.toList) with
  | some name => rfl
  | none =>
      have number : ∀ x : Assembly, (x.companionWith x.family).startFamily.length
          = (x.kind.choices x.optional.toList).length := fun x => by
        rw [startFamily_companionWith_family, List.length_map]
      exact congrArg Except.ok ((number (a.under settings)).trans (number a).symm)

end Assembly

namespace Binding

variable {settings : Settings} {b : Binding}

theorem take_under (a : Assembly) (field : Except FieldError Field) :
    take (a.under settings) field = (take a field).map (Assembly.under settings) := by
  cases field with
  | error reason => rfl
  | ok f =>
      rw [take_ok, take_ok, Assembly.add_under]
      cases a.add f <;> rfl

theorem assemble_under : b.assemble settings = (b.assemble {}).map (Assembly.under settings) := by
  cases htarget : b.target with
  | error reason =>
      rw [assemble_of_target_error htarget, assemble_of_target_error htarget]
      rfl
  | ok target =>
      have under := Assembly.begin_under settings target
      cases begun : Assembly.begin {} target with
      | error reason =>
          rw [begun] at under
          rw [assemble_of_begin_error htarget begun, assemble_of_begin_error htarget under]
          rfl
      | ok blank =>
          rw [begun] at under
          rw [assemble_of_begin htarget begun, assemble_of_begin htarget under]
          exact foldlM_map take_under

/-- How many callables the start family of a class has, or why there are none. -/
def callables (settings : Settings) (b : Binding) : Except GenerationError Nat :=
  (b.outcome settings).result.map (·.startFamily.length)

/-- **Settings show in neither.** -/
theorem callables_eq : b.callables settings = b.callables {} := by
  unfold callables outcome
  rw [assemble_under]
  cases b.assemble {} with
  | error reason => rfl
  | ok a => exact Assembly.callables_under

theorem callables_eq_ok_iff {n : Nat} : b.callables settings = .ok n ↔
    ∃ c, (b.outcome settings).companion? = some c ∧ c.startFamily.length = n := by
  rw [callables, Outcome.companion?]
  cases (b.outcome settings).result <;> simp [Except.map, Except.toOption]

theorem callables_eq_error_iff {reason : GenerationError} :
    b.callables settings = .error reason ↔ (b.outcome settings).result = .error reason := by
  rw [callables]
  cases (b.outcome settings).result <;> simp [Except.map]

end Binding

/-! ### Rows -/

namespace Console

namespace Listed

variable {settings : Settings} {b : Binding} {a : Assembly}

/-- The row of a class that nothing is known of but its kind, and why. -/
def blank (b : Binding) (callables : Except String Nat) : Listed :=
  { className := b.className
    kind := match b.target with
      | .ok target => target.kind.name
      | .error _ => "?"
    callables }

/-- **A row is the outcome of its class under default settings**, and the numbers of fields if all
of them could be added. -/
theorem ofBinding_eq : ofBinding b = match b.assemble {} with
    | .error reason => blank b (.error reason.message)
    | .ok a =>
      { blank b ((a.generate.map (·.startFamily.length)).mapError GenerationError.message) with
        required := a.required.toList.length
        optional := a.optional.toList.length } := by
  unfold ofBinding blank
  cases htarget : b.target with
  | error reason =>
      rw [Binding.assemble_of_target_error htarget]
  | ok target =>
      cases begun : Assembly.begin {} target with
      | error reason =>
          rw [Binding.assemble_of_begin_error htarget begun]
          simp only [begun]
      | ok start =>
          let add (a : Assembly) (field : Except FieldError Field) := field.bind a.add
          have folded : b.assemble {} = (b.fields.foldlM add start).mapError .field := by
            rw [Binding.assemble_of_begin htarget begun]
            exact foldlM_mapError
          rw [folded]
          simp only [begun]
          cases b.fields.foldlM add start with
          | error reason => rfl
          | ok a =>
              simp only [Except.mapError]
              cases a.generate <;> rfl

theorem className_ofBinding : (ofBinding b).className = b.className := by
  rw [ofBinding_eq]
  cases b.assemble {} <;> rfl

/-- A row has the callables that any run gives its class. -/
theorem callables_ofBinding (settings : Settings) :
    (ofBinding b).callables = (b.callables settings).mapError GenerationError.message := by
  rw [ofBinding_eq, Binding.callables_eq, Binding.callables, Binding.outcome]
  cases b.assemble {} with
  | error reason => rfl
  | ok a => rfl

theorem callables_ofBinding_eq_ok_iff (settings : Settings) {n : Nat} :
    (ofBinding b).callables = .ok n ↔
      ∃ c, (b.outcome settings).companion? = some c ∧ c.startFamily.length = n := by
  rw [callables_ofBinding settings, mapError_eq_ok_iff, Binding.callables_eq_ok_iff]

theorem callables_ofBinding_eq_error_iff (settings : Settings) {reason : String} :
    (ofBinding b).callables = .error reason ↔
      ∃ failure, (b.outcome settings).result = .error failure ∧ failure.message = reason := by
  rw [callables_ofBinding settings]
  simp only [← Binding.callables_eq_error_iff]
  cases b.callables settings <;> simp [Except.mapError]

/-- A row with callables has counted the fields of an assembly. -/
theorem counts_ofBinding {n : Nat} (counted : (ofBinding b).callables = .ok n) :
    ∃ a, b.assemble {} = .ok a ∧ (ofBinding b).required = a.required.toList.length ∧
      (ofBinding b).optional = a.optional.toList.length := by
  rw [ofBinding_eq] at counted ⊢
  cases assembled : b.assemble {} with
  | error reason =>
      rw [assembled] at counted
      exact nomatch counted
  | ok a => exact ⟨a, rfl, rfl, rfl⟩

end Listed

/-! ### The listing and a run -/

variable {settings : Settings} {source : String} {m : Manifest}

theorem names_listing : (listing m).map (·.className)
    = (Manifest.firstTargets [] m.targets).1.map (·.qualifiedName) := by
  rw [listing, Manifest.bind, List.map_map, List.map_map]
  exact List.map_congr_left fun e _ => Listed.className_ofBinding

/-- Rows with callables are companions of a run, in order. -/
theorem callables_listing (settings : Settings) (source : String) :
    (listing m).filterMap (·.callables.toOption)
      = (Batch.generate settings source m).companions.map (·.startFamily.length) := by
  have row : ∀ b : Binding, (Listed.ofBinding b).callables.toOption
      = (b.outcome settings).companion?.map (·.startFamily.length) := fun b => by
    rw [Listed.callables_ofBinding settings, Binding.callables, Outcome.companion?]
    cases (b.outcome settings).result <;> rfl
  rw [Batch.companions_generate, Manifest.outcomes, listing, List.filterMap_map,
    List.filterMap_map, List.map_filterMap]
  exact List.filterMap_congr fun b _ => row b

end Console

/-! ### What a run tells of one class -/

/-- That a class was skipped is noted with the failure of its outcome. -/
theorem Outcome.Named.skipped_mem_notes_iff {o : Outcome} (named : o.Named) {cls reason : String} :
    .classSkipped cls reason ∈ o.notes ↔
      o.className = cls ∧ ∃ failure, o.result = .error failure ∧ failure.message = reason := by
  have apart : .classSkipped cls reason ∉ o.warnings := fun h => nomatch named.warnings _ h
  rw [notes, List.mem_append, or_iff_right apart]
  cases o.result with
  | ok c => simp
  | error failure => simp [eq_comm]

namespace Manifest

variable {settings : Settings} {m : Manifest} {e : TargetEntry}

/-- Every first declaration has one outcome under its name. -/
theorem eq_outcome (first : e ∈ (firstTargets [] m.targets).1) {o : Outcome}
    (member : o ∈ m.outcomes settings) (named : o.className = e.qualifiedName) :
    o = (m.binding e).outcome settings := by
  obtain ⟨b, hb, rfl⟩ := List.mem_map.mp member
  obtain ⟨e', he', rfl⟩ := List.mem_map.mp hb
  have same : e'.qualifiedName = e.qualifiedName := named
  have found := (mem_firstTargets_iff.mp he').2
  rw [same, (mem_firstTargets_iff.mp first).2] at found
  rw [Option.some.inj found]

theorem outcome_mem (settings : Settings) (first : e ∈ (firstTargets [] m.targets).1) :
    (m.binding e).outcome settings ∈ m.outcomes settings :=
  List.mem_map_of_mem (List.mem_map_of_mem first)

end Manifest

namespace Batch

variable {settings : Settings} {source : String} {m : Manifest} {e : TargetEntry}

/-- The companion of a class is the one of its name. -/
theorem companion?_eq_some_iff (first : e ∈ (Manifest.firstTargets [] m.targets).1)
    {c : Companion} : ((m.binding e).outcome settings).companion? = some c ↔
      c ∈ (generate settings source m).companions ∧ c.target.canonical = e.qualifiedName := by
  rw [companions_generate, List.mem_filterMap]
  constructor
  · intro made
    have member := Manifest.outcome_mem settings first
    exact ⟨⟨_, member, made⟩, (Manifest.named_outcome member).companion c made⟩
  · rintro ⟨⟨o, member, made⟩, named⟩
    have own := (Manifest.named_outcome member).companion c made
    rw [← Manifest.eq_outcome first member (own.symm.trans named)]
    exact made

/-- A class is skipped for the failure of its outcome. -/
theorem skipped_mem_warnings_iff (first : e ∈ (Manifest.firstTargets [] m.targets).1)
    {reason : String} :
    .classSkipped e.qualifiedName reason ∈ (generate settings source m).statistics.warnings ↔
      ∃ failure, ((m.binding e).outcome settings).result = .error failure ∧
        failure.message = reason := by
  rw [warnings_generate, List.mem_append, or_iff_right not_skipped_of_mem_bind, List.mem_flatMap]
  constructor
  · rintro ⟨o, member, noted⟩
    obtain ⟨named, failed⟩ := (Manifest.named_outcome member).skipped_mem_notes_iff.mp noted
    rwa [← Manifest.eq_outcome first member named]
  · intro failed
    have member := Manifest.outcome_mem settings first
    exact ⟨_, member, (Manifest.named_outcome member).skipped_mem_notes_iff.mpr ⟨rfl, failed⟩⟩

end Batch

namespace Console

/-- **The listing agrees with every run.** It has one row for every declared name. A row has a
number of callables exactly when a run generates a companion for the class, and then it is that of
the start family, the fields are counted as they are declared, and the number of callables follows
from that of the optional ones. It has a reason exactly when a run skips the class for it. All
callables together are those that the run counts. The settings of the run do not matter. -/
theorem listing_agrees (settings : Settings) (source : String) (m : Manifest) :
    let rows := listing m
    let batch := Batch.generate settings source m
    (rows.map (·.className)).Perm m.classNames ∧
      (∀ row ∈ rows,
        (∀ n, row.callables = .ok n ↔ ∃ c ∈ batch.companions,
          c.target.canonical = row.className ∧ c.startFamily.length = n) ∧
        (∀ n, row.callables = .ok n →
          row.required = m.requiredCount row.className ∧
          row.optional = m.optionalCount row.className ∧
          n = if 1 < row.optional then row.optional * (row.optional - 1) + 2 else 2) ∧
        ∀ reason, row.callables = .error reason ↔
          .classSkipped row.className reason ∈ batch.statistics.warnings) ∧
      (rows.filterMap (·.callables.toOption)).sum = batch.statistics.startCallables := by
  intro rows batch
  refine ⟨?_, fun row hrow => ?_, ?_⟩
  · show ((listing m).map (·.className)).Perm m.classNames
    rw [names_listing]
    exact Manifest.names_firstTargets_perm
  · obtain ⟨b, hb, rfl⟩ := List.mem_map.mp hrow
    obtain ⟨e, first, rfl⟩ := List.mem_map.mp hb
    rw [Listed.className_ofBinding]
    have companions : ∀ n, (Listed.ofBinding (m.binding e)).callables = .ok n ↔
        ∃ c ∈ batch.companions,
          c.target.canonical = e.qualifiedName ∧ c.startFamily.length = n := by
      intro n
      rw [Listed.callables_ofBinding_eq_ok_iff settings]
      exact exists_congr fun c =>
        (and_congr_left' (Batch.companion?_eq_some_iff first)).trans and_assoc
    refine ⟨companions, fun n counted => ?_, fun reason => ?_⟩
    · obtain ⟨a, assembled, required, optional⟩ := Listed.counts_ofBinding counted
      obtain ⟨target, fields, -, made, reached, -⟩ := Binding.reached_of_assemble assembled
      obtain ⟨c, hc, named, number⟩ := (companions n).mp counted
      obtain ⟨_, _, _, _, makes⟩ := Batch.exists_makes hc
      rw [required, optional, reached.length_required made, reached.length_optional made, ← number,
        c.length_startFamily, makes.length_variants, named]
      refine ⟨rfl, rfl, ?_⟩
      split
      · rfl
      · rename_i few
        have none : m.optionalCount e.qualifiedName - 1 = 0 := by omega
        rw [none, Nat.mul_zero]
    · rw [Listed.callables_ofBinding_eq_error_iff settings]
      exact (Batch.skipped_mem_warnings_iff first).symm
  · show ((listing m).filterMap (·.callables.toOption)).sum = batch.statistics.startCallables
    rw [callables_listing settings source]
    exact (congrArg Statistics.startCallables Batch.counters_generate_eq_tally).symm

end Console

end Companions
