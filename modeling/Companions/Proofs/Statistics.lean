import Companions.Proofs.Constants
import Companions.Proofs.Isolation
import Companions.Proofs.Overloads
import Mathlib.Algebra.BigOperators.Group.List.Basic
import Mathlib.Data.List.Dedup

/-!
What the counters of a run add up to.

A class adds to the counters what its companion says, or that it was skipped, so after a run they
are a `Statistics.tally` of the companions (`Batch.counters_generate_eq_tally`). A companion in turn
is made of the first declaration of its class and of the fields that name it as their owner
(`Manifest.Makes`), so its callables and constants can be counted in the manifest. Both give the
laws of `Statistics.Balances`.

Writing the files asks for each of them once, in order, and adds nothing but the number of files
that were written and a warning for each of the others (`Batch.emit_eq_attempts`), so the laws still
hold: `Batch.generate_balances`.
-/

namespace Companions

/-! ### Declared screens and fields -/

namespace TargetEntry

/-- How many values a declared screen hands back. -/
def resultCount (e : TargetEntry) : Nat :=
  match e.kind with
  | .activity => e.resultTypes.length
  | .fragment => 0

theorem length_handedBack_of_toTarget {e : TargetEntry} {t : Target}
    (converted : e.toTarget = .ok t) : t.handedBack.length = e.resultCount := by
  obtain ⟨cls, -, converted⟩ := bind_eq_ok_iff.mp converted
  obtain ⟨results, made, converted⟩ := bind_eq_ok_iff.mp converted
  obtain ⟨elements, -, converted⟩ := bind_eq_ok_iff.mp converted
  have number : results.length = e.resultTypes.length :=
    (forall₂_of_mapM_eq_ok (mapError_eq_ok_iff.mp made)).length_eq.symm
  rw [← Except.ok.inj converted, Target.handedBack, resultCount]
  cases e.kind with
  | activity => exact number
  | fragment => rfl

end TargetEntry

namespace Field

variable {f g : Field}

theorem required_of_make {name : String} {type : ValueType} {required : Bool} {order : Nat}
    (made : make name type required order = .ok f) : f.required = required := by
  unfold make at made
  split_ifs at made
  rw [← Except.ok.inj made]

theorem required_of_withDefault {d : Default} (made : f.withDefault d = .ok g) :
    g.required = f.required := by
  unfold withDefault at made
  split_ifs at made
  rw [← Except.ok.inj made]

end Field

/-- A field is required when it is declared so. -/
theorem FieldEntry.required_of_toField {e : FieldEntry} {position : Nat} {f : Field}
    (made : e.toField position = .ok f) : f.required = e.required := by
  obtain ⟨plain, hplain, made⟩ := bind_eq_ok_iff.mp made
  have role : plain.required = e.required := by
    unfold toPlainField at hplain
    split at hplain
    · exact Field.required_of_make hplain
    · exact nomatch hplain
  cases given : e.default with
  | none =>
      simp only [given] at made
      rw [← Except.ok.inj made, role]
  | some value =>
      simp only [given] at made
      obtain ⟨d, -, made⟩ := bind_eq_ok_iff.mp made
      rw [Field.required_of_withDefault made, role]

namespace Manifest

variable {settings : Settings} {m : Manifest} {name : String} {fields : List Field}

/-! ### Numbers of a manifest -/

/-- The names that are declared as screens, each once. -/
def classNames (m : Manifest) : List String :=
  (m.targets.map (·.qualifiedName)).dedup

/-- The declarations of the fields of a class. -/
def ownFields (m : Manifest) (name : String) : List FieldEntry :=
  m.fields.filter (·.owner == name)

/-- How many required fields are declared for a class. -/
def requiredCount (m : Manifest) (name : String) : Nat :=
  (m.ownFields name).countP (·.required)

/-- How many optional fields are declared for a class. -/
def optionalCount (m : Manifest) (name : String) : Nat :=
  (m.ownFields name).countP (!·.required)

/-- How many values a class hands back by its first declaration. -/
def resultCount (m : Manifest) (name : String) : Nat :=
  match m.targets.find? (·.qualifiedName == name) with
  | some e => e.resultCount
  | none => 0

/-- Fields that could all be made are required where they are declared so. -/
theorem required_of_fieldsOf (made : m.fieldsOf name = fields.map .ok) :
    fields.map (·.required) = (m.ownFields name).map (·.required) := by
  let role (field : Except FieldError Field) : Bool := field.toOption.any (·.required)
  calc fields.map (·.required) = (m.fieldsOf name).map role := by
        rw [made, List.map_map]
        rfl
    _ = (m.ownFields name).map (·.required) := by
        rw [ownFields, filter_eq_map_zipIdx, fieldsOf, List.map_map, List.map_map]
        refine List.map_congr_left fun x hx => ?_
        have member : x.1.toField x.2 ∈ fields.map Except.ok := made ▸ List.mem_map_of_mem hx
        obtain ⟨f, -, found⟩ := List.mem_map.mp member
        show role (x.1.toField x.2) = x.1.required
        rw [← found, ← FieldEntry.required_of_toField found.symm]
        rfl

theorem length_of_fieldsOf (made : m.fieldsOf name = fields.map .ok) :
    fields.length = (m.ownFields name).length := by
  simpa using congrArg List.length (required_of_fieldsOf made)

theorem countP_required_of_fieldsOf (made : m.fieldsOf name = fields.map .ok) :
    fields.countP (·.required) = m.requiredCount name := by
  have counted := congrArg (List.countP id) (required_of_fieldsOf made)
  rwa [List.countP_map, List.countP_map] at counted

theorem countP_optional_of_fieldsOf (made : m.fieldsOf name = fields.map .ok) :
    fields.countP (!·.required) = m.optionalCount name := by
  have counted := congrArg (List.countP (!·)) (required_of_fieldsOf made)
  rwa [List.countP_map, List.countP_map] at counted

/-! ### Screens that are kept and left out -/

theorem length_firstTargets {seen : List String} {targets : List TargetEntry} :
    (firstTargets seen targets).2.length + (firstTargets seen targets).1.length
      = targets.length := by
  induction targets generalizing seen with
  | nil => rfl
  | cons e rest ih =>
      by_cases present : e.qualifiedName ∈ seen
      · have next := @ih seen
        simp only [firstTargets, List.contains_iff_mem.mpr present, ↓reduceIte, List.length_cons]
        omega
      · have next := @ih (e.qualifiedName :: seen)
        simp only [firstTargets, List.contains_iff_mem, present, ↓reduceIte, List.length_cons]
        omega

/-- The first declarations are those of all declared names. -/
theorem names_firstTargets_perm :
    ((firstTargets [] m.targets).1.map (·.qualifiedName)).Perm m.classNames := by
  refine (List.perm_ext_iff_of_nodup nodup_names_firstTargets (List.nodup_dedup _)).mpr
    fun name => ?_
  rw [List.mem_dedup]
  exact mem_names_firstTargets_iff

theorem length_outcomes (settings : Settings) :
    (m.outcomes settings).length = m.classNames.length := by
  rw [outcomes, bind, List.length_map, List.length_map, ← names_firstTargets_perm.length_eq,
    List.length_map]

end Manifest

namespace Assembly.Reached

variable {settings : Settings} {m : Manifest} {name : String} {target : Target}
  {fields : List Field} {a : Assembly}

/-- The required set of an assembly has the fields of its class that are declared so. -/
theorem length_required (reached : Reached settings target fields a)
    (made : m.fieldsOf name = fields.map .ok) :
    a.required.toList.length = m.requiredCount name := by
  rw [reached.sets.1.1.length_eq, ← List.countP_eq_length_filter,
    Manifest.countP_required_of_fieldsOf made]

/-- The optional set has all others. -/
theorem length_optional (reached : Reached settings target fields a)
    (made : m.fieldsOf name = fields.map .ok) :
    a.optional.toList.length = m.optionalCount name := by
  rw [reached.sets.2.1.length_eq, ← List.countP_eq_length_filter,
    Manifest.countP_optional_of_fieldsOf made]

end Assembly.Reached

namespace Manifest

variable {settings : Settings} {m : Manifest} {fields : List Field}

/-! ### What a companion is made of -/

/-- A companion and what it is made of: the first declaration of its class, and its fields. -/
structure Makes (settings : Settings) (m : Manifest) (c : Companion) (e : TargetEntry)
    (target : Target) (fields : List Field) (a : Assembly) : Prop where
  named : c.target.canonical = e.qualifiedName
  first : m.targets.find? (·.qualifiedName == e.qualifiedName) = some e
  converted : e.toTarget = .ok target
  made : m.fieldsOf e.qualifiedName = fields.map .ok
  reached : Assembly.Reached settings target fields a
  generated : a.generate = .ok c

namespace Makes

variable {c : Companion} {e : TargetEntry} {target : Target} {a : Assembly}

/-- The values of the contract are counted in the first declaration. -/
theorem length_handedBack (makes : Makes settings m c e target fields a) :
    target.handedBack.length = m.resultCount c.target.canonical := by
  rw [resultCount, makes.named, makes.first,
    TargetEntry.length_handedBack_of_toTarget makes.converted]

/-- There is a window for every length and every beginning. -/
theorem length_variants (makes : Makes settings m c e target fields a) :
    c.variants.length
      = m.optionalCount c.target.canonical * (m.optionalCount c.target.canonical - 1) := by
  obtain ⟨family, -⟩ := Assembly.generate_eq_ok_iff.mp makes.generated
  have names := congrArg List.length a.variants_names
  rw [List.length_map, Windows.length_names, ← family, makes.reached.length_optional makes.made,
    ← makes.named] at names
  exact names

theorem length_constants (makes : Makes settings m c e target fields a) :
    c.constants.length = (m.ownFields c.target.canonical).length
      + m.resultCount c.target.canonical := by
  obtain ⟨family, -⟩ := Assembly.generate_eq_ok_iff.mp makes.generated
  have total : a.constants.length = a.fields.length + target.handedBack.length := by
    simp only [makes.reached.constants_eq, Assembly.constantsFor, List.length_append,
      List.length_map, Assembly.fields, makes.reached.required_eq, makes.reached.optional_eq]
  rw [← makes.length_handedBack, makes.named, ← length_of_fieldsOf makes.made,
    ← makes.reached.fields_perm.length_eq, ← total, family]
  rfl

/-- A companion has a listener when there are values to hand back. -/
theorem isSome_listener (makes : Makes settings m c e target fields a) :
    c.listener.isSome = true ↔ 0 < m.resultCount c.target.canonical := by
  obtain ⟨family, -⟩ := Assembly.generate_eq_ok_iff.mp makes.generated
  have listener : c.listener = a.contract.map Contract.listener := by rw [family]; rfl
  rw [← makes.length_handedBack, listener, Option.isSome_map, Option.isSome_iff_exists,
    makes.reached.exists_contract_iff, List.length_pos_iff, Target.handedBack]
  cases target.kind <;> simp

end Makes

end Manifest

/-- Every companion of a run is made of declarations of its class. -/
theorem Batch.exists_makes {settings : Settings} {source : String} {m : Manifest} {c : Companion}
    (member : c ∈ (generate settings source m).companions) :
    ∃ e target fields a, Manifest.Makes settings m c e target fields a := by
  rw [companions_generate] at member
  obtain ⟨o, ho, made⟩ := List.mem_filterMap.mp member
  obtain ⟨b, hb, rfl⟩ := List.mem_map.mp ho
  obtain ⟨e, he, rfl⟩ := List.mem_map.mp hb
  obtain ⟨a, assembled, generated⟩ := Binding.companion?_eq_some_iff.mp made
  obtain ⟨target, fields, converted, split, reached, -⟩ := Binding.reached_of_assemble assembled
  exact ⟨e, target, fields, a, (Manifest.named_outcome ho).companion c made,
    (Manifest.mem_firstTargets_iff.mp he).2, converted, split, reached, generated⟩

/-! ### Counters -/

namespace Companion

theorem length_startFamily (c : Companion) : c.startFamily.length = c.variants.length + 2 := by
  rw [startFamily, List.cons_append, List.length_cons, List.length_append, List.length_singleton]

theorem sum_length_startFamily (companions : List Companion) :
    (companions.map (·.startFamily.length)).sum
      = (companions.map (·.variants.length)).sum + 2 * companions.length := by
  simp only [length_startFamily, List.sum_map_add, List.map_const', List.sum_replicate_nat,
    Nat.mul_comm]

end Companion

namespace Statistics

/-- The counters of a run that has skipped some classes and generated companions for others. -/
def tally (skipped : Nat) (companions : List Companion) : Statistics :=
  { classesGenerated := companions.length
    activitiesGenerated := companions.countP (·.kind = .activity)
    fragmentsGenerated := companions.countP (·.kind = .fragment)
    classesSkipped := skipped
    javaFiles := companions.length
    kotlinFiles := companions.countP (·.dialects.kotlin)
    startCallables := (companions.map (·.startFamily.length)).sum
    windowedVariants := (companions.map (·.variants.length)).sum
    constantsGenerated := (companions.map (·.constants.length)).sum
    resultContracts := companions.countP (·.listener.isSome) }

variable {source : String} {skipped : Nat} {companions : List Companion}

theorem count_tally_some {c : Companion} :
    (tally skipped companions).count source (some c) = tally skipped (companions ++ [c]) := by
  have counted : (tally skipped companions).count source (some c)
      = (c.files source).foldl addFile ((tally skipped companions).addCompanion c) := rfl
  rw [counted, Companion.files]
  cases kotlin : c.dialects.kotlin <;>
    simp [tally, addCompanion, addFile, kotlin, List.countP_singleton]

theorem foldl_count_tally {results : List (Option Companion)} :
    results.foldl (count source) (tally skipped companions)
      = tally (skipped + results.countP (·.isNone)) (companions ++ results.filterMap id) := by
  induction results generalizing skipped companions with
  | nil => rw [List.foldl_nil, List.countP_nil, List.filterMap_nil, List.append_nil, Nat.add_zero]
  | cons result rest ih =>
      rw [List.foldl_cons]
      cases result with
      | none =>
          show rest.foldl (count source) (tally (skipped + 1) companions) = _
          rw [ih, List.countP_cons_of_pos rfl, List.filterMap_cons_none rfl, Nat.add_assoc,
            Nat.add_comm 1]
      | some c =>
          rw [count_tally_some, ih, List.countP_cons_of_neg Bool.false_ne_true,
            List.filterMap_cons_some (f := id) rfl, List.append_assoc, List.singleton_append]

/-- Every companion has one kind. -/
theorem countP_kinds :
    companions.countP (·.kind = .activity) + companions.countP (·.kind = .fragment)
      = companions.length := by
  induction companions with
  | nil => rfl
  | cons c rest ih =>
      simp only [List.countP_cons, List.length_cons]
      cases c.kind <;> simp <;> omega

end Statistics

namespace Warning

/-- What a warning is about. -/
inductive Topic where
  | skipped
  | orphan
  | refused
  | repeated
  | ignored
deriving DecidableEq

/-- The topic of a warning. -/
def topic : Warning → Topic
  | classSkipped .. => .skipped
  | orphanField .. => .orphan
  | emissionFailed .. => .refused
  | duplicateTarget _ => .repeated
  | resultTypesIgnored _ => .ignored

end Warning

namespace Manifest

variable {settings : Settings} {m : Manifest}

/-- The fields that belong to no declared screen. -/
theorem length_orphans : m.orphans.length = m.fields.countP fun e => e.owner ∉ m.classNames := by
  rw [orphans, ← List.countP_eq_length_filter]
  refine List.countP_congr fun e _ => ?_
  simp [classNames]

/-- What is left out of a manifest: repeated declarations, and fields without a screen. -/
theorem countP_bind {topic : Warning.Topic} : m.bind.2.countP (·.topic = topic)
    = (if topic = .repeated then (firstTargets [] m.targets).2.length else 0)
      + (if topic = .orphan then m.orphans.length else 0) := by
  rw [bind, List.countP_append, List.countP_map, List.countP_map]
  cases topic <;> simp [Function.comp_def, Warning.topic]

end Manifest

namespace Outcome

variable {outcomes : List Outcome} {topic : Warning.Topic}

/-- A class leaves a warning that it was skipped exactly when it has no companion. -/
theorem Named.countP_notes {o : Outcome} (named : o.Named) (told : topic ≠ .ignored) :
    o.notes.countP (·.topic = topic) = if topic = .skipped ∧ o.companion? = none then 1 else 0 := by
  have own : o.warnings.countP (·.topic = topic) = 0 := by
    refine List.countP_eq_zero.mpr fun w hw => ?_
    rw [named.warnings w hw, decide_eq_true_eq]
    exact told.symm
  rw [notes, List.countP_append, own, Nat.zero_add]
  cases result : o.result with
  | ok c => simp [companion?, result, Except.toOption]
  | error reason =>
      simp [companion?, result, Except.toOption, Warning.topic, List.countP_singleton, eq_comm]

theorem countP_flatMap_notes (named : ∀ o ∈ outcomes, o.Named) (told : topic ≠ .ignored) :
    (outcomes.flatMap notes).countP (·.topic = topic)
      = if topic = .skipped then outcomes.countP (·.companion?.isNone) else 0 := by
  induction outcomes with
  | nil => simp
  | cons o rest ih =>
      obtain ⟨head, rest⟩ := List.forall_mem_cons.mp named
      rw [List.flatMap_cons, List.countP_append, head.countP_notes told, ih rest, List.countP_cons]
      by_cases topic = .skipped <;> simp_all [Nat.add_comm]

/-- Every outcome either has a companion or none. -/
theorem length_eq : (outcomes.filterMap companion?).length + outcomes.countP (·.companion?.isNone)
    = outcomes.length := by
  induction outcomes with
  | nil => rfl
  | cons o rest ih =>
      rw [List.countP_cons, List.length_cons, List.filterMap_cons]
      cases o.companion? <;> simp <;> omega

end Outcome

/-! ### A whole run -/

/-- The laws of the counters of a run: they count each other, the companions and files of the run,
and the declarations of the manifest. -/
structure Statistics.Balances (s : Statistics) (m : Manifest) (batch : Batch) : Prop where
  /-- Every declared name is a class that was generated or skipped. -/
  classes : s.classesGenerated + s.classesSkipped = m.classNames.length
  kinds : s.activitiesGenerated + s.fragmentsGenerated = s.classesGenerated
  companions : s.classesGenerated = batch.companions.length
  java : s.javaFiles = batch.companions.length
  kotlin : s.kotlinFiles = batch.companions.countP (·.dialects.kotlin)
  files : batch.files.length = s.javaFiles + s.kotlinFiles
  /-- A class has its windows, a callable with all fields and one with the required fields. -/
  callables : s.startCallables = s.windowedVariants + 2 * s.classesGenerated
  windows : s.windowedVariants = (batch.companions.map fun c =>
    let n := m.optionalCount c.target.canonical
    n * (n - 1)).sum
  constants : s.constantsGenerated = (batch.companions.map fun c =>
    (m.ownFields c.target.canonical).length + m.resultCount c.target.canonical).sum
  contracts : s.resultContracts
    = batch.companions.countP fun c => 0 < m.resultCount c.target.canonical
  repeated : s.warnings.countP (·.topic = .repeated) + m.classNames.length = m.targets.length
  orphans : s.warnings.countP (·.topic = .orphan)
    = m.fields.countP fun e => e.owner ∉ m.classNames
  skipped : s.warnings.countP (·.topic = .skipped) = s.classesSkipped

namespace Batch

variable {settings : Settings} {source : String} {m : Manifest}

theorem counters_generate_eq_tally :
    (generate settings source m).statistics.counters
      = .tally ((m.outcomes settings).countP (·.companion?.isNone))
        (generate settings source m).companions := by
  have start : ({} : Statistics) = .tally 0 [] := rfl
  rw [counters_generate, start, Statistics.foldl_count_tally, List.countP_map, List.filterMap_map,
    companions_generate, Nat.zero_add]
  rfl

theorem countP_warnings_generate {topic : Warning.Topic} (told : topic ≠ .ignored) :
    (generate settings source m).statistics.warnings.countP (·.topic = topic)
      = (if topic = .repeated then (Manifest.firstTargets [] m.targets).2.length else 0)
        + (if topic = .orphan then m.orphans.length else 0)
        + (if topic = .skipped then (m.outcomes settings).countP (·.companion?.isNone) else 0) := by
  rw [warnings_generate, List.countP_append, Manifest.countP_bind,
    Outcome.countP_flatMap_notes (fun o => Manifest.named_outcome) told]

/-- The files of a run: one for every companion, and one more where Kotlin is selected. -/
theorem length_files_generate :
    (generate settings source m).files.length = (generate settings source m).companions.length
      + (generate settings source m).companions.countP (·.dialects.kotlin) := by
  rw [files_generate]
  induction (generate settings source m).companions with
  | nil => rfl
  | cons c rest ih =>
      rw [List.flatMap_cons, List.length_append, ih, List.length_cons, List.countP_cons,
        Companion.files]
      cases c.dialects.kotlin <;> simp <;> omega

/-- **The counters of a run balance.** -/
theorem balances_generate (settings : Settings) (source : String) (m : Manifest) :
    (generate settings source m).statistics.Balances m (generate settings source m) := by
  let batch := generate settings source m
  -- What a counter of the tally says, a counter of the run says.
  have counters : batch.statistics.counters = .tally _ batch.companions :=
    counters_generate_eq_tally
  have companions : batch.companions.length
      + (m.outcomes settings).countP (·.companion?.isNone) = m.classNames.length := by
    rw [← Manifest.length_outcomes settings, ← Outcome.length_eq]
    exact congrArg (· + _) (congrArg List.length companions_generate)
  have generated : batch.statistics.classesGenerated = batch.companions.length :=
    congrArg Statistics.classesGenerated counters
  have java : batch.statistics.javaFiles = batch.companions.length :=
    congrArg Statistics.javaFiles counters
  have kotlin : batch.statistics.kotlinFiles = batch.companions.countP (·.dialects.kotlin) :=
    congrArg Statistics.kotlinFiles counters
  have windows : batch.statistics.windowedVariants
      = (batch.companions.map (·.variants.length)).sum :=
    congrArg Statistics.windowedVariants counters
  have skipped : batch.statistics.classesSkipped
      = (m.outcomes settings).countP (·.companion?.isNone) :=
    congrArg Statistics.classesSkipped counters
  constructor
  case classes => rw [generated, skipped, companions]
  case kinds =>
    rw [generated, ← Statistics.countP_kinds]
    exact congrArg₂ (· + ·) (congrArg Statistics.activitiesGenerated counters)
      (congrArg Statistics.fragmentsGenerated counters)
  case companions => exact generated
  case java => exact java
  case kotlin => exact kotlin
  case files => rw [length_files_generate, java, kotlin]
  case callables =>
    rw [windows, generated, ← Companion.sum_length_startFamily]
    exact congrArg Statistics.startCallables counters
  case windows =>
    rw [windows]
    refine congrArg List.sum (List.map_congr_left fun c hc => ?_)
    obtain ⟨_, _, _, _, makes⟩ := exists_makes hc
    exact makes.length_variants
  case constants =>
    refine (congrArg Statistics.constantsGenerated counters).trans
      (congrArg List.sum (List.map_congr_left fun c hc => ?_))
    obtain ⟨_, _, _, _, makes⟩ := exists_makes hc
    exact makes.length_constants
  case contracts =>
    refine (congrArg Statistics.resultContracts counters).trans (List.countP_congr fun c hc => ?_)
    obtain ⟨_, _, _, _, makes⟩ := exists_makes hc
    rw [makes.isSome_listener, decide_eq_true_eq]
  case repeated =>
    rw [countP_warnings_generate (by decide), ← Manifest.names_firstTargets_perm.length_eq,
      List.length_map]
    exact Manifest.length_firstTargets
  case orphans =>
    rw [countP_warnings_generate (by decide), ← Manifest.length_orphans]
    exact Nat.zero_add _
  case skipped =>
    rw [countP_warnings_generate (by decide), skipped]
    exact Nat.zero_add _

/-! ### Writing the files -/

section Emission

variable {files : List SourceFile} {s : Statistics}

/-- Asks for every file to be written, in order, and keeps the answers. -/
def attempts {n : Type → Type} [Monad n] (write : SourceFile → n (Except String Unit))
    (files : List SourceFile) : n (List (SourceFile × Except String Unit)) :=
  files.mapM fun f => return (f, ← write f)

/-- The warning that a file could not be written. -/
def refusal? : SourceFile × Except String Unit → Option Warning
  | (f, .error reason) => some (.emissionFailed f.pathText reason)
  | (_, .ok ()) => none

/-- Records the answers for some files. -/
def recordWrites (s : Statistics) (writes : List (SourceFile × Except String Unit)) : Statistics :=
  writes.foldl (fun s write => recordWrite s write.1 write.2) s

section Monadic

variable {n : Type → Type} [Monad n] [LawfulMonad n] (write : SourceFile → n (Except String Unit))
  {f : SourceFile} {rest : List SourceFile}

theorem emit_cons : emit write (f :: rest) s
    = write f >>= fun answer => emit write rest (recordWrite s f answer) := by
  simp only [emit, List.foldlM_cons, bind_assoc, pure_bind]

theorem attempts_cons : attempts write (f :: rest)
    = write f >>= fun answer => List.cons (f, answer) <$> attempts write rest := by
  simp only [attempts, List.mapM_cons, bind_assoc, pure_bind, map_eq_pure_bind]

/-- **Writing the files is asking for each of them in order**, in whatever monad that happens. -/
theorem emit_eq_attempts : emit write files s = recordWrites s <$> attempts write files := by
  induction files generalizing s with
  | nil => simp only [emit, attempts, List.foldlM_nil, List.mapM_nil, map_pure]; rfl
  | cons f rest ih =>
      rw [emit_cons, attempts_cons, map_bind]
      refine bind_congr fun answer => ?_
      rw [ih, Functor.map_map]
      rfl

end Monadic

/-- Every file is asked for once, in order. -/
theorem files_of_attempts {World : Type} (write : SourceFile → StateM World (Except String Unit))
    (world : World) : ((attempts write files).run world).1.map Prod.fst = files := by
  induction files generalizing world with
  | nil => rfl
  | cons f rest ih =>
      rw [attempts_cons]
      exact congrArg (f :: ·) (ih _)

/-- A record has one more file written for every file that was, and a warning for every other. -/
theorem recordWrites_eq {writes : List (SourceFile × Except String Unit)} :
    recordWrites s writes
      = { s with
          filesWritten := s.filesWritten + writes.countP (·.2.isOk)
          warnings := s.warnings ++ writes.filterMap refusal? } := by
  induction writes generalizing s with
  | nil =>
      rw [List.countP_nil, List.filterMap_nil, List.append_nil]
      rfl
  | cons w rest ih =>
      have next : recordWrites s (w :: rest) = recordWrites (recordWrite s w.1 w.2) rest := rfl
      rw [next, ih]
      obtain ⟨f, reason | ⟨⟩⟩ := w
      · rw [List.countP_cons_of_neg Bool.false_ne_true,
          List.filterMap_cons_some (f := refusal?) rfl]
        simp [recordWrite, Statistics.addWarning]
      · rw [List.countP_cons_of_pos rfl, List.filterMap_cons_none (f := refusal?) rfl]
        simp [recordWrite, Statistics.addWritten, Nat.add_assoc, Nat.add_comm 1]

/-- Every file was either written or refused. -/
theorem length_writes {writes : List (SourceFile × Except String Unit)} :
    writes.countP (·.2.isOk) + (writes.filterMap refusal?).length = writes.length := by
  induction writes with
  | nil => rfl
  | cons w rest ih =>
      obtain ⟨f, reason | ⟨⟩⟩ := w
      · rw [List.countP_cons_of_neg Bool.false_ne_true,
          List.filterMap_cons_some (f := refusal?) rfl, List.length_cons, List.length_cons, ← ih,
          Nat.add_assoc]
      · rw [List.countP_cons_of_pos rfl, List.filterMap_cons_none (f := refusal?) rfl,
          List.length_cons, ← ih, Nat.add_right_comm]

/-- A refusal is about a file that could not be written, and about nothing else. -/
theorem topic_of_mem_refusals {writes : List (SourceFile × Except String Unit)} {w : Warning}
    (member : w ∈ writes.filterMap refusal?) : w.topic = .refused := by
  obtain ⟨⟨f, reason | ⟨⟩⟩, -, refused⟩ := List.mem_filterMap.mp member
  · rw [← Option.some.inj refused]
    rfl
  · exact nomatch refused

theorem countP_refusals {writes : List (SourceFile × Except String Unit)} {topic : Warning.Topic} :
    (writes.filterMap refusal?).countP (·.topic = topic)
      = if topic = .refused then (writes.filterMap refusal?).length else 0 := by
  split <;> rename_i about
  · refine List.countP_eq_length.mpr fun w hw => ?_
    rw [topic_of_mem_refusals hw, about, decide_eq_true rfl]
  · refine List.countP_eq_zero.mpr fun w hw => ?_
    rw [topic_of_mem_refusals hw, decide_eq_true_eq]
    exact fun same => about same.symm

end Emission

end Batch

/-- Counters that balance still do when the answers for some files are recorded. -/
theorem Statistics.Balances.recordWrites {s : Statistics} {m : Manifest} {batch : Batch}
    (balanced : s.Balances m batch) (writes : List (SourceFile × Except String Unit)) :
    (Batch.recordWrites s writes).Balances m batch := by
  -- Refusals are about other things than the warnings that the laws count.
  have kept : ∀ topic ≠ Warning.Topic.refused,
      (s.warnings ++ writes.filterMap Batch.refusal?).countP (·.topic = topic)
        = s.warnings.countP (·.topic = topic) := fun topic other => by
    rw [List.countP_append, Batch.countP_refusals, if_neg other, Nat.add_zero]
  rw [Batch.recordWrites_eq]
  exact { balanced with
    repeated := (congrArg (· + _) (kept _ (by decide))).trans balanced.repeated
    orphans := (kept _ (by decide)).trans balanced.orphans
    skipped := (kept _ (by decide)).trans balanced.skipped }

namespace Batch

/-- **Statistics balance.** After a run the counters agree with each other, with the companions and
files of the run, and with the declarations of the manifest. Whatever becomes of the files, writing
them asks for each one once, in order, changes nothing but the number of files that were written and
the warnings, to which it adds one for every file that was refused, and keeps the laws; every file
is then counted in one of the two. -/
theorem generate_balances (settings : Settings) (source : String) (m : Manifest) {World : Type}
    (write : SourceFile → StateM World (Except String Unit)) (world : World) :
    let batch := generate settings source m
    let writes := ((attempts write batch.files).run world).1
    let after := ((emit write batch.files batch.statistics).run world).1
    batch.statistics.Balances m batch ∧ after.Balances m batch ∧
      writes.map Prod.fst = batch.files ∧
      ((emit write batch.files batch.statistics).run world).2
        = ((attempts write batch.files).run world).2 ∧
      after = { batch.statistics with
        filesWritten := writes.countP (·.2.isOk)
        warnings := batch.statistics.warnings ++ writes.filterMap refusal? } ∧
      after.filesWritten + after.warnings.countP (·.topic = .refused) = batch.files.length := by
  intro batch writes after
  have balanced := balances_generate settings source m
  have asked : writes.map Prod.fst = batch.files := files_of_attempts write world
  have emitted : (emit write batch.files batch.statistics).run world
      = (recordWrites batch.statistics writes, ((attempts write batch.files).run world).2) := by
    rw [emit_eq_attempts]
    rfl
  have recorded : after = recordWrites batch.statistics writes := congrArg Prod.fst emitted
  have unwritten : batch.statistics.filesWritten = 0 :=
    congrArg Statistics.filesWritten counters_generate_eq_tally
  have unrefused : batch.statistics.warnings.countP (·.topic = .refused) = 0 :=
    countP_warnings_generate (by decide)
  have changed : after = { batch.statistics with
      filesWritten := writes.countP (·.2.isOk)
      warnings := batch.statistics.warnings ++ writes.filterMap refusal? } := by
    rw [recorded, recordWrites_eq, unwritten, Nat.zero_add]
  refine ⟨balanced, recorded ▸ balanced.recordWrites writes, asked, congrArg Prod.snd emitted,
    changed, ?_⟩
  rw [changed, List.countP_append, unrefused, countP_refusals, if_pos rfl, Nat.zero_add,
    length_writes, ← asked, List.length_map]

end Batch

end Companions
