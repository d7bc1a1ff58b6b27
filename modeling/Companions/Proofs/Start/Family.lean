import Companions.Proofs.Assembly
import Companions.Proofs.Start.Draft
import Companions.Proofs.Start.Window
import Mathlib.Tactic.IntervalCases

/-!
The start family of a reached assembly.

`Assembly.startFamily` shares one draft between all callables: it is copied before the optional
fields go in, copied again for every window, and closed at the end. `startFamily_eq` says that none
of this shows: every callable is the one a fresh draft of its own would yield.
`generate_startFamily` states it for a generated companion, with the windows written out.
-/

namespace Companions

/-- Name and optional fields of every callable of a start family: all of them, one run around the
ring after the other, none. -/
def Kind.choices (kind : Kind) (optional : List Field) : List (String × List Field) :=
  (kind.fullName, optional)
    :: ((places optional.length).map fun place =>
        let run := cyclicRun optional place.1 place.2
        (kind.variantName (run.map (·.name)), run))
    ++ [(kind.noOptionalName, [])]

theorem Kind.length_choices (kind : Kind) (optional : List Field) :
    (kind.choices optional).length = optional.length * (optional.length - 1) + 2 := by
  simp [choices, length_places]

/-- Every callable of the family takes optional fields of the screen only, each at most once. -/
theorem Kind.subperm_of_mem_choices {kind : Kind} {optional : List Field}
    {choice : String × List Field} (h : choice ∈ kind.choices optional) :
    choice.2.Subperm optional := by
  rw [choices, List.cons_append, List.mem_cons, List.mem_append, List.mem_singleton] at h
  rcases h with rfl | h | rfl
  · exact List.Subperm.refl _
  · obtain ⟨place, hplace, rfl⟩ := List.mem_map.mp h
    obtain ⟨-, short, inside⟩ := mem_places_iff.mp hplace
    exact cyclicRun_subperm inside (by omega)
  · exact List.nil_subperm

namespace Assembly

/-! ### The family without the shared draft -/

/-- The callable that takes the required fields and the given optional ones. -/
def member (a : Assembly) (choice : String × List Field) : Callable :=
  Draft.finished a.owner a.contract choice.1 (a.required.toList ++ choice.2)

/-- A window's callable is made from a copy, closed under the shared name and renamed after that. -/
theorem variant_holding {a : Assembly} {name : String} {window : Window} :
    a.variant (Draft.holding a.owner name a.required.toList) window
      = .ok (a.member (window.name, window.fields)) := by
  unfold variant
  rw [Draft.copy_holding, Draft.visitAll_holding]
  exact Draft.close_rename_build

theorem mapM_variant_holding {a : Assembly} {name : String} {windows : List Window} :
    windows.mapM (a.variant (Draft.holding a.owner name a.required.toList))
      = .ok (windows.map fun w => a.member (w.name, w.fields)) := by
  induction windows with
  | nil => rfl
  | cons window rest ih =>
      rw [List.mapM_cons, variant_holding, ih]
      rfl

/-- The callables of the family, each by itself. -/
def family (a : Assembly) : Callable × List Callable × Callable :=
  (a.member (a.kind.fullName, a.optional.toList),
    (places a.optional.toList.length).map fun place =>
      let run := cyclicRun a.optional.toList place.1 place.2
      a.member (a.kind.variantName (run.map (·.name)), run),
    a.member (a.kind.noOptionalName, []))

/-- **The shared draft leaves no trace**, and no draft is ever used out of order. -/
theorem startFamily_eq (a : Assembly) : a.startFamily = .ok a.family := by
  have shared : (Draft.begin a.owner a.kind.fullName).visitAll a.required.toList
      = .ok (Draft.holding a.owner a.kind.fullName a.required.toList) := by
    rw [Draft.begin_eq_holding, Draft.visitAll_holding, List.nil_append]
  unfold startFamily
  rw [shared]
  simp only [bind, Except.bind, Draft.visitAll_holding, Draft.copy_holding,
    Windows.toList_eq_map_places, mapM_variant_holding, List.map_map]
  simp only [Draft.close, Draft.build, Draft.holding]
  simp only [family, member, Draft.finished, List.append_nil]
  rfl

/-! ### A screen to begin with -/

/-- There is nothing to fit without a default. -/
theorem fits_of_mem_none {type : ValueType} {required : Bool} :
    ∀ d ∈ (none : Option Default), required = false ∧ d.fits type = true :=
  fun d h => absurd h (Option.not_mem_none d)

/-- A field without a default, for the screen below. -/
def sampleField (name : String) (type : ValueType) (required : Bool) (order : Nat)
    (isMemberName : Naming.isMemberName name = true)
    (notReserved : Naming.isReserved name = false) : Field :=
  { name, type, required, order, default := none, isMemberName, notReserved
    defaultFits := fits_of_mem_none }

/-- The fields of an editor, not in their order: three of them are optional, and one of these has a
default. -/
def editorFields : List Field :=
  [sampleField "title" .string false 3 (by decide) (by decide),
    sampleField "id" (.primitive .long) true 1 (by decide) (by decide),
    { sampleField "draft" (.primitive .boolean) false 2 (by decide) (by decide) with
      default := some (.boolean true)
      defaultFits := by decide },
    sampleField "tags" (.array .string) false 4 (by decide) (by decide)]

/-- An activity that hands back a text and a number. -/
def editor : Target :=
  { cls := ⟨"com.example", "Editor", []⟩, kind := .activity
    results := [⟨"status", .string⟩, ⟨"count", .primitive .int⟩] }

/-- The assembly of a screen that takes the fields in order. -/
def assembled? (settings : Settings) (target : Target) (fields : List Field) : Option Assembly :=
  (Assembly.begin settings target).toOption.bind fun blank =>
    (fields.foldlM Assembly.add blank).toOption

theorem Reached.of_assembled? {settings : Settings} {target : Target} {fields : List Field}
    {a : Assembly} (found : assembled? settings target fields = some a) :
    Reached settings target fields a := by
  obtain ⟨blank, hblank, ha⟩ := Option.bind_eq_some_iff.mp found
  cases begun : Assembly.begin settings target with
  | error reason =>
      rw [begun] at hblank
      exact nomatch hblank
  | ok fresh =>
      rw [begun] at hblank
      obtain rfl := Option.some.inj hblank
      cases taken : fields.foldlM Assembly.add fresh with
      | error reason =>
          rw [taken] at ha
          exact nomatch ha
      | ok filled =>
          rw [taken] at ha
          obtain rfl := Option.some.inj ha
          exact (Reached.begin begun).foldlM taken

/-- A companion that has been generated from fixed fields and checked. -/
theorem exists_generated {settings : Settings} {target : Target} {fields : List Field}
    {p : Companion → Prop} [DecidablePred p]
    (checked : ((assembled? settings target fields).bind fun a => a.generate.toOption).any
      (fun c => decide (p c)) = true) :
    ∃ a c, Reached settings target fields a ∧ a.generate = .ok c ∧ p c := by
  obtain ⟨c, made, holds⟩ := (Option.any_eq_true _ _).mp checked
  obtain ⟨a, found, made⟩ := Option.bind_eq_some_iff.mp made
  refine ⟨a, c, .of_assembled? found, ?_, of_decide_eq_true holds⟩
  cases generated : a.generate with
  | error reason =>
      rw [generated] at made
      exact nomatch made
  | ok c' =>
      rw [generated] at made
      exact congrArg Except.ok (Option.some.inj made)

/-- The editor can be put together and its companion generated. -/
theorem editor_generates :
    ∃ a c, Reached {} editor editorFields a ∧ a.generate = .ok c := by
  obtain ⟨a, found⟩ : ∃ a, assembled? {} editor editorFields = some a := ⟨_, rfl⟩
  obtain ⟨c, generated⟩ : ∃ c, a.generate = .ok c := by
    rw [← Option.some.inj found]
    exact ⟨_, rfl⟩
  exact ⟨a, c, .of_assembled? found, generated⟩

/-! ### The generated companion -/

/-- A companion is generated exactly when no two of its callables share a name, and then its
start family is that of the assembly. -/
theorem generate_eq_ok_iff {a : Assembly} {c : Companion} :
    a.generate = .ok c ↔
      c = a.companionWith a.family ∧ firstRepeated? (c.callables.map (·.name)) = none := by
  unfold generate
  rw [startFamily_eq]
  constructor
  · intro generated
    simp only at generated
    split at generated
    · exact nomatch generated
    · rename_i unique
      rw [← Except.ok.inj generated]
      exact ⟨rfl, unique⟩
  · rintro ⟨rfl, unique⟩
    simp only [unique]

theorem startFamily_companionWith_family (a : Assembly) :
    (a.companionWith a.family).startFamily = (a.kind.choices a.optional.toList).map a.member := by
  simp [Companion.startFamily, companionWith, family, Kind.choices]

section Reached

variable {settings : Settings} {target : Target} {fields : List Field} {a : Assembly}
  {c : Companion}

/-- Only an activity has a contract, so the closing parameters are those of the contract. -/
theorem Reached.closingParameters_eq (reached : Reached settings target fields a) :
    Draft.closingParameters a.owner a.contract
      = a.contract.toList.map Contract.listenerParameter := by
  have contract := reached.contract_eq
  have owner := reached.owner_eq
  unfold Draft.closingParameters
  rw [owner]
  cases kind : target.kind with
  | activity => rfl
  | fragment =>
      rw [kind] at contract
      simp only at contract
      rw [contract]
      rfl

/-- A generated companion is that of its target. -/
theorem Reached.target_of_generate (reached : Reached settings target fields a)
    (generated : a.generate = .ok c) : c.target = target.cls := by
  obtain ⟨rfl, -⟩ := generate_eq_ok_iff.mp generated
  rw [companionWith, reached.owner_eq]

theorem Reached.name_of_generate (reached : Reached settings target fields a)
    (generated : a.generate = .ok c) : c.name = target.companion := by
  obtain ⟨rfl, -⟩ := generate_eq_ok_iff.mp generated
  rw [companionWith, reached.owner_eq]

/-- The start family of a generated companion: one callable for every choice. -/
theorem Reached.startFamily_of_generate (reached : Reached settings target fields a)
    (generated : a.generate = .ok c) :
    c.startFamily = (target.kind.choices a.optional.toList).map a.member := by
  obtain ⟨rfl, -⟩ := generate_eq_ok_iff.mp generated
  rw [startFamily_companionWith_family, kind, reached.owner_eq]

/-- Every callable of a generated start family takes the required fields and some of the optional
ones, all of different names. -/
theorem Reached.exists_finished_of_mem (reached : Reached settings target fields a)
    (generated : a.generate = .ok c) {callable : Callable} (member : callable ∈ c.startFamily) :
    ∃ name taken, callable = Draft.finished { target, runtime := settings.runtime } a.contract name
        taken ∧
      (∀ f ∈ fields, f.required = true → f ∈ taken) ∧ (∀ f ∈ taken, f ∈ fields) ∧
      (taken.map (·.name)).Nodup := by
  rw [reached.startFamily_of_generate generated] at member
  obtain ⟨choice, hchoice, rfl⟩ := List.mem_map.mp member
  have chosen := Kind.subperm_of_mem_choices hchoice
  have taken : (a.required.toList ++ choice.2).Subperm fields :=
    ((List.Subperm.refl _).append chosen).trans reached.fields_perm.subperm
  refine ⟨choice.1, a.required.toList ++ choice.2, ?_, fun f hf required => ?_,
    fun f hf => taken.subset hf, ?_⟩
  · rw [Assembly.member, reached.owner_eq]
  · exact List.mem_append_left _ (reached.mem_required_iff.mpr ⟨hf, required⟩)
  · obtain ⟨same, perm, sublist⟩ := taken
    exact (perm.map _).nodup_iff.mp ((sublist.map _).nodup reached.names_nodup)

/-- The state callables of a generated companion deal with every field. -/
theorem Reached.inject_of_generate (reached : Reached settings target fields a)
    (generated : a.generate = .ok c) :
    c.inject = SavedState.inject { target, runtime := settings.runtime } a.fields := by
  obtain ⟨rfl, -⟩ := generate_eq_ok_iff.mp generated
  rw [companionWith, reached.owner_eq]

theorem Reached.saveState_of_generate (reached : Reached settings target fields a)
    (generated : a.generate = .ok c) :
    c.saveState = SavedState.saveState { target, runtime := settings.runtime } a.fields := by
  obtain ⟨rfl, -⟩ := generate_eq_ok_iff.mp generated
  rw [companionWith, reached.owner_eq]

/-- The callables of a generated companion: the start family, those of the state, and with a contract
the one that finishes. -/
theorem Reached.callables_of_generate (reached : Reached settings target fields a)
    (generated : a.generate = .ok c) :
    let owner : Owner := { target, runtime := settings.runtime }
    c.callables = (target.kind.choices a.optional.toList).map a.member
      ++ [SavedState.inject owner a.fields, SavedState.saveState owner a.fields]
      ++ a.contract.toList.map (Result.finishWithResult owner) := by
  have finish : c.finishWithResult.toList
      = a.contract.toList.map (Result.finishWithResult { target, runtime := settings.runtime }) := by
    obtain ⟨rfl, -⟩ := generate_eq_ok_iff.mp generated
    rw [companionWith, reached.owner_eq]
    exact Option.toList_map ..
  intro owner
  rw [Companion.callables, reached.startFamily_of_generate generated,
    reached.inject_of_generate generated, reached.saveState_of_generate generated, finish]

/-- A contract gives the companion a listener interface and a callable that finishes. -/
theorem Reached.result_of_generate (reached : Reached settings target fields a)
    (generated : a.generate = .ok c) {k : Contract} (contract : a.contract = some k) :
    c.listener = some k.listener ∧
      c.finishWithResult
        = some (Result.finishWithResult { target, runtime := settings.runtime } k) := by
  obtain ⟨rfl, -⟩ := generate_eq_ok_iff.mp generated
  rw [companionWith, reached.owner_eq, contract]
  exact ⟨rfl, rfl⟩

/-- **The start family, exactly.** Whatever fields were taken, the generated family lists, in this
order, the callable of all optional fields, those of the runs around the ring of them, by length and
then by beginning, and that of none. Each is what a draft of its own yields under its name, after it
visited the required fields in order, then the chosen ones, and was closed once. So the required
fields come first in every parameter list, and the listener of a contract comes last. -/
theorem generate_startFamily (reached : Reached settings target fields a)
    (generated : a.generate = .ok c) :
    let owner : Owner := { target, runtime := settings.runtime }
    let required := Field.inOrder (fields.filter (·.required))
    let optional := Field.inOrder (fields.filter (!·.required))
    let n := (fields.filter (!·.required)).length
    (c.startFamily.map Except.ok = (target.kind.choices optional).map fun choice =>
        Draft.written owner a.contract choice.1 (required ++ choice.2)) ∧
      c.startFamily.length = (if 1 < n then n * (n - 1) + 2 else 2) ∧
      (∀ callable ∈ c.startFamily, ∃ chosen : List Field,
        (∀ f ∈ chosen, f ∈ fields ∧ f.required = false) ∧
        callable.parameters = Draft.preambleParameters target.kind
          ++ (required ++ chosen).map Draft.fieldParameter
          ++ a.contract.toList.map Contract.listenerParameter) ∧
      ∀ contract, a.contract = some contract → ∀ callable ∈ c.startFamily,
        callable.parameters.getLast? = some contract.listenerParameter := by
  intro owner required optional n
  have family : c.startFamily = (target.kind.choices optional).map fun choice =>
      Draft.finished owner a.contract choice.1 (required ++ choice.2) := by
    rw [reached.startFamily_of_generate generated, reached.optional_eq]
    refine List.map_congr_left fun choice _ => ?_
    rw [member, reached.required_eq, reached.owner_eq]
  have size : optional.length = n := (Field.inOrder_perm _).length_eq
  have parameters : ∀ callable ∈ c.startFamily, ∃ chosen : List Field,
      (∀ f ∈ chosen, f ∈ fields ∧ f.required = false) ∧
      callable.parameters = Draft.preambleParameters target.kind
        ++ (required ++ chosen).map Draft.fieldParameter
        ++ a.contract.toList.map Contract.listenerParameter := by
    intro callable hcallable
    rw [family] at hcallable
    obtain ⟨choice, hchoice, rfl⟩ := List.mem_map.mp hcallable
    refine ⟨choice.2, fun f hf => ?_, ?_⟩
    · have hoptional := (Kind.subperm_of_mem_choices hchoice).subset hf
      simpa using (Field.inOrder_perm _).mem_iff.mp hoptional
    · rw [← reached.closingParameters_eq, reached.owner_eq]
      rfl
  refine ⟨?_, ?_, parameters, fun contract hcontract callable hcallable => ?_⟩
  · rw [family, List.map_map]
    exact List.map_congr_left fun choice _ => Draft.written_eq.symm
  · rw [family, List.length_map, Kind.length_choices, size]
    split
    · rfl
    · interval_cases n <;> rfl
  · obtain ⟨chosen, -, shape⟩ := parameters callable hcallable
    rw [shape, hcontract]
    exact List.getLast?_concat

end Reached

/-- The editor has three optional fields, hence six callables between the full one and the one
without optional fields. -/
theorem generate_startFamily_editor :
    ∃ a c, Reached {} editor editorFields a ∧ a.generate = .ok c ∧ c.startFamily.length = 8 := by
  obtain ⟨a, c, reached, generated⟩ := editor_generates
  exact ⟨a, c, reached, generated, (generate_startFamily reached generated).2.1⟩

end Assembly

end Companions
