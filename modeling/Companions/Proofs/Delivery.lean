import Companions.Proofs.Contract
import Companions.Proofs.Execution.Binding
import Companions.Proofs.Execution.Memory
import Companions.Proofs.Execution.Showing
import Companions.Proofs.Start.Family

/-!
What a screen is started with arrives.

The start family and `inject` are written by different builders. They meet in the names of the
fields: a start callable puts each argument under the name of its field, and `inject` reads each
field from under its name. `Assembly.generate_delivers` runs one after the other, for every callable
of the family.
-/

namespace Companions

open Execution

/-- The listener of a contract meets nothing else if no field is named like it. -/
theorem Assembly.Reached.listenerApart {settings : Settings} {target : Target} {fields : List Field}
    {a : Assembly} (reached : Assembly.Reached settings target fields a)
    (apart : ∀ k, a.contract = some k → ∀ f ∈ fields, f.name ≠ k.listenerName) :
    ListenerApart a.contract fields := fun k contract =>
  ⟨Contract.listenerName_not_reserved (reached.make_contract contract).2, apart k contract⟩

/-- The `inject` of a generated companion binds the fields that the assembly took. -/
theorem Assembly.Reached.run_inject {settings : Settings} {target : Target} {fields : List Field}
    {a : Assembly} (reached : Assembly.Reached settings target fields a) {c : Companion}
    (generated : a.generate = .ok c) {D : Device} (doc : D.Documented settings.runtime)
    {screen : String → Value} {id : Nat} (isObject : screen "instance" = .object id)
    (isTarget : D.isA (.object id) target.cls = true) {s s' : State D.World} {bundle : Value}
    {m : Entries}
    (finds : screen "savedInstanceState" = bundle ∧ s' = s ∨
      screen "savedInstanceState" = .null ∧ D.ReadsFresh target.kind s id bundle s')
    (entries : D.entries s'.world bundle = some m) (stored : ∀ f ∈ fields, m f.name ≠ some .null) :
    ∃ r, run D c.inject screen s = some r ∧ Binds m id fields s' r.state := by
  let owner : Owner := { target, runtime := settings.runtime }
  have documented : D.Documented owner.runtime := doc
  have distinct : (a.fields.map (·.name)).Nodup :=
    (reached.fields_perm.map _).nodup_iff.mpr reached.names_nodup
  obtain ⟨r, injected, binds⟩ := Execution.run_inject documented distinct isObject isTarget finds
    entries fun f hf => stored f (reached.mem_fields_iff.mp hf)
  rw [reached.inject_of_generate generated]
  exact ⟨r, injected, binds.perm reached.fields_perm⟩

/-- On a screen that was started with the `keys`, `inject` binds the fields that are named like
them, and every other field falls back to its default, if it has one. -/
theorem Assembly.Reached.run_inject_started {settings : Settings} {target : Target}
    {fields : List Field} {a : Assembly} (reached : Assembly.Reached settings target fields a)
    {c : Companion} (generated : a.generate = .ok c) {D : Device}
    (doc : D.Documented settings.runtime) {keys : List String} {arguments : String → Value}
    (given : ∀ key ∈ keys, arguments key ≠ .null) {s s' : State D.World} {id : Nat}
    (isTarget : D.isA (.object id) target.cls = true)
    (started : D.StartedWith target.kind s id (.ofKeys keys arguments) s')
    {screen : String → Value} (isObject : screen "instance" = .object id)
    (fresh : screen "savedInstanceState" = .null) :
    ∃ r, run D c.inject screen s = some r ∧
      (∀ f ∈ fields, r.state.fields id f.name
        = if f.name ∈ keys then arguments f.name else fallback f (s.fields id f.name)) ∧
      (∀ other name, (other = id → name ∉ fields.map (·.name)) →
        r.state.fields other name = s.fields other name) ∧
      r.state.world = s'.world := by
  obtain ⟨⟨bundle, reads, entries⟩, same⟩ := started
  have stored : ∀ f ∈ fields, Entries.ofKeys keys arguments f.name ≠ some .null := by
    intro f _ null
    obtain ⟨present, value⟩ := Entries.ofKeys_eq_some_iff.mp null
    exact given f.name present value
  obtain ⟨r, injected, binds⟩ := reached.run_inject generated doc isObject isTarget
    (.inr ⟨fresh, reads⟩) entries stored
  refine ⟨r, injected, fun f hf => ?_, fun other name untouched => ?_, binds.world⟩
  · rw [binds.bound f hf, same, restored_ofKeys]
  · rw [binds.others other name untouched, same]

namespace Execution

variable {D : Device}

/-- **Every start callable hands over its arguments.** It starts the screen once, except that a
fragment is shown in no activity that cannot hold it; what is handed over are the arguments of the
visited fields under their names. -/
theorem yields_finished {owner : Owner} (doc : D.Documented owner.runtime)
    {contract : Option Contract} {name : String} {fields : List Field}
    {arguments : String → Value} (distinct : (fields.map (·.name)).Nodup)
    (apart : ListenerApart contract fields)
    (receiver : arguments (receiverName owner.target.kind) ≠ .null) (s : State D.World) :
    Yields (owner.target.kind = .fragment →
        owner.target.sharedElements.any Draft.SharedElement.needsContainer = true → D.FindsViews)
      (run D (Draft.finished owner contract name fields) arguments s) fun r =>
        (r.callsOf (Call.starts owner.runtime)).length
            = (if owner.target.kind = .activity
                ∨ D.isA (arguments "activity") Platform.fragmentActivity = true then 1 else 0) ∧
          ∀ started ∈ r.callsOf (Call.starts owner.runtime),
            started.handedOver = .ofKeys (fields.map (·.name)) arguments := by
  cases kind : owner.target.kind with
  | activity =>
      rw [kind] at receiver
      obtain ⟨i, r, before, ran, extras, starts⟩ :=
        run_start doc kind name distinct apart receiver s
      refine Yields.of_eq ran ⟨by rw [starts, if_pos (.inl rfl)]; rfl, fun started hstarted => ?_⟩
      rw [starts, List.mem_singleton] at hstarted
      rw [hstarted, handedOver_startCall, extras]
      rfl
  | fragment =>
      rw [kind] at receiver
      have shown := run_show doc kind name distinct apart receiver s
      refine ⟨fun r ran => ?_, fun total => shown.returns (total rfl)⟩
      have outcome := shown.sound r ran
      by_cases holds : D.isA (arguments "activity") Platform.fragmentActivity = true
      · rw [if_pos holds] at outcome
        obtain ⟨made, starts, handed⟩ := outcome
        rw [starts, if_pos (.inr holds)]
        refine ⟨rfl, fun started hstarted => ?_⟩
        rw [List.nil_append, List.mem_singleton] at hstarted
        rw [hstarted, handed]
      · rw [if_neg holds] at outcome
        rw [outcome, if_neg (by simp [holds])]
        exact ⟨rfl, nofun⟩

end Execution

namespace Assembly

/-! ### The editor on the device in memory -/

/-- The first object of the app is an activity, the second one an editor. -/
def editorDevice : Device :=
  memory {} fun
    | 0, cls => cls == Platform.activity
    | 1, cls => cls == editor.cls
    | _, _ => false

/-- What the editor is started with; the third object of the app listens. -/
def editorArguments : String → Value
  | "context" => Memory.appObject 0
  | "id" => .literal (.integer 7 .long)
  | "title" => .text "Notes"
  | "draft" => .literal (.boolean false)
  | "tags" => Memory.appObject 3
  | _ => Memory.appObject 2

theorem editorArguments_ne_null (name : String) : editorArguments name ≠ .null := by
  unfold editorArguments
  split <;> exact nofun

/-- The listener of the editor is named like none of its fields. -/
theorem editor_apart {a : Assembly} (reached : Reached {} editor editorFields a) :
    ∀ k, a.contract = some k → ∀ f ∈ editorFields, f.name ≠ k.listenerName := by
  intro k contract f hf
  refine (Contract.listenerName_ne (reached.make_contract contract).2 ?_).symm
  revert f
  decide

/-! ### From the call to the fields -/

/-- **What a screen is started with arrives.** Run any callable of a generated start family on
arguments that are not `null`. It starts the screen once (a fragment is shown in no activity that
cannot hold it), and whenever the new screen was started with what was handed over, `inject` leaves
each field that the callable takes with its argument, each other field with its default if it has
one, and everything else as it was. All required fields are among those that it takes. -/
theorem generate_delivers {settings : Settings} {target : Target} {fields : List Field}
    {a : Assembly} (reached : Reached settings target fields a) {c : Companion}
    (generated : a.generate = .ok c)
    (apart : ∀ k, a.contract = some k → ∀ f ∈ fields, f.name ≠ k.listenerName)
    {D : Device} (doc : D.Documented settings.runtime)
    {callable : Callable} (member : callable ∈ c.startFamily) {arguments : String → Value}
    (given : ∀ p ∈ callable.parameters, p.nullable = false → arguments p.name ≠ .null)
    (s : State D.World) :
    let takes (f : Field) : Prop := f.name ∈ callable.parameters.map (·.name)
    (∀ f ∈ fields, f.required = true → takes f) ∧
    Yields (target.kind = .fragment →
        target.sharedElements.any Draft.SharedElement.needsContainer = true → D.FindsViews)
      (run D callable arguments s) fun r =>
        (r.callsOf (Call.starts settings.runtime)).length
            = (if target.kind = .activity
                ∨ D.isA (arguments "activity") Platform.fragmentActivity = true then 1 else 0) ∧
        ∀ started ∈ r.callsOf (Call.starts settings.runtime),
          ∀ (s₁ s₂ : State D.World) (id : Nat), D.isA (.object id) target.cls = true →
            D.StartedWith target.kind s₁ id started.handedOver s₂ →
          ∀ screen : String → Value, screen "instance" = .object id →
            screen "savedInstanceState" = .null →
          ∃ r', run D c.inject screen s₁ = some r' ∧
            (∀ f ∈ fields, takes f → r'.state.fields id f.name = arguments f.name) ∧
            (∀ f ∈ fields, ¬ takes f → ∀ d, f.default = some d →
              r'.state.fields id f.name = .literal (SavedState.defaultLiteral d f.type)) ∧
            (∀ f ∈ fields, ¬ takes f → f.default = none →
              r'.state.fields id f.name = s₁.fields id f.name) ∧
            (∀ other name, (other = id → name ∉ fields.map (·.name)) →
              r'.state.fields other name = s₁.fields other name) ∧
            r'.state.world = s₂.world := by
  intro takes
  obtain ⟨name, taken, rfl, required, subset, distinct⟩ :=
    reached.exists_finished_of_mem generated member
  let owner : Owner := { target, runtime := settings.runtime }
  have documented : D.Documented owner.runtime := doc
  have takes_iff : ∀ f ∈ fields, takes f ↔ f.name ∈ taken.map (·.name) := fun f hf =>
    name_mem_finished_iff fun k contract => apart k contract f hf
  have listener : ListenerApart a.contract taken := fun k contract =>
    ⟨(reached.listenerApart apart k contract).1, fun f hf => apart k contract f (subset f hf)⟩
  have receiver : arguments (receiverName owner.target.kind) ≠ .null := by
    obtain ⟨p, hp, named, nonNull⟩ := exists_receiver_mem_finished
    exact named ▸ given p hp nonNull
  have present : ∀ key ∈ taken.map (·.name), arguments key ≠ .null := by
    intro key hkey
    obtain ⟨f, hf, rfl⟩ := List.mem_map.mp hkey
    exact given (Draft.fieldParameter f) (fieldParameter_mem_finished hf) rfl
  refine ⟨fun f hf h => (takes_iff f hf).mpr (List.mem_map_of_mem (required f hf h)), ?_⟩
  refine (yields_finished documented distinct listener receiver s).mono fun r outcome => ?_
  obtain ⟨count, handed⟩ := outcome
  refine ⟨count, fun started hstarted s₁ s₂ id isTarget carried screen isObject fresh => ?_⟩
  rw [handed started hstarted] at carried
  obtain ⟨r', injected, bound, others, world⟩ :=
    reached.run_inject_started generated doc present isTarget carried isObject fresh
  refine ⟨r', injected, fun f hf h => ?_, fun f hf h d default => ?_, fun f hf h default => ?_,
    others, world⟩
  · rw [bound f hf, if_pos ((takes_iff f hf).mp h)]
  · rw [bound f hf, if_neg (mt (takes_iff f hf).mpr h), fallback, default]
  · rw [bound f hf, if_neg (mt (takes_iff f hf).mpr h), fallback, default]

/-- The editor is started with the identifier of a note, and finds it. -/
theorem generate_delivers_editor :
    ∃ a c, Reached {} editor editorFields a ∧ a.generate = .ok c ∧
      ∃ r started, run editorDevice c.full editorArguments (arrived .empty) = some r ∧
        r.callsOf (Call.starts {}) = [started] ∧
        ∃ r', run editorDevice c.inject
            (fun name => if name = "instance" then Memory.appObject 1 else .null)
            (arrived started.handedOver) = some r' ∧
          r'.state.fields 9 "id" = .literal (.integer 7 .long) := by
  obtain ⟨a, c, reached, generated⟩ := editor_generates
  have doc : editorDevice.Documented ({} : Settings).runtime := memory_documented _ _
  have started := generate_delivers reached generated (editor_apart reached) doc
    (List.mem_cons_self : c.full ∈ c.startFamily)
    (fun p _ _ => editorArguments_ne_null p.name) (arrived .empty)
  obtain ⟨taken, result⟩ := started
  obtain ⟨r, ran⟩ := result.returns nofun
  obtain ⟨count, delivered⟩ := result.sound r ran
  obtain ⟨made, starts⟩ := List.length_eq_one_iff.mp count
  obtain ⟨s', carried⟩ : ∃ s', editorDevice.StartedWith .activity (arrived made.handedOver) 9
      made.handedOver s' := memory_startedWith
  obtain ⟨r', injected, bound, -⟩ := delivered made (starts ▸ List.mem_singleton_self made) _ s' 9
    rfl carried (fun name => if name = "instance" then Memory.appObject 1 else .null) rfl rfl
  let id : Field := sampleField "id" (.primitive .long) true 1 (by decide) (by decide)
  have inside : id ∈ editorFields := .tail _ (.head _)
  exact ⟨a, c, reached, generated, r, made, ran, starts, r', injected,
    bound id inside (taken id inside rfl)⟩

end Assembly

end Companions
