import Companions.Proofs.Delivery

/-!
What is saved is restored.

`saveState` and `inject` are written by different builders over the same fields. Whatever the types,
the defaults and the roles of the fields are, `inject` takes back out of a saved state what
`saveState` put into it (`Assembly.generate_restores`).
-/

namespace Companions

open Execution

namespace Assembly

/-- **What is saved is restored.** On an instance of the screen whose fields are not `null`,
`saveState` adds exactly one entry for every field, under its name. Given a state with these
entries, `inject` gives every field of any instance of the screen the value that was saved, and
changes nothing else: neither defaults nor what the instance was started with matter. On anything
that is not an instance of the screen, both do nothing. -/
theorem generate_restores {settings : Settings} {target : Target} {fields : List Field}
    {a : Assembly} (reached : Reached settings target fields a) {c : Companion}
    (generated : a.generate = .ok c) (nonempty : fields ≠ []) {D : Device}
    (doc : D.Documented settings.runtime) :
    (∀ (s : State D.World) (id : Nat) (screen : String → Value), screen "instance" = .object id →
      D.isA (.object id) target.cls = true → (∀ f ∈ fields, s.fields id f.name ≠ .null) →
      D.entries s.world (screen "outState") = some .empty →
      ∃ r m, run D c.saveState screen s = some r ∧
        D.entries r.state.world (screen "outState") = some m ∧
        (∀ key v, m key = some v ↔ ∃ f ∈ fields, f.name = key ∧ s.fields id f.name = v) ∧
        r.state.fields = s.fields ∧
        ∀ (s₁ : State D.World) (other : Nat) (later : String → Value),
          later "instance" = .object other → D.isA (.object other) target.cls = true →
          D.entries s₁.world (later "savedInstanceState") = some m →
          ∃ r', run D c.inject later s₁ = some r' ∧
            (∀ f ∈ fields, r'.state.fields other f.name = s.fields id f.name) ∧
            (∀ object name, (object = other → name ∉ fields.map (·.name)) →
              r'.state.fields object name = s₁.fields object name) ∧
            r'.state.world = s₁.world) ∧
    ∀ (s : State D.World) (screen : String → Value),
      screen "instance" = .null ∨ D.isA (screen "instance") target.cls = false →
      run D c.saveState screen s = some ⟨s, []⟩ ∧ run D c.inject screen s = some ⟨s, []⟩ := by
  let owner : Owner := { target, runtime := settings.runtime }
  have documented : D.Documented owner.runtime := doc
  have names := reached.fields_perm.map (·.name)
  have someOfAll : a.fields ≠ [] := fun none => nonempty (none ▸ reached.fields_perm).nil_eq.symm
  rw [reached.saveState_of_generate generated]
  refine ⟨fun s id screen isObject isTarget present blank => ?_, fun s screen notTarget => ?_⟩
  case refine_2 =>
    rw [reached.inject_of_generate generated]
    exact ⟨run_saveState_of_not notTarget, run_inject_of_not notTarget⟩
  let m : Entries := .ofKeys (a.fields.map (·.name)) (s.fields id)
  obtain ⟨r, saved, unchanged, entries⟩ :=
    run_saveState documented someOfAll isObject isTarget blank
  rw [Entries.overlay_empty] at entries
  have exactly : ∀ key v, m key = some v ↔ ∃ f ∈ fields, f.name = key ∧ s.fields id f.name = v := by
    intro key v
    rw [Entries.ofKeys_eq_some_iff, names.mem_iff, List.mem_map]
    constructor
    · rintro ⟨⟨f, hf, rfl⟩, value⟩
      exact ⟨f, hf, rfl, value⟩
    · rintro ⟨f, hf, rfl, value⟩
      exact ⟨⟨f, hf, rfl⟩, value⟩
  refine ⟨r, m, saved, entries, exactly, unchanged, ?_⟩
  intro s₁ other later isObject isTarget state
  have stored : ∀ f ∈ fields, m f.name ≠ some .null := by
    intro f hf null
    obtain ⟨-, value⟩ := Entries.ofKeys_eq_some_iff.mp null
    exact present f hf value
  obtain ⟨r', injected, binds⟩ := reached.run_inject generated doc isObject isTarget
    (.inl ⟨rfl, rfl⟩) state stored
  refine ⟨r', injected, fun f hf => ?_, binds.others, binds.world⟩
  rw [binds.bound f hf, restored_ofKeys, if_pos (names.mem_iff.mpr (List.mem_map_of_mem hf))]

/-- An editor is saved, and its title is found again where every field had been lost. -/
theorem generate_restores_editor :
    ∃ a c, Reached {} editor editorFields a ∧ a.generate = .ok c ∧
      let screen (name : String) : Value :=
        if name = "instance" then Memory.appObject 1 else Memory.bundleAt 0
      ∃ r : Run editorDevice, run editorDevice c.saveState screen
          { fields := fun _ name => .text name, world := { bundles := [.empty] } } = some r ∧
        ∃ r', run editorDevice c.inject screen
            { fields := fun _ _ => .null, world := r.state.world } = some r' ∧
          r'.state.fields 9 "title" = .text "title" := by
  obtain ⟨a, c, reached, generated⟩ := editor_generates
  have doc : editorDevice.Documented ({} : Settings).runtime := memory_documented _ _
  let screen (name : String) : Value :=
    if name = "instance" then Memory.appObject 1 else Memory.bundleAt 0
  obtain ⟨r, m, saved, entries, -, -, restores⟩ :=
    (generate_restores reached generated (List.cons_ne_nil _ _) doc).1
      { fields := fun _ name => .text name, world := { bundles := [.empty] } } 9 screen rfl rfl
      (fun _ _ => Value.text_ne_null) rfl
  obtain ⟨r', injected, bound, -⟩ :=
    restores { fields := fun _ _ => .null, world := r.state.world } 9 screen rfl rfl entries
  exact ⟨a, c, reached, generated, r, saved, r', injected, bound _ List.mem_cons_self⟩

end Assembly

end Companions
