import Companions.Proofs.Delivery

/-!
Extras that are absent.

A declared default is for an extra that is absent. An extra may be missing from the bundle that
`inject` finds, and there may be no bundle at all: no saved state, and nothing that the screen was
started with. `inject` tests for the bundle once, around all fields. So defaults are assigned in the
first case, whatever else the bundle holds, and nothing is assigned in the second
(`Assembly.generate_defaults`).
-/

namespace Companions

open Execution

namespace Assembly

/-- **When defaults are assigned.** On an instance of the screen, every run of `inject` has found a
bundle or that there is none, and every such finding leads to a run. If there is a bundle, each
field whose key it does not have holds its default, if it has one, and what it held, if it has none.
If there is no bundle, `inject` leaves everything as it is, and no default is assigned. -/
theorem generate_defaults {settings : Settings} {target : Target} {fields : List Field}
    {a : Assembly} (reached : Reached settings target fields a) {c : Companion}
    (generated : a.generate = .ok c) {D : Device} (doc : D.Documented settings.runtime)
    (looks : D.LooksUp settings.runtime) {screen : String → Value} {id : Nat}
    (isObject : screen "instance" = .object id)
    (isTarget : D.isA (.object id) target.cls = true) (s : State D.World) :
    let finds := D.Finds target.kind s id (screen "savedInstanceState")
    (∀ r, run D c.inject screen s = some r → ∃ bundle s', finds bundle s') ∧
      (∀ bundle s' m, finds bundle s' → D.entries s'.world bundle = some m →
        ∃ r, run D c.inject screen s = some r ∧
          ∀ f ∈ fields, m f.name = none → r.state.fields id f.name
            = match f.default with
              | some d => .literal (SavedState.defaultLiteral d f.type)
              | none => s'.fields id f.name) ∧
      ∀ s', finds .null s' → ∃ r, run D c.inject screen s = some r ∧ r.state = s' := by
  let owner : Owner := { target, runtime := settings.runtime }
  have documented : D.Documented owner.runtime := doc
  have distinct : (a.fields.map (·.name)).Nodup :=
    (reached.fields_perm.map _).nodup_iff.mpr reached.names_nodup
  rw [reached.inject_of_generate generated]
  refine ⟨fun r ran => exists_finds_of_run isObject isTarget ran, ?_, fun s' none =>
    run_inject_of_null isObject isTarget none⟩
  intro bundle s' m found entries
  obtain ⟨r, n, ran, binds, agrees⟩ := run_inject_of_entries documented distinct isObject isTarget
    found entries fun _ => looks
  refine ⟨r, ran, fun f hf absent => ?_⟩
  have member := reached.mem_fields_iff.mpr hf
  rw [binds.bound f member, restored, agrees f member (by simp [absent]), absent]
  rfl

/-- An editor in whose saved state `null` stands for the title is a draft. -/
theorem generate_defaults_editor :
    ∃ a c, Reached {} editor editorFields a ∧ a.generate = .ok c ∧
      ∃ r : Run editorDevice, run editorDevice c.inject
          (fun name => if name = "instance" then Memory.appObject 1 else Memory.bundleAt 0)
          { fields := fun _ _ => .null
            world := { bundles := [.ofKeys ["title"] fun _ => .null] } } = some r ∧
        r.state.fields 9 "draft" = .literal (.boolean true) := by
  obtain ⟨a, c, reached, generated⟩ := editor_generates
  have doc : editorDevice.Documented ({} : Settings).runtime := memory_documented _ _
  let saved : Entries := .ofKeys ["title"] fun _ => .null
  let s : State editorDevice.World :=
    { fields := fun _ _ => .null, world := ({ bundles := [saved] } : Memory) }
  let screen (name : String) : Value :=
    if name = "instance" then Memory.appObject 1 else Memory.bundleAt 0
  have isObject : screen "instance" = .object 9 := rfl
  obtain ⟨-, bound, -⟩ := generate_defaults reached generated doc (memory_looksUp _ _) isObject rfl s
  obtain ⟨r, ran, defaults⟩ := bound (Memory.bundleAt 0) s saved (.saved Value.object_ne_null) rfl
  have draft := defaults _ (List.mem_cons_of_mem _ (List.mem_cons_of_mem _ List.mem_cons_self)) rfl
  exact ⟨a, c, reached, generated, r, ran, draft⟩

/-- An editor is a draft by default, but not one that was started without any extras. -/
theorem inject_without_extras :
    ∃ a c, Reached {} editor editorFields a ∧ a.generate = .ok c ∧
      (∃ f ∈ editorFields, f.name = "draft" ∧ f.default = some (.boolean true)) ∧
      ∃ r : Run editorDevice, run editorDevice c.inject
          (fun name => if name = "instance" then Memory.appObject 1 else .null)
          { fields := fun _ _ => .literal (.boolean false)
            world := { intents := [none], started := Memory.intentAt 0 } } = some r ∧
        r.state.fields 9 "draft" ≠ .literal (.boolean true) := by
  obtain ⟨a, c, reached, generated⟩ := editor_generates
  let s : State editorDevice.World :=
    { fields := fun _ _ => .literal (.boolean false)
      world := ({ intents := [none], started := Memory.intentAt 0 } : Memory) }
  let screen (name : String) : Value := if name = "instance" then Memory.appObject 1 else .null
  have none : editorDevice.Finds .activity s 9 .null .null s :=
    .fresh (.activity (i := Memory.intentAt 0) rfl Value.object_ne_null rfl)
  have isObject : screen "instance" = .object 9 := rfl
  let owner : Owner := { target := editor }
  have isTarget : editorDevice.isA (.object 9) owner.target.cls = true := rfl
  obtain ⟨r, ran, same⟩ : ∃ r, run editorDevice (SavedState.inject owner a.fields) screen s = some r ∧
      r.state = s := run_inject_of_null isObject isTarget none
  rw [← reached.inject_of_generate generated] at ran
  have declared : ∃ f ∈ editorFields, f.name = "draft" ∧ f.default = some (.boolean true) :=
    ⟨_, List.mem_cons_of_mem _ (List.mem_cons_of_mem _ List.mem_cons_self), rfl, rfl⟩
  refine ⟨a, c, reached, generated, declared, r, ran, ?_⟩
  rw [same]
  exact fun held => nomatch held

end Assembly

end Companions
