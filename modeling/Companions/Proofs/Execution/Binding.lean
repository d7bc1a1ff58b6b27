import Companions.Proofs.Execution.Rules
import Companions.SavedState

/-!
Running the state callables.

`run_inject` says what `inject` leaves when the bundle that it reads holds `m`: every field is
`restored` from `m`, and nothing else has changed. `run_saveState` says what `saveState` leaves: the
fields of the instance are over what the bundle held. Neither does anything to a value that is not
an instance of the screen (`run_inject_of_not`, `run_saveState_of_not`).

Every field that is read declares a local. That none of these meets another local or another field's
is the content of `valueLocal_injective` and `valueLocal_ne`.
-/

namespace Companions

/-! ### Locals of values -/

theorem Naming.valueLocal_injective {name other : String}
    (same : Naming.valueLocal name = Naming.valueLocal other) : name = other :=
  (String.append_left_inj "Value").mp same

/-- A name that does not end like the local of a value is none. -/
theorem Naming.valueLocal_ne {name other : String}
    (unlike : ¬ "Value".toList <:+ other.toList) : Naming.valueLocal name ≠ other := by
  rintro rfl
  refine unlike ?_
  rw [Naming.valueLocal, String.toList_append]
  exact List.suffix_append _ _

namespace Execution

variable {D : Device} {runtime : Runtime} {locals : Locals} {r : Run D}

/-! ### Reading fields back -/

/-- What a field holds when nothing was stored for it: its default, or else what it held. -/
def fallback (f : Field) (old : Value) : Value :=
  match f.default with
  | some d => .literal (SavedState.defaultLiteral d f.type)
  | none => old

/-- What a field holds after it was read back out of `m`. -/
def restored (m : Entries) (f : Field) (old : Value) : Value :=
  (m f.name).getD (fallback f old)

/-- What was stored under its name goes before what a field falls back to. -/
theorem restored_ofKeys {keys : List String} {value : String → Value} {f : Field} {old : Value} :
    restored (.ofKeys keys value) f old
      = if f.name ∈ keys then value f.name else fallback f old := by
  unfold restored Entries.ofKeys
  split <;> rfl

/-- The object `id` has the `fields` restored from `m`, and nothing else has changed. -/
structure Binds (m : Entries) (id : Nat) (fields : List Field) (before after : State D.World) :
    Prop where
  world : after.world = before.world
  bound : ∀ f ∈ fields, after.fields id f.name = restored m f (before.fields id f.name)
  others : ∀ other name, (other = id → name ∉ fields.map (·.name)) →
    after.fields other name = before.fields other name

theorem Binds.perm {m : Entries} {id : Nat} {fields fields' : List Field}
    {before after : State D.World} (binds : Binds m id fields before after)
    (same : fields.Perm fields') : Binds m id fields' before after where
  world := binds.world
  bound f hf := binds.bound f (same.mem_iff.mpr hf)
  others other name apart := binds.others other name fun here =>
    mt (same.map (·.name)).mem_iff.mp (apart here)

/-- Entries count as far as the fields go. -/
theorem Binds.congr {m n : Entries} {id : Nat} {fields : List Field} {before after : State D.World}
    (binds : Binds m id fields before after) (same : ∀ f ∈ fields, n f.name = m f.name) :
    Binds n id fields before after where
  world := binds.world
  bound f hf := by rw [binds.bound f hf, restored, restored, same f hf]
  others := binds.others

/-- One field after the others: no other one is assigned again. -/
theorem Binds.cons {m : Entries} {id : Nat} {f : Field} {rest : List Field}
    {before between after : State D.World} (first : Binds m id [f] before between)
    (later : Binds m id rest between after) (fresh : f.name ∉ rest.map (·.name)) :
    Binds m id (f :: rest) before after where
  world := later.world.trans first.world
  bound := by
    intro g hg
    rcases List.mem_cons.mp hg with rfl | hg
    · rw [later.others id g.name fun _ => fresh]
      exact first.bound g List.mem_cons_self
    · have untouched : between.fields id g.name = before.fields id g.name :=
        first.others id g.name fun _ named => fresh (by
          rw [List.map_singleton, List.mem_singleton] at named
          exact named ▸ List.mem_map_of_mem hg)
      rw [later.bound g hg, untouched]
  others := by
    intro object name apart
    rw [later.others object name fun same named => apart same (List.mem_cons_of_mem _ named)]
    refine first.others object name fun same named => apart same ?_
    exact List.mem_singleton.mp named ▸ List.mem_cons_self

/-- A field of the instance is assigned a local. -/
theorem exec_assignField {field binding : String} {id : Nat} {v : Value}
    (isObject : locals.lookup "typedInstance" = some (.object id))
    (bound : locals.lookup binding = some v) :
    exec D locals (.assign (.field SavedState.typedInstance field) (.ident binding)) r
      = some (locals, r.setField id field v) := by
  simp [SavedState.typedInstance, exec, eval, isObject, bound]

theorem binds_setField {m : Entries} {f : Field} {id : Nat} {v : Value}
    (value : v = restored m f (r.state.fields id f.name)) :
    Binds m id [f] r.state (r.setField id f.name v).state where
  world := rfl
  bound := by
    intro g hg
    rw [List.mem_singleton.mp hg]
    simp [Run.setField, value]
  others := by
    intro other name apart
    have elsewhere : ¬ (other = id ∧ name = f.name) := fun ⟨same, named⟩ =>
      apart same (by simp [named])
    simp [Run.setField, elsewhere]

/-- A field that keeps what it held is bound as well. -/
theorem binds_same {m : Entries} {f : Field} {id : Nat} {s : State D.World}
    (value : restored m f (s.fields id f.name) = s.fields id f.name) : Binds m id [f] s s where
  world := rfl
  bound := by
    intro g hg
    rw [List.mem_singleton.mp hg, value]
  others _ _ _ := rfl

/-- A field of the instance is assigned a local, unless that is `null`. -/
theorem exec_assignPresent {field binding : String} {id : Nat} {v : Value}
    (isObject : locals.lookup "typedInstance" = some (.object id))
    (bound : locals.lookup binding = some v) :
    exec D locals (.branch (.notNull (.ident binding))
        [.assign (.field SavedState.typedInstance field) (.ident binding)] []) r
      = some (locals, if v.isNull then r else r.setField id field v) := by
  have tested : test D locals (.notNull (.ident binding)) r = some (!v.isNull, r) := by
    simp [test, eval, bound]
  cases missing : v.isNull with
  | true =>
      rw [missing] at tested
      rw [exec_branch_no tested]
      rfl
  | false =>
      rw [missing] at tested
      rw [exec_branch_yes tested, execAll_singleton, exec_assignField isObject bound]
      rfl

/-- The local of a field is declared with what the bundle answers, and nothing changes. -/
theorem exec_declareValue {f : Field} {b v : Value} {absent : List Expr} {given : List Value}
    (extras : locals.lookup "extras" = some b)
    (unbound : locals.lookup (Naming.valueLocal f.name) = none)
    (arguments : evalAll D locals absent r = some (given, r))
    (answer : D.answer r.state (.singleton runtime.bundleUtils "get" (b :: .text f.name :: given))
      = (v, r.state)) :
    ∃ r', exec D locals (.declare (Naming.valueLocal f.name) false f.type.boxed
        (.singletonCall runtime.bundleUtils "get" [f.type.boxed]
          (.ident "extras" :: Code.text f.name :: absent))) r
        = some ((Naming.valueLocal f.name, v) :: locals, r') ∧ r'.state = r.state := by
  refine ⟨(r.call (.singleton runtime.bundleUtils "get" (b :: .text f.name :: given))).2, ?_, ?_⟩
  · have all : evalAll D locals (.ident "extras" :: Code.text f.name :: absent) r
        = some (b :: .text f.name :: given, r) := by
      simp [evalAll, eval, Code.text, extras, arguments, Value.text]
    rw [exec, eval, all, Option.map_some, Option.bind_some]
    simp only [Run.call, answer, unbound]
    rfl
  · rw [Run.call, answer]

/-- **One field.** Its local is declared, and the field is assigned unless there is nothing for
it. -/
theorem execAll_readField (doc : D.Documented runtime) {f : Field} {id : Nat} {b : Value}
    {m : Entries} (isObject : locals.lookup "typedInstance" = some (.object id))
    (extras : locals.lookup "extras" = some b)
    (unbound : locals.lookup (Naming.valueLocal f.name) = none)
    (entries : D.entries r.state.world b = some m) (stored : m f.name ≠ some .null) :
    ∃ v r', execAll D locals (SavedState.readField runtime f) r
        = some ((Naming.valueLocal f.name, v) :: locals, r') ∧
      Binds m id [f] r.state r'.state := by
  -- The local that is declared does not hide the instance.
  have seen : ∀ v, ((Naming.valueLocal f.name, v) :: locals).lookup "typedInstance"
      = some (.object id) := fun v =>
    (Locals.lookup_cons_ne (Naming.valueLocal_ne (by decide)).symm).trans isObject
  cases default : f.default with
  | some d =>
      let lit := SavedState.defaultLiteral d f.type
      have given : evalAll D locals [.literal lit] r = some ([.literal lit], r) := rfl
      obtain ⟨r', read, same⟩ := exec_declareValue extras unbound given
        (doc.get_default _ _ _ _ _ entries stored)
      let v := (m f.name).getD (.literal lit)
      refine ⟨v, r'.setField id f.name v, ?_, ?_⟩
      · simp only [SavedState.readField, default, Option.isSome_some, if_true]
        exact (execAll_cons read).trans
          (execAll_singleton.trans (exec_assignField (seen v) List.lookup_cons_self))
      · rw [← same]
        refine binds_setField ?_
        rw [restored, fallback, default]
  | none =>
      have given : evalAll D locals [] r = some ([], r) := rfl
      obtain ⟨r', read, same⟩ := exec_declareValue extras unbound given (doc.get _ _ _ _ entries)
      let v := (m f.name).getD .null
      refine ⟨v, if v.isNull then r' else r'.setField id f.name v, ?_, ?_⟩
      · simp only [SavedState.readField, default, Option.isSome_none, Bool.false_eq_true, if_false]
        exact (execAll_cons read).trans
          (execAll_singleton.trans (exec_assignPresent (seen v) List.lookup_cons_self))
      · rw [← same]
        cases value : m f.name with
        | none =>
            have missing : v = .null := by simp only [v, value, Option.getD_none]
            rw [missing, Value.isNull_null, if_pos rfl]
            exact binds_same (by rw [restored, value, fallback, default]; rfl)
        | some w =>
            have found : v = w := by simp only [v, value, Option.getD_some]
            have present : w.isNull = false :=
              Value.isNull_eq_false_iff.mpr fun h => stored (h ▸ value)
            rw [found, present, if_neg Bool.false_ne_true]
            exact binds_setField (by rw [restored, value, Option.getD_some])

/-- One field under whose key `null` is stored. Where it has a default, the device says what is
assigned. -/
theorem execAll_readField_of_null (doc : D.Documented runtime) (looks : D.LooksUp runtime)
    {f : Field} {id : Nat} {b : Value} {m : Entries}
    (isObject : locals.lookup "typedInstance" = some (.object id))
    (extras : locals.lookup "extras" = some b)
    (unbound : locals.lookup (Naming.valueLocal f.name) = none)
    (entries : D.entries r.state.world b = some m) (stored : m f.name = some .null) :
    ∃ v r' n, execAll D locals (SavedState.readField runtime f) r
        = some ((Naming.valueLocal f.name, v) :: locals, r') ∧
      Binds n id [f] r.state r'.state := by
  have seen : ∀ v, ((Naming.valueLocal f.name, v) :: locals).lookup "typedInstance"
      = some (.object id) := fun v =>
    (Locals.lookup_cons_ne (Naming.valueLocal_ne (by decide)).symm).trans isObject
  cases default : f.default with
  | some d =>
      let lit : Value := .literal (SavedState.defaultLiteral d f.type)
      let look : Call := .singleton runtime.bundleUtils "get" [b, .text f.name, lit]
      let v := (D.answer r.state look).1
      have given : evalAll D locals [.literal (SavedState.defaultLiteral d f.type)] r
          = some ([lit], r) := rfl
      obtain ⟨r', read, same⟩ := exec_declareValue (v := v) extras unbound given
        (Prod.ext rfl (looks _ _ _ _ _ entries))
      refine ⟨v, r'.setField id f.name v, fun _ => some v, ?_, ?_⟩
      · simp only [SavedState.readField, default, Option.isSome_some, if_true]
        exact (execAll_cons read).trans
          (execAll_singleton.trans (exec_assignField (seen v) List.lookup_cons_self))
      · rw [← same]
        exact binds_setField rfl
  | none =>
      have given : evalAll D locals [] r = some ([], r) := rfl
      obtain ⟨r', read, same⟩ := exec_declareValue extras unbound given (doc.get _ _ _ _ entries)
      rw [stored, Option.getD_some] at read
      refine ⟨.null, r', .empty, ?_, ?_⟩
      · simp only [SavedState.readField, default, Option.isSome_none, Bool.false_eq_true, if_false]
        refine (execAll_cons read).trans (execAll_singleton.trans ?_)
        rw [exec_assignPresent (seen .null) List.lookup_cons_self, Value.isNull_null, if_pos rfl]
      · rw [← same]
        exact binds_same (by rw [restored, fallback, default]; rfl)

/-- **All fields, one after the other.** Their names differ, so no field is read into the local of
another, and none is assigned twice. Where `null` is stored, the device says what is assigned. -/
theorem execAll_readFields_of_entries (doc : D.Documented runtime) {fields : List Field} {id : Nat}
    {b : Value} {m : Entries} (distinct : (fields.map (·.name)).Nodup)
    (isObject : locals.lookup "typedInstance" = some (.object id))
    (extras : locals.lookup "extras" = some b)
    (unbound : ∀ f ∈ fields, locals.lookup (Naming.valueLocal f.name) = none)
    (entries : D.entries r.state.world b = some m)
    (looks : (∃ f ∈ fields, m f.name = some .null) → D.LooksUp runtime) :
    ∃ locals' r' n, execAll D locals (fields.flatMap (SavedState.readField runtime)) r
        = some (locals', r') ∧ Binds n id fields r.state r'.state ∧
      ∀ f ∈ fields, m f.name ≠ some .null → n f.name = m f.name := by
  induction fields generalizing locals r with
  | nil => exact ⟨locals, r, m, rfl, ⟨rfl, nofun, fun _ _ _ => rfl⟩, nofun⟩
  | cons f rest ih =>
      rw [List.map_cons, List.nodup_cons] at distinct
      obtain ⟨fresh, distinct⟩ := distinct
      obtain ⟨v, r₁, n₁, first, bound, agrees₁⟩ : ∃ v r₁ n₁,
          execAll D locals (SavedState.readField runtime f) r
            = some ((Naming.valueLocal f.name, v) :: locals, r₁) ∧
          Binds n₁ id [f] r.state r₁.state ∧
          (m f.name ≠ some .null → n₁ f.name = m f.name) := by
        by_cases stored : m f.name = some .null
        · obtain ⟨v, r₁, n₁, first, bound⟩ := execAll_readField_of_null doc
            (looks ⟨f, List.mem_cons_self, stored⟩) isObject extras (unbound f List.mem_cons_self)
            entries stored
          exact ⟨v, r₁, n₁, first, bound, absurd stored⟩
        · obtain ⟨v, r₁, first, bound⟩ := execAll_readField doc isObject extras
            (unbound f List.mem_cons_self) entries stored
          exact ⟨v, r₁, m, first, bound, fun _ => rfl⟩
      have other : ∀ name, Naming.valueLocal f.name ≠ name →
          ((Naming.valueLocal f.name, v) :: locals).lookup name = locals.lookup name :=
        fun _ apart => Locals.lookup_cons_ne apart.symm
      have unbound₁ : ∀ g ∈ rest, ((Naming.valueLocal f.name, v) :: locals).lookup
          (Naming.valueLocal g.name) = none := by
        intro g hg
        rw [other _ fun same => fresh (Naming.valueLocal_injective same ▸ List.mem_map_of_mem hg)]
        exact unbound g (List.mem_cons_of_mem _ hg)
      obtain ⟨locals', r', n₂, later, others, agrees₂⟩ := ih distinct
        ((other _ (Naming.valueLocal_ne (by decide))).trans isObject)
        ((other _ (Naming.valueLocal_ne (by decide))).trans extras) unbound₁
        (bound.world ▸ entries) fun ⟨g, hg, null⟩ => looks ⟨g, List.mem_cons_of_mem _ hg, null⟩
      -- Each field has its own entry, the first one's from `n₁` and the others' from `n₂`.
      let n : Entries := fun key => if key = f.name then n₁ key else n₂ key
      have head : n f.name = n₁ f.name := if_pos rfl
      have tail : ∀ g ∈ rest, n g.name = n₂ g.name := fun g hg =>
        if_neg fun same : g.name = f.name => fresh (same ▸ List.mem_map_of_mem hg)
      refine ⟨locals', r', n, ?_, ?_, ?_⟩
      · rw [List.flatMap_cons, execAll_append, first]
        exact later
      · exact (bound.congr (List.forall_mem_singleton.mpr head)).cons (others.congr tail) fresh
      · refine List.forall_mem_cons.mpr ⟨fun h => head.trans (agrees₁ h), fun g hg h => ?_⟩
        exact (tail g hg).trans (agrees₂ g hg h)

/-! ### The guard -/

/-- The instance of the screen's class, whose local the guarded statements can see. -/
theorem exec_guarded {owner : Owner} {body : List Statement} {v : Value}
    (bound : locals.lookup "instance" = some v) (unbound : locals.lookup "typedInstance" = none)
    (present : v ≠ .null) (isTarget : D.isA v owner.target.cls = true) :
    exec D locals (SavedState.guarded owner body) r
      = (execAll D (("typedInstance", v) :: locals) body r).map fun (_, r) => (locals, r) := by
  have nonNull := Value.isNull_eq_false_iff.mpr present
  have holds : test D locals (.instanceOf (.ident "instance") owner.target.cls) r
      = some (true, r) := by
    simp [test, eval, bound, nonNull, isTarget]
  have typed : exec D locals (.declare "typedInstance" false (.ofClass owner.target.cls)
      (.cast owner.target.cls (.ident "instance"))) r
      = some (("typedInstance", v) :: locals, r) := by
    simp [exec, eval, bound, isTarget, unbound]
  rw [SavedState.guarded, exec_branch_yes holds, execAll_cons typed]

/-- Anything else leaves the guarded statements alone. -/
theorem exec_guarded_of_not {owner : Owner} {body : List Statement} {v : Value}
    (bound : locals.lookup "instance" = some v)
    (notTarget : v = .null ∨ D.isA v owner.target.cls = false) :
    exec D locals (SavedState.guarded owner body) r = some (locals, r) := by
  have fails : test D locals (.instanceOf (.ident "instance") owner.target.cls) r
      = some (false, r) := by
    rcases notTarget with rfl | other
    · simp [test, eval, bound]
    · simp [test, eval, bound, other]
  rw [SavedState.guarded, exec_branch_no fails]
  rfl

/-! ### `inject` -/

section Inject

variable {owner : Owner} {fields : List Field} {arguments : String → Value} {s : State D.World}

/-- `inject` does nothing to a value that is not an instance of the screen. -/
theorem run_inject_of_not
    (notTarget : arguments "instance" = .null ∨
      D.isA (arguments "instance") owner.target.cls = false) :
    run D (SavedState.inject owner fields) arguments s = some ⟨s, []⟩ := by
  have bound : (Locals.of (SavedState.inject owner fields).parameters arguments).lookup "instance"
      = some (arguments "instance") := rfl
  rw [run_single (by simp [SavedState.inject]) rfl, exec_guarded_of_not bound notTarget]
  rfl

/-- Where `inject` finds the extras: in the saved state, or where a fresh screen has them. -/
def extrasOf (kind : Kind) : Expr :=
  .conditional (.isNull (.ident "savedInstanceState")) (SavedState.freshExtras kind)
    (.ident "savedInstanceState")

/-- The saved state comes first. -/
theorem eval_extrasOf_saved {kind : Kind} {saved : Value}
    (bound : locals.lookup "savedInstanceState" = some saved) (present : saved ≠ .null) :
    eval D locals (extrasOf kind) r = some (saved, r) := by
  have nonNull := Value.isNull_eq_false_iff.mpr present
  simp [extrasOf, eval, test, bound, nonNull]

/-- Without saved state, the extras of a fresh screen are read. -/
theorem eval_extrasOf_fresh {kind : Kind} {id : Nat} {bundle : Value} {s' : State D.World}
    (bound : locals.lookup "savedInstanceState" = some .null)
    (isObject : locals.lookup "typedInstance" = some (.object id))
    (reads : D.ReadsFresh kind r.state id bundle s') :
    ∃ r', eval D locals (extrasOf kind) r = some (bundle, r') ∧ r'.state = s' := by
  cases reads with
  | @activity _ s₁ _ _ i _ intent present extras =>
      have nonNull := Value.isNull_eq_false_iff.mpr present
      refine ⟨((r.call (.getter (.object id) "intent")).2.call (.getter i "extras")).2, ?_, ?_⟩
      · simp [extrasOf, SavedState.freshExtras, SavedState.typedInstance, eval, test, bound,
          isObject, Run.call, intent, extras, nonNull]
      · simp [Run.call, intent, extras]
  | fragment arguments =>
      refine ⟨(r.call (.getter (.object id) "arguments")).2, ?_, ?_⟩
      · simp [extrasOf, SavedState.freshExtras, SavedState.typedInstance, eval, test, bound,
          isObject, Run.call, arguments]
      · simp [Run.call, arguments]

/-- Wherever it looks, it finds the bundle. -/
theorem eval_extrasOf {kind : Kind} {id : Nat} {saved bundle : Value} {s' : State D.World}
    (bound : locals.lookup "savedInstanceState" = some saved)
    (isObject : locals.lookup "typedInstance" = some (.object id))
    (finds : D.Finds kind r.state id saved bundle s') :
    ∃ r', eval D locals (extrasOf kind) r = some (bundle, r') ∧ r'.state = s' := by
  cases finds with
  | saved present => exact ⟨r, eval_extrasOf_saved bound present, rfl⟩
  | fresh reads => exact eval_extrasOf_fresh bound isObject reads

/-- Nothing else is found than what counts. -/
theorem finds_of_eval {kind : Kind} {id : Nat} {saved bundle : Value} {r' : Run D}
    (bound : locals.lookup "savedInstanceState" = some saved)
    (isObject : locals.lookup "typedInstance" = some (.object id))
    (found : eval D locals (extrasOf kind) r = some (bundle, r')) :
    D.Finds kind r.state id saved bundle r'.state := by
  by_cases present : saved = .null
  · subst present
    refine .fresh ?_
    simp only [extrasOf, eval, test, bound, Option.map_some, Value.isNull_null, Option.bind_some,
      if_true] at found
    have nonNull : (Value.object id).isNull = false := rfl
    cases kind with
    | activity =>
        simp only [SavedState.freshExtras, SavedState.typedInstance, eval, isObject,
          Option.map_some, Option.bind_some, nonNull, Bool.false_eq_true, if_false,
          Run.call, Option.ite_none_left_eq_some, Option.some.injEq, Prod.mk.injEq] at found
        obtain ⟨intent, rfl, rfl⟩ := found
        exact .activity rfl (Value.isNull_eq_false_iff.mp (Bool.not_eq_true _ ▸ intent)) rfl
    | fragment =>
        simp only [SavedState.freshExtras, SavedState.typedInstance, eval, isObject,
          Option.map_some, Option.bind_some, nonNull, Bool.false_eq_true, if_false,
          Run.call, Option.some.injEq, Prod.mk.injEq] at found
        obtain ⟨rfl, rfl⟩ := found
        exact .fragment rfl
  · rw [eval_extrasOf_saved bound present] at found
    obtain ⟨rfl, rfl⟩ := Prod.mk.inj (Option.some.inj found)
    exact .saved present

/-- Before a field is read, nothing that `inject` can see is named like its local. -/
theorem lookup_valueLocal_eq_none {f : Field} {bundle v : Value} :
    (("extras", bundle) :: ("typedInstance", v)
        :: Locals.of (SavedState.inject owner fields).parameters arguments).lookup
      (Naming.valueLocal f.name) = none := by
  have apart : ∀ other ∈ ["extras", "typedInstance", "instance", "savedInstanceState"],
      Naming.valueLocal f.name ≠ other := by
    intro other h
    refine Naming.valueLocal_ne ?_
    revert other
    decide
  rw [Locals.lookup_cons_ne (apart _ (by simp)), Locals.lookup_cons_ne (apart _ (by simp)),
    Locals.lookup_of]
  refine if_neg fun h => apart _ ?_ rfl
  exact List.mem_cons_of_mem _ (List.mem_cons_of_mem _ h)

/-- The statements that read the fields, under the test that there is a bundle. -/
def reading (runtime : Runtime) (fields : List Field) : List Statement :=
  if fields.isEmpty then []
  else [.branch (.notNull (.ident "extras")) (fields.flatMap (SavedState.readField runtime)) []]

/-- The fields are read if the bundle is there; without fields there is no test. -/
theorem execAll_reading {bundle : Value} {locals' : Locals} {r' : Run D}
    (extras : locals.lookup "extras" = some bundle) (present : bundle ≠ .null)
    (binding : execAll D locals (fields.flatMap (SavedState.readField runtime)) r
      = some (locals', r')) :
    (execAll D locals (reading runtime fields) r).map Prod.snd = some r' := by
  have nonNull := Value.isNull_eq_false_iff.mpr present
  have tested : test D locals (.notNull (.ident "extras")) r = some (true, r) := by
    simp [test, eval, extras, nonNull]
  unfold reading
  cases empty : fields.isEmpty with
  | true =>
      rw [List.isEmpty_iff.mp empty] at binding
      exact congrArg (Option.map Prod.snd) binding
  | false =>
      rw [if_neg Bool.false_ne_true, execAll_singleton, exec_branch_yes tested, binding]
      rfl

/-- Without a bundle no field is read. -/
theorem execAll_reading_of_null (extras : locals.lookup "extras" = some .null) :
    execAll D locals (reading runtime fields) r = some (locals, r) := by
  have tested : test D locals (.notNull (.ident "extras")) r = some (false, r) := by
    simp [test, eval, extras]
  unfold reading
  split
  · rfl
  · rw [execAll_singleton, exec_branch_no tested]
    rfl

/-- What `inject` can see before it reads fields. -/
def injecting (owner : Owner) (fields : List Field) (arguments : String → Value) (id : Nat) :
    Locals :=
  ("typedInstance", .object id) :: Locals.of (SavedState.inject owner fields).parameters arguments

/-- It sees the instance under its type, and the saved state, where it looks for the bundle. -/
theorem eval_extrasOf_injecting {id : Nat} {bundle : Value} {s' : State D.World}
    (finds : D.Finds owner.target.kind s id (arguments "savedInstanceState") bundle s') :
    ∃ r', eval D (injecting owner fields arguments id) (extrasOf owner.target.kind) ⟨s, []⟩
        = some (bundle, r') ∧ r'.state = s' := by
  have saved : (injecting owner fields arguments id).lookup "savedInstanceState"
      = some (arguments "savedInstanceState") := rfl
  exact eval_extrasOf (r := ⟨s, []⟩) saved List.lookup_cons_self finds

/-- On an instance of the screen, `inject` looks for the bundle and then reads the fields. -/
theorem run_inject_eq {id : Nat} (isObject : arguments "instance" = .object id)
    (isTarget : D.isA (.object id) owner.target.cls = true) :
    run D (SavedState.inject owner fields) arguments s
      = (eval D (injecting owner fields arguments id) (extrasOf owner.target.kind) ⟨s, []⟩).bind
        fun (bundle, r) =>
          (execAll D (("extras", bundle) :: injecting owner fields arguments id)
            (reading owner.runtime fields) r).map Prod.snd := by
  have bound : (Locals.of (SavedState.inject owner fields).parameters arguments).lookup "instance"
      = some (.object id) := congrArg some isObject
  have unbound : (injecting owner fields arguments id).lookup "extras" = none := rfl
  have declared : exec D (injecting owner fields arguments id)
      (.declare "extras" false (.ofClass Platform.bundle) (extrasOf owner.target.kind)) ⟨s, []⟩
      = (eval D (injecting owner fields arguments id) (extrasOf owner.target.kind) ⟨s, []⟩).map
        fun (bundle, r) => (("extras", bundle) :: injecting owner fields arguments id, r) := by
    rw [exec, Option.map_eq_bind]
    simp only [unbound]
    rfl
  rw [run_single (by simp [SavedState.inject]) rfl,
    exec_guarded bound rfl Value.object_ne_null isTarget, Option.map_map]
  show (execAll D (injecting owner fields arguments id)
    (.declare "extras" false (.ofClass Platform.bundle) (extrasOf owner.target.kind)
      :: reading owner.runtime fields) ⟨s, []⟩).map Prod.snd = _
  rw [execAll, declared, Option.bind_map, Option.map_bind]
  rfl

/-- Where `inject` runs, it finds a bundle, or that there is none. -/
theorem exists_finds_of_run {id : Nat} (isObject : arguments "instance" = .object id)
    (isTarget : D.isA (.object id) owner.target.cls = true) {r : Run D}
    (ran : run D (SavedState.inject owner fields) arguments s = some r) :
    ∃ bundle s', D.Finds owner.target.kind s id (arguments "savedInstanceState") bundle s' := by
  rw [run_inject_eq isObject isTarget] at ran
  obtain ⟨⟨bundle, r'⟩, found, -⟩ := Option.bind_eq_some_iff.mp ran
  exact ⟨bundle, r'.state, finds_of_eval rfl List.lookup_cons_self found⟩

/-- Without a bundle `inject` does nothing but look for it. -/
theorem run_inject_of_null {id : Nat} (isObject : arguments "instance" = .object id)
    (isTarget : D.isA (.object id) owner.target.cls = true) {s' : State D.World}
    (finds : D.Finds owner.target.kind s id (arguments "savedInstanceState") .null s') :
    ∃ r, run D (SavedState.inject owner fields) arguments s = some r ∧ r.state = s' := by
  obtain ⟨r, found, same⟩ := eval_extrasOf_injecting finds
  refine ⟨r, ?_, same⟩
  rw [run_inject_eq isObject isTarget, found, Option.bind_some]
  exact congrArg (Option.map Prod.snd) (execAll_reading_of_null List.lookup_cons_self)

/-- **`inject` binds every field.** Whatever bundle it finds, the fields are restored from its
entries, and nothing else changes, the platform's world included. Only where `null` is stored it is
the device that says what the field holds. -/
theorem run_inject_of_entries (doc : D.Documented owner.runtime)
    (distinct : (fields.map (·.name)).Nodup) {id : Nat}
    (isObject : arguments "instance" = .object id)
    (isTarget : D.isA (.object id) owner.target.cls = true) {s' : State D.World} {bundle : Value}
    {m : Entries}
    (finds : D.Finds owner.target.kind s id (arguments "savedInstanceState") bundle s')
    (entries : D.entries s'.world bundle = some m)
    (looks : (∃ f ∈ fields, m f.name = some .null) → D.LooksUp owner.runtime) :
    ∃ r n, run D (SavedState.inject owner fields) arguments s = some r ∧
      Binds n id fields s' r.state ∧
      ∀ f ∈ fields, m f.name ≠ some .null → n f.name = m f.name := by
  let locals : Locals := ("extras", bundle) :: injecting owner fields arguments id
  obtain ⟨r', found, rfl⟩ := eval_extrasOf_injecting finds
  obtain ⟨locals', r, n, binding, binds, agrees⟩ := execAll_readFields_of_entries doc distinct
    (show locals.lookup "typedInstance" = some (.object id) from rfl) List.lookup_cons_self
    (fun _ _ => lookup_valueLocal_eq_none) entries looks
  refine ⟨r, n, ?_, binds, agrees⟩
  rw [run_inject_eq isObject isTarget, found, Option.bind_some]
  exact execAll_reading List.lookup_cons_self (doc.ne_null_of_entries entries) binding

/-- Where no `null` is stored, the entries of the bundle are all that counts. -/
theorem run_inject (doc : D.Documented owner.runtime) (distinct : (fields.map (·.name)).Nodup)
    {id : Nat} (isObject : arguments "instance" = .object id)
    (isTarget : D.isA (.object id) owner.target.cls = true) {s' : State D.World} {bundle : Value}
    {m : Entries}
    (finds : arguments "savedInstanceState" = bundle ∧ s' = s ∨
      arguments "savedInstanceState" = .null ∧ D.ReadsFresh owner.target.kind s id bundle s')
    (entries : D.entries s'.world bundle = some m) (stored : ∀ f ∈ fields, m f.name ≠ some .null) :
    ∃ r, run D (SavedState.inject owner fields) arguments s = some r ∧
      Binds m id fields s' r.state := by
  have found : D.Finds owner.target.kind s id (arguments "savedInstanceState") bundle s' := by
    rcases finds with ⟨rfl, rfl⟩ | ⟨fresh, reads⟩
    · exact .saved (doc.ne_null_of_entries entries)
    · exact fresh ▸ .fresh reads
  obtain ⟨r, n, ran, binds, agrees⟩ := run_inject_of_entries doc distinct isObject isTarget found
    entries fun ⟨f, hf, null⟩ => absurd null (stored f hf)
  exact ⟨r, ran, binds.congr fun f hf => (agrees f hf (stored f hf)).symm⟩

end Inject

/-! ### `saveState` -/

section SaveState

variable {owner : Owner} {fields : List Field} {arguments : String → Value} {s : State D.World}

/-- `saveState` does nothing to a value that is not an instance of the screen. -/
theorem run_saveState_of_not
    (notTarget : arguments "instance" = .null ∨
      D.isA (arguments "instance") owner.target.cls = false) :
    run D (SavedState.saveState owner fields) arguments s = some ⟨s, []⟩ := by
  have bound : (Locals.of (SavedState.saveState owner fields).parameters arguments).lookup
      "instance" = some (arguments "instance") := rfl
  rw [run_single (by simp [SavedState.saveState]) rfl, exec_guarded_of_not bound notTarget]
  rfl

/-- The extras of an intent that is not empty are put over the bundle. -/
theorem exec_putAll (doc : D.Documented runtime) {i out : Value} {m n : Entries}
    (intent : locals.lookup Code.intentName = some i)
    (bound : locals.lookup "outState" = some out)
    (extras : D.extras r.state.world i = some m) (nonempty : m ≠ .empty)
    (entries : D.entries r.state.world out = some n) :
    ∃ r', exec D locals (.run (.call (.ident "outState") "putAll" [] [Code.intentExtras])) r
        = some (locals, r') ∧
      r'.state.fields = r.state.fields ∧
      D.entries r'.state.world out = some (m.overlay n) := by
  let read := r.call (.getter i "extras")
  have copied : D.entries read.2.state.world read.1 = some m := by
    rcases doc.extras_entries r.state i m extras with copied | ⟨empty, -⟩
    · exact copied
    · exact absurd empty nonempty
  have keeps := doc.extras_keeps r.state i m extras
  have held : D.entries read.2.state.world out = some n := keeps.entries _ _ entries
  have outExists := Value.isNull_eq_false_iff.mpr (doc.ne_null_of_entries entries)
  have intentExists := Value.isNull_eq_false_iff.mpr (doc.ne_null_of_extras extras)
  refine ⟨(read.2.call (.method out "putAll" [read.1])).2, ?_, ?_,
    doc.putAll_entries _ _ _ _ _ held copied⟩
  · simp [Code.intentExtras, Code.intent, exec, eval, evalAll, bound, outExists, intent,
      intentExists, read]
  · exact (doc.putAll_fields _ _ _ _ _ held copied).trans keeps.fields

/-- **`saveState` stores every field.** The fields of the instance, by their names, are over what
the bundle held; no field of any object changes. -/
theorem run_saveState (doc : D.Documented owner.runtime) (nonempty : fields ≠ [])
    {id : Nat} (isObject : arguments "instance" = .object id)
    (isTarget : D.isA (.object id) owner.target.cls = true) {n : Entries}
    (entries : D.entries s.world (arguments "outState") = some n) :
    ∃ r, run D (SavedState.saveState owner fields) arguments s = some r ∧
      r.state.fields = s.fields ∧
      D.entries r.state.world (arguments "outState")
        = some ((Entries.ofKeys (fields.map (·.name)) (s.fields id)).overlay n) := by
  let own : Locals := .of (SavedState.saveState owner fields).parameters arguments
  let typed : Locals := ("typedInstance", .object id) :: own
  have bound : own.lookup "instance" = some (.object id) := congrArg some isObject
  have nothing : evalAll D typed [] ⟨s, []⟩ = some ([], ⟨s, []⟩) := rfl
  obtain ⟨i, r₁, filling, filled⟩ := execAll_fillFresh doc fields (·.name)
    (fun f => .field SavedState.typedInstance f.name) (s.fields id) nothing rfl (by
      intro f _ i r' same
      have instanceBound : ((Code.intentName, i) :: typed).lookup "typedInstance"
          = some (.object id) := rfl
      simp [SavedState.typedInstance, eval, instanceBound, same])
  have out : ((Code.intentName, i) :: typed).lookup "outState"
      = some (arguments "outState") := rfl
  have keys : fields.map (·.name) ≠ [] := mt List.map_eq_nil_iff.mp nonempty
  obtain ⟨r, storing, kept, stored⟩ := exec_putAll doc List.lookup_cons_self out
    filled.extras_fresh (Entries.ofKeys_ne_empty keys) (filled.bundles _ _ entries)
  refine ⟨r, ?_, kept.trans filled.fields, stored⟩
  rw [run_single (by simp [SavedState.saveState]) rfl,
    exec_guarded bound rfl Value.object_ne_null isTarget, execAll_append, filling,
    Option.bind_some]
  simp only [execAll_singleton, storing]
  rfl

end SaveState

end Execution

end Companions
