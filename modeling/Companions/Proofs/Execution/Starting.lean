import Companions.Proofs.Execution.Rules
import Companions.Proofs.Start.Draft

/-!
Running start callables.

`run_start` and `run_show` say what a finished callable does on a device that behaves as documented:
it makes one call that starts the screen, and the intent or the bundle handed over in it holds the
arguments of the visited fields under the names of the fields, and nothing else. The names that a
body declares never meet those of its parameters (`enter?_finished`).
-/

namespace Companions

/-- A field never has a name that generated bodies use themselves. -/
theorem Field.name_ne_of_mem_reserved {f : Field} {name : String}
    (reserved : name ∈ Naming.reservedBindings) : f.name ≠ name := by
  rintro rfl
  have free := f.notReserved
  rw [Naming.isReserved, List.contains_iff_mem.mpr reserved] at free
  exact Bool.true_eq_false.mp free

namespace Execution

variable {D : Device} {runtime : Runtime} {locals : Locals} {r : Run D}

/-! ### Calls that start a screen -/

/-- Whether a call starts a screen. -/
def Call.starts (runtime : Runtime) : Call → Bool
  | .method _ "startActivity" _ => true
  | .method _ "startActivityForResult" _ => true
  | .singleton object "startActivityForResult" _ => object == runtime.activityBuilder
  | .singleton object "showFragment" _ => object == runtime.fragmentBuilder
  | _ => false

/-- What a call hands over to the screen that it starts: the extras of an intent, or the entries of
a bundle, where `null` has none. -/
def Made.handedOver (made : Made D) : Entries :=
  match made.call with
  | .method _ _ (i :: _) => (D.extras made.before.world i).getD .empty
  | .singleton _ "startActivityForResult" [_, i, _] => (D.extras made.before.world i).getD .empty
  | .singleton _ "showFragment" [_, _, b, _, _] => (D.entries made.before.world b).getD .empty
  | _ => .empty

/-! ### Parameters and locals -/

/-- The name of the parameter that a start callable is called on. -/
def receiverName : Kind → String
  | .activity => "context"
  | .fragment => "activity"

/-- The names of the preamble are reserved. -/
theorem mem_reserved_of_mem_preamble {kind : Kind} {name : String}
    (h : name ∈ (Draft.preambleParameters kind).map (·.name)) :
    name ∈ Naming.reservedBindings := by
  cases kind <;> simp [Draft.preambleParameters] at h <;> rcases h with rfl | rfl <;>
    simp [Naming.reservedBindings]

theorem receiverName_mem_preamble {kind : Kind} :
    receiverName kind ∈ (Draft.preambleParameters kind).map (·.name) := by
  cases kind <;> exact List.mem_cons_self

/-- The listener of a contract is apart from the fields and from what generated bodies bind. -/
def ListenerApart (contract : Option Contract) (fields : List Field) : Prop :=
  ∀ k, contract = some k →
    k.listenerName ∉ Naming.reservedBindings ∧ ∀ f ∈ fields, f.name ≠ k.listenerName

section Finished

variable {owner : Owner} {contract : Option Contract} {name : String} {fields : List Field}
  {arguments : String → Value}

theorem names_finished :
    (Draft.finished owner contract name fields).parameters.map (·.name)
      = (Draft.preambleParameters owner.target.kind).map (·.name) ++ fields.map (·.name)
        ++ (Draft.closingParameters owner contract).map (·.name) := by
  simp only [Draft.finished, List.map_append, List.map_map]
  rfl

/-- The only closing parameter is the listener. -/
theorem eq_listenerName_of_mem_closing {listener : String}
    (h : listener ∈ (Draft.closingParameters owner contract).map (·.name)) :
    ∃ k, contract = some k ∧ listener = k.listenerName := by
  unfold Draft.closingParameters at h
  cases kind : owner.target.kind <;> rw [kind] at h
  · cases contract with
    | none => exact nomatch h
    | some k => exact ⟨k, rfl, List.mem_singleton.mp h⟩
  · exact nomatch h

/-- **No two parameters of a finished callable share a name**, so it can be entered. -/
theorem enter?_finished (distinct : (fields.map (·.name)).Nodup)
    (apart : ListenerApart contract fields) :
    enter? (Draft.finished owner contract name fields).parameters arguments
      = some (.of (Draft.finished owner contract name fields).parameters arguments) := by
  refine if_pos ?_
  have preamble : ((Draft.preambleParameters owner.target.kind).map (·.name)).Nodup := by
    cases owner.target.kind <;> simp [Draft.preambleParameters]
  have closing : ((Draft.closingParameters owner contract).map (·.name)).Nodup := by
    unfold Draft.closingParameters
    cases owner.target.kind <;> cases contract <;> simp
  rw [names_finished, List.nodup_append, List.nodup_append]
  refine ⟨⟨preamble, distinct, ?_⟩, closing, ?_⟩
  · intro reserved hreserved field hfield same
    obtain ⟨f, -, rfl⟩ := List.mem_map.mp hfield
    exact Field.name_ne_of_mem_reserved (mem_reserved_of_mem_preamble hreserved) same.symm
  · intro earlier hearlier listener hlistener same
    obtain ⟨k, rfl, rfl⟩ := eq_listenerName_of_mem_closing hlistener
    obtain ⟨free, others⟩ := apart k rfl
    rcases List.mem_append.mp hearlier with hpreamble | hfield
    · exact free (same ▸ mem_reserved_of_mem_preamble hpreamble)
    · obtain ⟨f, hf, rfl⟩ := List.mem_map.mp hfield
      exact others f hf same

/-- A callable is given a context or an activity to start from, never `null`. -/
theorem exists_receiver_mem_finished :
    ∃ p ∈ (Draft.finished owner contract name fields).parameters,
      p.name = receiverName owner.target.kind ∧ p.nullable = false := by
  have inside : ∃ p ∈ Draft.preambleParameters owner.target.kind,
      p.name = receiverName owner.target.kind ∧ p.nullable = false := by
    cases owner.target.kind <;> exact ⟨_, List.mem_cons_self, rfl, rfl⟩
  obtain ⟨p, hp, receives⟩ := inside
  exact ⟨p, List.mem_append_left _ (List.mem_append_left _ hp), receives⟩

theorem fieldParameter_mem_finished {f : Field} (h : f ∈ fields) :
    Draft.fieldParameter f ∈ (Draft.finished owner contract name fields).parameters :=
  List.mem_append_left _ (List.mem_append_right _ (List.mem_map_of_mem h))

/-- A field that is apart from the listener is a parameter exactly when it was visited. -/
theorem name_mem_finished_iff {f : Field}
    (apart : ∀ k, contract = some k → f.name ≠ k.listenerName) :
    f.name ∈ (Draft.finished owner contract name fields).parameters.map (·.name)
      ↔ f.name ∈ fields.map (·.name) := by
  rw [names_finished, List.mem_append, List.mem_append]
  constructor
  · rintro ((h | h) | h)
    · exact absurd rfl (Field.name_ne_of_mem_reserved (mem_reserved_of_mem_preamble h))
    · exact h
    · obtain ⟨k, rfl, same⟩ := eq_listenerName_of_mem_closing h
      exact absurd same (apart k rfl)
  · exact fun h => .inl (.inr h)

/-- A name that generated bodies declare is none of a callable's parameters. -/
theorem lookup_finished_eq_none (apart : ListenerApart contract fields) {binding : String}
    (reserved : binding ∈ Naming.reservedBindings)
    (declared : binding ∉ (Draft.preambleParameters owner.target.kind).map (·.name)) :
    (Locals.of (Draft.finished owner contract name fields).parameters arguments).lookup binding
      = none := by
  rw [Locals.lookup_of, names_finished]
  refine if_neg fun h => ?_
  rw [List.mem_append, List.mem_append] at h
  rcases h with (h | h) | h
  · exact declared h
  · obtain ⟨f, -, same⟩ := List.mem_map.mp h
    exact Field.name_ne_of_mem_reserved reserved same
  · obtain ⟨k, rfl, rfl⟩ := eq_listenerName_of_mem_closing h
    exact (apart k rfl).1 reserved

theorem lookup_finished_preamble {parameter : String}
    (h : parameter ∈ (Draft.preambleParameters owner.target.kind).map (·.name)) :
    (Locals.of (Draft.finished owner contract name fields).parameters arguments).lookup parameter
      = some (arguments parameter) := by
  rw [Locals.lookup_of, names_finished]
  exact if_pos (List.mem_append_left _ (List.mem_append_left _ h))

theorem lookup_finished_field {f : Field} (h : f ∈ fields) :
    (Locals.of (Draft.finished owner contract name fields).parameters arguments).lookup f.name
      = some (arguments f.name) := by
  rw [Locals.lookup_of, names_finished]
  exact if_pos (List.mem_append_left _ (List.mem_append_right _ (List.mem_map_of_mem h)))

theorem lookup_finished_listener {k : Contract} (activity : owner.target.kind = .activity) :
    (Locals.of (Draft.finished owner (some k) name fields).parameters arguments).lookup
      k.listenerName = some (arguments k.listenerName) := by
  rw [Locals.lookup_of, names_finished]
  refine if_pos (List.mem_append_right _ ?_)
  rw [Draft.closingParameters, activity]
  exact List.mem_singleton.mpr rfl

/-- The intent does not hide the listener. -/
theorem lookup_listener_beside_intent {k : Contract} {i : Value}
    (activity : owner.target.kind = .activity) (free : k.listenerName ∉ Naming.reservedBindings) :
    ((Code.intentName, i)
        :: Locals.of (Draft.finished owner (some k) name fields).parameters arguments).lookup
      k.listenerName = some (arguments k.listenerName) := by
  have apart : k.listenerName ≠ Code.intentName := fun same =>
    free (same ▸ by simp [Naming.reservedBindings, Code.intentName])
  rw [Locals.lookup_cons_ne apart]
  exact lookup_finished_listener activity

end Finished

/-! ### The beginning of a body -/

/-- **The beginning of a body fills a fresh intent**: with the arguments of the visited fields under
their names, and nothing else. Nothing is started on the way. -/
theorem execAll_prologue {owner : Owner} (doc : D.Documented owner.runtime) {fields : List Field}
    {arguments : String → Value}
    (receiver : (locals.lookup (receiverName owner.target.kind)).isSome = true)
    (fresh : locals.lookup Code.intentName = none)
    (values : ∀ f ∈ fields, locals.lookup f.name = some (arguments f.name)) :
    ∃ i r', execAll D locals (Draft.preambleBody owner ++ fields.map Draft.putField) r
        = some ((Code.intentName, i) :: locals, r') ∧
      D.extras r'.state.world i = some (.ofKeys (fields.map (·.name)) arguments) ∧
      r'.callsOf (Call.starts owner.runtime) = r.callsOf (Call.starts owner.runtime) := by
  obtain ⟨context, receiver⟩ := Option.isSome_iff_exists.mp receiver
  let initialised := (r.call (.singleton owner.runtime.activityBuilder "init" [context])).2
  have init : ∀ e, eval D locals e r = some (context, r) →
      exec D locals (Draft.onActivityBuilder owner "init" [e]) r = some (locals, initialised) := by
    intro e value
    simp [Draft.onActivityBuilder, exec, eval, evalAll, value, initialised]
  -- Both preambles initialise the runtime and declare a new intent; they differ in its arguments.
  have preamble : ∃ e given vs, Draft.preambleBody owner
        = [Draft.onActivityBuilder owner "init" [e], Code.declareIntent given] ∧
      eval D locals e r = some (context, r) ∧
      evalAll D locals given initialised = some (vs, initialised) := by
    unfold Draft.preambleBody
    cases kind : owner.target.kind with
    | activity =>
        rw [kind, receiverName] at receiver
        refine ⟨_, _, [context, .classObject owner.target.cls], rfl, ?_, ?_⟩
        · simp [Draft.context, eval, receiver]
        · simp [Draft.context, eval, evalAll, receiver]
    | fragment =>
        rw [kind, receiverName] at receiver
        refine ⟨_, _, [], rfl, ?_, rfl⟩
        simp [Draft.activity, eval, receiver]
  obtain ⟨e, given, vs, preamble, value, evaluated⟩ := preamble
  obtain ⟨i, r', filling, filled⟩ := execAll_fillFresh doc fields (·.name)
    (fun f => .ident f.name) arguments evaluated fresh (by
      intro f hf i r' _
      have apart : f.name ≠ Code.intentName :=
        Field.name_ne_of_mem_reserved (by simp [Naming.reservedBindings, Code.intentName])
      simp [eval, Locals.lookup_cons_ne apart, values f hf])
  refine ⟨i, r', ?_, filled.extras_fresh, ?_⟩
  · rw [preamble]
    exact (execAll_cons (init e value)).trans filling
  · rw [filled.callsOf_eq fun _ _ => rfl]
    exact callsOf_call_eq rfl

/-- After the beginning, only the closing statements are left to run. -/
theorem run_finished {owner : Owner} {contract : Option Contract} {name : String}
    {fields : List Field} {arguments : String → Value} {s : State D.World} {filled : Run D}
    (distinct : (fields.map (·.name)).Nodup) (apart : ListenerApart contract fields)
    (prologue : execAll D (.of (Draft.finished owner contract name fields).parameters arguments)
      (Draft.preambleBody owner ++ fields.map Draft.putField) ⟨s, []⟩ = some (locals, filled)) :
    run D (Draft.finished owner contract name fields) arguments s
      = (execAll D locals (Draft.closingBody owner contract) filled).map fun (_, r) => r := by
  have body : (Draft.finished owner contract name fields).body
      = (Draft.preambleBody owner ++ fields.map Draft.putField)
        ++ Draft.closingBody owner contract := rfl
  rw [run, enter?_finished distinct apart, Option.bind_some, body, execAll_append, prologue]
  rfl

/-! ### Activities -/

/-- The value of a listener that is made where `locals` can be seen. -/
def Locals.listener (locals : Locals) : Expr → Value
  | .listener interface method parameters body =>
    .listener interface method parameters body locals
  | _ => .null

/-- The call that starts an activity from `context` with the intent `i`. With a contract, an
activity starts it for the result, and registers the callback unless the listener is `null`. -/
def startCall (D : Device) (owner : Owner) (contract : Option Contract)
    (arguments : String → Value) (locals : Locals) (i : Value) : Call :=
  match contract with
  | some k =>
    if D.isA (arguments "context") Platform.activity then
      if (arguments k.listenerName).isNull then
        .method (arguments "context") "startActivityForResult"
          [i, .literal (.integer owner.runtime.requestCode .int)]
      else
        .singleton owner.runtime.activityBuilder "startActivityForResult"
          [arguments "context", i, Locals.listener locals (Result.callback owner.runtime k)]
    else .method (arguments "context") "startActivity" [i]
  | none => .method (arguments "context") "startActivity" [i]

section StartCall

variable {owner : Owner} {contract : Option Contract} {k : Contract} {arguments : String → Value}
  {i : Value}

theorem starts_startCall :
    (startCall D owner contract arguments locals i).starts owner.runtime = true := by
  unfold startCall
  split
  · split
    · split <;> simp [Call.starts]
    · rfl
  · rfl

/-- What is handed over to the activity are the extras of the intent. -/
theorem handedOver_startCall {before : State D.World} :
    (⟨startCall D owner contract arguments locals i, before⟩ : Made D).handedOver
      = (D.extras before.world i).getD .empty := by
  unfold startCall
  split
  · split
    · split <;> rfl
    · rfl
  · rfl

/-- An activity that listens registers the callback. -/
theorem startCall_of_listens (fromActivity : D.isA (arguments "context") Platform.activity = true)
    (listens : arguments k.listenerName ≠ .null) :
    startCall D owner (some k) arguments locals i
      = .singleton owner.runtime.activityBuilder "startActivityForResult"
          [arguments "context", i, locals.listener (Result.callback owner.runtime k)] := by
  have heard := Value.isNull_eq_false_iff.mpr listens
  simp [startCall, fromActivity, heard]

/-- One that does not listen still starts for a result. -/
theorem startCall_of_silent (fromActivity : D.isA (arguments "context") Platform.activity = true)
    (silent : arguments k.listenerName = .null) :
    startCall D owner (some k) arguments locals i
      = .method (arguments "context") "startActivityForResult"
          [i, .literal (.integer owner.runtime.requestCode .int)] := by
  simp [startCall, fromActivity, silent]

/-- Outside of activities there is no result. -/
theorem startCall_of_elsewhere
    (elsewhere : D.isA (arguments "context") Platform.activity = false) :
    startCall D owner contract arguments locals i
      = .method (arguments "context") "startActivity" [i] := by
  cases contract <;> simp [startCall, elsewhere]

end StartCall

/-- The launch of an activity makes the call that starts it, with the extras as they were. -/
theorem exec_launchActivity {owner : Owner} (doc : D.Documented owner.runtime)
    {contract : Option Contract} {arguments : String → Value} {i : Value} {m : Entries}
    (context : locals.lookup "context" = some (arguments "context"))
    (nonNull : arguments "context" ≠ .null)
    (intent : locals.lookup Code.intentName = some i)
    (listener : ∀ k, contract = some k →
      locals.lookup k.listenerName = some (arguments k.listenerName))
    (extras : D.extras r.state.world i = some m) :
    ∃ before : Run D, exec D locals (Draft.launchActivity owner contract) r
        = some (locals, (before.call (startCall D owner contract arguments locals i)).2) ∧
      D.extras before.state.world i = some m ∧
      before.callsOf (Call.starts owner.runtime) = r.callsOf (Call.starts owner.runtime) := by
  have present := Value.isNull_eq_false_iff.mpr nonNull
  have held := Value.isNull_eq_false_iff.mpr (doc.ne_null_of_extras extras)
  by_cases fromActivity : D.isA (arguments "context") Platform.activity = true
  · refine ⟨r, ?_, extras, rfl⟩
    cases contract with
    | none =>
        simp [Draft.launchActivity, Draft.startFromActivity, Draft.context, Code.intent, exec,
          execAll, eval, evalAll, test, context, intent, present, fromActivity, startCall]
    | some k =>
        have bound := listener k rfl
        cases absent : (arguments k.listenerName).isNull with
        | true =>
            simp [Draft.launchActivity, Draft.startFromActivity, Draft.context, Code.intent,
              Code.int, exec, execAll, eval, evalAll, test, context, intent, present, fromActivity,
              bound, absent, startCall]
        | false =>
            simp [Draft.launchActivity, Draft.startFromActivity, Draft.context, Code.intent,
              Draft.onActivityBuilder, Result.callback, Locals.listener, exec, execAll, eval,
              evalAll, test, context, intent, present, fromActivity, bound, absent, startCall]
  · have elsewhere : D.isA (arguments "context") Platform.activity = false :=
      Bool.eq_false_iff.mpr fromActivity
    let flags := D.constant Platform.intent "FLAG_ACTIVITY_NEW_TASK"
    refine ⟨(r.call (.method i "addFlags" [flags])).2, ?_, doc.aside _ _ _ _ .flags extras,
      callsOf_call_eq rfl⟩
    rw [startCall_of_elsewhere elsewhere]
    simp [Draft.launchActivity, Draft.context, Code.intent, exec, execAll, eval, evalAll, test,
      context, intent, held, present, elsewhere, flags]

/-- **A start callable makes exactly one call that starts a screen**, and in it the intent holds the
arguments of the visited fields and nothing else. -/
theorem run_start {owner : Owner} (doc : D.Documented owner.runtime)
    (activity : owner.target.kind = .activity) {contract : Option Contract} (name : String)
    {fields : List Field} {arguments : String → Value} (distinct : (fields.map (·.name)).Nodup)
    (apart : ListenerApart contract fields) (context : arguments "context" ≠ .null)
    (s : State D.World) :
    ∃ i r before, run D (Draft.finished owner contract name fields) arguments s = some r ∧
      D.extras before.world i = some (.ofKeys (fields.map (·.name)) arguments) ∧
      r.callsOf (Call.starts owner.runtime)
        = [⟨startCall D owner contract arguments
              ((Code.intentName, i)
                :: Locals.of (Draft.finished owner contract name fields).parameters arguments) i,
            before⟩] := by
  let own : Locals := .of (Draft.finished owner contract name fields).parameters arguments
  have receiver : own.lookup "context" = some (arguments "context") :=
    lookup_finished_preamble (by rw [activity]; exact receiverName_mem_preamble)
  have fresh : own.lookup Code.intentName = none :=
    lookup_finished_eq_none apart (by simp [Naming.reservedBindings, Code.intentName])
      (by simp [activity, Draft.preambleParameters, Code.intentName])
  obtain ⟨i, filled, prologue, extras, quiet⟩ := execAll_prologue (r := ⟨s, []⟩) doc
    (by rw [activity, receiverName, receiver]; rfl) fresh
    fun f hf => (lookup_finished_field hf : own.lookup f.name = some (arguments f.name))
  have intent : ((Code.intentName, i) :: own).lookup Code.intentName = some i :=
    List.lookup_cons_self
  have starter : ((Code.intentName, i) :: own).lookup "context" = some (arguments "context") :=
    receiver
  have listener : ∀ k, contract = some k →
      ((Code.intentName, i) :: own).lookup k.listenerName = some (arguments k.listenerName) := by
    rintro k rfl
    exact lookup_listener_beside_intent activity (apart k rfl).1
  obtain ⟨before, launch, handed, stillQuiet⟩ :=
    exec_launchActivity doc starter context intent listener extras
  let started := (before.call (startCall D owner contract arguments
    ((Code.intentName, i) :: own) i)).2
  refine ⟨i, (started.call (.singleton owner.runtime.activityBuilder "inject" [])).2, before.state,
    ?_, handed, ?_⟩
  · have closing : execAll D ((Code.intentName, i) :: own) (Draft.closingBody owner contract) filled
        = some ((Code.intentName, i) :: own,
            (started.call (.singleton owner.runtime.activityBuilder "inject" [])).2) := by
      rw [Draft.closingBody, activity, execAll_cons launch, execAll_singleton]
      rfl
    rw [run_finished distinct apart prologue, closing]
    rfl
  · rw [callsOf_call_eq rfl, callsOf_call starts_startCall, stillQuiet, quiet]
    rfl

end Execution

end Companions
