import Companions.Proofs.Delivery
import Companions.Proofs.Execution.Returning

/-!
What an activity hands back arrives.

Four pieces have to agree on names, order and types of the result values: the callable that
finishes, the listener interface, the callback, and the launch that registers it.
`Assembly.generate_answers` says that they do, for every contract and every callable of the start
family.
-/

namespace Companions

open Execution

namespace Execution

/-- `callback` answers a result. With `RESULT_OK` and a bundle that holds the values, it calls the
method of the listener `receiver` once, with the values in the order of its parameters; with any
other result code it does nothing at all. -/
structure Answers (D : Device) (l : Listener) (receiver callback : Value) : Prop where
  ok : ∀ (values reply : String → Value) (s : State D.World),
    reply "resultCode" = D.constant Platform.activity "RESULT_OK" →
    D.entries s.world (reply "data") = some (.ofKeys (l.parameters.map (·.name)) values) →
    (∀ p ∈ l.parameters, p.type.isPrimitive = true → values p.name ≠ .null) →
    ∃ r, invoke D callback reply s = some r ∧
      r.methods = [(receiver, l.method, l.parameters.map fun p => values p.name)]
  otherwise : ∀ (reply : String → Value) (s : State D.World) (ok code : Int)
    (kind kind' : Primitive),
    D.constant Platform.activity "RESULT_OK" = .literal (.integer ok kind) →
    reply "resultCode" = .literal (.integer code kind') → code ≠ ok →
    invoke D callback reply s = some ⟨s, []⟩

variable {D : Device} {runtime : Runtime} {locals : Locals}

/-- The callback of a contract answers the listener that could be seen when it was made. -/
theorem callback_answers (doc : D.Documented runtime) {t : Target} {k : Contract}
    (made : Contract.make t = .ok (some k)) {receiver : Value}
    (bound : locals.lookup k.listenerName = some receiver) (present : receiver ≠ .null) :
    Answers D k.listener receiver (locals.listener (Result.callback runtime k)) where
  ok values reply s code entries primitive := by
    have names : k.listener.parameters.map (·.name) = k.results.map (·.name) := by
      simp [Contract.listener]
    have order : (k.listener.parameters.map fun p => values p.name)
        = k.results.map fun v => values v.name := by
      simp [Contract.listener]
    rw [names] at entries
    rw [order]
    refine invoke_callback doc ⟨Contract.listenerName_ne made (by decide),
      Contract.listenerName_ne made (by decide)⟩ bound present code entries (fun v hv => ?_)
      fun v hv => ?_
    · exact Entries.ofKeys_eq_some_iff.mpr ⟨List.mem_map_of_mem hv, rfl⟩
    · exact primitive { name := v.name, type := v.type } (List.mem_map.mpr ⟨v, hv, rfl⟩)
  otherwise reply s ok code kind kind' constant given other :=
    invoke_callback_of_ne constant given other

end Execution

namespace Assembly

/-- **What an activity hands back arrives.** For a contract none of whose values is named like a
parameter or local of `finishWithResult`: the callable that finishes takes what the listener takes,
and sets one result, whose intent holds the values under their names and nothing else. Any start
callable that is run on an activity registers one callback, which answers the listener, unless the
listener is `null`, when it registers none and starts the activity with the request code; run on any
other context it registers nothing. -/
theorem generate_answers {settings : Settings} {target : Target} {fields : List Field}
    {a : Assembly} (reached : Reached settings target fields a) {c : Companion}
    (generated : a.generate = .ok c) {k : Contract} (contract : a.contract = some k)
    (apart : ∀ f ∈ fields, f.name ≠ k.listenerName)
    (entities : ∀ v ∈ target.results, v.name ≠ "activity" ∧ v.name ≠ "intent")
    {D : Device} (doc : D.Documented settings.runtime) :
    ∃ finish l, c.finishWithResult = some finish ∧ c.listener = some l ∧
      finish.arguments = l.parameters ∧
      l.parameters.map (·.name) = target.results.map (·.name) ∧
      (∀ (values : String → Value) (s : State D.World), values "activity" ≠ .null →
        ∃ r i before, run D finish values s = some r ∧
          r.callsOf Call.setsResult = [⟨.method (values "activity") "setResult"
            [D.constant Platform.activity "RESULT_OK", i], before⟩] ∧
          D.extras before.world i = some (.ofKeys (l.parameters.map (·.name)) values)) ∧
      ∀ callable ∈ c.startFamily, ∀ (arguments : String → Value) (s : State D.World),
        arguments "context" ≠ .null →
        ∃ r, run D callable arguments s = some r ∧
          (D.isA (arguments "context") Platform.activity = true →
            arguments k.listenerName ≠ .null →
            ∃ callback, r.registered settings.runtime = [callback] ∧
              Answers D l (arguments k.listenerName) callback) ∧
          (D.isA (arguments "context") Platform.activity = true →
            arguments k.listenerName = .null →
            r.registered settings.runtime = [] ∧
            ∃ i before, r.callsOf (Call.starts settings.runtime)
              = [⟨.method (arguments "context") "startActivityForResult"
                  [i, .literal (.integer settings.runtime.requestCode .int)], before⟩]) ∧
          (D.isA (arguments "context") Platform.activity = false →
            r.registered settings.runtime = []) := by
  let owner : Owner := { target, runtime := settings.runtime }
  have documented : D.Documented owner.runtime := doc
  obtain ⟨kind, made⟩ := reached.make_contract contract
  obtain ⟨results, distinct, -⟩ := Contract.make_eq_ok made
  obtain ⟨listener, finish⟩ := reached.result_of_generate generated contract
  have parameters : k.listener.parameters.map (·.name) = k.results.map (·.name) := by
    simp [Contract.listener]
  refine ⟨_, _, finish, listener, arguments_finishWithResult, by rw [parameters, results], ?_, ?_⟩
  · intro values s present
    obtain ⟨i, r, before, ran, extras, result⟩ :=
      run_finishWithResult documented distinct (results ▸ entities) present s
    exact ⟨r, i, before, ran, result, by rw [parameters, extras]⟩
  · intro callable member arguments s present
    obtain ⟨name, taken, rfl, -, subset, takenDistinct⟩ :=
      reached.exists_finished_of_mem generated member
    have free := Contract.listenerName_not_reserved made
    have listenerApart : ListenerApart a.contract taken := fun k' contract' => by
      obtain rfl : k = k' := Option.some.inj (contract.symm.trans contract')
      exact ⟨free, fun f hf => apart f (subset f hf)⟩
    obtain ⟨i, r, before, ran, -, starts⟩ :=
      run_start documented kind name takenDistinct listenerApart present s
    rw [contract] at starts
    let locals : Locals := (Code.intentName, i)
      :: Locals.of (Draft.finished owner (some k) name taken).parameters arguments
    have bound : locals.lookup k.listenerName = some (arguments k.listenerName) :=
      lookup_listener_beside_intent kind free
    have started : r.callsOf (Call.starts owner.runtime)
        = [⟨startCall D owner (some k) arguments locals i, before⟩] := starts
    refine ⟨r, ran, ?_, ?_, fun elsewhere => ?_⟩
    · intro fromActivity listens
      refine ⟨locals.listener (Result.callback owner.runtime k), ?_,
        callback_answers documented made bound listens⟩
      rw [registered_eq, started, startCall_of_listens fromActivity listens]
      simp [Call.registered?, owner]
    · intro fromActivity silent
      rw [registered_eq, started, startCall_of_silent fromActivity silent]
      exact ⟨rfl, i, before, rfl⟩
    · rw [registered_eq, started, startCall_of_elsewhere elsewhere]
      rfl

/-- The editor hands back a text and a number, and the listener it was started with gets both. -/
theorem generate_answers_editor :
    ∃ a c k, Reached {} editor editorFields a ∧ a.generate = .ok c ∧ a.contract = some k ∧
      ∃ finish l, c.finishWithResult = some finish ∧ c.listener = some l ∧
        let values (name : String) : Value :=
          if name = "status" then .text "saved" else .literal (.integer 3 .int)
        let reply (name : String) : Value :=
          if name = "data" then Memory.bundleAt 0 else .literal (.integer (-1) .int)
        (∃ r, run editorDevice finish values (arrived .empty) = some r ∧
          (r.callsOf Call.setsResult).length = 1) ∧
        ∃ r callback, run editorDevice c.full editorArguments (arrived .empty) = some r ∧
          r.registered {} = [callback] ∧
          ∃ answer, invoke editorDevice callback reply
              { fields := fun _ _ => .null
                world := { bundles := [.ofKeys (l.parameters.map (·.name)) values] } }
              = some answer ∧
            answer.methods = [(editorArguments k.listenerName, l.method,
              l.parameters.map fun p => values p.name)] := by
  obtain ⟨a, c, reached, generated⟩ := editor_generates
  have doc : editorDevice.Documented ({} : Settings).runtime := memory_documented _ _
  have contract : ∃ k, a.contract = some k := by
    have made : Contract.make editor = .ok a.contract := reached.contract_eq
    exact ⟨_, (Except.ok.inj made).symm⟩
  obtain ⟨k, contract⟩ := contract
  obtain ⟨finish, l, finishes, listens, -, -, returns, starts⟩ :=
    generate_answers reached generated contract (editor_apart reached k contract) (by decide) doc
  let values (name : String) : Value :=
    if name = "status" then .text "saved" else .literal (.integer 3 .int)
  let reply (name : String) : Value :=
    if name = "data" then Memory.bundleAt 0 else .literal (.integer (-1) .int)
  have present : ∀ name, values name ≠ .null := fun name => by
    unfold values
    split <;> exact nofun
  obtain ⟨r, i, before, ran, result, -⟩ := returns values (arrived .empty) (present _)
  obtain ⟨r', ran', registers, -⟩ :=
    starts c.full List.mem_cons_self editorArguments (arrived .empty) (editorArguments_ne_null _)
  obtain ⟨callback, registered, answers⟩ := registers rfl (editorArguments_ne_null _)
  obtain ⟨answer, invoked, methods⟩ := answers.ok values reply
    { fields := fun _ _ => .null
      world := { bundles := [.ofKeys (l.parameters.map (·.name)) values] } }
    rfl rfl fun p _ _ => present p.name
  exact ⟨a, c, k, reached, generated, contract, finish, l, finishes, listens,
    ⟨r, ran, by rw [result]; rfl⟩, r', callback, ran', registered, answer, invoked, methods⟩

end Assembly

end Companions
