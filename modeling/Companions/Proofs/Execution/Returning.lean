import Companions.Proofs.Execution.Rules
import Companions.Proofs.Execution.Starting

/-!
Running `finishWithResult`, and the callback that takes the values out again.

`run_finishWithResult` says what the intent holds that an activity hands back; `invoke_callback`
says what the callback does with a bundle that holds as much. They meet in the names of the result
values, which are the keys for both.
-/

namespace Companions

namespace Execution

variable {D : Device} {runtime : Runtime} {locals : Locals} {r : Run D}

/-! ### Calls of a result -/

/-- Whether a call sets the result of an activity. -/
def Call.setsResult : Call → Bool
  | .method _ "setResult" _ => true
  | _ => false

/-- The object a method is called on, the method, and what is passed to it. -/
def Call.method? : Call → Option (Value × String × List Value)
  | .method target name arguments => some (target, name, arguments)
  | _ => none

/-- The methods of objects that were called in a run, in order. -/
def Run.methods (r : Run D) : List (Value × String × List Value) :=
  r.made.filterMap fun made => made.call.method?

/-- The callback that a call registers for the result of an activity. -/
def Call.registered? (runtime : Runtime) : Call → Option Value
  | .singleton object "startActivityForResult" [_, _, callback] =>
    if object = runtime.activityBuilder then some callback else none
  | _ => none

/-- The callbacks that were registered in a run. -/
def Run.registered (runtime : Runtime) (r : Run D) : List Value :=
  r.made.filterMap fun made => made.call.registered? runtime

/-- A callback is registered in a call that starts a screen. -/
theorem registered_eq :
    r.registered runtime
      = (r.callsOf (Call.starts runtime)).filterMap fun made => made.call.registered? runtime := by
  rw [Run.registered, Run.callsOf, List.filterMap_filter]
  congr 1
  funext made
  cases starts : made.call.starts runtime with
  | true => rfl
  | false =>
      unfold Call.registered?
      split
      · rename_i object a b callback call
        rw [call] at starts
        rw [if_neg (by simpa [Call.starts] using starts)]
        rfl
      · rfl

/-! ### Handing back -/

section FinishWithResult

variable {owner : Owner} {k : Contract} {arguments : String → Value}

theorem names_finishWithResult :
    (Result.finishWithResult owner k).parameters.map (·.name)
      = "activity" :: k.results.map (·.name) := by
  simp [Result.finishWithResult]

/-- The activity that finishes is a receiver, and no argument. -/
theorem arguments_finishWithResult :
    (Result.finishWithResult owner k).arguments = k.listener.parameters := by
  have values : (k.listener.parameters.filter fun p => !p.isReceiver)
      = k.listener.parameters := by
    refine List.filter_eq_self.mpr fun p hp => ?_
    obtain ⟨v, -, rfl⟩ := List.mem_map.mp hp
    rfl
  rw [← values]
  rfl

/-- The activity and the values can be seen. -/
theorem lookup_finishWithResult {name : String} (h : name ∈ "activity" :: k.results.map (·.name)) :
    (Locals.of (Result.finishWithResult owner k).parameters arguments).lookup name
      = some (arguments name) := by
  rw [Locals.lookup_of, names_finishWithResult, if_pos h]

theorem lookup_finishWithResult_eq_none (apart : ∀ v ∈ k.results, v.name ≠ "intent") :
    (Locals.of (Result.finishWithResult owner k).parameters arguments).lookup Code.intentName
      = none := by
  rw [Locals.lookup_of, names_finishWithResult]
  refine if_neg fun h => ?_
  rcases List.mem_cons.mp h with same | h
  · exact absurd same (by decide)
  · obtain ⟨v, hv, same⟩ := List.mem_map.mp h
    exact apart v hv same

theorem enter?_finishWithResult (distinct : (k.results.map (·.name)).Nodup)
    (apart : ∀ v ∈ k.results, v.name ≠ "activity") :
    enter? (Result.finishWithResult owner k).parameters arguments
      = some (.of (Result.finishWithResult owner k).parameters arguments) := by
  refine if_pos ?_
  rw [names_finishWithResult, List.nodup_cons]
  refine ⟨fun h => ?_, distinct⟩
  obtain ⟨v, hv, same⟩ := List.mem_map.mp h
  exact apart v hv same

/-- At the end, the result is set once, and the activity finishes. -/
theorem execAll_finish {activity i : Value} (receiver : locals.lookup "activity" = some activity)
    (nonNull : activity ≠ .null) (intent : locals.lookup Code.intentName = some i) :
    ∃ r', execAll D locals
        [.run (.call Result.activity "setResult" []
            [.staticField Platform.activity "RESULT_OK", Code.intent]),
          .run (.staticCall Platform.activityCompat "finishAfterTransition" [] [Result.activity])] r
        = some (locals, r') ∧
      r'.callsOf Call.setsResult = r.callsOf Call.setsResult
        ++ [⟨.method activity "setResult" [D.constant Platform.activity "RESULT_OK", i],
          r.state⟩] := by
  let sets : Call := .method activity "setResult" [D.constant Platform.activity "RESULT_OK", i]
  let finish : Call := .static Platform.activityCompat "finishAfterTransition" [activity]
  have present := Value.isNull_eq_false_iff.mpr nonNull
  refine ⟨((r.call sets).2.call finish).2, ?_, ?_⟩
  · simp [Result.activity, Code.intent, execAll, exec, eval, evalAll, receiver, present, intent,
      sets, finish]
  · rw [callsOf_call_eq rfl, callsOf_call rfl]

/-- **`finishWithResult` hands back the values**: it sets one result, `RESULT_OK` with an intent
that holds the values under their names and nothing else. -/
theorem run_finishWithResult (doc : D.Documented owner.runtime)
    (distinct : (k.results.map (·.name)).Nodup)
    (apart : ∀ v ∈ k.results, v.name ≠ "activity" ∧ v.name ≠ "intent")
    (activity : arguments "activity" ≠ .null) (s : State D.World) :
    ∃ i r before, run D (Result.finishWithResult owner k) arguments s = some r ∧
      D.extras before.world i = some (.ofKeys (k.results.map (·.name)) arguments) ∧
      r.callsOf Call.setsResult = [⟨.method (arguments "activity") "setResult"
        [D.constant Platform.activity "RESULT_OK", i], before⟩] := by
  let own : Locals := .of (Result.finishWithResult owner k).parameters arguments
  have nothing : evalAll D own [] ⟨s, []⟩ = some ([], ⟨s, []⟩) := rfl
  have fresh : own.lookup Code.intentName = none :=
    lookup_finishWithResult_eq_none fun v hv => (apart v hv).2
  obtain ⟨i, filled, filling, fills⟩ := execAll_fillFresh doc k.results (·.name)
    (fun v => .ident v.name) arguments nothing fresh (by
      intro v hv i r' _
      have beside : ((Code.intentName, i) :: own).lookup v.name = own.lookup v.name :=
        Locals.lookup_cons_ne (apart v hv).2
      have value : own.lookup v.name = some (arguments v.name) :=
        lookup_finishWithResult (List.mem_cons_of_mem _ (List.mem_map_of_mem hv))
      simp [eval, beside, value])
  have receiver : ((Code.intentName, i) :: own).lookup "activity" = some (arguments "activity") :=
    (Locals.lookup_cons_ne (by decide)).trans (lookup_finishWithResult List.mem_cons_self)
  obtain ⟨r, closing, sets⟩ :=
    execAll_finish (r := filled) receiver activity List.lookup_cons_self
  refine ⟨i, r, filled.state, ?_, fills.extras_fresh, ?_⟩
  · have body : (Result.finishWithResult owner k).body
        = (Code.declareIntent [] :: k.results.map fun v => Code.putExtra v.name (.ident v.name))
          ++ _ := rfl
    rw [run, enter?_finishWithResult distinct fun v hv => (apart v hv).1, Option.bind_some, body,
      execAll_append, filling, Option.bind_some]
    simp only [closing]
    rfl
  · rw [sets, fills.callsOf_eq fun _ _ => rfl]
    rfl

end FinishWithResult

/-! ### The callback -/

/-- One value is taken out of the bundle; a primitive one must be there. -/
theorem eval_read (doc : D.Documented runtime) {b : Value} {m : Entries} {v : ResultValue}
    {value : Value} (data : locals.lookup "data" = some b)
    (entries : D.entries r.state.world b = some m) (stored : m v.name = some value)
    (present : v.type.isPrimitive = true → value ≠ .null) :
    ∃ r', eval D locals (Result.read runtime v) r = some (value, r') ∧
      r'.state = r.state ∧ r'.methods = r.methods := by
  let get : Call := .singleton runtime.bundleUtils "get" [b, .text v.name]
  have answer : D.answer r.state get = (value, r.state) := by
    rw [doc.get _ _ _ _ entries, stored]
    rfl
  have got : r.call get = (value, (r.call get).2) := by
    rw [Run.call, answer]
  have taken : ∀ t : ValueType, eval D locals
      (.singletonCall runtime.bundleUtils "get" [t] [.ident "data", Code.text v.name]) r
        = some (value, (r.call get).2) := by
    intro t
    rw [← got]
    simp [eval, evalAll, Code.text, data, get, Value.text]
  have sameMethods : (r.call get).2.methods = r.methods := by
    simp [Run.methods, Run.call, Call.method?, get]
  refine ⟨(r.call get).2, ?_, by rw [Run.call, answer], sameMethods⟩
  unfold Result.read
  cases primitive : v.type.isPrimitive with
  | false => exact taken _
  | true =>
      have nonNull := Value.isNull_eq_false_iff.mpr (present primitive)
      simp only [if_true]
      rw [eval, taken, Option.bind_some]
      simp only [nonNull]
      rfl

/-- The values are taken out in order. -/
theorem evalAll_read (doc : D.Documented runtime) {b : Value} {m : Entries}
    {results : List ResultValue} {value : String → Value} (data : locals.lookup "data" = some b)
    (entries : D.entries r.state.world b = some m)
    (stored : ∀ v ∈ results, m v.name = some (value v.name))
    (present : ∀ v ∈ results, v.type.isPrimitive = true → value v.name ≠ .null) :
    ∃ r', evalAll D locals (results.map (Result.read runtime)) r
        = some (results.map fun v => value v.name, r') ∧
      r'.state = r.state ∧ r'.methods = r.methods := by
  induction results generalizing r with
  | nil => exact ⟨r, rfl, rfl, rfl⟩
  | cons v rest ih =>
      obtain ⟨r₁, first, state, methods⟩ := eval_read doc data entries
        (stored v List.mem_cons_self) (present v List.mem_cons_self)
      obtain ⟨r₂, later, stateLater, methodsLater⟩ := ih (state ▸ entries)
        (fun w hw => stored w (List.mem_cons_of_mem _ hw))
        fun w hw => present w (List.mem_cons_of_mem _ hw)
      refine ⟨r₂, ?_, stateLater.trans state, methodsLater.trans methods⟩
      rw [List.map_cons, evalAll, first, Option.bind_some]
      simp only [later]
      rfl

/-- What the callback can see: its parameters, then what was there when it was made. -/
def Locals.inCallback (locals : Locals) (arguments : String → Value) : Locals :=
  ("resultCode", arguments "resultCode") :: ("data", arguments "data") :: locals

theorem invoke_callback_eq {k : Contract} {arguments : String → Value} {s : State D.World} :
    invoke D (locals.listener (Result.callback runtime k)) arguments s
      = (exec D (locals.inCallback arguments)
          (.branch (.equal (.ident "resultCode") (.staticField Platform.activity "RESULT_OK"))
            [.run (.call (.ident k.listenerName) Contract.method []
              (k.results.map (Result.read runtime)))] []) ⟨s, []⟩).map Prod.snd := by
  rw [Result.callback, Locals.listener, invoke, enter?, if_pos (by simp), Option.bind_some]
  exact congrArg (Option.map Prod.snd) execAll_singleton

/-- The test of the callback, where result codes are numbers. -/
theorem test_resultCode {arguments : String → Value} {ok code : Int} {kind kind' : Primitive}
    (constant : D.constant Platform.activity "RESULT_OK" = .literal (.integer ok kind))
    (given : arguments "resultCode" = .literal (.integer code kind')) :
    test D (locals.inCallback arguments)
        (.equal (.ident "resultCode") (.staticField Platform.activity "RESULT_OK")) r
      = some (code == ok, r) := by
  have bound : (locals.inCallback arguments).lookup "resultCode"
      = some (arguments "resultCode") := rfl
  simp [test, eval, bound, given, constant, Value.same?]

/-- **The callback calls the listener once**, with the values in the order of the contract, when the
result is `RESULT_OK` and the bundle holds them. -/
theorem invoke_callback (doc : D.Documented runtime) {k : Contract} {l : Value} {m : Entries}
    {value arguments : String → Value} {s : State D.World}
    (apart : k.listenerName ≠ "resultCode" ∧ k.listenerName ≠ "data")
    (listener : locals.lookup k.listenerName = some l) (listens : l ≠ .null)
    (code : arguments "resultCode" = D.constant Platform.activity "RESULT_OK")
    (entries : D.entries s.world (arguments "data") = some m)
    (stored : ∀ v ∈ k.results, m v.name = some (value v.name))
    (present : ∀ v ∈ k.results, v.type.isPrimitive = true → value v.name ≠ .null) :
    ∃ r, invoke D (locals.listener (Result.callback runtime k)) arguments s = some r ∧
      r.methods = [(l, Contract.method, k.results.map fun v => value v.name)] := by
  let seen := locals.inCallback arguments
  let start : Run D := ⟨s, []⟩
  have bound : seen.lookup k.listenerName = some l := by
    simp only [seen, Locals.inCallback, List.lookup_cons, beq_false_of_ne apart.1,
      beq_false_of_ne apart.2, listener]
  have holds : test D seen (.equal (.ident "resultCode")
      (.staticField Platform.activity "RESULT_OK")) start = some (true, start) := by
    obtain ⟨ok, kind, constant⟩ := doc.resultOk
    rw [test_resultCode constant (code.trans constant), beq_self_eq_true]
  have data : seen.lookup "data" = some (arguments "data") := rfl
  obtain ⟨r, reading, -, methods⟩ :=
    evalAll_read (r := start) doc data entries stored present
  let call : Call := .method l Contract.method (k.results.map fun v => value v.name)
  have called : exec D seen (.run (.call (.ident k.listenerName) Contract.method []
      (k.results.map (Result.read runtime)))) start = some (seen, (r.call call).2) := by
    have nonNull := Value.isNull_eq_false_iff.mpr listens
    simp [exec, eval, bound, reading, nonNull, call]
  refine ⟨(r.call call).2, ?_, ?_⟩
  · rw [invoke_callback_eq, exec_branch_yes holds, execAll_singleton, called]
    rfl
  · have appended : (r.call call).2.methods
        = r.methods ++ [(l, Contract.method, k.results.map fun v => value v.name)] :=
      List.filterMap_append
    rw [appended, methods]
    rfl

/-- With any other result code the callback does nothing. -/
theorem invoke_callback_of_ne {k : Contract} {arguments : String → Value} {s : State D.World}
    {ok code : Int} {kind kind' : Primitive}
    (constant : D.constant Platform.activity "RESULT_OK" = .literal (.integer ok kind))
    (given : arguments "resultCode" = .literal (.integer code kind')) (other : code ≠ ok) :
    invoke D (locals.listener (Result.callback runtime k)) arguments s = some ⟨s, []⟩ := by
  have fails : test D (locals.inCallback arguments) (.equal (.ident "resultCode")
      (.staticField Platform.activity "RESULT_OK")) ⟨s, []⟩ = some (false, ⟨s, []⟩) := by
    rw [test_resultCode constant given, beq_false_of_ne other]
  rw [invoke_callback_eq, exec_branch_no fails]
  rfl

end Execution

end Companions
