import Companions.Owner
import Companions.Proofs.Execution.Documented

/-!
Rules for runs.

`Yields total o post` says that `o` has a result if `total` holds, and that whatever result it has
satisfies `post`. So one statement carries both that a run is right and when it has an outcome. The
rules below follow the shape of generated code; `execAll_puts` is the one loop in it, a row of
`putExtra` statements.
-/

namespace Companions

namespace Execution

/-! ### Results and what is known of them -/

/-- Every result of `o` satisfies `post`, and there is one if `total` holds. -/
structure Yields {α : Type} (total : Prop) (o : Option α) (post : α → Prop) : Prop where
  sound : ∀ a, o = some a → post a
  returns : total → ∃ a, o = some a

namespace Yields

variable {α β : Type} {total : Prop}

theorem some {a : α} {post : α → Prop} (h : post a) : Yields total (Option.some a) post :=
  ⟨fun _ same => Option.some.inj same ▸ h, fun _ => ⟨a, rfl⟩⟩

theorem none {post : α → Prop} (impossible : ¬ total) : Yields total Option.none post :=
  ⟨nofun, fun h => absurd h impossible⟩

theorem of_eq {o : Option α} {a : α} {post : α → Prop} (same : o = Option.some a) (h : post a) :
    Yields total o post :=
  same ▸ Yields.some h

theorem mono {o : Option α} {post post' : α → Prop} (h : Yields total o post)
    (weaken : ∀ a, post a → post' a) : Yields total o post' :=
  ⟨fun a same => weaken a (h.sound a same), h.returns⟩

theorem bind {o : Option α} {f : α → Option β} {post : α → Prop} {post' : β → Prop}
    (first : Yields total o post) (rest : ∀ a, post a → Yields total (f a) post') :
    Yields total (o.bind f) post' := by
  constructor
  · intro b hb
    obtain ⟨a, ha, hb⟩ := Option.bind_eq_some_iff.mp hb
    exact (rest a (first.sound a ha)).sound b hb
  · intro h
    obtain ⟨a, ha⟩ := first.returns h
    obtain ⟨b, hb⟩ := (rest a (first.sound a ha)).returns h
    exact ⟨b, Option.bind_eq_some_iff.mpr ⟨a, ha, hb⟩⟩

theorem map {o : Option α} {f : α → β} {post : β → Prop} (h : Yields total o fun a => post (f a)) :
    Yields total (o.map f) post := by
  rw [Option.map_eq_bind]
  exact h.bind fun a ha => Yields.some ha

end Yields

/-! ### Locals -/

/-- The locals of a callable give every parameter its argument, and name nothing else. -/
theorem Locals.lookup_of {parameters : List Parameter} {arguments : String → Value}
    {name : String} :
    (Locals.of parameters arguments).lookup name
      = if name ∈ parameters.map (·.name) then some (arguments name) else none := by
  unfold Locals.of
  induction parameters with
  | nil => rfl
  | cons p rest ih =>
      rw [List.map_cons, List.lookup_cons, ih, List.map_cons]
      by_cases same : name = p.name
      · simp [same]
      · simp [same, beq_false_of_ne same]

/-- A local hides no name but its own. -/
theorem Locals.lookup_cons_ne {locals : Locals} {name binding : String} {v : Value}
    (apart : name ≠ binding) : ((binding, v) :: locals).lookup name = locals.lookup name := by
  rw [List.lookup_cons, beq_false_of_ne apart]

/-! ### Statements one after the other -/

variable {D : Device} {runtime : Runtime} {locals : Locals} {r : Run D}

theorem execAll_append {first rest : List Statement} :
    execAll D locals (first ++ rest) r
      = (execAll D locals first r).bind fun (locals, r) => execAll D locals rest r := by
  induction first generalizing locals r with
  | nil => rfl
  | cons s first ih =>
      rw [List.cons_append, execAll, execAll, Option.bind_assoc]
      congr 1
      funext next
      exact ih

theorem execAll_cons {s : Statement} {rest : List Statement} {locals' : Locals} {r' : Run D}
    (first : exec D locals s r = some (locals', r')) :
    execAll D locals (s :: rest) r = execAll D locals' rest r' := by
  rw [execAll, first]
  rfl

theorem execAll_singleton {s : Statement} : execAll D locals [s] r = exec D locals s r := by
  rw [execAll]
  cases exec D locals s r <;> rfl

/-- A branch whose test holds. What it declares is gone after it. -/
theorem exec_branch_yes {condition : Condition} {yes no : List Statement} {r' : Run D}
    (holds : test D locals condition r = some (true, r')) :
    exec D locals (.branch condition yes no) r
      = (execAll D locals yes r').map fun (_, r) => (locals, r) := by
  rw [exec, holds]
  rfl

/-- A branch whose test does not hold. -/
theorem exec_branch_no {condition : Condition} {yes no : List Statement} {r' : Run D}
    (fails : test D locals condition r = some (false, r')) :
    exec D locals (.branch condition yes no) r
      = (execAll D locals no r').map fun (_, r) => (locals, r) := by
  rw [exec, fails]
  rfl

/-- A callable with one statement. -/
theorem run_single {c : Callable} {statement : Statement} {arguments : String → Value}
    {s : State D.World} (distinct : (c.parameters.map (·.name)).Nodup)
    (body : c.body = [statement]) :
    run D c arguments s
      = (exec D (.of c.parameters arguments) statement ⟨s, []⟩).map fun (_, r) => r := by
  rw [run, enter?, if_pos distinct, Option.bind_some, body, execAll_singleton]

/-! ### Calls of one sort -/

/-- The calls of a run that satisfy `p`, in order. -/
def Run.callsOf (r : Run D) (p : Call → Bool) : List (Made D) :=
  r.made.filter fun made => p made.call

theorem callsOf_call {p : Call → Bool} {c : Call} (h : p c = true) :
    (r.call c).2.callsOf p = r.callsOf p ++ [⟨c, r.state⟩] := by
  simp [Run.callsOf, Run.call, List.filter_append, h]

theorem callsOf_call_eq {p : Call → Bool} {c : Call} (h : p c = false) :
    (r.call c).2.callsOf p = r.callsOf p := by
  simp [Run.callsOf, Run.call, List.filter_append, h]

/-! ### Filling an intent -/

/-- What a row of `putExtra` statements leaves: the entries are over the old ones, every field and
every bundle is as it was, and nothing but `putExtra` was called. -/
structure Filled (i : Value) (entries m : Entries) (r r' : Run D) : Prop where
  fields : r'.state.fields = r.state.fields
  extras : D.extras r'.state.world i = some (entries.overlay m)
  bundles : ∀ b n, D.entries r.state.world b = some n → D.entries r'.state.world b = some n
  made : ∃ puts, r'.made = r.made ++ puts ∧
    ∀ put ∈ puts, ∃ key v, put.call = .method i "putExtra" [.text key, v]

theorem Entries.overlay_empty (m : Entries) : m.overlay .empty = m :=
  funext fun _ => Option.or_none

/-- Setting one key and then others is setting all of them. -/
theorem Entries.overlay_put {keys : List String} {value : String → Value} {m : Entries}
    {key : String} :
    (ofKeys keys value).overlay (m.put key (value key))
      = (ofKeys (key :: keys) value).overlay m := by
  funext other
  simp only [overlay, ofKeys, put, List.mem_cons]
  by_cases present : other ∈ keys
  · simp [present]
  · by_cases same : other = key
    · subst same
      simp [present]
    · simp [present, same]

/-- An intent is not `null`. -/
theorem Device.Documented.ne_null_of_extras (doc : D.Documented runtime) {w : D.World} {i : Value}
    {m : Entries} (h : D.extras w i = some m) : i ≠ .null := by
  rintro rfl
  rw [doc.extras_null] at h
  exact nomatch h

/-- A bundle is not `null`. -/
theorem Device.Documented.ne_null_of_entries (doc : D.Documented runtime) {w : D.World} {b : Value}
    {m : Entries} (h : D.entries w b = some m) : b ≠ .null := by
  rintro rfl
  rw [doc.entries_null] at h
  exact nomatch h

theorem exec_putExtra {i v : Value} {key : String} {e : Expr}
    (intent : locals.lookup Code.intentName = some i) (nonNull : i ≠ .null)
    (value : eval D locals e r = some (v, r)) :
    exec D locals (Code.putExtra key e) r
      = some (locals, (r.call (.method i "putExtra" [.text key, v])).2) := by
  simp [Code.putExtra, Code.intent, Code.text, exec, eval, evalAll, intent, value,
    Value.isNull_eq_false_iff.mpr nonNull, Value.text]

/-- **A row of `putExtra` statements fills the intent.** The values may depend on the fields of
objects, which no `putExtra` changes. -/
theorem execAll_puts (doc : D.Documented runtime) {α : Type} (elements : List α)
    (key : α → String) (e : α → Expr) (value : String → Value) {i : Value} {m : Entries}
    (intent : locals.lookup Code.intentName = some i)
    (extras : D.extras r.state.world i = some m)
    (values : ∀ x ∈ elements, ∀ r' : Run D, r'.state.fields = r.state.fields →
      eval D locals (e x) r' = some (value (key x), r')) :
    ∃ r', execAll D locals (elements.map fun x => Code.putExtra (key x) (e x)) r
        = some (locals, r') ∧
      Filled i (.ofKeys (elements.map key) value) m r r' := by
  induction elements generalizing r m with
  | nil =>
      refine ⟨r, rfl, rfl, ?_, fun _ _ h => h, [], by simp, by simp⟩
      rw [extras]
      exact congrArg some (funext fun key => by simp [Entries.overlay, Entries.ofKeys])
  | cons x rest ih =>
      have first : exec D locals (Code.putExtra (key x) (e x)) r
          = some (locals, (r.call (.method i "putExtra" [.text (key x), value (key x)])).2) :=
        exec_putExtra intent (doc.ne_null_of_extras extras) (values x List.mem_cons_self r rfl)
      have fields := doc.putExtra_fields r.state i m (key x) (value (key x)) extras
      obtain ⟨r', later, filled⟩ := ih
        (r := (r.call (.method i "putExtra" [.text (key x), value (key x)])).2)
        (doc.putExtra_extras r.state i m (key x) (value (key x)) extras)
        fun y hy r' same => values y (List.mem_cons_of_mem _ hy) r' (same.trans fields)
      refine ⟨r', ?_, filled.fields.trans fields, ?_, fun b n h => ?_, ?_⟩
      · rw [List.map_cons, execAll_cons first]
        exact later
      · rw [filled.extras, Entries.overlay_put]
        rfl
      · exact filled.bundles b n
          (doc.putExtra_entries r.state i m (key x) (value (key x)) b n extras h)
      · obtain ⟨puts, made, calls⟩ := filled.made
        refine ⟨⟨.method i "putExtra" [.text (key x), value (key x)], r.state⟩ :: puts, ?_, ?_⟩
        · rw [made]
          simp [Run.call]
        · intro put hput
          rcases List.mem_cons.mp hput with rfl | hput
          · exact ⟨key x, value (key x), rfl⟩
          · exact calls put hput

theorem Filled.callsOf_eq {i : Value} {entries m : Entries} {r' : Run D} {p : Call → Bool}
    (filled : Filled i entries m r r')
    (other : ∀ key v, p (.method i "putExtra" [.text key, v]) = false) :
    r'.callsOf p = r.callsOf p := by
  obtain ⟨puts, made, calls⟩ := filled.made
  have none : puts.filter (fun made => p made.call) = [] := by
    refine List.filter_eq_nil_iff.mpr fun put hput => ?_
    obtain ⟨key, v, call⟩ := calls put hput
    rw [call, other]
    exact Bool.false_ne_true
  rw [Run.callsOf, made, List.filter_append, none, List.append_nil]
  rfl

/-- **A fresh intent is filled**: after it is declared and filled, it holds the given values and
nothing else, and the runs so far are as they were. -/
theorem execAll_fillFresh (doc : D.Documented runtime) {α : Type} (elements : List α)
    (key : α → String) (e : α → Expr) (value : String → Value) {given : List Expr}
    {vs : List Value} (arguments : evalAll D locals given r = some (vs, r))
    (fresh : locals.lookup Code.intentName = none)
    (values : ∀ x ∈ elements, ∀ i, ∀ r' : Run D, r'.state.fields = r.state.fields →
      eval D ((Code.intentName, i) :: locals) (e x) r' = some (value (key x), r')) :
    ∃ i r', execAll D locals
        (Code.declareIntent given :: elements.map fun x => Code.putExtra (key x) (e x)) r
        = some ((Code.intentName, i) :: locals, r') ∧
      Filled i (.ofKeys (elements.map key) value) .empty r r' := by
  let made := r.create Platform.intent vs
  have kept : D.Keeps r.state made.2.state := doc.create_keeps r.state Platform.intent vs (by simp)
  have blank : D.extras made.2.state.world made.1 = some .empty := doc.create_intent r.state vs
  have declared : exec D locals (Code.declareIntent given) r
      = some ((Code.intentName, made.1) :: locals, made.2) := by
    rw [Code.declareIntent, exec, eval, arguments, Option.map_some, Option.bind_some]
    simp only [fresh]
    rfl
  have intent : ((Code.intentName, made.1) :: locals).lookup Code.intentName = some made.1 :=
    List.lookup_cons_self
  obtain ⟨r', filling, filled⟩ := execAll_puts doc elements key e value intent blank
    fun x hx r' same => values x hx made.1 r' (same.trans kept.fields)
  refine ⟨made.1, r', (execAll_cons declared).trans filling, filled.fields.trans kept.fields,
    filled.extras, fun b n h => filled.bundles b n (kept.entries b n h), filled.made⟩

theorem Filled.extras_fresh {i : Value} {entries : Entries} {r' : Run D}
    (filled : Filled i entries .empty r r') : D.extras r'.state.world i = some entries := by
  rw [filled.extras, Entries.overlay_empty]

end Execution

end Companions
