import Companions.Proofs.Execution.Starting

/-!
Running show callables.

A fragment is shown in an activity that can hold fragments, and nothing happens in any other. Shared
elements that are given by a view are looked up on the way, so a run has a result if these views are
on the screen (`Device.FindsViews`). Nothing on the way touches the extras: `Carries` is kept by
every step, and `run_show` is assembled from the steps.
-/

namespace Companions

namespace Execution

variable {D : Device} {runtime : Runtime} {locals : Locals} {r : Run D}

/-! ### On the way -/

/-- The intent `i` has the extras `m`, and the screens that were started so far are `started`. -/
structure Carries (runtime : Runtime) (i : Value) (m : Entries) (started : List (Made D))
    (r : Run D) : Prop where
  extras : D.extras r.state.world i = some m
  starts : r.callsOf (Call.starts runtime) = started

section Steps

variable {i : Value} {m : Entries} {started : List (Made D)} {total : Prop}

theorem Device.Aside.starts_eq_false {c : Call} (aside : D.Aside c) :
    c.starts runtime = false := by
  cases aside <;> rfl

theorem Carries.call (doc : D.Documented runtime) (carries : Carries runtime i m started r)
    {c : Call} (aside : D.Aside c) : Carries runtime i m started (r.call c).2 where
  extras := doc.aside _ _ _ _ aside carries.extras
  starts := (callsOf_call_eq aside.starts_eq_false).trans carries.starts

theorem Carries.create (doc : D.Documented runtime) (carries : Carries runtime i m started r)
    {cls : ClassName} (plain : cls ∈ [Platform.intent, Platform.arrayList, Platform.pair])
    {arguments : List Value} : Carries runtime i m started (r.create cls arguments).2 where
  extras := (doc.create_keeps r.state cls arguments plain).extras i m carries.extras
  starts := carries.starts

/-- Finding a view. -/
theorem yields_findView (doc : D.Documented runtime) (finds : total → D.FindsViews)
    {root id : Expr} {t v : Value} (target : eval D locals root r = some (t, r))
    (present : total → t ≠ .null) (argument : eval D locals id r = some (v, r))
    (carries : Carries runtime i m started r) :
    Yields total (eval D locals (Draft.findView root id) r) fun out =>
      (total → out.1 ≠ .null) ∧ Carries runtime i m started out.2 := by
  have steps : eval D locals (Draft.findView root id) r
      = if t.isNull then none else some (r.call (.method t "findViewById" [v])) := by
    simp [Draft.findView, eval, evalAll, target, argument]
  rw [steps]
  cases missing : t.isNull with
  | true => exact Yields.none fun h => present h (Value.isNull_eq_true_iff.mp missing)
  | false =>
      exact Yields.some ⟨fun h => (finds h).view _ _ _ (Value.isNull_eq_false_iff.mp missing),
        carries.call doc .view⟩

/-- The name of the source of a shared element. -/
theorem yields_elementSource (doc : D.Documented runtime) {element : SharedElement}
    (needs : Draft.SharedElement.needsContainer element = true →
      (total → D.FindsViews) ∧
        ∃ container, locals.lookup "container" = some container ∧ (total → container ≠ .null))
    (carries : Carries runtime i m started r) :
    Yields total (eval D locals (Draft.elementSource element.source) r) fun out =>
      Carries runtime i m started out.2 := by
  cases source : element.source with
  | name name => exact Yields.some carries
  | id id =>
      obtain ⟨finds, container, bound, present⟩ :=
        needs (by rw [Draft.SharedElement.needsContainer, source])
      have target : eval D locals (.ident "container") r = some (container, r) := by
        rw [eval, bound]
        rfl
      have argument : eval D locals (Code.int id) r = some (.literal (.integer id .int), r) := rfl
      have found := yields_findView doc finds target present argument carries
      have named : Yields total
          (eval D locals (.staticCall Platform.viewCompat "getTransitionName" []
            [Draft.findView (.ident "container") (Code.int id)]) r) fun out =>
          (total → out.1 ≠ .null) ∧ Carries runtime i m started out.2 := by
        rw [eval, evalAll]
        refine Yields.map (found.bind fun view hview => ?_)
        obtain ⟨nonNull, carries⟩ := hview
        exact Yields.some ⟨fun h => (finds h).transitionName _ _ (nonNull h),
          carries.call doc .transitionName⟩
      rw [Draft.elementSource, eval]
      refine named.bind fun out hout => ?_
      obtain ⟨nonNull, carries⟩ := hout
      cases missing : out.1.isNull with
      | true =>
          simp only [missing]
          exact Yields.none fun h => nonNull h (Value.isNull_eq_true_iff.mp missing)
      | false =>
          simp only [missing]
          exact Yields.some carries

/-- Adding one shared element to the list. -/
theorem yields_addElement (doc : D.Documented runtime) {element : SharedElement}
    (needs : Draft.SharedElement.needsContainer element = true →
      (total → D.FindsViews) ∧
        ∃ container, locals.lookup "container" = some container ∧ (total → container ≠ .null))
    {list : Nat} (bound : locals.lookup "sharedElements" = some (.object list))
    (isList : D.isA (.object list) Platform.arrayList = true)
    (carries : Carries runtime i m started r) :
    Yields total (exec D locals (Draft.addElement element) r) fun out =>
      out.1 = locals ∧ Carries runtime i m started out.2 := by
  have named : Yields total (evalAll D locals
      [Draft.elementSource element.source, Code.text element.targetName] r) fun out =>
        Carries runtime i m started out.2 := by
    rw [evalAll]
    exact (yields_elementSource doc needs carries).bind fun _ hsource => Yields.some hsource
  have paired : Yields total (evalAll D locals [.create Platform.pair true
      [Draft.elementSource element.source, Code.text element.targetName]] r) fun out =>
        (∃ pair, out.1 = [pair]) ∧ Carries runtime i m started out.2 := by
    rw [evalAll, eval]
    refine Yields.bind (Yields.map (named.mono fun out hout => ?_)) fun pair hpair =>
      Yields.some ⟨⟨pair.1, rfl⟩, hpair⟩
    exact hout.create doc (by simp)
  have target : eval D locals (.ident "sharedElements") r = some (.object list, r) := by
    rw [eval, bound]
    rfl
  rw [Draft.addElement, exec, eval, target, Option.bind_some]
  refine Yields.map (paired.bind fun out hout => ?_)
  obtain ⟨vs, r'⟩ := out
  obtain ⟨⟨pair, single⟩, carries⟩ := hout
  obtain rfl : vs = [pair] := single
  exact Yields.some ⟨rfl, carries.call doc (.element isList)⟩

/-- Adding all of them, one after the other. -/
theorem yields_addElements (doc : D.Documented runtime) {elements : List SharedElement}
    (needs : ∀ element ∈ elements, Draft.SharedElement.needsContainer element = true →
      (total → D.FindsViews) ∧
        ∃ container, locals.lookup "container" = some container ∧ (total → container ≠ .null))
    {list : Nat} (bound : locals.lookup "sharedElements" = some (.object list))
    (isList : D.isA (.object list) Platform.arrayList = true)
    (carries : Carries runtime i m started r) :
    Yields total (execAll D locals (elements.map Draft.addElement) r) fun out =>
      out.1 = locals ∧ Carries runtime i m started out.2 := by
  induction elements generalizing r with
  | nil => exact Yields.some ⟨rfl, carries⟩
  | cons element rest ih =>
      have first := yields_addElement doc (needs element List.mem_cons_self) bound isList carries
      rw [List.map_cons, execAll]
      refine first.bind fun out hout => ?_
      obtain ⟨next, r'⟩ := out
      obtain ⟨rfl, carries⟩ := hout
      exact ih (fun other h => needs other (List.mem_cons_of_mem _ h)) carries

/-- The container is looked up if one of the elements needs it. -/
theorem yields_declareContainer (doc : D.Documented runtime) {elements : List SharedElement}
    (finds : elements.any Draft.SharedElement.needsContainer = true → total → D.FindsViews)
    {activity id : Value} (receiver : locals.lookup "activity" = some activity)
    (present : activity ≠ .null) (place : locals.lookup "containerId" = some id)
    (unbound : locals.lookup "container" = none)
    (carries : Carries runtime i m started r) :
    Yields total (execAll D locals
        (if elements.any Draft.SharedElement.needsContainer then
          [.declare "container" true (.ofClass Platform.view)
            (Draft.findView Draft.activity Draft.containerId)] else []) r) fun out =>
      (elements.any Draft.SharedElement.needsContainer = true →
        ∃ container, out.1.lookup "container" = some container ∧ (total → container ≠ .null)) ∧
      (∀ name, name ≠ "container" → out.1.lookup name = locals.lookup name) ∧
      Carries runtime i m started out.2 := by
  cases needed : elements.any Draft.SharedElement.needsContainer with
  | false => exact Yields.some ⟨nofun, fun _ _ => rfl, carries⟩
  | true =>
      have root : eval D locals Draft.activity r = some (activity, r) := by
        rw [Draft.activity, eval, receiver]
        rfl
      have argument : eval D locals Draft.containerId r = some (id, r) := by
        rw [Draft.containerId, eval, place]
        rfl
      have found := yields_findView doc (finds needed) root (fun _ => present) argument carries
      rw [if_pos rfl, execAll_singleton, exec]
      refine found.bind fun out hout => ?_
      simp only [unbound]
      exact Yields.some ⟨fun _ => ⟨out.1, List.lookup_cons_self, hout.1⟩,
        fun name other => Locals.lookup_cons_ne other, hout.2⟩

/-- The list of shared elements is filled. No name but its own and the container's is declared. -/
theorem yields_collectElements (doc : D.Documented runtime) {elements : List SharedElement}
    (finds : elements.any Draft.SharedElement.needsContainer = true → total → D.FindsViews)
    {activity id : Value} (receiver : locals.lookup "activity" = some activity)
    (present : activity ≠ .null) (place : locals.lookup "containerId" = some id)
    (noList : locals.lookup "sharedElements" = none)
    (noContainer : locals.lookup "container" = none)
    (carries : Carries runtime i m started r) :
    Yields total (execAll D locals (Draft.collectElements elements) r) fun out =>
      (elements.isEmpty = false → (out.1.lookup "sharedElements").isSome = true) ∧
      (∀ name, name ≠ "sharedElements" → name ≠ "container" →
        out.1.lookup name = locals.lookup name) ∧
      Carries runtime i m started out.2 := by
  unfold Draft.collectElements
  cases empty : elements.isEmpty with
  | true => exact Yields.some ⟨nofun, fun _ _ _ => rfl, carries⟩
  | false =>
      let list := (D.create r.state Platform.arrayList []).1
      let r₁ := (r.create Platform.arrayList []).2
      let locals₁ : Locals := ("sharedElements", .object list) :: locals
      have isList : D.isA (.object list) Platform.arrayList = true := doc.create_isA r.state []
      have carries₁ : Carries runtime i m started r₁ := carries.create doc (by simp)
      have listed : exec D locals (.declare "sharedElements" true Platform.sharedElementList
          (.create Platform.arrayList true [])) r = some (locals₁, r₁) := by
        rw [exec, eval, evalAll, Option.map_some, Option.bind_some]
        simp only [noList]
        rfl
      have receiver₁ : locals₁.lookup "activity" = some activity := receiver
      have place₁ : locals₁.lookup "containerId" = some id := place
      have noContainer₁ : locals₁.lookup "container" = none := noContainer
      rw [if_neg Bool.false_ne_true, List.append_assoc, List.singleton_append, execAll_cons listed,
        execAll_append]
      refine (yields_declareContainer doc finds receiver₁ present place₁ noContainer₁
        carries₁).bind fun out hout => ?_
      obtain ⟨locals₂, r₂⟩ := out
      obtain ⟨container, others, carries₂⟩ := hout
      have bound : locals₂.lookup "sharedElements" = some (.object list) :=
        (others "sharedElements" (by decide)).trans List.lookup_cons_self
      have needs : ∀ element ∈ elements, Draft.SharedElement.needsContainer element = true →
          (total → D.FindsViews) ∧
            ∃ view, locals₂.lookup "container" = some view ∧ (total → view ≠ .null) := by
        intro element helement needed
        have some := List.any_eq_true.mpr ⟨element, helement, needed⟩
        exact ⟨finds some, container some⟩
      refine (yields_addElements doc needs bound isList carries₂).mono fun out hout => ?_
      obtain ⟨same, carries⟩ := hout
      rw [same]
      refine ⟨fun _ => bound ▸ rfl, fun name notList notContainer => ?_, carries⟩
      exact (others name notContainer).trans (Locals.lookup_cons_ne notList)

end Steps

/-! ### Fragments -/

/-- A screen was started since, and the bundle handed over holds `m`. -/
def ShownWith (runtime : Runtime) (m : Entries) (started : List (Made D)) (r : Run D) : Prop :=
  ∃ shown : Made D, r.callsOf (Call.starts runtime) = started ++ [shown] ∧ shown.handedOver = m

/-- The call that shows the fragment hands over a bundle with the extras of the intent. -/
theorem exec_showFragment {owner : Owner} (doc : D.Documented owner.runtime)
    {started : List (Made D)} {m : Entries} {i activity id list : Value} {elements : Expr}
    (receiver : locals.lookup "activity" = some activity)
    (holds : D.isA activity Platform.fragmentActivity = true)
    (place : locals.lookup "containerId" = some id)
    (intent : locals.lookup Code.intentName = some i)
    (shared : ∀ r : Run D, eval D locals elements r = some (list, r))
    (carries : Carries owner.runtime i m started r) :
    ∃ r', exec D locals (.run (.singletonCall owner.runtime.fragmentBuilder "showFragment" []
        [.cast Platform.fragmentActivity Draft.activity, Draft.containerId, Code.intentExtras,
          .classLiteral owner.target.cls, elements])) r = some (locals, r') ∧
      ShownWith owner.runtime m started r' := by
  have held := Value.isNull_eq_false_iff.mpr (doc.ne_null_of_extras carries.extras)
  let read := r.call (.getter i "extras")
  let shows : Call := .singleton owner.runtime.fragmentBuilder "showFragment"
    [activity, id, read.1, .classObject owner.target.cls, list]
  refine ⟨(read.2.call shows).2, ?_, ⟨shows, read.2.state⟩, ?_, ?_⟩
  · simp [Draft.activity, Draft.containerId, Code.intentExtras, Code.intent, exec, eval, evalAll,
      receiver, holds, place, intent, held, shared, read, shows]
  · rw [callsOf_call (by simp [Call.starts, shows]), callsOf_call_eq rfl, carries.starts]
  · show (D.entries read.2.state.world read.1).getD .empty = m
    rcases doc.extras_entries r.state i m carries.extras with stored | ⟨rfl, missing⟩
    · rw [show D.entries read.2.state.world read.1 = some m from stored]
      rfl
    · rw [show read.1 = .null from missing, doc.entries_null]
      rfl

/-- The launch of a fragment shows it, if the activity can hold fragments, and does nothing
otherwise. -/
theorem yields_launchFragment {owner : Owner} (doc : D.Documented owner.runtime)
    {started : List (Made D)} {m : Entries} {i activity id : Value}
    (receiver : locals.lookup "activity" = some activity) (present : activity ≠ .null)
    (place : locals.lookup "containerId" = some id)
    (intent : locals.lookup Code.intentName = some i)
    (noList : locals.lookup "sharedElements" = none)
    (noContainer : locals.lookup "container" = none)
    (carries : Carries owner.runtime i m started r) :
    Yields (owner.target.sharedElements.any Draft.SharedElement.needsContainer = true →
        D.FindsViews) (exec D locals (Draft.launchFragment owner) r) fun out =>
      out.1 = locals ∧
        if D.isA activity Platform.fragmentActivity then ShownWith owner.runtime m started out.2
        else out.2.callsOf (Call.starts owner.runtime) = started := by
  have nonNull := Value.isNull_eq_false_iff.mpr present
  have tested : test D locals (.instanceOf Draft.activity Platform.fragmentActivity) r
      = some (D.isA activity Platform.fragmentActivity, r) := by
    simp [test, Draft.activity, eval, receiver, nonNull]
  rw [Draft.launchFragment, exec, tested, Option.bind_some]
  cases holds : D.isA activity Platform.fragmentActivity with
  | false => exact Yields.some ⟨rfl, carries.starts⟩
  | true =>
      refine Yields.map ?_
      simp only [if_pos]
      rw [execAll_append]
      refine (yields_collectElements doc (fun needed finds => finds needed) receiver present place
        noList noContainer carries).bind fun out hout => ?_
      obtain ⟨locals', r'⟩ := out
      obtain ⟨list, others, carries⟩ := hout
      have shared : ∃ value, ∀ r : Run D, eval D locals'
          (if owner.target.sharedElements.isEmpty then .literal .null
            else .ident "sharedElements") r = some (value, r) := by
        cases empty : owner.target.sharedElements.isEmpty with
        | true => exact ⟨.null, fun _ => rfl⟩
        | false =>
            obtain ⟨value, bound⟩ := Option.isSome_iff_exists.mp (list empty)
            exact ⟨value, fun r => by simp [eval, bound]⟩
      obtain ⟨value, shared⟩ := shared
      obtain ⟨shown, run, carried⟩ := exec_showFragment doc
        ((others "activity" (by decide) (by decide)).trans receiver) holds
        ((others "containerId" (by decide) (by decide)).trans place)
        ((others Code.intentName (by decide) (by decide)).trans intent) shared carries
      exact Yields.of_eq (execAll_singleton.trans run) ⟨trivial, carried⟩

/-- **A show callable shows the fragment exactly once, or not at all.** In an activity that can hold
fragments it makes one call that shows the fragment, and the bundle handed over holds the arguments
of the visited fields and nothing else; in any other activity it makes none. The run has a result
unless a view of a shared element is not on the screen. -/
theorem run_show {owner : Owner} (doc : D.Documented owner.runtime)
    (fragment : owner.target.kind = .fragment) {contract : Option Contract} (name : String)
    {fields : List Field} {arguments : String → Value} (distinct : (fields.map (·.name)).Nodup)
    (apart : ListenerApart contract fields) (activity : arguments "activity" ≠ .null)
    (s : State D.World) :
    Yields (owner.target.sharedElements.any Draft.SharedElement.needsContainer = true →
        D.FindsViews) (run D (Draft.finished owner contract name fields) arguments s) fun r =>
      if D.isA (arguments "activity") Platform.fragmentActivity then
        ShownWith owner.runtime (.ofKeys (fields.map (·.name)) arguments) [] r
      else r.callsOf (Call.starts owner.runtime) = [] := by
  let own : Locals := .of (Draft.finished owner contract name fields).parameters arguments
  have preamble : ∀ parameter, parameter = "activity" ∨ parameter = "containerId" →
      own.lookup parameter = some (arguments parameter) := by
    intro parameter h
    refine lookup_finished_preamble ?_
    rw [fragment]
    rcases h with rfl | rfl <;> simp [Draft.preambleParameters]
  have fresh : ∀ binding, binding ∈ ["intent", "sharedElements", "container"] →
      own.lookup binding = none := by
    intro binding h
    refine lookup_finished_eq_none apart ?_ ?_
    · revert binding
      decide
    · rw [fragment]
      revert binding
      decide
  have intentFresh : own.lookup Code.intentName = none := fresh _ (by simp [Code.intentName])
  obtain ⟨i, filled, prologue, extras, quiet⟩ := execAll_prologue (r := ⟨s, []⟩) doc
    (by rw [fragment, receiverName, preamble _ (.inl rfl)]; rfl) intentFresh
    fun f hf => (lookup_finished_field hf : own.lookup f.name = some (arguments f.name))
  let filling : Locals := (Code.intentName, i) :: own
  have carries : Carries owner.runtime i (.ofKeys (fields.map (·.name)) arguments) [] filled :=
    ⟨extras, quiet⟩
  have receiver : filling.lookup "activity" = some (arguments "activity") :=
    preamble "activity" (.inl rfl)
  have place : filling.lookup "containerId" = some (arguments "containerId") :=
    preamble "containerId" (.inr rfl)
  have intent : filling.lookup Code.intentName = some i := List.lookup_cons_self
  have noList : filling.lookup "sharedElements" = none := fresh "sharedElements" (by simp)
  have noContainer : filling.lookup "container" = none := fresh "container" (by simp)
  have launch := yields_launchFragment doc receiver activity place intent noList noContainer carries
  rw [run_finished distinct apart prologue, Draft.closingBody, fragment, execAll]
  refine Yields.map (launch.bind fun out hout => ?_)
  obtain ⟨locals', launched⟩ := out
  obtain ⟨-, started⟩ := hout
  have injected : execAll D locals' [Draft.onActivityBuilder owner "inject" []] launched
      = some (locals', (launched.call (.singleton owner.runtime.activityBuilder "inject" [])).2) :=
    rfl
  have same : (launched.call (.singleton owner.runtime.activityBuilder "inject" [])).2.callsOf
      (Call.starts owner.runtime) = launched.callsOf (Call.starts owner.runtime) :=
    callsOf_call_eq rfl
  refine Yields.of_eq injected ?_
  unfold ShownWith at started ⊢
  rw [same]
  exact started

end Execution

end Companions
