import Companions.Proofs.Constants

/-!
The keys in use.

A companion lists the keys of its screen in six places, each written by itself: the constants, the
start callables, `inject`, `saveState`, `finishWithResult` and the callback of the start callables.
Which keys a body deals with is read off all of its code, listeners included, as the expressions
that stand in the place of a key (`Callable.accesses`); so a key that is no plain text would show,
and so would a call that nobody expects.

`Assembly.generate_keys` says that all six list the same keys, in the same order and under their
role.
-/

namespace Companions

/-! ### Keys in code -/

/-- Where code deals with a key. -/
inductive Access where
  /-- A value is put under the key. -/
  | put (into key : Expr)
  /-- The value under the key is taken out of a bundle. -/
  | take (bundle key : Expr)

/-- The access that an expression is by itself. -/
def Expr.access? : Expr → Option Access
  | .call target "putExtra" _ (key :: _) => some (.put target key)
  | .singletonCall _ "get" _ (bundle :: key :: _) => some (.take bundle key)
  | _ => none

mutual

/-- Every access in an expression, in the order of the text. -/
def Expr.accesses : Expr → List Access
  | .ident _ => []
  | .literal _ => []
  | .classLiteral _ => []
  | .create _ _ arguments => Expr.accessesOf arguments
  | .cast _ operand => Expr.accesses operand
  | .call target method types arguments =>
    (Expr.call target method types arguments).access?.toList ++ Expr.accesses target
      ++ Expr.accessesOf arguments
  | .property target _ => Expr.accesses target
  | .field target _ => Expr.accesses target
  | .staticCall _ _ _ arguments => Expr.accessesOf arguments
  | .singletonCall object method types arguments =>
    (Expr.singletonCall object method types arguments).access?.toList ++ Expr.accessesOf arguments
  | .staticField _ _ => []
  | .conditional condition yes no =>
    Condition.accesses condition ++ Expr.accesses yes ++ Expr.accesses no
  | .nonNull operand => Expr.accesses operand
  | .listener _ _ _ body => Statement.accessesOf body

/-- Every access in the expressions of a list. -/
def Expr.accessesOf : List Expr → List Access
  | [] => []
  | e :: rest => Expr.accesses e ++ Expr.accessesOf rest

/-- Every access in a test. -/
def Condition.accesses : Condition → List Access
  | .instanceOf operand _ => Expr.accesses operand
  | .isNull operand => Expr.accesses operand
  | .notNull operand => Expr.accesses operand
  | .equal left right => Expr.accesses left ++ Expr.accesses right

/-- Every access in a statement. -/
def Statement.accesses : Statement → List Access
  | .run e => Expr.accesses e
  | .declare _ _ _ init => Expr.accesses init
  | .assign target value => Expr.accesses target ++ Expr.accesses value
  | .branch condition yes no =>
    Condition.accesses condition ++ Statement.accessesOf yes ++ Statement.accessesOf no

/-- Every access in the statements of a list. -/
def Statement.accessesOf : List Statement → List Access
  | [] => []
  | s :: rest => Statement.accesses s ++ Statement.accessesOf rest

end

/-- Every access of a callable. -/
def Callable.accesses (c : Callable) : List Access :=
  Statement.accessesOf c.body

namespace Access

/-- Values are put into the intent under these keys. -/
def puts (keys : List String) : List Access :=
  keys.map fun key => .put Code.intent (Code.text key)

/-- The values under these keys are taken out of a bundle. -/
def takes (bundle : String) (keys : List String) : List Access :=
  keys.map fun key => .take (.ident bundle) (Code.text key)

end Access

open Access (puts takes)

section Lists

variable {α : Type} {items : List α} {key : α → String}

theorem Statement.accessesOf_append {body more : List Statement} :
    Statement.accessesOf (body ++ more)
      = Statement.accessesOf body ++ Statement.accessesOf more := by
  induction body with
  | nil => rfl
  | cons s rest ih => rw [List.cons_append, accessesOf, accessesOf, ih, List.append_assoc]

/-- Statements of one shape that have no access have none together. -/
theorem Statement.accessesOf_map_eq_nil {write : α → Statement}
    (none : ∀ item, (write item).accesses = []) : accessesOf (items.map write) = [] := by
  induction items with
  | nil => rfl
  | cons item rest ih => rw [List.map_cons, accessesOf, none, ih, List.append_nil]

/-- Statements that each put one value. -/
theorem Statement.accessesOf_map_eq_puts {write : α → Statement}
    (put : ∀ item, (write item).accesses = puts [key item]) :
    accessesOf (items.map write) = puts (items.map key) := by
  induction items with
  | nil => rfl
  | cons item rest ih => rw [List.map_cons, accessesOf, put, ih]; rfl

/-- Statements that each take out one value. -/
theorem Statement.accessesOf_flatMap_eq_takes {write : α → List Statement} {bundle : String}
    (take : ∀ item, accessesOf (write item) = takes bundle [key item]) :
    accessesOf (items.flatMap write) = takes bundle (items.map key) := by
  induction items with
  | nil => rfl
  | cons item rest ih => rw [List.flatMap_cons, accessesOf_append, take, ih]; rfl

/-- Expressions that each take out one value. -/
theorem Expr.accessesOf_map_eq_takes {write : α → Expr} {bundle : String}
    (take : ∀ item, (write item).accesses = takes bundle [key item]) :
    accessesOf (items.map write) = takes bundle (items.map key) := by
  induction items with
  | nil => rfl
  | cons item rest ih => rw [List.map_cons, accessesOf, take, ih]; rfl

end Lists

/-! ### Results -/

namespace Result

variable {owner : Owner} {runtime : Runtime} {k : Contract}

/-- The callback takes out every value that is handed back, in order. -/
theorem accesses_callback :
    (callback runtime k).accesses = takes "data" (k.results.map (·.name)) := by
  have reading : Expr.accessesOf (k.results.map (read runtime))
      = takes "data" (k.results.map (·.name)) := by
    refine Expr.accessesOf_map_eq_takes fun r => ?_
    unfold read
    split <;> rfl
  simp [callback, Contract.method, Expr.accesses, Expr.access?, Statement.accessesOf,
    Statement.accesses, Condition.accesses, reading]

/-- Handing back puts every value, in order. -/
theorem accesses_finishWithResult :
    (finishWithResult owner k).accesses = puts (k.results.map (·.name)) := by
  have putting : Statement.accessesOf (k.results.map fun r => Code.putExtra r.name (.ident r.name))
      = puts (k.results.map (·.name)) :=
    Statement.accessesOf_map_eq_puts fun _ => rfl
  rw [Callable.accesses, finishWithResult, List.cons_append, Statement.accessesOf,
    Statement.accessesOf_append, putting]
  exact List.append_nil _

end Result

/-! ### Start callables -/

namespace Draft

variable {owner : Owner} {contract : Option Contract} {name : String} {fields : List Field}

theorem accessesOf_collectElements {elements : List SharedElement} :
    Statement.accessesOf (collectElements elements) = [] := by
  have adding : Statement.accessesOf (elements.map addElement) = [] := by
    refine Statement.accessesOf_map_eq_nil fun element => ?_
    unfold addElement elementSource
    cases element.source <;> rfl
  unfold collectElements
  split
  · rfl
  · rw [Statement.accessesOf_append, Statement.accessesOf_append, adding, List.append_nil]
    split <;> rfl

/-- The launch puts nothing; the callback of a contract takes out what is handed back. -/
theorem accessesOf_closingBody : Statement.accessesOf (closingBody owner contract)
    = match owner.target.kind with
      | .activity => takes "data" ((contract.toList.flatMap Contract.results).map (·.name))
      | .fragment => [] := by
  unfold closingBody
  cases owner.target.kind with
  | activity =>
      cases contract with
      | none => rfl
      | some k =>
          simp only [launchActivity, startFromActivity, onActivityBuilder, Statement.accessesOf,
            Statement.accesses, Condition.accesses, Expr.accesses, Expr.accessesOf, Expr.access?,
            Result.accesses_callback]
          simp [context, Code.intent, Code.int, Expr.accesses]
  | fragment =>
      simp only [launchFragment, onActivityBuilder, Statement.accessesOf, Statement.accesses,
        Statement.accessesOf_append, accessesOf_collectElements]
      split <;> rfl

/-- A start callable puts the fields that it takes, in order. -/
theorem accesses_finished : (finished owner contract name fields).accesses
    = puts (fields.map (·.name)) ++ Statement.accessesOf (closingBody owner contract) := by
  have preamble : Statement.accessesOf (preambleBody owner) = [] := by
    unfold preambleBody
    cases owner.target.kind <;> rfl
  have putting : Statement.accessesOf (fields.map putField) = puts (fields.map (·.name)) :=
    Statement.accessesOf_map_eq_puts fun _ => rfl
  rw [Callable.accesses, finished, Statement.accessesOf_append, Statement.accessesOf_append,
    preamble, putting, List.nil_append]

end Draft

/-! ### State callables -/

namespace SavedState

variable {owner : Owner} {fields : List Field}

/-- Binding takes out every field, in order. -/
theorem accesses_inject :
    (inject owner fields).accesses = takes "extras" (fields.map (·.name)) := by
  have reading : Statement.accessesOf (fields.flatMap (readField owner.runtime))
      = takes "extras" (fields.map (·.name)) := by
    refine Statement.accessesOf_flatMap_eq_takes fun f => ?_
    unfold readField
    cases f.default <;> rfl
  have fresh : (freshExtras owner.target.kind).accesses = [] := by
    cases owner.target.kind <;> rfl
  have guarding : Statement.accessesOf (if fields.isEmpty then []
        else [Statement.branch (.notNull (.ident "extras"))
          (fields.flatMap (readField owner.runtime)) []])
      = takes "extras" (fields.map (·.name)) := by
    rw [← reading]
    split
    · rename_i empty
      rw [List.isEmpty_iff.mp empty]
      rfl
    · simp [Statement.accessesOf, Statement.accesses, Condition.accesses, Expr.accesses]
  simp only [Callable.accesses, inject, guarded, Statement.accessesOf, Statement.accesses,
    Condition.accesses, Expr.accesses, fresh, guarding, List.nil_append, List.append_nil]

/-- Saving puts every field, in order. -/
theorem accesses_saveState : (saveState owner fields).accesses = puts (fields.map (·.name)) := by
  have putting : Statement.accessesOf
      (fields.map fun f => Code.putExtra f.name (.field typedInstance f.name))
        = puts (fields.map (·.name)) :=
    Statement.accessesOf_map_eq_puts fun _ => rfl
  simp [Callable.accesses, saveState, guarded, Statement.accessesOf, Statement.accesses,
    Condition.accesses, Expr.accesses, Expr.accessesOf, Expr.access?,
    Statement.accessesOf_append, putting, Code.declareIntent, Code.intentExtras, Code.intent]

end SavedState

/-! ### Constants and bodies -/

namespace Assembly

variable {settings : Settings} {target : Target} {fields : List Field} {a : Assembly}
  {c : Companion}

/-- The closing of a start callable takes out the values that are handed back. -/
theorem Reached.accessesOf_closingBody (reached : Reached settings target fields a) :
    Statement.accessesOf (Draft.closingBody a.owner a.contract)
      = takes "data" (target.handedBack.map (·.name)) := by
  rw [Draft.accessesOf_closingBody, reached.owner_eq, ← reached.results_eq]
  cases kind : target.kind with
  | activity => rfl
  | fragment =>
      have contract := reached.contract_eq
      rw [kind] at contract
      rw [show a.contract = none from contract]
      rfl

/-- **Constants name the keys in use.** The constants of a companion are those of the required
fields, in order, of the optional ones, and of the values that are handed back. The full callable
takes exactly these fields, in this order, and puts each under its key; `inject` takes out exactly
these keys, and `saveState` puts them; every other start callable puts some of them, none twice. A
companion hands back values if there are any, puts exactly their keys, and every callback takes out
exactly these. No body deals with any other key. -/
theorem generate_keys (reached : Reached settings target fields a)
    (generated : a.generate = .ok c) :
    let required := Field.inOrder (fields.filter (·.required))
    let optional := Field.inOrder (fields.filter (!·.required))
    let keys := (required ++ optional).map (·.name)
    let results := target.handedBack.map (·.name)
    c.constants.map (·.value) = keys ++ results ∧
      c.constants.map (·.name)
        = required.map (Naming.constantName "REQUIRED_" ·.name)
          ++ optional.map (Naming.constantName "OPTIONAL_" ·.name)
          ++ results.map (Naming.constantName "RESULT_") ∧
      c.full.parameters = Draft.preambleParameters target.kind
        ++ (required ++ optional).map Draft.fieldParameter
        ++ a.contract.toList.map Contract.listenerParameter ∧
      c.full.accesses = puts keys ++ takes "data" results ∧
      c.inject.accesses = takes "extras" keys ∧
      c.saveState.accesses = puts keys ∧
      (c.finishWithResult.isSome = true ↔ results ≠ []) ∧
      (∀ finish ∈ c.finishWithResult, finish.accesses = puts results) ∧
      ∀ callable ∈ c.startFamily, ∃ chosen : List String, chosen.Subperm keys ∧ chosen.Nodup ∧
        callable.accesses = puts chosen ++ takes "data" results := by
  intro required optional keys results
  have sorted : a.fields = required ++ optional := by
    rw [Assembly.fields, reached.required_eq, reached.optional_eq]
  have closing := reached.accessesOf_closingBody
  have family := reached.startFamily_of_generate generated
  have constants : c.constants = a.constants := by
    obtain ⟨rfl, -⟩ := generate_eq_ok_iff.mp generated
    rfl
  have full : c.full = a.member (a.kind.fullName, a.optional.toList) := by
    obtain ⟨rfl, -⟩ := generate_eq_ok_iff.mp generated
    rfl
  have finish : c.finishWithResult = a.contract.map (Result.finishWithResult a.owner) := by
    obtain ⟨rfl, -⟩ := generate_eq_ok_iff.mp generated
    rfl
  refine ⟨?_, ?_, ?_, ?_, ?_, ?_, ?_, ?_, ?_⟩
  · rw [constants, reached.constants_eq]
    simp only [List.map_append, values_constantsFor, keys, results, required, optional]
  · rw [constants, reached.constants_eq]
    simp only [List.map_append, names_constantsFor, List.map_map, results, required, optional]
    rfl
  · rw [full, member, Draft.finished, reached.closingParameters_eq, reached.owner_eq,
      ← Assembly.fields, sorted]
  · rw [full, member, Draft.accesses_finished, closing, ← Assembly.fields, sorted]
  · rw [reached.inject_of_generate generated, SavedState.accesses_inject, sorted]
  · rw [reached.saveState_of_generate generated, SavedState.accesses_saveState, sorted]
  · rw [finish, Option.isSome_map, Option.isSome_iff_exists, reached.exists_contract_iff]
    unfold results Target.handedBack
    cases target.kind <;> simp
  · intro callable member
    rw [finish] at member
    obtain ⟨k, contract, rfl⟩ := Option.map_eq_some_iff.mp member
    have handed := reached.results_eq
    rw [contract, Option.toList_some, List.flatMap_singleton] at handed
    rw [Result.accesses_finishWithResult, handed]
  · intro callable hcallable
    rw [family] at hcallable
    obtain ⟨choice, hchoice, rfl⟩ := List.mem_map.mp hcallable
    have chosen : choice.2.Subperm optional := by
      have chosen := Kind.subperm_of_mem_choices hchoice
      rwa [reached.optional_eq] at chosen
    have taken : (required ++ choice.2).Subperm (required ++ optional) :=
      (List.Subperm.refl _).append chosen
    have distinct : keys.Nodup := by
      have same : (required ++ optional).Perm fields := sorted ▸ reached.fields_perm
      exact (same.map _).nodup_iff.mpr reached.names_nodup
    obtain ⟨part, perm, sublist⟩ := taken
    refine ⟨(required ++ choice.2).map (·.name), ⟨_, perm.map _, sublist.map _⟩,
      (perm.map _).nodup_iff.mp ((sublist.map _).nodup distinct), ?_⟩
    rw [member, Draft.accesses_finished, closing, reached.required_eq]

/-- The editor has four keys, and two for what it hands back. -/
theorem generate_keys_editor :
    ∃ a c, Reached {} editor editorFields a ∧ a.generate = .ok c ∧
      c.constants.map (·.value) = ["id", "draft", "title", "tags", "status", "count"] ∧
      c.saveState.accesses = puts ["id", "draft", "title", "tags"] := by
  obtain ⟨a, c, reached, generated, values⟩ : ∃ a c, Reached {} editor editorFields a ∧
      a.generate = .ok c ∧
      c.constants.map (·.value) = ["id", "draft", "title", "tags"] ++ ["status", "count"] :=
    exists_generated (by decide +kernel)
  obtain ⟨listed, -, -, -, -, saved, -⟩ := generate_keys reached generated
  have keys := List.append_cancel_right (listed.symm.trans values)
  exact ⟨a, c, reached, generated, values, saved.trans (congrArg puts keys)⟩

end Assembly

end Companions
