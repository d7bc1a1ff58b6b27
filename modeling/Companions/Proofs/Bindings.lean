import Companions.Proofs.Contract
import Companions.Proofs.Execution.Binding
import Companions.Proofs.Execution.Starting
import Companions.Proofs.Start.Family

/-!
The names that a callable binds.

A callable binds its parameters and the locals that its body declares in any block; what an
anonymous listener declares is its own. `Callable.bindings` lists the names. Java takes no callable
that binds one of them twice, and in Kotlin a local would hide the parameter of its name.

A start callable is written around reserved names, which no field has. The listener of a contract is
the exception: its name goes after the screen, so a field may have it, and then the callable takes
two parameters of one name (`Draft.bindings_finished_nodup_iff`). `Assembly.generate_binds` says
this of a whole companion. Its state callables never bind a name twice
(`SavedState.bindings_inject_nodup`, `SavedState.bindings_saveState`).
-/

namespace Companions

/-! ### Locals -/

mutual

/-- The locals that a statement declares, in all of its blocks. -/
def Statement.locals : Statement → List String
  | .run _ => []
  | .declare name _ _ _ => [name]
  | .assign _ _ => []
  | .branch _ yes no => Statement.localsOf yes ++ Statement.localsOf no

/-- The locals that the statements of a list declare. -/
def Statement.localsOf : List Statement → List String
  | [] => []
  | s :: rest => Statement.locals s ++ Statement.localsOf rest

end

namespace Statement

theorem localsOf_append {body more : List Statement} :
    localsOf (body ++ more) = localsOf body ++ localsOf more := by
  induction body with
  | nil => rfl
  | cons s rest ih => rw [List.cons_append, localsOf, localsOf, ih, List.append_assoc]

/-- Statements of one shape that declares nothing declare nothing together. -/
theorem localsOf_map_eq_nil {α : Type} {write : α → Statement} {items : List α}
    (none : ∀ item, (write item).locals = []) : localsOf (items.map write) = [] := by
  induction items with
  | nil => rfl
  | cons item rest ih => rw [List.map_cons, localsOf, none, ih, List.append_nil]

end Statement

namespace Callable

/-- The locals that a callable declares. -/
def locals (c : Callable) : List String :=
  Statement.localsOf c.body

/-- Every name that a callable binds: its parameters, then its locals. -/
def bindings (c : Callable) : List String :=
  c.parameters.map (·.name) ++ c.locals

end Callable

/-! ### Start callables -/

namespace Draft

variable {owner : Owner} {contract : Option Contract} {name : String} {fields : List Field}

/-- The locals that the launch of a fragment needs for its shared elements. -/
def elementLocals (elements : List SharedElement) : List String :=
  if elements.isEmpty then []
  else "sharedElements" :: if elements.any SharedElement.needsContainer then ["container"] else []

/-- The locals of a start callable. -/
def startLocals (target : Target) : List String :=
  Code.intentName :: match target.kind with
    | .activity => []
    | .fragment => elementLocals target.sharedElements

theorem localsOf_collectElements {elements : List SharedElement} :
    Statement.localsOf (collectElements elements) = elementLocals elements := by
  have adding : Statement.localsOf (elements.map addElement) = [] :=
    Statement.localsOf_map_eq_nil fun _ => rfl
  unfold collectElements elementLocals
  split
  · rfl
  · rw [Statement.localsOf_append, Statement.localsOf_append, adding, List.append_nil]
    split <;> rfl

theorem localsOf_closingBody :
    Statement.localsOf (closingBody owner contract) = match owner.target.kind with
      | .activity => []
      | .fragment => elementLocals owner.target.sharedElements := by
  unfold closingBody
  cases owner.target.kind with
  | activity =>
      cases contract <;> rfl
  | fragment =>
      simp only [launchFragment, Statement.localsOf, Statement.locals, onActivityBuilder,
        Statement.localsOf_append, localsOf_collectElements, List.append_nil]

/-- A start callable declares the intent, and what shared elements need. -/
theorem locals_finished :
    (finished owner contract name fields).locals = startLocals owner.target := by
  have preamble : Statement.localsOf (preambleBody owner) = [Code.intentName] := by
    unfold preambleBody
    cases owner.target.kind <;> rfl
  have putting : Statement.localsOf (fields.map putField) = [] :=
    Statement.localsOf_map_eq_nil fun _ => rfl
  unfold Callable.locals finished startLocals
  rw [Statement.localsOf_append, Statement.localsOf_append, preamble, putting,
    localsOf_closingBody]
  rfl

/-- What a start callable binds by itself: its preamble and its locals. -/
def ownNames (target : Target) : List String :=
  (preambleParameters target.kind).map (·.name) ++ startLocals target

theorem ownNames_sublist {target : Target} :
    (ownNames target).Sublist
      ["context", "activity", "containerId", "intent", "sharedElements", "container"] := by
  have elements : (elementLocals target.sharedElements).Sublist
      ["sharedElements", "container"] := by
    unfold elementLocals
    split
    · exact List.nil_sublist _
    · split
      · exact List.Sublist.refl _
      · exact (List.nil_sublist _).cons_cons _
  unfold ownNames startLocals
  cases target.kind with
  | activity => exact ((((List.nil_sublist _).cons_cons _).cons _).cons _).cons_cons _
  | fragment =>
      exact (((elements.cons_cons _).cons_cons _).cons_cons _).cons _

theorem ownNames_nodup {target : Target} : (ownNames target).Nodup :=
  ownNames_sublist.nodup (by decide)

theorem mem_reserved_of_mem_ownNames {target : Target} {name : String}
    (h : name ∈ ownNames target) : name ∈ Naming.reservedBindings := by
  have inside : ["context", "activity", "containerId", "intent", "sharedElements", "container"]
      ⊆ Naming.reservedBindings := by decide
  exact inside (ownNames_sublist.subset h)

/-- The names of the fields and of the listener stand between a callable's own names. -/
theorem bindings_finished_perm :
    (finished owner contract name fields).bindings.Perm
      (ownNames owner.target
        ++ (fields.map (·.name) ++ (closingParameters owner contract).map (·.name))) := by
  rw [Callable.bindings, Execution.names_finished, locals_finished, ownNames]
  simp only [List.append_assoc]
  refine List.Perm.append_left _ ?_
  rw [← List.append_assoc]
  exact List.perm_append_comm

/-- **A start callable binds a name twice exactly when one of its fields is named like the
listener.** -/
theorem bindings_finished_nodup_iff (distinct : (fields.map (·.name)).Nodup)
    (free : ∀ k, contract = some k → k.listenerName ∉ Naming.reservedBindings) :
    (finished owner contract name fields).bindings.Nodup ↔
      ∀ f ∈ fields, f.name ∉ (closingParameters owner contract).map (·.name) := by
  have closing : ((closingParameters owner contract).map (·.name)).Nodup := by
    unfold closingParameters
    cases owner.target.kind <;> cases contract <;> simp
  have others : ∀ own ∈ ownNames owner.target, ∀ given ∈ fields.map (·.name)
      ++ (closingParameters owner contract).map (·.name), own ≠ given := by
    intro own hown given hgiven same
    have reserved := mem_reserved_of_mem_ownNames hown
    rcases List.mem_append.mp hgiven with hfield | hlistener
    · obtain ⟨f, -, rfl⟩ := List.mem_map.mp hfield
      exact Field.name_ne_of_mem_reserved reserved same.symm
    · obtain ⟨k, contract, rfl⟩ := Execution.eq_listenerName_of_mem_closing hlistener
      exact free k contract (same ▸ reserved)
  rw [bindings_finished_perm.nodup_iff, List.nodup_append, List.nodup_append]
  constructor
  · rintro ⟨-, ⟨-, -, apart⟩, -⟩ f hf listener
    exact apart f.name (List.mem_map_of_mem hf) f.name listener rfl
  · intro apart
    refine ⟨ownNames_nodup, ⟨distinct, closing, ?_⟩, others⟩
    intro field hfield listener hlistener same
    obtain ⟨f, hf, rfl⟩ := List.mem_map.mp hfield
    exact apart f hf (same ▸ hlistener)

/-- Of the fields of a screen, a callable takes those among its parameters. -/
theorem exists_name_eq_of_mem_finished {f : Field}
    (h : fieldParameter f ∈ (finished owner contract name fields).parameters) :
    ∃ g ∈ fields, g.name = f.name := by
  rcases List.mem_append.mp h with h | listener
  · rcases List.mem_append.mp h with preamble | field
    · have reserved := Execution.mem_reserved_of_mem_preamble (List.mem_map_of_mem preamble)
      exact absurd rfl (Field.name_ne_of_mem_reserved (f := f) reserved)
    · obtain ⟨g, hg, same⟩ := List.mem_map.mp field
      exact ⟨g, hg, congrArg Parameter.name same⟩
  · unfold closingParameters at listener
    cases kind : owner.target.kind <;> rw [kind] at listener
    · obtain ⟨k, -, same⟩ := List.mem_map.mp listener
      exact nomatch congrArg Parameter.role same
    · exact nomatch listener

end Draft

/-! ### State callables -/

namespace SavedState

variable {owner : Owner} {fields : List Field}

/-- A field that is read back needs one local. -/
theorem localsOf_readField {runtime : Runtime} {f : Field} :
    Statement.localsOf (readField runtime f) = [Naming.valueLocal f.name] := by
  unfold readField
  dsimp only
  split <;> rfl

theorem localsOf_readFields {runtime : Runtime} :
    Statement.localsOf (fields.flatMap (readField runtime))
      = fields.map fun f => Naming.valueLocal f.name := by
  induction fields with
  | nil => rfl
  | cons f rest ih =>
      rw [List.flatMap_cons, Statement.localsOf_append, localsOf_readField, ih]
      rfl

theorem locals_inject :
    (inject owner fields).locals
      = "typedInstance" :: "extras" :: fields.map fun f => Naming.valueLocal f.name := by
  cases fields with
  | nil => rfl
  | cons f rest =>
      simp only [Callable.locals, inject, guarded, Statement.localsOf, Statement.locals,
        List.isEmpty_cons, Bool.false_eq_true, if_false, localsOf_readFields, List.append_nil]
      rfl

/-- **`inject` binds no name twice**: a local that holds a value ends like no other name. -/
theorem bindings_inject_nodup (distinct : (fields.map (·.name)).Nodup) :
    (inject owner fields).bindings.Nodup := by
  have values : ((fields.map (·.name)).map Naming.valueLocal).Nodup :=
    distinct.map fun _ _ => Naming.valueLocal_injective
  rw [List.map_map] at values
  have own : ∀ name ∈ ["instance", "savedInstanceState", "typedInstance", "extras"],
      ¬ "Value".toList <:+ name.toList := by decide
  have bound : (inject owner fields).bindings
      = ["instance", "savedInstanceState", "typedInstance", "extras"]
        ++ fields.map fun f => Naming.valueLocal f.name := by
    rw [Callable.bindings, locals_inject]
    rfl
  rw [bound, List.nodup_append]
  refine ⟨by decide, values, fun name hname value hvalue same => ?_⟩
  obtain ⟨f, -, rfl⟩ := List.mem_map.mp hvalue
  exact Naming.valueLocal_ne (own name hname) same.symm

/-- `saveState` binds the same names for all fields. -/
theorem bindings_saveState :
    (saveState owner fields).bindings = ["instance", "outState", "typedInstance", "intent"] := by
  have putting : Statement.localsOf (fields.map fun f =>
      Code.putExtra f.name (.field typedInstance f.name)) = [] :=
    Statement.localsOf_map_eq_nil fun _ => rfl
  simp only [Callable.bindings, Callable.locals, saveState, guarded, Statement.localsOf,
    Statement.locals, Statement.localsOf_append, putting, Code.declareIntent]
  rfl

end SavedState

/-! ### The start family of a companion -/

namespace Assembly

variable {settings : Settings} {target : Target} {fields : List Field} {a : Assembly}
  {c : Companion}

/-- A field of this name would meet the listener of the screen. -/
def NamesListener (target : Target) (name : String) : Prop :=
  target.kind = .activity ∧ target.results ≠ [] ∧
    name = "on" ++ target.cls.simpleName ++ "ResultListener"

theorem Reached.mem_closing_iff (reached : Reached settings target fields a) {name : String} :
    name ∈ (Draft.closingParameters a.owner a.contract).map (·.name)
      ↔ NamesListener target name := by
  rw [reached.closingParameters_eq]
  constructor
  · intro listener
    obtain ⟨p, hp, rfl⟩ := List.mem_map.mp listener
    obtain ⟨k, hk, rfl⟩ := List.mem_map.mp hp
    have contract := Option.mem_toList.mp hk
    obtain ⟨kind, filled⟩ := reached.exists_contract_iff.mp ⟨k, contract⟩
    exact ⟨kind, filled, (Contract.make_eq_ok (reached.make_contract contract).2).2.2⟩
  · rintro ⟨kind, filled, rfl⟩
    obtain ⟨k, contract⟩ := reached.exists_contract_iff.mpr ⟨kind, filled⟩
    rw [contract, ← (Contract.make_eq_ok (reached.make_contract contract).2).2.2]
    exact List.mem_singleton.mpr rfl

/-- The full callable takes every field. -/
theorem Reached.fieldParameter_mem_full (reached : Reached settings target fields a)
    (generated : a.generate = .ok c) {f : Field} (h : f ∈ fields) :
    Draft.fieldParameter f ∈ c.full.parameters := by
  obtain ⟨rfl, -⟩ := generate_eq_ok_iff.mp generated
  exact Execution.fieldParameter_mem_finished (reached.mem_fields_iff.mpr h)

/-- **The names that a companion binds.** No field meets a local of a start callable. Such a
callable binds a name twice exactly when it takes a field that is named like the listener, so all of
them are sound exactly when the screen has no such field. The state callables always are. -/
theorem generate_binds (reached : Reached settings target fields a)
    (generated : a.generate = .ok c) :
    (∀ callable ∈ c.startFamily,
        (∀ f ∈ fields, f.name ∉ callable.locals) ∧
        (callable.bindings.Nodup ↔ ∀ f ∈ fields,
          Draft.fieldParameter f ∈ callable.parameters → ¬ NamesListener target f.name)) ∧
      ((∀ callable ∈ c.startFamily, callable.bindings.Nodup)
        ↔ ∀ f ∈ fields, ¬ NamesListener target f.name) ∧
      c.inject.bindings.Nodup ∧ c.saveState.bindings.Nodup := by
  have hygienic : ∀ callable ∈ c.startFamily, callable.bindings.Nodup ↔ ∀ f ∈ fields,
      Draft.fieldParameter f ∈ callable.parameters → ¬ NamesListener target f.name := by
    intro callable member
    obtain ⟨name, taken, rfl, -, inside, distinct⟩ :=
      reached.exists_finished_of_mem generated member
    rw [← reached.owner_eq, Draft.bindings_finished_nodup_iff distinct fun k contract =>
      Contract.listenerName_not_reserved (reached.make_contract contract).2]
    simp only [reached.mem_closing_iff]
    constructor
    · intro apart f _ given
      obtain ⟨g, hg, same⟩ := Draft.exists_name_eq_of_mem_finished given
      exact same ▸ apart g hg
    · exact fun apart f hf => apart f (inside f hf) (Execution.fieldParameter_mem_finished hf)
  refine ⟨fun callable member => ⟨fun f _ declared => ?_, hygienic callable member⟩, ?_, ?_, ?_⟩
  · obtain ⟨name, taken, rfl, -, -, -⟩ := reached.exists_finished_of_mem generated member
    rw [Draft.locals_finished] at declared
    have reserved := Draft.mem_reserved_of_mem_ownNames (List.mem_append_right _ declared)
    exact Field.name_ne_of_mem_reserved reserved rfl
  · constructor
    · exact fun all f hf => (hygienic c.full List.mem_cons_self).mp (all _ List.mem_cons_self) f hf
        (reached.fieldParameter_mem_full generated hf)
    · exact fun apart callable member => (hygienic callable member).mpr fun f hf _ => apart f hf
  · rw [reached.inject_of_generate generated]
    exact SavedState.bindings_inject_nodup
      ((reached.fields_perm.map _).nodup_iff.mpr reached.names_nodup)
  · rw [reached.saveState_of_generate generated, SavedState.bindings_saveState]
    decide

/-- No field of the editor is named like its listener. -/
theorem generate_binds_editor :
    ∃ a c, Reached {} editor editorFields a ∧ a.generate = .ok c ∧
      ∀ callable ∈ c.startFamily, callable.bindings.Nodup := by
  obtain ⟨a, c, reached, generated⟩ := editor_generates
  refine ⟨a, c, reached, generated, (generate_binds reached generated).2.1.mpr ?_⟩
  rintro f hf ⟨-, -, named⟩
  revert f
  decide

/-- A field that is named like the listener of the editor. -/
def listenerField : Field :=
  sampleField "onEditorResultListener" .string true 1 (by decide) (by decide)

/-- With that field the editor still gets a companion, and its callables take two parameters of one
name. -/
theorem bindings_listenerField :
    ∃ a c, Reached {} editor [listenerField] a ∧ a.generate = .ok c ∧
      ∀ callable ∈ c.startFamily, callable.bindings
          = ["context", "onEditorResultListener", "onEditorResultListener", "intent"] ∧
        ¬ callable.bindings.Nodup := by
  obtain ⟨a, found⟩ : ∃ a, assembled? {} editor [listenerField] = some a := ⟨_, rfl⟩
  obtain ⟨c, generated⟩ : ∃ c, a.generate = .ok c := by
    rw [← Option.some.inj found]
    exact ⟨_, rfl⟩
  refine ⟨a, c, .of_assembled? found, generated, ?_⟩
  have bound : ∀ callable ∈ c.startFamily, callable.bindings
      = ["context", "onEditorResultListener", "onEditorResultListener", "intent"] := by
    rw [← Option.some.inj found] at generated
    rw [← Except.ok.inj generated]
    decide
  intro callable member
  rw [bound callable member]
  decide

end Assembly

end Companions
