import Companions.Proofs.Constants
import Companions.Proofs.Source.Indentation
import Companions.Proofs.Words

/-!
The vocabulary of generated code.

Whatever the screen is, generated code consists of a few words and classes of its own, of the names
and types of the fields and of the values that are handed back, of the locals that fields are read
into, and of the listener. So it has every property that all of these have: a `Vocabulary` is a
property of names and one of classes, and if it holds of these (`Vocabulary.Basic`,
`Vocabulary.Takes`, `Vocabulary.Hands`), then it holds of all names and classes of every callable
that is generated (`Assembly.Reached.coversCallable`).
-/

namespace Companions

/-! ### Lists of code -/

section Lists

variable {α : Type} {items : List α}

theorem Expr.namesOf_map {write : α → Expr} :
    Expr.namesOf (items.map write) = items.flatMap fun item => (write item).names := by
  induction items with
  | nil => rfl
  | cons item rest ih => rw [List.map_cons, namesOf, ih, List.flatMap_cons]

theorem Expr.classesOf_map {write : α → Expr} :
    Expr.classesOf (items.map write) = items.flatMap fun item => (write item).classes := by
  induction items with
  | nil => rfl
  | cons item rest ih => rw [List.map_cons, classesOf, ih, List.flatMap_cons]

theorem Statement.namesOf_append {body more : List Statement} :
    namesOf (body ++ more) = namesOf body ++ namesOf more := by
  induction body with
  | nil => rfl
  | cons s rest ih => rw [List.cons_append, namesOf, namesOf, ih, List.append_assoc]

theorem Statement.classesOf_append {body more : List Statement} :
    classesOf (body ++ more) = classesOf body ++ classesOf more := by
  induction body with
  | nil => rfl
  | cons s rest ih => rw [List.cons_append, classesOf, classesOf, ih, List.append_assoc]

theorem Statement.namesOf_flatMap {write : α → List Statement} :
    namesOf (items.flatMap write) = items.flatMap fun item => namesOf (write item) := by
  induction items with
  | nil => rfl
  | cons item rest ih => rw [List.flatMap_cons, namesOf_append, ih, List.flatMap_cons]

theorem Statement.classesOf_flatMap {write : α → List Statement} :
    classesOf (items.flatMap write) = items.flatMap fun item => classesOf (write item) := by
  induction items with
  | nil => rfl
  | cons item rest ih => rw [List.flatMap_cons, classesOf_append, ih, List.flatMap_cons]

end Lists

/-! ### Words and classes of generated code -/

/-- The names that generated code uses whatever it is generated for. -/
def Code.words : List String :=
  ["activity", "add", "addFlags", "arguments", "container", "containerId", "context", "data",
    "extras", "findViewById", "finishAfterTransition", "FLAG_ACTIVITY_NEW_TASK", "get",
    "getTransitionName", "init", "inject", "instance", "intent", "onResult", "outState", "putAll",
    "putExtra", "resultCode", "RESULT_OK", "savedInstanceState", "setResult", "sharedElements",
    "showFragment", "startActivity", "startActivityForResult", "typedInstance"]

/-- The classes of the platform that generated code uses. -/
def Platform.classes : List ClassName :=
  [context, intent, activity, bundle, view, fragment, fragmentActivity, viewCompat, activityCompat,
    pair, arrayList, object, ⟨javaLang, "String", []⟩]

/-- The classes of the runtime library that generated code uses. -/
def Runtime.classes (r : Runtime) : List ClassName :=
  [r.activityBuilder, r.fragmentBuilder, r.bundleUtils, r.resultListener]

/-! ### Vocabularies -/

/-- Which names and which classes code may use. -/
structure Vocabulary where
  name : String → Prop
  cls : ClassName → Prop

namespace Vocabulary

variable (v : Vocabulary)

/-- The vocabulary has every name and every class of the statements. -/
structure Covers (body : List Statement) : Prop where
  names : ∀ name ∈ Statement.namesOf body, v.name name
  classes : ∀ cls ∈ Statement.classesOf body, v.cls cls

/-- The vocabulary has every name and every class of the callable, apart from its own name. -/
structure CoversCallable (c : Callable) : Prop where
  parameters : ∀ p ∈ c.parameters, v.name p.name ∧ ∀ cls ∈ p.type.classes, v.cls cls
  body : v.Covers c.body

/-- What generated code needs for any screen. -/
structure Basic (owner : Owner) : Prop where
  names : ∀ name ∈ Code.words, v.name name
  platform : ∀ cls ∈ Platform.classes, v.cls cls
  runtime : ∀ cls ∈ owner.runtime.classes, v.cls cls
  target : v.cls owner.target.cls

/-- What generated code needs for a field. -/
structure Takes (f : Field) : Prop where
  name : v.name f.name
  binding : v.name (Naming.valueLocal f.name)
  classes : ∀ cls ∈ f.type.boxed.classes, v.cls cls

/-- What generated code needs for a contract. -/
structure Hands (k : Contract) : Prop where
  listenerName : v.name k.listenerName
  listenerType : v.cls k.listenerType
  names : ∀ r ∈ k.results, v.name r.name
  classes : ∀ r ∈ k.results, ∀ cls ∈ r.type.boxed.classes, v.cls cls

variable {v} {owner : Owner} {contract : Option Contract} {k : Contract} {fields : List Field}

theorem Covers.append {body more : List Statement} (h : v.Covers body) (h' : v.Covers more) :
    v.Covers (body ++ more) where
  names := by
    rw [Statement.namesOf_append]
    exact List.forall_mem_append.mpr ⟨h.names, h'.names⟩
  classes := by
    rw [Statement.classesOf_append]
    exact List.forall_mem_append.mpr ⟨h.classes, h'.classes⟩

theorem Covers.branch {condition : Condition} {yes no : List Statement}
    (test : (∀ name ∈ condition.names, v.name name) ∧ ∀ cls ∈ condition.classes, v.cls cls)
    (h : v.Covers yes) (h' : v.Covers no) : v.Covers [.branch condition yes no] where
  names := by
    simp only [Statement.namesOf, Statement.names, List.append_nil, List.forall_mem_append]
    exact ⟨⟨test.1, h.names⟩, h'.names⟩
  classes := by
    simp only [Statement.classesOf, Statement.classes, List.append_nil, List.forall_mem_append]
    exact ⟨⟨test.2, h.classes⟩, h'.classes⟩

theorem covers_flatMap {α : Type} {write : α → List Statement} {items : List α}
    (each : ∀ item ∈ items, v.Covers (write item)) : v.Covers (items.flatMap write) where
  names := by
    rw [Statement.namesOf_flatMap]
    intro name member
    obtain ⟨item, hitem, inside⟩ := List.mem_flatMap.mp member
    exact (each item hitem).names name inside
  classes := by
    rw [Statement.classesOf_flatMap]
    intro cls member
    obtain ⟨item, hitem, inside⟩ := List.mem_flatMap.mp member
    exact (each item hitem).classes cls inside

theorem covers_map {α : Type} {write : α → Statement} {items : List α}
    (each : ∀ item ∈ items, v.Covers [write item]) : v.Covers (items.map write) := by
  rw [List.map_eq_flatMap]
  exact covers_flatMap each

/-- A type that is not boxed has no other classes. -/
theorem classes_subset_boxed (t : ValueType) : t.classes ⊆ t.boxed.classes := by
  cases t with
  | primitive kind => exact List.nil_subset _
  | declared _ _ | array _ => exact List.Subset.refl _

/-! ### Bodies -/

section Bodies

attribute [local simp] Statement.namesOf Statement.names Expr.namesOf Expr.names Condition.names
  Statement.classesOf Statement.classes Expr.classesOf Expr.classes Condition.classes
  parameterClasses ValueType.classes ValueType.classesOf ValueType.ofClass Code.intent
  Code.intentName Code.text Code.int

/-- The names and classes of code for any screen, to be taken one by one. -/
theorem Basic.each (basic : v.Basic owner) :
    (∀ name ∈ Code.words, v.name name) ∧ (∀ cls ∈ Platform.classes, v.cls cls) ∧
      (∀ cls ∈ owner.runtime.classes, v.cls cls) ∧ v.cls owner.target.cls :=
  ⟨basic.names, basic.platform, basic.runtime, basic.target⟩

theorem covers_putExtra {key : String} {value : Expr} (basic : v.Basic owner)
    (names : ∀ name ∈ value.names, v.name name) (classes : ∀ cls ∈ value.classes, v.cls cls) :
    v.Covers [Code.putExtra key value] := by
  have own : v.name "putExtra" ∧ v.name "intent" :=
    ⟨basic.names _ (by decide), basic.names _ (by decide)⟩
  constructor
  · simpa [Code.putExtra, own] using names
  · simpa [Code.putExtra] using classes

theorem covers_preamble (basic : v.Basic owner) : v.Covers (Draft.preambleBody owner) := by
  have each := basic.each
  simp only [Code.words, Platform.classes, Runtime.classes, List.forall_mem_cons] at each
  unfold Draft.preambleBody
  cases owner.target.kind <;> constructor <;>
    simp [Draft.onActivityBuilder, Draft.context, Draft.activity, Code.declareIntent, each]

/-- The callback reads every value that is handed back, and passes it to the listener. -/
theorem covers_callback (basic : v.Basic owner) (hands : v.Hands k) :
    (∀ name ∈ (Result.callback owner.runtime k).names, v.name name) ∧
      ∀ cls ∈ (Result.callback owner.runtime k).classes, v.cls cls := by
  have each := basic.each
  simp only [Code.words, Platform.classes, Runtime.classes, List.forall_mem_cons] at each
  have reading : ∀ r ∈ k.results, (∀ name ∈ (Result.read owner.runtime r).names, v.name name) ∧
      ∀ cls ∈ (Result.read owner.runtime r).classes, v.cls cls := by
    intro r hr
    have classes := hands.classes r hr
    unfold Result.read
    split <;> simpa [each] using classes
  constructor
  · simp [Result.callback, Contract.method, Expr.namesOf_map, each, hands.listenerName]
    exact fun name r hr inside => (reading r hr).1 name inside
  · simp [Result.callback, Contract.method, Expr.classesOf_map, each]
    exact fun cls r hr inside => (reading r hr).2 cls inside

/-- The launch of an activity. -/
theorem covers_launchActivity (basic : v.Basic owner) (hands : ∀ k ∈ contract, v.Hands k) :
    v.Covers [Draft.launchActivity owner contract] := by
  have each := basic.each
  simp only [Code.words, Platform.classes, Runtime.classes, List.forall_mem_cons] at each
  refine Covers.branch (by simp [Draft.context, each]) ?_ ?_
  · cases contract with
    | none => constructor <;> simp [Draft.startFromActivity, Draft.context, each]
    | some k =>
        have hands := hands k rfl
        obtain ⟨names, classes⟩ := covers_callback basic hands
        refine Covers.branch (by simp [hands.listenerName]) ?_ ?_
        · constructor <;> simp [Draft.context, each]
        · constructor <;> simpa [Draft.context, Draft.onActivityBuilder, each]
  · constructor <;> simp [Draft.context, each]

/-- The launch of a fragment, with the list of its shared elements. -/
theorem covers_launchFragment (basic : v.Basic owner) : v.Covers [Draft.launchFragment owner] := by
  have each := basic.each
  simp only [Code.words, Platform.classes, Runtime.classes, List.forall_mem_cons] at each
  have collecting : v.Covers (Draft.collectElements owner.target.sharedElements) := by
    have adding : v.Covers (owner.target.sharedElements.map Draft.addElement) := by
      refine covers_map fun element _ => ?_
      unfold Draft.addElement Draft.elementSource
      constructor <;> cases element.source <;> simp [Draft.findView, each]
    unfold Draft.collectElements
    split
    · exact ⟨nofun, nofun⟩
    · refine (Covers.append ?_ ?_).append adding
      · constructor <;> simp [Platform.sharedElementList, ValueType.string, each]
      · split
        · constructor <;> simp [Draft.findView, Draft.activity, Draft.containerId, each]
        · exact ⟨nofun, nofun⟩
  refine Covers.branch (by simp [Draft.activity, each]) (collecting.append ?_) ⟨nofun, nofun⟩
  constructor <;> split <;>
    simp [Draft.activity, Draft.containerId, Code.intentExtras, each]

/-- A start callable. -/
theorem covers_finished {name : String} (basic : v.Basic owner)
    (takes : ∀ f ∈ fields, v.Takes f) (hands : ∀ k ∈ contract, v.Hands k) :
    v.CoversCallable (Draft.finished owner contract name fields) := by
  have each := basic.each
  simp only [Code.words, Platform.classes, Runtime.classes, List.forall_mem_cons] at each
  have putting : v.Covers (fields.map Draft.putField) := covers_map fun f hf =>
    covers_putExtra basic (by simp [(takes f hf).name]) (by simp)
  have closing : v.Covers (Draft.closingBody owner contract) := by
    have injecting : v.Covers [Draft.onActivityBuilder owner "inject" []] := by
      constructor <;> simp [Draft.onActivityBuilder, each]
    unfold Draft.closingBody
    cases owner.target.kind with
    | activity => exact (covers_launchActivity basic hands).append injecting
    | fragment => exact (covers_launchFragment basic).append injecting
  have first : ∀ p ∈ Draft.preambleParameters owner.target.kind,
      v.name p.name ∧ ∀ cls ∈ p.type.classes, v.cls cls := by
    unfold Draft.preambleParameters
    cases owner.target.kind <;> simp [each]
  have last : ∀ p ∈ Draft.closingParameters owner contract,
      v.name p.name ∧ ∀ cls ∈ p.type.classes, v.cls cls := by
    unfold Draft.closingParameters
    cases owner.target.kind with
    | fragment => simp
    | activity =>
        simpa [Contract.listenerParameter] using
          fun k hk => ⟨(hands k hk).listenerName, (hands k hk).listenerType⟩
  refine ⟨fun p hp => ?_, ((covers_preamble basic).append putting).append closing⟩
  rcases List.mem_append.mp hp with hp | listener
  · rcases List.mem_append.mp hp with preamble | field
    · exact first p preamble
    · obtain ⟨f, hf, rfl⟩ := List.mem_map.mp field
      exact ⟨(takes f hf).name, fun cls hcls =>
        (takes f hf).classes cls (classes_subset_boxed f.type hcls)⟩
  · exact last p listener

/-! ### The other callables -/

/-- The body under the test that the instance is one of the screen's class. -/
theorem covers_guarded {body : List Statement} (basic : v.Basic owner) (h : v.Covers body) :
    v.Covers [SavedState.guarded owner body] := by
  have each := basic.each
  simp only [Code.words, Platform.classes, Runtime.classes, List.forall_mem_cons] at each
  have cast : v.Covers [.declare "typedInstance" false (.ofClass owner.target.cls)
      (.cast owner.target.cls (.ident "instance"))] := by
    constructor <;> simp [each]
  exact Covers.branch (by simp [each]) (cast.append h) ⟨nofun, nofun⟩

theorem covers_readField {f : Field} (basic : v.Basic owner) (takes : v.Takes f) :
    v.Covers (SavedState.readField owner.runtime f) := by
  have each := basic.each
  simp only [Code.words, Platform.classes, Runtime.classes, List.forall_mem_cons] at each
  obtain ⟨name, binding, classes⟩ := takes
  have declaring : ∀ fallback : List Expr, Expr.namesOf fallback = [] →
      Expr.classesOf fallback = [] →
      v.Covers [.declare (Naming.valueLocal f.name) false f.type.boxed
        (.singletonCall owner.runtime.bundleUtils "get" [f.type.boxed]
          (.ident "extras" :: Code.text f.name :: fallback))] := by
    intro fallback names none
    constructor
    · simp [names, binding, each]
    · simpa [none, each, or_imp, forall_and] using classes
  have assigning : v.Covers [.assign (.field SavedState.typedInstance f.name)
      (.ident (Naming.valueLocal f.name))] := by
    constructor <;> simp [SavedState.typedInstance, each, name, binding]
  unfold SavedState.readField
  cases f.default with
  | none =>
      exact (declaring [] rfl rfl).append
        (Covers.branch (by simp [binding]) assigning ⟨nofun, nofun⟩)
  | some d =>
      exact (declaring [.literal (SavedState.defaultLiteral d f.type)] rfl rfl).append assigning

theorem covers_inject (basic : v.Basic owner) (takes : ∀ f ∈ fields, v.Takes f) :
    v.CoversCallable (SavedState.inject owner fields) := by
  have each := basic.each
  simp only [Code.words, Platform.classes, Runtime.classes, List.forall_mem_cons] at each
  have reading : v.Covers (fields.flatMap (SavedState.readField owner.runtime)) :=
    covers_flatMap fun f hf => covers_readField basic (takes f hf)
  have extras : v.Covers [.declare "extras" false (.ofClass Platform.bundle)
      (.conditional (.isNull (.ident "savedInstanceState"))
        (SavedState.freshExtras owner.target.kind) (.ident "savedInstanceState"))] := by
    cases owner.target.kind <;> constructor <;>
      simp [SavedState.freshExtras, SavedState.typedInstance, each]
  have present : v.Covers (if fields.isEmpty then [] else
      [.branch (.notNull (.ident "extras"))
        (fields.flatMap (SavedState.readField owner.runtime)) []]) := by
    split
    · exact ⟨nofun, nofun⟩
    · exact Covers.branch (by simp [each]) reading ⟨nofun, nofun⟩
  exact ⟨by simp [SavedState.inject, each], covers_guarded basic (extras.append present)⟩

theorem covers_saveState (basic : v.Basic owner) (takes : ∀ f ∈ fields, v.Takes f) :
    v.CoversCallable (SavedState.saveState owner fields) := by
  have each := basic.each
  simp only [Code.words, Platform.classes, Runtime.classes, List.forall_mem_cons] at each
  have declaring : v.Covers [Code.declareIntent []] := by
    constructor <;> simp [Code.declareIntent, each]
  have putting : v.Covers
      (fields.map fun f => Code.putExtra f.name (.field SavedState.typedInstance f.name)) :=
    covers_map fun f hf => covers_putExtra basic
      (by simp [SavedState.typedInstance, (takes f hf).name, each])
      (by simp [SavedState.typedInstance])
  have handing : v.Covers [.run (.call (.ident "outState") "putAll" [] [Code.intentExtras])] := by
    constructor <;> simp [Code.intentExtras, each]
  exact ⟨by simp [SavedState.saveState, each],
    covers_guarded basic ((declaring.append putting).append handing)⟩

theorem covers_finishWithResult (basic : v.Basic owner) (hands : v.Hands k) :
    v.CoversCallable (Result.finishWithResult owner k) := by
  have each := basic.each
  simp only [Code.words, Platform.classes, Runtime.classes, List.forall_mem_cons] at each
  have declaring : v.Covers [Code.declareIntent []] := by
    constructor <;> simp [Code.declareIntent, each]
  have putting : v.Covers (k.results.map fun r => Code.putExtra r.name (.ident r.name)) :=
    covers_map fun r hr => covers_putExtra basic (by simp [hands.names r hr]) (by simp)
  have finishing : v.Covers [.run (.call Result.activity "setResult" []
        [.staticField Platform.activity "RESULT_OK", Code.intent]),
      .run (.staticCall Platform.activityCompat "finishAfterTransition" []
        [Result.activity])] := by
    constructor <;> simp [Result.activity, each]
  refine ⟨?_, (declaring.append putting).append finishing⟩
  refine List.forall_mem_cons.mpr ⟨by simp [each], List.forall_mem_map.mpr fun r hr => ?_⟩
  exact ⟨hands.names r hr, fun cls hcls =>
    hands.classes r hr cls (classes_subset_boxed r.type hcls)⟩

end Bodies

end Vocabulary

namespace Assembly

/-- **The vocabulary of a companion**: what holds of the names and classes of its own, of its
fields and of its contract holds of all names and classes in its callables. -/
theorem Reached.coversCallable {settings : Settings} {target : Target} {fields : List Field}
    {a : Assembly} {c : Companion} {v : Vocabulary} (reached : Reached settings target fields a)
    (generated : a.generate = .ok c)
    (basic : v.Basic { target, runtime := settings.runtime })
    (takes : ∀ f ∈ fields, v.Takes f) (hands : ∀ k ∈ a.contract, v.Hands k) :
    ∀ callable ∈ c.callables, v.CoversCallable callable := by
  have all : ∀ f ∈ a.fields, v.Takes f := fun f hf =>
    takes f (reached.mem_fields_iff.mp hf)
  intro callable member
  rw [reached.callables_of_generate generated, List.mem_append, List.mem_append] at member
  rcases member with (start | state) | finish
  · rw [← reached.startFamily_of_generate generated] at start
    obtain ⟨name, taken, rfl, -, inside, -⟩ := reached.exists_finished_of_mem generated start
    exact Vocabulary.covers_finished basic (fun f hf => takes f (inside f hf)) hands
  · rcases List.mem_pair.mp state with rfl | rfl
    · exact Vocabulary.covers_inject basic all
    · exact Vocabulary.covers_saveState basic all
  · obtain ⟨k, contract, rfl⟩ := List.mem_map.mp finish
    exact Vocabulary.covers_finishWithResult basic (hands k (Option.mem_toList.mp contract))

end Assembly

/-! ### Words of classes -/

namespace ClassName

/-- No simple name of a class that was read has a dot. -/
theorem Segmented.dot_not_mem {c : ClassName} {before rest : List (List Char)}
    {segment : List Char} (made : Segmented c before segment rest) :
    ∀ name ∈ c.simpleNames, '.' ∉ name.toList :=
  fun name hname => (made.identifier_of_mem_simpleNames name hname).dot_not_mem

theorem simpleName_mem (c : ClassName) : c.simpleName ∈ c.simpleNames :=
  List.getLastD_mem_cons

/-- Names that are joined by underscores have no dot between them. -/
theorem dot_not_mem_joined {names : List String} (plain : ∀ name ∈ names, '.' ∉ name.toList) :
    '.' ∉ (joined "_" names).toList := by
  induction names with
  | nil => exact List.not_mem_nil
  | cons name rest ih =>
      obtain ⟨first, others⟩ := List.forall_mem_cons.mp plain
      cases rest with
      | nil => rwa [joined, String.intercalate_singleton]
      | cons second rest =>
          rw [joined, String.intercalate_cons_cons, String.toList_append, String.toList_append]
          simp only [List.mem_append, not_or]
          exact ⟨⟨first, by decide⟩, ih others⟩

end ClassName

/-- The class whose objects hold a primitive value. -/
def Primitive.box (p : Primitive) : ClassName :=
  ⟨javaLang, p.boxedName, []⟩

/-- The simple names of the classes of the runtime library. -/
def Runtime.classNames : List String :=
  ["ActivityBuilder", "FragmentBuilder", "BundleUtils", "OnActivityResultListener"]

/-- The words that generated code has in the names of classes for any screen, apart from the package
of the runtime library. -/
def Code.classWords : List String :=
  (Platform.classes ++ Primitive.all.map Primitive.box).flatMap ClassName.words
    ++ Runtime.classNames

/-- A word that the classes of generated code have only from the screen. -/
structure Code.Foreign (word : String) : Prop where
  fixed : word ∉ Code.classWords
  companion : ¬ "Builder".toList <:+ word.toList
  listener : ¬ "ResultListener".toList <:+ word.toList

/-- The classes that a screen is declared with: its own, and those in the types of its fields and of
the values that it hands back. -/
def Target.declaredClasses (t : Target) (fields : List Field) : List ClassName :=
  t.cls :: fields.flatMap (·.type.classes) ++ t.handedBack.flatMap (·.type.classes)

theorem Target.mem_declaredClasses_iff {t : Target} {fields : List Field} {cls : ClassName} :
    cls ∈ t.declaredClasses fields ↔
      cls = t.cls ∨ (∃ f ∈ fields, cls ∈ f.type.classes) ∨
        ∃ r ∈ t.handedBack, cls ∈ r.type.classes := by
  rw [declaredClasses, List.cons_append, List.mem_cons, List.mem_append, List.mem_flatMap,
    List.mem_flatMap]

open ClassName (pieces packageWords)

namespace Code.Foreign

variable {word : String} {cls : ClassName}

/-- The words of a list that have nothing in common with those of generated code. -/
theorem of_mem {list : List String}
    (apart : (∀ own ∈ Code.classWords, own ∉ list) ∧
      ∀ word ∈ list, ¬ "Builder".toList <:+ word.toList ∧
        ¬ "ResultListener".toList <:+ word.toList)
    (h : word ∈ list) : Foreign word where
  fixed own := apart.1 word own h
  companion := (apart.2 word h).1
  listener := (apart.2 word h).2

theorem not_mem_platform (foreign : Foreign word) (h : cls ∈ Platform.classes) :
    word ∉ cls.words := fun inside =>
  foreign.fixed (List.mem_append_left _
    (List.mem_flatMap.mpr ⟨cls, List.mem_append_left _ h, inside⟩))

theorem not_mem_box (foreign : Foreign word) (p : Primitive) : word ∉ p.box.words := fun inside =>
  foreign.fixed (List.mem_append_left _
    (List.mem_flatMap.mpr ⟨p.box, List.mem_append_right _
      (List.mem_map_of_mem (by cases p <;> decide)), inside⟩))

/-- Boxing adds no class with the word. -/
theorem mem_classes_of_boxed (foreign : Foreign word) {t : ValueType} (h : cls ∈ t.boxed.classes)
    (inside : word ∈ cls.words) : cls ∈ t.classes := by
  cases t with
  | primitive kind =>
      have box : (ValueType.primitive kind).boxed.classes = [kind.box] := rfl
      rw [box, List.mem_singleton] at h
      exact absurd (h ▸ inside) (foreign.not_mem_box kind)
  | declared _ _ | array _ => exact h

theorem not_mem_javaLang (foreign : Foreign word) : word ∉ packageWords javaLang := by
  intro inside
  have object : Platform.object ∈ Platform.classes := by decide
  refine foreign.not_mem_platform object ?_
  rw [ClassName.words_eq]
  exact List.mem_append_left _ inside

/-- The classes of the runtime library have the word at most from its package. -/
theorem mem_packageWords_of_runtime (foreign : Foreign word) {r : Runtime} (h : cls ∈ r.classes)
    (inside : word ∈ cls.words) : word ∈ packageWords r.package := by
  have named : r.classes = Runtime.classNames.map (Platform.inPackage r.package) := rfl
  rw [named] at h
  obtain ⟨name, hname, rfl⟩ := List.mem_map.mp h
  have plain : ∀ name ∈ Runtime.classNames, '.' ∉ name.toList := by decide
  rw [ClassName.words_eq, List.mem_append, ClassName.pieces_relative] at inside
  refine inside.resolve_right fun simple => foreign.fixed (List.mem_append_right _ ?_)
  simp only [Platform.inPackage, ClassName.simpleNames, List.flatMap_singleton] at simple
  rw [ClassName.pieces_of_plain (plain name hname), List.mem_singleton] at simple
  exact simple ▸ hname

/-- The companion of a screen and its listener have the word at most from the package. -/
theorem mem_words_of_listenerType (foreign : Foreign word) {t : Target} {k : Contract}
    {before rest : List (List Char)} {segment : List Char}
    (named : t.cls.Segmented before segment rest) (made : Contract.make t = .ok (some k))
    (inside : word ∈ k.listenerType.words) : word ∈ t.cls.words := by
  have plain := named.dot_not_mem
  have companion : '.' ∉ (joined "_" t.cls.simpleNames ++ "Builder").toList := by
    rw [String.toList_append, List.mem_append, not_or]
    exact ⟨ClassName.dot_not_mem_joined plain, by decide⟩
  have listener : '.' ∉ ("On" ++ t.cls.simpleName ++ "ResultListener").toList := by
    rw [String.toList_append, String.toList_append]
    simp only [List.mem_append, not_or]
    exact ⟨⟨by decide, plain _ t.cls.simpleName_mem⟩, by decide⟩
  rw [Contract.listenerType_of_make made, ClassName.words_eq, List.mem_append] at inside
  rw [ClassName.words_eq]
  refine List.mem_append_left _ (inside.resolve_right fun simple => ?_)
  have names : (t.companion.nest ("On" ++ t.cls.simpleName ++ "ResultListener")).simpleNames
      = [joined "_" t.cls.simpleNames ++ "Builder",
        "On" ++ t.cls.simpleName ++ "ResultListener"] := rfl
  rw [ClassName.pieces_relative, names, List.flatMap_cons, List.flatMap_singleton,
    ClassName.pieces_of_plain companion, ClassName.pieces_of_plain listener] at simple
  rcases List.mem_pair.mp simple with rfl | rfl
  · refine foreign.companion ?_
    rw [String.toList_append]
    exact List.suffix_append _ _
  · refine foreign.listener ?_
    rw [String.toList_append]
    exact List.suffix_append _ _

end Code.Foreign

namespace Assembly

section Declared

variable {settings : Settings} {target : Target} {fields : List Field} {a : Assembly}
  {c : Companion} {word : String} {before rest : List (List Char)} {segment : List Char}

/-- The screen was declared with the package of its companion. -/
theorem Reached.exists_of_mem_package (reached : Reached settings target fields a)
    (generated : a.generate = .ok c) (inside : word ∈ packageWords c.name.package) :
    ∃ d ∈ target.declaredClasses fields, word ∈ d.words := by
  refine ⟨target.cls, Target.mem_declaredClasses_iff.mpr (Or.inl rfl), ?_⟩
  rw [reached.name_of_generate generated] at inside
  rw [ClassName.words_eq]
  exact List.mem_append_left _ inside

/-- **Generated code borrows its words.** A class in a callable has a foreign word only if a class
that the screen was declared with has it, or the package of the runtime library. -/
theorem Reached.borrows (reached : Reached settings target fields a)
    (generated : a.generate = .ok c) (named : target.cls.Segmented before segment rest)
    (foreign : Code.Foreign word) {callable : Callable} (member : callable ∈ c.callables)
    {cls : ClassName} (mentioned : cls ∈ callable.classes) (inside : word ∈ cls.words) :
    word ∈ packageWords settings.runtime.package ∨
      ∃ d ∈ target.declaredClasses fields, word ∈ d.words := by
  let v : Vocabulary :=
    { name := fun _ => True
      cls := fun cls => word ∈ cls.words → word ∈ packageWords settings.runtime.package ∨
        ∃ d ∈ target.declaredClasses fields, word ∈ d.words }
  have declared {cls : ClassName} (h : cls ∈ target.declaredClasses fields) : v.cls cls :=
    fun inside => Or.inr ⟨cls, h, inside⟩
  have boxed {t : ValueType} (h : ∀ cls ∈ t.classes, v.cls cls) :
      ∀ cls ∈ t.boxed.classes, v.cls cls :=
    fun cls hcls inside => h cls (foreign.mem_classes_of_boxed hcls inside) inside
  have own : v.cls target.cls :=
    declared (Target.mem_declaredClasses_iff.mpr (Or.inl rfl))
  have basic : v.Basic { target, runtime := settings.runtime } :=
    { names := fun _ _ => trivial
      platform := fun cls h inside => absurd inside (foreign.not_mem_platform h)
      runtime := fun cls h inside => Or.inl (foreign.mem_packageWords_of_runtime h inside)
      target := own }
  have takes : ∀ f ∈ fields, v.Takes f := fun f hf =>
    { name := trivial
      binding := trivial
      classes := boxed fun cls h =>
        declared (Target.mem_declaredClasses_iff.mpr (Or.inr (Or.inl ⟨f, hf, h⟩))) }
  have hands : ∀ k ∈ a.contract, v.Hands k := fun k contract =>
    { listenerName := trivial
      listenerType := fun inside =>
        own (foreign.mem_words_of_listenerType named (reached.make_contract contract).2 inside)
      names := fun _ _ => trivial
      classes := fun r hr => boxed fun cls h =>
        declared (Target.mem_declaredClasses_iff.mpr (Or.inr (Or.inr ⟨r, by
          rw [← reached.results_eq, contract]
          simpa using hr, h⟩))) }
  have covers := reached.coversCallable generated basic takes hands callable member
  rcases List.mem_append.mp mentioned with taken | used
  · obtain ⟨p, hp, hcls⟩ := mem_parameterClasses_iff.mp taken
    exact (covers.parameters p hp).2 cls hcls inside
  · exact covers.body.classes cls used inside

end Declared

end Assembly

end Companions
