import Companions.Callable
import Companions.Platform

/-!
Running generated bodies.

The language is given a meaning here: locals, fields of objects, branches and listeners. What lies
outside of it, the platform and the runtime library, is a parameter: a `Device` creates objects and
answers calls, and a run records every call together with the state in which it was made.

A run that has no result is one that the language rules out or that ends in an exception of the
language: an unknown or doubly declared name, a member of `null`, a failed cast. What the device
does with a call is its own affair.
-/

namespace Companions

namespace Execution

/-! ### Values and calls -/

/-- What an expression stands for while code runs. -/
inductive Value where
  | literal (value : Literal)
  /-- An object of the app, of the platform or of the runtime library. -/
  | object (id : Nat)
  | classObject (cls : ClassName)
  /-- A listener made on the spot, with the locals it can see. -/
  | listener (interface : ClassName) (method : String) (parameters : List Parameter)
      (body : List Statement) (locals : List (String × Value))

namespace Value

/-- The value of `null`. -/
def null : Value := .literal .null

/-- The value of a text literal. -/
def text (value : String) : Value := .literal (.text value)

/-- Whether the value is `null`. -/
def isNull : Value → Bool
  | .literal .null => true
  | _ => false

@[simp] theorem isNull_null : Value.null.isNull = true := rfl

@[simp] theorem text_ne_null {value : String} : text value ≠ null := nofun

@[simp] theorem object_ne_null {id : Nat} : Value.object id ≠ .null := nofun

@[simp] theorem isNull_eq_true_iff {v : Value} : v.isNull = true ↔ v = .null := by
  unfold isNull null
  split <;> simp_all

@[simp] theorem isNull_eq_false_iff {v : Value} : v.isNull = false ↔ v ≠ .null := by
  rw [← Bool.not_eq_true, isNull_eq_true_iff]

/-- Whether two values are one, where the test is between objects, truth values or numbers. -/
def same? : Value → Value → Option Bool
  | .object a, .object b => some (a == b)
  | .literal (.integer a _), .literal (.integer b _) => some (a == b)
  | .literal (.boolean a), .literal (.boolean b) => some (a == b)
  | _, _ => none

end Value

/-- The names that code can see, the innermost first. -/
abbrev Locals := List (String × Value)

/-- A call that leaves generated code. Reading a property calls its getter. -/
inductive Call where
  | method (target : Value) (name : String) (arguments : List Value)
  | getter (target : Value) (name : String)
  | static (owner : ClassName) (name : String) (arguments : List Value)
  | singleton (object : ClassName) (name : String) (arguments : List Value)

/-! ### Devices -/

/-- The fields of all objects, and whatever else there is. -/
structure State (World : Type) where
  fields : Nat → String → Value
  world : World

/-- What a bundle holds under each key. -/
abbrev Entries := String → Option Value

/-- Where code runs. A device keeps its own `World`, of which generated code sees nothing but the
answers to its calls; `extras` and `entries` say what the intents and the bundles of it hold. -/
structure Device where
  World : Type
  /-- The new object of a class, which is never `null`. -/
  create : State World → ClassName → List Value → Nat × State World
  /-- What a call returns, and what it leaves behind. -/
  answer : State World → Call → Value × State World
  /-- The static fields of classes. -/
  constant : ClassName → String → Value
  /-- Whether a value other than `null` is an instance of a class. -/
  isA : Value → ClassName → Bool
  /-- The extras of an intent. -/
  extras : World → Value → Option Entries
  /-- The entries of a bundle. -/
  entries : World → Value → Option Entries

/-- A call, and the state in which it was made. -/
structure Made (D : Device) where
  call : Call
  before : State D.World

/-- A run so far. -/
structure Run (D : Device) where
  state : State D.World
  made : List (Made D) := []

namespace Run

variable {D : Device}

/-- The run after a call. -/
def call (r : Run D) (c : Call) : Value × Run D :=
  ((D.answer r.state c).1, ⟨(D.answer r.state c).2, r.made ++ [⟨c, r.state⟩]⟩)

/-- The run after a new object was made. -/
def create (r : Run D) (cls : ClassName) (arguments : List Value) : Value × Run D :=
  let made := D.create r.state cls arguments
  (.object made.1, { r with state := made.2 })

/-- The run after a field of an object was set. -/
def setField (r : Run D) (id : Nat) (name : String) (value : Value) : Run D :=
  { r with
    state :=
      { r.state with
        fields := fun other field =>
          if other = id ∧ field = name then value else r.state.fields other field } }

end Run

/-! ### Expressions and tests -/

section Evaluation

variable (D : Device) (locals : Locals)

mutual

/-- The value of an expression, and the run after it. -/
def eval : Expr → Run D → Option (Value × Run D)
  | .ident name, r => (locals.lookup name).map fun v => (v, r)
  | .literal value, r => some (.literal value, r)
  | .classLiteral cls, r => some (.classObject cls, r)
  | .create cls _ arguments, r =>
    (evalAll arguments r).map fun (vs, r) => r.create cls vs
  | .cast cls operand, r =>
    (eval operand r).bind fun (v, r) => if v.isNull || D.isA v cls then some (v, r) else none
  | .call target method _ arguments, r =>
    (eval target r).bind fun (t, r) =>
      (evalAll arguments r).bind fun (vs, r) =>
        if t.isNull then none else some (r.call (.method t method vs))
  | .property target name, r =>
    (eval target r).bind fun (t, r) =>
      if t.isNull then none else some (r.call (.getter t name))
  | .field target name, r =>
    (eval target r).bind fun (t, r) =>
      match t with
      | .object id => some (r.state.fields id name, r)
      | _ => none
  | .staticCall owner method _ arguments, r =>
    (evalAll arguments r).map fun (vs, r) => r.call (.static owner method vs)
  | .singletonCall object method _ arguments, r =>
    (evalAll arguments r).map fun (vs, r) => r.call (.singleton object method vs)
  | .staticField owner name, r => some (D.constant owner name, r)
  | .conditional condition yes no, r =>
    (test condition r).bind fun (b, r) => if b then eval yes r else eval no r
  | .nonNull operand, r =>
    (eval operand r).bind fun (v, r) => if v.isNull then none else some (v, r)
  | .listener interface method parameters body, r =>
    some (.listener interface method parameters body locals, r)

/-- The values of expressions, from left to right. -/
def evalAll : List Expr → Run D → Option (List Value × Run D)
  | [], r => some ([], r)
  | e :: rest, r =>
    (eval e r).bind fun (v, r) => (evalAll rest r).map fun (vs, r) => (v :: vs, r)

/-- The outcome of a test. -/
def test : Condition → Run D → Option (Bool × Run D)
  | .instanceOf operand cls, r =>
    (eval operand r).map fun (v, r) => (!v.isNull && D.isA v cls, r)
  | .isNull operand, r => (eval operand r).map fun (v, r) => (v.isNull, r)
  | .notNull operand, r => (eval operand r).map fun (v, r) => (!v.isNull, r)
  | .equal left right, r =>
    (eval left r).bind fun (a, r) =>
      (eval right r).bind fun (b, r) => (a.same? b).map fun same => (same, r)

end

end Evaluation

/-! ### Statements -/

section Execution

variable (D : Device)

mutual

/-- What a statement leaves: the names seen by those after it, and the run. -/
def exec (locals : Locals) : Statement → Run D → Option (Locals × Run D)
  | .run e, r => (eval D locals e r).map fun (_, r) => (locals, r)
  | .declare name _ _ init, r =>
    (eval D locals init r).bind fun (v, r) =>
      if (locals.lookup name).isSome then none else some ((name, v) :: locals, r)
  | .assign (.field owner name) value, r =>
    (eval D locals owner r).bind fun (t, r) =>
      (eval D locals value r).bind fun (v, r) =>
        match t with
        | .object id => some (locals, r.setField id name v)
        | _ => none
  -- Generated code assigns to fields only.
  | .assign _ _, _ => none
  | .branch condition yes no, r =>
    (test D locals condition r).bind fun (b, r) =>
      (if b then execAll locals yes r else execAll locals no r).map fun (_, r) => (locals, r)

/-- What statements leave when they run one after the other. -/
def execAll (locals : Locals) : List Statement → Run D → Option (Locals × Run D)
  | [], r => some (locals, r)
  | s :: rest, r => (exec locals s r).bind fun (locals, r) => execAll locals rest r

end

/-- A local for every parameter, with the argument of its name. -/
def Locals.of (parameters : List Parameter) (arguments : String → Value) : Locals :=
  parameters.map fun p => (p.name, arguments p.name)

/-- The locals that a callable begins with. Two parameters of one name are ruled out. -/
def enter? (parameters : List Parameter) (arguments : String → Value) : Option Locals :=
  if (parameters.map (·.name)).Nodup then some (.of parameters arguments) else none

/-- Runs a callable with an argument for every parameter, by its name. -/
def run (c : Callable) (arguments : String → Value) (s : State D.World) : Option (Run D) :=
  (enter? c.parameters arguments).bind fun locals =>
    (execAll D locals c.body ⟨s, []⟩).map fun (_, r) => r

/-- Runs the method of a listener; its parameters hide what it can see of the same name. -/
def invoke (listener : Value) (arguments : String → Value) (s : State D.World) : Option (Run D) :=
  match listener with
  | .listener _ _ parameters body locals =>
    (enter? parameters arguments).bind fun own =>
      (execAll D (own ++ locals) body ⟨s, []⟩).map fun (_, r) => r
  | _ => none

end Execution

end Execution

end Companions
