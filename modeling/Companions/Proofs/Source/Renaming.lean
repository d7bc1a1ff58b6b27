import Companions.Proofs.Builtins
import Companions.Proofs.Extensions

/-!
Other names for the variables of code.

The variables of code are its parameters, its locals and whatever refers to them, in listeners too;
members and classes are none. `Expr.renamed` and its kin give every variable another name.

Kotlin writes a variable by `Naming.kotlinName`, and the receiver as `this`. So it writes the same
for names that it spells alike, as long as the receiver keeps its name (`Kotlin.Unseen`,
`Kotlin.renderWith_renamed`). Putting keywords into backticks beforehand is such a renaming
(`Kotlin.unseen_kotlinName`).
-/

namespace Companions

/-! ### Names in backticks -/

namespace Naming

theorem kotlinName_of_not_mem {name : String} (plain : name ∉ kotlinKeywords) :
    kotlinName name = name := by
  rw [kotlinName, if_neg (mt List.contains_iff_mem.mp plain)]

/-- What Kotlin writes for a name is no keyword. -/
theorem kotlinName_not_mem (name : String) : kotlinName name ∉ kotlinKeywords := by
  unfold kotlinName
  split
  · intro keyword
    have plain : ∀ word ∈ kotlinKeywords, word.toList.head? ≠ some '\x60' := by decide
    exact plain _ keyword (by simp)
  · rename_i other
    exact mt List.contains_iff_mem.mpr other

end Naming

/-! ### Variables -/

mutual

/-- The variables of an expression, in the order of the text. -/
def Expr.vars : Expr → List String
  | .ident name => [name]
  | .literal _ => []
  | .classLiteral _ => []
  | .create _ _ arguments => Expr.varsOf arguments
  | .cast _ operand => Expr.vars operand
  | .call target _ _ arguments => Expr.vars target ++ Expr.varsOf arguments
  | .property target _ => Expr.vars target
  | .field target _ => Expr.vars target
  | .staticCall _ _ _ arguments => Expr.varsOf arguments
  | .singletonCall _ _ _ arguments => Expr.varsOf arguments
  | .staticField _ _ => []
  | .conditional condition yes no =>
    Condition.vars condition ++ Expr.vars yes ++ Expr.vars no
  | .nonNull operand => Expr.vars operand
  | .listener _ _ parameters body => parameters.map (·.name) ++ Statement.varsOf body

/-- The variables of the expressions of a list. -/
def Expr.varsOf : List Expr → List String
  | [] => []
  | e :: rest => Expr.vars e ++ Expr.varsOf rest

/-- The variables of a test. -/
def Condition.vars : Condition → List String
  | .instanceOf operand _ => Expr.vars operand
  | .isNull operand => Expr.vars operand
  | .notNull operand => Expr.vars operand
  | .equal left right => Expr.vars left ++ Expr.vars right

/-- The variables of a statement. -/
def Statement.vars : Statement → List String
  | .run e => Expr.vars e
  | .declare name _ _ init => name :: Expr.vars init
  | .assign target value => Expr.vars target ++ Expr.vars value
  | .branch condition yes no =>
    Condition.vars condition ++ Statement.varsOf yes ++ Statement.varsOf no

/-- The variables of the statements of a list. -/
def Statement.varsOf : List Statement → List String
  | [] => []
  | s :: rest => Statement.vars s ++ Statement.varsOf rest

end

/-- The variables of a callable, its parameters first. -/
def Callable.vars (m : Callable) : List String :=
  m.parameters.map (·.name) ++ Statement.varsOf m.body

/-! ### Renaming -/

/-- The parameter under another name. -/
def Parameter.renamed (f : String → String) (p : Parameter) : Parameter :=
  { p with name := f p.name }

mutual

/-- The expression with other names for its variables. -/
def Expr.renamed (f : String → String) : Expr → Expr
  | .ident name => .ident (f name)
  | .literal value => .literal value
  | .classLiteral cls => .classLiteral cls
  | .create cls diamond arguments => .create cls diamond (Expr.renamedAll f arguments)
  | .cast cls operand => .cast cls (Expr.renamed f operand)
  | .call target method typeArguments arguments =>
    .call (Expr.renamed f target) method typeArguments (Expr.renamedAll f arguments)
  | .property target name => .property (Expr.renamed f target) name
  | .field target name => .field (Expr.renamed f target) name
  | .staticCall owner method typeArguments arguments =>
    .staticCall owner method typeArguments (Expr.renamedAll f arguments)
  | .singletonCall object method typeArguments arguments =>
    .singletonCall object method typeArguments (Expr.renamedAll f arguments)
  | .staticField owner name => .staticField owner name
  | .conditional condition yes no =>
    .conditional (Condition.renamed f condition) (Expr.renamed f yes) (Expr.renamed f no)
  | .nonNull operand => .nonNull (Expr.renamed f operand)
  | .listener interface method parameters body =>
    .listener interface method (parameters.map (Parameter.renamed f))
      (Statement.renamedAll f body)

/-- Expressions in order. -/
def Expr.renamedAll (f : String → String) : List Expr → List Expr
  | [] => []
  | e :: rest => Expr.renamed f e :: Expr.renamedAll f rest

/-- The test with its operands. -/
def Condition.renamed (f : String → String) : Condition → Condition
  | .instanceOf operand cls => .instanceOf (Expr.renamed f operand) cls
  | .isNull operand => .isNull (Expr.renamed f operand)
  | .notNull operand => .notNull (Expr.renamed f operand)
  | .equal left right => .equal (Expr.renamed f left) (Expr.renamed f right)

/-- The statement with its expressions. -/
def Statement.renamed (f : String → String) : Statement → Statement
  | .run e => .run (Expr.renamed f e)
  | .declare name spelled type init => .declare (f name) spelled type (Expr.renamed f init)
  | .assign target value => .assign (Expr.renamed f target) (Expr.renamed f value)
  | .branch condition yes no =>
    .branch (Condition.renamed f condition) (Statement.renamedAll f yes)
      (Statement.renamedAll f no)

/-- Statements in order. -/
def Statement.renamedAll (f : String → String) : List Statement → List Statement
  | [] => []
  | s :: rest => Statement.renamed f s :: Statement.renamedAll f rest

end

/-- The callable with other names for its variables. -/
def Callable.renamed (f : String → String) (m : Callable) : Callable :=
  { m with
    parameters := m.parameters.map (Parameter.renamed f)
    body := Statement.renamedAll f m.body }

variable {f : String → String}

theorem Parameter.names_renamed {parameters : List Parameter} :
    (parameters.map (Parameter.renamed f)).map (·.name) = (parameters.map (·.name)).map f := by
  rw [List.map_map, List.map_map]
  rfl

mutual

/-- Every variable has its new name. -/
theorem Expr.vars_renamed (e : Expr) : (e.renamed f).vars = e.vars.map f := by
  cases e with
  | ident _ | literal _ | classLiteral _ | staticField _ _ => rfl
  | create _ _ arguments | staticCall _ _ _ arguments | singletonCall _ _ _ arguments =>
      simp only [Expr.renamed, Expr.vars, Expr.varsOf_renamedAll arguments]
  | cast _ operand | property operand _ | field operand _ | nonNull operand =>
      simp only [Expr.renamed, Expr.vars, Expr.vars_renamed operand]
  | call target _ _ arguments =>
      simp only [Expr.renamed, Expr.vars, Expr.vars_renamed target,
        Expr.varsOf_renamedAll arguments, List.map_append]
  | conditional condition yes no =>
      simp only [Expr.renamed, Expr.vars, Condition.vars_renamed condition,
        Expr.vars_renamed yes, Expr.vars_renamed no, List.map_append]
  | listener _ _ parameters body =>
      simp only [Expr.renamed, Expr.vars, Statement.varsOf_renamedAll body,
        Parameter.names_renamed, List.map_append]

theorem Expr.varsOf_renamedAll (arguments : List Expr) :
    Expr.varsOf (Expr.renamedAll f arguments) = (Expr.varsOf arguments).map f := by
  cases arguments with
  | nil => rfl
  | cons e rest =>
      simp only [Expr.renamedAll, Expr.varsOf, Expr.vars_renamed e,
        Expr.varsOf_renamedAll rest, List.map_append]

theorem Condition.vars_renamed (c : Condition) :
    (c.renamed f).vars = c.vars.map f := by
  cases c with
  | instanceOf operand _ | isNull operand | notNull operand =>
      simp only [Condition.renamed, Condition.vars, Expr.vars_renamed operand]
  | equal left right =>
      simp only [Condition.renamed, Condition.vars, Expr.vars_renamed left, Expr.vars_renamed right,
        List.map_append]

theorem Statement.vars_renamed (s : Statement) :
    (s.renamed f).vars = s.vars.map f := by
  cases s with
  | run e => simp only [Statement.renamed, Statement.vars, Expr.vars_renamed e]
  | declare name _ _ init =>
      simp only [Statement.renamed, Statement.vars, Expr.vars_renamed init, List.map_cons]
  | assign target value =>
      simp only [Statement.renamed, Statement.vars, Expr.vars_renamed target,
        Expr.vars_renamed value, List.map_append]
  | branch condition yes no =>
      simp only [Statement.renamed, Statement.vars, Condition.vars_renamed condition,
        Statement.varsOf_renamedAll yes, Statement.varsOf_renamedAll no, List.map_append]

theorem Statement.varsOf_renamedAll (body : List Statement) :
    Statement.varsOf (Statement.renamedAll f body) = (Statement.varsOf body).map f := by
  cases body with
  | nil => rfl
  | cons s rest =>
      simp only [Statement.renamedAll, Statement.varsOf, Statement.vars_renamed s,
        Statement.varsOf_renamedAll rest, List.map_append]

end

namespace Callable

variable {m : Callable}

theorem vars_renamed : (m.renamed f).vars = m.vars.map f := by
  rw [vars, vars, renamed, Parameter.names_renamed, Statement.varsOf_renamedAll,
    List.map_append]

theorem receiver?_renamed : (m.renamed f).receiver? = m.receiver?.map (Parameter.renamed f) := by
  rw [receiver?, renamed, List.find?_map]
  rfl

theorem arguments_renamed : (m.renamed f).arguments = m.arguments.map (Parameter.renamed f) := by
  rw [arguments, renamed, List.filter_map]
  rfl

end Callable

/-! ### What Kotlin writes -/

namespace Kotlin

/-- Kotlin does not see the other names: it spells them like the old ones, and the receiver keeps
its name for itself. -/
structure Unseen (f : String → String) (receiver : Option String) : Prop where
  spelled : ∀ name, Naming.kotlinName (f name) = Naming.kotlinName name
  receiver : ∀ name, receiver = some (f name) ↔ receiver = some name

variable {receiver : Option String} {spell : ClassName → String}

/-- In an object expression there is no receiver. -/
theorem Unseen.inside (unseen : Unseen f receiver) : Unseen f none where
  spelled := unseen.spelled
  receiver _ := iff_of_false nofun nofun

theorem Unseen.beq_eq (unseen : Unseen f receiver) (name : String) :
    (receiver == some (f name)) = (receiver == some name) := by
  rw [Bool.eq_iff_iff, beq_iff_eq, beq_iff_eq]
  exact unseen.receiver name

theorem Unseen.memberAccess_eq (unseen : Unseen f receiver) (e : Expr) (text : String) :
    memberAccess receiver (e.renamed f) text = memberAccess receiver e text := by
  have same : isReceiver receiver (e.renamed f) = isReceiver receiver e := by
    cases e with
    | ident name => exact unseen.beq_eq name
    | _ => rfl
  rw [memberAccess, memberAccess, same]

theorem Unseen.parameterTexts_eq (unseen : Unseen f receiver) (parameters : List Parameter) :
    parameterTexts spell (parameters.map (Parameter.renamed f))
      = parameterTexts spell parameters := by
  rw [parameterTexts, parameterTexts, List.map_map]
  refine congrArg (joined ", ") (List.map_congr_left fun p _ => ?_)
  rw [Function.comp_apply, parameterText, parameterText, Parameter.renamed, unseen.spelled]

mutual

theorem Unseen.exprText_eq {receiver : Option String} {depth : Nat}
    (unseen : Unseen f receiver) (e : Expr) :
    exprText spell receiver depth (e.renamed f) = exprText spell receiver depth e := by
  cases e with
  | ident name => simp only [Expr.renamed, exprText, unseen.beq_eq, unseen.spelled]
  | literal _ | classLiteral _ | staticField _ _ => rfl
  | create _ _ arguments | staticCall _ _ _ arguments | singletonCall _ _ _ arguments =>
      simp only [Expr.renamed, exprText, unseen.exprTexts_eq arguments]
  | cast _ operand | nonNull operand =>
      simp only [Expr.renamed, exprText, unseen.exprText_eq operand]
  | property target _ | field target _ =>
      simp only [Expr.renamed, exprText, unseen.exprText_eq target, unseen.memberAccess_eq]
  | call target _ _ arguments =>
      simp only [Expr.renamed, exprText, unseen.exprText_eq target, unseen.memberAccess_eq,
        unseen.exprTexts_eq arguments]
  | conditional condition yes no =>
      simp only [Expr.renamed, exprText, unseen.conditionText_eq condition,
        unseen.exprText_eq yes, unseen.exprText_eq no]
  | listener _ _ parameters body =>
      simp only [Expr.renamed, exprText, unseen.parameterTexts_eq,
        unseen.inside.writeAll_eq body]

theorem Unseen.exprTexts_eq {receiver : Option String} {depth : Nat}
    (unseen : Unseen f receiver) (arguments : List Expr) :
    exprTexts spell receiver depth (Expr.renamedAll f arguments)
      = exprTexts spell receiver depth arguments := by
  cases arguments with
  | nil => rfl
  | cons e rest =>
      simp only [Expr.renamedAll, exprTexts, unseen.exprText_eq e, unseen.exprTexts_eq rest]

theorem Unseen.conditionText_eq {receiver : Option String} {depth : Nat}
    (unseen : Unseen f receiver) (c : Condition) :
    conditionText spell receiver depth (c.renamed f) = conditionText spell receiver depth c := by
  cases c with
  | instanceOf operand _ | isNull operand | notNull operand =>
      simp only [Condition.renamed, conditionText, unseen.exprText_eq operand]
  | equal left right =>
      simp only [Condition.renamed, conditionText, unseen.exprText_eq left,
        unseen.exprText_eq right]

theorem Unseen.write_eq {receiver : Option String} {page : Page}
    (unseen : Unseen f receiver) (s : Statement) :
    write spell receiver page (s.renamed f) = write spell receiver page s := by
  cases s with
  | run e => simp only [Statement.renamed, write, unseen.exprText_eq e]
  | declare name _ _ init =>
      simp only [Statement.renamed, write, unseen.spelled, unseen.exprText_eq init]
  | assign target value =>
      simp only [Statement.renamed, write, unseen.exprText_eq target, unseen.exprText_eq value]
  | branch condition yes no =>
      have empty : (Statement.renamedAll f no).isEmpty = no.isEmpty := by cases no <;> rfl
      simp only [Statement.renamed, write, unseen.conditionText_eq condition,
        unseen.writeAll_eq yes, unseen.writeAll_eq no, empty]

theorem Unseen.writeAll_eq {receiver : Option String} {page : Page}
    (unseen : Unseen f receiver) (body : List Statement) :
    writeAll spell receiver page (Statement.renamedAll f body)
      = writeAll spell receiver page body := by
  cases body with
  | nil => rfl
  | cons s rest =>
      simp only [Statement.renamedAll, writeAll, unseen.write_eq s, unseen.writeAll_eq rest]

end

/-! ### Files -/

section Files

variable {simpleName : String} {page : Page} {m : Callable} {d : Delegate} {c : Companion}

/-- The receiver keeps its name. -/
theorem Unseen.receiver_eq (unseen : Unseen f (m.receiver?.map (·.name))) :
    (m.renamed f).receiver?.map (·.name) = m.receiver?.map (·.name) := by
  rw [Callable.receiver?_renamed]
  cases found : m.receiver? with
  | none => rfl
  | some r =>
      rw [found] at unseen
      exact (unseen.receiver r.name).mpr rfl ▸ rfl

theorem Unseen.writeFunction_eq (unseen : Unseen f (m.receiver?.map (·.name))) :
    writeFunction spell simpleName page (m.renamed f) = writeFunction spell simpleName page m := by
  have receiver : (m.renamed f).receiver?.map (·.type) = m.receiver?.map (·.type) := by
    rw [Callable.receiver?_renamed, Option.map_map]
    rfl
  have head : headText spell (extension simpleName (m.renamed f)) (m.renamed f).arguments
      = headText spell (extension simpleName m) m.arguments := by
    rw [headText, headText, extension, extension, receiver, Callable.arguments_renamed,
      unseen.parameterTexts_eq]
    rfl
  rw [Kotlin.writeFunction_eq, Kotlin.writeFunction_eq, head, unseen.receiver_eq]
  exact congrArg (Page.closing · "\x7d") (unseen.writeAll_eq m.body)

theorem Unseen.writeDelegate_eq {receiver : Option String} (unseen : Unseen f receiver) :
    writeDelegate spell simpleName page (m.renamed f) d
      = writeDelegate spell simpleName page m d := by
  have forwarded : (m.arguments.map (Parameter.renamed f)).map
      (fun p => Naming.kotlinName p.name) = m.arguments.map fun p => Naming.kotlinName p.name := by
    rw [List.map_map]
    exact List.map_congr_left fun p _ => unseen.spelled p.name
  rw [writeDelegate, writeDelegate, Callable.arguments_renamed, unseen.parameterTexts_eq, forwarded]
  rfl

/-- The companion with other names for the variables of its Kotlin functions. -/
def renamed (f : String → String) (c : Companion) : Companion :=
  { c with
    full := c.full.renamed f
    variants := c.variants.map (Callable.renamed f)
    noOptional := c.noOptional.renamed f
    finishWithResult := c.finishWithResult.map (Callable.renamed f) }

theorem members_renamed : members (renamed f c) = (members c).map (Callable.renamed f) := by
  simp [members, renamed, Companion.startFamily, Option.toList_map]

/-- **Kotlin writes the same file** for variables under names that it does not see. -/
theorem renderWith_renamed (unseen : ∀ m ∈ members c, Unseen f (m.receiver?.map (·.name)))
    (table : Imports) (header : String) :
    renderWith table (renamed f c) header = renderWith table c header := by
  have full := unseen c.full (List.mem_append_left _ List.mem_cons_self)
  have rest : (renamed f c).variants ++ [(renamed f c).noOptional]
        ++ (renamed f c).finishWithResult.toList
      = (c.variants ++ [c.noOptional] ++ c.finishWithResult.toList).map (Callable.renamed f) := by
    simp [renamed, Option.toList_map]
  have others : ∀ page : Page, ∀ m ∈ c.variants ++ [c.noOptional] ++ c.finishWithResult.toList,
      writeFunction table.spell c.target.simpleName page.blank (m.renamed f)
        = writeFunction table.spell c.target.simpleName page.blank m := by
    intro page m hm
    refine (unseen m ?_).writeFunction_eq
    rw [members, Companion.startFamily, List.cons_append, List.cons_append]
    exact List.mem_cons_of_mem _ hm
  have target : (renamed f c).target = c.target := rfl
  rw [renderWith, renderWith, rest, List.foldl_map, target, List.foldl_ext _ _ _ others]
  simp only [renamed, full.writeFunction_eq, full.writeDelegate_eq]

end Files

/-- Kotlin does not see that keywords were put into backticks before, unless the receiver is one, or
looks like one in backticks. -/
theorem unseen_kotlinName {receiver : Option String}
    (plain : ∀ r ∈ receiver, r ∉ Naming.kotlinKeywords ∧ r.toList.head? ≠ some '\x60') :
    Unseen Naming.kotlinName receiver where
  spelled name := Naming.kotlinName_of_not_mem (Naming.kotlinName_not_mem name)
  receiver name := by
    constructor
    · intro same
      have untouched := (plain _ same).2
      unfold Naming.kotlinName at same
      split at same
      · rename_i keyword
        refine absurd ?_ untouched
        rw [Naming.kotlinName, if_pos keyword]
        simp
      · exact same
    · intro same
      rw [Naming.kotlinName_of_not_mem (plain name same).1, same]

end Kotlin

end Companions
