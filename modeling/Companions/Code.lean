import Companions.Number.Binary64
import Companions.ValueType

/-!
The code of generated bodies, apart from the language it is written in: expressions, conditions
and statements, and the classes that each of them mentions.
-/

namespace Companions

/-- What a parameter is to its callable: the value it is called on, an argument, or a callback. -/
inductive Role where
  | receiver
  | value
  | listener
deriving Repr, DecidableEq, Inhabited

/-- A parameter of a callable. -/
structure Parameter where
  name : String
  type : ValueType
  role : Role := .value
  nullable : Bool := false
deriving Repr, Inhabited

/-- Whether the callable is called on this parameter. -/
def Parameter.isReceiver (p : Parameter) : Bool :=
  p.role == .receiver

/-- A constant in code. Numbers carry the primitive type they are written for. -/
inductive Literal where
  | null
  | boolean (value : Bool)
  | integer (value : Int) (type : Primitive)
  | float (value : Number.Binary64) (type : Primitive)
  | text (value : String)
deriving Repr, DecidableEq, Inhabited

mutual

/-- An expression. -/
inductive Expr where
  /-- A parameter or a local. -/
  | ident (name : String)
  | literal (value : Literal)
  /-- The class itself as a value. -/
  | classLiteral (cls : ClassName)
  /-- A new object; `diamond` leaves its type arguments to be inferred. -/
  | create (cls : ClassName) (diamond : Bool) (arguments : List Expr)
  | cast (cls : ClassName) (operand : Expr)
  | call (target : Expr) (method : String) (typeArguments : List ValueType)
      (arguments : List Expr)
  /-- What the getter of that name returns. -/
  | property (target : Expr) (name : String)
  | field (target : Expr) (name : String)
  | staticCall (owner : ClassName) (method : String) (typeArguments : List ValueType)
      (arguments : List Expr)
  /-- A call on the only instance of a class. -/
  | singletonCall (object : ClassName) (method : String) (typeArguments : List ValueType)
      (arguments : List Expr)
  | staticField (owner : ClassName) (name : String)
  | conditional (condition : Condition) (yes no : Expr)
  /-- The operand, which is known not to be null. -/
  | nonNull (operand : Expr)
  /-- An object made on the spot that implements an interface with one method. -/
  | listener (interface : ClassName) (method : String) (parameters : List Parameter)
      (body : List Statement)

/-- A test. -/
inductive Condition where
  | instanceOf (operand : Expr) (cls : ClassName)
  | isNull (operand : Expr)
  | notNull (operand : Expr)
  | equal (left right : Expr)

/-- A statement. -/
inductive Statement where
  | run (e : Expr)
  /-- A new local; `spelled` asks for its type even where it could be inferred. -/
  | declare (name : String) (spelled : Bool) (type : ValueType) (init : Expr)
  | assign (target value : Expr)
  | branch (condition : Condition) (yes no : List Statement)

end

instance : Inhabited Expr := ⟨.ident ""⟩
instance : Inhabited Condition := ⟨.isNull default⟩
instance : Inhabited Statement := ⟨.run default⟩

/-! ### The classes that code mentions -/

/-- The classes in the types of parameters. -/
def parameterClasses (parameters : List Parameter) : List ClassName :=
  ValueType.classesOf (parameters.map (·.type))

mutual

/-- Every class an expression mentions. -/
def Expr.classes : Expr → List ClassName
  | .ident _ => []
  | .literal _ => []
  | .classLiteral cls => [cls]
  | .create cls _ arguments => cls :: Expr.classesOf arguments
  | .cast cls operand => cls :: Expr.classes operand
  | .call target _ typeArguments arguments =>
    Expr.classes target ++ ValueType.classesOf typeArguments ++ Expr.classesOf arguments
  | .property target _ => Expr.classes target
  | .field target _ => Expr.classes target
  | .staticCall owner _ typeArguments arguments =>
    owner :: ValueType.classesOf typeArguments ++ Expr.classesOf arguments
  | .singletonCall object _ typeArguments arguments =>
    object :: ValueType.classesOf typeArguments ++ Expr.classesOf arguments
  | .staticField owner _ => [owner]
  | .conditional condition yes no =>
    Condition.classes condition ++ Expr.classes yes ++ Expr.classes no
  | .nonNull operand => Expr.classes operand
  | .listener interface _ parameters body =>
    interface :: parameterClasses parameters ++ Statement.classesOf body

/-- Every class the expressions of a list mention. -/
def Expr.classesOf : List Expr → List ClassName
  | [] => []
  | e :: rest => Expr.classes e ++ Expr.classesOf rest

/-- Every class a test mentions. -/
def Condition.classes : Condition → List ClassName
  | .instanceOf operand cls => cls :: Expr.classes operand
  | .isNull operand => Expr.classes operand
  | .notNull operand => Expr.classes operand
  | .equal left right => Expr.classes left ++ Expr.classes right

/-- Every class a statement mentions. -/
def Statement.classes : Statement → List ClassName
  | .run e => Expr.classes e
  | .declare _ _ type init => type.classes ++ Expr.classes init
  | .assign target value => Expr.classes target ++ Expr.classes value
  | .branch condition yes no =>
    Condition.classes condition ++ Statement.classesOf yes ++ Statement.classesOf no

/-- Every class the statements of a list mention. -/
def Statement.classesOf : List Statement → List ClassName
  | [] => []
  | s :: rest => Statement.classes s ++ Statement.classesOf rest

end

end Companions
