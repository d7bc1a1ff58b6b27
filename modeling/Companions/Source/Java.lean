import Companions.Companion
import Companions.Source.Imports
import Companions.Source.Quoted

/-!
A companion as a Java class: a final class of static methods with its constants, the state
callables, the listener interface and, if Java is selected, the start family and the finishing
callable. What is written depends on the import table only through the list of imports and the
spelling of each class.
-/

namespace Companions.Java

section Code

variable (spell : ClassName → String)

mutual

/-- A type as Java spells it. -/
def typeText : ValueType → String
  | .primitive kind => kind.name
  | .declared cls arguments =>
    if arguments.isEmpty then spell cls
    else spell cls ++ "<" ++ joined ", " (typeTexts arguments) ++ ">"
  | .array component => typeText component ++ "[]"

/-- Types in order. -/
def typeTexts : List ValueType → List String
  | [] => []
  | t :: rest => typeText t :: typeTexts rest

end

/-- Type arguments in front of a method name. -/
def typeArgumentText (types : List ValueType) : String :=
  if types.isEmpty then "" else "<" ++ joined ", " (typeTexts spell types) ++ ">"

/-- A parameter; callbacks are final, so that anonymous classes can use them. -/
def parameterText (p : Parameter) : String :=
  (if p.role = .listener then "final " else "") ++ typeText spell p.type ++ " " ++ p.name

/-- A parameter list. -/
def parameterTexts (parameters : List Parameter) : String :=
  joined ", " (parameters.map (parameterText spell))

/-- A constant; narrow integers need a cast and wide ones a suffix. -/
def literalText : Literal → String
  | .null => "null"
  | .boolean value => if value then "true" else "false"
  | .integer value type =>
    match type with
    | .long => toString value ++ "L"
    | .short | .byte | .char => "(" ++ type.name ++ ") " ++ toString value
    | _ => toString value
  | .float value type => value.literal ++ if type = .float then "f" else ""
  | .text value => Source.quoted false value

/-- The text of an expression where a dot or a cast operand needs a primary: casts and conditionals
go into parentheses. -/
def primaryText (e : Expr) (text : String) : String :=
  match e with
  | .cast .. | .conditional .. => "(" ++ text ++ ")"
  | _ => text

mutual

/-- An expression on a line at `depth`. -/
def exprText (depth : Nat) : Expr → String
  | .ident name => name
  | .literal value => literalText value
  | .classLiteral cls => spell cls ++ ".class"
  | .create cls diamond arguments =>
    "new " ++ spell cls ++ (if diamond then "<>" else "") ++ "("
      ++ joined ", " (exprTexts depth arguments) ++ ")"
  | .cast cls operand =>
    "(" ++ spell cls ++ ") " ++ primaryText operand (exprText depth operand)
  | .call target method typeArguments arguments =>
    primaryText target (exprText depth target) ++ "." ++ typeArgumentText spell typeArguments
      ++ method ++ "(" ++ joined ", " (exprTexts depth arguments) ++ ")"
  | .property target name =>
    primaryText target (exprText depth target) ++ ".get" ++ Naming.capitalize name ++ "()"
  | .field target name => primaryText target (exprText depth target) ++ "." ++ name
  | .staticCall owner method typeArguments arguments =>
    spell owner ++ "." ++ typeArgumentText spell typeArguments ++ method ++ "("
      ++ joined ", " (exprTexts depth arguments) ++ ")"
  | .singletonCall object method typeArguments arguments =>
    spell object ++ ".INSTANCE." ++ typeArgumentText spell typeArguments ++ method ++ "("
      ++ joined ", " (exprTexts depth arguments) ++ ")"
  | .staticField owner name => spell owner ++ "." ++ name
  | .conditional condition yes no =>
    conditionText depth condition ++ " ? " ++ exprText depth yes ++ " : " ++ exprText depth no
  | .nonNull operand => exprText depth operand
  | .listener interface method parameters body =>
    let page := (Page.startingAt (depth + 1)).line "@Override"
    let page := page.opening
      ("public void " ++ method ++ "(" ++ parameterTexts spell parameters ++ ")")
    let page := (writeAll page body).closing "\x7d"
    "new " ++ spell interface ++ "() \x7b\n" ++ page.inline ++ "\n" ++ indentation depth ++ "\x7d"

/-- Expressions in order. -/
def exprTexts (depth : Nat) : List Expr → List String
  | [] => []
  | e :: rest => exprText depth e :: exprTexts depth rest

/-- A test on a line at `depth`. -/
def conditionText (depth : Nat) : Condition → String
  | .instanceOf operand cls => exprText depth operand ++ " instanceof " ++ spell cls
  | .isNull operand => exprText depth operand ++ " == null"
  | .notNull operand => exprText depth operand ++ " != null"
  | .equal left right => exprText depth left ++ " == " ++ exprText depth right

/-- Writes a statement. -/
def write (page : Page) : Statement → Page
  | .run e => page.line (exprText page.depth e ++ ";")
  | .declare name _ type init =>
    page.line (typeText spell type ++ " " ++ name ++ " = " ++ exprText page.depth init ++ ";")
  | .assign target value =>
    page.line (exprText page.depth target ++ " = " ++ exprText page.depth value ++ ";")
  | .branch condition yes no =>
    let page := page.opening ("if (" ++ conditionText page.depth condition ++ ")")
    let page := writeAll page yes
    if no.isEmpty then page.closing "\x7d"
    else (writeAll (page.reopening "else") no).closing "\x7d"

/-- Writes statements in order. -/
def writeAll (page : Page) : List Statement → Page
  | [] => page
  | s :: rest => writeAll (write page s) rest

end

/-- Writes a static method. -/
def writeCallable (page : Page) (c : Callable) : Page :=
  let page := page.comment c.docs
  let page := page.opening
    ("public static void " ++ c.name ++ "(" ++ parameterTexts spell c.parameters ++ ")")
  (writeAll spell page c.body).closing "\x7d"

/-- Writes a nested interface. -/
def writeListener (page : Page) (l : Listener) : Page :=
  let page := page.opening ("public interface " ++ l.name.simpleName)
  let page := page.line
    ("void " ++ l.method ++ "(" ++ parameterTexts spell l.parameters ++ ");")
  page.closing "\x7d"

end Code

/-- The callables of the Java class, in order. -/
def members (c : Companion) : List Callable :=
  (if c.dialects.java then c.startFamily ++ c.finishWithResult.toList else [])
    ++ [c.inject, c.saveState]

/-- Every class the Java file mentions besides the one it declares. -/
def mentioned (c : Companion) : List ClassName :=
  (members c).flatMap Callable.classes
    ++ c.listener.toList.flatMap fun l => parameterClasses l.parameters

/-- The import table of the Java file. The name of the nested interface stays free for it. -/
def imports (c : Companion) : Imports :=
  Imports.make c.name.package c.name (c.listener.toList.map fun l => l.name.simpleName)
    (mentioned c)

/-- The Java file under a given import table. -/
def renderWith (table : Imports) (c : Companion) (header : String) : String :=
  let page := table.writeTop header ";"
  let page := (page.comment c.docs).opening ("public final class " ++ c.name.simpleName)
  let page := c.constants.foldl
    (fun page constant => page.line
      ("public static final String " ++ constant.name ++ " = "
        ++ Source.quoted false constant.value ++ ";"))
    page
  let page := page.blank.opening ("private " ++ c.name.simpleName ++ "()")
  let page := page.closing "\x7d"
  let page := (members c).foldl (fun page m => writeCallable table.spell page.blank m) page
  let page := c.listener.toList.foldl (fun page l => writeListener table.spell page.blank l) page
  (page.closing "\x7d").text

/-- The Java file of a companion. -/
def render (c : Companion) (header : String) : String :=
  renderWith (imports c) c header

end Companions.Java
