import Companions.Companion
import Companions.Source.Imports
import Companions.Source.Quoted

/-!
The start family of a companion as Kotlin extension functions. The receiver parameter becomes the
extension receiver: it is written `this`, and members are called on it without a prefix, except
inside an object expression, where `this` is the object. Classes of `java.lang` that Kotlin has
under names of its own are spelled by those; all others go by the import table.
-/

namespace Companions.Kotlin

/-- The Kotlin name of a class of `java.lang` that Kotlin has built in. -/
def builtin? (c : ClassName) : Option String :=
  if c.package = javaLang ∧ c.inner = [] then
    match c.outer with
    | "Object" => some "Any"
    | "String" => some "String"
    | "CharSequence" => some "CharSequence"
    | "Integer" => some "Int"
    | "Character" => some "Char"
    | "Boolean" => some "Boolean"
    | "Byte" => some "Byte"
    | "Short" => some "Short"
    | "Long" => some "Long"
    | "Float" => some "Float"
    | "Double" => some "Double"
    | _ => none
  else none

section Code

variable (spell : ClassName → String)

/-- A class as Kotlin spells it. -/
def classText (c : ClassName) : String :=
  (builtin? c).getD (spell c)

mutual

/-- A type as Kotlin spells it. -/
def typeText : ValueType → String
  | .primitive kind => kind.kotlinName
  | .declared cls arguments =>
    if arguments.isEmpty then classText spell cls
    else classText spell cls ++ "<" ++ joined ", " (typeTexts arguments) ++ ">"
  | .array component =>
    match component.primitive? with
    | some kind => kind.kotlinName ++ "Array"
    | none => "Array<" ++ typeText component ++ ">"

/-- Types in order. -/
def typeTexts : List ValueType → List String
  | [] => []
  | t :: rest => typeText t :: typeTexts rest

end

/-- Type arguments after a method name. -/
def typeArgumentText (types : List ValueType) : String :=
  if types.isEmpty then "" else "<" ++ joined ", " (typeTexts spell types) ++ ">"

/-- A parameter; a callback may be left out. -/
def parameterText (p : Parameter) : String :=
  Naming.kotlinName p.name ++ ": " ++ typeText spell p.type ++ (if p.nullable then "?" else "")
    ++ if p.role = .listener then " = null" else ""

/-- A parameter list. -/
def parameterTexts (parameters : List Parameter) : String :=
  joined ", " (parameters.map (parameterText spell))

/-- A constant; narrow integers are converted and wide ones take a suffix. -/
def literalText : Literal → String
  | .null => "null"
  | .boolean value => if value then "true" else "false"
  | .integer value type =>
    match type with
    | .long => toString value ++ "L"
    | .short | .byte | .char => toString value ++ ".to" ++ type.kotlinName ++ "()"
    | _ => toString value
  | .float value type => value.literal ++ if type = .float then "f" else ""
  | .text value => Source.quoted true value

/-- Whether an expression is the extension receiver. -/
def isReceiver (receiver : Option String) : Expr → Bool
  | .ident name => receiver == some name
  | _ => false

/-- What stands in front of a member: nothing on the receiver, else the target and a dot. -/
def memberAccess (receiver : Option String) (target : Expr) (text : String) : String :=
  if isReceiver receiver target then "" else text ++ "."

mutual

/-- An expression on a line at `depth`, where `receiver` is the name that stands for `this`. -/
def exprText (receiver : Option String) (depth : Nat) : Expr → String
  | .ident name => if receiver == some name then "this" else Naming.kotlinName name
  | .literal value => literalText value
  | .classLiteral cls => classText spell cls ++ "::class.java"
  | .create cls _ arguments =>
    classText spell cls ++ "(" ++ joined ", " (exprTexts receiver depth arguments) ++ ")"
  | .cast cls operand =>
    "(" ++ exprText receiver depth operand ++ " as " ++ classText spell cls ++ ")"
  | .call target method typeArguments arguments =>
    memberAccess receiver target (exprText receiver depth target) ++ method
      ++ typeArgumentText spell typeArguments ++ "("
      ++ joined ", " (exprTexts receiver depth arguments) ++ ")"
  | .property target name => memberAccess receiver target (exprText receiver depth target) ++ name
  | .field target name => memberAccess receiver target (exprText receiver depth target) ++ name
  | .staticCall owner method typeArguments arguments =>
    classText spell owner ++ "." ++ method ++ typeArgumentText spell typeArguments ++ "("
      ++ joined ", " (exprTexts receiver depth arguments) ++ ")"
  | .singletonCall object method typeArguments arguments =>
    classText spell object ++ "." ++ method ++ typeArgumentText spell typeArguments ++ "("
      ++ joined ", " (exprTexts receiver depth arguments) ++ ")"
  | .staticField owner name => classText spell owner ++ "." ++ name
  | .conditional condition yes no =>
    "if (" ++ conditionText receiver depth condition ++ ") " ++ exprText receiver depth yes
      ++ " else " ++ exprText receiver depth no
  | .nonNull operand => exprText receiver depth operand ++ "!!"
  | .listener interface method parameters body =>
    let page := (Page.startingAt (depth + 1)).opening
      ("override fun " ++ method ++ "(" ++ parameterTexts spell parameters ++ ")")
    let page := (writeAll none page body).closing "\x7d"
    "object : " ++ classText spell interface ++ " \x7b\n" ++ page.inline ++ "\n"
      ++ indentation depth ++ "\x7d"

/-- Expressions in order. -/
def exprTexts (receiver : Option String) (depth : Nat) : List Expr → List String
  | [] => []
  | e :: rest => exprText receiver depth e :: exprTexts receiver depth rest

/-- A test on a line at `depth`. -/
def conditionText (receiver : Option String) (depth : Nat) : Condition → String
  | .instanceOf operand cls => exprText receiver depth operand ++ " is " ++ classText spell cls
  | .isNull operand => exprText receiver depth operand ++ " == null"
  | .notNull operand => exprText receiver depth operand ++ " != null"
  | .equal left right => exprText receiver depth left ++ " == " ++ exprText receiver depth right

/-- Writes a statement. -/
def write (receiver : Option String) (page : Page) : Statement → Page
  | .run e => page.line (exprText receiver page.depth e)
  | .declare name spelled type init =>
    page.line ("val " ++ Naming.kotlinName name
      ++ (if spelled then ": " ++ typeText spell type else "") ++ " = "
      ++ exprText receiver page.depth init)
  | .assign target value =>
    page.line (exprText receiver page.depth target ++ " = " ++ exprText receiver page.depth value)
  | .branch condition yes no =>
    let page := page.opening ("if (" ++ conditionText receiver page.depth condition ++ ")")
    let page := writeAll receiver page yes
    if no.isEmpty then page.closing "\x7d"
    else (writeAll receiver (page.reopening "else") no).closing "\x7d"

/-- Writes statements in order. -/
def writeAll (receiver : Option String) (page : Page) : List Statement → Page
  | [] => page
  | s :: rest => writeAll receiver (write receiver page s) rest

end

end Code

/-- The text without `front`, if it starts with it. -/
def withoutFront? (front text : String) : Option String :=
  if text.toList.take front.length = front.toList then
    some (String.ofList (text.toList.drop front.length))
  else none

/-- The name of an extension function. A start or show callable gets the simple name of its screen
after the verb, so that the extensions of different screens on one receiver differ. -/
def functionName (simpleName : String) (c : Callable) : String :=
  let named (verb : String) : String :=
    match withoutFront? verb c.name with
    | some rest => verb ++ simpleName ++ rest
    | none => c.name ++ simpleName
  match c.purpose with
  | .start => named "start"
  | .show => named "show"
  | _ => c.name

section File

variable (spell : ClassName → String) (simpleName : String)

/-- Writes an extension function. -/
def writeFunction (page : Page) (c : Callable) : Page :=
  let receiver := c.receiver?
  let front := match receiver with
    | some r => typeText spell r.type ++ "."
    | none => ""
  let page := (page.comment c.docs).opening
    ("fun " ++ front ++ functionName simpleName c ++ "(" ++ parameterTexts spell c.arguments ++ ")")
  (writeAll spell (receiver.map (·.name)) page c.body).closing "\x7d"

/-- Writes an extension on another receiver that passes its arguments on to `c`. -/
def writeDelegate (page : Page) (c : Callable) (d : Delegate) : Page :=
  let name := functionName simpleName c
  let page := page.opening
    ("fun " ++ spell d.receiver ++ "." ++ name ++ "(" ++ parameterTexts spell c.arguments ++ ")")
  let forwarded := joined ", " (c.arguments.map fun p => Naming.kotlinName p.name)
  let access := if d.nullable then "?." else "."
  (page.line (d.property ++ access ++ name ++ "(" ++ forwarded ++ ")")).closing "\x7d"

end File

/-- The callables of the Kotlin file. -/
def members (c : Companion) : List Callable :=
  c.startFamily ++ c.finishWithResult.toList

/-- Every class the Kotlin file may have to import. -/
def mentioned (c : Companion) : List ClassName :=
  ((members c).flatMap Callable.classes ++ c.delegates.map (·.receiver)).filter
    fun cls => (builtin? cls).isNone

/-- The import table of the Kotlin file. -/
def imports (c : Companion) : Imports :=
  Imports.make c.name.package c.name [] (mentioned c)

/-- The Kotlin file under a given import table. -/
def renderWith (table : Imports) (c : Companion) (header : String) : String :=
  let simpleName := c.target.simpleName
  let page := table.writeTop header ""
  let page := writeFunction table.spell simpleName page c.full
  let page := c.delegates.foldl
    (fun page d => writeDelegate table.spell simpleName page.blank c.full d) page
  let page := (c.variants ++ [c.noOptional] ++ c.finishWithResult.toList).foldl
    (fun page m => writeFunction table.spell simpleName page.blank m) page
  page.text

/-- The Kotlin file of a companion. -/
def render (c : Companion) (header : String) : String :=
  renderWith (imports c) c header

end Companions.Kotlin
