import Companions.Proofs.Source.Pages
import Companions.Proofs.Text.Brackets
import Companions.Source.Java

/-!
Java writes nothing for an assertion that a value is not null.

`Expr.unasserted` and its kin take the assertions out of code. What Java writes changes by that in
one way: an expression of which a member is taken, or which is cast, goes into parentheses if it is
a cast or a choice, and an assertion around it keeps them off. `Java.lost` counts these places. The
text without assertions is the text with assertions and as many parts in parentheses
(`Text.Parenthesized`), so the two are the same exactly when there is no such place
(`Java.unasserted_text`). Where there is one, the text with the assertion means another thing:
`(Activity) context.title` is the title of the context.
-/

namespace Companions

/-! ### Parentheses around parts of a text -/

/-- The second text is the first one with `n` of its parts in parentheses. -/
inductive Text.Parenthesized : (n : Nat) → String → String → Prop where
  | refl (s : String) : Parenthesized 0 s s
  | append {m n : Nat} {s s' t t' : String} : Parenthesized m s s' → Parenthesized n t t' →
      Parenthesized (m + n) (s ++ t) (s' ++ t')
  | around {n : Nat} {s s' : String} : Parenthesized n s s' →
      Parenthesized (n + 1) s ("(" ++ s' ++ ")")

namespace Text.Parenthesized

variable {m n : Nat} {s s' t t' : String}

theorem sublist (h : Parenthesized n s s') : s.toList.Sublist s'.toList := by
  induction h with
  | refl s => exact List.Sublist.refl _
  | append _ _ ih ih' =>
      rw [String.toList_append, String.toList_append]
      exact ih.append ih'
  | around _ ih =>
      rw [String.toList_append, String.toList_append]
      exact (ih.trans (List.sublist_append_right _ _)).trans (List.sublist_append_left _ _)

theorem length_eq (h : Parenthesized n s s') : s'.length = s.length + 2 * n := by
  induction h with
  | refl s => rfl
  | append _ _ ih ih' =>
      rw [String.length_append, String.length_append, ih, ih']
      omega
  | around _ ih =>
      rw [String.length_append, String.length_append, ih]
      have one : "(".length = 1 ∧ ")".length = 1 := by decide
      omega

/-- Only parentheses make a difference. -/
theorem eq_iff (h : Parenthesized n s s') : s = s' ↔ n = 0 := by
  constructor
  · rintro rfl
    have length := h.length_eq
    omega
  · rintro rfl
    refine String.toList_inj.mp (h.sublist.eq_of_length ?_)
    rw [String.length_toList, String.length_toList, h.length_eq]
    rfl

theorem ne_empty (h : Parenthesized n s s') (filled : s ≠ "") : s' ≠ "" := by
  rintro rfl
  have none := List.sublist_nil.mp h.sublist
  exact filled (String.toList_eq_nil_iff.mp none)

theorem before (h : Parenthesized n s s') : Parenthesized n (s ++ t) (s' ++ t) :=
  h.append (.refl t)

theorem behind (h : Parenthesized n s s') : Parenthesized n (t ++ s) (t ++ s') := by
  have whole := (refl t).append h
  rwa [Nat.zero_add] at whole

/-- What follows the first text of a list. -/
theorem listTail {texts texts' : List String}
    (h : Parenthesized n (joined ", " texts) (joined ", " texts'))
    (same : texts = [] ↔ texts' = []) : Parenthesized n (listTail texts) (listTail texts') := by
  cases texts with
  | nil =>
      rw [same.mp rfl] at h ⊢
      exact h
  | cons first rest =>
      cases texts' with
      | nil => exact absurd (same.mpr rfl) (List.cons_ne_nil _ _)
      | cons first' rest' =>
          rw [listTail_cons, listTail_cons]
          exact h.behind

end Text.Parenthesized

/-- The second page is the first one with `n` parts of its text in parentheses. -/
structure Page.Parenthesized (n : Nat) (page page' : Page) : Prop where
  depth : page.depth = page'.depth
  text : Text.Parenthesized n page.text page'.text

namespace Page.Parenthesized

variable {m n : Nat} {page page' : Page} {text text' : String}

theorem refl (page : Page) : Parenthesized 0 page page :=
  ⟨rfl, .refl _⟩

theorem line (h : Parenthesized m page page') (h' : Text.Parenthesized n text text')
    (filled : text ≠ "") : Parenthesized (m + n) (page.line text) (page'.line text') := by
  refine ⟨h.depth, ?_⟩
  rw [text_line filled, text_line (h'.ne_empty filled), h.depth]
  exact (h.text.before.append h').before

theorem opening (h : Parenthesized m page page') (h' : Text.Parenthesized n text text') :
    Parenthesized (m + n) (page.opening text) (page'.opening text') := by
  have written := h.line (h'.before (t := " \x7b")) (by simp)
  exact ⟨congrArg (· + 1) written.depth, written.text⟩

theorem closing (h : Parenthesized n page page') (filled : text ≠ "") :
    Parenthesized n (page.closing text) (page'.closing text) := by
  have outside : Parenthesized n { page with depth := page.depth - 1 }
      { page' with depth := page'.depth - 1 } := ⟨congrArg (· - 1) h.depth, h.text⟩
  exact outside.line (.refl text) filled

theorem reopening (h : Parenthesized n page page') :
    Parenthesized n (page.reopening text) (page'.reopening text) := by
  have outside : Parenthesized n { page with depth := page.depth - 1 }
      { page' with depth := page'.depth - 1 } := ⟨congrArg (· - 1) h.depth, h.text⟩
  have written := outside.line (.refl ("\x7d " ++ text ++ " \x7b")) (by simp)
  exact ⟨congrArg (· + 1) written.depth, written.text⟩

theorem eq_iff (h : Parenthesized n page page') : page = page' ↔ n = 0 := by
  rw [← h.text.eq_iff]
  constructor
  · exact congrArg Page.text
  · intro text
    cases page
    cases page'
    exact congrArg₂ Page.mk text h.depth

end Page.Parenthesized

/-! ### Code without assertions -/

mutual

/-- The expression with every asserted operand in place of the assertion. -/
def Expr.unasserted : Expr → Expr
  | .ident name => .ident name
  | .literal value => .literal value
  | .classLiteral cls => .classLiteral cls
  | .create cls diamond arguments => .create cls diamond (Expr.unassertedAll arguments)
  | .cast cls operand => .cast cls (Expr.unasserted operand)
  | .call target method typeArguments arguments =>
    .call (Expr.unasserted target) method typeArguments (Expr.unassertedAll arguments)
  | .property target name => .property (Expr.unasserted target) name
  | .field target name => .field (Expr.unasserted target) name
  | .staticCall owner method typeArguments arguments =>
    .staticCall owner method typeArguments (Expr.unassertedAll arguments)
  | .singletonCall object method typeArguments arguments =>
    .singletonCall object method typeArguments (Expr.unassertedAll arguments)
  | .staticField owner name => .staticField owner name
  | .conditional condition yes no =>
    .conditional (Condition.unasserted condition) (Expr.unasserted yes) (Expr.unasserted no)
  | .nonNull operand => Expr.unasserted operand
  | .listener interface method parameters body =>
    .listener interface method parameters (Statement.unassertedAll body)

/-- Expressions in order. -/
def Expr.unassertedAll : List Expr → List Expr
  | [] => []
  | e :: rest => Expr.unasserted e :: Expr.unassertedAll rest

/-- The test with its operands. -/
def Condition.unasserted : Condition → Condition
  | .instanceOf operand cls => .instanceOf (Expr.unasserted operand) cls
  | .isNull operand => .isNull (Expr.unasserted operand)
  | .notNull operand => .notNull (Expr.unasserted operand)
  | .equal left right => .equal (Expr.unasserted left) (Expr.unasserted right)

/-- The statement with its expressions. -/
def Statement.unasserted : Statement → Statement
  | .run e => .run (Expr.unasserted e)
  | .declare name spelled type init => .declare name spelled type (Expr.unasserted init)
  | .assign target value => .assign (Expr.unasserted target) (Expr.unasserted value)
  | .branch condition yes no =>
    .branch (Condition.unasserted condition) (Statement.unassertedAll yes)
      (Statement.unassertedAll no)

/-- Statements in order. -/
def Statement.unassertedAll : List Statement → List Statement
  | [] => []
  | s :: rest => Statement.unasserted s :: Statement.unassertedAll rest

end

mutual

/-- An assertion brings in no classes. -/
theorem Expr.classes_unasserted (e : Expr) : e.unasserted.classes = e.classes := by
  cases e with
  | ident _ | literal _ | classLiteral _ | staticField _ _ => rfl
  | create _ _ arguments | staticCall _ _ _ arguments | singletonCall _ _ _ arguments =>
      simp only [Expr.unasserted, Expr.classes, Expr.classesOf_unassertedAll arguments]
  | cast _ operand | property operand _ | field operand _ | nonNull operand =>
      simp only [Expr.unasserted, Expr.classes, Expr.classes_unasserted operand]
  | call target _ _ arguments =>
      simp only [Expr.unasserted, Expr.classes, Expr.classes_unasserted target,
        Expr.classesOf_unassertedAll arguments]
  | conditional condition yes no =>
      simp only [Expr.unasserted, Expr.classes, Condition.classes_unasserted condition,
        Expr.classes_unasserted yes, Expr.classes_unasserted no]
  | listener _ _ _ body =>
      simp only [Expr.unasserted, Expr.classes, Statement.classesOf_unassertedAll body]

theorem Expr.classesOf_unassertedAll (arguments : List Expr) :
    Expr.classesOf (Expr.unassertedAll arguments) = Expr.classesOf arguments := by
  cases arguments with
  | nil => rfl
  | cons e rest =>
      simp only [Expr.unassertedAll, Expr.classesOf, Expr.classes_unasserted e,
        Expr.classesOf_unassertedAll rest]

theorem Condition.classes_unasserted (c : Condition) : c.unasserted.classes = c.classes := by
  cases c with
  | instanceOf operand _ | isNull operand | notNull operand =>
      simp only [Condition.unasserted, Condition.classes, Expr.classes_unasserted operand]
  | equal left right =>
      simp only [Condition.unasserted, Condition.classes, Expr.classes_unasserted left,
        Expr.classes_unasserted right]

theorem Statement.classes_unasserted (s : Statement) : s.unasserted.classes = s.classes := by
  cases s with
  | run e | declare _ _ _ e =>
      simp only [Statement.unasserted, Statement.classes, Expr.classes_unasserted e]
  | assign target value =>
      simp only [Statement.unasserted, Statement.classes, Expr.classes_unasserted target,
        Expr.classes_unasserted value]
  | branch condition yes no =>
      simp only [Statement.unasserted, Statement.classes, Condition.classes_unasserted condition,
        Statement.classesOf_unassertedAll yes, Statement.classesOf_unassertedAll no]

theorem Statement.classesOf_unassertedAll (body : List Statement) :
    Statement.classesOf (Statement.unassertedAll body) = Statement.classesOf body := by
  cases body with
  | nil => rfl
  | cons s rest =>
      simp only [Statement.unassertedAll, Statement.classesOf, Statement.classes_unasserted s,
        Statement.classesOf_unassertedAll rest]

end

/-! ### What Java writes -/

namespace Java

/-- Whether the expression goes into parentheses where a member is taken of it or it is cast. -/
def takesParentheses : Expr → Bool
  | .cast .. | .conditional .. => true
  | _ => false

/-- One, if an assertion around the expression keeps its parentheses off. -/
def lostAround (e : Expr) : Nat :=
  if takesParentheses e.unasserted && !takesParentheses e then 1 else 0

mutual

/-- How many expressions in it are without their parentheses because of an assertion. -/
def lost : Expr → Nat
  | .ident _ | .literal _ | .classLiteral _ | .staticField _ _ => 0
  | .create _ _ arguments => lostAll arguments
  | .cast _ operand => lost operand + lostAround operand
  | .call target _ _ arguments => lost target + lostAround target + lostAll arguments
  | .property target _ => lost target + lostAround target
  | .field target _ => lost target + lostAround target
  | .staticCall _ _ _ arguments => lostAll arguments
  | .singletonCall _ _ _ arguments => lostAll arguments
  | .conditional condition yes no => lostInTest condition + lost yes + lost no
  | .nonNull operand => lost operand
  | .listener _ _ _ body => lostInBody body

/-- The expressions of a list together. -/
def lostAll : List Expr → Nat
  | [] => 0
  | e :: rest => lost e + lostAll rest

/-- The operands of a test together. -/
def lostInTest : Condition → Nat
  | .instanceOf operand _ => lost operand
  | .isNull operand => lost operand
  | .notNull operand => lost operand
  | .equal left right => lost left + lost right

/-- The expressions of a statement together. -/
def lostInStatement : Statement → Nat
  | .run e => lost e
  | .declare _ _ _ init => lost init
  | .assign target value => lost target + lost value
  | .branch condition yes no => lostInTest condition + lostInBody yes + lostInBody no

/-- The statements of a body together. -/
def lostInBody : List Statement → Nat
  | [] => 0
  | s :: rest => lostInStatement s + lostInBody rest

end

theorem primaryText_eq (e : Expr) (text : String) :
    primaryText e text = if takesParentheses e then "(" ++ text ++ ")" else text := by
  cases e <;> rfl

/-- What takes parentheses takes them without assertions as well. -/
theorem takesParentheses_unasserted {e : Expr} (h : takesParentheses e = true) :
    takesParentheses e.unasserted = true := by
  cases e <;> first | rfl | exact nomatch h

/-- Where a dot follows, or a cast stands in front, an asserted expression may lose its
parentheses. -/
theorem parenthesized_primaryText {n : Nat} {text text' : String} (e : Expr)
    (h : Text.Parenthesized n text text') :
    Text.Parenthesized (n + lostAround e) (primaryText e text)
      (primaryText e.unasserted text') := by
  rw [primaryText_eq, primaryText_eq, lostAround]
  cases inside : takesParentheses e with
  | true =>
      rw [takesParentheses_unasserted inside]
      exact h.behind.before
  | false =>
      cases outside : takesParentheses e.unasserted with
      | true => exact h.around
      | false => exact h

section Texts

variable (spell : ClassName → String)

mutual

/-- **Without its assertions an expression has the same text, but for the lost parentheses.** -/
theorem parenthesized_exprText (depth : Nat) (e : Expr) :
    Text.Parenthesized (lost e) (exprText spell depth e) (exprText spell depth e.unasserted) := by
  cases e with
  | ident _ | literal _ | classLiteral _ | staticField _ _ =>
      simp only [Expr.unasserted, lost]
      exact .refl _
  | create cls diamond arguments =>
      simp only [Expr.unasserted, lost, exprText]
      exact (parenthesized_exprTexts depth arguments).behind.before
  | cast cls operand =>
      simp only [Expr.unasserted, lost, exprText]
      exact (parenthesized_primaryText operand (parenthesized_exprText depth operand)).behind
  | call target method types arguments =>
      simp only [Expr.unasserted, lost, exprText]
      have primary := parenthesized_primaryText target (parenthesized_exprText depth target)
      exact (primary.before.before.before.before.append
        (parenthesized_exprTexts depth arguments)).before
  | property target _ =>
      simp only [Expr.unasserted, lost, exprText]
      have primary := parenthesized_primaryText target (parenthesized_exprText depth target)
      exact primary.before.before.before
  | field target _ =>
      simp only [Expr.unasserted, lost, exprText]
      exact (parenthesized_primaryText target (parenthesized_exprText depth target)).before.before
  | staticCall owner method types arguments | singletonCall owner method types arguments =>
      simp only [Expr.unasserted, lost, exprText]
      exact (parenthesized_exprTexts depth arguments).behind.before
  | conditional condition yes no =>
      simp only [Expr.unasserted, lost, exprText]
      exact ((parenthesized_conditionText depth condition).before.append
        (parenthesized_exprText depth yes)).before.append (parenthesized_exprText depth no)
  | nonNull operand =>
      simp only [Expr.unasserted, lost, exprText]
      exact parenthesized_exprText depth operand
  | listener interface method parameters body =>
      simp only [Expr.unasserted, lost, exprText, Page.inline_closing]
      have written := parenthesized_writeAll (.refl
        (((Page.startingAt (depth + 1)).line "@Override").opening
          ("public void " ++ method ++ "(" ++ parameterTexts spell parameters ++ ")"))) body
      rw [Nat.zero_add] at written
      rw [← written.depth]
      exact written.text.before.before.behind.before.before.before

theorem parenthesized_exprTexts (depth : Nat) (arguments : List Expr) :
    Text.Parenthesized (lostAll arguments) (joined ", " (exprTexts spell depth arguments))
      (joined ", " (exprTexts spell depth (Expr.unassertedAll arguments))) := by
  cases arguments with
  | nil => exact .refl _
  | cons e rest =>
      simp only [Expr.unassertedAll, lostAll, exprTexts, Text.joined_cons]
      refine (parenthesized_exprText depth e).append
        ((parenthesized_exprTexts depth rest).listTail ?_)
      cases rest <;> simp [exprTexts, Expr.unassertedAll]

theorem parenthesized_conditionText (depth : Nat) (c : Condition) :
    Text.Parenthesized (lostInTest c) (conditionText spell depth c)
      (conditionText spell depth c.unasserted) := by
  cases c with
  | instanceOf operand cls =>
      simp only [Condition.unasserted, lostInTest, conditionText]
      exact (parenthesized_exprText depth operand).before.before
  | isNull operand | notNull operand =>
      simp only [Condition.unasserted, lostInTest, conditionText]
      exact (parenthesized_exprText depth operand).before
  | equal left right =>
      simp only [Condition.unasserted, lostInTest, conditionText]
      exact (parenthesized_exprText depth left).before.append (parenthesized_exprText depth right)

theorem parenthesized_write {n : Nat} {page page' : Page} (h : Page.Parenthesized n page page')
    (s : Statement) : Page.Parenthesized (n + lostInStatement s) (write spell page s)
      (write spell page' s.unasserted) := by
  cases s with
  | run e =>
      simp only [Statement.unasserted, lostInStatement, write, ← h.depth]
      exact h.line (parenthesized_exprText page.depth e).before (by simp)
  | declare name spelled type init =>
      simp only [Statement.unasserted, lostInStatement, write, ← h.depth]
      exact h.line (parenthesized_exprText page.depth init).behind.before (by simp)
  | assign target value =>
      simp only [Statement.unasserted, lostInStatement, write, ← h.depth]
      exact h.line ((parenthesized_exprText page.depth target).before.append
        (parenthesized_exprText page.depth value)).before (by simp)
  | branch condition yes no =>
      simp only [Statement.unasserted, lostInStatement, write, ← h.depth, ← Nat.add_assoc]
      have test := parenthesized_conditionText page.depth condition
      have head := (test.behind (t := "if (")).before (t := ")")
      have first := parenthesized_writeAll (h.opening head) yes
      cases no with
      | nil => exact first.closing (by decide)
      | cons s rest =>
          exact (parenthesized_writeAll first.reopening (s :: rest)).closing (by decide)

theorem parenthesized_writeAll {n : Nat} {page page' : Page}
    (h : Page.Parenthesized n page page') (body : List Statement) :
    Page.Parenthesized (n + lostInBody body) (writeAll spell page body)
      (writeAll spell page' (Statement.unassertedAll body)) := by
  cases body with
  | nil => exact h
  | cons s rest =>
      simp only [Statement.unassertedAll, lostInBody, writeAll, ← Nat.add_assoc]
      exact parenthesized_writeAll (parenthesized_write h s) rest

end

end Texts

/-- **Java writes nothing for an assertion.** The text of code without its assertions is the text
with them and one more pair of parentheses for each place where an assertion keeps them off, so the
two are the same exactly if there is no such place. The collected classes are the same always. -/
theorem unasserted_text (spell : ClassName → String) :
    (∀ depth e,
      Text.Parenthesized (lost e) (exprText spell depth e) (exprText spell depth e.unasserted) ∧
        (exprText spell depth e = exprText spell depth e.unasserted ↔ lost e = 0)) ∧
    (∀ depth c,
      Text.Parenthesized (lostInTest c) (conditionText spell depth c)
          (conditionText spell depth c.unasserted) ∧
        (conditionText spell depth c = conditionText spell depth c.unasserted ↔
          lostInTest c = 0)) ∧
    (∀ page body,
      Page.Parenthesized (lostInBody body) (writeAll spell page body)
          (writeAll spell page (Statement.unassertedAll body)) ∧
        (writeAll spell page body = writeAll spell page (Statement.unassertedAll body) ↔
          lostInBody body = 0)) ∧
    ∀ body, Statement.classesOf (Statement.unassertedAll body) = Statement.classesOf body := by
  refine ⟨fun depth e => ?_, fun depth c => ?_, fun page body => ?_,
    Statement.classesOf_unassertedAll⟩
  · have texts := parenthesized_exprText spell depth e
    exact ⟨texts, texts.eq_iff⟩
  · have texts := parenthesized_conditionText spell depth c
    exact ⟨texts, texts.eq_iff⟩
  · have pages := parenthesized_writeAll spell (.refl page) body
    rw [Nat.zero_add] at pages
    exact ⟨pages, pages.eq_iff⟩

/-- The title of an activity that is asserted not to be null is written as the title of the
context, which is cast then. -/
theorem unasserted_title_differs :
    let activity : Expr := .cast ⟨"android.app", "Activity", []⟩ (.ident "context")
    let title : Expr := .field (.nonNull activity) "title"
    exprText ClassName.simpleName 0 title = "(Activity) context.title" ∧
      exprText ClassName.simpleName 0 title.unasserted = "((Activity) context).title" := by
  decide +kernel

end Java

end Companions
