import Companions.Proofs.Source.OneLine
import Companions.Proofs.Source.Pages

/-!
Code one level deeper.

Statements that are written one level deeper have four more blanks in front of every line, and
nothing else changes (`Page.Indents`). The lines of a listener are no exception, although they are
written on a page of their own and then spliced into the line that the listener stands in
(`Page.Deeper.block`). So the induction over the code carries two facts: an expression moves all its
lines but the first, which is moved with the line that it stands in (`Text.Deeper`), and a page
moves every line (`Page.Deeper`).

`Statement.indents` says it for both languages, for code whose names have no line breaks. Names must
not be empty either: an empty line is not indented.
-/

namespace Companions

open Text (OneLine Piece)

/-! ### Names in code -/

mutual

/-- Every name in an expression, of a variable or of a member. -/
def Expr.names : Expr → List String
  | .ident name => [name]
  | .literal _ => []
  | .classLiteral _ => []
  | .create _ _ arguments => Expr.namesOf arguments
  | .cast _ operand => Expr.names operand
  | .call target method _ arguments => method :: Expr.names target ++ Expr.namesOf arguments
  | .property target name => name :: Expr.names target
  | .field target name => name :: Expr.names target
  | .staticCall _ method _ arguments => method :: Expr.namesOf arguments
  | .singletonCall _ method _ arguments => method :: Expr.namesOf arguments
  | .staticField _ name => [name]
  | .conditional condition yes no =>
    Condition.names condition ++ Expr.names yes ++ Expr.names no
  | .nonNull operand => Expr.names operand
  | .listener _ method parameters body =>
    method :: parameters.map (·.name) ++ Statement.namesOf body

/-- Every name in the expressions of a list. -/
def Expr.namesOf : List Expr → List String
  | [] => []
  | e :: rest => Expr.names e ++ Expr.namesOf rest

/-- Every name in a test. -/
def Condition.names : Condition → List String
  | .instanceOf operand _ => Expr.names operand
  | .isNull operand => Expr.names operand
  | .notNull operand => Expr.names operand
  | .equal left right => Expr.names left ++ Expr.names right

/-- Every name in a statement. -/
def Statement.names : Statement → List String
  | .run e => Expr.names e
  | .declare name _ _ init => name :: Expr.names init
  | .assign target value => Expr.names target ++ Expr.names value
  | .branch condition yes no =>
    Condition.names condition ++ Statement.namesOf yes ++ Statement.namesOf no

/-- Every name in the statements of a list. -/
def Statement.namesOf : List Statement → List String
  | [] => []
  | s :: rest => Statement.names s ++ Statement.namesOf rest

end

/-! ### Pages -/

theorem indentation_succ (depth : Nat) :
    indentation (depth + 1) = indentation 1 ++ indentation depth := by
  rw [indentation, indentation, indentation, ← String.ofList_append,
    List.replicate_append_replicate, Nat.mul_succ, Nat.add_comm]

theorem oneLine_indentation (depth : Nat) : OneLine (indentation depth) :=
  Text.oneLine_ofList fun feed => absurd (List.eq_of_mem_replicate feed) (by decide)

namespace Page

/-- How statements are indented. What they add to a page depends on its depth only; a level deeper
it has four more blanks in front of every line; the page comes back to the depth it had; and so the
end of a block around them takes off one level, and not none as on the outermost level. -/
structure Indents (writing : Page → Page) : Prop where
  text : ∀ page : Page, (writing page).text = page.text ++ (writing (startingAt page.depth)).text
  deeper : ∀ depth, (writing (startingAt (depth + 1))).text
    = Text.indented (writing (startingAt depth)).text
  depth : ∀ page : Page, (writing page).depth = page.depth
  closes : ∀ (page : Page) (head text : String),
    ((writing (page.opening head)).closing text).depth + 1 = (writing (page.opening head)).depth

/-- What is written behind anything that stands on the page, and comes back to its depth, is
indented if it is so on an empty page. -/
theorem Indents.of_behind {writing : Page → Page}
    (moved : ∀ front page, writing (behind front page) = behind front (writing page))
    (deeper : ∀ depth, (writing (startingAt (depth + 1))).text
      = Text.indented (writing (startingAt depth)).text)
    (depth : ∀ page, (writing page).depth = page.depth) : Indents writing where
  text page := by
    have whole := moved page.text (startingAt page.depth)
    rw [← behind_eq_startingAt] at whole
    rw [whole]
    rfl
  deeper := deeper
  depth := depth
  closes page head text := by
    rw [depth_closing, depth, depth_opening, Nat.add_sub_cancel]

/-- The second page is the first one a level deeper: its lines have four more blanks in front, and
so will the next one. -/
structure Deeper (page page' : Page) : Prop where
  depth : page'.depth = page.depth + 1
  text : page'.text = Text.indented page.text
  whole : Text.Whole page.text

namespace Deeper

variable {page page' : Page} {text text' : String}

theorem startingAt (depth : Nat) : Deeper (startingAt depth) (startingAt (depth + 1)) :=
  ⟨rfl, rfl, Or.inl rfl⟩

theorem line (h : Deeper page page') (h' : Text.Deeper text text') (filled : text ≠ "") :
    Deeper (page.line text) (page'.line text') := by
  refine ⟨h.depth, ?_, ?_⟩
  · have split : page.text ++ indentation page.depth ++ text ++ "\n"
        = page.text ++ (indentation page.depth ++ text ++ "\n") := by
      simp only [String.append_assoc]
    rw [text_line filled, text_line (h'.ne_empty filled), h.text, h.depth, h', split,
      h.whole.indented_append, Text.indented_line, Text.hanging_append,
      (oneLine_indentation _).hanging, indentation_succ]
    simp only [String.append_assoc]
  · rw [text_line filled]
    exact Text.Whole.append_break

theorem opening (h : Deeper page page') (h' : Text.Deeper text text') :
    Deeper (page.opening text) (page'.opening text') := by
  have written := h.line (h'.before (t := " \x7b") (by decide)) (by simp)
  exact ⟨congrArg (· + 1) written.depth, written.text, written.whole⟩

/-- One level out, if the page is not on the outermost one. -/
theorem outside (h : Deeper page page') (inside : 0 < page.depth) :
    Deeper { page with depth := page.depth - 1 } { page' with depth := page'.depth - 1 } := by
  refine ⟨?_, h.text, h.whole⟩
  have depth := h.depth
  show page'.depth - 1 = page.depth - 1 + 1
  omega

theorem closing (h : Deeper page page') (inside : 0 < page.depth) :
    Deeper (page.closing "\x7d") (page'.closing "\x7d") :=
  (h.outside inside).line (OneLine.deeper (by decide)) (by decide)

theorem reopening (h : Deeper page page') (inside : 0 < page.depth) :
    Deeper (page.reopening "else") (page'.reopening "else") := by
  have written := (h.outside inside).line
    (OneLine.deeper (s := "\x7d " ++ "else" ++ " \x7b") (by decide)) (by decide)
  exact ⟨congrArg (· + 1) written.depth, written.text, written.whole⟩

/-- **A block that is spliced into a line** moves with the line: the four blanks in front of its
first line stand behind the line break of the head. -/
theorem block (h : Deeper page page') (inside : 0 < page.depth) (head : OneLine text)
    (depth : Nat) :
    Text.Deeper
      (text ++ "\n" ++ (page.closing "\x7d").inline ++ "\n" ++ indentation depth ++ "\x7d")
      (text ++ "\n" ++ (page'.closing "\x7d").inline ++ "\n" ++ indentation (depth + 1)
        ++ "\x7d") := by
  have feed : Text.hanging "\n" = "\n" ++ indentation 1 := rfl
  have brace : Text.hanging "\x7d" = "\x7d" := rfl
  have blanks := fun n => (oneLine_indentation n).hanging
  have outer : page'.depth - 1 = page.depth - 1 + 1 := by
    have depth := h.depth
    omega
  have spliced : ∀ more, Text.indented page.text ++ (indentation 1 ++ more)
      = indentation 1 ++ (Text.hanging page.text ++ more) := by
    intro more
    rw [← String.append_assoc, h.whole.indented_append_indentation, String.append_assoc]
  rw [Text.Deeper, inline_closing, inline_closing, h.text, outer, indentation_succ,
    indentation_succ depth]
  simp only [Text.hanging_append, head.hanging, feed, brace, blanks, String.append_assoc, spliced]

end Deeper

end Page

/-! ### Java -/

namespace Java

variable {spell : ClassName → String}

mutual

/-- A statement comes back to the depth it was written at. -/
theorem depth_write (page : Page) (s : Statement) : (write spell page s).depth = page.depth := by
  cases s with
  | run _ | declare _ _ _ _ | assign _ _ => rfl
  | branch condition yes no =>
      simp only [write]
      split
      · rw [Page.depth_closing, depth_writeAll, Page.depth_opening, Nat.add_sub_cancel]
      · rw [Page.depth_closing, depth_writeAll, Page.depth_reopening, depth_writeAll,
          Page.depth_opening, Nat.add_sub_cancel, Nat.add_sub_cancel]

theorem depth_writeAll (page : Page) (body : List Statement) :
    (writeAll spell page body).depth = page.depth := by
  cases body with
  | nil => rfl
  | cons s rest => rw [writeAll, depth_writeAll, depth_write]

end

theorem depth_writeAll_pos {page : Page} {body : List Statement} (inside : 0 < page.depth) :
    0 < (writeAll spell page body).depth := by
  rwa [depth_writeAll]

mutual

/-- What a statement adds to a page does not depend on what stands there. -/
theorem behind_write (front : String) (page : Page) (s : Statement) :
    write spell (page.behind front) s = (write spell page s).behind front := by
  cases s with
  | run _ | declare _ _ _ _ | assign _ _ => exact Page.behind_line
  | branch condition yes no =>
      simp only [write, Page.depth_behind, Page.behind_opening, behind_writeAll]
      split
      · exact Page.behind_closing
      · rw [Page.behind_reopening, behind_writeAll, Page.behind_closing]

theorem behind_writeAll (front : String) (page : Page) (body : List Statement) :
    writeAll spell (page.behind front) body = (writeAll spell page body).behind front := by
  cases body with
  | nil => rfl
  | cons s rest => rw [writeAll, writeAll, behind_write, behind_writeAll]

end

/-- Parentheses add no lines. -/
theorem deeper_primaryText {text text' : String} (e : Expr) (h : Text.Deeper text text') :
    Text.Deeper (primaryText e text) (primaryText e text') := by
  unfold primaryText
  split
  · exact (h.behind (by decide)).before (by decide)
  · exact (h.behind (by decide)).before (by decide)
  · exact h

mutual

/-- **On a line one level deeper an expression has its later lines one level deeper.** -/
theorem deeper_exprText (depth : Nat) {e : Expr} (named : ∀ name ∈ e.names, Piece name)
    (spelled : ∀ cls ∈ e.classes, OneLine (spell cls)) :
    Text.Deeper (exprText spell depth e) (exprText spell (depth + 1) e) := by
  cases e with
  | ident name =>
      rw [Expr.names, List.forall_mem_singleton] at named
      simp only [exprText]
      exact named.oneLine.deeper
  | literal value =>
      simp only [exprText]
      exact (oneLine_literalText value).deeper
  | classLiteral cls =>
      rw [Expr.classes, List.forall_mem_singleton] at spelled
      simp only [exprText]
      exact spelled.deeper.before (by decide)
  | staticField owner name =>
      rw [Expr.names, List.forall_mem_singleton] at named
      rw [Expr.classes, List.forall_mem_singleton] at spelled
      simp only [exprText]
      exact (spelled.deeper.before (by decide)).before named.oneLine
  | create cls diamond arguments =>
      rw [Expr.names] at named
      rw [Expr.classes, List.forall_mem_cons] at spelled
      have types : OneLine (if diamond then "<>" else "") := by
        split <;> decide
      have front := (spelled.1.deeper.behind (t := "new ") (by decide)).before types
      simp only [exprText]
      exact front.arguments (deeper_exprTexts depth named spelled.2)
  | cast cls operand =>
      rw [Expr.names] at named
      rw [Expr.classes, List.forall_mem_cons] at spelled
      have primary := deeper_primaryText operand (deeper_exprText depth named spelled.2)
      simp only [exprText]
      exact ((spelled.1.deeper.behind (by decide)).before (by decide)).append primary
  | call target method types arguments =>
      rw [Expr.names, List.cons_append, List.forall_mem_cons, List.forall_mem_append] at named
      rw [Expr.classes, List.forall_mem_append, List.forall_mem_append] at spelled
      have primary := deeper_primaryText target (deeper_exprText depth named.2.1 spelled.1.1)
      have front := ((primary.before (t := ".") (by decide)).before
        (oneLine_typeArgumentText spelled.1.2)).before named.1.oneLine
      simp only [exprText]
      exact front.arguments (deeper_exprTexts depth named.2.2 spelled.2)
  | property target name =>
      rw [Expr.names, List.forall_mem_cons] at named
      rw [Expr.classes] at spelled
      have primary := deeper_primaryText target (deeper_exprText depth named.2 spelled)
      simp only [exprText]
      exact ((primary.before (by decide)).before
        (Naming.oneLine_capitalize named.1.oneLine)).before (by decide)
  | field target name =>
      rw [Expr.names, List.forall_mem_cons] at named
      rw [Expr.classes] at spelled
      have primary := deeper_primaryText target (deeper_exprText depth named.2 spelled)
      simp only [exprText]
      exact (primary.before (by decide)).before named.1.oneLine
  | staticCall owner method types arguments | singletonCall owner method types arguments =>
      rw [Expr.names, List.forall_mem_cons] at named
      rw [Expr.classes, List.cons_append, List.forall_mem_cons, List.forall_mem_append] at spelled
      have types := oneLine_typeArgumentText spelled.2.1
      simp only [exprText]
      exact (((spelled.1.deeper.before (by decide)).before types).before
        named.1.oneLine).arguments (deeper_exprTexts depth named.2 spelled.2.2)
  | conditional condition yes no =>
      rw [Expr.names, List.forall_mem_append, List.forall_mem_append] at named
      rw [Expr.classes, List.forall_mem_append, List.forall_mem_append] at spelled
      have test := deeper_conditionText depth named.1.1 spelled.1.1
      have first := deeper_exprText depth named.1.2 spelled.1.2
      have second := deeper_exprText depth named.2 spelled.2
      simp only [exprText]
      exact (((test.before (by decide)).append first).before (by decide)).append second
  | nonNull operand =>
      rw [Expr.names] at named
      rw [Expr.classes] at spelled
      simp only [exprText]
      exact deeper_exprText depth named spelled
  | listener interface method parameters body =>
      rw [Expr.names, List.cons_append, List.forall_mem_cons, List.forall_mem_append,
        List.forall_mem_map] at named
      rw [Expr.classes, List.cons_append, List.forall_mem_cons, List.forall_mem_append] at spelled
      have head : OneLine
          ("public void " ++ method ++ "(" ++ parameterTexts spell parameters ++ ")") :=
        (((OneLine.append (by decide) named.1.oneLine).append (by decide)).append
          (oneLine_parameterTexts named.2.1 spelled.2.1)).append (by decide)
      have override : Text.Deeper "@Override" "@Override" := OneLine.deeper (by decide)
      have inside := deeper_writeAll
        (((Page.Deeper.startingAt (depth + 1)).line override (by decide)).opening head.deeper)
        named.2.2 spelled.2.2
      have front : OneLine ("new " ++ spell interface ++ "() \x7b") :=
        (OneLine.append (by decide) spelled.1).append (by decide)
      have split : "() \x7b\n" = "() \x7b" ++ "\n" := by decide
      simp only [exprText]
      rw [split, ← String.append_assoc]
      exact inside.block (depth_writeAll_pos (Nat.succ_pos _)) front depth

theorem deeper_exprTexts (depth : Nat) {arguments : List Expr}
    (named : ∀ name ∈ Expr.namesOf arguments, Piece name)
    (spelled : ∀ cls ∈ Expr.classesOf arguments, OneLine (spell cls)) :
    List.Forall₂ Text.Deeper (exprTexts spell depth arguments)
      (exprTexts spell (depth + 1) arguments) := by
  cases arguments with
  | nil =>
      simp only [exprTexts]
      exact .nil
  | cons e rest =>
      rw [Expr.namesOf, List.forall_mem_append] at named
      rw [Expr.classesOf, List.forall_mem_append] at spelled
      simp only [exprTexts]
      exact .cons (deeper_exprText depth named.1 spelled.1)
        (deeper_exprTexts depth named.2 spelled.2)

theorem deeper_conditionText (depth : Nat) {c : Condition} (named : ∀ name ∈ c.names, Piece name)
    (spelled : ∀ cls ∈ c.classes, OneLine (spell cls)) :
    Text.Deeper (conditionText spell depth c) (conditionText spell (depth + 1) c) := by
  cases c with
  | instanceOf operand cls =>
      rw [Condition.names] at named
      rw [Condition.classes, List.forall_mem_cons] at spelled
      simp only [conditionText]
      exact ((deeper_exprText depth named spelled.2).before (by decide)).before spelled.1
  | isNull operand | notNull operand =>
      rw [Condition.names] at named
      rw [Condition.classes] at spelled
      simp only [conditionText]
      exact (deeper_exprText depth named spelled).before (by decide)
  | equal left right =>
      rw [Condition.names, List.forall_mem_append] at named
      rw [Condition.classes, List.forall_mem_append] at spelled
      have first := deeper_exprText depth named.1 spelled.1
      have second := deeper_exprText depth named.2 spelled.2
      simp only [conditionText]
      exact (first.before (by decide)).append second

theorem deeper_write {page page' : Page} (h : Page.Deeper page page') {s : Statement}
    (named : ∀ name ∈ s.names, Piece name) (spelled : ∀ cls ∈ s.classes, OneLine (spell cls)) :
    Page.Deeper (write spell page s) (write spell page' s) := by
  cases s with
  | run e =>
      rw [Statement.names] at named
      rw [Statement.classes] at spelled
      have inside := deeper_exprText page.depth named spelled
      simp only [write, h.depth]
      exact h.line (inside.before (by decide)) (by simp)
  | declare name shown type init =>
      rw [Statement.names, List.forall_mem_cons] at named
      rw [Statement.classes, List.forall_mem_append] at spelled
      have declared := (oneLine_typeText spelled.1).append (t := " ") (by decide)
      have front := (declared.append named.1.oneLine).append (t := " = ") (by decide)
      have value := deeper_exprText page.depth named.2 spelled.2
      simp only [write, h.depth]
      exact h.line ((value.behind front).before (by decide)) (by simp)
  | assign target value =>
      rw [Statement.names, List.forall_mem_append] at named
      rw [Statement.classes, List.forall_mem_append] at spelled
      have left := deeper_exprText page.depth named.1 spelled.1
      have right := deeper_exprText page.depth named.2 spelled.2
      simp only [write, h.depth]
      exact h.line (((left.before (by decide)).append right).before (by decide)) (by simp)
  | branch condition yes no =>
      rw [Statement.names, List.forall_mem_append, List.forall_mem_append] at named
      rw [Statement.classes, List.forall_mem_append, List.forall_mem_append] at spelled
      have test := deeper_conditionText page.depth named.1.1 spelled.1.1
      have head := (test.behind (t := "if (") (by decide)).before (t := ")") (by decide)
      have first := deeper_writeAll (h.opening head) named.1.2 spelled.1.2
      simp only [write, h.depth]
      cases no with
      | nil => exact first.closing (depth_writeAll_pos (Nat.succ_pos _))
      | cons s rest =>
          have second := deeper_writeAll
            (first.reopening (depth_writeAll_pos (Nat.succ_pos _))) named.2 spelled.2
          exact second.closing (depth_writeAll_pos (Nat.succ_pos _))

theorem deeper_writeAll {page page' : Page} (h : Page.Deeper page page') {body : List Statement}
    (named : ∀ name ∈ Statement.namesOf body, Piece name)
    (spelled : ∀ cls ∈ Statement.classesOf body, OneLine (spell cls)) :
    Page.Deeper (writeAll spell page body) (writeAll spell page' body) := by
  cases body with
  | nil => exact h
  | cons s rest =>
      rw [Statement.namesOf, List.forall_mem_append] at named
      rw [Statement.classesOf, List.forall_mem_append] at spelled
      rw [writeAll, writeAll]
      exact deeper_writeAll (deeper_write h named.1 spelled.1) named.2 spelled.2

end

/-- The lines of a Java body. -/
theorem indents_writeAll {body : List Statement}
    (named : ∀ name ∈ Statement.namesOf body, Piece name)
    (spelled : ∀ cls ∈ Statement.classesOf body, OneLine (spell cls)) :
    Page.Indents fun page => writeAll spell page body :=
  .of_behind (fun front page => behind_writeAll front page body)
    (fun depth => (deeper_writeAll (.startingAt depth) named spelled).text)
    fun page => depth_writeAll page body

end Java

/-! ### Kotlin -/

namespace Kotlin

variable {spell : ClassName → String}

section Pages

variable (receiver : Option String)

mutual

theorem depth_write (page : Page) (s : Statement) :
    (write spell receiver page s).depth = page.depth := by
  cases s with
  | run _ | declare _ _ _ _ | assign _ _ => rfl
  | branch condition yes no =>
      simp only [write]
      split
      · rw [Page.depth_closing, depth_writeAll, Page.depth_opening, Nat.add_sub_cancel]
      · rw [Page.depth_closing, depth_writeAll, Page.depth_reopening, depth_writeAll,
          Page.depth_opening, Nat.add_sub_cancel, Nat.add_sub_cancel]

theorem depth_writeAll (page : Page) (body : List Statement) :
    (writeAll spell receiver page body).depth = page.depth := by
  cases body with
  | nil => rfl
  | cons s rest => rw [writeAll, depth_writeAll, depth_write]

end

theorem depth_writeAll_pos {receiver : Option String} {page : Page} {body : List Statement}
    (inside : 0 < page.depth) : 0 < (writeAll spell receiver page body).depth := by
  rwa [depth_writeAll]

mutual

theorem behind_write (front : String) (page : Page) (s : Statement) :
    write spell receiver (page.behind front) s = (write spell receiver page s).behind front := by
  cases s with
  | run _ | declare _ _ _ _ | assign _ _ => exact Page.behind_line
  | branch condition yes no =>
      simp only [write, Page.depth_behind, Page.behind_opening, behind_writeAll]
      split
      · exact Page.behind_closing
      · rw [Page.behind_reopening, behind_writeAll, Page.behind_closing]

theorem behind_writeAll (front : String) (page : Page) (body : List Statement) :
    writeAll spell receiver (page.behind front) body
      = (writeAll spell receiver page body).behind front := by
  cases body with
  | nil => rfl
  | cons s rest => rw [writeAll, writeAll, behind_write, behind_writeAll]

end

end Pages

theorem deeper_memberAccess {text text' : String} (receiver : Option String) (target : Expr)
    (h : Text.Deeper text text') :
    Text.Deeper (memberAccess receiver target text) (memberAccess receiver target text') := by
  unfold memberAccess
  split
  · exact OneLine.deeper (by decide)
  · exact h.before (by decide)

/-- An expression without empty names does not leave its line empty. -/
theorem exprText_ne_empty_of_names (receiver : Option String) (depth : Nat) {e : Expr}
    (named : ∀ name ∈ e.names, Piece name) : exprText spell receiver depth e ≠ "" := by
  cases e with
  | ident name =>
      rw [Expr.names, List.forall_mem_singleton] at named
      rw [exprText]
      split
      · decide
      · exact (Naming.piece_kotlinName named).filled
  | literal value =>
      rw [exprText]
      exact (piece_literalText value).filled
  | property target name | field target name =>
      rw [Expr.names, List.forall_mem_cons] at named
      simp [exprText, named.1.filled]
  | classLiteral _ | create _ _ _ | cast _ _ | call _ _ _ _ | staticCall _ _ _ _
  | singletonCall _ _ _ _ | staticField _ _ | conditional _ _ _ | nonNull _ | listener _ _ _ _ =>
      simp [exprText]

mutual

/-- **On a line one level deeper an expression has its later lines one level deeper.** -/
theorem deeper_exprText (receiver : Option String) (depth : Nat) {e : Expr}
    (named : ∀ name ∈ e.names, Piece name) (spelled : ∀ cls ∈ e.classes, OneLine (spell cls)) :
    Text.Deeper (exprText spell receiver depth e) (exprText spell receiver (depth + 1) e) := by
  cases e with
  | ident name =>
      rw [Expr.names, List.forall_mem_singleton] at named
      simp only [exprText]
      split
      · exact OneLine.deeper (by decide)
      · exact (Naming.piece_kotlinName named).oneLine.deeper
  | literal value =>
      simp only [exprText]
      exact (piece_literalText value).oneLine.deeper
  | classLiteral cls =>
      rw [Expr.classes, List.forall_mem_singleton] at spelled
      simp only [exprText]
      exact (oneLine_classText spelled).deeper.before (by decide)
  | staticField owner name =>
      rw [Expr.names, List.forall_mem_singleton] at named
      rw [Expr.classes, List.forall_mem_singleton] at spelled
      simp only [exprText]
      exact ((oneLine_classText spelled).deeper.before (by decide)).before named.oneLine
  | create cls diamond arguments =>
      rw [Expr.names] at named
      rw [Expr.classes, List.forall_mem_cons] at spelled
      have front := (oneLine_classText spelled.1).deeper
      simp only [exprText]
      exact front.arguments (deeper_exprTexts receiver depth named spelled.2)
  | cast cls operand =>
      rw [Expr.names] at named
      rw [Expr.classes, List.forall_mem_cons] at spelled
      have inside := deeper_exprText receiver depth named spelled.2
      simp only [exprText]
      exact (((inside.behind (by decide)).before (by decide)).before
        (oneLine_classText spelled.1)).before (by decide)
  | call target method types arguments =>
      rw [Expr.names, List.cons_append, List.forall_mem_cons, List.forall_mem_append] at named
      rw [Expr.classes, List.forall_mem_append, List.forall_mem_append] at spelled
      have access := deeper_memberAccess receiver target
        (deeper_exprText receiver depth named.2.1 spelled.1.1)
      have front := (access.before named.1.oneLine).before (oneLine_typeArgumentText spelled.1.2)
      simp only [exprText]
      exact front.arguments (deeper_exprTexts receiver depth named.2.2 spelled.2)
  | property target name | field target name =>
      rw [Expr.names, List.forall_mem_cons] at named
      rw [Expr.classes] at spelled
      have access := deeper_memberAccess receiver target
        (deeper_exprText receiver depth named.2 spelled)
      simp only [exprText]
      exact access.before named.1.oneLine
  | staticCall owner method types arguments | singletonCall owner method types arguments =>
      rw [Expr.names, List.forall_mem_cons] at named
      rw [Expr.classes, List.cons_append, List.forall_mem_cons, List.forall_mem_append] at spelled
      have owned := (oneLine_classText spelled.1).deeper.before (t := ".") (by decide)
      have front := (owned.before named.1.oneLine).before (oneLine_typeArgumentText spelled.2.1)
      simp only [exprText]
      exact front.arguments (deeper_exprTexts receiver depth named.2 spelled.2.2)
  | conditional condition yes no =>
      rw [Expr.names, List.forall_mem_append, List.forall_mem_append] at named
      rw [Expr.classes, List.forall_mem_append, List.forall_mem_append] at spelled
      have test := deeper_conditionText receiver depth named.1.1 spelled.1.1
      have first := deeper_exprText receiver depth named.1.2 spelled.1.2
      have second := deeper_exprText receiver depth named.2 spelled.2
      simp only [exprText]
      exact ((((test.behind (by decide)).before (by decide)).append first).before
        (by decide)).append second
  | nonNull operand =>
      rw [Expr.names] at named
      rw [Expr.classes] at spelled
      simp only [exprText]
      exact (deeper_exprText receiver depth named spelled).before (by decide)
  | listener interface method parameters body =>
      rw [Expr.names, List.cons_append, List.forall_mem_cons, List.forall_mem_append,
        List.forall_mem_map] at named
      rw [Expr.classes, List.cons_append, List.forall_mem_cons, List.forall_mem_append] at spelled
      have head : OneLine
          ("override fun " ++ method ++ "(" ++ parameterTexts spell parameters ++ ")") :=
        (((OneLine.append (by decide) named.1.oneLine).append (by decide)).append
          (oneLine_parameterTexts named.2.1 spelled.2.1)).append (by decide)
      have inside := deeper_writeAll none
        ((Page.Deeper.startingAt (depth + 1)).opening head.deeper) named.2.2 spelled.2.2
      have front : OneLine ("object : " ++ classText spell interface ++ " \x7b") :=
        (OneLine.append (by decide) (oneLine_classText spelled.1)).append (by decide)
      have split : " \x7b\n" = " \x7b" ++ "\n" := by decide
      simp only [exprText]
      rw [split, ← String.append_assoc]
      exact inside.block (depth_writeAll_pos (Nat.succ_pos _)) front depth

theorem deeper_exprTexts (receiver : Option String) (depth : Nat) {arguments : List Expr}
    (named : ∀ name ∈ Expr.namesOf arguments, Piece name)
    (spelled : ∀ cls ∈ Expr.classesOf arguments, OneLine (spell cls)) :
    List.Forall₂ Text.Deeper (exprTexts spell receiver depth arguments)
      (exprTexts spell receiver (depth + 1) arguments) := by
  cases arguments with
  | nil =>
      simp only [exprTexts]
      exact .nil
  | cons e rest =>
      rw [Expr.namesOf, List.forall_mem_append] at named
      rw [Expr.classesOf, List.forall_mem_append] at spelled
      simp only [exprTexts]
      exact .cons (deeper_exprText receiver depth named.1 spelled.1)
        (deeper_exprTexts receiver depth named.2 spelled.2)

theorem deeper_conditionText (receiver : Option String) (depth : Nat) {c : Condition}
    (named : ∀ name ∈ c.names, Piece name) (spelled : ∀ cls ∈ c.classes, OneLine (spell cls)) :
    Text.Deeper (conditionText spell receiver depth c)
      (conditionText spell receiver (depth + 1) c) := by
  cases c with
  | instanceOf operand cls =>
      rw [Condition.names] at named
      rw [Condition.classes, List.forall_mem_cons] at spelled
      simp only [conditionText]
      exact ((deeper_exprText receiver depth named spelled.2).before (by decide)).before
        (oneLine_classText spelled.1)
  | isNull operand | notNull operand =>
      rw [Condition.names] at named
      rw [Condition.classes] at spelled
      simp only [conditionText]
      exact (deeper_exprText receiver depth named spelled).before (by decide)
  | equal left right =>
      rw [Condition.names, List.forall_mem_append] at named
      rw [Condition.classes, List.forall_mem_append] at spelled
      have first := deeper_exprText receiver depth named.1 spelled.1
      have second := deeper_exprText receiver depth named.2 spelled.2
      simp only [conditionText]
      exact (first.before (by decide)).append second

theorem deeper_write (receiver : Option String) {page page' : Page} (h : Page.Deeper page page')
    {s : Statement} (named : ∀ name ∈ s.names, Piece name)
    (spelled : ∀ cls ∈ s.classes, OneLine (spell cls)) :
    Page.Deeper (write spell receiver page s) (write spell receiver page' s) := by
  cases s with
  | run e =>
      rw [Statement.names] at named
      rw [Statement.classes] at spelled
      simp only [write, h.depth]
      exact h.line (deeper_exprText receiver page.depth named spelled)
        (exprText_ne_empty_of_names receiver page.depth named)
  | declare name shown type init =>
      rw [Statement.names, List.forall_mem_cons] at named
      rw [Statement.classes, List.forall_mem_append] at spelled
      have typed : OneLine (if shown then ": " ++ typeText spell type else "") := by
        split
        · exact OneLine.append (by decide) (oneLine_typeText spelled.1)
        · decide
      have front := ((OneLine.append (s := "val ") (by decide)
        (Naming.piece_kotlinName named.1).oneLine).append typed).append (t := " = ") (by decide)
      simp only [write, h.depth]
      exact h.line ((deeper_exprText receiver page.depth named.2 spelled.2).behind front) (by simp)
  | assign target value =>
      rw [Statement.names, List.forall_mem_append] at named
      rw [Statement.classes, List.forall_mem_append] at spelled
      have left := deeper_exprText receiver page.depth named.1 spelled.1
      have right := deeper_exprText receiver page.depth named.2 spelled.2
      simp only [write, h.depth]
      exact h.line ((left.before (by decide)).append right) (by simp)
  | branch condition yes no =>
      rw [Statement.names, List.forall_mem_append, List.forall_mem_append] at named
      rw [Statement.classes, List.forall_mem_append, List.forall_mem_append] at spelled
      have test := deeper_conditionText receiver page.depth named.1.1 spelled.1.1
      have head := (test.behind (t := "if (") (by decide)).before (t := ")") (by decide)
      have first := deeper_writeAll receiver (h.opening head) named.1.2 spelled.1.2
      simp only [write, h.depth]
      cases no with
      | nil => exact first.closing (depth_writeAll_pos (Nat.succ_pos _))
      | cons s rest =>
          have second := deeper_writeAll receiver
            (first.reopening (depth_writeAll_pos (Nat.succ_pos _))) named.2 spelled.2
          exact second.closing (depth_writeAll_pos (Nat.succ_pos _))

theorem deeper_writeAll (receiver : Option String) {page page' : Page}
    (h : Page.Deeper page page') {body : List Statement}
    (named : ∀ name ∈ Statement.namesOf body, Piece name)
    (spelled : ∀ cls ∈ Statement.classesOf body, OneLine (spell cls)) :
    Page.Deeper (writeAll spell receiver page body) (writeAll spell receiver page' body) := by
  cases body with
  | nil => exact h
  | cons s rest =>
      rw [Statement.namesOf, List.forall_mem_append] at named
      rw [Statement.classesOf, List.forall_mem_append] at spelled
      rw [writeAll, writeAll]
      exact deeper_writeAll receiver (deeper_write receiver h named.1 spelled.1) named.2 spelled.2

end

/-- The lines of a Kotlin body. -/
theorem indents_writeAll (receiver : Option String) {body : List Statement}
    (named : ∀ name ∈ Statement.namesOf body, Piece name)
    (spelled : ∀ cls ∈ Statement.classesOf body, OneLine (spell cls)) :
    Page.Indents fun page => writeAll spell receiver page body :=
  .of_behind (fun front page => behind_writeAll receiver front page body)
    (fun depth => (deeper_writeAll receiver (.startingAt depth) named spelled).text)
    fun page => depth_writeAll receiver page body

end Kotlin

/-! ### Both languages -/

/-- **Code is indented by levels.** If no name in a body is empty or has a line break, and no class
has one, then the body is indented in both languages, under every import table and in Kotlin in
every receiver scope. -/
theorem Statement.indents (table : Imports) {body : List Statement}
    (named : ∀ name ∈ Statement.namesOf body, Piece name)
    (parts : ∀ cls ∈ Statement.classesOf body, ∀ part ∈ cls.package :: cls.simpleNames,
      OneLine part) :
    (Page.Indents fun page => Java.writeAll table.spell page body) ∧
      ∀ receiver, Page.Indents fun page => Kotlin.writeAll table.spell receiver page body := by
  have spelled : ∀ cls ∈ Statement.classesOf body, OneLine (table.spell cls) :=
    fun cls hcls => table.oneLine_spell (parts cls hcls)
  exact ⟨Java.indents_writeAll named spelled, fun receiver =>
    Kotlin.indents_writeAll receiver named spelled⟩

/-- A door is watched by a listener whose body watches it by another one. -/
def Statement.watching : List Statement :=
  let door := Expr.ident "door"
  let closed := Expr.listener ⟨"com.example", "Door", ["OnClosed"]⟩ "onClosed"
    [{ name := "code", type := .primitive .int }]
    [.run (.call door "report" [] [.ident "code", .literal (.text "one\ntwo")])]
  let opened := Expr.listener ⟨"com.example", "Door", ["OnOpened"]⟩ "onOpened" []
    [.run (.call door "watch" [] [closed])]
  [.branch (.notNull door) [.run (.call door "watch" [] [opened])]
    [.declare "found" false (.ofClass ⟨"com.example", "Door", []⟩) (.property door "next")]]

theorem Statement.indents_watching :
    let table := Imports.make "com.example.home" ⟨"com.example.home", "Hall", []⟩ []
      (Statement.classesOf Statement.watching)
    (∀ name ∈ Statement.namesOf Statement.watching, Piece name) ∧
      (∀ cls ∈ Statement.classesOf Statement.watching, ∀ part ∈ cls.package :: cls.simpleNames,
        OneLine part) ∧
      (Page.Indents fun page => Java.writeAll table.spell page Statement.watching) ∧
      ∀ receiver, Page.Indents fun page =>
        Kotlin.writeAll table.spell receiver page Statement.watching := by
  have named : ∀ name ∈ Statement.namesOf Statement.watching, Piece name := by decide
  have parts : ∀ cls ∈ Statement.classesOf Statement.watching,
      ∀ part ∈ cls.package :: cls.simpleNames, OneLine part := by decide
  exact ⟨named, parts, Statement.indents _ named parts⟩

end Companions
