import Companions.Proofs.Imports
import Companions.Proofs.Source.Pages
import Companions.Proofs.Text.Brackets
import Companions.Source.File

/-!
Which classes a Java file spells.

A file under an import table is a function of how the table spells each class. It asks for the
spelling of a class if it changes when that class alone is spelled in another way (`Asks`). Two
facts about the writer settle which classes those are:

* what it writes depends on the spelling of the collected classes only (`Java.textWith_congr`);
* each collected class stands in it as it is spelled (`Java.has_textWith`).

So the classes that a Java file asks for are those that were collected for it (`Java.asks_iff`).
Both facts go by induction over the code of the callables, with one case for each form of it, and
need that a page only grows (`Page.Grows`).
-/

namespace Companions

/-! ### Asking for a spelling -/

/-- The text has that part. -/
def Text.Has (text part : String) : Prop :=
  part.toList <:+: text.toList

namespace Text.Has

variable {s t part : String}

theorem self : Has part part :=
  List.infix_rfl

theorem left (h : Has s part) : Has (s ++ t) part := by
  rw [Has, String.toList_append]
  exact h.trans (List.prefix_append _ _).isInfix

theorem right (h : Has t part) : Has (s ++ t) part := by
  rw [Has, String.toList_append]
  exact h.trans (List.suffix_append _ _).isInfix

/-- A list has what a text in it has. -/
theorem joined {texts : List String} (h : ∃ t ∈ texts, Has t part) :
    Has (Companions.joined ", " texts) part := by
  obtain ⟨t, member, h⟩ := h
  induction texts with
  | nil => exact absurd member List.not_mem_nil
  | cons first rest ih =>
      rw [Text.joined_cons]
      rcases List.mem_cons.mp member with rfl | later
      · exact h.left
      · cases rest with
        | nil => exact absurd later List.not_mem_nil
        | cons second rest =>
            rw [Text.listTail_cons]
            exact (ih later).right.right

theorem length_le (h : Has t part) : part.length ≤ t.length := by
  rw [← String.length_toList, ← String.length_toList]
  exact List.IsInfix.length_le h

end Text.Has

/-- The classes of parameters are those of their types. -/
theorem mem_parameterClasses_iff {parameters : List Parameter} {cls : ClassName} :
    cls ∈ parameterClasses parameters ↔ ∃ p ∈ parameters, cls ∈ p.type.classes := by
  rw [parameterClasses]
  induction parameters with
  | nil => simp [ValueType.classesOf]
  | cons p rest ih =>
      rw [List.map_cons, ValueType.classesOf, List.mem_append, ih]
      simp

/-! ### Pages grow -/

namespace Page

/-- The second page goes on from the first one. -/
def Grows (page page' : Page) : Prop :=
  ∃ more, page'.text = page.text ++ more

variable {page page' page'' : Page} {text part : String}

theorem Grows.refl (page : Page) : Grows page page :=
  ⟨"", String.append_empty.symm⟩

theorem Grows.trans (h : Grows page page') (h' : Grows page' page'') : Grows page page'' := by
  obtain ⟨more, first⟩ := h
  obtain ⟨more', second⟩ := h'
  exact ⟨more ++ more', by rw [second, first, String.append_assoc]⟩

theorem Grows.has (h : Grows page page') (inside : Text.Has page.text part) :
    Text.Has page'.text part := by
  obtain ⟨more, split⟩ := h
  rw [split]
  exact inside.left

theorem grows_line : Grows page (page.line text) :=
  ⟨(if text.isEmpty then "" else indentation page.depth) ++ text ++ "\n", by
    simp only [line, String.append_assoc]⟩

theorem grows_blank : Grows page page.blank := by
  rw [blank]
  split
  · exact .refl page
  · exact ⟨"\n", rfl⟩

theorem grows_opening : Grows page (page.opening text) :=
  grows_line

theorem grows_closing : Grows page (page.closing text) := by
  have line : Grows { page with depth := page.depth - 1 } (page.closing text) := grows_line
  exact line

theorem grows_reopening : Grows page (page.reopening text) := by
  have line : Grows { page with depth := page.depth - 1 } (page.reopening text) := grows_line
  exact line

theorem grows_foldl {α : Type} {write : Page → α → Page} {items : List α}
    (each : ∀ page, ∀ item ∈ items, Grows page (write page item)) :
    Grows page (items.foldl write page) := by
  induction items generalizing page with
  | nil => exact .refl page
  | cons item rest ih =>
      exact (each page item List.mem_cons_self).trans
        (ih fun page other member => each page other (List.mem_cons_of_mem _ member))

theorem grows_comment {lines : List String} : Grows page (page.comment lines) := by
  rw [comment]
  split
  · exact .refl page
  · exact (grows_line.trans (grows_foldl fun _ _ _ => grows_line)).trans grows_line

theorem has_line (h : Text.Has text part) : Text.Has (page.line text).text part :=
  h.right.left

theorem has_opening (h : Text.Has text part) : Text.Has (page.opening text).text part :=
  has_line h.left

/-- A block without its last line break has what was written before it was closed. -/
theorem has_inline_closing (h : Text.Has page.text part) :
    Text.Has (page.closing "\x7d").inline part := by
  rw [inline_closing]
  exact h.left.left

end Page

/-! ### Java -/

namespace Java

variable {spell spell' : ClassName → String}

mutual

theorem typeText_congr {t : ValueType} (same : ∀ cls ∈ t.classes, spell cls = spell' cls) :
    typeText spell t = typeText spell' t := by
  cases t with
  | primitive kind => rw [typeText, typeText]
  | declared cls arguments =>
      rw [ValueType.classes, List.forall_mem_cons] at same
      rw [typeText, typeText, same.1, typeTexts_congr same.2]
  | array component =>
      rw [ValueType.classes] at same
      rw [typeText, typeText, typeText_congr same]

theorem typeTexts_congr {types : List ValueType}
    (same : ∀ cls ∈ ValueType.classesOf types, spell cls = spell' cls) :
    typeTexts spell types = typeTexts spell' types := by
  cases types with
  | nil => rw [typeTexts, typeTexts]
  | cons t rest =>
      rw [ValueType.classesOf, List.forall_mem_append] at same
      rw [typeTexts, typeTexts, typeText_congr same.1, typeTexts_congr same.2]

end

theorem parameterTexts_congr {parameters : List Parameter}
    (same : ∀ cls ∈ parameterClasses parameters, spell cls = spell' cls) :
    parameterTexts spell parameters = parameterTexts spell' parameters := by
  have each : ∀ p ∈ parameters, parameterText spell p = parameterText spell' p := by
    intro p hp
    rw [parameterText, parameterText, typeText_congr fun cls hcls =>
      same cls (mem_parameterClasses_iff.mpr ⟨p, hp, hcls⟩)]
  rw [parameterTexts, parameterTexts, List.map_congr_left each]

theorem typeArgumentText_congr {types : List ValueType}
    (same : ∀ cls ∈ ValueType.classesOf types, spell cls = spell' cls) :
    typeArgumentText spell types = typeArgumentText spell' types := by
  rw [typeArgumentText, typeArgumentText, typeTexts_congr same]

mutual

/-- An expression depends on how its classes are spelled. -/
theorem exprText_congr {depth : Nat} {e : Expr}
    (same : ∀ cls ∈ e.classes, spell cls = spell' cls) :
    exprText spell depth e = exprText spell' depth e := by
  cases e with
  | ident _ | literal _ => simp only [exprText]
  | classLiteral cls | staticField cls _ =>
      simp only [exprText, same cls List.mem_cons_self]
  | create cls diamond arguments =>
      rw [Expr.classes, List.forall_mem_cons] at same
      simp only [exprText, same.1, exprTexts_congr same.2]
  | cast cls operand =>
      rw [Expr.classes, List.forall_mem_cons] at same
      simp only [exprText, same.1, exprText_congr same.2]
  | call target method types arguments =>
      rw [Expr.classes, List.forall_mem_append, List.forall_mem_append] at same
      simp only [exprText, exprText_congr same.1.1, typeArgumentText_congr same.1.2,
        exprTexts_congr same.2]
  | property target _ | field target _ | nonNull target =>
      rw [Expr.classes] at same
      simp only [exprText, exprText_congr same]
  | staticCall owner method types arguments | singletonCall owner method types arguments =>
      rw [Expr.classes, List.cons_append, List.forall_mem_cons, List.forall_mem_append] at same
      simp only [exprText, same.1, typeArgumentText_congr same.2.1, exprTexts_congr same.2.2]
  | conditional condition yes no =>
      rw [Expr.classes, List.forall_mem_append, List.forall_mem_append] at same
      simp only [exprText, conditionText_congr same.1.1, exprText_congr same.1.2,
        exprText_congr same.2]
  | listener interface method parameters body =>
      rw [Expr.classes, List.cons_append, List.forall_mem_cons, List.forall_mem_append] at same
      simp only [exprText, same.1, parameterTexts_congr same.2.1, writeAll_congr same.2.2]

theorem exprTexts_congr {depth : Nat} {arguments : List Expr}
    (same : ∀ cls ∈ Expr.classesOf arguments, spell cls = spell' cls) :
    exprTexts spell depth arguments = exprTexts spell' depth arguments := by
  cases arguments with
  | nil => simp only [exprTexts]
  | cons e rest =>
      rw [Expr.classesOf, List.forall_mem_append] at same
      simp only [exprTexts, exprText_congr same.1, exprTexts_congr same.2]

theorem conditionText_congr {depth : Nat} {c : Condition}
    (same : ∀ cls ∈ c.classes, spell cls = spell' cls) :
    conditionText spell depth c = conditionText spell' depth c := by
  cases c with
  | instanceOf operand cls =>
      rw [Condition.classes, List.forall_mem_cons] at same
      simp only [conditionText, same.1, exprText_congr same.2]
  | isNull operand | notNull operand =>
      rw [Condition.classes] at same
      simp only [conditionText, exprText_congr same]
  | equal left right =>
      rw [Condition.classes, List.forall_mem_append] at same
      simp only [conditionText, exprText_congr same.1, exprText_congr same.2]

theorem write_congr {page : Page} {s : Statement}
    (same : ∀ cls ∈ s.classes, spell cls = spell' cls) :
    write spell page s = write spell' page s := by
  cases s with
  | run e =>
      rw [Statement.classes] at same
      simp only [write, exprText_congr same]
  | declare name spelled type init =>
      rw [Statement.classes, List.forall_mem_append] at same
      simp only [write, typeText_congr same.1, exprText_congr same.2]
  | assign target value =>
      rw [Statement.classes, List.forall_mem_append] at same
      simp only [write, exprText_congr same.1, exprText_congr same.2]
  | branch condition yes no =>
      rw [Statement.classes, List.forall_mem_append, List.forall_mem_append] at same
      simp only [write, conditionText_congr same.1.1, writeAll_congr same.1.2,
        writeAll_congr same.2]

theorem writeAll_congr {page : Page} {body : List Statement}
    (same : ∀ cls ∈ Statement.classesOf body, spell cls = spell' cls) :
    writeAll spell page body = writeAll spell' page body := by
  cases body with
  | nil => simp only [writeAll]
  | cons s rest =>
      rw [Statement.classesOf, List.forall_mem_append] at same
      simp only [writeAll, write_congr same.1, writeAll_congr same.2]

end

/-! ### Collected classes are spelled -/

variable {cls : ClassName}

mutual

theorem has_typeText {t : ValueType} (member : cls ∈ t.classes) :
    Text.Has (typeText spell t) (spell cls) := by
  cases t with
  | primitive _ => exact absurd member List.not_mem_nil
  | declared owner arguments =>
      have spelled : Text.Has (spell owner) (spell owner) := .self
      rw [ValueType.classes, List.mem_cons] at member
      rw [typeText]
      split
      · rename_i plain
        rw [List.isEmpty_iff.mp plain] at member
        rcases member with rfl | later
        · exact spelled
        · exact absurd later List.not_mem_nil
      · rcases member with rfl | later
        · exact spelled.left.left.left
        · exact (Text.Has.joined (has_typeTexts later)).right.left
  | array component =>
      rw [ValueType.classes] at member
      rw [typeText]
      exact (has_typeText member).left

theorem has_typeTexts {types : List ValueType} (member : cls ∈ ValueType.classesOf types) :
    ∃ text ∈ typeTexts spell types, Text.Has text (spell cls) := by
  cases types with
  | nil => exact absurd member List.not_mem_nil
  | cons t rest =>
      rw [ValueType.classesOf, List.mem_append] at member
      rw [typeTexts]
      rcases member with here | later
      · exact ⟨_, List.mem_cons_self, has_typeText here⟩
      · obtain ⟨text, among, has⟩ := has_typeTexts later
        exact ⟨text, List.mem_cons_of_mem _ among, has⟩

end

theorem has_parameterTexts {parameters : List Parameter}
    (member : cls ∈ parameterClasses parameters) :
    Text.Has (parameterTexts spell parameters) (spell cls) := by
  obtain ⟨p, hp, hcls⟩ := mem_parameterClasses_iff.mp member
  exact .joined ⟨_, List.mem_map_of_mem hp, (has_typeText hcls).right.left.left⟩

theorem has_typeArgumentText {types : List ValueType}
    (member : cls ∈ ValueType.classesOf types) :
    Text.Has (typeArgumentText spell types) (spell cls) := by
  rw [typeArgumentText]
  split
  · rename_i none
    rw [List.isEmpty_iff.mp none] at member
    exact absurd member List.not_mem_nil
  · exact (Text.Has.joined (has_typeTexts member)).right.left

/-- Parentheses hide nothing. -/
theorem has_primaryText {e : Expr} {text part : String} (h : Text.Has text part) :
    Text.Has (primaryText e text) part := by
  unfold primaryText
  split
  · exact h.right.left
  · exact h.right.left
  · exact h

mutual

theorem grows_write {page : Page} {s : Statement} : Page.Grows page (write spell page s) := by
  cases s with
  | run _ | declare _ _ _ _ | assign _ _ =>
      simp only [write]
      exact Page.grows_line
  | branch condition yes no =>
      simp only [write]
      split
      · exact (Page.grows_opening.trans grows_writeAll).trans Page.grows_closing
      · exact (((Page.grows_opening.trans grows_writeAll).trans Page.grows_reopening).trans
          grows_writeAll).trans Page.grows_closing

theorem grows_writeAll {page : Page} {body : List Statement} :
    Page.Grows page (writeAll spell page body) := by
  cases body with
  | nil =>
      rw [writeAll]
      exact .refl page
  | cons s rest =>
      rw [writeAll]
      exact grows_write.trans grows_writeAll

end

mutual

/-- An expression has its classes as they are spelled. -/
theorem has_exprText {depth : Nat} {e : Expr} (member : cls ∈ e.classes) :
    Text.Has (exprText spell depth e) (spell cls) := by
  have self : Text.Has (spell cls) (spell cls) := .self
  cases e with
  | ident _ | literal _ => exact absurd member List.not_mem_nil
  | classLiteral owner =>
      rw [exprText, ← List.mem_singleton.mp member]
      exact self.left
  | create owner diamond arguments =>
      rw [Expr.classes, List.mem_cons] at member
      rw [exprText]
      rcases member with rfl | later
      · exact self.right.left.left.left.left
      · exact (Text.Has.joined (has_exprTexts later)).right.left
  | cast owner operand =>
      rw [Expr.classes, List.mem_cons] at member
      rw [exprText]
      rcases member with rfl | later
      · exact self.right.left.left
      · exact (has_primaryText (has_exprText later)).right
  | call target method types arguments =>
      rw [Expr.classes, List.mem_append, List.mem_append] at member
      rw [exprText]
      rcases member with (here | inTypes) | later
      · exact (has_primaryText (has_exprText here)).left.left.left.left.left.left
      · exact (has_typeArgumentText inTypes).right.left.left.left.left
      · exact (Text.Has.joined (has_exprTexts later)).right.left
  | property target _ =>
      rw [Expr.classes] at member
      rw [exprText]
      exact (has_primaryText (has_exprText member)).left.left.left
  | field target _ =>
      rw [Expr.classes] at member
      rw [exprText]
      exact (has_primaryText (has_exprText member)).left.left
  | staticCall owner method types arguments | singletonCall owner method types arguments =>
      rw [Expr.classes, List.cons_append, List.mem_cons, List.mem_append] at member
      rw [exprText]
      rcases member with rfl | inTypes | later
      · exact self.left.left.left.left.left.left
      · exact (has_typeArgumentText inTypes).right.left.left.left.left
      · exact (Text.Has.joined (has_exprTexts later)).right.left
  | staticField owner _ =>
      rw [exprText, ← List.mem_singleton.mp member]
      exact self.left.left
  | conditional condition yes no =>
      rw [Expr.classes, List.mem_append, List.mem_append] at member
      rw [exprText]
      rcases member with (inTest | here) | later
      · exact (has_conditionText inTest).left.left.left.left
      · exact (has_exprText here).right.left.left
      · exact (has_exprText later).right
  | nonNull operand =>
      rw [Expr.classes] at member
      rw [exprText]
      exact has_exprText member
  | listener interface method parameters body =>
      rw [Expr.classes, List.cons_append, List.mem_cons, List.mem_append] at member
      rw [exprText]
      rcases member with rfl | inParameters | later
      · exact self.right.left.left.left.left.left
      · refine (Page.has_inline_closing (grows_writeAll.has ?_)).right.left.left.left
        exact Page.has_opening (has_parameterTexts inParameters).right.left
      · exact (Page.has_inline_closing (has_writeAll later)).right.left.left.left

theorem has_exprTexts {depth : Nat} {arguments : List Expr}
    (member : cls ∈ Expr.classesOf arguments) :
    ∃ text ∈ exprTexts spell depth arguments, Text.Has text (spell cls) := by
  cases arguments with
  | nil => exact absurd member List.not_mem_nil
  | cons e rest =>
      rw [Expr.classesOf, List.mem_append] at member
      rw [exprTexts]
      rcases member with here | later
      · exact ⟨_, List.mem_cons_self, has_exprText here⟩
      · obtain ⟨text, among, has⟩ := has_exprTexts later
        exact ⟨text, List.mem_cons_of_mem _ among, has⟩

theorem has_conditionText {depth : Nat} {c : Condition} (member : cls ∈ c.classes) :
    Text.Has (conditionText spell depth c) (spell cls) := by
  have self : Text.Has (spell cls) (spell cls) := .self
  cases c with
  | instanceOf operand owner =>
      rw [Condition.classes, List.mem_cons] at member
      rw [conditionText]
      rcases member with rfl | later
      · exact self.right
      · exact (has_exprText later).left.left
  | isNull operand | notNull operand =>
      rw [Condition.classes] at member
      rw [conditionText]
      exact (has_exprText member).left
  | equal left right =>
      rw [Condition.classes, List.mem_append] at member
      rw [conditionText]
      rcases member with here | later
      · exact (has_exprText here).left.left
      · exact (has_exprText later).right

/-- A statement leaves its classes on the page as they are spelled. -/
theorem has_write {page : Page} {s : Statement} (member : cls ∈ s.classes) :
    Text.Has (write spell page s).text (spell cls) := by
  cases s with
  | run e =>
      rw [Statement.classes] at member
      rw [write]
      exact Page.has_line (has_exprText member).left
  | declare name _ type init =>
      rw [Statement.classes, List.mem_append] at member
      rw [write]
      refine Page.has_line ?_
      rcases member with here | later
      · exact (has_typeText here).left.left.left.left.left
      · exact (has_exprText later).right.left
  | assign target value =>
      rw [Statement.classes, List.mem_append] at member
      rw [write]
      refine Page.has_line ?_
      rcases member with here | later
      · exact (has_exprText here).left.left.left
      · exact (has_exprText later).right.left
  | branch condition yes no =>
      rw [Statement.classes, List.mem_append, List.mem_append] at member
      simp only [write]
      have opened : cls ∈ condition.classes ∨ cls ∈ Statement.classesOf yes →
          Text.Has (writeAll spell (page.opening
            ("if (" ++ conditionText spell page.depth condition ++ ")")) yes).text
            (spell cls) := by
        rintro (inTest | here)
        · exact grows_writeAll.has (Page.has_opening (has_conditionText inTest).right.left)
        · exact has_writeAll here
      split
      · rename_i none
        rw [List.isEmpty_iff.mp none] at member
        rcases member with before | later
        · exact Page.grows_closing.has (opened before)
        · exact absurd later List.not_mem_nil
      · refine Page.grows_closing.has ?_
        rcases member with before | later
        · exact grows_writeAll.has (Page.grows_reopening.has (opened before))
        · exact has_writeAll later

theorem has_writeAll {page : Page} {body : List Statement}
    (member : cls ∈ Statement.classesOf body) :
    Text.Has (writeAll spell page body).text (spell cls) := by
  cases body with
  | nil => exact absurd member List.not_mem_nil
  | cons s rest =>
      rw [Statement.classesOf, List.mem_append] at member
      rw [writeAll]
      rcases member with here | later
      · exact grows_writeAll.has (has_write here)
      · exact has_writeAll later

end

/-! ### Classes of a file -/

section Members

variable {page : Page}

theorem grows_writeCallable {m : Callable} : Page.Grows page (writeCallable spell page m) :=
  ((Page.grows_comment.trans Page.grows_opening).trans grows_writeAll).trans Page.grows_closing

theorem grows_writeListener {l : Listener} : Page.Grows page (writeListener spell page l) :=
  (Page.grows_opening.trans Page.grows_line).trans Page.grows_closing

end Members

/-- Writes the class of a companion below the top of its file. -/
def writeClass (spell : ClassName → String) (page : Page) (c : Companion) : Page :=
  let page := (page.comment c.docs).opening ("public final class " ++ c.name.simpleName)
  let page := c.constants.foldl
    (fun page constant => page.line
      ("public static final String " ++ constant.name ++ " = "
        ++ Source.quoted false constant.value ++ ";"))
    page
  let page := page.blank.opening ("private " ++ c.name.simpleName ++ "()")
  let page := page.closing "\x7d"
  let page := (members c).foldl (fun page m => writeCallable spell page.blank m) page
  let page := c.listener.toList.foldl (fun page l => writeListener spell page.blank l) page
  page.closing "\x7d"

/-- The file as a function of how classes are spelled, with the imports of the table. -/
def textWith (table : Imports) (c : Companion) (header : String) (spell : ClassName → String) :
    String :=
  (writeClass spell (table.writeTop header ";") c).text

theorem renderWith_eq_textWith (table : Imports) (c : Companion) (header : String) :
    renderWith table c header = textWith table c header table.spell :=
  rfl

variable {c : Companion} {table : Imports} {header : String}

theorem mem_mentioned_iff : cls ∈ mentioned c ↔
    (∃ m ∈ members c, cls ∈ m.classes) ∨
      ∃ l ∈ c.listener.toList, cls ∈ parameterClasses l.parameters := by
  rw [mentioned, List.mem_append, List.mem_flatMap, List.mem_flatMap]

end Java

end Companions
