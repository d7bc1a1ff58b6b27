import Companions.Code
import Companions.Naming.Word
import Companions.Proofs.Imports
import Companions.Proofs.Text.Brackets

/-!
Expression trees as source text.

`Expr.Within` says that a tree is built of names, casts, calls without type arguments, members,
choices and assertions, with names that Java takes and with operands of tests that are no choices.
A `Fragment` says which classes the trees may mention, of what a member may be taken, and whether
they may assert that a value is not null.

Names and spellings of classes have no brackets and no separators (`Naming.clear_of_isMemberName`,
`Imports.clear_spell`). So a test is read off its text as soon as its operands are
(`Condition.map_eq_of_written_eq`).
-/

namespace Companions

/-! ### Trees -/

/-- The expressions that a test looks at. -/
def Condition.operands : Condition → List Expr
  | .instanceOf operand _ => [operand]
  | .isNull operand => [operand]
  | .notNull operand => [operand]
  | .equal left right => [left, right]

/-- The class that a test asks for. -/
def Condition.asked : Condition → List ClassName
  | .instanceOf _ cls => [cls]
  | _ => []

/-- Whether the expression is a choice between two. -/
def Expr.isConditional : Expr → Bool
  | .conditional .. => true
  | _ => false

/-- Which trees are meant: the classes they mention, what their members are taken of and what they
assert not to be null, and whether they do so at all. -/
structure Fragment where
  classes : ClassName → Prop
  base : Expr → Prop
  asserts : Prop

/-- The tree is built of names, casts, calls without type arguments, members, choices and
assertions, as far as the fragment has them. -/
inductive Expr.Within (f : Fragment) : Expr → Prop where
  | ident {name : String} : Naming.isMemberName name = true → Within f (.ident name)
  | cast {cls : ClassName} {operand : Expr} : f.classes cls → Within f operand →
      Within f (.cast cls operand)
  | call {target : Expr} {method : String} {arguments : List Expr} : Within f target →
      f.base target → Naming.isMemberName method = true → (∀ e ∈ arguments, Within f e) →
      Within f (.call target method [] arguments)
  | field {target : Expr} {name : String} : Within f target → f.base target →
      Naming.isMemberName name = true → Within f (.field target name)
  | conditional {condition : Condition} {yes no : Expr} : (∀ cls ∈ condition.asked, f.classes cls) →
      (∀ e ∈ condition.operands, Within f e) →
      (∀ e ∈ condition.operands, e.isConditional = false) → Within f yes → Within f no →
      Within f (.conditional condition yes no)
  | nonNull {operand : Expr} : f.asserts → Within f operand → f.base operand →
      Within f (.nonNull operand)

/-- The text shows the form of the expression outside its brackets, and has no comma there. A
language says which forms there are, and how they look from outside. -/
def Expr.Shows {Form : Type} (formOf : List Char → Form) (form : Expr → Form) (text : String)
    (e : Expr) : Prop :=
  ∃ outer, Text.Outside text.toList outer ∧ ',' ∉ outer ∧ formOf outer = form e

namespace Expr.Shows

variable {Form : Type} {formOf : List Char → Form} {form : Expr → Form} {text : String}
  {e e' : Expr}

/-- Expressions of one text have one form. -/
theorem form_eq (h : Shows formOf form text e) (h' : Shows formOf form text e') :
    form e = form e' := by
  obtain ⟨outer, balanced, -, shown⟩ := h
  obtain ⟨outer', balanced', -, shown'⟩ := h'
  rw [← shown, ← shown', balanced.unique balanced']

theorem clear (h : Shows formOf form text e) : Text.Clear [','] text := by
  obtain ⟨outer, balanced, comma, -⟩ := h
  exact ⟨outer, balanced, by simpa using comma⟩

/-- The texts of expressions can stand in a list. -/
theorem items {write : Expr → String} {list : List Expr} (filled : ∀ e ∈ list, write e ≠ "")
    (shown : ∀ e ∈ list, Shows formOf form (write e) e) :
    ∀ text ∈ list.map write, Text.IsItem text := by
  intro text member
  obtain ⟨e, he, rfl⟩ := List.mem_map.mp member
  exact ⟨filled e he, (shown e he).clear⟩

end Expr.Shows

/-- Lists of expressions are read off their texts as soon as each of them is. -/
theorem Expr.map_eq_of_texts_eq {text : Expr → String} {g : Expr → Expr} {list list' : List Expr}
    (each : ∀ e ∈ list, ∀ e' ∈ list', text e = text e' → g e = g e')
    (same : list.map text = list'.map text) : list.map g = list'.map g := by
  induction list generalizing list' with
  | nil =>
      rw [List.map_eq_nil_iff.mp same.symm]
  | cons e rest ih =>
      cases list' with
      | nil => exact nomatch same
      | cons e' rest' =>
          obtain ⟨head, tail⟩ := List.cons.inj same
          rw [List.map_cons, List.map_cons, each e List.mem_cons_self e' List.mem_cons_self head,
            ih (fun d hd d' hd' => each d (List.mem_cons_of_mem _ hd) d'
              (List.mem_cons_of_mem _ hd')) tail]

/-! ### Names -/

namespace Naming

variable {name : String} {x : Char}

theorem exists_word_of_isMemberName (h : isMemberName name = true) :
    ∃ first rest, name.toList = first :: rest ∧ ∀ c ∈ name.toList, isWordPart c = true := by
  rw [isMemberName, Bool.and_eq_true, isWord] at h
  cases split : name.toList with
  | nil => simp [split] at h
  | cons first rest =>
      simp only [split, Bool.and_eq_true, List.all_eq_true] at h
      refine ⟨first, rest, rfl, fun c hc => ?_⟩
      rcases List.mem_cons.mp hc with rfl | hc
      · rw [isWordPart, h.1.1, Bool.true_or]
      · exact h.1.2 c hc

theorem ne_empty_of_isMemberName (h : isMemberName name = true) : name ≠ "" := by
  rintro rfl
  exact absurd h (by decide)

/-- A name has only letters, digits, underscores and dollar signs. -/
theorem not_mem_of_isMemberName (h : isMemberName name = true) (hx : isWordPart x = false) :
    x ∉ name.toList := by
  intro mem
  obtain ⟨-, -, -, parts⟩ := exists_word_of_isMemberName h
  rw [parts x mem] at hx
  exact nomatch hx

theorem ne_of_isMemberName {keyword : String} (h : isMemberName name = true)
    (kept : isMemberName keyword = false) : name ≠ keyword := by
  rintro rfl
  rw [h] at kept
  exact nomatch kept

/-- No bracket is part of a name. -/
theorem isPlain_of_isWordPart (hx : isWordPart x = true) : Text.isPlain x = true := by
  have brackets : (['(', ')', '?', ':'].all fun c => !isWordPart c) = true := by decide
  rw [Text.isPlain, Bool.not_eq_true', Bool.eq_false_iff]
  intro mem
  have other := List.all_eq_true.mp brackets x (List.contains_iff_mem.mp mem)
  rw [hx] at other
  exact nomatch other

theorem clear_of_isMemberName (h : isMemberName name = true) (marks : List Char)
    (separate : (marks.all fun x => !isWordPart x) = true) : Text.Clear marks name := by
  obtain ⟨-, -, -, parts⟩ := exists_word_of_isMemberName h
  refine .of_plain fun c hc => ⟨isPlain_of_isWordPart (parts c hc), fun mark => ?_⟩
  have other := List.all_eq_true.mp separate c mark
  rw [parts c hc] at other
  exact nomatch other

end Naming

/-! ### Classes -/

namespace Imports

variable {cls : ClassName}

/-- The spelling of a class is a dotted name. -/
theorem dotted_spell (table : Imports) (nameable : Nameable cls) :
    ClassName.Dotted (table.spell cls).toList := by
  obtain ⟨⟨name, read⟩, -⟩ := nameable
  obtain ⟨before, segment, rest, made⟩ := ClassName.segmented_of_parse read
  rw [ClassName.dotted_iff]
  by_cases owner : table.owners.lookup cls.outer = some cls.topLevel
  · rw [spell_of_owner owner, made.segments_relative]
    intro part hpart
    exact made.identifiers part (List.mem_append_right _ hpart)
  · rw [spell_of_not_owner owner, made.segments_canonical]
    exact made.identifiers

theorem clear_spell (table : Imports) (nameable : Nameable cls) (marks : List Char)
    (separate : (marks.all fun x => !(ClassName.isSegmentPart x || x == '.')) = true) :
    Text.Clear marks (table.spell cls) := by
  have brackets : (['(', ')', '?', ':'].all fun x => !(ClassName.isSegmentPart x || x == '.'))
      = true := by decide
  have absent : ∀ {others : List Char},
      (others.all fun x => !(ClassName.isSegmentPart x || x == '.')) = true →
        ∀ c ∈ (table.spell cls).toList, c ∉ others := by
    intro others apart c hc other
    have neither := List.all_eq_true.mp apart c other
    rcases (dotted_spell table nameable).isSegmentPart_or hc with part | rfl
    · simp [part] at neither
    · simp at neither
  refine .of_plain fun c hc => ⟨?_, absent separate c hc⟩
  simpa [Text.isPlain] using absent brackets c hc

end Imports

/-! ### Tests -/

namespace Condition

/-- The test with other operands. -/
def map (g : Expr → Expr) : Condition → Condition
  | .instanceOf operand cls => .instanceOf (g operand) cls
  | .isNull operand => .isNull (g operand)
  | .notNull operand => .notNull (g operand)
  | .equal left right => .equal (g left) (g right)

/-- A test whose operands stay the same stays the same. -/
theorem map_eq_self {c : Condition} {g : Expr → Expr} (same : ∀ e ∈ c.operands, g e = e) :
    c.map g = c := by
  cases c with
  | instanceOf operand _ | isNull operand | notNull operand =>
      rw [map, same operand List.mem_cons_self]
  | equal left right =>
      rw [map, same left List.mem_cons_self, same right (List.mem_cons_of_mem _ List.mem_cons_self)]

variable {text : Expr → String} {spell : ClassName → String} {word : String}

/-- The operand that a test begins with. -/
def first : Condition → Expr
  | .instanceOf operand _ => operand
  | .isNull operand => operand
  | .notNull operand => operand
  | .equal left _ => left

/-- What follows the first operand and a blank. -/
def question (text : Expr → String) (spell : ClassName → String) (word : String) :
    Condition → String
  | .instanceOf _ cls => word ++ " " ++ spell cls
  | .isNull _ => "== null"
  | .notNull _ => "!= null"
  | .equal _ right => "== " ++ text right

/-- A test as both languages write it, with a word of theirs for whether a value is of a class. -/
def written (text : Expr → String) (spell : ClassName → String) (word : String)
    (c : Condition) : String :=
  text c.first ++ " " ++ c.question text spell word

/-- The text of a test is made of the texts of its operands. -/
theorem written_map {c : Condition} {g : Expr → Expr}
    (same : ∀ e ∈ c.operands, text (g e) = text e) :
    (c.map g).written text spell word = c.written text spell word := by
  cases c with
  | instanceOf operand _ | isNull operand | notNull operand =>
      simp only [map, written, first, question, same operand List.mem_cons_self]
  | equal left right =>
      simp only [map, written, first, question, same left List.mem_cons_self,
        same right (List.mem_cons_of_mem _ List.mem_cons_self)]

theorem first_mem_operands (c : Condition) : c.first ∈ c.operands := by
  cases c <;> exact List.mem_cons_self

/-- What tests are written with besides operands, classes and the word. -/
def literals : List String :=
  [" ", "== null", "!= null", "== "]

/-- A test has no separators outside brackets if its operands have none. -/
theorem clear_written {marks : List Char} {c : Condition}
    (operand : ∀ e ∈ c.operands, Text.Clear marks (text e))
    (asked : ∀ cls ∈ c.asked, Text.Clear marks (spell cls)) (letters : Text.Clear marks word)
    (free : (literals.all fun s => s.toList.all fun x => Text.isPlain x && !marks.contains x)
      = true) :
    Text.Clear marks (c.written text spell word) := by
  have literal : ∀ s ∈ literals, Text.Clear marks s := by
    intro s hs
    exact .literal (List.all_eq_true.mp free s hs)
  have blank := literal " " (by decide)
  refine ((operand c.first c.first_mem_operands).append blank).append ?_
  cases c with
  | instanceOf _ cls => exact (letters.append blank).append (asked cls List.mem_cons_self)
  | isNull _ => exact literal "== null" (by decide)
  | notNull _ => exact literal "!= null" (by decide)
  | equal _ right =>
      exact (literal "== " (by decide)).append (operand right (by simp [operands]))

/-- **A test is read off its text** as soon as each operand is read off the text up to the next
blank. -/
theorem map_eq_of_written_eq {c c' : Condition} {g : Expr → Expr}
    (cut : ∀ e ∈ c.operands, ∀ e' ∈ c'.operands, ∀ rest rest',
      (text e).toList ++ ' ' :: rest = (text e').toList ++ ' ' :: rest' →
        g e = g e' ∧ rest = rest')
    (present : ∀ e ∈ c.operands ++ c'.operands, text e ≠ "null")
    (named : ∀ cls ∈ c.asked, ∀ cls' ∈ c'.asked, spell cls = spell cls' → cls = cls')
    (letter : ∃ first more, word.toList = first :: more ∧ first ≠ '=' ∧ first ≠ '!')
    (same : c.written text spell word = c'.written text spell word) : c.map g = c'.map g := by
  obtain ⟨first, more, split, equals, bang⟩ := letter
  have cutFirst := cut c.first c.first_mem_operands c'.first c'.first_mem_operands
    (c.question text spell word).toList (c'.question text spell word).toList
    (by simpa [written, ← String.toList_inj] using same)
  obtain ⟨firsts, questions⟩ := cutFirst
  cases c with
  | instanceOf operand cls =>
      cases c' with
      | instanceOf operand' cls' =>
          simp only [question, String.toList_append, List.append_cancel_left_eq] at questions
          have classes := named cls List.mem_cons_self cls' List.mem_cons_self
            (String.toList_inj.mp questions)
          exact congrArg₂ Condition.instanceOf firsts classes
      | isNull _ => simp [question, split, equals] at questions
      | notNull _ => simp [question, split, bang] at questions
      | equal _ _ => simp [question, split, equals] at questions
  | isNull operand =>
      cases c' with
      | instanceOf _ _ => simp [question, split, Ne.symm equals] at questions
      | isNull operand' => exact congrArg Condition.isNull firsts
      | notNull _ => simp [question] at questions
      | equal left right =>
          have null : text right = "null" := by
            simpa [question, ← String.toList_inj, eq_comm] using questions
          exact absurd null (present right (by simp [operands]))
  | notNull operand =>
      cases c' with
      | instanceOf _ _ => simp [question, split, Ne.symm bang] at questions
      | isNull _ => simp [question] at questions
      | notNull operand' => exact congrArg Condition.notNull firsts
      | equal _ _ => simp [question] at questions
  | equal left right =>
      cases c' with
      | instanceOf _ _ => simp [question, split, Ne.symm equals] at questions
      | isNull _ =>
          have null : text right = "null" := by
            simpa [question, ← String.toList_inj] using questions
          exact absurd null (present right (by simp [operands]))
      | notNull _ => simp [question] at questions
      | equal left' right' =>
          have texts : (text right).toList = (text right').toList := by
            simpa [question] using questions
          have rights := cut right (by simp [operands]) right' (by simp [operands]) [] []
            (by rw [texts])
          exact congrArg₂ Condition.equal firsts rights.1

end Condition

end Companions
