import Companions.Proofs.Builtins
import Companions.Proofs.Finishing
import Companions.Proofs.Source.Trees

/-!
Kotlin expressions are read off their text, but for the receiver.

A member of the extension receiver is written without a target, so a field of it has the text of a
parameter or local of that name. `Kotlin.unqualified` writes such fields as names. Two trees have
one text exactly if they are the same after that (`Kotlin.exprText_eq_iff_unqualified`), as long as
nothing is taken of a choice: a member of one reads as a member of its last branch
(`Kotlin.exprText_field_conditional`).

A choice is written in words, and the words are cut at the blanks outside brackets. All other
expressions have no blank there, and their last character tells an assertion from a cast, a call and
a name. The induction therefore goes over texts that end at a blank (`Kotlin.readOff`).
-/

namespace Companions.Kotlin

open Text (Outside Clear)

/-- The trees that are read off their text: their classes do not have names of Kotlin's own, and
nothing is taken of a choice. -/
def readable : Fragment where
  classes cls := Imports.Nameable cls ∧ cls.simpleName ∉ builtinNames
  base e := e.isConditional = false
  asserts := True

variable {table : Imports} {spell : ClassName → String} {receiver : Option String} {depth : Nat}
  {e e' : Expr} {name name' text : String} {f : Fragment}

/-! ### Fields of the receiver -/

/-- Whether the name of a parameter or local is written as it is. -/
def isBare (receiver : Option String) (name : String) : Bool :=
  receiver != some name && !Naming.kotlinKeywords.contains name

mutual

/-- The tree with the fields of the receiver as names, where a name of its own is written so. -/
def unqualified (receiver : Option String) : Expr → Expr
  | .ident name => .ident name
  | .cast cls operand => .cast cls (unqualified receiver operand)
  | .call target method typeArguments arguments =>
    .call (unqualified receiver target) method typeArguments (unqualifiedAll receiver arguments)
  | .field target name =>
    if isReceiver receiver target && isBare receiver name then .ident name
    else .field (unqualified receiver target) name
  | .conditional condition yes no =>
    .conditional (unqualifiedTest receiver condition) (unqualified receiver yes)
      (unqualified receiver no)
  | .nonNull operand => .nonNull (unqualified receiver operand)
  | e => e

/-- Trees in order. -/
def unqualifiedAll (receiver : Option String) : List Expr → List Expr
  | [] => []
  | e :: rest => unqualified receiver e :: unqualifiedAll receiver rest

/-- The test with its operands. -/
def unqualifiedTest (receiver : Option String) : Condition → Condition
  | .instanceOf operand cls => .instanceOf (unqualified receiver operand) cls
  | .isNull operand => .isNull (unqualified receiver operand)
  | .notNull operand => .notNull (unqualified receiver operand)
  | .equal left right => .equal (unqualified receiver left) (unqualified receiver right)

end

theorem unqualifiedAll_eq_map (arguments : List Expr) :
    unqualifiedAll receiver arguments = arguments.map (unqualified receiver) := by
  induction arguments with
  | nil => rw [unqualifiedAll, List.map_nil]
  | cons e rest ih => rw [unqualifiedAll, List.map_cons, ih]

theorem unqualifiedTest_eq_map (c : Condition) :
    unqualifiedTest receiver c = c.map (unqualified receiver) := by
  cases c <;> simp only [unqualifiedTest, Condition.map]

theorem exprTexts_eq_map (arguments : List Expr) : exprTexts spell receiver depth arguments
    = arguments.map (exprText spell receiver depth) := by
  induction arguments with
  | nil => rw [exprTexts, List.map_nil]
  | cons e rest ih => rw [exprTexts, List.map_cons, ih]

theorem conditionText_eq (c : Condition) : conditionText spell receiver depth c
    = c.written (exprText spell receiver depth) (classText spell) "is" := by
  cases c <;> simp [conditionText, Condition.written, Condition.first, Condition.question,
    ← String.toList_inj]

theorem isReceiver_iff : isReceiver receiver e = true ↔ ∃ name, e = .ident name ∧
    receiver = some name := by
  cases e <;> simp [isReceiver]

theorem isBare_iff : isBare receiver name = true ↔
    receiver ≠ some name ∧ name ∉ Naming.kotlinKeywords := by
  simp [isBare]

theorem exprText_of_isBare (bare : isBare receiver name = true) :
    exprText spell receiver depth (.ident name) = name := by
  obtain ⟨other, word⟩ := isBare_iff.mp bare
  rw [exprText, if_neg (by simpa using other), Naming.kotlinName, if_neg (by simpa using word)]

/-- The receiver is still found where fields are written as names. -/
theorem isReceiver_unqualified : isReceiver receiver (unqualified receiver e)
    = isReceiver receiver e := by
  cases e with
  | field target name =>
      rw [unqualified]
      split
      · rename_i dropped
        have bare := (isBare_iff.mp ((Bool.and_eq_true _ _).mp dropped).2).1
        simpa [isReceiver] using bare
      · rfl
  | cast _ _ | call _ _ _ _ | conditional _ _ _ | nonNull _ =>
      rw [unqualified]
      rfl
  | _ => simp only [unqualified]

/-- **Writing fields of the receiver as names does not change the text.** -/
theorem exprText_unqualified (h : e.Within f) :
    exprText spell receiver depth (unqualified receiver e) = exprText spell receiver depth e := by
  induction h with
  | ident _ => rw [unqualified]
  | cast _ _ ih => rw [unqualified, exprText, exprText, ih]
  | call _ _ _ _ ih ihArguments =>
      have texts := List.map_congr_left (f := exprText spell receiver depth ∘ unqualified receiver)
        (g := exprText spell receiver depth) ihArguments
      rw [unqualified, exprText, exprText, ih, memberAccess, memberAccess, isReceiver_unqualified,
        unqualifiedAll_eq_map, exprTexts_eq_map, exprTexts_eq_map, List.map_map, texts]
  | @field target name _ _ _ ih =>
      rw [unqualified]
      split
      · rename_i dropped
        obtain ⟨own, bare⟩ := (Bool.and_eq_true _ _).mp dropped
        rw [exprText_of_isBare bare, exprText, memberAccess, if_pos own, String.empty_append]
      · rw [exprText, exprText, ih, memberAccess, memberAccess, isReceiver_unqualified]
  | conditional _ _ _ _ _ ihOperands ihYes ihNo =>
      rw [unqualified, exprText, exprText, ihYes, ihNo, conditionText_eq, conditionText_eq,
        unqualifiedTest_eq_map, Condition.written_map ihOperands]
  | nonNull _ _ _ ih => rw [unqualified, exprText, exprText, ih]

/-- Without a receiver there is nothing to write otherwise. -/
theorem unqualified_none (h : e.Within f) : unqualified none e = e := by
  induction h with
  | ident _ => rw [unqualified]
  | cast _ _ ih => rw [unqualified, ih]
  | call _ _ _ _ ih ihArguments =>
      rw [unqualified, ih, unqualifiedAll_eq_map, List.map_congr_left (g := id) ihArguments,
        List.map_id]
  | @field target name _ _ _ ih =>
      have foreign : isReceiver none target = false := by
        cases target <;> rfl
      rw [unqualified, foreign, Bool.false_and, if_neg Bool.false_ne_true, ih]
  | conditional _ _ _ _ _ ihOperands ihYes ihNo =>
      rw [unqualified, unqualifiedTest_eq_map, Condition.map_eq_self ihOperands, ihYes, ihNo]
  | nonNull _ _ _ ih => rw [unqualified, ih]

/-! ### Names and classes -/

/-- A parameter or local is written in letters, digits and backticks. -/
theorem isWordPart_of_mem_ident {x : Char} (named : Naming.isMemberName name = true)
    (mem : x ∈ (exprText spell receiver depth (.ident name)).toList) :
    (Naming.isWordPart x || x == '\x60') = true := by
  obtain ⟨-, -, -, parts⟩ := Naming.exists_word_of_isMemberName named
  rw [exprText] at mem
  split at mem
  · have letters : "this".toList.all Naming.isWordPart = true := by decide
    rw [List.all_eq_true.mp letters x mem, Bool.true_or]
  · rw [Naming.kotlinName] at mem
    split at mem
    · simp only [String.toList_append, List.mem_append] at mem
      rcases mem with (tick | inside) | tick
      · simp_all
      · rw [parts x inside, Bool.true_or]
      · simp_all
    · rw [parts x mem, Bool.true_or]

theorem clear_ident (named : Naming.isMemberName name = true) (marks : List Char)
    (separate : (marks.all fun x => !(Naming.isWordPart x || x == '\x60')) = true) :
    Clear marks (exprText spell receiver depth (.ident name)) := by
  refine .of_plain fun c hc => ?_
  have part := isWordPart_of_mem_ident named hc
  constructor
  · rcases (Bool.or_eq_true _ _).mp part with word | tick
    · exact Naming.isPlain_of_isWordPart word
    · rw [beq_iff_eq.mp tick]
      rfl
  · intro mark
    have other := List.all_eq_true.mp separate c mark
    rw [part] at other
    exact nomatch other

/-- Names are read off their text. -/
theorem name_eq_of_exprText_eq (named : Naming.isMemberName name = true)
    (named' : Naming.isMemberName name' = true)
    (same : exprText spell receiver depth (.ident name)
      = exprText spell receiver depth (.ident name')) : name = name' := by
  have noTick : ∀ {name : String}, Naming.isMemberName name = true → '\x60' ∉ name.toList :=
    fun named => Naming.not_mem_of_isMemberName named (by decide)
  by_cases own : receiver = some name
  · rw [exprText_ident_eq_this_iff.mpr own, eq_comm, exprText_ident_eq_this_iff, own] at same
    exact Option.some.inj same
  · have other : receiver ≠ some name' := by
      intro found
      rw [exprText_ident_eq_this_iff.mpr found] at same
      exact own (exprText_ident_eq_this_iff.mp same)
    rw [exprText, exprText, if_neg (by simpa using own), if_neg (by simpa using other),
      Naming.kotlinName, Naming.kotlinName] at same
    split at same
    · split at same
      · exact (String.append_right_inj _).mp ((String.append_left_inj _).mp same)
      · exact absurd (by simp [← same]) (noTick named')
    · split at same
      · exact absurd (by simp [same]) (noTick named)
      · exact same

/-- A class is shown without brackets. -/
theorem clear_classText (table : Imports) {cls : ClassName} (nameable : Imports.Nameable cls)
    (marks : List Char)
    (separate : (marks.all fun x => !(ClassName.isSegmentPart x || x == '.')) = true) :
    Clear marks (classText table.spell cls) := by
  cases own : builtin? cls with
  | some name =>
      have letters : ∀ name ∈ builtinNames,
          (name.toList.all fun c => Text.isPlain c && ClassName.isSegmentPart c) = true := by
        decide
      have known := List.all_eq_true.mp (letters name (mem_builtinNames_iff.mpr ⟨_, own⟩))
      rw [classText_of_builtin own]
      refine .of_plain fun c hc => ?_
      obtain ⟨plain, part⟩ := (Bool.and_eq_true _ _).mp (known c hc)
      refine ⟨plain, fun mark => ?_⟩
      have other := List.all_eq_true.mp separate c mark
      rw [part, Bool.true_or] at other
      exact nomatch other
  | none =>
      rw [classText_of_none own]
      exact Imports.clear_spell table nameable marks separate

theorem not_hides_of_simpleName {x y : ClassName} (foreign : y.simpleName ∉ builtinNames) :
    ¬ Hides table y x := by
  rintro ⟨-, own, flat, -⟩
  have simple : y.simpleName = y.outer := by simp [ClassName.simpleName, flat]
  exact foreign (simple ▸ mem_builtinNames_iff.mpr ⟨x, own⟩)

/-- Classes that do not have names of Kotlin's own are read off their spelling. -/
theorem eq_of_classText_eq {x y : ClassName} (meant : readable.classes x)
    (meant' : readable.classes y) (same : classText table.spell x = classText table.spell y) :
    x = y := by
  by_contra other
  rcases (classText_eq_iff meant.1 meant'.1 other).mp same with hides | hides
  · exact not_hides_of_simpleName meant'.2 hides
  · exact not_hides_of_simpleName meant.2 hides

/-! ### Forms -/

/-- What an expression is as a whole. Kotlin writes a field of the receiver as a name. -/
inductive Form where
  | name
  | cast
  | call
  | choice
  | assertion
deriving DecidableEq

/-- The form of a readable tree. -/
def form : Expr → Form
  | .cast .. => .cast
  | .call .. => .call
  | .conditional .. => .choice
  | .nonNull _ => .assertion
  | _ => .name

/-- The form of a text, by what stands outside its brackets: a blank, or else the last mark. -/
def formOf (outer : List Char) : Form :=
  if ' ' ∈ outer then .choice
  else if outer.getLast? = some '!' then .assertion
  else if outer = ['('] then .cast
  else if outer.getLast? = some '(' then .call
  else .name

/-- The text shows the form of the expression. -/
abbrev Shows (text : String) (e : Expr) : Prop :=
  Expr.Shows formOf form text e

/-- Only a choice has a blank outside brackets. -/
theorem Shows.clear_of_single (h : Shows text e) (single : e.isConditional = false) :
    Clear [',', ' '] text := by
  have noChoice : form e ≠ .choice := by
    cases e <;> simp_all [form, Expr.isConditional]
  obtain ⟨outer, balanced, comma, shown⟩ := h
  refine ⟨outer, balanced, ?_⟩
  have blank : ' ' ∉ outer := by
    intro blank
    rw [formOf, if_pos blank] at shown
    exact noChoice shown.symm
  simp [comma, blank]

/-- What ends in a name shows a name. -/
theorem formOf_append_name {first last : List Char} (blank : ' ' ∉ first)
    (free : ∀ x ∈ [' ', '!', '('], x ∉ last) (filled : last ≠ []) :
    formOf (first ++ last) = .name := by
  obtain ⟨before, x, rfl⟩ := (List.eq_nil_or_concat' last).resolve_left filled
  have ends : ∀ y ∈ ['!', '('], x ≠ y := by
    rintro y hy rfl
    exact free x (List.mem_cons_of_mem _ hy) (by simp)
  have noCast : first ++ (before ++ [x]) ≠ ['('] := by
    intro same
    have last := congrArg List.getLast? same
    simp [ends '(' (by simp)] at last
  simp [formOf, blank, free ' ' (by simp), ends '!' (by simp), ends '(' (by simp), noCast]

/-- What stands in front of a member has no blank and no comma outside brackets. -/
theorem clear_memberAccess (receiver : Option String) {target : Expr} (h : Shows text target)
    (single : target.isConditional = false) :
    Clear [',', ' '] (memberAccess receiver target text) := by
  rw [memberAccess]
  split
  · exact .literal (s := "") (by decide)
  · exact (h.clear_of_single single).append (.literal (by decide))

/-- A target and a name behind it, which end in that name. -/
theorem shows_member (receiver : Option String) {target : Expr} (h : Shows text target)
    (single : target.isConditional = false) (named : Naming.isMemberName name = true) :
    ∃ outer, Outside (memberAccess receiver target text ++ name).toList outer ∧ ',' ∉ outer ∧
      ' ' ∉ outer ∧ formOf outer = .name ∧ formOf (outer ++ ['(']) = .call := by
  obtain ⟨first, balanced, free⟩ := clear_memberAccess receiver h single
  obtain ⟨last, balanced', free'⟩ :=
    Naming.clear_of_isMemberName named [',', ' ', '!', '('] (by decide)
  have filled : last ≠ [] := by
    rw [ne_eq, ← balanced'.eq_nil_iff, String.toList_eq_nil_iff]
    exact Naming.ne_empty_of_isMemberName named
  refine ⟨first ++ last, by simpa using balanced.append balanced', ?_, ?_, ?_, ?_⟩
  · simp [free ',' (by simp), free' ',' (by simp)]
  · simp [free ' ' (by simp), free' ' ' (by simp)]
  · exact formOf_append_name (free ' ' (by simp)) (fun x hx => free' x (by simp_all)) filled
  · have longer : first ++ last ++ ['('] ≠ ['('] := by
      intro same
      exact filled (List.append_eq_nil_iff.mp (List.append_left_eq_self.mp same)).2
    rw [formOf, if_neg (by simp [free ' ' (by simp), free' ' ' (by simp)]), if_neg (by simp),
      if_neg longer, if_pos (by simp)]

theorem exprText_ne_empty (h : e.Within f) : exprText spell receiver depth e ≠ "" := by
  cases h with
  | @ident name named =>
      rw [exprText, Naming.kotlinName]
      split
      · decide
      · split
        · simp
        · exact Naming.ne_empty_of_isMemberName named
  | cast _ _ => simp [exprText]
  | call _ _ _ _ => simp [exprText]
  | field _ _ named => simp [exprText, Naming.ne_empty_of_isMemberName named]
  | conditional _ _ _ _ _ => simp [exprText]
  | nonNull _ _ _ => simp [exprText]

/-- The texts of the arguments can stand in a list. -/
theorem items_exprTexts {arguments : List Expr} (given : ∀ e ∈ arguments, e.Within f)
    (shown : ∀ e ∈ arguments, Shows (exprText spell receiver depth e) e) :
    ∀ text ∈ exprTexts spell receiver depth arguments, Text.IsItem text := by
  rw [exprTexts_eq_map]
  exact Expr.Shows.items (fun e he => exprText_ne_empty (given e he)) shown

/-- A test is balanced. -/
theorem clear_conditionText {c : Condition} (meant : ∀ cls ∈ c.asked, readable.classes cls)
    (shown : ∀ e ∈ c.operands, Shows (exprText table.spell receiver depth e) e) :
    Clear [','] (conditionText table.spell receiver depth c) := by
  rw [conditionText_eq]
  refine Condition.clear_written (fun e he => (shown e he).clear) (fun cls hcls => ?_)
    (.literal (by decide)) (by decide)
  exact clear_classText table (meant cls hcls).1 _ (by decide)

/-- **What stands outside the brackets of an expression tells its form.** -/
theorem shows_exprText (table : Imports) (receiver : Option String) (depth : Nat)
    (h : e.Within readable) :
    Shows (exprText table.spell receiver depth e) e := by
  induction h with
  | @ident name named =>
      have clear : Clear [',', ' ', '!', '('] (exprText table.spell receiver depth (.ident name)) :=
        clear_ident named _ (by decide)
      obtain ⟨outer, balanced, free⟩ := clear
      have filled : outer ≠ [] := by
        rw [ne_eq, ← balanced.eq_nil_iff, String.toList_eq_nil_iff]
        exact exprText_ne_empty (.ident named : Expr.Within readable _)
      have named := formOf_append_name List.not_mem_nil (fun x hx => free x (by simp_all)) filled
      exact ⟨outer, balanced, free ',' (by simp), named⟩
  | @cast cls operand meant _ ih =>
      obtain ⟨outer, balanced, -⟩ := ih
      obtain ⟨classOuter, spelled, -⟩ :=
        clear_classText table meant.1 [] (by decide)
      have as : Outside " as ".toList " as ".toList := .of_plain (by decide)
      refine ⟨['('], ?_, by decide, rfl⟩
      simpa [exprText] using
        Outside.brackets (l := '(') rfl ((balanced.append as).append spelled) .nil
  | @call target method arguments _ single named given ih ihArguments =>
      obtain ⟨first, balanced, comma, -, -, shown⟩ :=
        shows_member receiver ih single named
      obtain ⟨listed, within, -⟩ := Text.clear_joined (items_exprTexts given ihArguments)
      refine ⟨first ++ ['('], ?_, by simp [comma], shown⟩
      simpa [exprText, typeArgumentText] using
        balanced.append (.brackets (l := '(') rfl within .nil)
  | @field target name _ single named ih =>
      obtain ⟨outer, balanced, comma, -, shown, -⟩ :=
        shows_member receiver ih single named
      exact ⟨outer, by rwa [exprText], comma, shown⟩
  | @conditional condition yes no meant _ _ _ _ ihOperands ihYes ihNo =>
      obtain ⟨tested, within, -⟩ := clear_conditionText meant ihOperands
      obtain ⟨first, balancedYes, commaYes, -⟩ := ihYes
      obtain ⟨last, balancedNo, commaNo, -⟩ := ihNo
      have plain : ∀ text ∈ ["if ", " ", " else "], text.toList.all Text.isPlain = true := by
        decide
      have word : ∀ text ∈ ["if ", " ", " else "], Outside text.toList text.toList :=
        fun text known => .of_plain (plain text known)
      have choice := ((word "if " (by simp)).append (.brackets (l := '(') rfl within
        (((word " " (by simp)).append balancedYes).append
          ((word " else " (by simp)).append balancedNo))))
      refine ⟨_, by simpa [exprText] using choice, ?_, ?_⟩
      · simp [commaYes, commaNo]
      · simp [formOf, form]
  | @nonNull operand _ _ single ih =>
      obtain ⟨outer, balanced, free⟩ := ih.clear_of_single single
      have bangs : Outside "!!".toList "!!".toList := .of_plain (by decide)
      refine ⟨outer ++ "!!".toList, by simpa [exprText] using balanced.append bangs, ?_, ?_⟩
      · simp [free ',' (by simp)]
      · simp [formOf, form, free ' ' (by simp)]

/-! ### Cuts -/

/-- No expression without a blank outside brackets is a word that Java keeps for itself. -/
theorem exprText_ne_keyword {word : String} (h : e.Within readable)
    (single : e.isConditional = false) (kept : Naming.isMemberName word = false)
    (letters : word.toList.all Naming.isWordPart = true) (other : word ≠ "this") :
    exprText spell receiver depth e ≠ word := by
  rintro rfl
  have absent : ∀ x, Naming.isWordPart x = false →
      x ∉ (exprText spell receiver depth e).toList := by
    intro x hx mem
    rw [List.all_eq_true.mp letters x mem] at hx
    exact nomatch hx
  cases h with
  | @ident name named =>
      rw [exprText] at kept absent other
      split at other
      · exact other rfl
      · rename_i foreign
        rw [if_neg foreign, Naming.kotlinName] at kept absent
        split at absent
        · exact absent '\x60' (by decide) (by simp)
        · rename_i plain
          rw [if_neg plain, named] at kept
          exact nomatch kept
  | cast _ _ => exact absent '(' (by decide) (by simp [exprText])
  | call _ _ _ _ => exact absent '(' (by decide) (by simp [exprText])
  | @field target name _ _ named =>
      rw [exprText, memberAccess] at kept absent
      split at absent
      · rename_i own
        rw [if_pos own, String.empty_append, named] at kept
        exact nomatch kept
      · exact absent '.' (by decide) (by simp)
  | conditional _ _ _ _ _ => simp [Expr.isConditional] at single
  | nonNull _ _ _ => exact absent '!' (by decide) (by simp [exprText])

section Members

variable {target target' : Expr}

/-- A name with a target is cut at its last dot, and one without is not cut. -/
theorem cut_member (table : Imports) (depth : Nat) (inner : target.Within readable)
    (inner' : target'.Within readable)
    (single : target.isConditional = false) (single' : target'.isConditional = false)
    (named : Naming.isMemberName name = true) (named' : Naming.isMemberName name' = true)
    (same : memberAccess receiver target (exprText table.spell receiver depth target) ++ name
      = memberAccess receiver target' (exprText table.spell receiver depth target') ++ name') :
    exprText table.spell receiver depth target = exprText table.spell receiver depth target' ∧
      isReceiver receiver target = isReceiver receiver target' ∧ name = name' := by
  have noDot : ∀ {name : String}, Naming.isMemberName name = true → '.' ∉ name.toList :=
    fun named => Naming.not_mem_of_isMemberName named (by decide)
  have own : ∀ {target : Expr}, isReceiver receiver target = true →
      exprText table.spell receiver depth target = "this" := by
    intro target own
    obtain ⟨name, rfl, found⟩ := isReceiver_iff.mp own
    exact exprText_ident_eq_this_iff.mpr found
  rw [memberAccess, memberAccess] at same
  split at same
  · rename_i found
    split at same
    · rename_i found'
      rw [String.empty_append, String.empty_append] at same
      exact ⟨(own found).trans (own found').symm, found.trans found'.symm, same⟩
    · rw [String.empty_append] at same
      exact absurd (by simp [same]) (noDot named)
  · rename_i other
    split at same
    · rw [String.empty_append] at same
      exact absurd (by simp [← same]) (noDot named')
    · rename_i other'
      have clear := ((shows_exprText table receiver depth inner).clear_of_single single)
      have clear' := ((shows_exprText table receiver depth inner').clear_of_single single')
      have last := Naming.clear_of_isMemberName named ['.'] (by decide)
      have last' := Naming.clear_of_isMemberName named' ['.'] (by decide)
      obtain ⟨targets, names⟩ := clear.split_last clear' last last' (x := '.') List.mem_cons_self
        (by decide) (by simpa [← String.toList_inj] using same)
      refine ⟨targets, ?_, names⟩
      rw [Bool.eq_false_iff.mpr other, Bool.eq_false_iff.mpr other']

/-- **A field that is written like a name is one of the receiver**, and then it is that name. -/
theorem unqualified_field_of_ident (named : Naming.isMemberName name = true)
    (named' : Naming.isMemberName name' = true)
    (same : exprText spell receiver depth (.field target name)
      = exprText spell receiver depth (.ident name')) :
    unqualified receiver (.field target name) = .ident name' := by
  have noTick : '\x60' ∉ name.toList := Naming.not_mem_of_isMemberName named (by decide)
  have field : exprText spell receiver depth (.field target name)
      = memberAccess receiver target (exprText spell receiver depth target) ++ name := by
    rw [exprText]
  rw [field, memberAccess] at same
  split at same
  · rename_i own
    rw [String.empty_append, exprText] at same
    split at same
    · exact absurd same (Naming.ne_of_isMemberName named (by decide))
    · rename_i other
      rw [Naming.kotlinName] at same
      split at same
      · exact absurd (by simp [same]) noTick
      · rename_i plain
        have bare := isBare_iff.mpr ⟨mt beq_iff_eq.mpr other, mt List.contains_iff_mem.mpr plain⟩
        rw [unqualified, same, own, bare, Bool.true_and, if_pos rfl]
  · have dot : '.' ∈ (exprText spell receiver depth (.ident name')).toList := by
      rw [← same]
      simp
    exact absurd (isWordPart_of_mem_ident named' dot) (by decide)

/-- Fields with one text have one target and one name, and fields of the receiver one name. -/
theorem unqualified_field_eq (targets : unqualified receiver target = unqualified receiver target')
    (own : isReceiver receiver target = isReceiver receiver target') (names : name = name') :
    unqualified receiver (.field target name) = unqualified receiver (.field target' name') := by
  rw [unqualified, unqualified, targets, own, names]

end Members

/-- **An expression that is no choice ends at the first blank**, and no choice begins like it. -/
theorem cut_single {rest rest' : List Char} (h : e.Within readable) (h' : e'.Within readable)
    (single : e.isConditional = false)
    (same : (exprText table.spell receiver depth e).toList ++ ' ' :: rest
      = (exprText table.spell receiver depth e').toList ++ ' ' :: rest') :
    e'.isConditional = false ∧
      exprText table.spell receiver depth e = exprText table.spell receiver depth e' ∧
      rest = rest' := by
  have shown := fun {e : Expr} => shows_exprText table receiver depth (e := e)
  have clear := (shown h).clear_of_single single
  cases single' : e'.isConditional with
  | false =>
      have clear' := (shown h').clear_of_single single'
      obtain ⟨texts, -, rests⟩ :=
        clear.split_first clear' ' ' ' ' (by simp) (by simp) same
      exact ⟨rfl, texts, rests⟩
  | true =>
      cases h' with
      | conditional _ _ _ _ _ =>
          have word : Clear [',', ' '] "if" := .literal (by decide)
          obtain ⟨begins, -⟩ := clear.split_first word ' ' ' ' (by simp) (by simp)
            (by simpa [exprText] using same)
          exact absurd begins (exprText_ne_keyword h single (by decide) (by decide) (by decide))
      | _ => simp [Expr.isConditional] at single'

/-- A choice is cut at the parentheses of its test and at the blank behind its first branch. -/
theorem cut_choice {condition condition' : Condition} {yes yes' no no' : Expr}
    {rest rest' : List Char} (tested : Clear [',']
      (conditionText table.spell receiver depth condition))
    (tested' : Clear [','] (conditionText table.spell receiver depth condition'))
    (same : (exprText table.spell receiver depth (.conditional condition yes no)).toList
        ++ ' ' :: rest
      = (exprText table.spell receiver depth (.conditional condition' yes' no')).toList
        ++ ' ' :: rest') :
    conditionText table.spell receiver depth condition
        = conditionText table.spell receiver depth condition' ∧
      (exprText table.spell receiver depth yes).toList ++ ' ' :: ("else ".toList
          ++ ((exprText table.spell receiver depth no).toList ++ ' ' :: rest))
        = (exprText table.spell receiver depth yes').toList ++ ' ' :: ("else ".toList
          ++ ((exprText table.spell receiver depth no').toList ++ ' ' :: rest')) := by
  simp only [exprText, String.toList_append, List.append_assoc, List.append_cancel_left_eq] at same
  obtain ⟨tests, later⟩ := tested.split_closing tested' (l := '(') rfl same
  exact ⟨tests, by simpa using later⟩

/-! ### Whole expressions -/

/-- The tree is read off the text up to the blank behind it, but for the receiver. -/
def ReadOff (table : Imports) (receiver : Option String) (depth : Nat) (e : Expr) : Prop :=
  ∀ (e' : Expr) (rest rest' : List Char), e'.Within readable →
    (exprText table.spell receiver depth e).toList ++ ' ' :: rest
        = (exprText table.spell receiver depth e').toList ++ ' ' :: rest' →
      unqualified receiver e = unqualified receiver e' ∧ rest = rest'

/-- Where nothing follows, one text is enough. -/
theorem ReadOff.alone (h : ReadOff table receiver depth e) (h' : e'.Within readable)
    (same : exprText table.spell receiver depth e = exprText table.spell receiver depth e') :
    unqualified receiver e = unqualified receiver e' :=
  (h e' [] [] h' (by rw [same])).1

/-- An expression that is no choice is read off as soon as it is among those of its form. -/
theorem readOff_of_single (h : e.Within readable) (single : e.isConditional = false)
    (alone : ∀ e' : Expr, e'.Within readable → form e = form e' →
      exprText table.spell receiver depth e = exprText table.spell receiver depth e' →
        unqualified receiver e = unqualified receiver e') : ReadOff table receiver depth e := by
  intro e' rest rest' h' same
  obtain ⟨-, texts, rests⟩ := cut_single h h' single same
  have shown := shows_exprText table receiver depth h
  rw [texts] at shown
  have formEq := shown.form_eq (shows_exprText table receiver depth h')
  exact ⟨alone e' h' formEq texts, rests⟩

section Constructors

variable {cls : ClassName} {method : String} {target operand yes no : Expr}
  {arguments : List Expr} {condition : Condition}

theorem readOff_ident (named : Naming.isMemberName name = true) :
    ReadOff table receiver depth (.ident name) := by
  refine readOff_of_single (.ident named) rfl fun e' h' formEq same => ?_
  cases h' with
  | ident named' => rw [name_eq_of_exprText_eq named named' same]
  | field _ _ named' => rw [unqualified_field_of_ident named' named same.symm, unqualified]
  | _ => simp [form] at formEq

theorem readOff_cast (meant : readable.classes cls) (inner : operand.Within readable)
    (ih : ReadOff table receiver depth operand) :
    ReadOff table receiver depth (.cast cls operand) := by
  refine readOff_of_single (.cast meant inner) rfl fun e' h' formEq same => ?_
  cases h' with
  | @cast cls' operand' meant' inner' =>
      simp only [exprText, String.append_left_inj] at same
      obtain ⟨operands, classes⟩ := ih operand'
        ("as ".toList ++ (classText table.spell cls).toList)
        ("as ".toList ++ (classText table.spell cls').toList) inner'
        (by simpa [← String.toList_inj] using same)
      rw [List.append_cancel_left_eq, String.toList_inj] at classes
      rw [unqualified, unqualified, operands, eq_of_classText_eq meant meant' classes]
  | _ => simp [form] at formEq

theorem readOff_call (inner : target.Within readable) (base : target.isConditional = false)
    (named : Naming.isMemberName method = true) (given : ∀ e ∈ arguments, e.Within readable)
    (ih : ReadOff table receiver depth target)
    (ihArguments : ∀ e ∈ arguments, ReadOff table receiver depth e) :
    ReadOff table receiver depth (.call target method [] arguments) := by
  refine readOff_of_single (.call inner base named given) rfl fun e' h' formEq same => ?_
  have shown := fun {e : Expr} => shows_exprText table receiver depth (e := e)
  have items := items_exprTexts given fun e he => shown (given e he)
  obtain ⟨_, member, -⟩ := shows_member receiver (shown inner) base named
  have clear : Clear [] _ := ⟨_, member, List.forall_mem_nil _⟩
  cases h' with
  | @call target' method' arguments' inner' base' named' given' =>
      have items' := items_exprTexts given' fun e he => shown (given' e he)
      obtain ⟨_, member', -⟩ := shows_member receiver (shown inner') base' named'
      have clear' : Clear [] _ := ⟨_, member', List.forall_mem_nil _⟩
      obtain ⟨members, lists⟩ := clear.split_parens clear' (Text.clear_joined items)
        (Text.clear_joined items')
        (by simpa [exprText, typeArgumentText, String.append_assoc] using same)
      obtain ⟨targets, -, names⟩ :=
        cut_member table depth inner inner' base base' named named' members
      have each := Text.joined_inj items items' lists
      rw [exprTexts_eq_map, exprTexts_eq_map] at each
      have arguments := Expr.map_eq_of_texts_eq (g := unqualified receiver)
        (fun e he e' he' => (ihArguments e he).alone (given' e' he')) each
      rw [unqualified, unqualified, unqualifiedAll_eq_map, unqualifiedAll_eq_map,
        ih.alone inner' targets, names, arguments]
  | _ => simp [form] at formEq

theorem readOff_field (inner : target.Within readable) (base : target.isConditional = false)
    (named : Naming.isMemberName name = true) (ih : ReadOff table receiver depth target) :
    ReadOff table receiver depth (.field target name) := by
  refine readOff_of_single (.field inner base named) rfl fun e' h' formEq same => ?_
  cases h' with
  | ident named' => rw [unqualified_field_of_ident named named' same, unqualified]
  | @field target' name' inner' base' named' =>
      obtain ⟨targets, own, names⟩ := cut_member table depth inner inner' base base' named named'
        (by simpa only [exprText] using same)
      exact unqualified_field_eq (ih.alone inner' targets) own names
  | _ => simp [form] at formEq

theorem readOff_nonNull (inner : operand.Within readable) (base : operand.isConditional = false)
    (ih : ReadOff table receiver depth operand) :
    ReadOff table receiver depth (.nonNull operand) := by
  refine readOff_of_single (.nonNull trivial inner base) rfl fun e' h' formEq same => ?_
  cases h' with
  | nonNull _ inner' base' =>
      simp only [exprText, String.append_left_inj] at same
      rw [unqualified, unqualified, ih.alone inner' same]
  | _ => simp [form] at formEq

/-- Tests of one text are one test, but for the receiver. -/
theorem unqualifiedTest_eq_of_conditionText_eq {condition' : Condition}
    (meant : ∀ cls ∈ condition.asked, readable.classes cls)
    (meant' : ∀ cls ∈ condition'.asked, readable.classes cls)
    (operands : ∀ e ∈ condition.operands, e.Within readable)
    (operands' : ∀ e ∈ condition'.operands, e.Within readable)
    (single : ∀ e ∈ condition.operands, e.isConditional = false)
    (single' : ∀ e ∈ condition'.operands, e.isConditional = false)
    (ih : ∀ e ∈ condition.operands, ReadOff table receiver depth e)
    (same : conditionText table.spell receiver depth condition
      = conditionText table.spell receiver depth condition') :
    unqualifiedTest receiver condition = unqualifiedTest receiver condition' := by
  rw [conditionText_eq, conditionText_eq] at same
  rw [unqualifiedTest_eq_map, unqualifiedTest_eq_map]
  have noNull : ∀ e : Expr, e.Within readable → e.isConditional = false →
      exprText table.spell receiver depth e ≠ "null" := by
    intro e h single
    exact exprText_ne_keyword h single (by decide) (by decide) (by decide)
  have present : ∀ e ∈ condition.operands ++ condition'.operands,
      exprText table.spell receiver depth e ≠ "null" := by
    intro e he
    rcases List.mem_append.mp he with he | he
    · exact noNull e (operands e he) (single e he)
    · exact noNull e (operands' e he) (single' e he)
  exact Condition.map_eq_of_written_eq
    (fun e he e' he' rest rest' => ih e he e' rest rest' (operands' e' he')) present
    (fun cls hcls cls' hcls' => eq_of_classText_eq (meant cls hcls) (meant' cls' hcls'))
    ⟨'i', _, rfl, by decide, by decide⟩ same

theorem readOff_conditional (meant : ∀ cls ∈ condition.asked, readable.classes cls)
    (operands : ∀ e ∈ condition.operands, e.Within readable)
    (single : ∀ e ∈ condition.operands, e.isConditional = false) (innerYes : yes.Within readable)
    (innerNo : no.Within readable)
    (ih : ∀ e ∈ condition.operands, ReadOff table receiver depth e)
    (ihYes : ReadOff table receiver depth yes) (ihNo : ReadOff table receiver depth no) :
    ReadOff table receiver depth (.conditional condition yes no) := by
  intro e' rest rest' h' same
  have within := Expr.Within.conditional meant operands single innerYes innerNo
  have tested := clear_conditionText meant fun e he =>
    shows_exprText table receiver depth (operands e he)
  cases choice : e'.isConditional with
  | false =>
      have other := (cut_single h' within choice same.symm).1
      simp [Expr.isConditional] at other
  | true =>
      cases h' with
      | @conditional condition' yes' no' meant' operands' single' innerYes' innerNo' =>
          have tested' := clear_conditionText meant' fun e he =>
            shows_exprText table receiver depth (operands' e he)
          obtain ⟨tests, later⟩ := cut_choice tested tested' same
          obtain ⟨firsts, later⟩ := ihYes yes' _ _ innerYes' later
          rw [List.append_cancel_left_eq] at later
          obtain ⟨lasts, rests⟩ := ihNo no' rest rest' innerNo' later
          rw [unqualified, unqualified, firsts, lasts, unqualifiedTest_eq_of_conditionText_eq
            meant meant' operands operands' single single' ih tests]
          exact ⟨rfl, rests⟩
      | _ => simp [Expr.isConditional] at choice

end Constructors

/-- **Every readable tree is read off the text up to the blank behind it**, but for the receiver. -/
theorem readOff (h : e.Within readable) : ReadOff table receiver depth e := by
  induction h with
  | ident named => exact readOff_ident named
  | cast meant inner ih => exact readOff_cast meant inner ih
  | call inner base named given ih ihArguments =>
      exact readOff_call inner base named given ih ihArguments
  | field inner base named ih => exact readOff_field inner base named ih
  | conditional meant operands single innerYes innerNo ihOperands ihYes ihNo =>
      exact readOff_conditional meant operands single innerYes innerNo ihOperands ihYes ihNo
  | nonNull _ inner base ih => exact readOff_nonNull inner base ih

/-- **Kotlin expressions are rendered unambiguously, but for the receiver.** Whatever the file
imports and whichever name stands for `this`, two trees of names, casts, calls without type
arguments, members, choices and assertions, in which nothing is taken of a choice, have one text
exactly if they are one tree with fields of the receiver as names. Without a receiver they are one
tree as they stand. -/
theorem exprText_eq_iff_unqualified (table : Imports) (receiver : Option String) (depth : Nat)
    (h : e.Within readable) (h' : e'.Within readable) :
    (exprText table.spell receiver depth e = exprText table.spell receiver depth e' ↔
      unqualified receiver e = unqualified receiver e') ∧
    (exprText table.spell none depth e = exprText table.spell none depth e' ↔ e = e') := by
  have read : ∀ receiver, exprText table.spell receiver depth e
      = exprText table.spell receiver depth e' ↔
        unqualified receiver e = unqualified receiver e' := by
    intro receiver
    constructor
    · intro same
      exact (readOff h).alone h' same
    · intro same
      rw [← exprText_unqualified h, same, exprText_unqualified h']
  refine ⟨read receiver, ?_⟩
  have alone := read none
  rwa [unqualified_none h, unqualified_none h'] at alone

/-- The assertion of a member, and a member of an assertion, in a file that calls the receiver
`context`. -/
theorem exprText_assertion_of_member :
    ∃ (note : ClassName) (table : Imports) (left right : Expr),
      ClassName.parse "com.example.Note" = .ok note ∧
      table = Imports.make "com.example.editor" note [] [note] ∧
      left.Within readable ∧ right.Within readable ∧
      exprText table.spell (some "context") 1 left = "(view as Note).title!!" ∧
      exprText table.spell (some "context") 1 right = "(view as Note)!!.title" ∧
      (exprText table.spell (some "context") 1 left = exprText table.spell (some "context") 1 right
        ↔ unqualified (some "context") left = unqualified (some "context") right) := by
  let note : ClassName := ⟨"com.example", "Note", []⟩
  have parsed : ClassName.parse "com.example.Note" = .ok note := by decide +kernel
  have meant : readable.classes note := ⟨⟨⟨_, parsed⟩, by decide⟩, by decide⟩
  have cast : (Expr.cast note (.ident "view")).Within readable := .cast meant (.ident (by decide))
  have left : (Expr.nonNull (.field (.cast note (.ident "view")) "title")).Within readable :=
    .nonNull trivial (.field cast rfl (by decide)) rfl
  have right : (Expr.field (.nonNull (.cast note (.ident "view"))) "title").Within readable :=
    .field (.nonNull trivial cast rfl) rfl (by decide)
  exact ⟨note, _, _, _, parsed, rfl, left, right, by decide +kernel, by decide +kernel,
    (exprText_eq_iff_unqualified _ (some "context") 1 left right).1⟩

/-! ### What is not read off -/

/-- The trees with members and assertions of choices as well. -/
def unguarded : Fragment :=
  { readable with base := fun _ => True }

/-- **A field of the receiver and a local of that name have one text**, in every file. -/
theorem exprText_receiver_field :
    ∃ (receiver : String) (left right : Expr),
      left.Within unguarded ∧ right.Within unguarded ∧ left ≠ right ∧
      ∀ (table : Imports) (depth : Nat), exprText table.spell (some receiver) depth left = "title" ∧
        exprText table.spell (some receiver) depth right = "title" := by
  refine ⟨"context", .field (.ident "context") "title", .ident "title",
    .field (.ident (by decide)) trivial (by decide), .ident (by decide), by simp, ?_⟩
  intro table depth
  have bare : exprText table.spell (some "context") depth (.ident "title") = "title" :=
    exprText_of_isBare (by decide)
  have access : memberAccess (some "context") (.ident "context")
      (exprText table.spell (some "context") depth (.ident "context")) = "" := if_pos (by decide)
  refine ⟨?_, bare⟩
  rw [exprText, access, String.empty_append]

/-- **What is taken of a choice reads as taken of its last branch.** -/
theorem exprText_field_conditional {condition : Condition} {yes no : Expr}
    (foreign : isReceiver receiver no = false) :
    exprText spell receiver depth (.field (.conditional condition yes no) name)
        = exprText spell receiver depth (.conditional condition yes (.field no name)) ∧
      exprText spell receiver depth (.nonNull (.conditional condition yes no))
        = exprText spell receiver depth (.conditional condition yes (.nonNull no)) := by
  have whole : isReceiver receiver (.conditional condition yes no) = false := rfl
  constructor
  · simp only [exprText, memberAccess, whole, foreign, Bool.false_eq_true, ↓reduceIte,
      String.append_assoc]
  · simp only [exprText, String.append_assoc]

end Companions.Kotlin
