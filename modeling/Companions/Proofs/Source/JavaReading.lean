import Companions.Proofs.Source.Trees
import Companions.Source.Java

/-!
Java expressions are read off their text.

What stands outside the brackets of an expression tells its form: a choice has a question mark, a
cast a blank, a member a dot (`Java.shows_exprText`). Within one form the text is cut at brackets
and separators, a member at its last dot, and a test behind its first operand. So two trees with one
text are one tree (`Java.exprText_eq_iff`). This needs the parentheses of `Java.primaryText`:
without them a member of a cast would read as the cast of a member.
-/

namespace Companions.Java

open Text (Outside Clear)

/-- The trees that are read off their text. Java writes nothing for an assertion. -/
def readable : Fragment where
  classes := Imports.Nameable
  base _ := True
  asserts := False

/-- What an expression is as a whole. -/
inductive Form where
  | name
  | member
  | cast
  | choice
deriving DecidableEq

/-- The form of a readable tree. -/
def form : Expr → Form
  | .ident _ => .name
  | .cast .. => .cast
  | .conditional .. => .choice
  | _ => .member

/-- The form of a text, by what stands outside its brackets. -/
def formOf (outer : List Char) : Form :=
  if '?' ∈ outer then .choice
  else if ' ' ∈ outer then .cast
  else if '.' ∈ outer then .member
  else .name

variable {table : Imports} {depth : Nat} {e e' : Expr} {text : String}

attribute [local simp] exprText

theorem conditionText_eq (c : Condition) : conditionText table.spell depth c
    = c.written (exprText table.spell depth) table.spell "instanceof" := by
  cases c <;> simp [conditionText, Condition.written, Condition.first, Condition.question,
    ← String.toList_inj]

theorem exprTexts_eq_map (arguments : List Expr) : exprTexts table.spell depth arguments
    = arguments.map (exprText table.spell depth) := by
  induction arguments with
  | nil => rw [exprTexts, List.map_nil]
  | cons e rest ih => rw [exprTexts, List.map_cons, ih]

/-! ### Forms -/

/-- The text shows the form of the expression. -/
abbrev Shows (text : String) (e : Expr) : Prop :=
  Expr.Shows formOf form text e

namespace Shows

/-- Only a choice has a question mark outside brackets. -/
theorem clear_of_ne_choice (h : Shows text e) (other : form e ≠ .choice) :
    Clear [',', '?'] text := by
  obtain ⟨outer, balanced, comma, shown⟩ := h
  refine ⟨outer, balanced, ?_⟩
  have mark : '?' ∉ outer := by
    intro mark
    rw [formOf, if_pos mark] at shown
    exact other shown.symm
  simp [comma, mark]

/-- A name and a member have no blank outside brackets. -/
theorem clear_of_primary (h : Shows text e) (primary : form e = .name ∨ form e = .member) :
    Clear [',', '?', ' '] text := by
  have noChoice : form e ≠ .choice := by
    rcases primary with name | member
    · simp [name]
    · simp [member]
  obtain ⟨outer, balanced, comma, shown⟩ := h
  refine ⟨outer, balanced, ?_⟩
  have mark : '?' ∉ outer := by
    intro mark
    rw [formOf, if_pos mark] at shown
    exact noChoice shown.symm
  have blank : ' ' ∉ outer := by
    intro blank
    rw [formOf, if_neg mark, if_pos blank] at shown
    simp [← shown] at primary
  simp [comma, mark, blank]

end Shows

/-- An expression that a dot may follow is a name or a member, and others go into parentheses. -/
theorem primaryText_cases (e : Expr) (text : String) :
    (form e = .name ∨ form e = .member) ∧ primaryText e text = text ∨
      (form e = .cast ∨ form e = .choice) ∧ primaryText e text = "(" ++ text ++ ")" := by
  cases e <;> simp [form, primaryText]

/-- Outside brackets, what a dot follows has no separators. -/
theorem clear_primaryText (h : Shows text e) : Clear [',', '?', ' '] (primaryText e text) := by
  rcases primaryText_cases e text with ⟨primary, same⟩ | ⟨-, same⟩
  · rw [same]
    exact h.clear_of_primary primary
  · rw [same]
    exact h.clear.parens _ (by decide)

theorem exprText_ne_empty (h : e.Within readable) : exprText table.spell depth e ≠ "" := by
  cases h with
  | ident named =>
      rw [exprText]
      exact Naming.ne_empty_of_isMemberName named
  | cast _ _ => simp
  | call _ _ _ _ => simp
  | field _ _ _ => simp
  | conditional _ _ _ _ _ => simp
  | nonNull none _ _ => exact none.elim

/-- The texts of the arguments can stand in a list. -/
theorem items_exprTexts {arguments : List Expr} (given : ∀ e ∈ arguments, e.Within readable)
    (shown : ∀ e ∈ arguments, Shows (exprText table.spell depth e) e) :
    ∀ text ∈ exprTexts table.spell depth arguments, Text.IsItem text := by
  rw [exprTexts_eq_map]
  exact Expr.Shows.items (fun e he => exprText_ne_empty (given e he)) shown

/-- What stands behind the dot of a call. -/
theorem clear_call {method : String} {texts : List String}
    (named : Naming.isMemberName method = true) (items : ∀ text ∈ texts, Text.IsItem text) :
    Clear [',', '?', ' ', '.'] (method ++ ("(" ++ joined ", " texts ++ ")")) :=
  (Naming.clear_of_isMemberName named _ (by decide)).append
    ((Text.clear_joined items).parens _ (by decide))

/-- A member shows its dot. -/
theorem shows_member {target : Expr} {rest : String} (h : Shows text target)
    (later : Clear [',', '?', ' ', '.'] rest) (member : form e = .member) :
    Shows (primaryText target text ++ "." ++ rest) e := by
  obtain ⟨first, balanced, free⟩ := clear_primaryText h
  obtain ⟨last, balanced', free'⟩ := later
  refine ⟨first ++ '.' :: last, ?_, ?_, ?_⟩
  · simpa using balanced.append (.plain (c := '.') (by decide) balanced')
  · simp [free ',' (by simp), free' ',' (by simp)]
  · simp [formOf, free '?' (by simp), free' '?' (by simp), free ' ' (by simp),
      free' ' ' (by simp), member]

theorem form_ne_choice (single : e.isConditional = false) : form e ≠ .choice := by
  cases e <;> simp_all [form, Expr.isConditional]

/-- A test has no question mark outside brackets, since its operands are no choices. -/
theorem clear_conditionText {c : Condition} (nameable : ∀ cls ∈ c.asked, Imports.Nameable cls)
    (shown : ∀ e ∈ c.operands, Shows (exprText table.spell depth e) e)
    (single : ∀ e ∈ c.operands, e.isConditional = false) :
    Clear [',', '?'] (conditionText table.spell depth c) := by
  rw [conditionText_eq]
  refine Condition.clear_written (fun e he => ?_) (fun cls hcls => ?_)
    (.literal (by decide)) (by decide)
  · exact (shown e he).clear_of_ne_choice (form_ne_choice (single e he))
  · exact Imports.clear_spell table (nameable cls hcls) _ (by decide)

/-- **What stands outside the brackets of an expression tells its form.** -/
theorem shows_exprText (table : Imports) (depth : Nat) (h : e.Within readable) :
    Shows (exprText table.spell depth e) e := by
  induction h with
  | @ident name named =>
      obtain ⟨outer, balanced, free⟩ :=
        Naming.clear_of_isMemberName named [',', '?', ' ', '.'] (by decide)
      refine ⟨outer, by simpa using balanced, free ',' (by simp), ?_⟩
      simp [formOf, form, free '?' (by simp), free ' ' (by simp), free '.' (by simp)]
  | @cast cls operand nameable _ ih =>
      obtain ⟨outer, balanced, free⟩ := clear_primaryText ih
      obtain ⟨_, spelled, -⟩ :=
        Imports.clear_spell table nameable [] (by decide)
      refine ⟨'(' :: ' ' :: outer, ?_, ?_, ?_⟩
      · simpa using
          Outside.brackets (l := '(') rfl spelled (.plain (c := ' ') (by decide) balanced)
      · simp [free ',' (by simp)]
      · simp [formOf, form, free '?' (by simp)]
  | @call target method arguments _ _ named given ih ihArguments =>
      have member := shows_member (e := .call target method [] arguments) ih
        (clear_call named (items_exprTexts given ihArguments)) rfl
      simpa [typeArgumentText, String.append_assoc] using member
  | @field target name _ _ named ih =>
      rw [exprText]
      exact shows_member ih (Naming.clear_of_isMemberName named _ (by decide)) rfl
  | @conditional condition yes no nameable _ single _ _ ihOperands ihYes ihNo =>
      obtain ⟨tested, balanced, free⟩ := clear_conditionText nameable ihOperands single
      obtain ⟨_, balancedYes, -⟩ := ihYes
      obtain ⟨last, balancedNo, comma, -⟩ := ihNo
      have blank : Outside [' '] [' '] := .of_plain (by decide)
      have choice := Outside.brackets (l := '?') rfl
        ((blank.append balancedYes).append blank) (blank.append balancedNo)
      refine ⟨tested ++ ' ' :: '?' :: ' ' :: last, ?_, ?_, ?_⟩
      · simpa using (balanced.append blank).append choice
      · simp [free ',' (by simp), comma]
      · simp [formOf, form]
  | nonNull none _ _ _ => exact none.elim

/-! ### Operands -/

/-- No name and no member is a text in parentheses. -/
theorem exprText_ne_parens {marks : List Char} (h : e.Within readable)
    (primary : form e = .name ∨ form e = .member) (inner : Clear marks text) :
    exprText table.spell depth e ≠ "(" ++ text ++ ")" := by
  intro same
  have inside := inner.parens ['.'] (by decide)
  rw [← same] at inside
  obtain ⟨outer, balanced, -, formEq⟩ := shows_exprText table depth h
  obtain ⟨outer', balanced', free⟩ := inside
  obtain rfl := balanced.unique balanced'
  cases h with
  | @ident name named =>
      have bracket := Naming.not_mem_of_isMemberName (x := '(') named (by decide)
      rw [exprText] at same
      simp [same] at bracket
  | call _ _ _ _ | field _ _ _ =>
      simp only [formOf, form, free '.' List.mem_cons_self] at formEq
      split at formEq
      · exact nomatch formEq
      · split at formEq <;> exact nomatch formEq
  | cast _ _ | conditional _ _ _ _ _ => simp [form] at primary
  | nonNull none _ _ => exact none.elim

/-- The text of an expression is read off where a dot or a cast needs a primary. -/
theorem exprText_eq_of_primaryText_eq (h : e.Within readable) (h' : e'.Within readable)
    (same : primaryText e (exprText table.spell depth e)
      = primaryText e' (exprText table.spell depth e')) :
    exprText table.spell depth e = exprText table.spell depth e' := by
  have shown := shows_exprText table depth h
  have shown' := shows_exprText table depth h'
  rcases primaryText_cases e (exprText table.spell depth e) with ⟨primary, eq⟩ | ⟨-, eq⟩
  · rcases primaryText_cases e' (exprText table.spell depth e') with ⟨-, eq'⟩ | ⟨-, eq'⟩
    · rw [← eq, same, eq']
    · exact absurd (eq.symm.trans (same.trans eq')) (exprText_ne_parens h primary shown'.clear)
  · rcases primaryText_cases e' (exprText table.spell depth e') with ⟨primary', eq'⟩ | ⟨-, eq'⟩
    · exact absurd (eq'.symm.trans (same.symm.trans eq))
        (exprText_ne_parens h' primary' shown.clear)
    · rw [eq, eq'] at same
      exact (String.append_right_inj _).mp ((String.append_left_inj _).mp same)

/-- An operand of a test begins with a word of its own: the whole of a name or a member, or the
class of a cast in parentheses. -/
theorem exists_lead (table : Imports) (depth : Nat) (h : e.Within readable)
    (single : e.isConditional = false) :
    ∃ lead : String, Clear [' '] lead ∧
      ((form e = .name ∨ form e = .member) ∧ exprText table.spell depth e = lead ∨
        ∃ part inner : String, Clear [] part ∧ Clear [' '] inner ∧ lead = "(" ++ part ++ ")" ∧
          exprText table.spell depth e = lead ++ " " ++ inner) := by
  have shown := shows_exprText table depth h
  cases h with
  | @cast cls operand nameable inner =>
      have spelled := Imports.clear_spell table nameable [] (by decide)
      have ends := clear_primaryText (shows_exprText table depth inner)
      refine ⟨"(" ++ table.spell cls ++ ")", spelled.parens _ (by decide), Or.inr
        ⟨_, _, spelled, ends.mono [' '] (by simp), rfl, ?_⟩⟩
      simp [← String.toList_inj]
  | ident _ | call _ _ _ _ | field _ _ _ =>
      have clear := shown.clear_of_primary (by simp [form])
      exact ⟨_, clear.mono [' '] (by simp), Or.inl ⟨by simp [form], rfl⟩⟩
  | conditional _ _ _ _ _ => simp [Expr.isConditional] at single
  | nonNull none _ _ => exact none.elim

/-- **An operand of a test is read off the text up to the blank behind it.** A cast has a blank of
its own, the first one, which stands behind its parentheses. -/
theorem cut_operand (h : e.Within readable) (h' : e'.Within readable)
    (single : e.isConditional = false) (single' : e'.isConditional = false)
    {rest rest' : List Char}
    (same : (exprText table.spell depth e).toList ++ ' ' :: rest
      = (exprText table.spell depth e').toList ++ ' ' :: rest') :
    exprText table.spell depth e = exprText table.spell depth e' ∧ rest = rest' := by
  obtain ⟨lead, clear, shape⟩ := exists_lead table depth h single
  obtain ⟨lead', clear', shape'⟩ := exists_lead table depth h' single'
  -- whatever follows, the first words are the same
  have cut : ∀ more more' : List Char,
      lead.toList ++ ' ' :: more = lead'.toList ++ ' ' :: more' → lead = lead' ∧ more = more' := by
    intro more more' texts
    obtain ⟨leads, -, later⟩ :=
      clear.split_first clear' ' ' ' ' List.mem_cons_self List.mem_cons_self texts
    exact ⟨leads, later⟩
  rcases shape with ⟨primary, text⟩ | ⟨part, inner, balanced, ends, bracket, text⟩
  · rcases shape' with ⟨primary', text'⟩ | ⟨part', inner', balanced', ends', bracket', text'⟩
    · rw [text, text'] at same ⊢
      exact cut _ _ same
    · rw [text, text'] at same
      obtain ⟨leads, -⟩ := cut rest (inner'.toList ++ ' ' :: rest') (by simpa using same)
      rw [leads, bracket'] at text
      exact absurd text (exprText_ne_parens h primary balanced')
  · rcases shape' with ⟨primary', text'⟩ | ⟨part', inner', balanced', ends', bracket', text'⟩
    · rw [text, text'] at same
      obtain ⟨leads, -⟩ := cut (inner.toList ++ ' ' :: rest) rest' (by simpa using same)
      rw [← leads, bracket] at text'
      exact absurd text' (exprText_ne_parens h' primary' balanced)
    · rw [text, text'] at same ⊢
      obtain ⟨leads, later⟩ := cut (inner.toList ++ ' ' :: rest) (inner'.toList ++ ' ' :: rest')
        (by simpa using same)
      obtain ⟨inners, -, rests⟩ :=
        ends.split_first ends' ' ' ' ' List.mem_cons_self List.mem_cons_self later
      rw [leads, inners]
      exact ⟨rfl, rests⟩

theorem exprText_ne_null (h : e.Within readable) : exprText table.spell depth e ≠ "null" := by
  intro same
  cases h with
  | ident named =>
      rw [exprText] at same
      exact absurd named (by simp [same]; decide)
  | cast _ _ =>
      have letters := congrArg (fun text : String => '(' ∈ text.toList) same
      simp at letters
  | call _ _ _ _ =>
      have letters := congrArg (fun text : String => '.' ∈ text.toList) same
      simp at letters
  | field _ _ _ =>
      have letters := congrArg (fun text : String => '.' ∈ text.toList) same
      simp at letters
  | conditional _ _ _ _ _ =>
      have letters := congrArg (fun text : String => '?' ∈ text.toList) same
      simp at letters
  | nonNull none _ _ => exact none.elim

/-! ### Whole expressions -/

section Cuts

variable {cls cls' : ClassName} {target target' operand operand' : Expr}
  {method rest rest' : String}

/-- A cast is read off up to the parenthesis that closes behind its class. -/
theorem cut_cast (nameable : Imports.Nameable cls) (nameable' : Imports.Nameable cls')
    (inner : operand.Within readable) (inner' : operand'.Within readable)
    (same : exprText table.spell depth (.cast cls operand)
      = exprText table.spell depth (.cast cls' operand')) :
    cls = cls' ∧ exprText table.spell depth operand = exprText table.spell depth operand' := by
  have spelled := Imports.clear_spell table nameable [] (by decide)
  have spelled' := Imports.clear_spell table nameable' [] (by decide)
  simp only [exprText, ← String.toList_inj, String.toList_append, List.append_assoc,
    List.append_cancel_left_eq] at same
  obtain ⟨classes, operands⟩ := spelled.split_closing spelled' (l := '(') rfl same
  refine ⟨Imports.eq_of_spell_eq nameable nameable' classes, ?_⟩
  apply exprText_eq_of_primaryText_eq inner inner'
  rw [← String.toList_inj]
  simpa using operands

/-- A member is read off at its last dot. -/
theorem cut_member (table : Imports) (depth : Nat) (inner : target.Within readable)
    (inner' : target'.Within readable)
    (later : Clear ['.'] rest) (later' : Clear ['.'] rest')
    (same : primaryText target (exprText table.spell depth target) ++ "." ++ rest
      = primaryText target' (exprText table.spell depth target') ++ "." ++ rest') :
    exprText table.spell depth target = exprText table.spell depth target' ∧ rest = rest' := by
  have clear := clear_primaryText (shows_exprText table depth inner)
  have clear' := clear_primaryText (shows_exprText table depth inner')
  obtain ⟨targets, members⟩ := clear.split_last clear' later later' (x := '.') List.mem_cons_self
    (by decide) (by simpa [← String.toList_inj] using same)
  exact ⟨exprText_eq_of_primaryText_eq inner inner' targets, members⟩

/-- No call is a name. -/
theorem call_ne_name {name arguments : String} (named : Naming.isMemberName name = true) :
    method ++ ("(" ++ arguments ++ ")") ≠ name := by
  rintro rfl
  exact Naming.not_mem_of_isMemberName (x := '(') named (by decide) (by simp)

/-- A choice is read off up to its question mark and up to the colon that belongs to it. -/
theorem cut_choice {tested tested' yes yes' no no' : String} (condition : Clear ['?'] tested)
    (condition' : Clear ['?'] tested') (first : Clear [] yes) (first' : Clear [] yes')
    (same : tested ++ " ? " ++ yes ++ " : " ++ no = tested' ++ " ? " ++ yes' ++ " : " ++ no') :
    tested = tested' ∧ yes = yes' ∧ no = no' := by
  have blank : Clear ['?'] " " := .literal (by decide)
  have anyBlank := blank.mono [] (List.forall_mem_nil _)
  have spaced := condition.append blank
  have spaced' := condition'.append blank
  have letters : (tested ++ " ").toList ++ '?' ::
        ((" " ++ yes ++ " ").toList ++ ':' :: (" " ++ no).toList)
      = (tested' ++ " ").toList ++ '?' ::
        ((" " ++ yes' ++ " ").toList ++ ':' :: (" " ++ no').toList) := by
    simpa [← String.toList_inj] using same
  obtain ⟨tests, -, later⟩ := spaced.split_first spaced' '?' '?' List.mem_cons_self
    List.mem_cons_self letters
  have middle := (anyBlank.append first).append anyBlank
  have middle' := (anyBlank.append first').append anyBlank
  obtain ⟨firsts, lasts⟩ := middle.split_closing middle' (l := '?') rfl later
  refine ⟨(String.append_left_inj _).mp tests, ?_, ?_⟩
  · exact (String.append_right_inj _).mp ((String.append_left_inj _).mp firsts)
  · exact (String.append_right_inj _).mp (String.toList_inj.mp lasts)

end Cuts

/-- No other readable tree has the text of this one. -/
def ReadOff (table : Imports) (depth : Nat) (e : Expr) : Prop :=
  ∀ e' : Expr, e'.Within readable →
    exprText table.spell depth e = exprText table.spell depth e' → e = e'

section Constructors

variable {cls : ClassName} {name method : String} {target operand yes no : Expr}
  {arguments : List Expr} {condition : Condition}

theorem form_eq_of_exprText_eq (h : e.Within readable) (h' : e'.Within readable)
    (same : exprText table.spell depth e = exprText table.spell depth e') : form e = form e' := by
  have shown := shows_exprText table depth h
  rw [same] at shown
  exact shown.form_eq (shows_exprText table depth h')

theorem readOff_ident (named : Naming.isMemberName name = true) :
    ReadOff table depth (.ident name) := by
  intro e' h' same
  have formEq := form_eq_of_exprText_eq (.ident named) h' same
  cases h' with
  | ident _ => simpa using same
  | nonNull none _ _ => exact none.elim
  | _ => simp [form] at formEq

theorem readOff_cast (nameable : Imports.Nameable cls) (inner : operand.Within readable)
    (ih : ReadOff table depth operand) : ReadOff table depth (.cast cls operand) := by
  intro e' h' same
  have formEq := form_eq_of_exprText_eq (.cast nameable inner) h' same
  cases h' with
  | @cast cls' operand' nameable' inner' =>
      obtain ⟨rfl, operands⟩ := cut_cast nameable nameable' inner inner' same
      rw [ih operand' inner' operands]
  | nonNull none _ _ => exact none.elim
  | _ => simp [form] at formEq

theorem readOff_call (inner : target.Within readable)
    (named : Naming.isMemberName method = true) (given : ∀ e ∈ arguments, e.Within readable)
    (ih : ReadOff table depth target) (ihArguments : ∀ e ∈ arguments, ReadOff table depth e) :
    ReadOff table depth (.call target method [] arguments) := by
  intro e' h' same
  have formEq := form_eq_of_exprText_eq (.call inner trivial named given) h' same
  have items := items_exprTexts given fun e he => shows_exprText table depth (given e he)
  have later := (clear_call named items).mono ['.'] (by simp)
  cases h' with
  | @call target' method' arguments' inner' _ named' given' =>
      have items' := items_exprTexts given' fun e he => shows_exprText table depth (given' e he)
      have later' := (clear_call named' items').mono ['.'] (by simp)
      obtain ⟨targets, calls⟩ := cut_member table depth inner inner' later later'
        (by simpa [typeArgumentText, String.append_assoc] using same)
      have name := Naming.clear_of_isMemberName named [] (by decide)
      have name' := Naming.clear_of_isMemberName named' [] (by decide)
      obtain ⟨rfl, texts⟩ := name.split_parens name' (Text.clear_joined items)
        (Text.clear_joined items') calls
      have lists := Text.joined_inj items items' texts
      rw [exprTexts_eq_map, exprTexts_eq_map] at lists
      have arguments := Expr.map_eq_of_texts_eq (g := id)
        (fun e he e' he' => ihArguments e he e' (given' e' he')) lists
      rw [List.map_id, List.map_id] at arguments
      rw [ih target' inner' targets, arguments]
  | @field target' name' inner' _ named' =>
      have later' := Naming.clear_of_isMemberName named' ['.'] (by decide)
      obtain ⟨-, calls⟩ := cut_member table depth inner inner' later later'
        (by simpa [typeArgumentText, String.append_assoc] using same)
      exact absurd calls (call_ne_name named')
  | nonNull none _ _ => exact none.elim
  | _ => simp [form] at formEq

theorem readOff_field (inner : target.Within readable)
    (named : Naming.isMemberName name = true) (ih : ReadOff table depth target) :
    ReadOff table depth (.field target name) := by
  intro e' h' same
  have formEq := form_eq_of_exprText_eq (.field inner trivial named) h' same
  have later := Naming.clear_of_isMemberName named ['.'] (by decide)
  cases h' with
  | @call target' method' arguments' inner' _ named' given' =>
      have items' := items_exprTexts given' fun e he => shows_exprText table depth (given' e he)
      have later' := (clear_call named' items').mono ['.'] (by simp)
      obtain ⟨-, calls⟩ := cut_member table depth inner inner' later later'
        (by simpa [typeArgumentText, String.append_assoc] using same)
      exact absurd calls.symm (call_ne_name named)
  | @field target' name' inner' _ named' =>
      have later' := Naming.clear_of_isMemberName named' ['.'] (by decide)
      obtain ⟨targets, rfl⟩ := cut_member table depth inner inner' later later'
        (by simpa using same)
      rw [ih target' inner' targets]
  | nonNull none _ _ => exact none.elim
  | _ => simp [form] at formEq

/-- Tests of one text are one test. -/
theorem eq_of_conditionText_eq {condition' : Condition}
    (nameable : ∀ cls ∈ condition.asked, Imports.Nameable cls)
    (nameable' : ∀ cls ∈ condition'.asked, Imports.Nameable cls)
    (operands : ∀ e ∈ condition.operands, e.Within readable)
    (operands' : ∀ e ∈ condition'.operands, e.Within readable)
    (single : ∀ e ∈ condition.operands, e.isConditional = false)
    (single' : ∀ e ∈ condition'.operands, e.isConditional = false)
    (ih : ∀ e ∈ condition.operands, ReadOff table depth e)
    (same : conditionText table.spell depth condition
      = conditionText table.spell depth condition') : condition = condition' := by
  rw [conditionText_eq, conditionText_eq] at same
  have present : ∀ e ∈ condition.operands ++ condition'.operands,
      exprText table.spell depth e ≠ "null" := by
    intro e he
    rcases List.mem_append.mp he with he | he
    · exact exprText_ne_null (operands e he)
    · exact exprText_ne_null (operands' e he)
  have conditions := Condition.map_eq_of_written_eq (g := id)
    (fun e he e' he' rest rest' cut => by
      obtain ⟨texts, later⟩ := cut_operand (operands e he) (operands' e' he')
        (single e he) (single' e' he') cut
      exact ⟨ih e he e' (operands' e' he') texts, later⟩)
    present
    (fun cls hcls cls' hcls' => Imports.eq_of_spell_eq (nameable cls hcls) (nameable' cls' hcls'))
    ⟨'i', _, rfl, by decide, by decide⟩ same
  rwa [Condition.map_eq_self (g := id) fun _ _ => rfl,
    Condition.map_eq_self (g := id) fun _ _ => rfl] at conditions

theorem readOff_conditional (nameable : ∀ cls ∈ condition.asked, Imports.Nameable cls)
    (operands : ∀ e ∈ condition.operands, e.Within readable)
    (single : ∀ e ∈ condition.operands, e.isConditional = false) (innerYes : yes.Within readable)
    (innerNo : no.Within readable) (ih : ∀ e ∈ condition.operands, ReadOff table depth e)
    (ihYes : ReadOff table depth yes) (ihNo : ReadOff table depth no) :
    ReadOff table depth (.conditional condition yes no) := by
  intro e' h' same
  have formEq := form_eq_of_exprText_eq
    (.conditional nameable operands single innerYes innerNo) h' same
  have tested := (clear_conditionText nameable
    (fun e he => shows_exprText table depth (operands e he)) single).mono ['?'] (by simp)
  have anyYes := (shows_exprText table depth innerYes).clear.mono [] (List.forall_mem_nil _)
  cases h' with
  | @conditional condition' yes' no' nameable' operands' single' innerYes' innerNo' =>
      have tested' := (clear_conditionText nameable'
        (fun e he => shows_exprText table depth (operands' e he)) single').mono ['?'] (by simp)
      have anyYes' := (shows_exprText table depth innerYes').clear.mono [] (List.forall_mem_nil _)
      simp only [exprText] at same
      obtain ⟨tests, firsts, lasts⟩ := cut_choice tested tested' anyYes anyYes' same
      rw [eq_of_conditionText_eq nameable nameable' operands operands' single single' ih tests,
        ihYes yes' innerYes' firsts, ihNo no' innerNo' lasts]
  | nonNull none _ _ => exact none.elim
  | _ => simp [form] at formEq

end Constructors

/-- **Every readable tree is read off its text.** -/
theorem readOff (h : e.Within readable) : ReadOff table depth e := by
  induction h with
  | ident named => exact readOff_ident named
  | cast nameable inner ih => exact readOff_cast nameable inner ih
  | call inner _ named given ih ihArguments => exact readOff_call inner named given ih ihArguments
  | field inner _ named ih => exact readOff_field inner named ih
  | conditional nameable operands single innerYes innerNo ihOperands ihYes ihNo =>
      exact readOff_conditional nameable operands single innerYes innerNo ihOperands ihYes ihNo
  | nonNull none _ _ _ => exact none.elim

/-- **Java expressions are rendered unambiguously.** Whatever the file imports, two trees of names,
casts, calls without type arguments, members and choices have one text exactly if they are one tree.
So no cast and no choice merges with what surrounds it. -/
theorem exprText_eq_iff (table : Imports) (depth : Nat) (h : e.Within readable)
    (h' : e'.Within readable) :
    exprText table.spell depth e = exprText table.spell depth e' ↔ e = e' := by
  constructor
  · exact readOff h e' h'
  · rintro rfl
    rfl

/-- A member of a cast choice, and the cast of a choice with that member: the parentheses keep them
apart. -/
theorem exprText_member_of_cast :
    ∃ (note : ClassName) (table : Imports) (left right : Expr),
      ClassName.parse "com.example.Note" = .ok note ∧
      table = Imports.make "com.example.editor" note [] [note] ∧
      left.Within readable ∧ right.Within readable ∧
      exprText table.spell 2 left = "((Note) (view == null ? other : view)).title" ∧
      exprText table.spell 2 right = "(Note) (view == null ? other : view).title" ∧
      (exprText table.spell 2 left = exprText table.spell 2 right ↔ left = right) := by
  let note : ClassName := ⟨"com.example", "Note", []⟩
  have parsed : ClassName.parse "com.example.Note" = .ok note := by decide +kernel
  have nameable : readable.classes note := ⟨⟨_, parsed⟩, by decide⟩
  let choice : Expr := .conditional (.isNull (.ident "view")) (.ident "other") (.ident "view")
  have view : (Expr.ident "view").Within readable := .ident (by decide)
  have inner : choice.Within readable :=
    .conditional (List.forall_mem_nil _) (List.forall_mem_singleton.mpr view)
      (List.forall_mem_singleton.mpr rfl) (.ident (by decide)) view
  have left : (Expr.field (.cast note choice) "title").Within readable :=
    .field (.cast nameable inner) trivial (by decide)
  have right : (Expr.cast note (.field choice "title")).Within readable :=
    .cast nameable (.field inner trivial (by decide))
  exact ⟨note, _, _, _, parsed, rfl, left, right, by decide +kernel, by decide +kernel,
    exprText_eq_iff _ 2 left right⟩

end Companions.Java
