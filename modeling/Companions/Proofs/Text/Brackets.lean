import Companions.ClassName
import Mathlib.Data.List.Basic

/-!
Brackets in a text, and what stands outside them.

`Outside text outer` says that the brackets of a text are balanced and that `outer` is what is left
of it when all that stands between brackets is taken out, with the closing ones; the opening ones
stay as marks. Of two balanced beginnings of one text the longer goes on with a balanced piece
(`Outside.compare`). So a text can be cut in one way only

* at the first place where one of two characters stands outside brackets (`Outside.split_first`),
  and at the bracket that closes (`Clear.split_closing`);
* at the last such place of a character (`Outside.split_last`), and before the last parentheses
  (`Clear.split_parens`);
* between the members of a list (`joined_inj`).
-/

namespace Companions.Text

/-- The bracket that closes what this one opens. A question mark opens what its colon closes. -/
def closing? : Char → Option Char
  | '(' => some ')'
  | '?' => some ':'
  | _ => none

/-- Whether a character is no bracket. -/
def isPlain (c : Char) : Bool :=
  !(['(', ')', '?', ':'].contains c)

/-- The brackets of the text are balanced, and the second list is what stands outside them. -/
inductive Outside : List Char → List Char → Prop where
  | nil : Outside [] []
  | plain {c : Char} {a o : List Char} : isPlain c = true → Outside a o → Outside (c :: a) (c :: o)
  | brackets {l r : Char} {a b o p : List Char} : closing? l = some r → Outside a o →
      Outside b p → Outside (l :: (a ++ r :: b)) (l :: p)

variable {a a' b b' o o' p p' : List Char} {c l r x x' : Char}

theorem closing?_eq_some (h : closing? l = some r) : l = '(' ∧ r = ')' ∨ l = '?' ∧ r = ':' := by
  unfold closing? at h
  split at h
  · exact Or.inl ⟨rfl, (Option.some.inj h).symm⟩
  · exact Or.inr ⟨rfl, (Option.some.inj h).symm⟩
  · exact nomatch h

theorem not_isPlain_of_closing? (h : closing? l = some r) :
    isPlain l = false ∧ isPlain r = false := by
  rcases closing?_eq_some h with ⟨rfl, rfl⟩ | ⟨rfl, rfl⟩ <;> decide

namespace Outside

/-- A text without brackets stands outside them. -/
theorem of_plain (h : a.all isPlain = true) : Outside a a := by
  induction a with
  | nil => exact .nil
  | cons c rest ih =>
      rw [List.all_cons, Bool.and_eq_true] at h
      exact .plain h.1 (ih h.2)

theorem append (h : Outside a o) (h' : Outside b p) : Outside (a ++ b) (o ++ p) := by
  induction h with
  | nil => exact h'
  | plain hc _ ih => exact .plain hc ih
  | brackets hl inner _ _ ih =>
      rw [List.cons_append, List.append_assoc, List.cons_append, List.cons_append]
      exact .brackets hl inner ih

/-- Outside brackets there are opening ones, and no closing ones. -/
theorem closing_not_mem (h : Outside a o) (hr : closing? l = some r) : r ∉ o := by
  induction h with
  | nil => exact List.not_mem_nil
  | plain hc _ ih =>
      intro mem
      rcases List.mem_cons.mp mem with rfl | mem
      · rw [(not_isPlain_of_closing? hr).2] at hc
        exact nomatch hc
      · exact ih mem
  | brackets hc _ _ _ ih =>
      intro mem
      rcases List.mem_cons.mp mem with rfl | mem
      · rcases closing?_eq_some hr with ⟨-, rfl⟩ | ⟨-, rfl⟩ <;> exact nomatch hc
      · exact ih mem

/-- The first character of a balanced text stands outside. -/
theorem exists_cons (h : Outside (x :: a) o) : ∃ p, o = x :: p := by
  cases h with
  | plain _ _ => exact ⟨_, rfl⟩
  | brackets _ _ _ => exact ⟨_, rfl⟩

/-- A balanced piece does not begin with what does not stand outside it. -/
theorem eq_nil_of_free (h : Outside a o) (free : x ∉ o) (same : x :: b = a ++ b') : a = [] := by
  cases a with
  | nil => rfl
  | cons y a =>
      obtain ⟨rfl, -⟩ := List.cons.inj same
      obtain ⟨p, rfl⟩ := h.exists_cons
      exact absurd List.mem_cons_self free

/-- **Of two balanced beginnings of one text, the longer goes on with a balanced piece.** -/
theorem compare (h : Outside a o) (h' : Outside a' o') (same : a ++ b = a' ++ b') :
    (∃ c p, Outside c p ∧ a' = a ++ c ∧ o' = o ++ p) ∨
      ∃ c p, Outside c p ∧ a = a' ++ c ∧ o = o' ++ p := by
  induction h generalizing a' o' b b' with
  | nil => exact Or.inl ⟨a', o', h', rfl, rfl⟩
  | plain hc rest ih =>
      cases h' with
      | nil => exact Or.inr ⟨_, _, .plain hc rest, rfl, rfl⟩
      | plain hc' rest' =>
          rw [List.cons_append, List.cons_append] at same
          obtain ⟨rfl, later⟩ := List.cons.inj same
          rcases ih rest' later with ⟨d, p, hd, rfl, rfl⟩ | ⟨d, p, hd, rfl, rfl⟩
          · exact Or.inl ⟨d, p, hd, rfl, rfl⟩
          · exact Or.inr ⟨d, p, hd, rfl, rfl⟩
      | brackets hl _ _ =>
          rw [List.cons_append, List.cons_append] at same
          obtain ⟨rfl, -⟩ := List.cons.inj same
          rw [(not_isPlain_of_closing? hl).1] at hc
          exact nomatch hc
  | brackets hl inner outer ihInner ihOuter =>
      cases h' with
      | nil => exact Or.inr ⟨_, _, .brackets hl inner outer, rfl, rfl⟩
      | plain hc _ =>
          rw [List.cons_append, List.cons_append] at same
          obtain ⟨rfl, -⟩ := List.cons.inj same
          rw [(not_isPlain_of_closing? hl).1] at hc
          exact nomatch hc
      | brackets hl' inner' outer' =>
          simp only [List.cons_append, List.append_assoc] at same
          obtain ⟨rfl, later⟩ := List.cons.inj same
          obtain rfl := Option.some.inj (hl.symm.trans hl')
          -- neither inner part goes on, since it would go on with the closing bracket
          rcases ihInner inner' later with ⟨d, q, hd, rfl, -⟩ | ⟨d, q, hd, rfl, -⟩
          all_goals
            rw [List.append_assoc, List.append_cancel_left_eq] at later
          · obtain rfl := hd.eq_nil_of_free (hd.closing_not_mem hl) later
            rcases ihOuter outer' (List.cons.inj later).2 with
              ⟨e, p, he, rfl, rfl⟩ | ⟨e, p, he, rfl, rfl⟩
            · exact Or.inl ⟨e, p, he, by simp, by simp⟩
            · exact Or.inr ⟨e, p, he, by simp, by simp⟩
          · obtain rfl := hd.eq_nil_of_free (hd.closing_not_mem hl) later.symm
            rcases ihOuter outer' (List.cons.inj later).2 with
              ⟨e, p, he, rfl, rfl⟩ | ⟨e, p, he, rfl, rfl⟩
            · exact Or.inl ⟨e, p, he, by simp, by simp⟩
            · exact Or.inr ⟨e, p, he, by simp, by simp⟩

/-- **Cut at the first separator.** Where the beginnings do not have each other's separators
outside brackets, they are the same. -/
theorem split_first (h : Outside a o) (h' : Outside a' o') (free : x ∉ o') (free' : x' ∉ o)
    (same : a ++ x :: b = a' ++ x' :: b') : a = a' ∧ x = x' ∧ b = b' := by
  rcases compare h h' same with ⟨d, q, hd, rfl, rfl⟩ | ⟨d, q, hd, rfl, rfl⟩
  · rw [List.append_assoc, List.append_cancel_left_eq] at same
    obtain rfl := hd.eq_nil_of_free (fun mem => free (List.mem_append_right _ mem)) same
    exact ⟨(List.append_nil _).symm, List.cons.inj same⟩
  · rw [List.append_assoc, List.append_cancel_left_eq] at same
    obtain rfl := hd.eq_nil_of_free (fun mem => free' (List.mem_append_right _ mem)) same.symm
    exact ⟨List.append_nil _, List.cons.inj same⟩

/-- Only the empty text has nothing outside brackets. -/
theorem eq_nil_iff (h : Outside a o) : a = [] ↔ o = [] := by
  cases h <;> simp

/-- Beginnings of one text are the same if the same stands outside their brackets. -/
theorem eq_of_outside_eq (h : Outside a o) (h' : Outside a' o) (same : a ++ b = a' ++ b') :
    a = a' := by
  rcases compare h h' same with ⟨d, q, hd, rfl, outer⟩ | ⟨d, q, hd, rfl, outer⟩
  · rw [hd.eq_nil_iff.mpr (List.self_eq_append_right.mp outer), List.append_nil]
  · rw [hd.eq_nil_iff.mpr (List.self_eq_append_right.mp outer), List.append_nil]

/-- What stands outside the brackets of a text is determined. -/
theorem unique (h : Outside a o) (h' : Outside a o') : o = o' := by
  rcases compare h h' rfl (b := []) with ⟨d, q, hd, whole, rfl⟩ | ⟨d, q, hd, whole, rfl⟩
  · rw [hd.eq_nil_iff.mp (List.self_eq_append_right.mp whole), List.append_nil]
  · rw [hd.eq_nil_iff.mp (List.self_eq_append_right.mp whole), List.append_nil]

/-- A list falls apart in one way at the last place of an element. -/
theorem append_cons_inj_of_free {α : Type} {a a' b b' : List α} {x : α} (free : x ∉ b)
    (free' : x ∉ b') (same : a ++ x :: b = a' ++ x :: b') : a = a' ∧ b = b' := by
  rcases List.append_eq_append_iff.mp same with ⟨c, rfl, rest⟩ | ⟨c, rfl, rest⟩
  · cases c with
    | nil => exact ⟨(List.append_nil _).symm, (List.cons.inj rest).2⟩
    | cons y c =>
        obtain ⟨rfl, rfl⟩ := List.cons.inj rest
        exact absurd (List.mem_append_right _ List.mem_cons_self) free
  · cases c with
    | nil => exact ⟨List.append_nil _, (List.cons.inj rest).2.symm⟩
    | cons y c =>
        obtain ⟨rfl, rfl⟩ := List.cons.inj rest
        exact absurd (List.mem_append_right _ List.mem_cons_self) free'

/-- **Cut at the last separator.** -/
theorem split_last (h : Outside a o) (h' : Outside a' o') (rest : Outside b p)
    (rest' : Outside b' p') (hx : isPlain x = true) (free : x ∉ p) (free' : x ∉ p')
    (same : a ++ x :: b = a' ++ x :: b') : a = a' ∧ b = b' := by
  have whole := h.append (.plain hx rest)
  rw [same] at whole
  have outer := whole.unique (h'.append (.plain hx rest'))
  obtain ⟨rfl, -⟩ := append_cons_inj_of_free free free' outer
  obtain rfl := h.eq_of_outside_eq h' same
  rw [List.append_cancel_left_eq] at same
  exact ⟨rfl, (List.cons.inj same).2⟩

end Outside

/-! ### Texts without separators -/

/-- The brackets of the text are balanced, and none of these characters stands outside them. -/
def Clear (marks : List Char) (text : String) : Prop :=
  ∃ outer, Outside text.toList outer ∧ ∀ x ∈ marks, x ∉ outer

namespace Clear

variable {marks others : List Char} {s s' t t' : String}

theorem of_plain (h : ∀ c ∈ s.toList, isPlain c = true ∧ c ∉ marks) : Clear marks s :=
  ⟨s.toList, .of_plain (List.all_eq_true.mpr fun c hc => (h c hc).1),
    fun x hx mem => (h x mem).2 hx⟩

/-- The characters of a given text are looked at one by one. -/
theorem literal (h : (s.toList.all fun c => isPlain c && !marks.contains c) = true) :
    Clear marks s := by
  refine of_plain fun c hc => ?_
  simpa using List.all_eq_true.mp h c hc

theorem append (h : Clear marks s) (h' : Clear marks t) : Clear marks (s ++ t) := by
  obtain ⟨o, balanced, free⟩ := h
  obtain ⟨o', balanced', free'⟩ := h'
  refine ⟨o ++ o', by simpa using balanced.append balanced', ?_⟩
  intro x hx mem
  rcases List.mem_append.mp mem with mem | mem
  · exact free x hx mem
  · exact free' x hx mem

/-- In brackets any balanced text is clear. -/
theorem parens (h : Clear others s) (marks : List Char) (opening : '(' ∉ marks) :
    Clear marks ("(" ++ s ++ ")") := by
  obtain ⟨o, balanced, -⟩ := h
  refine ⟨['('], by simpa using Outside.brackets (l := '(') rfl balanced .nil, ?_⟩
  rintro x hx mem
  rw [List.mem_singleton.mp mem] at hx
  exact opening hx

theorem mono (h : Clear marks s) (others : List Char) (sub : ∀ x ∈ others, x ∈ marks) :
    Clear others s := by
  obtain ⟨o, balanced, free⟩ := h
  exact ⟨o, balanced, fun x hx => free x (sub x hx)⟩

/-- No closing bracket stands outside. -/
theorem closing (h : Clear marks s) (hr : closing? l = some r) : Clear (r :: marks) s := by
  obtain ⟨o, balanced, free⟩ := h
  exact ⟨o, balanced, List.forall_mem_cons.mpr ⟨balanced.closing_not_mem hr, free⟩⟩

/-- **Cut at the first separator.** -/
theorem split_first (h : Clear marks s) (h' : Clear marks s') (x x' : Char) (hx : x ∈ marks)
    (hx' : x' ∈ marks) (same : s.toList ++ x :: b = s'.toList ++ x' :: b') :
    s = s' ∧ x = x' ∧ b = b' := by
  obtain ⟨o, balanced, free⟩ := h
  obtain ⟨o', balanced', free'⟩ := h'
  obtain ⟨first, cut⟩ := balanced.split_first balanced' (free' x hx) (free x' hx') same
  exact ⟨String.toList_inj.mp first, cut⟩

/-- **Cut at the closing bracket.** -/
theorem split_closing (h : Clear marks s) (h' : Clear others s') (hr : closing? l = some r)
    (same : s.toList ++ r :: b = s'.toList ++ r :: b') : s = s' ∧ b = b' := by
  have clear := (h.mono [] (List.forall_mem_nil _)).closing hr
  have clear' := (h'.mono [] (List.forall_mem_nil _)).closing hr
  obtain ⟨first, -, cut⟩ :=
    clear.split_first clear' r r List.mem_cons_self List.mem_cons_self same
  exact ⟨first, cut⟩

/-- **Cut at the last separator.** -/
theorem split_last (h : Clear others s) (h' : Clear others s') (later : Clear marks t)
    (later' : Clear marks t') (hx : x ∈ marks) (plain : isPlain x = true)
    (same : s.toList ++ x :: t.toList = s'.toList ++ x :: t'.toList) : s = s' ∧ t = t' := by
  obtain ⟨o, balanced, -⟩ := h
  obtain ⟨o', balanced', -⟩ := h'
  obtain ⟨p, rest, free⟩ := later
  obtain ⟨p', rest', free'⟩ := later'
  obtain ⟨first, cut⟩ :=
    balanced.split_last balanced' rest rest' plain (free x hx) (free' x hx) same
  exact ⟨String.toList_inj.mp first, String.toList_inj.mp cut⟩

/-- **Cut before the last parentheses.** -/
theorem split_parens (h : Clear marks s) (h' : Clear marks s') (inner : Clear others t)
    (inner' : Clear others t') (same : s ++ ("(" ++ t ++ ")") = s' ++ ("(" ++ t' ++ ")")) :
    s = s' ∧ t = t' := by
  obtain ⟨o, balanced, -⟩ := h
  obtain ⟨o', balanced', -⟩ := h'
  obtain ⟨p, within, -⟩ := inner
  obtain ⟨p', within', -⟩ := inner'
  have letters : s.toList ++ '(' :: (t.toList ++ ')' :: [])
      = s'.toList ++ '(' :: (t'.toList ++ ')' :: []) := by
    simpa [← String.toList_inj] using same
  have whole := balanced.append (.brackets (l := '(') rfl within .nil)
  rw [letters] at whole
  have outer := whole.unique (balanced'.append (.brackets (l := '(') rfl within' .nil))
  obtain rfl := List.append_cancel_right outer
  obtain rfl := String.toList_inj.mp (balanced.eq_of_outside_eq balanced' letters)
  rw [String.append_right_inj] at same
  exact ⟨rfl, (String.append_right_inj _).mp ((String.append_left_inj _).mp same)⟩

end Clear

/-! ### Lists of texts -/

/-- A text that can stand in a list: it is not empty and has no comma outside brackets. -/
def IsItem (text : String) : Prop :=
  text ≠ "" ∧ Clear [','] text

/-- What follows the first text of a list. -/
def listTail (texts : List String) : String :=
  String.join (texts.map (", " ++ ·))

theorem joined_cons (first : String) (texts : List String) :
    joined ", " (first :: texts) = first ++ listTail texts := by
  rw [joined, ← String.toList_inj, String.toList_intercalate, List.map_cons]
  induction texts generalizing first with
  | nil => simp [listTail]
  | cons second texts ih =>
      rw [List.map_cons, List.intercalate_cons_cons, ih second]
      simp [listTail]

theorem listTail_cons (first : String) (texts : List String) :
    listTail (first :: texts) = ", " ++ joined ", " (first :: texts) := by
  rw [joined_cons]
  simp [listTail, ← String.toList_inj]

/-- The first text of a list ends at a comma or where the list ends. -/
theorem cut_item {s s' : String} {texts texts' : List String} (h : Clear [','] s)
    (h' : Clear [','] s') (same : s ++ listTail texts = s' ++ listTail texts') :
    s = s' ∧ listTail texts = listTail texts' := by
  have clear := h.closing (l := '(') rfl
  have clear' := h'.closing (l := '(') rfl
  -- a closing bracket behind the list gives the last text an end as well
  have closed := congrArg (fun text : String => text.toList ++ [')']) same
  cases texts with
  | nil =>
      cases texts' with
      | nil =>
          have ended : s.toList ++ ')' :: [] = s'.toList ++ ')' :: [] := by
            simpa [listTail] using closed
          exact ⟨String.toList_inj.mp (List.append_cancel_right ended), rfl⟩
      | cons second' texts' =>
          obtain ⟨-, other, -⟩ := clear.split_first clear' ')' ','
            (by simp) (by simp) (by simpa [listTail_cons, listTail] using closed)
          exact absurd other (by decide)
  | cons second texts =>
      cases texts' with
      | nil =>
          obtain ⟨-, other, -⟩ := clear.split_first clear' ',' ')'
            (by simp) (by simp) (by simpa [listTail_cons, listTail] using closed)
          exact absurd other (by decide)
      | cons second' texts' =>
          obtain ⟨first, -⟩ := clear.split_first clear' ',' ',' (by simp) (by simp)
            (by simpa [listTail_cons] using closed)
          exact ⟨first, (String.append_right_inj _).mp (first ▸ same)⟩

/-- **A list is read off its text.** -/
theorem joined_inj {texts texts' : List String} (items : ∀ text ∈ texts, IsItem text)
    (items' : ∀ text ∈ texts', IsItem text) (same : joined ", " texts = joined ", " texts') :
    texts = texts' := by
  have filled : ∀ {first : String} {texts : List String}, first ≠ "" →
      joined ", " (first :: texts) ≠ "" := by
    intro first texts filled empty
    rw [joined_cons, String.append_eq_empty_iff] at empty
    exact filled empty.1
  induction texts generalizing texts' with
  | nil =>
      cases texts' with
      | nil => rfl
      | cons first' texts' =>
          exact absurd same.symm (filled (items' first' List.mem_cons_self).1)
  | cons first texts ih =>
      cases texts' with
      | nil => exact absurd same (filled (items first List.mem_cons_self).1)
      | cons first' texts' =>
          obtain ⟨item, others⟩ := List.forall_mem_cons.mp items
          obtain ⟨item', others'⟩ := List.forall_mem_cons.mp items'
          rw [joined_cons, joined_cons] at same
          obtain ⟨rfl, later⟩ := cut_item item.2 item'.2 same
          have rest : joined ", " texts = joined ", " texts' := by
            cases texts with
            | nil =>
                cases texts' with
                | nil => rfl
                | cons _ _ => simp [listTail] at later
            | cons _ _ =>
                cases texts' with
                | nil => simp [listTail] at later
                | cons _ _ =>
                    rw [listTail_cons, listTail_cons] at later
                    exact (String.append_right_inj _).mp later
          rw [ih others others' rest]

/-- A list of items is balanced. -/
theorem clear_joined {texts : List String} (items : ∀ text ∈ texts, IsItem text) :
    Clear [] (joined ", " texts) := by
  induction texts with
  | nil => exact Clear.literal (s := "") (by decide)
  | cons first texts ih =>
      obtain ⟨item, others⟩ := List.forall_mem_cons.mp items
      rw [joined_cons]
      refine (item.2.mono [] (List.forall_mem_nil _)).append ?_
      cases texts with
      | nil => exact Clear.literal (s := "") (by decide)
      | cons second texts =>
          rw [listTail_cons]
          exact (Clear.literal (by decide)).append (ih others)

end Companions.Text
