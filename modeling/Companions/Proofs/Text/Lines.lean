import Companions.ClassName
import Companions.Source.Page
import Companions.Text.Blank
import Mathlib.Data.List.Basic
import Mathlib.Data.List.Forall2

/-!
Texts and their lines.

There are two ways to move a text one level to the right: a text of its own gets four blanks in
front of every line (`indented`), and a text that stands in a line gets them behind every line break
(`hanging`). On whole lines both come to the same, up to where the first four blanks stand
(`Whole.indented_append`), so a block of lines can be spliced into a line.
-/

namespace Companions.Text

variable {s t : String}

/-! ### One line -/

/-- The text has no line break. -/
def OneLine (text : String) : Prop :=
  '\n' ∉ text.toList

instance : DecidablePred OneLine :=
  fun text => inferInstanceAs (Decidable ('\n' ∉ text.toList))

theorem oneLine_ofList {cs : List Char} (h : '\n' ∉ cs) : OneLine (String.ofList cs) := by
  rwa [OneLine, String.toList_ofList]

theorem OneLine.append (h : OneLine s) (h' : OneLine t) : OneLine (s ++ t) := by
  rw [OneLine, String.toList_append, List.mem_append]
  exact not_or.mpr ⟨h, h'⟩

theorem OneLine.joined {separator : String} {texts : List String} (between : OneLine separator)
    (each : ∀ text ∈ texts, OneLine text) : OneLine (joined separator texts) := by
  rw [Companions.joined]
  induction texts with
  | nil => exact List.not_mem_nil
  | cons first rest ih =>
      obtain ⟨here, later⟩ := List.forall_mem_cons.mp each
      cases rest with
      | nil =>
          rw [String.intercalate_singleton]
          exact here
      | cons second rest =>
          rw [String.intercalate_cons_cons]
          exact (here.append between).append (ih later)

/-- The text is a piece of a line: it has no line break, and it is not empty. -/
structure Piece (text : String) : Prop where
  oneLine : OneLine text
  filled : text ≠ ""

instance : DecidablePred Piece :=
  fun text => decidable_of_iff (OneLine text ∧ text ≠ "")
    ⟨fun h => ⟨h.1, h.2⟩, fun h => ⟨h.oneLine, h.filled⟩⟩

theorem Piece.append (h : Piece s) (h' : OneLine t) : Piece (s ++ t) :=
  ⟨h.oneLine.append h', fun empty => h.filled (String.append_eq_empty_iff.mp empty).1⟩

theorem Piece.behind (h : Piece t) (h' : OneLine s) : Piece (s ++ t) :=
  ⟨h'.append h.oneLine, fun empty => h.filled (String.append_eq_empty_iff.mp empty).2⟩

theorem Piece.ofList {cs : List Char} (filled : cs ≠ []) (h : '\n' ∉ cs) :
    Piece (String.ofList cs) := by
  refine ⟨oneLine_ofList h, fun empty => filled ?_⟩
  rw [← String.toList_ofList (l := cs), empty]
  rfl

/-! ### Moving to the right -/

/-- Four blanks, the lines of a text each behind them. -/
def indentedChars (cs : List Char) : List Char :=
  (lines cs).flatMap fun line => (indentation 1).toList ++ (line ++ ['\n'])

/-- Four blanks behind every line break. -/
def hangingChars (cs : List Char) : List Char :=
  cs.flatMap fun c => if c = '\n' then '\n' :: (indentation 1).toList else [c]

/-- The lines up to a line break, and those behind it. -/
theorem indentedChars_break (front rest : List Char) : indentedChars (front ++ '\n' :: rest)
    = (indentation 1).toList ++ (hangingChars front ++ '\n' :: indentedChars rest) := by
  induction front with
  | nil => simp [indentedChars, hangingChars, lines]
  | cons c front ih =>
      rw [List.cons_append, indentedChars, lines]
      by_cases feed : c = '\n'
      · rw [if_pos feed, List.flatMap_cons, ← indentedChars, ih, feed]
        simp [hangingChars]
      · rw [if_neg feed]
        rw [indentedChars] at ih
        cases cut : lines (front ++ '\n' :: rest) with
        | nil => simp [cut] at ih
        | cons line more =>
            rw [cut, List.flatMap_cons, List.append_assoc, List.append_assoc] at ih
            have later := List.append_cancel_left ih
            have kept : hangingChars (c :: front) = c :: hangingChars front := by
              simp [hangingChars, feed]
            rw [kept, List.cons_append, ← later]
            simp only [List.flatMap_cons, List.append_assoc, List.cons_append]

/-- The text with four blanks in front of every line. -/
def indented (text : String) : String :=
  String.ofList (indentedChars text.toList)

/-- The text with four blanks in front of every line but the first, which stands behind something
else. -/
def hanging (text : String) : String :=
  String.ofList (hangingChars text.toList)

theorem hanging_append : hanging (s ++ t) = hanging s ++ hanging t := by
  rw [hanging, String.toList_append, hangingChars, List.flatMap_append, String.ofList_append]
  rfl

theorem hanging_ne_empty (filled : s ≠ "") : hanging s ≠ "" := by
  intro empty
  have none : hangingChars s.toList = [] := by
    rw [← String.toList_ofList (l := hangingChars s.toList), ← hanging, empty]
    rfl
  refine filled (String.toList_eq_nil_iff.mp (List.eq_nil_iff_forall_not_mem.mpr fun c hc => ?_))
  have piece := List.flatMap_eq_nil_iff.mp none c hc
  split at piece
  · exact nomatch piece
  · exact nomatch piece

theorem OneLine.hanging (h : OneLine s) : hanging s = s := by
  have each : ∀ c ∈ s.toList, (if c = '\n' then '\n' :: (indentation 1).toList else [c]) = [c] := by
    intro c hc
    rw [if_neg]
    rintro rfl
    exact h hc
  rw [Text.hanging, hangingChars, List.flatMap_congr each, List.flatMap_singleton',
    String.ofList_toList]

theorem indented_break :
    indented (s ++ "\n" ++ t) = indentation 1 ++ hanging s ++ "\n" ++ indented t := by
  have chars := indentedChars_break s.toList t.toList
  rw [← String.toList_inj]
  simpa [indented, hanging] using chars

/-- A line by itself. -/
theorem indented_line : indented (s ++ "\n") = indentation 1 ++ hanging s ++ "\n" := by
  have alone := indented_break (s := s) (t := "")
  have none : indented "" = "" := rfl
  rwa [String.append_empty, none, String.append_empty] at alone

/-- The text consists of whole lines. -/
def Whole (text : String) : Prop :=
  text = "" ∨ ∃ front, text = front ++ "\n"

namespace Whole

theorem append_break : Whole (s ++ "\n") :=
  Or.inr ⟨s, rfl⟩

/-- Each of two texts is indented by itself. -/
theorem indented_append (h : Whole s) : indented (s ++ t) = indented s ++ indented t := by
  rcases h with rfl | ⟨front, rfl⟩
  · rfl
  · rw [indented_break, indented_line]

/-- Whole lines in front of something on a line. -/
theorem indented_append_indentation (h : Whole s) :
    indented s ++ indentation 1 = indentation 1 ++ hanging s := by
  rcases h with rfl | ⟨front, rfl⟩
  · rfl
  · have feed : hanging "\n" = "\n" ++ indentation 1 := rfl
    rw [indented_line, hanging_append, feed]
    simp only [String.append_assoc]

end Whole

/-- The second text is the first one a level further to the right, apart from where it begins. -/
def Deeper (s s' : String) : Prop :=
  s' = hanging s

theorem OneLine.deeper (h : OneLine s) : Deeper s s :=
  h.hanging.symm

namespace Deeper

variable {s' t' : String}

theorem append (h : Deeper s s') (h' : Deeper t t') : Deeper (s ++ t) (s' ++ t') := by
  rw [Deeper, hanging_append, ← h, ← h']

theorem before (h : Deeper s s') (single : OneLine t) : Deeper (s ++ t) (s' ++ t) :=
  h.append single.deeper

theorem behind (h : Deeper s s') (single : OneLine t) : Deeper (t ++ s) (t ++ s') :=
  single.deeper.append h

theorem joined {separator : String} {texts texts' : List String} (between : OneLine separator)
    (each : List.Forall₂ Deeper texts texts') :
    Deeper (joined separator texts) (joined separator texts') := by
  rw [Companions.joined, Companions.joined]
  induction each with
  | nil => exact OneLine.deeper (s := "") (by decide)
  | cons first later ih =>
      cases later with
      | nil =>
          rw [String.intercalate_singleton, String.intercalate_singleton]
          exact first
      | cons second later =>
          rw [String.intercalate_cons_cons, String.intercalate_cons_cons]
          exact (first.before between).append ih

/-- A list of arguments behind something else. -/
theorem arguments {texts texts' : List String} (h : Deeper s s')
    (each : List.Forall₂ Deeper texts texts') :
    Deeper (s ++ "(" ++ Companions.joined ", " texts ++ ")")
      (s' ++ "(" ++ Companions.joined ", " texts' ++ ")") := by
  have between : OneLine ", " := by decide
  have inside := joined between each
  exact ((h.before (by decide)).append inside).before (by decide)

theorem ne_empty (h : Deeper s s') (filled : s ≠ "") : s' ≠ "" :=
  h ▸ hanging_ne_empty filled

end Deeper

end Companions.Text
