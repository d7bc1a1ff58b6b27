import Companions.Proofs.Source.Pages

/-!
Comments as a reader takes them: from `/*` to the first `*/` behind it.

A text in a comment ends it early when it has these two characters in a row (`Closes`), and that is
all that can go wrong (`throughClose?_eq_some_iff`). A documentation comment is written line by line
behind a margin, which neither completes an end nor breaks one up, so that it is read as a whole
exactly when none of its lines closes it (`closes_commentBody_iff`).
-/

namespace Companions

namespace Source

/-! ### Reading -/

/-- A comment would end in this text. -/
def Closes (cs : List Char) : Prop :=
  ['*', '/'] <:+: cs

instance : DecidablePred Closes :=
  fun cs => inferInstanceAs (Decidable (['*', '/'] <:+: cs))

/-- The text through the first end of a comment, and what follows it. -/
def throughClose? : List Char → Option (List Char × List Char)
  | [] => none
  | '*' :: '/' :: rest => some (['*', '/'], rest)
  | c :: rest => (throughClose? rest).map fun (inside, code) => (c :: inside, code)

/-- The comment that a text starts with, and what follows it. -/
def comment? : List Char → Option (List Char × List Char)
  | '/' :: '*' :: rest => (throughClose? rest).map fun (inside, code) => ('/' :: '*' :: inside, code)
  | _ => none

variable {c : Char} {cs front rest inside code : List Char}

theorem closes_cons : Closes (c :: cs) ↔ c = '*' ∧ cs.head? = some '/' ∨ Closes cs := by
  rw [Closes, List.infix_cons_iff, List.cons_prefix_cons]
  refine or_congr (and_congr eq_comm ?_) Iff.rfl
  cases cs with
  | nil => simp
  | cons d cs => simp [List.cons_prefix_cons, eq_comm]

/-- A comment ends in one of two texts, or with the last character of the first one and the first
character of the second one. -/
theorem closes_append : Closes (front ++ rest)
    ↔ Closes front ∨ Closes rest ∨ front.getLast? = some '*' ∧ rest.head? = some '/' := by
  induction front with
  | nil => simp [Closes]
  | cons c front ih =>
      rw [List.cons_append, closes_cons, ih, closes_cons]
      cases front with
      | nil => simp [Closes, or_comm]
      | cons d front =>
          rw [List.getLast?_cons_cons]
          simp only [List.cons_append, List.head?_cons, or_assoc]

theorem star_mem_of_closes (h : Closes cs) : '*' ∈ cs :=
  h.subset List.mem_cons_self

theorem throughClose?_cons (other : ¬ (c = '*' ∧ cs.head? = some '/')) :
    throughClose? (c :: cs)
      = (throughClose? cs).map fun (inside, code) => (c :: inside, code) := by
  conv_lhs => unfold throughClose?
  split
  · rename_i first
    exact nomatch first
  · rename_i first
    obtain ⟨rfl, rfl⟩ := List.cons.inj first
    exact absurd ⟨rfl, rfl⟩ other
  · rename_i first
    obtain ⟨rfl, rfl⟩ := List.cons.inj first
    rfl

/-- **A comment ends where `*/` stands first.** In front of one end, that is this one or an earlier
one. -/
theorem exists_throughClose? (body rest : List Char) : ∃ inside code,
    throughClose? (body ++ '*' :: '/' :: rest) = some (inside, code) ∧
      inside <+: body ++ ['*', '/'] ∧ (inside = body ++ ['*', '/'] ↔ ¬ Closes (body ++ ['*'])) := by
  induction body with
  | nil => exact ⟨['*', '/'], rest, rfl, List.prefix_rfl, by decide⟩
  | cons c body ih =>
      have next : (body ++ '*' :: '/' :: rest).head? = (body ++ ['*']).head? := by
        cases body <;> rfl
      by_cases early : c = '*' ∧ (body ++ ['*']).head? = some '/'
      · obtain ⟨rfl, slash⟩ := early
        cases body with
        | nil => exact absurd slash (by decide)
        | cons d body =>
            obtain rfl : d = '/' := Option.some.inj slash
            refine ⟨['*', '/'], body ++ '*' :: '/' :: rest, rfl, ⟨_, rfl⟩, ?_⟩
            simp [closes_cons]
      · obtain ⟨inside, code, read, start, whole⟩ := ih
        refine ⟨c :: inside, code, ?_, List.cons_prefix_cons.mpr ⟨rfl, start⟩, ?_⟩
        · rw [List.cons_append, throughClose?_cons (next ▸ early), read]
          rfl
        · rw [List.cons_append, List.cons_append, List.cons_inj_right, whole, closes_cons,
            or_iff_right early]

/-! ### Writing -/

/-- A line of a documentation comment, behind its margin. -/
def marginLine (text : String) : String :=
  (if text.isEmpty then " *" else " * " ++ text) ++ "\n"

/-- The margin neither completes the end of a comment nor breaks one up. -/
theorem closes_marginLine {text : String} : Closes (marginLine text).toList ↔ Closes text.toList := by
  have margin : ¬ Closes [' ', '*', ' '] := by decide
  have feed : ¬ Closes ['\n'] := by decide
  unfold marginLine
  split
  · rename_i empty
    rw [String.isEmpty_iff.mp empty]
    decide
  · rw [String.toList_append, String.toList_append, closes_append, closes_append]
    simp [margin, feed]

/-- What stands in a documentation comment between its first and its last character pair. -/
def commentBody (lines : List String) : String :=
  "*\n" ++ String.join (lines.map marginLine) ++ " "

theorem closes_join_marginLine {lines : List String} :
    Closes (String.join (lines.map marginLine)).toList ↔ ∃ text ∈ lines, Closes text.toList := by
  induction lines with
  | nil => simp [Closes]
  | cons text rest ih =>
      have ended : (marginLine text).toList.getLast? = some '\n' := by
        simp [marginLine]
      rw [List.map_cons, String.join_cons, String.toList_append, closes_append,
        closes_marginLine, ih, ended]
      simp

/-- **The body of a documentation comment ends it early if one of its lines does.** -/
theorem closes_commentBody_iff {lines : List String} :
    Closes ((commentBody lines).toList ++ ['*']) ↔ ∃ text ∈ lines, Closes text.toList := by
  have opened : ¬ Closes ['*', '\n'] := by decide
  have closing : ¬ Closes [' ', '*'] := by decide
  have split : (commentBody lines).toList ++ ['*']
      = "*\n".toList ++ ((String.join (lines.map marginLine)).toList ++ [' ', '*']) := by
    simp [commentBody]
  rw [split, closes_append, closes_append, closes_join_marginLine]
  simp [opened, closing]

end Source

/-- A documentation comment on an empty page. -/
theorem Page.text_comment {lines : List String} (filled : lines ≠ []) :
    (Page.empty.comment lines).text = "/*" ++ Source.commentBody lines ++ "*/\n" := by
  let write : Page → String → Page :=
    fun page text => page.line (if text.isEmpty then " *" else " * " ++ text)
  have each : ∀ (lines : List String) (page : Page), page.depth = 0 →
      (lines.foldl write page).text = page.text ++ String.join (lines.map Source.marginLine) := by
    intro lines
    induction lines with
    | nil => exact fun _ _ => String.append_empty.symm
    | cons text rest ih =>
        intro page outermost
        rw [List.foldl_cons, ih (write page text) outermost, text_line_of_outermost outermost,
          List.map_cons, String.join_cons, Source.marginLine]
        simp only [String.append_assoc]
  have top : (Page.empty.line "/**").text = "/*" ++ "*\n" := rfl
  have closing : " */" ++ "\n" = " " ++ "*/\n" := rfl
  rw [comment, if_neg (by simpa using filled),
    text_line_of_outermost (depth_foldl fun _ _ => depth_line),
    each lines (Page.empty.line "/**") rfl, top, Source.commentBody]
  simp only [String.append_assoc, closing]

end Companions
