import Companions.Proofs.Outcome
import Companions.Proofs.Source.Comment
import Companions.Proofs.Source.JavaSpelling
import Companions.Proofs.Text.Blank

/-!
The documentation of a companion in its Java file.

A declared documentation text goes line by line into the comment in front of the class, behind a
line that names the screen. The comment is written as a block, but the text is not escaped: a reader
takes the block as one comment exactly when the text does not have the two characters that end one
(`Assembly.generate_documents`). A pattern such as `notes/**/*.txt` has them, and what follows in
the text is code (`Assembly.documentation_glob`).
-/

namespace Companions

open Source (Closes comment?)

/-! ### Lines of a documentation text -/

section Lines

variable {cs : List Char}

theorem eq_nil_of_lines_eq_nil (none : Text.lines cs = []) : cs = [] := by
  cases cs with
  | nil => rfl
  | cons c rest =>
      rw [Text.lines] at none
      split at none
      · exact nomatch none
      · split at none <;> exact nomatch none

theorem head?_lines {c : Char} {line : List Char} {more : List (List Char)}
    (cut : Text.lines cs = line :: more) (other : c ≠ '\n') :
    cs.head? = some c ↔ line.head? = some c := by
  cases cs with
  | nil => exact nomatch cut
  | cons d rest =>
      rw [Text.lines] at cut
      split at cut
      · rename_i feed
        obtain ⟨rfl, -⟩ := List.cons.inj cut
        simp [feed, other.symm]
      · split at cut <;>
        · obtain ⟨rfl, -⟩ := List.cons.inj cut
          rfl

/-- A comment ends within a line. -/
theorem closes_iff_exists_line : Closes cs ↔ ∃ line ∈ Text.lines cs, Closes line := by
  induction cs with
  | nil => simp [Text.lines, Closes]
  | cons c rest ih =>
      rw [Source.closes_cons, ih, Text.lines]
      by_cases feed : c = '\n'
      · simp [feed, Closes]
      · rw [if_neg feed]
        cases cut : Text.lines rest with
        | nil =>
            have single : ¬ Closes [c] := fun closes => absurd closes.length_le (by simp)
            simp [eq_nil_of_lines_eq_nil cut, single]
        | cons line more =>
            simp only [List.exists_mem_cons_iff, Source.closes_cons,
              head?_lines cut (show '/' ≠ '\n' by decide), or_assoc]

/-- The end of a comment is not blank, so trimming takes none off. -/
theorem closes_trimEnd : Closes (Text.trimEnd cs) ↔ Closes cs := by
  obtain ⟨gap, blanks, split⟩ := Text.exists_blanks_trimStart cs.reverse
  have kept : cs = Text.trimEnd cs ++ gap.reverse := by
    rw [← List.reverse_inj, split, List.reverse_append, List.reverse_reverse]
    simp only [Text.trimEnd, List.reverse_reverse, Text.trimStart]
  have shown : ∀ c ∈ gap.reverse, c ≠ '*' ∧ c ≠ '/' := by
    intro c hc
    have blank := blanks c (List.mem_reverse.mp hc)
    constructor <;> rintro rfl <;> exact absurd blank (by decide)
  have inside : ¬ Closes gap.reverse :=
    fun closes => (shown '*' (Source.star_mem_of_closes closes)).1 rfl
  have front : gap.reverse.head? ≠ some '/' :=
    fun slash => (shown '/' (List.mem_of_mem_head? slash)).2 rfl
  conv_rhs => rw [kept, Source.closes_append]
  simp only [inside, front, and_false, or_false]

theorem closes_docLines {text : String} :
    (∃ line ∈ docLines text, Closes line.toList) ↔ Closes text.toList := by
  rw [docLines, closes_iff_exists_line]
  simp [closes_trimEnd]

end Lines

/-! ### The comment of the class -/

/-- The top of a file leaves the page on the outermost level. -/
theorem Imports.depth_writeTop (table : Imports) (header ending : String) :
    (table.writeTop header ending).depth = 0 := by
  unfold writeTop
  dsimp only
  split
  · split
    · simp [Page.empty]
    · simp [Page.empty]
  · rw [Page.depth_blank, Page.depth_foldl fun _ _ => Page.depth_line]
    split
    · simp [Page.empty]
    · simp [Page.empty]

namespace Java

/-- The comment in front of the class. -/
def documentation (c : Companion) : String :=
  (Page.empty.comment c.docs).text

/-- A file goes on behind the head of its class. -/
theorem grows_writeClass (spell : ClassName → String) (page : Page) (c : Companion) :
    Page.Grows ((page.comment c.docs).opening ("public final class " ++ c.name.simpleName))
      (writeClass spell page c) := by
  unfold writeClass
  refine Page.Grows.trans ?_ Page.grows_closing
  refine Page.Grows.trans ?_ (Page.grows_foldl fun _ _ _ =>
    Page.grows_blank.trans grows_writeListener)
  refine Page.Grows.trans ?_ (Page.grows_foldl fun _ _ _ =>
    Page.grows_blank.trans grows_writeCallable)
  refine Page.Grows.trans ?_ Page.grows_closing
  refine Page.Grows.trans ?_ (Page.grows_blank.trans Page.grows_opening)
  exact Page.grows_foldl fun _ _ _ => Page.grows_line

/-- The class follows its comment. -/
theorem exists_render (c : Companion) (header : String) : ∃ back, render c header
    = ((imports c).writeTop header ";").text ++ documentation c
      ++ ("public final class " ++ c.name.simpleName ++ back) := by
  have top := Page.behind_eq_startingAt ((imports c).writeTop header ";")
  rw [Imports.depth_writeTop] at top
  have commented : (((imports c).writeTop header ";").comment c.docs).text
      = ((imports c).writeTop header ";").text ++ documentation c := by
    conv_lhs => rw [top, Page.behind_comment]
    rfl
  have depth : (((imports c).writeTop header ";").comment c.docs).depth = 0 := by
    rw [Page.depth_comment, Imports.depth_writeTop]
  obtain ⟨more, grown⟩ := grows_writeClass (imports c).spell ((imports c).writeTop header ";") c
  refine ⟨" \x7b\n" ++ more, ?_⟩
  have feed : " \x7b\n" = " \x7b" ++ "\n" := rfl
  rw [render, renderWith_eq_textWith, textWith, grown, Page.opening,
    Page.text_line_of_outermost depth, commented, feed]
  simp only [String.append_assoc]

end Java

/-! ### The documentation of a screen -/

theorem TargetEntry.docs_of_toTarget {e : TargetEntry} {target : Target}
    (accepted : e.toTarget = .ok target) : target.docs = (e.doc.map docLines).getD [] := by
  unfold toTarget at accepted
  simp only [bind, Except.bind] at accepted
  split at accepted
  · cases accepted
  · split at accepted
    · cases accepted
    · split at accepted
      · cases accepted
      · rw [← Except.ok.inj accepted]

/-- A screen closes a comment if its declared text does. -/
theorem TargetEntry.closes_docs {e : TargetEntry} {target : Target}
    (accepted : e.toTarget = .ok target) :
    (∃ text ∈ target.docs, Closes text.toList) ↔ Closes (e.doc.getD "").toList := by
  rw [docs_of_toTarget accepted]
  cases e.doc with
  | none => simp [Closes]
  | some text => exact closes_docLines

/-- The name of a class does not close a comment. -/
theorem ClassName.star_not_mem_relative {name : String} {cls : ClassName}
    (read : ClassName.parse name = .ok cls) : '*' ∉ cls.relative.toList := by
  obtain ⟨before, segment, rest, made⟩ := segmented_of_parse read
  have dotted : Dotted cls.relative.toList := by
    rw [dotted_iff, made.segments_relative]
    exact fun part hpart => made.identifiers part (List.mem_append_right _ hpart)
  intro star
  rcases dotted.isSegmentPart_or star with part | dot
  · exact absurd part (by decide)
  · exact absurd dot (by decide)

namespace Assembly

variable {settings : Settings} {e : TargetEntry} {target : Target} {fields : List Field}
  {a : Assembly} {c : Companion}

theorem Reached.docs_of_generate (reached : Reached settings target fields a)
    (generated : a.generate = .ok c) :
    c.docs = ("Generated companion of \x7b@link " ++ target.cls.relative ++ "\x7d.")
      :: if target.docs.isEmpty then [] else "" :: target.docs := by
  obtain ⟨rfl, -⟩ := generate_eq_ok_iff.mp generated
  rw [companionWith, docs, reached.owner_eq]

/-- Of the lines in the comment only declared ones can close it. -/
theorem Reached.closes_docs (accepted : e.toTarget = .ok target)
    (reached : Reached settings target fields a) (generated : a.generate = .ok c) :
    (∃ text ∈ c.docs, Closes text.toList) ↔ Closes (e.doc.getD "").toList := by
  have star := ClassName.star_not_mem_relative (TargetEntry.parse_of_toTarget accepted)
  have link : ¬ Closes
      ("Generated companion of \x7b@link " ++ target.cls.relative ++ "\x7d.").toList := by
    intro closes
    have inside := Source.star_mem_of_closes closes
    simp [star] at inside
  have blank : ¬ Closes "".toList := by decide
  rw [← TargetEntry.closes_docs accepted, reached.docs_of_generate generated,
    List.exists_mem_cons_iff, or_iff_right link]
  cases target.docs with
  | nil => simp
  | cons first rest => simp [Closes]

/-- **When documentation stays in its comment.** The Java file has a comment in front of its class,
with the declared documentation in it. A reader finds a comment there, which does not go on into the
class, and it is all of that comment exactly when the declared text does not have `*/`. -/
theorem generate_documents (accepted : e.toTarget = .ok target)
    (reached : Reached settings target fields a) (generated : a.generate = .ok c)
    (header : String) :
    ∃ inside back shown code,
      Java.documentation c = "/**\n" ++ inside ++ " */\n" ∧
      Java.render c header = ((Java.imports c).writeTop header ";").text ++ Java.documentation c
        ++ ("public final class " ++ c.name.simpleName ++ back) ∧
      comment? (Java.documentation c
        ++ ("public final class " ++ c.name.simpleName ++ back)).toList = some (shown, code) ∧
      shown <+: ("/**\n" ++ inside ++ " */").toList ∧
      (shown = ("/**\n" ++ inside ++ " */").toList ↔ ¬ Closes (e.doc.getD "").toList) := by
  have filled : c.docs ≠ [] := by
    rw [reached.docs_of_generate generated]
    exact List.cons_ne_nil _ _
  have block : Java.documentation c = "/*" ++ Source.commentBody c.docs ++ "*/\n" :=
    Page.text_comment filled
  obtain ⟨back, rendered⟩ := Java.exists_render c header
  obtain ⟨shown, code, read, start, whole⟩ :=
    Source.exists_throughClose? (Source.commentBody c.docs).toList
      ("\n" ++ ("public final class " ++ c.name.simpleName ++ back)).toList
  let inside := String.join (c.docs.map Source.marginLine)
  have chars : ("/**\n" ++ inside ++ " */").toList
      = '/' :: '*' :: ((Source.commentBody c.docs).toList ++ ['*', '/']) := by
    simp [Source.commentBody, inside]
  refine ⟨inside, back, '/' :: '*' :: shown, code, ?_, rendered, ?_, ?_, ?_⟩
  · rw [block, ← String.toList_inj]
    simp [Source.commentBody, inside]
  · have text : (Java.documentation c
        ++ ("public final class " ++ c.name.simpleName ++ back)).toList
        = '/' :: '*' :: ((Source.commentBody c.docs).toList ++ '*' :: '/' ::
          ("\n" ++ ("public final class " ++ c.name.simpleName ++ back)).toList) := by
      rw [block]
      simp
    rw [text, comment?, read]
    rfl
  · rw [chars, List.cons_prefix_cons, List.cons_prefix_cons]
    exact ⟨rfl, rfl, start⟩
  · rw [chars, List.cons_inj_right, List.cons_inj_right, whole, Source.closes_commentBody_iff,
      reached.closes_docs accepted generated]

/-- A declared editor of notes with this documentation. -/
def documentedEntry (text : String) : TargetEntry :=
  { kind := .activity, qualifiedName := "com.example.Editor", doc := some text }

/-- The screen of that editor, if the text is one line. -/
def documented (line : String) : Target :=
  { cls := ⟨"com.example", "Editor", []⟩, kind := .activity, docs := [line] }

/-- Documentation on one line that does not end a comment stays in it. -/
theorem generate_documents_notes :
    ∃ a c, (documentedEntry "Opens a note.").toTarget = .ok (documented "Opens a note.") ∧
      Reached {} (documented "Opens a note.") [] a ∧ a.generate = .ok c ∧
      ∃ inside back code,
        Java.documentation c = "/**\n" ++ inside ++ " */\n" ∧
        comment? (Java.documentation c
          ++ ("public final class " ++ c.name.simpleName ++ back)).toList
            = some (("/**\n" ++ inside ++ " */").toList, code) := by
  have accepted : (documentedEntry "Opens a note.").toTarget = .ok (documented "Opens a note.") :=
    rfl
  obtain ⟨a, c, reached, generated, -⟩ : ∃ a c, Reached {} (documented "Opens a note.") [] a ∧
      a.generate = .ok c ∧ c.docs.length = 3 := exists_generated (by decide +kernel)
  obtain ⟨inside, back, shown, code, block, -, read, -, whole⟩ :=
    generate_documents accepted reached generated (fileHeader "descriptors.json")
  rw [whole.mpr (by decide +kernel)] at read
  exact ⟨a, c, accepted, reached, generated, inside, back, code, block, read⟩

/-- A pattern of file names in the documentation ends the comment, and the rest of it is code. -/
theorem documentation_glob :
    (documentedEntry "Opens notes/**/*.txt.").toTarget
        = .ok (documented "Opens notes/**/*.txt.") ∧
      ∃ a c, Reached {} (documented "Opens notes/**/*.txt.") [] a ∧ a.generate = .ok c ∧
        (comment? (Java.documentation c).toList).map (fun (shown, code) =>
            (String.ofList shown, String.ofList code))
          = some ("/**\n * Generated companion of \x7b@link Editor\x7d.\n *\n * Opens notes/**/",
            "*.txt.\n */\n") :=
  ⟨rfl, exists_generated (by decide +kernel)⟩

end Assembly

end Companions
