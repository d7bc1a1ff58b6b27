import Companions.Source.Page
import Mathlib.Data.List.Basic

/-!
Pages of source text.

What is written on a page goes behind what stands there, and depends on it by its depth only
(`Page.behind_line` and its kin). A block that was closed is spliced into another line without its
last line break (`Page.inline_closing`).
-/

namespace Companions.Page

variable {page : Page} {text front : String} {lines : List String}

/-- The page with more text in front of what stands there. -/
def behind (front : String) (page : Page) : Page :=
  { page with text := front ++ page.text }

theorem behind_eq_startingAt (page : Page) :
    page = behind page.text (startingAt page.depth) := by
  simp [behind, startingAt]

@[simp] theorem depth_behind : (behind front page).depth = page.depth :=
  rfl

@[simp] theorem depth_line : (page.line text).depth = page.depth :=
  rfl

@[simp] theorem depth_opening : (page.opening text).depth = page.depth + 1 :=
  rfl

@[simp] theorem depth_closing : (page.closing text).depth = page.depth - 1 :=
  rfl

@[simp] theorem depth_reopening : (page.reopening text).depth = page.depth - 1 + 1 :=
  rfl

@[simp] theorem depth_blank : page.blank.depth = page.depth := by
  rw [blank]
  split <;> rfl

theorem depth_foldl {α : Type} {write : Page → α → Page} {items : List α}
    (each : ∀ page item, (write page item).depth = page.depth) :
    (items.foldl write page).depth = page.depth := by
  induction items generalizing page with
  | nil => rfl
  | cons item rest ih => rw [List.foldl_cons, ih, each]

@[simp] theorem depth_comment : (page.comment lines).depth = page.depth := by
  rw [comment]
  split
  · rfl
  · rw [depth_line, depth_foldl fun _ _ => depth_line, depth_line]

/-- A line that is not empty is indented. -/
theorem text_line (filled : text ≠ "") :
    (page.line text).text = page.text ++ indentation page.depth ++ text ++ "\n" := by
  rw [line, if_neg (by simpa using filled)]

/-- A line on the outermost level is not indented. -/
theorem text_line_of_outermost (outermost : page.depth = 0) :
    (page.line text).text = page.text ++ text ++ "\n" := by
  have none : indentation 0 = "" := rfl
  simp only [line, outermost, none, ite_self, String.append_empty]

/-! ### What stands on the page before -/

theorem behind_line : (behind front page).line text = behind front (page.line text) := by
  simp only [line, behind, String.append_assoc]

theorem behind_opening : (behind front page).opening text = behind front (page.opening text) := by
  rw [opening, behind_line]
  rfl

theorem behind_closing : (behind front page).closing text = behind front (page.closing text) := by
  let outside : Page := { page with depth := page.depth - 1 }
  have written : (behind front outside).line text = behind front (outside.line text) := behind_line
  exact written

theorem behind_reopening :
    (behind front page).reopening text = behind front (page.reopening text) := by
  let outside : Page := { page with depth := page.depth - 1 }
  have written : (behind front outside).opening ("\x7d " ++ text)
      = behind front (outside.opening ("\x7d " ++ text)) := behind_opening
  exact written

theorem behind_comment : (behind front page).comment lines = behind front (page.comment lines) := by
  have each : ∀ (lines : List String) (page : Page),
      lines.foldl (fun page text => page.line (if text.isEmpty then " *" else " * " ++ text))
          (behind front page)
        = behind front (lines.foldl
          (fun page text => page.line (if text.isEmpty then " *" else " * " ++ text)) page) := by
    intro lines
    induction lines with
    | nil => exact fun _ => rfl
    | cons text rest ih =>
        intro page
        rw [List.foldl_cons, List.foldl_cons, behind_line, ih]
  rw [comment, comment]
  split
  · rfl
  · simp only [behind_line, each]

/-! ### Splicing -/

/-- A block that is spliced into a line keeps all but its last line break. -/
theorem inline_closing : (page.closing "\x7d").inline
    = page.text ++ indentation (page.depth - 1) ++ "\x7d" := by
  rw [inline, ← String.toList_inj]
  simp [closing, line]

end Companions.Page
