import Companions.Text.Blank
import Companions.Text.Numeric

/-!
Blanks around and between words.

No blank is a letter or a numeral (`isAlphanumeric_eq_false`), so a word ends where blanks begin.
Trimming takes off blanks and nothing else: `trimStart` skips exactly the blanks in front,
`trimEnd` leaves a prefix (`trimEnd_prefix`), and a text that neither starts nor ends with a blank
is left as it is (`trim_eq_self`).
-/

namespace Companions.Text

/-! ### Blanks are no letters -/

/-- Ranges of two tables that nowhere meet. -/
theorem inSpans_eq_false {spans others : List (Nat × Nat)} {n : Nat}
    (apart : ∀ span ∈ spans, ∀ other ∈ others, span.2 < other.1 ∨ other.2 < span.1)
    (inside : inSpans spans n = true) : inSpans others n = false := by
  obtain ⟨span, hspan, within⟩ := List.any_eq_true.mp inside
  rw [inSpans, List.any_eq_false]
  intro other hother meets
  simp only [Bool.and_eq_true, decide_eq_true_eq] at within meets
  rcases apart span hspan other hother with before | after <;> omega

/-- The letters of ASCII as a table. -/
theorem isAlpha_eq_inSpans (c : Char) : c.isAlpha = inSpans [(65, 90), (97, 122)] c.toNat := by
  delta Char.isAlpha Char.isUpper Char.isLower
  simp [inSpans, UInt32.le_iff_toNat_le]

/-- The digits of ASCII as a table. -/
theorem isDigit_eq_inSpans (c : Char) : c.isDigit = inSpans [(48, 57)] c.toNat := by
  simp [Char.isDigit, inSpans, UInt32.le_iff_toNat_le]

theorem isAlphabetic_eq_false {c : Char} (blank : isBlank c = true) : isAlphabetic c = false := by
  unfold isAlphabetic
  split
  · rw [isAlpha_eq_inSpans]
    exact inSpans_eq_false (by decide) blank
  · exact inSpans_eq_false (by decide +kernel) blank

theorem isNumeric_eq_false {c : Char} (blank : isBlank c = true) : isNumeric c = false := by
  unfold isNumeric
  split
  · rw [isDigit_eq_inSpans]
    exact inSpans_eq_false (by decide) blank
  · exact inSpans_eq_false (by decide +kernel) blank

/-- A blank is neither a letter nor a numeral. -/
theorem isAlphanumeric_eq_false {c : Char} (blank : isBlank c = true) :
    isAlphanumeric c = false := by
  rw [isAlphanumeric, isAlphabetic_eq_false blank, isNumeric_eq_false blank]
  rfl

/-! ### Skipping blanks -/

/-- The characters are all blank. -/
def Blanks (gap : List Char) : Prop :=
  ∀ c ∈ gap, isBlank c = true

variable {gap text : List Char}

theorem blanks_nil : Blanks [] :=
  nofun

theorem Blanks.append {more : List Char} (first : Blanks gap) (second : Blanks more) :
    Blanks (gap ++ more) := by
  intro c hc
  rcases List.mem_append.mp hc with hc | hc
  · exact first c hc
  · exact second c hc

/-- What `trimStart` takes off is blank. -/
theorem exists_blanks_trimStart (text : List Char) :
    ∃ gap, Blanks gap ∧ text = gap ++ trimStart text :=
  ⟨text.takeWhile isBlank, fun c hc => List.all_eq_true.mp List.all_takeWhile c hc,
    List.takeWhile_append_dropWhile.symm⟩

theorem trimStart_blanks_append (blanks : Blanks gap) : trimStart (gap ++ text) = trimStart text :=
  List.dropWhile_append_of_pos blanks

theorem trimStart_of_blanks (blanks : Blanks gap) : trimStart gap = [] := by
  rw [← List.append_nil gap, trimStart_blanks_append blanks]
  rfl

theorem trimStart_cons {c : Char} {rest : List Char} (filled : isBlank c = false) :
    trimStart (c :: rest) = c :: rest :=
  List.dropWhile_cons_of_neg (by simp [filled])

/-- A text without a blank in front is left as it is. -/
theorem trimStart_eq_self (filled : ∀ c ∈ text.head?, isBlank c = false) :
    trimStart text = text := by
  cases text with
  | nil => rfl
  | cons c rest => exact trimStart_cons (filled c rfl)

theorem isBlank_of_trimStart_eq_cons {c : Char} {rest : List Char}
    (left : trimStart text = c :: rest) : isBlank c = false := by
  have first := List.head?_dropWhile_not isBlank text
  rw [← trimStart, left] at first
  exact first

theorem trimStart_append (text other : List Char) :
    trimStart (text ++ other)
      = if trimStart text = [] then trimStart other else trimStart text ++ other := by
  unfold trimStart
  rw [List.dropWhile_append]
  exact ite_congr (propext List.isEmpty_iff) (fun _ => rfl) fun _ => rfl

/-! ### Blanks at the end -/

theorem trimEnd_prefix (text : List Char) : trimEnd text <+: text := by
  rw [trimEnd, ← List.reverse_suffix, List.reverse_reverse]
  exact List.dropWhile_suffix isBlank

theorem trimEnd_append (text other : List Char) :
    trimEnd (text ++ other)
      = if trimEnd other = [] then trimEnd text else text ++ trimEnd other := by
  simp only [trimEnd, List.reverse_append, List.dropWhile_append, List.isEmpty_iff,
    List.reverse_eq_nil_iff]
  split
  · rfl
  · rw [List.reverse_append, List.reverse_reverse]

/-- Only blanks are trimmed away altogether. -/
theorem blanks_of_trimEnd_eq_nil (none : trimEnd text = []) : Blanks text := by
  obtain ⟨gap, blanks, split⟩ := exists_blanks_trimStart text.reverse
  rw [trimStart, List.reverse_eq_nil_iff.mp none, List.append_nil] at split
  exact fun c hc => blanks c (split ▸ List.mem_reverse.mpr hc)

theorem trimEnd_concat {front : List Char} {last : Char} (filled : isBlank last = false) :
    trimEnd (front ++ [last]) = front ++ [last] := by
  rw [trimEnd, List.reverse_append, List.reverse_singleton, List.singleton_append,
    List.dropWhile_cons_of_neg (by simp [filled]), List.reverse_cons, List.reverse_reverse]

/-- No trimmed text starts with a blank. -/
theorem isBlank_of_mem_head?_trim {c : Char} (first : c ∈ (trim text).head?) :
    isBlank c = false := by
  obtain ⟨rest, left⟩ := List.head?_eq_some_iff.mp first
  obtain ⟨more, kept⟩ := trimEnd_prefix (trimStart text)
  rw [← trim, left, List.cons_append] at kept
  exact isBlank_of_trimStart_eq_cons kept.symm

/-- A text with something other than blanks at both ends is not trimmed. -/
theorem trim_eq_self {first last : Char} {front rest : List Char} (start : text = first :: rest)
    (stop : text = front ++ [last]) (filledFirst : isBlank first = false)
    (filledLast : isBlank last = false) : trim text = text := by
  have fromStart : trimStart text = text := by
    rw [start, trimStart_cons filledFirst]
  rw [trim, fromStart, stop, trimEnd_concat filledLast]

end Companions.Text
