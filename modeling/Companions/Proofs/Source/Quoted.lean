import Companions.Source.Quoted
import Mathlib.Data.List.Basic
import Mathlib.Logic.Function.Basic

/-!
String literals stand for the texts they were made of.

A literal is read from left to right: a backslash goes with the character behind it, or with `u` and
four digits, and every other character stands for itself (`undo?`). What is left when the escapes
are taken out (`bare`) must neither close the literal nor start a template. Each character of a text
is written in one of three ways (`Spelled`), and each of these ways is read back whatever follows it
(`Spelled.undo?_append`), so the runs of backslashes in a text cannot shift how the rest is read.

`quoted_undo` puts this together for a whole text, and `quoted` is injective by it.
-/

namespace Companions.Source

/-! ### Escapes -/

/-- What a backslash and this character stand for. Only Kotlin has the dollar sign among them. -/
def escaped? (escapeDollar : Bool) : Char → Option Char
  | '"' => some '"'
  | '\\' => some '\\'
  | 'n' => some '\n'
  | 'r' => some '\r'
  | 't' => some '\t'
  | '$' => if escapeDollar then some '$' else none
  | _ => none

/-- The value of a hexadecimal digit. -/
def hexDigit? (c : Char) : Option Nat :=
  if '0'.toNat ≤ c.toNat ∧ c.toNat ≤ '9'.toNat then some (c.toNat - '0'.toNat)
  else if 'a'.toNat ≤ c.toNat ∧ c.toNat ≤ 'f'.toNat then some (c.toNat - 'a'.toNat + 10)
  else if 'A'.toNat ≤ c.toNat ∧ c.toNat ≤ 'F'.toNat then some (c.toNat - 'A'.toNat + 10)
  else none

/-- The character of a hexadecimal code. Surrogates are no characters. -/
def ofHex? (digits : List Char) : Option Char := do
  let code ← digits.foldlM (fun code digit => (hexDigit? digit).map (16 * code + ·)) 0
  if code.isValidChar then some (Char.ofNat code) else none

/-- What stands between the quotes of a literal with its escapes undone, from left to right. -/
def undo? (escapeDollar : Bool) : List Char → Option (List Char)
  | [] => some []
  | '\\' :: 'u' :: w :: x :: y :: z :: rest => do
    let c ← ofHex? [w, x, y, z]
    (undo? escapeDollar rest).map (c :: ·)
  | '\\' :: e :: rest => do
    let c ← escaped? escapeDollar e
    (undo? escapeDollar rest).map (c :: ·)
  | ['\\'] => none
  | c :: rest => (undo? escapeDollar rest).map (c :: ·)

/-- The characters that no backslash stands in front of. -/
def bare : List Char → List Char
  | [] => []
  | '\\' :: _ :: rest => bare rest
  | c :: rest => c :: bare rest

/-! ### One character -/

/-- How a character may stand in a literal: as it is, as a backslash with one character, or as its
code. -/
inductive Spelled (escapeDollar : Bool) (c : Char) : List Char → Prop where
  | plain : c ≠ '"' → c ≠ '\\' → (escapeDollar = true → c ≠ '$') → Text.isControl c = false →
      Spelled escapeDollar c [c]
  | short {e : Char} : e ≠ 'u' → Text.isControl e = false → escaped? escapeDollar e = some c →
      Spelled escapeDollar c ['\\', e]
  | code {w x y z : Char} : (∀ digit ∈ [w, x, y, z], (hexDigit? digit).isSome) →
      ofHex? [w, x, y, z] = some c → Spelled escapeDollar c ['\\', 'u', w, x, y, z]

/-- A control character is read off its four digits. -/
theorem exists_hex_digits {c : Char} (control : Text.isControl c = true) :
    ∃ w x y z, (Text.hex 4 c.toNat).toList = [w, x, y, z] ∧
      (∀ digit ∈ [w, x, y, z], (hexDigit? digit).isSome) ∧ ofHex? [w, x, y, z] = some c := by
  have codes : ∀ n < 160, (Text.hex 4 n).toList.length = 4 ∧
      (Text.hex 4 n).toList.all (fun digit => (hexDigit? digit).isSome) = true ∧
      ofHex? (Text.hex 4 n).toList = some (Char.ofNat n) := by decide +kernel
  have below : c.toNat < 160 := by
    simp only [Text.isControl, Bool.or_eq_true, Bool.and_eq_true, decide_eq_true_eq] at control
    omega
  obtain ⟨four, digits, read⟩ := codes c.toNat below
  rw [Char.ofNat_toNat] at read
  obtain ⟨w, x, y, z, split⟩ := List.length_eq_four.mp four
  rw [split] at digits read
  exact ⟨w, x, y, z, split, List.all_eq_true.mp digits, read⟩

theorem spelled_quotedChar (escapeDollar : Bool) (c : Char) :
    Spelled escapeDollar c (quotedChar escapeDollar c).toList := by
  unfold quotedChar
  split_ifs with quote backslash feed back tab dollar control
  · subst quote
    exact .short (by decide) (by decide) rfl
  · subst backslash
    exact .short (by decide) (by decide) rfl
  · subst feed
    exact .short (by decide) (by decide) rfl
  · subst back
    exact .short (by decide) (by decide) rfl
  · subst tab
    exact .short (by decide) (by decide) rfl
  · obtain ⟨rfl, rfl⟩ := (Bool.and_eq_true _ _).mp dollar |>.imp_left of_decide_eq_true
    exact .short (by decide) (by decide) rfl
  · obtain ⟨w, x, y, z, split, digits, read⟩ := exists_hex_digits control
    rw [String.toList_append, split]
    exact .code digits read
  · have single : c.toString.toList = [c] := by simp
    rw [single]
    refine .plain quote backslash (fun kotlin same => dollar ?_) (Bool.eq_false_iff.mpr control)
    rw [same, kotlin]
    rfl

section Item

variable {escapeDollar : Bool} {c x : Char} {item rest : List Char}

theorem undo?_cons (plain : c ≠ '\\') :
    undo? escapeDollar (c :: rest) = (undo? escapeDollar rest).map (c :: ·) := by
  conv_lhs => unfold undo?
  split <;> simp_all

theorem undo?_short {e : Char} (other : e ≠ 'u') :
    undo? escapeDollar ('\\' :: e :: rest)
      = (escaped? escapeDollar e).bind fun c => (undo? escapeDollar rest).map (c :: ·) := by
  rw [undo?]
  · rfl
  · intro _ _ _ _ _ same
    exact absurd same other

theorem bare_cons (plain : c ≠ '\\') : bare (c :: rest) = c :: bare rest := by
  conv_lhs => unfold bare
  split <;> simp_all

/-- A digit is no mark, and it shows. -/
theorem quiet_of_hexDigit? (digit : (hexDigit? x).isSome) :
    x ∉ ['"', '\\', '$'] ∧ Text.isControl x = false := by
  have marks : (['"', '\\', '$'].all fun mark => (hexDigit? mark).isNone) = true := by decide
  refine ⟨fun mark => ?_, ?_⟩
  · have none := List.all_eq_true.mp marks x mark
    rw [Option.isNone_iff_eq_none.mp none] at digit
    exact nomatch digit
  · have between : ∀ low high : Char, 48 ≤ low.toNat → high.toNat < 127 →
        low.toNat ≤ x.toNat ∧ x.toNat ≤ high.toNat → 48 ≤ x.toNat ∧ x.toNat < 127 := by
      intro low high above below within
      omega
    have shown : 48 ≤ x.toNat ∧ x.toNat < 127 := by
      unfold hexDigit? at digit
      split_ifs at digit with arabic lower upper
      · exact between '0' '9' (by decide) (by decide) arabic
      · exact between 'a' 'f' (by decide) (by decide) lower
      · exact between 'A' 'F' (by decide) (by decide) upper
      · exact nomatch digit
    simp only [Text.isControl, Bool.or_eq_false_iff, Bool.and_eq_false_iff, decide_eq_false_iff_not]
    omega

/-- What may stand in a literal without a backslash in front of it. -/
def Quiet (escapeDollar : Bool) (c : Char) : Prop :=
  c ≠ '"' ∧ (escapeDollar = true → c ≠ '$')

namespace Spelled

/-- **One character is read back, whatever follows it.** -/
theorem undo?_append (h : Spelled escapeDollar c item) :
    undo? escapeDollar (item ++ rest) = (undo? escapeDollar rest).map (c :: ·) := by
  cases h with
  | plain _ backslash _ _ => exact undo?_cons backslash
  | short other _ read =>
      rw [List.cons_append, List.cons_append, List.nil_append, undo?_short other, read]
      rfl
  | code _ read =>
      simp only [List.cons_append, List.nil_append]
      rw [undo?, read]
      rfl

/-- Nothing in it is a control character. -/
theorem isControl_eq_false (h : Spelled escapeDollar c item) :
    ∀ x ∈ item, Text.isControl x = false := by
  cases h with
  | plain _ _ _ control => exact List.forall_mem_singleton.mpr control
  | short _ control _ =>
      exact List.forall_mem_cons.mpr ⟨by decide, List.forall_mem_singleton.mpr control⟩
  | code digits _ =>
      refine List.forall_mem_cons.mpr ⟨by decide, List.forall_mem_cons.mpr ⟨by decide, ?_⟩⟩
      exact fun x hx => (quiet_of_hexDigit? (digits x hx)).2

/-- Outside escapes it has nothing that would close the literal or start a template. -/
theorem quiet_of_mem_bare (h : Spelled escapeDollar c item)
    (later : ∀ x ∈ bare rest, Quiet escapeDollar x) :
    ∀ x ∈ bare (item ++ rest), Quiet escapeDollar x := by
  cases h with
  | plain quote backslash dollar _ =>
      rw [List.singleton_append, bare_cons backslash]
      exact List.forall_mem_cons.mpr ⟨⟨quote, dollar⟩, later⟩
  | short _ _ _ => exact later
  | @code w x y z digits _ =>
      have kept : bare ([w, x, y, z] ++ rest) = [w, x, y, z] ++ bare rest := by
        have apart : ∀ digit ∈ [w, x, y, z], digit ≠ '\\' := fun digit hdigit same =>
          (quiet_of_hexDigit? (digits digit hdigit)).1 (by simp [same])
        simp only [List.forall_mem_cons] at apart
        simp only [List.cons_append, List.nil_append, bare_cons, apart, ne_eq, not_false_eq_true]
      have whole : bare (['\\', 'u', w, x, y, z] ++ rest) = [w, x, y, z] ++ bare rest := kept
      rw [whole]
      refine List.forall_mem_append.mpr ⟨fun digit hdigit => ?_, later⟩
      have mark := (quiet_of_hexDigit? (digits digit hdigit)).1
      exact ⟨fun same => mark (by simp [same]), fun _ same => mark (by simp [same])⟩

end Spelled

end Item

/-! ### Literals -/

/-- What stands between the quotes of a literal. -/
def quotedChars (escapeDollar : Bool) (cs : List Char) : List Char :=
  cs.flatMap fun c => (quotedChar escapeDollar c).toList

variable (escapeDollar : Bool) (cs : List Char)

theorem toList_quoted (text : String) : (quoted escapeDollar text).toList
    = '"' :: (quotedChars escapeDollar text.toList ++ ['"']) := by
  simp [quoted, quotedChars, String.toList_join, List.flatMap_map]

theorem undo?_quotedChars : undo? escapeDollar (quotedChars escapeDollar cs) = some cs := by
  induction cs with
  | nil => rfl
  | cons c rest ih =>
      rw [quotedChars, List.flatMap_cons, (spelled_quotedChar escapeDollar c).undo?_append,
        ← quotedChars, ih]
      rfl

theorem quiet_of_mem_bare_quotedChars :
    ∀ x ∈ bare (quotedChars escapeDollar cs), Quiet escapeDollar x := by
  induction cs with
  | nil => exact List.forall_mem_nil _
  | cons c rest ih => exact (spelled_quotedChar escapeDollar c).quiet_of_mem_bare ih

theorem isControl_of_mem_quotedChars :
    ∀ x ∈ quotedChars escapeDollar cs, Text.isControl x = false := by
  intro x hx
  obtain ⟨c, -, hx⟩ := List.mem_flatMap.mp hx
  exact (spelled_quotedChar escapeDollar c).isControl_eq_false x hx

/-- **A literal stands for its text.** It begins and ends with a quote. In between there is no line
break, no quote outside escapes, and in Kotlin no dollar sign outside escapes, so that it is a
single literal without templates; undoing the escapes from left to right gives the text. So no two
texts have one literal. -/
theorem quoted_undo (escapeDollar : Bool) :
    (∀ text, ∃ body, (quoted escapeDollar text).toList = '"' :: (body ++ ['"']) ∧
      '\n' ∉ body ∧ '\r' ∉ body ∧ '"' ∉ bare body ∧ (escapeDollar = true → '$' ∉ bare body) ∧
      undo? escapeDollar body = some text.toList) ∧
    Function.Injective (quoted escapeDollar) := by
  constructor
  · intro text
    have shown := isControl_of_mem_quotedChars escapeDollar text.toList
    have quiet := quiet_of_mem_bare_quotedChars escapeDollar text.toList
    refine ⟨_, toList_quoted escapeDollar text, fun feed => ?_, fun back => ?_, fun quote => ?_,
      fun kotlin dollar => ?_, undo?_quotedChars escapeDollar _⟩
    · exact absurd (shown '\n' feed) (by decide)
    · exact absurd (shown '\r' back) (by decide)
    · exact (quiet '"' quote).1 rfl
    · exact (quiet '$' dollar).2 kotlin rfl
  · intro text text' same
    have bodies : quotedChars escapeDollar text.toList = quotedChars escapeDollar text'.toList := by
      have letters := congrArg String.toList same
      rw [toList_quoted, toList_quoted] at letters
      exact List.append_cancel_right (List.cons.inj letters).2
    have read := congrArg (undo? escapeDollar) bodies
    rw [undo?_quotedChars, undo?_quotedChars] at read
    exact String.toList_inj.mp (Option.some.inj read)

end Companions.Source
