import Companions.Number.Notation
import Companions.Proofs.Builtins
import Companions.Proofs.Source.JavaSpelling
import Companions.Proofs.Source.Quoted
import Companions.Proofs.Text.Casing
import Companions.Proofs.Text.Lines

/-!
What code is made of stands on one line: literals always, since text is quoted, and types and
parameters if the names and the spelled classes in them do.
-/

namespace Companions

open Text (OneLine Piece)

/-! ### Numbers -/

namespace Number

theorem feed_not_mem_toDigits (n : Nat) : '\n' ∉ Nat.toDigits 10 n :=
  fun feed => absurd (Nat.isDigit_of_mem_toDigits (by decide) (by decide) feed) (by decide)

theorem piece_decimalDigits (n : Nat) : Piece (decimalDigits n) :=
  .ofList Nat.toDigits_ne_nil (feed_not_mem_toDigits n)

theorem oneLine_zeros (n : Nat) : OneLine (zeros n) :=
  Text.oneLine_ofList fun feed => absurd (List.eq_of_mem_replicate feed) (by decide)

theorem oneLine_sign (x : Binary64) : OneLine x.sign := by
  unfold Binary64.sign
  split <;> decide

theorem piece_positional (d : Decimal) : Piece d.positional := by
  have whole := piece_decimalDigits d.digits
  have front := fun n => Text.oneLine_ofList fun feed =>
    feed_not_mem_toDigits d.digits (List.mem_of_mem_take (i := n) feed)
  have back := fun n => Text.oneLine_ofList fun feed =>
    feed_not_mem_toDigits d.digits (List.mem_of_mem_drop (i := n) feed)
  have point : Piece "." := ⟨by decide, by decide⟩
  unfold Decimal.positional
  split
  · exact whole.append (oneLine_zeros _)
  · dsimp only
    split
    · exact (point.behind (front _)).append (back _)
    · exact whole.behind (OneLine.append (by decide) (oneLine_zeros _))

theorem piece_literal (x : Binary64) : Piece x.literal := by
  unfold Binary64.literal Binary64.plain
  split_ifs
  · exact ((piece_decimalDigits _).behind (oneLine_sign x)).append (by decide)
  · exact ⟨by decide, by decide⟩
  · exact Piece.behind ⟨by decide, by decide⟩ (oneLine_sign x)
  · exact (piece_positional _).behind (oneLine_sign x)

theorem piece_toString (value : Int) : Piece (toString value) := by
  cases value with
  | ofNat n =>
      have digits : toString (Int.ofNat n) = decimalDigits n := Nat.repr_eq_ofList_toDigits
      rw [digits]
      exact piece_decimalDigits n
  | negSucc n =>
      have digits : toString (Int.negSucc n) = "-" ++ decimalDigits (n + 1) :=
        congrArg ("-" ++ ·) Nat.repr_eq_ofList_toDigits
      rw [digits]
      exact (piece_decimalDigits _).behind (by decide)

end Number

/-! ### Names -/

namespace Naming

variable {name : String}

theorem piece_kotlinName (h : Piece name) : Piece (kotlinName name) := by
  unfold kotlinName
  split
  · exact (h.behind (by decide)).append (by decide)
  · exact h

theorem oneLine_capitalize (h : OneLine name) : OneLine (capitalize name) := by
  rw [OneLine] at h
  unfold capitalize
  split
  · decide
  · rename_i c rest cut
    rw [cut, List.mem_cons, not_or] at h
    refine Text.oneLine_ofList fun feed => ?_
    rcases List.mem_append.mp feed with here | later
    · exact Text.not_mem_uppercase (Ne.symm h.1) (by decide) (by decide) here
    · exact h.2 later

end Naming

theorem Source.piece_quoted (escapeDollar : Bool) (text : String) :
    Piece (quoted escapeDollar text) := by
  have chars := toList_quoted escapeDollar text
  constructor
  · rw [OneLine, chars]
    intro feed
    have inside : '\n' ∈ quotedChars escapeDollar text.toList := by simpa using feed
    exact absurd (isControl_of_mem_quotedChars escapeDollar _ '\n' inside) (by decide)
  · intro empty
    rw [empty, String.toList_empty] at chars
    exact List.cons_ne_nil _ _ chars.symm

/-- A class whose package and simple names have no line breaks is spelled on one line. -/
theorem Imports.oneLine_spell (table : Imports) {cls : ClassName}
    (parts : ∀ part ∈ cls.package :: cls.simpleNames, OneLine part) : OneLine (table.spell cls) := by
  obtain ⟨package, simple⟩ := List.forall_mem_cons.mp parts
  have relative : OneLine cls.relative := OneLine.joined (by decide) simple
  unfold Imports.spell ClassName.canonical
  split
  · exact relative
  · split
    · exact relative
    · exact (package.append (by decide)).append relative

theorem Primitive.oneLine_name (kind : Primitive) : OneLine kind.name := by
  cases kind <;> decide

theorem Primitive.oneLine_kotlinName (kind : Primitive) : OneLine kind.kotlinName := by
  cases kind <;> decide

/-! ### Java -/

namespace Java

variable {spell : ClassName → String}

mutual

theorem oneLine_typeText {t : ValueType} (spelled : ∀ cls ∈ t.classes, OneLine (spell cls)) :
    OneLine (typeText spell t) := by
  cases t with
  | primitive kind =>
      rw [typeText]
      exact kind.oneLine_name
  | declared cls arguments =>
      rw [ValueType.classes, List.forall_mem_cons] at spelled
      rw [typeText]
      split
      · exact spelled.1
      · exact ((spelled.1.append (by decide)).append
          (.joined (by decide) (oneLine_typeTexts spelled.2))).append (by decide)
  | array component =>
      rw [ValueType.classes] at spelled
      rw [typeText]
      exact (oneLine_typeText spelled).append (by decide)

theorem oneLine_typeTexts {types : List ValueType}
    (spelled : ∀ cls ∈ ValueType.classesOf types, OneLine (spell cls)) :
    ∀ text ∈ typeTexts spell types, OneLine text := by
  cases types with
  | nil =>
      rw [typeTexts]
      exact List.forall_mem_nil _
  | cons t rest =>
      rw [ValueType.classesOf, List.forall_mem_append] at spelled
      rw [typeTexts, List.forall_mem_cons]
      exact ⟨oneLine_typeText spelled.1, oneLine_typeTexts spelled.2⟩

end

theorem oneLine_typeArgumentText {types : List ValueType}
    (spelled : ∀ cls ∈ ValueType.classesOf types, OneLine (spell cls)) :
    OneLine (typeArgumentText spell types) := by
  rw [typeArgumentText]
  split
  · decide
  · exact (OneLine.append (by decide) (.joined (by decide) (oneLine_typeTexts spelled))).append
      (by decide)

theorem oneLine_parameterTexts {parameters : List Parameter}
    (named : ∀ p ∈ parameters, Piece p.name)
    (spelled : ∀ cls ∈ parameterClasses parameters, OneLine (spell cls)) :
    OneLine (parameterTexts spell parameters) := by
  refine .joined (by decide) (List.forall_mem_map.mpr fun p hp => ?_)
  have type : OneLine (typeText spell p.type) := oneLine_typeText fun cls hcls =>
    spelled cls (mem_parameterClasses_iff.mpr ⟨p, hp, hcls⟩)
  have kept : OneLine (if p.role = .listener then "final " else "") := by
    split <;> decide
  exact ((kept.append type).append (by decide)).append (named p hp).oneLine

theorem oneLine_literalText (value : Literal) : OneLine (literalText value) := by
  cases value with
  | null => decide
  | boolean value => cases value <;> decide
  | integer value type =>
      have digits := (Number.piece_toString value).oneLine
      cases type with
      | long => exact digits.append (by decide)
      | byte | short | char => exact OneLine.append (by decide) digits
      | boolean | int | float | double => exact digits
  | float value type =>
      have mark : OneLine (if type = .float then "f" else "") := by
        split <;> decide
      exact (Number.piece_literal value).oneLine.append mark
  | text value => exact (Source.piece_quoted false value).oneLine

end Java

/-! ### Kotlin -/

namespace Kotlin

variable {spell : ClassName → String}

theorem oneLine_classText {cls : ClassName} (spelled : OneLine (spell cls)) :
    OneLine (classText spell cls) := by
  have names : ∀ name ∈ builtinNames, OneLine name := by decide
  rw [classText]
  cases own : builtin? cls with
  | none => exact spelled
  | some name => exact names name (mem_builtinNames_iff.mpr ⟨cls, own⟩)

mutual

theorem oneLine_typeText {t : ValueType} (spelled : ∀ cls ∈ t.classes, OneLine (spell cls)) :
    OneLine (typeText spell t) := by
  cases t with
  | primitive kind =>
      rw [typeText]
      exact kind.oneLine_kotlinName
  | declared cls arguments =>
      rw [ValueType.classes, List.forall_mem_cons] at spelled
      have name := oneLine_classText spelled.1
      rw [typeText]
      split
      · exact name
      · exact ((name.append (by decide)).append
          (.joined (by decide) (oneLine_typeTexts spelled.2))).append (by decide)
  | array component =>
      rw [ValueType.classes] at spelled
      rw [typeText]
      split
      · rename_i kind _
        exact kind.oneLine_kotlinName.append (by decide)
      · exact (OneLine.append (by decide) (oneLine_typeText spelled)).append (by decide)

theorem oneLine_typeTexts {types : List ValueType}
    (spelled : ∀ cls ∈ ValueType.classesOf types, OneLine (spell cls)) :
    ∀ text ∈ typeTexts spell types, OneLine text := by
  cases types with
  | nil =>
      rw [typeTexts]
      exact List.forall_mem_nil _
  | cons t rest =>
      rw [ValueType.classesOf, List.forall_mem_append] at spelled
      rw [typeTexts, List.forall_mem_cons]
      exact ⟨oneLine_typeText spelled.1, oneLine_typeTexts spelled.2⟩

end

theorem oneLine_typeArgumentText {types : List ValueType}
    (spelled : ∀ cls ∈ ValueType.classesOf types, OneLine (spell cls)) :
    OneLine (typeArgumentText spell types) := by
  rw [typeArgumentText]
  split
  · decide
  · exact (OneLine.append (by decide) (.joined (by decide) (oneLine_typeTexts spelled))).append
      (by decide)

theorem oneLine_parameterTexts {parameters : List Parameter}
    (named : ∀ p ∈ parameters, Piece p.name)
    (spelled : ∀ cls ∈ parameterClasses parameters, OneLine (spell cls)) :
    OneLine (parameterTexts spell parameters) := by
  refine .joined (by decide) (List.forall_mem_map.mpr fun p hp => ?_)
  have name := (Naming.piece_kotlinName (named p hp)).oneLine
  have type : OneLine (typeText spell p.type) := oneLine_typeText fun cls hcls =>
    spelled cls (mem_parameterClasses_iff.mpr ⟨p, hp, hcls⟩)
  have nullable : OneLine (if p.nullable then "?" else "") := by
    split <;> decide
  have optional : OneLine (if p.role = .listener then " = null" else "") := by
    split <;> decide
  exact (((name.append (by decide)).append type).append nullable).append optional

theorem piece_literalText (value : Literal) : Piece (literalText value) := by
  cases value with
  | null => exact ⟨by decide, by decide⟩
  | boolean value => cases value <;> exact ⟨by decide, by decide⟩
  | integer value type =>
      have digits := Number.piece_toString value
      cases type with
      | long => exact digits.append (by decide)
      | byte | short | char =>
          exact ((digits.append (by decide)).append (by decide)).append (by decide)
      | boolean | int | float | double => exact digits
  | float value type =>
      have mark : OneLine (if type = .float then "f" else "") := by
        split <;> decide
      exact (Number.piece_literal value).append mark
  | text value => exact Source.piece_quoted true value

end Kotlin

end Companions
