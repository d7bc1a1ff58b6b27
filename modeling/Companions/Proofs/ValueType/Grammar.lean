import Companions.Proofs.ClassName
import Companions.Proofs.Text.Blank
import Companions.ValueType.Reader

/-!
The grammar of types, apart from any reader.

A type is a base after blanks, then any number of pairs `[]` with blanks before each, but not
inside. A base is the keyword of a primitive type, the name of a class, or such a name with types in
angle brackets; blanks may stand before `<`, before each comma and before `>`. `Written text t` says
that `text` can be taken apart in this way with value `t`, and `Spells` allows blanks after it too.

`resolveClass_eq_ok_iff` ties the names of the grammar to `resolveClass`. Nothing else here
mentions how types are read.
-/

namespace Companions.ValueType

open Text (Blanks)

/-! ### The grammar -/

/-- The name of a class: dotted, no keyword of a primitive type, and read as it stands unless it is
one of the bare names that belong to `java.lang`. -/
structure NamesClass (name : String) (c : ClassName) : Prop where
  dotted : ClassName.Dotted name.toList
  notPrimitive : ∀ p : Primitive, p.name ≠ name
  resolved : name ∈ implicitClasses ∧ c = ⟨javaLang, name, []⟩ ∨
    name ∉ implicitClasses ∧ ClassName.parse name = .ok c

mutual

/-- A type without the blanks before it and the pairs `[]` after it. -/
inductive WrittenBase : List Char → ValueType → Prop where
  | primitive (p : Primitive) : WrittenBase p.name.toList (.primitive p)
  | plain {name : String} {c : ClassName} :
      NamesClass name c → WrittenBase name.toList (.declared c [])
  | generic {name : String} {c : ClassName} {before inside after : List Char}
      {arguments : List ValueType} :
      NamesClass name c → Blanks before → WrittenList inside arguments → Blanks after →
      WrittenBase (name.toList ++ before ++ '<' :: (inside ++ after ++ ['>']))
        (.declared c arguments)

/-- A type. -/
inductive Written : List Char → ValueType → Prop where
  | base {gap text : List Char} {t : ValueType} :
      Blanks gap → WrittenBase text t → Written (gap ++ text) t
  | array {text gap : List Char} {t : ValueType} :
      Written text t → Blanks gap → Written (text ++ gap ++ ['[', ']']) (.array t)

/-- Types with commas between them, at least one. -/
inductive WrittenList : List Char → List ValueType → Prop where
  | single {text : List Char} {t : ValueType} : Written text t → WrittenList text [t]
  | more {text gap rest : List Char} {t : ValueType} {others : List ValueType} :
      Written text t → Blanks gap → WrittenList rest others →
      WrittenList (text ++ gap ++ ',' :: rest) (t :: others)

end

/-- A whole text: a type, and blanks after it. -/
def Spells (whole : List Char) (t : ValueType) : Prop :=
  ∃ text gap, whole = text ++ gap ∧ Written text t ∧ Blanks gap

/-! ### Names -/

theorem ofName?_eq_some_iff {name : String} {p : Primitive} :
    Primitive.ofName? name = some p ↔ p.name = name := by
  constructor
  · intro found
    simpa using List.find?_some found
  · rintro rfl
    cases p <;> rfl

theorem ofName?_eq_none_iff {name : String} :
    Primitive.ofName? name = none ↔ ∀ p : Primitive, p.name ≠ name := by
  rw [Option.eq_none_iff_forall_ne_some]
  exact forall_congr' fun p => not_congr ofName?_eq_some_iff

theorem dotted_of_mem_implicitClasses {name : String} (implicit : name ∈ implicitClasses) :
    ClassName.Dotted name.toList := by
  have segmented : ∀ name ∈ implicitClasses,
      ∀ part ∈ ClassName.segments name.toList, ClassName.isSegment part = true := by decide
  exact ClassName.dotted_iff.mpr fun part hpart =>
    ClassName.isSegment_iff.mp (segmented name implicit part hpart)

/-- A name that is no keyword resolves to the class that it names. -/
theorem resolveClass_eq_ok_iff {name : String} {c : ClassName}
    (notPrimitive : Primitive.ofName? name = none) :
    resolveClass name = .ok c ↔ NamesClass name c := by
  have apart := ofName?_eq_none_iff.mp notPrimitive
  unfold resolveClass
  by_cases implicit : name ∈ implicitClasses
  · rw [if_pos (List.contains_iff_mem.mpr implicit), Except.ok.injEq]
    constructor
    · rintro rfl
      exact ⟨dotted_of_mem_implicitClasses implicit, apart, Or.inl ⟨implicit, rfl⟩⟩
    · rintro ⟨-, -, ⟨-, rfl⟩ | ⟨explicit, -⟩⟩
      · rfl
      · exact absurd implicit explicit
  · rw [if_neg (mt List.contains_iff_mem.mp implicit)]
    constructor
    · intro resolved
      cases read : ClassName.parse name with
      | error error => simp [read] at resolved
      | ok d =>
          simp only [read, Except.ok.injEq] at resolved
          subst resolved
          exact ⟨(ClassName.parse_eq_ok_iff.mp read).1, apart, Or.inr ⟨implicit, read⟩⟩
    · rintro ⟨-, -, ⟨present, -⟩ | ⟨-, read⟩⟩
      · exact absurd present implicit
      · rw [read]

namespace NamesClass

variable {name : String} {c : ClassName}

theorem ofName?_eq_none (names : NamesClass name c) : Primitive.ofName? name = none :=
  ofName?_eq_none_iff.mpr names.notPrimitive

theorem resolveClass_eq (names : NamesClass name c) : resolveClass name = .ok c :=
  (resolveClass_eq_ok_iff names.ofName?_eq_none).mpr names

end NamesClass

theorem dotted_primitive (p : Primitive) : ClassName.Dotted p.name.toList := by
  have segmented : ∀ part ∈ ClassName.segments p.name.toList,
      ClassName.isSegment part = true := by cases p <;> decide
  exact ClassName.dotted_iff.mpr fun part hpart =>
    ClassName.isSegment_iff.mp (segmented part hpart)

end Companions.ValueType
