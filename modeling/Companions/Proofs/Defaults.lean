import Companions.Manifest.Bind
import Companions.Proofs.Failure
import Companions.Proofs.ValueType.Printing
import Companions.SavedState
import Mathlib.Data.List.Nodup

/-!
Defaults and the types that they are for.

`Json.Value.StandsFor` is the table of the defaults that can be declared: which values a field of a
type may have, and the literal that each of them is in code. A declared default passes three
conversions on its way there. The first reads the value (`FieldEntry.toDefault`), the second checks
it against the type (`Default.fits`), the third writes it (`SavedState.defaultLiteral`), and together
they are the table (`FieldEntry.exists_toDefault_iff`).

`FieldEntry.toField_defaults` says so of a declared field and of `inject`, whose literals are read
off its body by `Statement.fallbacksOf`.
-/

namespace Companions

/-! ### Types that have defaults -/

namespace Primitive

variable {p : Primitive} {value : Int}

theorem holds_iff : p.holds value = true ↔
    ∃ least greatest, p.range? = some (least, greatest) ∧ least ≤ value ∧ value ≤ greatest := by
  unfold holds
  cases p.range? with
  | none => simp
  | some range =>
      obtain ⟨least, greatest⟩ := range
      simp

/-- No integral type goes beyond `long`. -/
theorem long_holds_of_holds (holds : p.holds value = true) : long.holds value = true := by
  cases p <;> simp [Primitive.holds, range?, Int.pow] at holds ⊢ <;> omega

/-- A type with a range has no fractions. -/
theorem isFloating_eq_false_of_holds (holds : p.holds value = true) : p.isFloating = false := by
  cases p <;> first | rfl | exact absurd holds (by simp [Primitive.holds, range?])

end Primitive

namespace ValueType

theorem primitive?_eq_some_iff {t : ValueType} {p : Primitive} :
    t.primitive? = some p ↔ t = .primitive p := by
  cases t <;> simp [primitive?]

/-- The only type of texts that can be read is `java.lang.String` without type arguments. -/
theorem Legible.eq_string {t : ValueType} (legible : Legible t) (text : t.isString = true) :
    t = .string := by
  cases legible with
  | primitive p => exact nomatch text
  | array element => exact nomatch text
  | @declared name c arguments names _ =>
      cases arguments with
      | cons first rest => exact nomatch text
      | nil =>
          have named : c.canonical = "java.lang.String" := beq_iff_eq.mp text
          have own : NamesClass "java.lang.String" c := named ▸ names.canonical
          have implicit : "String" ∈ implicitClasses := by decide
          have other : NamesClass "java.lang.String" ⟨javaLang, "String", []⟩ :=
            namesClass_implicit implicit
          have same := own.resolveClass_eq.symm.trans other.resolveClass_eq
          rw [Except.ok.inj same, string, ofClass]

end ValueType

/-! ### The table -/

/-- The values that can be declared as the default of a field of a type, and the literals that they
are in code. -/
inductive Json.Value.StandsFor : Json.Value → ValueType → Literal → Prop where
  | boolean (value : Bool) : StandsFor (.boolean value) (.primitive .boolean) (.boolean value)
  /-- A whole number within the range of an integral type. -/
  | integral {value least greatest : Int} {p : Primitive} :
      p.range? = some (least, greatest) → least ≤ value → value ≤ greatest →
      StandsFor (.integer value) (.primitive p) (.integer value p)
  /-- A whole number of any size where fractions are expected. -/
  | whole (value : Int) {p : Primitive} : p.isFloating = true →
      StandsFor (.integer value) (.primitive p) (.float (Number.Binary64.ofInt value) p)
  | fraction (value : Number.Binary64) {p : Primitive} : p.isFloating = true →
      StandsFor (.float value) (.primitive p) (.float value p)
  | text (value : String) : StandsFor (.text value) .string (.text value)

/-- A value stands for one literal of a type. -/
theorem Json.Value.StandsFor.unique {value : Json.Value} {t : ValueType} {l l' : Literal}
    (first : value.StandsFor t l) (second : value.StandsFor t l') : l = l' := by
  have apart : ∀ {p : Primitive} {range}, p.range? = some range → p.isFloating ≠ true := by
    intro p range
    cases p <;> simp [Primitive.range?, Primitive.isFloating]
  cases first <;> cases second <;> first | rfl | (exfalso; exact apart ‹_› ‹_›)

namespace Default

variable {t : ValueType}

theorem fits_boolean_iff {value : Bool} :
    (boolean value).fits t = true ↔ t = .primitive .boolean := by
  rw [← ValueType.primitive?_eq_some_iff]
  unfold fits
  split <;> simp_all

theorem fits_integer_iff {value : Int} : (integer value).fits t = true ↔
    ∃ p, t = .primitive p ∧ (p.isFloating = true ∨ p.holds value = true) := by
  simp only [← ValueType.primitive?_eq_some_iff]
  unfold fits
  cases t.primitive? <;> simp

theorem fits_float_iff {value : Number.Binary64} : (float value).fits t = true ↔
    ∃ p, t = .primitive p ∧ p.isFloating = true := by
  simp only [← ValueType.primitive?_eq_some_iff]
  unfold fits
  cases t.primitive? <;> simp

theorem fits_text_iff {value : String} : (text value).fits t = true ↔ t.isString = true := by
  cases t <;> simp [fits, ValueType.primitive?, ValueType.isString]

end Default

namespace FieldEntry

variable {e : FieldEntry} {position : Nat} {value : Json.Value} {t : ValueType} {l : Literal}
  {f : Field}

/-- **The three conversions of a default are the table**: what can be read as a default, fits the
type and is then written as a literal. -/
theorem exists_toDefault_iff (legible : t.Legible) :
    (∃ d, e.toDefault value = .ok d ∧ d.fits t = true ∧ SavedState.defaultLiteral d t = l) ↔
      value.StandsFor t l := by
  constructor
  · rintro ⟨d, read, fits, rfl⟩
    cases value with
    | null | list | object => exact nomatch read
    | boolean b =>
        obtain rfl := Except.ok.inj read
        obtain rfl := Default.fits_boolean_iff.mp fits
        exact .boolean b
    | integer n =>
        obtain rfl := Except.ok.inj read
        split at fits
        · rename_i small
          obtain ⟨p, rfl, floating | inside⟩ := Default.fits_integer_iff.mp fits
          · rw [if_pos small]
            simp only [SavedState.defaultLiteral, ValueType.primitive?, if_pos floating]
            exact .whole n floating
          · obtain ⟨least, greatest, range, lower, upper⟩ := Primitive.holds_iff.mp inside
            rw [if_pos small]
            simp only [SavedState.defaultLiteral, ValueType.primitive?,
              Primitive.isFloating_eq_false_of_holds inside]
            exact .integral range lower upper
        · rename_i large
          obtain ⟨p, rfl, floating⟩ := Default.fits_float_iff.mp fits
          rw [if_neg large]
          exact .whole n floating
    | float x =>
        obtain rfl := Except.ok.inj read
        obtain ⟨p, rfl, floating⟩ := Default.fits_float_iff.mp fits
        exact .fraction x floating
    | text s =>
        obtain rfl := Except.ok.inj read
        obtain rfl := legible.eq_string (Default.fits_text_iff.mp fits)
        exact .text s
  · intro stands
    cases stands with
    | boolean b => exact ⟨.boolean b, rfl, rfl, rfl⟩
    | @integral n least greatest p range lower upper =>
        have inside := Primitive.holds_iff.mpr ⟨least, greatest, range, lower, upper⟩
        refine ⟨.integer n, ?_, Default.fits_integer_iff.mpr ⟨p, rfl, Or.inr inside⟩, ?_⟩
        · rw [toDefault, if_pos (Primitive.long_holds_of_holds inside)]
        · simp [SavedState.defaultLiteral, ValueType.primitive?,
            Primitive.isFloating_eq_false_of_holds inside]
    | @whole n p floating =>
        by_cases small : Primitive.long.holds n = true
        · refine ⟨.integer n, ?_, Default.fits_integer_iff.mpr ⟨p, rfl, Or.inl floating⟩, ?_⟩
          · rw [toDefault, if_pos small]
          · simp [SavedState.defaultLiteral, ValueType.primitive?, floating]
        · refine ⟨.float (Number.Binary64.ofInt n), ?_,
            Default.fits_float_iff.mpr ⟨p, rfl, floating⟩, rfl⟩
          rw [toDefault, if_neg small]
    | @fraction x p floating =>
        exact ⟨.float x, rfl, Default.fits_float_iff.mpr ⟨p, rfl, floating⟩, rfl⟩
    | text s => exact ⟨.text s, rfl, Default.fits_text_iff.mpr (by decide), rfl⟩

end FieldEntry

/-! ### Declared fields -/

namespace Field

variable {f g : Field} {d : Default}

theorem type_of_make {name : String} {type : ValueType} {required : Bool} {order : Nat}
    (made : make name type required order = .ok f) : f.type = type ∧ f.default = none := by
  unfold make at made
  split_ifs at made
  rw [← Except.ok.inj made]
  exact ⟨rfl, rfl⟩

/-- An optional field takes the defaults that fit its type, and is the same field otherwise. -/
theorem withDefault_eq_ok_iff : f.withDefault d = .ok g ↔
    f.required = false ∧ d.fits f.type = true ∧
      ∃ defaultFits, g = { f with default := some d, defaultFits } := by
  unfold withDefault
  split_ifs with required fits
  · simp [required]
  · constructor
    · intro made
      exact ⟨by simpa using required, fits, _, (Except.ok.inj made).symm⟩
    · rintro ⟨-, -, _, rfl⟩
      rfl
  · simp [fits]

end Field

namespace FieldEntry

variable {e : FieldEntry} {position : Nat} {value : Json.Value} {f : Field}

/-- The same declaration without a default. -/
def plain (e : FieldEntry) : FieldEntry :=
  { e with default := none }

theorem toField_of_none (undeclared : e.default = none) :
    e.toField position = e.toPlainField position := by
  unfold toField
  rw [undeclared]
  cases e.toPlainField position <;> rfl

theorem toField_plain : e.plain.toField position = e.toPlainField position :=
  toField_of_none rfl

theorem toField_eq_ok_iff (declared : e.default = some value) :
    e.toField position = .ok f ↔ ∃ plain d, e.toPlainField position = .ok plain ∧
      e.toDefault value = .ok d ∧ plain.withDefault d = .ok f := by
  unfold toField
  simp only [declared, bind_eq_ok_iff]
  constructor
  · rintro ⟨plain, made, d, read, given⟩
    exact ⟨plain, d, made, read, given⟩
  · rintro ⟨plain, d, made, read, given⟩
    exact ⟨plain, made, d, read, given⟩

theorem toPlainField_eq_ok (made : e.toPlainField position = .ok f) :
    ValueType.parse e.typeText = .ok f.type ∧ f.default = none := by
  unfold toPlainField at made
  split at made
  · rename_i type read
    obtain ⟨same, none⟩ := Field.type_of_make made
    exact ⟨same ▸ read, none⟩
  · exact nomatch made

theorem parse_of_toField (made : e.toField position = .ok f) :
    ValueType.parse e.typeText = .ok f.type := by
  cases declared : e.default with
  | none => exact (toPlainField_eq_ok (toField_of_none declared ▸ made)).1
  | some value =>
      obtain ⟨plain, d, taken, -, given⟩ := (toField_eq_ok_iff declared).mp made
      obtain ⟨-, -, _, rfl⟩ := Field.withDefault_eq_ok_iff.mp given
      exact (toPlainField_eq_ok taken).1

/-- A default is taken exactly if the field is optional and the value stands for a literal of its
type. -/
theorem exists_toField_iff (declared : e.default = some value) :
    (∃ f, e.toField position = .ok f) ↔ ∃ plain l, e.toPlainField position = .ok plain ∧
      plain.required = false ∧ value.StandsFor plain.type l := by
  simp only [toField_eq_ok_iff declared, Field.withDefault_eq_ok_iff]
  constructor
  · rintro ⟨f, plain, d, made, read, optional, fits, -⟩
    have legible := ValueType.legible_of_parse (toPlainField_eq_ok made).1
    exact ⟨plain, _, made, optional, (exists_toDefault_iff legible).mp ⟨d, read, fits, rfl⟩⟩
  · rintro ⟨plain, l, made, optional, stands⟩
    have legible := ValueType.legible_of_parse (toPlainField_eq_ok made).1
    obtain ⟨d, read, fits, -⟩ := (exists_toDefault_iff (e := e) legible).mpr stands
    have defaultFits : ∀ d' ∈ some d, plain.required = false ∧ d'.fits plain.type = true := by
      rintro d' ⟨⟩
      exact ⟨optional, fits⟩
    exact ⟨_, plain, d, made, read, optional, fits, defaultFits, rfl⟩

/-- The default of a field is the one that was declared, as a literal of its type. -/
theorem exists_default_iff (made : e.toField position = .ok f) {l : Literal} :
    (∃ d, f.default = some d ∧ SavedState.defaultLiteral d f.type = l) ↔
      ∃ value, e.default = some value ∧ value.StandsFor f.type l := by
  have legible := ValueType.legible_of_parse (parse_of_toField made)
  cases declared : e.default with
  | none => simp [(toPlainField_eq_ok (toField_of_none declared ▸ made)).2]
  | some value =>
      obtain ⟨plain, d, -, read, given⟩ := (toField_eq_ok_iff declared).mp made
      obtain ⟨-, fits, _, rfl⟩ := Field.withDefault_eq_ok_iff.mp given
      constructor
      · rintro ⟨d', same, written⟩
        obtain rfl := Option.some.inj same
        exact ⟨value, rfl, (exists_toDefault_iff legible).mp ⟨d, read, fits, written⟩⟩
      · rintro ⟨value', same, stands⟩
        obtain rfl := Option.some.inj same
        obtain ⟨d', read', -, written⟩ := (exists_toDefault_iff (e := e) legible).mpr stands
        obtain rfl := Except.ok.inj (read.symm.trans read')
        exact ⟨d, rfl, written⟩

end FieldEntry

/-! ### What `inject` falls back on -/

/-- The key that is read and the literal for when there is nothing under it. -/
def Expr.fallback? : Expr → Option (String × Literal)
  | .singletonCall _ _ _ [_, .literal (.text key), .literal value] => some (key, value)
  | _ => none

mutual

/-- The literals that a statement falls back on, each with its key. -/
def Statement.fallbacks : Statement → List (String × Literal)
  | .run _ => []
  | .declare _ _ _ init => init.fallback?.toList
  | .assign _ _ => []
  | .branch _ yes no => Statement.fallbacksOf yes ++ Statement.fallbacksOf no

/-- The literals that the statements of a list fall back on. -/
def Statement.fallbacksOf : List Statement → List (String × Literal)
  | [] => []
  | s :: rest => Statement.fallbacks s ++ Statement.fallbacksOf rest

end

namespace SavedState

variable {owner : Owner} {fields : List Field}

theorem fallbacksOf_append (statements others : List Statement) :
    Statement.fallbacksOf (statements ++ others)
      = Statement.fallbacksOf statements ++ Statement.fallbacksOf others := by
  induction statements with
  | nil => rfl
  | cons s rest ih =>
      rw [List.cons_append, Statement.fallbacksOf, Statement.fallbacksOf, ih, List.append_assoc]

theorem fallbacksOf_readField (runtime : Runtime) (f : Field) :
    Statement.fallbacksOf (readField runtime f)
      = (f.default.map fun d => (f.name, defaultLiteral d f.type)).toList := by
  unfold readField
  cases f.default with
  | none => rfl
  | some d => rfl

theorem fallbacksOf_readFields (runtime : Runtime) (fields : List Field) :
    Statement.fallbacksOf (fields.flatMap (readField runtime))
      = fields.filterMap fun f => f.default.map fun d => (f.name, defaultLiteral d f.type) := by
  induction fields with
  | nil => rfl
  | cons f rest ih =>
      rw [List.flatMap_cons, fallbacksOf_append, fallbacksOf_readField, ih, List.filterMap_cons]
      cases f.default <;> rfl

/-- **`inject` falls back on the defaults of its fields**, each for the key of its field. -/
theorem fallbacksOf_inject : Statement.fallbacksOf (inject owner fields).body
    = fields.filterMap fun f => f.default.map fun d => (f.name, defaultLiteral d f.type) := by
  rw [← fallbacksOf_readFields owner.runtime]
  cases fields with
  | nil => rfl
  | cons f rest =>
      simp [inject, guarded, Statement.fallbacksOf, Statement.fallbacks, Expr.fallback?]

/-- Fields with names of their own fall back on their own defaults. -/
theorem mem_fallbacksOf_inject_iff {f : Field} {l : Literal} (member : f ∈ fields)
    (distinct : (fields.map (·.name)).Nodup) :
    (f.name, l) ∈ Statement.fallbacksOf (inject owner fields).body ↔
      ∃ d, f.default = some d ∧ defaultLiteral d f.type = l := by
  rw [fallbacksOf_inject, List.mem_filterMap]
  constructor
  · rintro ⟨g, hg, given⟩
    obtain ⟨d, default, same⟩ := Option.map_eq_some_iff.mp given
    obtain ⟨named, rfl⟩ := Prod.mk.inj same
    have same : g = f := List.inj_on_of_nodup_map distinct hg member named
    exact ⟨d, same ▸ default, by rw [same]⟩
  · rintro ⟨d, default, rfl⟩
    exact ⟨f, member, by rw [default]; rfl⟩

end SavedState

/-- A number is the default of a field of a primitive type only. -/
theorem Field.isPrimitive_of_default {f : Field} {d : Default} (default : f.default = some d) :
    f.type.isPrimitive = true ∨ ∃ text, d = .text text := by
  have fits := (f.defaultFits d default).2
  cases d with
  | boolean value =>
      rw [Default.fits_boolean_iff.mp fits]
      exact Or.inl rfl
  | integer value =>
      obtain ⟨p, primitive, -⟩ := Default.fits_integer_iff.mp fits
      rw [primitive]
      exact Or.inl rfl
  | float value =>
      obtain ⟨p, primitive, -⟩ := Default.fits_float_iff.mp fits
      rw [primitive]
      exact Or.inl rfl
  | text value => exact Or.inr ⟨value, rfl⟩

/-- **Defaults are well typed.** A declaration with a default is accepted exactly if it is accepted
without it, as an optional field, and the default stands for a literal of the field's type, which is
then the only one; so required fields and fields of other types have none. For the key of an
accepted field `inject` falls back on that literal and on no other, and on nothing if no default was
declared. Only texts are defaults of fields whose type is not primitive. -/
theorem FieldEntry.toField_defaults (e : FieldEntry) (position : Nat) :
    (∀ value, e.default = some value →
      ((∃ f, e.toField position = .ok f) ↔ ∃ plain l, e.plain.toField position = .ok plain ∧
        plain.required = false ∧ value.StandsFor plain.type l)) ∧
      ∀ f, e.toField position = .ok f →
        ValueType.parse e.typeText = .ok f.type ∧
        (∀ value, e.default = some value →
          f.required = false ∧ ∃! l, value.StandsFor f.type l) ∧
        (∀ owner fields, f ∈ fields → (fields.map (·.name)).Nodup → ∀ l,
          (f.name, l) ∈ Statement.fallbacksOf (SavedState.inject owner fields).body ↔
            ∃ value, e.default = some value ∧ value.StandsFor f.type l) ∧
        ∀ d, f.default = some d → f.type.isPrimitive = true ∨ ∃ text, d = .text text := by
  constructor
  · intro value declared
    rw [exists_toField_iff declared]
    simp only [toField_plain]
  · intro f made
    refine ⟨parse_of_toField made, ?_, ?_, fun d => Field.isPrimitive_of_default⟩
    · intro value declared
      obtain ⟨plain, d, -, -, given⟩ := (toField_eq_ok_iff declared).mp made
      obtain ⟨optional, -, _, rfl⟩ := Field.withDefault_eq_ok_iff.mp given
      obtain ⟨value', same, stands⟩ := (exists_default_iff made).mp ⟨d, rfl, rfl⟩
      obtain rfl := Option.some.inj (declared.symm.trans same)
      exact ⟨optional, _, stands, fun l other => other.unique stands⟩
    · intro owner fields member distinct l
      rw [SavedState.mem_fallbacksOf_inject_iff member distinct, exists_default_iff made]

/-- The range of a type is the limit, and fractions are no whole numbers. -/
example :
    let accepted (type : String) (value : Json.Value) : Bool :=
      let e : FieldEntry :=
        { owner := "com.example.Editor", name := "level", typeText := type, required := false,
          default := some value }
      (e.toField 0).toOption.isSome
    accepted "byte" (.integer (-128)) ∧ ¬accepted "byte" (.integer 128) ∧
      ¬accepted "long" (.float (.ofInt 1)) ∧ accepted "float" (.integer 1) ∧
      ¬accepted "Integer" (.integer 1) := by
  decide +kernel

end Companions
