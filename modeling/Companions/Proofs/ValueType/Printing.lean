import Companions.Proofs.ValueType.Reading

/-!
Types in their own notation.

The types that can be read are `Legible`: all their classes go by names of the grammar. Their
notation writes every class with its package, also where it was read by its bare name, and is itself
written as the grammar demands (`Legible.written_text`). So a type that was read can be read again
from its notation, and the notation tells types apart (`parse_text`).
-/

namespace Companions.ValueType

open Text (Blanks)

/-! ### The types that can be read -/

/-- Every class in the type goes by a name of the grammar. -/
inductive Legible : ValueType → Prop where
  | primitive (p : Primitive) : Legible (.primitive p)
  | declared {name : String} {c : ClassName} {arguments : List ValueType} :
      NamesClass name c → (∀ argument ∈ arguments, Legible argument) →
      Legible (.declared c arguments)
  | array {t : ValueType} : Legible t → Legible (.array t)

mutual

theorem WrittenBase.legible : ∀ {text : List Char} {t : ValueType}, WrittenBase text t → Legible t
  | _, _, .primitive p => .primitive p
  | _, _, .plain names => .declared names nofun
  | _, _, .generic names _ list _ => .declared names list.legible

theorem Written.legible : ∀ {text : List Char} {t : ValueType}, Written text t → Legible t
  | _, _, .base _ written => written.legible
  | _, _, .array written _ => .array written.legible

theorem WrittenList.legible : ∀ {text : List Char} {arguments : List ValueType},
    WrittenList text arguments → ∀ argument ∈ arguments, Legible argument
  | _, _, .single written => List.forall_mem_singleton.mpr written.legible
  | _, _, .more written _ list => List.forall_mem_cons.mpr ⟨written.legible, list.legible⟩

end

theorem legible_of_parse {descriptor : String} {t : ValueType}
    (read : parse descriptor = .ok t) : Legible t := by
  obtain ⟨text, gap, -, written, -⟩ := parse_eq_ok_iff_spells.mp read
  exact written.legible

/-- The box of a primitive type goes by its bare name. -/
theorem Legible.boxed {t : ValueType} (legible : Legible t) : Legible t.boxed := by
  cases legible with
  | primitive p =>
      have implicit : p.boxedName ∈ implicitClasses := by cases p <;> decide
      have notPrimitive : ∀ q : Primitive, q.name ≠ p.boxedName := by
        intro q
        cases q <;> cases p <;> decide
      have names : NamesClass p.boxedName ⟨javaLang, p.boxedName, []⟩ :=
        ⟨dotted_of_mem_implicitClasses implicit, notPrimitive, Or.inl ⟨implicit, rfl⟩⟩
      exact .declared names nofun
  | declared names arguments => exact .declared names arguments
  | array element => exact .array element

/-! ### The notation is written -/

/-- The classes with bare names can be named with their package as well. -/
theorem namesClass_implicit {name : String} (implicit : name ∈ implicitClasses) :
    NamesClass (ClassName.canonical ⟨javaLang, name, []⟩) ⟨javaLang, name, []⟩ := by
  have spelled : ∀ name ∈ implicitClasses,
      let spelling := ClassName.canonical ⟨javaLang, name, []⟩
      Primitive.ofName? spelling = none ∧ spelling ∉ implicitClasses ∧
        (∀ part ∈ ClassName.segments spelling.toList, ClassName.isSegment part = true) ∧
        ClassName.ofSegments [] (ClassName.segments spelling.toList)
          = some ⟨javaLang, name, []⟩ := by
    decide +kernel
  obtain ⟨notPrimitive, explicit, identifiers, found⟩ := spelled name implicit
  have dotted := ClassName.dotted_iff.mpr fun part hpart =>
    ClassName.isSegment_iff.mp (identifiers part hpart)
  exact ⟨dotted, ofName?_eq_none_iff.mp notPrimitive,
    Or.inr ⟨explicit, ClassName.parse_eq_ok_iff.mpr ⟨dotted, found⟩⟩⟩

/-- A class that has a name is named by its canonical name. -/
theorem NamesClass.canonical {name : String} {c : ClassName} (names : NamesClass name c) :
    NamesClass c.canonical c := by
  rcases names.resolved with ⟨implicit, rfl⟩ | ⟨explicit, read⟩
  · exact namesClass_implicit implicit
  · rw [ClassName.canonical_of_parse read]
    exact names

variable {text gap : List Char} {t : ValueType}

/-- Blanks may be put before a type. -/
theorem Written.indent : ∀ {text : List Char} {t : ValueType}, Written text t → Blanks gap →
    Written (gap ++ text) t
  | _, _, .base inner written, blanks => by
      rw [← List.append_assoc]
      exact .base (blanks.append inner) written
  | _, _, .array written inner, blanks => by
      rw [← List.append_assoc, ← List.append_assoc]
      exact .array (written.indent blanks) inner

theorem WrittenList.indent {arguments : List ValueType} (list : WrittenList text arguments)
    (blanks : Blanks gap) : WrittenList (gap ++ text) arguments := by
  cases list with
  | single written => exact .single (written.indent blanks)
  | more written inner list =>
      rw [← List.append_assoc, ← List.append_assoc]
      exact .more (written.indent blanks) inner list

theorem WrittenBase.written (base : WrittenBase text t) : Written text t :=
  .base Text.blanks_nil base

theorem writtenList_texts {first : ValueType} {others : List ValueType}
    (written : ∀ argument ∈ first :: others, Written argument.text.toList argument) :
    WrittenList (joined ", " (texts (first :: others))).toList (first :: others) := by
  induction others generalizing first with
  | nil => exact .single (written first List.mem_cons_self)
  | cons next others ih =>
      obtain ⟨head, tail⟩ := List.forall_mem_cons.mp written
      have space : Blanks [' '] := by
        intro c hc
        rw [List.mem_singleton.mp hc]
        decide
      have list := WrittenList.more head Text.blanks_nil ((ih tail).indent space)
      have split : (joined ", " (texts (first :: next :: others))).toList
          = first.text.toList ++ [] ++ ',' :: ([' '] ++
            (joined ", " (texts (next :: others))).toList) := by
        simp [joined, texts, String.intercalate_cons_cons]
      rw [split]
      exact list

/-- **The notation of a type is one of the ways to write it.** -/
theorem Legible.written_text {t : ValueType} (legible : Legible t) : Written t.text.toList t := by
  induction legible with
  | primitive p =>
      rw [ValueType.text]
      exact (WrittenBase.primitive p).written
  | @declared name c arguments names _ ih =>
      cases arguments with
      | nil =>
          simp only [ValueType.text, List.isEmpty_nil, if_true]
          exact (WrittenBase.plain names.canonical).written
      | cons first others =>
          have list := writtenList_texts ih
          have base := WrittenBase.generic names.canonical Text.blanks_nil list Text.blanks_nil
          have split : (ValueType.declared c (first :: others)).text.toList
              = c.canonical.toList ++ []
                ++ '<' :: ((joined ", " (texts (first :: others))).toList ++ [] ++ ['>']) := by
            rw [ValueType.text, if_neg (by simp)]
            simp
          rw [split]
          exact base.written
  | @array t _ ih =>
      have split : (ValueType.array t).text.toList = t.text.toList ++ [] ++ ['[', ']'] := by
        rw [ValueType.text]
        simp
      rw [split]
      exact .array ih Text.blanks_nil

/-! ### Nothing to trim -/

theorem exists_last_of_dotted {name : List Char} (dotted : ClassName.Dotted name) :
    ∃ front last, name = front ++ [last] ∧ Text.isBlank last = false := by
  obtain ⟨first, rest, split, -⟩ := dotted.exists_cons
  have filled : name ≠ [] := by simp [split]
  refine ⟨name.dropLast, name.getLast filled, (List.dropLast_concat_getLast filled).symm, ?_⟩
  have part := dotted.isSegmentPart_or (List.getLast_mem filled)
  exact isBlank_of_isNamePart (by simpa [isNamePart] using part)

theorem WrittenBase.exists_last (base : WrittenBase text t) :
    ∃ front last, text = front ++ [last] ∧ Text.isBlank last = false := by
  cases base with
  | primitive p => exact exists_last_of_dotted (dotted_primitive p)
  | plain names => exact exists_last_of_dotted names.dotted
  | @generic name c before inside after _ names =>
      exact ⟨name.toList ++ before ++ '<' :: (inside ++ after), '>', by simp, by decide⟩

/-- No type ends with a blank. -/
theorem Written.exists_last (written : Written text t) :
    ∃ front last, text = front ++ [last] ∧ Text.isBlank last = false := by
  cases written with
  | @base gap _ _ _ base =>
      obtain ⟨front, last, rfl, filled⟩ := base.exists_last
      exact ⟨gap ++ front, last, by simp, filled⟩
  | @array text gap => exact ⟨text ++ gap ++ ['['], ']', by simp, by decide⟩

/-- No notation starts with a blank, since it starts with a name. -/
theorem Legible.exists_first {t : ValueType} (legible : Legible t) :
    ∃ first rest, t.text.toList = first :: rest ∧ Text.isBlank first = false := by
  have start : ∀ {name : List Char}, ClassName.Dotted name →
      ∃ first rest, name = first :: rest ∧ Text.isBlank first = false := by
    intro name dotted
    obtain ⟨first, rest, split, start⟩ := dotted.exists_cons
    exact ⟨first, rest, split, isBlank_of_isNamePart (isNamePart_of_isSegmentStart start)⟩
  induction legible with
  | primitive p => exact start (dotted_primitive p)
  | @declared name c arguments names _ _ =>
      obtain ⟨first, rest, split, filled⟩ := start names.canonical.dotted
      rw [ValueType.text]
      split
      · exact ⟨first, rest, split, filled⟩
      · exact ⟨first, rest ++ ("<" ++ joined ", " (texts arguments) ++ ">").toList,
          by simp [split], filled⟩
  | array _ ih =>
      obtain ⟨first, rest, split, filled⟩ := ih
      exact ⟨first, rest ++ ['[', ']'], by simp [ValueType.text, split], filled⟩

theorem Legible.trim_text {t : ValueType} (legible : Legible t) :
    Text.trim t.text.toList = t.text.toList := by
  obtain ⟨first, rest, start, filledFirst⟩ := legible.exists_first
  obtain ⟨front, last, stop, filledLast⟩ := legible.written_text.exists_last
  exact Text.trim_eq_self start stop filledFirst filledLast

/-- A type that can be read is read from its notation. -/
theorem Legible.parse_eq {t : ValueType} (legible : Legible t) : parse t.text = .ok t := by
  rw [parse_eq_ok_iff_spells, legible.trim_text]
  exact ⟨t.text.toList, [], (List.append_nil _).symm, legible.written_text, Text.blanks_nil⟩

/-- Notations tell types that can be read apart. -/
theorem Legible.eq_of_text_eq {t t' : ValueType} (legible : Legible t) (legible' : Legible t')
    (same : t.text = t'.text) : t = t' := by
  have read := legible.parse_eq
  rw [same, legible'.parse_eq] at read
  exact (Except.ok.inj read).symm

/-- **Printing undoes reading.** A type that was read is read again from its notation, and its box
from the notation of the box; and two types that were read, or their boxes, with the same notation
are the same. -/
theorem parse_text {descriptor : String} {t : ValueType} (read : parse descriptor = .ok t) :
    parse t.text = .ok t ∧ parse t.boxed.text = .ok t.boxed ∧
      ∀ (descriptor' : String) (t' : ValueType), parse descriptor' = .ok t' →
        (t.text = t'.text → t = t') ∧ (t.boxed.text = t'.boxed.text → t.boxed = t'.boxed) := by
  have legible := legible_of_parse read
  refine ⟨legible.parse_eq, legible.boxed.parse_eq, ?_⟩
  intro descriptor' t' read'
  have legible' := legible_of_parse read'
  constructor
  · intro same
    exact legible.eq_of_text_eq legible' same
  · intro same
    exact legible.boxed.eq_of_text_eq legible'.boxed same

/-- A type by two spellings, one with the bare name of a class of `java.lang`. -/
theorem parse_text_map :
    ∃ t t', parse "java.util.Map<int[],String>" = .ok t ∧
      parse " java.util.Map < int[] , java.lang.String > " = .ok t' ∧
      t.text = "java.util.Map<int[], java.lang.String>" ∧ parse t.text = .ok t ∧ t = t' := by
  have shown : (parse "java.util.Map<int[],String>").toOption.map text
      = some "java.util.Map<int[], java.lang.String>" := by decide +kernel
  have shown' : (parse " java.util.Map < int[] , java.lang.String > ").toOption.map text
      = some "java.util.Map<int[], java.lang.String>" := by decide +kernel
  cases read : parse "java.util.Map<int[],String>" with
  | error error => simp [read, Except.toOption] at shown
  | ok t =>
  cases read' : parse " java.util.Map < int[] , java.lang.String > " with
  | error error => simp [read', Except.toOption] at shown'
  | ok t' =>
      simp only [read, read', Except.toOption, Option.map_some, Option.some.injEq] at shown shown'
      obtain ⟨again, -, apart⟩ := parse_text read
      have same : t = t' := (apart _ t' read').1 (shown.trans shown'.symm)
      exact ⟨t, t', rfl, rfl, shown, again, same⟩

end Companions.ValueType
