import Companions.Proofs.Failure
import Companions.Proofs.ValueType.Grammar

/-!
The reader of types against the grammar.

* `readType_budget`: a budget above twice the length is never used up, so the answer does not depend
  on it, whether the text is accepted or not; and `readType_of_le`: a larger budget keeps any answer
  but that the text ended;
* `written_of_readType`: what was read is a type of the grammar, and blanks after it;
* `Written.readAs`: a type of the grammar is read as its value, whatever follows, as long as that
  does not go on with a name or open type arguments.

`parse_grammar` puts them together: the reader accepts the texts of the grammar and no others.
-/

namespace Companions.ValueType

open Text (Blanks trimStart)

/-! ### What one step reads -/

section Steps

variable {budget : Nat} {text after inside rest : List Char} {name : String} {c : ClassName}
  {t : ValueType} {arguments : List ValueType}

/-- What a type that was read consists of: a name, perhaps type arguments, and the pairs `[]`. -/
theorem readType_eq_ok (read : readType (budget + 1) text = .ok (t, rest)) :
    ∃ name after base beyond, readName (trimStart text) = .ok (name, after) ∧
      readArrays base beyond = .ok (t, rest) ∧
      (plainType name = .ok base ∧ (∀ inside, trimStart after ≠ '<' :: inside) ∧
          beyond = trimStart after ∨
        ∃ inside c arguments, trimStart after = '<' :: inside ∧
          Primitive.ofName? name = none ∧ readArguments budget inside = .ok (arguments, beyond) ∧
          resolveClass name = .ok c ∧ base = .declared c arguments) := by
  rw [readType] at read
  obtain ⟨⟨name, after⟩, named, read⟩ := bind_eq_ok_iff.mp read
  simp only at read
  refine ⟨name, after, ?_⟩
  split at read
  · rename_i left
    obtain ⟨base, plain, arrays⟩ := bind_eq_ok_iff.mp read
    refine ⟨base, [], named, arrays, Or.inl ⟨plain, ?_, left.symm⟩⟩
    rw [left]
    exact nofun
  · rename_i first inside left
    split at read
    · rename_i opened
      subst opened
      split at read
      · exact nomatch read
      · rename_i notPrimitive
        obtain ⟨⟨arguments, beyond⟩, taken, read⟩ := bind_eq_ok_iff.mp read
        obtain ⟨c, resolved, arrays⟩ := bind_eq_ok_iff.mp read
        refine ⟨.declared c arguments, beyond, named, arrays, Or.inr ?_⟩
        exact ⟨inside, c, arguments, left, by simpa using notPrimitive, taken, resolved, rfl⟩
    · rename_i other
      obtain ⟨base, plain, arrays⟩ := bind_eq_ok_iff.mp read
      refine ⟨base, first :: inside, named, arrays, Or.inl ⟨plain, ?_, left.symm⟩⟩
      rw [left]
      exact fun more same => other (List.cons.inj same).1

/-- What a list of arguments that was read consists of: a type, and the end or further ones. -/
theorem readArguments_eq_ok (read : readArguments (budget + 1) text = .ok (arguments, rest)) :
    ∃ first after, readType budget text = .ok (first, after) ∧
      (trimStart after = '>' :: rest ∧ arguments = [first] ∨
        ∃ inside others, trimStart after = ',' :: inside ∧
          readArguments budget inside = .ok (others, rest) ∧ arguments = first :: others) := by
  rw [readArguments] at read
  obtain ⟨⟨first, after⟩, taken, read⟩ := bind_eq_ok_iff.mp read
  simp only at read
  refine ⟨first, after, taken, ?_⟩
  split at read
  · exact nomatch read
  · rename_i next inside left
    split at read
    · rename_i comma
      subst comma
      obtain ⟨⟨others, beyond⟩, more, read⟩ := bind_eq_ok_iff.mp read
      simp only [Except.ok.injEq, Prod.mk.injEq] at read
      obtain ⟨rfl, rfl⟩ := read
      exact Or.inr ⟨inside, others, left, more, rfl⟩
    · split at read
      · rename_i closed
        subst closed
        simp only [Except.ok.injEq, Prod.mk.injEq] at read
        obtain ⟨rfl, rfl⟩ := read
        exact Or.inl ⟨left, rfl⟩
      · exact nomatch read

theorem readType_plain (named : readName (trimStart text) = .ok (name, after))
    (plain : plainType name = .ok t) (closed : ∀ inside, trimStart after ≠ '<' :: inside) :
    readType (budget + 1) text = readArrays t (trimStart after) := by
  rw [readType, named]
  simp only [bind, Except.bind, plain]
  cases left : trimStart after with
  | nil => rfl
  | cons first inside =>
      have other : first ≠ '<' := fun same => closed inside (same ▸ left)
      simp only [if_neg other]

theorem readType_generic (named : readName (trimStart text) = .ok (name, after))
    (opened : trimStart after = '<' :: inside) (notPrimitive : Primitive.ofName? name = none)
    (taken : readArguments budget inside = .ok (arguments, rest))
    (resolved : resolveClass name = .ok c) :
    readType (budget + 1) text = readArrays (.declared c arguments) rest := by
  rw [readType, named]
  simp [bind, Except.bind, opened, notPrimitive, taken, resolved]

theorem readArguments_last (taken : readType budget text = .ok (t, after))
    (closed : trimStart after = '>' :: rest) :
    readArguments (budget + 1) text = .ok ([t], rest) := by
  rw [readArguments, taken]
  simp [bind, Except.bind, closed]

theorem readArguments_more (taken : readType budget text = .ok (t, after))
    (comma : trimStart after = ',' :: inside)
    (more : readArguments budget inside = .ok (arguments, rest)) :
    readArguments (budget + 1) text = .ok (t :: arguments, rest) := by
  rw [readArguments, taken]
  simp [bind, Except.bind, comma, more]

end Steps

/-! ### What was read is written -/

section Soundness

variable {budget : Nat} {text rest : List Char} {name : String} {t : ValueType}

theorem readName_eq_ok (read : readName text = .ok (name, rest)) :
    text = name.toList ++ rest ∧ name ≠ "" := by
  cases text with
  | nil => exact nomatch read
  | cons c more =>
      rw [readName] at read
      split at read
      · simp only [Except.ok.injEq, Prod.mk.injEq] at read
        obtain ⟨rfl, rfl⟩ := read
        simp [List.takeWhile_append_dropWhile]
      · exact nomatch read

theorem writtenBase_of_plainType (plain : plainType name = .ok t) : WrittenBase name.toList t := by
  unfold plainType at plain
  cases keyword : Primitive.ofName? name with
  | some p =>
      simp only [keyword, Except.ok.injEq] at plain
      rw [← plain, ← ofName?_eq_some_iff.mp keyword]
      exact .primitive p
  | none =>
      simp only [keyword] at plain
      cases resolved : resolveClass name with
      | error trouble => simp [resolved, Except.map] at plain
      | ok c =>
          simp only [resolved, Except.map, Except.ok.injEq] at plain
          rw [← plain]
          exact .plain ((resolveClass_eq_ok_iff keyword).mp resolved)

/-- The pairs `[]` after a type belong to it, and so do the blanks before them. -/
theorem written_of_readArrays {used gap : List Char} {base : ValueType}
    (written : Written used base) (blanks : Blanks gap)
    (read : readArrays base text = .ok (t, rest)) :
    ∃ used' gap', used ++ gap ++ text = used' ++ gap' ++ rest ∧ Written used' t ∧
      Blanks gap' := by
  fun_induction readArrays base text generalizing used gap with
  | case1 base =>
      simp only [Except.ok.injEq, Prod.mk.injEq] at read
      obtain ⟨rfl, rfl⟩ := read
      exact ⟨used, gap, rfl, written, blanks⟩
  | case2 base c more blank ih =>
      have longer : Blanks (gap ++ [c]) := blanks.append (by simpa [Blanks] using blank)
      obtain ⟨used', gap', split, written', blanks'⟩ := ih written longer read
      exact ⟨used', gap', by rw [← split]; simp, written', blanks'⟩
  | case3 => exact nomatch read
  | case4 base more notBlank ih =>
      obtain ⟨used', gap', split, written', blanks'⟩ :=
        ih (.array written blanks) Text.blanks_nil read
      exact ⟨used', gap', by rw [← split]; simp, written', blanks'⟩
  | case5 => exact nomatch read
  | case6 base c more notBlank notBracket =>
      simp only [Except.ok.injEq, Prod.mk.injEq] at read
      obtain ⟨rfl, rfl⟩ := read
      exact ⟨used, gap, rfl, written, blanks⟩

mutual

/-- **A type that was read is written there**, with blanks after it. -/
theorem written_of_readType {budget : Nat} {text rest : List Char} {t : ValueType}
    (read : readType budget text = .ok (t, rest)) :
    ∃ used gap, text = used ++ gap ++ rest ∧ Written used t ∧ Blanks gap := by
  cases budget with
  | zero => exact nomatch read
  | succ budget =>
      obtain ⟨name, after, base, beyond, named, arrays, shape⟩ := readType_eq_ok read
      obtain ⟨front, blanksFront, split⟩ := Text.exists_blanks_trimStart text
      obtain ⟨gap, blanks, splitAfter⟩ := Text.exists_blanks_trimStart after
      obtain ⟨taken, -⟩ := readName_eq_ok named
      rcases shape with
        ⟨plain, -, rfl⟩ | ⟨inside, c, arguments, opened, keyword, read, resolved, rfl⟩
      · have written := Written.base blanksFront (writtenBase_of_plainType plain)
        obtain ⟨used, gap', whole, written, blanks'⟩ :=
          written_of_readArrays written blanks arrays
        refine ⟨used, gap', ?_, written, blanks'⟩
        rw [← whole, List.append_assoc, ← splitAfter, List.append_assoc, ← taken, ← split]
      · obtain ⟨items, gap', splitInside, list, blanks'⟩ := written_of_readArguments read
        have names := (resolveClass_eq_ok_iff keyword).mp resolved
        have written := Written.base blanksFront (.generic names blanks list blanks')
        obtain ⟨used, gap'', whole, written, blanks''⟩ :=
          written_of_readArrays written Text.blanks_nil arrays
        refine ⟨used, gap'', ?_, written, blanks''⟩
        rw [← whole, split, taken, splitAfter, opened, splitInside]
        simp

/-- Arguments that were read are written there, with blanks and the closing bracket after them. -/
theorem written_of_readArguments {budget : Nat} {text rest : List Char}
    {arguments : List ValueType} (read : readArguments budget text = .ok (arguments, rest)) :
    ∃ used gap, text = used ++ gap ++ '>' :: rest ∧ WrittenList used arguments ∧
      Blanks gap := by
  cases budget with
  | zero => exact nomatch read
  | succ budget =>
      obtain ⟨first, after, taken, shape⟩ := readArguments_eq_ok read
      obtain ⟨used, gap, split, written, blanks⟩ := written_of_readType taken
      obtain ⟨gap', blanks', splitAfter⟩ := Text.exists_blanks_trimStart after
      have between : Blanks (gap ++ gap') := blanks.append blanks'
      rcases shape with ⟨closed, rfl⟩ | ⟨inside, others, comma, more, rfl⟩
      · refine ⟨used, gap ++ gap', ?_, .single written, between⟩
        rw [split, splitAfter, closed]
        simp
      · obtain ⟨items, gap'', splitInside, list, blanks''⟩ := written_of_readArguments more
        refine ⟨used ++ (gap ++ gap') ++ ',' :: items, gap'', ?_, .more written between list,
          blanks''⟩
        rw [split, splitAfter, comma, splitInside]
        simp

end

end Soundness

/-! ### The budget -/

section Budget

variable {text rest : List Char}

theorem length_trimStart_le (text : List Char) : (trimStart text).length ≤ text.length :=
  (List.dropWhile_sublist Text.isBlank).length_le

theorem length_lt_of_readName {name : String} (read : readName text = .ok (name, rest)) :
    rest.length < text.length := by
  obtain ⟨split, named⟩ := readName_eq_ok read
  have filled : 0 < name.toList.length :=
    List.length_pos_iff.mpr (mt String.toList_eq_nil_iff.mp named)
  rw [split, List.length_append]
  omega

mutual

theorem WrittenBase.ne_nil {text : List Char} {t : ValueType} (written : WrittenBase text t) :
    text ≠ [] := by
  cases written with
  | primitive p => cases p <;> decide
  | plain names =>
      obtain ⟨first, more, split, -⟩ := names.dotted.exists_cons
      simp [split]
  | generic names => simp

theorem Written.ne_nil {text : List Char} {t : ValueType} (written : Written text t) :
    text ≠ [] := by
  cases written with
  | base _ written => simp [written.ne_nil]
  | array _ _ => simp

end

theorem length_lt_of_readType {budget : Nat} {t : ValueType}
    (read : readType budget text = .ok (t, rest)) : rest.length < text.length := by
  obtain ⟨used, gap, rfl, written, -⟩ := written_of_readType read
  have filled := List.length_pos_iff.mpr written.ne_nil
  simp only [List.length_append]
  omega

mutual

/-- **A budget above twice the length is never used up**: a larger one leads to the same answer. -/
theorem readType_budget {budget other : Nat} {text : List Char}
    (enough : 2 * text.length < budget) (enough' : 2 * text.length < other) :
    readType budget text = readType other text := by
  cases budget with
  | zero => omega
  | succ budget =>
  cases other with
  | zero => omega
  | succ other =>
      rw [readType, readType]
      cases named : readName (trimStart text) with
      | error trouble => rfl
      | ok taken =>
          obtain ⟨name, after⟩ := taken
          have shorter := length_lt_of_readName named
          have trimmed := length_trimStart_le text
          simp only [bind, Except.bind]
          cases left : trimStart after with
          | nil => rfl
          | cons first inside =>
              have inner := length_trimStart_le after
              rw [left, List.length_cons] at inner
              have same : readArguments budget inside = readArguments other inside :=
                readArguments_budget (by omega) (by omega)
              simp only [same]

theorem readArguments_budget {budget other : Nat} {text : List Char}
    (enough : 2 * text.length + 1 < budget) (enough' : 2 * text.length + 1 < other) :
    readArguments budget text = readArguments other text := by
  cases budget with
  | zero => omega
  | succ budget =>
  cases other with
  | zero => omega
  | succ other =>
      have first : readType budget text = readType other text :=
        readType_budget (by omega) (by omega)
      rw [readArguments, readArguments, first]
      cases taken : readType other text with
      | error trouble => rfl
      | ok taken' =>
          obtain ⟨t, after⟩ := taken'
          have shorter := length_lt_of_readType taken
          have trimmed := length_trimStart_le after
          simp only [bind, Except.bind]
          cases left : trimStart after with
          | nil => rfl
          | cons next inside =>
              rw [left, List.length_cons] at trimmed
              have same : readArguments budget inside = readArguments other inside :=
                readArguments_budget (by omega) (by omega)
              simp only [same]

end

mutual

/-- Unless the text seems to end, a step more makes no difference to the answer. -/
theorem readType_succ {budget : Nat} {text : List Char}
    (answered : readType budget text ≠ .error .endOfText) :
    readType (budget + 1) text = readType budget text := by
  cases budget with
  | zero => exact absurd (readType.eq_1 text) answered
  | succ budget =>
      rw [readType] at answered
      rw [readType, readType]
      cases named : readName (trimStart text) with
      | error trouble => rfl
      | ok taken =>
          obtain ⟨name, after⟩ := taken
          simp only [named, bind, Except.bind] at answered ⊢
          cases left : trimStart after with
          | nil => rfl
          | cons first inside =>
              simp only [left] at answered ⊢
              split
              · split
                · rfl
                · rename_i opened keyword
                  rw [if_pos opened, if_neg keyword] at answered
                  rw [readArguments_succ fun ended => answered (by rw [ended])]
              · rfl

theorem readArguments_succ {budget : Nat} {text : List Char}
    (answered : readArguments budget text ≠ .error .endOfText) :
    readArguments (budget + 1) text = readArguments budget text := by
  cases budget with
  | zero => exact absurd (readArguments.eq_1 text) answered
  | succ budget =>
      rw [readArguments] at answered
      rw [readArguments, readArguments]
      rw [readType_succ fun ended => answered (by rw [ended]; rfl)]
      cases taken : readType budget text with
      | error trouble => rfl
      | ok taken' =>
          obtain ⟨t, after⟩ := taken'
          simp only [taken, bind, Except.bind] at answered ⊢
          cases left : trimStart after with
          | nil => rfl
          | cons next inside =>
              simp only [left] at answered ⊢
              split
              · rename_i comma
                rw [if_pos comma] at answered
                rw [readArguments_succ fun ended => answered (by rw [ended])]
              · rfl

end

/-- **An answer stays as it is when the budget grows**, unless it is that the text ended. -/
theorem readType_of_le {budget other : Nat} (le : budget ≤ other)
    (answered : readType budget text ≠ .error .endOfText) :
    readType other text = readType budget text := by
  induction le with
  | refl => rfl
  | step _ ih => rw [readType_succ (ih ▸ answered), ih]

end Budget

/-! ### What is written is read -/

section Completeness

variable {text gap rest : List Char} {t : ValueType}

/-- What may follow a type: nothing that goes on with its name or opens type arguments. -/
structure Ends (rest : List Char) : Prop where
  name : ∀ c more, rest = c :: more → isNamePart c = false
  arguments : ∀ more, trimStart rest ≠ '<' :: more

theorem isNamePart_of_isBlank {c : Char} (blank : Text.isBlank c = true) :
    isNamePart c = false := by
  have letter := Text.isAlphanumeric_eq_false blank
  have others : c ≠ '_' ∧ c ≠ '$' ∧ c ≠ '.' := by
    refine ⟨?_, ?_, ?_⟩ <;> rintro rfl <;> exact absurd blank (by decide)
  simp [isNamePart, ClassName.isSegmentPart, letter, others]

theorem isBlank_of_isNamePart {c : Char} (part : isNamePart c = true) :
    Text.isBlank c = false := by
  cases blank : Text.isBlank c with
  | false => rfl
  | true =>
      rw [isNamePart_of_isBlank blank] at part
      exact part.symm

theorem isNamePart_of_isSegmentStart {c : Char} (start : ClassName.isSegmentStart c = true) :
    isNamePart c = true := by
  simp [isNamePart, ClassName.isSegmentPart_of_isSegmentStart start]

theorem ends_blanks (blanks : Blanks gap) : Ends gap where
  name c more split := isNamePart_of_isBlank (blanks c (split ▸ List.mem_cons_self))
  arguments more := by
    rw [Text.trimStart_of_blanks blanks]
    exact nofun

theorem notName_of_blanks_cons {c : Char} (blanks : Blanks gap) (notName : isNamePart c = false)
    (d : Char) (more : List Char) (split : gap ++ c :: rest = d :: more) :
    isNamePart d = false := by
  cases gap with
  | nil =>
      rw [← (List.cons.inj split).1]
      exact notName
  | cons first gap =>
      rw [← (List.cons.inj split).1]
      exact isNamePart_of_isBlank (blanks first List.mem_cons_self)

theorem ends_blanks_cons {c : Char} (blanks : Blanks gap) (notName : isNamePart c = false)
    (notBlank : Text.isBlank c = false) (other : c ≠ '<') : Ends (gap ++ c :: rest) where
  name := notName_of_blanks_cons blanks notName
  arguments more := by
    rw [Text.trimStart_blanks_append blanks, Text.trimStart_cons notBlank]
    exact fun same => other (List.cons.inj same).1

theorem readArrays_blank {c : Char} (blank : Text.isBlank c = true) :
    readArrays t (c :: rest) = readArrays t rest := by
  rw [readArrays.eq_def]
  exact if_pos blank

theorem readArrays_blanks (blanks : Blanks gap) :
    readArrays t (gap ++ rest) = readArrays t rest := by
  induction gap with
  | nil => rfl
  | cons c gap ih =>
      obtain ⟨blank, blanks⟩ := List.forall_mem_cons.mp blanks
      rw [List.cons_append, readArrays_blank blank, ih blanks]

theorem readArrays_of_blanks (blanks : Blanks gap) : readArrays t gap = .ok (t, []) := by
  rw [← List.append_nil gap, readArrays_blanks blanks, readArrays]

theorem readArrays_trimStart : readArrays t (trimStart text) = readArrays t text := by
  obtain ⟨gap, blanks, split⟩ := Text.exists_blanks_trimStart text
  conv => rhs; rw [split]
  exact (readArrays_blanks blanks).symm

/-- Behind a type, blanks and then a comma or a closing bracket stop the search for `[]`. -/
theorem readArrays_stop {c : Char} (blanks : Blanks gap) (notBlank : Text.isBlank c = false)
    (other : c ≠ '[') : readArrays t (gap ++ c :: rest) = .ok (t, c :: rest) := by
  rw [readArrays_blanks blanks, readArrays.eq_def]
  simp [notBlank, other]

theorem readArrays_pair : readArrays t ('[' :: ']' :: rest) = readArrays (.array t) rest := by
  rw [readArrays.eq_def]
  simp [show Text.isBlank '[' = false by decide]

/-- A dotted name is read to its end. -/
theorem readName_dotted {name : String} (dotted : ClassName.Dotted name.toList)
    (ends : ∀ c more, rest = c :: more → isNamePart c = false) :
    readName (name.toList ++ rest) = .ok (name, rest) := by
  obtain ⟨first, more, split, start⟩ := dotted.exists_cons
  have parts : ∀ c ∈ more, isNamePart c = true := by
    intro c hc
    have part := dotted.isSegmentPart_or (split ▸ List.mem_cons_of_mem first hc)
    simpa [isNamePart] using part
  have stop : rest.takeWhile isNamePart = [] ∧ rest.dropWhile isNamePart = rest := by
    cases rest with
    | nil => exact ⟨rfl, rfl⟩
    | cons c rest => simp [ends c rest rfl]
  rw [split, List.cons_append, readName, if_pos start,
    List.takeWhile_append_of_pos parts, List.dropWhile_append_of_pos parts, stop.1, stop.2,
    List.append_nil, ← split, String.ofList_toList]

theorem plainType_primitive (p : Primitive) : plainType p.name = .ok (.primitive p) := by
  have keyword := ofName?_eq_some_iff.mpr (rfl : p.name = p.name)
  rw [plainType, keyword]

theorem NamesClass.plainType_eq {name : String} {c : ClassName} (names : NamesClass name c) :
    plainType name = .ok (.declared c []) := by
  rw [plainType, names.ofName?_eq_none, names.resolveClass_eq]
  rfl

/-- A dotted name after blanks, with something behind it that does not belong to it. -/
theorem readName_blanks_dotted {name : String} (dotted : ClassName.Dotted name.toList)
    (blanks : Blanks gap) (ends : ∀ c more, rest = c :: more → isNamePart c = false) :
    readName (trimStart (gap ++ (name.toList ++ rest))) = .ok (name, rest) := by
  obtain ⟨first, more, split, start⟩ := dotted.exists_cons
  have filled := isBlank_of_isNamePart (isNamePart_of_isSegmentStart start)
  rw [Text.trimStart_blanks_append blanks, split, List.cons_append, Text.trimStart_cons filled,
    ← List.cons_append, ← split, readName_dotted dotted ends]

/-- With budget enough, the text is read as the type, and what follows may be the pairs `[]`. -/
def ReadAs (text : List Char) (t : ValueType) : Prop :=
  ∀ {rest : List Char}, Ends rest →
    ∃ enough, ∀ budget ≥ enough, readType budget (text ++ rest) = readArrays t rest

/-- With budget enough, the text is read as type arguments up to the bracket behind it. -/
def ReadAsArguments (text : List Char) (arguments : List ValueType) : Prop :=
  ∀ {gap : List Char}, Blanks gap → ∀ rest, ∃ enough, ∀ budget ≥ enough,
    readArguments budget (text ++ gap ++ '>' :: rest) = .ok (arguments, rest)

theorem readAs_name {name : String} (dotted : ClassName.Dotted name.toList)
    (plain : plainType name = .ok t) (blanks : Blanks gap) : ReadAs (gap ++ name.toList) t := by
  intro rest ends
  refine ⟨1, fun budget hbudget => ?_⟩
  obtain ⟨budget, rfl⟩ := Nat.exists_eq_add_of_le' hbudget
  have named := readName_blanks_dotted dotted blanks ends.name
  rw [List.append_assoc, readType_plain named plain ends.arguments, readArrays_trimStart]

theorem readAs_generic {name : String} {c : ClassName} {before inside after : List Char}
    {arguments : List ValueType} (names : NamesClass name c) (blanks : Blanks gap)
    (blanksBefore : Blanks before) (list : ReadAsArguments inside arguments)
    (blanksAfter : Blanks after) :
    ReadAs (gap ++ (name.toList ++ before ++ '<' :: (inside ++ after ++ ['>'])))
      (.declared c arguments) := by
  intro rest ends
  obtain ⟨enough, taken⟩ := list blanksAfter rest
  refine ⟨enough + 1, fun budget hbudget => ?_⟩
  obtain ⟨budget, rfl⟩ := Nat.exists_eq_add_of_le' (Nat.le_of_add_left_le hbudget)
  have split : gap ++ (name.toList ++ before ++ '<' :: (inside ++ after ++ ['>'])) ++ rest
      = gap ++ (name.toList ++ (before ++ '<' :: (inside ++ after ++ '>' :: rest))) := by simp
  have opened : trimStart (before ++ '<' :: (inside ++ after ++ '>' :: rest))
      = '<' :: (inside ++ after ++ '>' :: rest) := by
    rw [Text.trimStart_blanks_append blanksBefore, Text.trimStart_cons (by decide)]
  have ended : ∀ c more, before ++ '<' :: (inside ++ after ++ '>' :: rest) = c :: more →
      isNamePart c = false :=
    notName_of_blanks_cons blanksBefore (by decide)
  have named := readName_blanks_dotted names.dotted blanks ended
  rw [split]
  exact readType_generic named opened names.ofName?_eq_none (taken budget (by omega))
    names.resolveClass_eq

theorem readAs_array {text : List Char} (element : ReadAs text t) (blanks : Blanks gap) :
    ReadAs (text ++ gap ++ ['[', ']']) (.array t) := by
  intro rest ends
  have opens : Ends (gap ++ '[' :: ']' :: rest) :=
    ends_blanks_cons blanks (by decide) (by decide) (by decide)
  obtain ⟨enough, taken⟩ := element opens
  refine ⟨enough, fun budget hbudget => ?_⟩
  rw [List.append_assoc, List.append_assoc, ← readArrays_pair, ← readArrays_blanks blanks]
  exact taken budget hbudget

theorem readAsArguments_single {text : List Char} (only : ReadAs text t) :
    ReadAsArguments text [t] := by
  intro gap blanks rest
  have closes : Ends (gap ++ '>' :: rest) :=
    ends_blanks_cons blanks (by decide) (by decide) (by decide)
  obtain ⟨enough, taken⟩ := only closes
  refine ⟨enough + 1, fun budget hbudget => ?_⟩
  obtain ⟨budget, rfl⟩ := Nat.exists_eq_add_of_le' (Nat.le_of_add_left_le hbudget)
  have first := taken budget (by omega)
  rw [readArrays_stop blanks (by decide) (by decide)] at first
  rw [List.append_assoc]
  exact readArguments_last first (Text.trimStart_cons (by decide))

theorem readAsArguments_more {text others : List Char} {items : List ValueType}
    (head : ReadAs text t) (blanks : Blanks gap) (tail : ReadAsArguments others items) :
    ReadAsArguments (text ++ gap ++ ',' :: others) (t :: items) := by
  intro gap' blanks' rest
  have separates : Ends (gap ++ ',' :: (others ++ gap' ++ '>' :: rest)) :=
    ends_blanks_cons blanks (by decide) (by decide) (by decide)
  obtain ⟨enough, taken⟩ := head separates
  obtain ⟨enough', taken'⟩ := tail blanks' rest
  refine ⟨enough + enough' + 1, fun budget hbudget => ?_⟩
  obtain ⟨budget, rfl⟩ := Nat.exists_eq_add_of_le' (Nat.le_of_add_left_le hbudget)
  have first := taken budget (by omega)
  rw [readArrays_stop blanks (by decide) (by decide)] at first
  have split : text ++ gap ++ ',' :: others ++ gap' ++ '>' :: rest
      = text ++ (gap ++ ',' :: (others ++ gap' ++ '>' :: rest)) := by simp
  rw [split]
  exact readArguments_more first (Text.trimStart_cons (by decide)) (taken' budget (by omega))

mutual

theorem WrittenBase.readAs : ∀ {text : List Char} {t : ValueType}, WrittenBase text t →
    ∀ {gap : List Char}, Blanks gap → ReadAs (gap ++ text) t
  | _, _, .primitive p, _, blanks =>
      readAs_name (dotted_primitive p) (plainType_primitive p) blanks
  | _, _, .plain names, _, blanks => readAs_name names.dotted names.plainType_eq blanks
  | _, _, .generic names before list after, _, blanks =>
      readAs_generic names blanks before list.readAs after

/-- **A type is read as its value.** -/
theorem Written.readAs : ∀ {text : List Char} {t : ValueType}, Written text t → ReadAs text t
  | _, _, .base blanks written => written.readAs blanks
  | _, _, .array written blanks => readAs_array written.readAs blanks

theorem WrittenList.readAs : ∀ {text : List Char} {arguments : List ValueType},
    WrittenList text arguments → ReadAsArguments text arguments
  | _, _, .single written => readAsArguments_single written.readAs
  | _, _, .more written blanks list => readAsArguments_more written.readAs blanks list.readAs

end

end Completeness

/-! ### Whole texts -/

section Whole

variable {text : List Char} {t t' : ValueType}

theorem spells_of_readWhole (read : readWhole text = .ok t) : Spells text t := by
  unfold readWhole at read
  split at read
  · exact nomatch read
  · rename_i taken
    obtain ⟨used, gap, split, written, blanks⟩ := written_of_readType taken
    rw [← Except.ok.inj read]
    exact ⟨used, gap, by rw [split, List.append_nil], written, blanks⟩
  · exact nomatch read

/-- The budget of the reader suffices for every type of the grammar. -/
theorem readWhole_of_spells (spells : Spells text t) : readWhole text = .ok t := by
  obtain ⟨used, gap, rfl, written, blanks⟩ := spells
  obtain ⟨enough, taken⟩ := written.readAs (ends_blanks blanks)
  have answer := taken (enough + (2 * (used ++ gap).length + 1)) (by omega)
  rw [readType_budget (by omega) (Nat.lt_succ_self (2 * (used ++ gap).length)),
    readArrays_of_blanks blanks] at answer
  rw [readWhole, answer]

theorem readWhole_eq_ok_iff : readWhole text = .ok t ↔ Spells text t :=
  ⟨spells_of_readWhole, readWhole_of_spells⟩

/-- No text spells two types. -/
theorem Spells.unique (spells : Spells text t) (spells' : Spells text t') : t = t' := by
  have read := readWhole_of_spells spells
  rw [readWhole_of_spells spells'] at read
  exact (Except.ok.inj read).symm

/-- What is read is spelled, and what is spelled is read. -/
theorem parse_eq_ok_iff_spells {descriptor : String} :
    parse descriptor = .ok t ↔ Spells (Text.trim descriptor.toList) t :=
  mapError_eq_ok_iff.trans readWhole_eq_ok_iff

end Whole

/-- Blanks at most of the places where they may stand. -/
example :
    (parse " java.util.Map < int [] , Outer.Inner<String\t> >\n[] ").toOption.map text
      = some "java.util.Map<int[], Outer.Inner<java.lang.String>>[]" := by
  decide +kernel

end Companions.ValueType
