import Companions.Proofs.ValueType.Reading

/-!
How far the reader of types looks ahead.

A name ends at the first character that does not go on with it, and blanks and pairs `[]` at the
first one that is neither. So a reader that succeeds has looked at one character behind what it took
and at nothing after that: `takes_readType` for a type, where a closing bracket would do as well as
the character that is there, and `readArguments_append` for type arguments, which end with a bracket
of their own.
-/

namespace Companions.ValueType

open Text (Blanks trimStart)

variable {budget : Nat} {text used after inside rest other : List Char} {name : String}
  {t base : ValueType} {arguments : List ValueType} {c next : Char} {more : List Char}

/-- The reader takes `used` for `value` if `next` stands behind it, or a closing bracket. -/
def Takes {α : Type} (read : List Char → Except Trouble (α × List Char)) (used : List Char)
    (value : α) (next : Char) : Prop :=
  ∀ c, c = next ∨ c = '>' → ∀ more, read (used ++ c :: more) = .ok (value, c :: more)

/-- No name goes on with the text. -/
def EndsName (text : List Char) : Prop :=
  ∀ c more, text = c :: more → isNamePart c = false

theorem endsName_of_readName (read : readName text = .ok (name, rest)) : EndsName rest := by
  cases text with
  | nil => cases read
  | cons first more =>
      rw [readName] at read
      split at read
      · simp only [Except.ok.injEq, Prod.mk.injEq] at read
        obtain ⟨-, rfl⟩ := read
        intro c further left
        have stopped := List.head?_dropWhile_not isNamePart more
        rw [left] at stopped
        exact stopped
      · cases read

/-- A name that was read is read in front of anything that does not go on with it. -/
theorem readName_append (read : readName text = .ok (name, rest)) (ends : EndsName other) :
    readName (name.toList ++ other) = .ok (name, other) := by
  cases text with
  | nil => cases read
  | cons first more =>
      rw [readName] at read
      split at read
      · rename_i start
        simp only [Except.ok.injEq, Prod.mk.injEq] at read
        obtain ⟨rfl, -⟩ := read
        have parts : ∀ c ∈ more.takeWhile isNamePart, isNamePart c = true :=
          fun c hc => List.all_eq_true.mp List.all_takeWhile c hc
        rw [String.toList_ofList, List.cons_append, readName, if_pos start,
          List.takeWhile_append_of_pos parts, List.dropWhile_append_of_pos parts]
        cases other with
        | nil => simp
        | cons c further => simp [ends c further rfl]
      · cases read

/-- A name stands behind blanks; it is read there in front of other texts as well. -/
theorem exists_name (named : readName (trimStart text) = .ok (name, after)) :
    ∃ front, text = front ++ after ∧
      ∀ other, EndsName other → readName (trimStart (front ++ other)) = .ok (name, other) := by
  obtain ⟨gap, blanks, split⟩ := Text.exists_blanks_trimStart text
  obtain ⟨taken, filled⟩ := readName_eq_ok named
  refine ⟨gap ++ name.toList, by rw [List.append_assoc, ← taken, ← split], ?_⟩
  intro other ends
  cases letters : name.toList with
  | nil => exact absurd (String.toList_eq_nil_iff.mp letters) filled
  | cons first letters' =>
      have start : Text.isBlank first = false := by
        rw [letters, List.cons_append] at taken
        exact Text.isBlank_of_trimStart_eq_cons taken
      rw [List.append_assoc, Text.trimStart_blanks_append blanks, List.cons_append,
        Text.trimStart_cons start, ← List.cons_append, ← letters, readName_append named ends]

/-- A name and the bracket behind it are read alike in front of any type arguments. -/
theorem exists_opening (named : readName (trimStart text) = .ok (name, after))
    (opened : trimStart after = '<' :: inside) :
    ∃ front, text = front ++ inside ∧ ∀ tail, ∃ after',
      readName (trimStart (front ++ tail)) = .ok (name, after') ∧
        trimStart after' = '<' :: tail := by
  obtain ⟨front, split, again⟩ := exists_name named
  obtain ⟨gap, blanks, splitAfter⟩ := Text.exists_blanks_trimStart after
  have bracket : Text.isBlank '<' = false := by decide
  refine ⟨front ++ gap ++ ['<'], by rw [split, splitAfter, opened]; simp, fun tail => ?_⟩
  refine ⟨gap ++ '<' :: tail, ?_, ?_⟩
  · rw [List.append_assoc, List.append_assoc, List.singleton_append]
    exact again _ (notName_of_blanks_cons blanks (by decide))
  · rw [Text.trimStart_blanks_append blanks, Text.trimStart_cons bracket]

/-- What ends a type goes on to do so when only what follows its first filled character changes. -/
theorem Ends.append (ends : Ends (used ++ rest)) (filled : trimStart used ≠ []) :
    Ends (used ++ other) where
  name c more split := by
    cases used with
    | nil => exact absurd rfl filled
    | cons first used =>
        rw [← (List.cons.inj split).1]
        exact ends.name first (used ++ rest) rfl
  arguments more opened := by
    have before := ends.arguments
    rw [Text.trimStart_append, if_neg filled] at before opened
    cases left : trimStart used with
    | nil => exact filled left
    | cons first further =>
        rw [left] at before opened
        exact before (further ++ rest) (by rw [(List.cons.inj opened).1]; rfl)

/-- What ends a type goes on to do so when the character that stopped it is still there, or a closing
bracket is there instead. -/
theorem Ends.replace (ends : Ends (used ++ next :: rest)) (filled : Text.isBlank next = false)
    (same : c = next ∨ c = '>') : Ends (used ++ c :: more) := by
  by_cases blanks : trimStart used = []
  · constructor
    · intro d further split
      cases used with
      | nil =>
          rw [← (List.cons.inj split).1]
          rcases same with rfl | rfl
          · exact ends.name _ rest rfl
          · decide
      | cons first used =>
          rw [← (List.cons.inj split).1]
          exact ends.name first (used ++ next :: rest) rfl
    · intro further opened
      have before := ends.arguments rest
      rw [Text.trimStart_append, if_pos blanks] at before opened
      rcases same with rfl | rfl
      · rw [Text.trimStart_cons filled] at before opened
        exact before (by rw [(List.cons.inj opened).1])
      · rw [Text.trimStart_cons (by decide)] at opened
        exact absurd (List.cons.inj opened).1 (by decide)
  · exact ends.append blanks

theorem takes_readArrays (read : readArrays base text = .ok (t, next :: rest)) :
    ∃ used, text = used ++ next :: rest ∧ Takes (readArrays base) used t next ∧
      Text.isBlank next = false := by
  fun_induction readArrays base text with
  | case1 => cases (Prod.mk.inj (Except.ok.inj read)).2
  | case2 base c more blank ih =>
      obtain ⟨used, split, takes, filled⟩ := ih read
      refine ⟨c :: used, by rw [split]; rfl, fun d hd further => ?_, filled⟩
      rw [List.cons_append, readArrays_blank blank]
      exact takes d hd further
  | case3 => cases read
  | case4 base more _ ih =>
      obtain ⟨used, split, takes, filled⟩ := ih read
      refine ⟨'[' :: ']' :: used, by rw [split]; rfl, fun d hd further => ?_, filled⟩
      rw [List.cons_append, List.cons_append, readArrays_pair]
      exact takes d hd further
  | case5 => cases read
  | case6 base c more notBlank notBracket =>
      obtain ⟨rfl, stopped⟩ := Prod.mk.inj (Except.ok.inj read)
      obtain ⟨rfl, rfl⟩ := List.cons.inj stopped
      have filled : Text.isBlank c = false := by simpa using notBlank
      refine ⟨[], rfl, fun d hd further => ?_, filled⟩
      rcases hd with rfl | rfl
      · exact readArrays_stop Text.blanks_nil filled notBracket
      · exact readArrays_stop Text.blanks_nil (by decide) (by decide)

mutual

/-- **A type is read with one character of lookahead.** -/
theorem takes_readType {budget : Nat} {text rest : List Char} {t : ValueType} {next : Char}
    (read : readType budget text = .ok (t, next :: rest)) :
    ∃ used, text = used ++ next :: rest ∧ Takes (readType budget) used t next ∧
      Text.isBlank next = false := by
  cases budget with
  | zero => cases read
  | succ budget =>
      obtain ⟨name, after, base, beyond, named, arrays, shape⟩ := readType_eq_ok read
      rcases shape with
        ⟨plain, closed, rfl⟩ | ⟨inside, c, arguments, opened, keyword, taken, resolved, rfl⟩
      · rw [readArrays_trimStart] at arrays
        obtain ⟨used, splitAfter, takes, filled⟩ := takes_readArrays arrays
        obtain ⟨front, split, again⟩ := exists_name named
        have ends : Ends (used ++ next :: rest) :=
          splitAfter ▸ ⟨endsName_of_readName named, closed⟩
        refine ⟨front ++ used, by rw [split, splitAfter, List.append_assoc], ?_, filled⟩
        intro d hd further
        have ends' : Ends (used ++ d :: further) := ends.replace filled hd
        rw [List.append_assoc, readType_plain (again _ ends'.name) plain ends'.arguments,
          readArrays_trimStart]
        exact takes d hd further
      · obtain ⟨front, split, again⟩ := exists_opening named opened
        obtain ⟨items, splitInside, reread⟩ := readArguments_append taken
        obtain ⟨used, splitBeyond, takes, filled⟩ := takes_readArrays arrays
        refine ⟨front ++ (items ++ used), ?_, ?_, filled⟩
        · rw [split, splitInside, splitBeyond]
          simp
        · intro d hd further
          obtain ⟨after', named', opened'⟩ := again (items ++ (used ++ d :: further))
          rw [List.append_assoc, List.append_assoc,
            readType_generic named' opened' keyword (reread _) resolved]
          exact takes d hd further

/-- Type arguments are read up to their closing bracket, whatever follows. -/
theorem readArguments_append {budget : Nat} {text rest : List Char} {arguments : List ValueType}
    (read : readArguments budget text = .ok (arguments, rest)) :
    ∃ used, text = used ++ rest ∧
      ∀ other, readArguments budget (used ++ other) = .ok (arguments, other) := by
  cases budget with
  | zero => cases read
  | succ budget =>
      obtain ⟨first, after, taken, shape⟩ := readArguments_eq_ok read
      cases after with
      | nil => rcases shape with ⟨closed, -⟩ | ⟨inside, others, comma, -⟩ <;> contradiction
      | cons next further =>
          obtain ⟨used, split, takes, filled⟩ := takes_readType taken
          rw [Text.trimStart_cons filled] at shape
          rcases shape with ⟨closed, rfl⟩ | ⟨inside, others, comma, more, rfl⟩
          · obtain ⟨rfl, rfl⟩ := List.cons.inj closed
            refine ⟨used ++ ['>'], by simp [split], fun other => ?_⟩
            rw [List.append_assoc, List.singleton_append]
            exact readArguments_last (takes _ (Or.inl rfl) other) (Text.trimStart_cons filled)
          · obtain ⟨rfl, rfl⟩ := List.cons.inj comma
            obtain ⟨items, splitInside, reread⟩ := readArguments_append more
            refine ⟨used ++ ',' :: items, by simp [split, splitInside], fun other => ?_⟩
            rw [List.append_assoc, List.cons_append]
            exact readArguments_more (takes _ (Or.inl rfl) (items ++ other))
              (Text.trimStart_cons filled) (reread other)

end

end Companions.ValueType
