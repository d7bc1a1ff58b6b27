import Companions.Proofs.ValueType.Lookahead

/-!
Where a text cannot be read as a type.

A reader that meets an unexpected character stops there whatever follows (`Stuck`), and could not
have stopped earlier, since what it took can still be completed to a type whose names alone may be
wrong. `blames_readType` finds that character for each failure, by the steps of the reader: a reader
is stuck where the one is that it goes on with (`GoesOn`).

* `parse_points` — the position and the character that are reported are those of a character of the
  text, but for a text that ends inside `[]`, whose last bracket is reported one place too far;
* `parse_unexpected_final` — no text that starts with the same characters, the unexpected one
  included, is a type.
-/

namespace Companions.ValueType

open Text (Blanks trimStart)

/-! ### Where a reader stops -/

section Stopping

variable {α β : Type} {read part : List Char → Except Trouble (α × List Char)}
  {whole : List Char → Except Trouble (β × List Char)} {used front suffix : List Char}
  {found : Char}

/-- The end of a text, or a closing bracket. -/
def Closed (rest : List Char) : Prop :=
  rest = [] ∨ ∃ more, rest = '>' :: more

/-- All is read up to `rest`, unless there is something wrong with a name. -/
def Settles (answer : Except Trouble (α × List Char)) (rest : List Char) : Prop :=
  (∃ value, answer = .ok (value, rest)) ∨ ∃ name, answer = .error (.invalidName name)

/-- What can be written behind a text to complete it: something, and no blanks. -/
structure Mending (close : List Char) : Prop where
  ne_nil : close ≠ []
  filled : ∀ c ∈ close, Text.isBlank c = false

theorem Mending.of_all {close : List Char} (ne_nil : close ≠ [])
    (filled : close.all (!Text.isBlank ·) = true) : Mending close where
  ne_nil := ne_nil
  filled c member := (Bool.not_eq_true' _).mp (List.all_eq_true.mp filled c member)

/-- Behind `used` the reader does not go on with `found`. It stops there whatever follows; if `found`
is a blank and gets trimmed, it misses the end of `[]`; and without `found` the text can be
completed. -/
structure Stuck (read : List Char → Except Trouble (α × List Char)) (used : List Char)
    (found : Char) : Prop where
  stops : ∀ more, read (used ++ found :: more) = .error (.unexpected found (found :: more))
  trimmed : Text.isBlank found = true →
    (∃ front, used = front ++ ['[']) ∧ read used = .error .openBracket
  mends : ∃ close, Mending close ∧ ∀ rest, Closed rest → Settles (read (used ++ (close ++ rest))) rest

/-- Trouble with a character is to be found where it says: an unexpected one is in the text, and the
reader gets stuck on it; a bracket that is left open ends the text. -/
def Blames (read : List Char → Except Trouble (α × List Char)) (text : List Char) :
    Trouble → Prop
  | .unexpected found left =>
    ∃ used after, text = used ++ found :: after ∧ left = found :: after ∧ Stuck read used found
  | .openBracket => ∃ front, text = front ++ ['[']
  | _ => True

/-- Behind `front` one reader goes on as another: it fails where that one fails, and settles where
that one has read all but `suffix`, which may be a closing bracket. -/
structure GoesOn (whole : List Char → Except Trouble (β × List Char)) (front : List Char)
    (part : List Char → Except Trouble (α × List Char)) (suffix : List Char) : Prop where
  bracket : suffix = [] ∨ suffix = ['>']
  fails : ∀ {tail trouble}, part tail = .error trouble → whole (front ++ tail) = .error trouble
  settles : ∀ {tail rest value}, Closed rest → part tail = .ok (value, suffix ++ rest) →
    Settles (whole (front ++ tail)) rest

/-- A reader that behaves like another one around the place where that one is stuck is stuck too. -/
theorem Stuck.prepend (stuck : Stuck read used found)
    {whole : List Char → Except Trouble (α × List Char)}
    (same : ∀ rest, whole (front ++ (used ++ rest)) = read (used ++ rest)) :
    Stuck whole (front ++ used) found where
  stops more := by rw [List.append_assoc, same, stuck.stops]
  trimmed blank := by
    obtain ⟨⟨before, split⟩, failed⟩ := stuck.trimmed blank
    have last := same []
    rw [List.append_nil, failed] at last
    exact ⟨⟨front ++ before, by rw [split, List.append_assoc]⟩, last⟩
  mends := by
    obtain ⟨close, mending, settles⟩ := stuck.mends
    refine ⟨close, mending, fun rest closed => ?_⟩
    rw [List.append_assoc, same]
    exact settles rest closed

/-- A reader is stuck where the one that it goes on with is. -/
theorem Stuck.within (stuck : Stuck part used found) (goesOn : GoesOn whole front part suffix) :
    Stuck whole (front ++ used) found where
  stops more := by
    rw [List.append_assoc]
    exact goesOn.fails (stuck.stops more)
  trimmed blank := by
    obtain ⟨⟨before, split⟩, failed⟩ := stuck.trimmed blank
    exact ⟨⟨front ++ before, by rw [split, List.append_assoc]⟩, goesOn.fails failed⟩
  mends := by
    obtain ⟨close, mending, settles⟩ := stuck.mends
    have filled : ∀ c ∈ suffix, Text.isBlank c = false := by
      rcases goesOn.bracket with rfl | rfl
      · exact List.forall_mem_nil _
      · exact List.forall_mem_singleton.mpr (by decide)
    refine ⟨close ++ suffix, ⟨by simp [mending.ne_nil], ?_⟩, fun rest closed => ?_⟩
    · exact List.forall_mem_append.mpr ⟨mending.filled, filled⟩
    · have closed' : Closed (suffix ++ rest) := by
        rcases goesOn.bracket with rfl | rfl
        · exact closed
        · exact Or.inr ⟨rest, rfl⟩
      rw [List.append_assoc, List.append_assoc]
      rcases settles (suffix ++ rest) closed' with ⟨value, taken⟩ | ⟨name, failed⟩
      · exact goesOn.settles closed taken
      · exact Or.inr ⟨name, goesOn.fails failed⟩

theorem Blames.within {text inside : List Char} {trouble : Trouble}
    (blames : Blames part inside trouble) (goesOn : GoesOn whole front part suffix)
    (split : text = front ++ inside) : Blames whole text trouble := by
  cases trouble with
  | unexpected found left =>
      obtain ⟨used, after, splitInside, same, stuck⟩ := blames
      refine ⟨front ++ used, after, ?_, same, stuck.within goesOn⟩
      rw [split, splitInside, List.append_assoc]
  | openBracket =>
      obtain ⟨before, splitInside⟩ := blames
      exact ⟨front ++ before, by rw [split, splitInside, List.append_assoc]⟩
  | _ => trivial

end Stopping

/-! ### How a type fails -/

section Failures

variable {budget : Nat} {text after inside beyond rest : List Char} {name : String} {c : ClassName}
  {t base : ValueType} {arguments : List ValueType} {trouble : Trouble}

/-- What fails when a type is not read. -/
inductive TypeFails (budget : Nat) (text : List Char) (trouble : Trouble) : Prop where
  | unnamed : readName (trimStart text) = .error trouble → TypeFails budget text trouble
  | misnamed {name : String} :
      trouble = .invalidName name ∨ trouble = .primitiveWithArguments name →
      TypeFails budget text trouble
  | plainArrays {name : String} {after : List Char} {base : ValueType} :
      readName (trimStart text) = .ok (name, after) → plainType name = .ok base →
      (∀ inside, trimStart after ≠ '<' :: inside) →
      readArrays base (trimStart after) = .error trouble → TypeFails budget text trouble
  | arguments {name : String} {after inside : List Char} :
      readName (trimStart text) = .ok (name, after) → trimStart after = '<' :: inside →
      Primitive.ofName? name = none → readArguments budget inside = .error trouble →
      TypeFails budget text trouble
  | arrays {name : String} {after inside beyond : List Char} {c : ClassName}
      {arguments : List ValueType} :
      readName (trimStart text) = .ok (name, after) → trimStart after = '<' :: inside →
      Primitive.ofName? name = none → readArguments budget inside = .ok (arguments, beyond) →
      resolveClass name = .ok c → readArrays (.declared c arguments) beyond = .error trouble →
      TypeFails budget text trouble

/-- What fails when type arguments are not read. -/
inductive ArgumentsFail (budget : Nat) (text : List Char) (trouble : Trouble) : Prop where
  | first : readType budget text = .error trouble → ArgumentsFail budget text trouble
  | unclosed : trouble = .unclosedArguments → ArgumentsFail budget text trouble
  | stray {t : ValueType} {after rest : List Char} {found : Char} :
      readType budget text = .ok (t, after) → trimStart after = found :: rest → found ≠ ',' →
      found ≠ '>' → trouble = .unexpected found (found :: rest) →
      ArgumentsFail budget text trouble
  | others {t : ValueType} {after inside : List Char} :
      readType budget text = .ok (t, after) → trimStart after = ',' :: inside →
      readArguments budget inside = .error trouble → ArgumentsFail budget text trouble

theorem resolveClass_eq_error (failed : resolveClass name = .error trouble) :
    trouble = .invalidName name := by
  unfold resolveClass at failed
  split at failed
  · cases failed
  · split at failed
    · cases failed
    · exact (Except.error.inj failed).symm

theorem plainType_eq_error (failed : plainType name = .error trouble) :
    trouble = .invalidName name := by
  unfold plainType at failed
  split at failed
  · cases failed
  · cases resolved : resolveClass name with
    | error reason =>
        rw [resolved] at failed
        rw [← Except.error.inj failed]
        exact resolveClass_eq_error resolved
    | ok c =>
        rw [resolved] at failed
        cases failed

theorem readType_plain_name (named : readName (trimStart text) = .ok (name, after))
    (closed : ∀ inside, trimStart after ≠ '<' :: inside) :
    readType (budget + 1) text
      = plainType name >>= fun base => readArrays base (trimStart after) := by
  rw [readType, named]
  cases left : trimStart after with
  | nil => simp [bind, Except.bind, left]
  | cons first inside =>
      have other : first ≠ '<' := fun same => closed inside (same ▸ left)
      simp [bind, Except.bind, left, other]

theorem readType_opened (named : readName (trimStart text) = .ok (name, after))
    (opened : trimStart after = '<' :: inside) (notPrimitive : Primitive.ofName? name = none) :
    readType (budget + 1) text
      = readArguments budget inside >>= fun taken => resolveClass name >>= fun c =>
          readArrays (.declared c taken.1) taken.2 := by
  rw [readType, named]
  simp [bind, Except.bind, opened, notPrimitive]

theorem typeFails_of_readType (failed : readType (budget + 1) text = .error trouble) :
    TypeFails budget text trouble := by
  cases named : readName (trimStart text) with
  | error reason =>
      rw [readType, named] at failed
      rw [← Except.error.inj failed]
      exact .unnamed named
  | ok taken =>
      obtain ⟨name, after⟩ := taken
      by_cases opened : ∃ inside, trimStart after = '<' :: inside
      · obtain ⟨inside, opened⟩ := opened
        cases keyword : Primitive.ofName? name with
        | some p =>
            rw [readType, named] at failed
            simp only [bind, Except.bind, opened, keyword, Option.isSome_some, if_true,
              Except.error.injEq] at failed
            exact .misnamed (Or.inr failed.symm)
        | none =>
            rw [readType_opened named opened keyword] at failed
            rcases bind_eq_error_iff.mp failed with failed | ⟨⟨arguments, beyond⟩, taken, failed⟩
            · exact .arguments named opened keyword failed
            · rcases bind_eq_error_iff.mp failed with failed | ⟨c, resolved, failed⟩
              · exact .misnamed (Or.inl (resolveClass_eq_error failed))
              · exact .arrays named opened keyword taken resolved failed
      · have closed := not_exists.mp opened
        rw [readType_plain_name named closed] at failed
        rcases bind_eq_error_iff.mp failed with failed | ⟨base, plain, failed⟩
        · exact .misnamed (Or.inl (plainType_eq_error failed))
        · exact .plainArrays named plain closed failed

theorem argumentsFail_of_readArguments
    (failed : readArguments (budget + 1) text = .error trouble) :
    ArgumentsFail budget text trouble := by
  rw [readArguments] at failed
  rcases bind_eq_error_iff.mp failed with failed | ⟨⟨first, after⟩, taken, failed⟩
  · exact .first failed
  · simp only at failed
    split at failed
    · exact .unclosed (Except.error.inj failed).symm
    · rename_i next inside left
      split at failed
      · rename_i comma
        subst comma
        rcases bind_eq_error_iff.mp failed with failed | ⟨_, _, failed⟩
        · exact .others taken left failed
        · cases failed
      · rename_i notComma
        split at failed
        · cases failed
        · rename_i notBracket
          exact .stray taken left notComma notBracket (Except.error.inj failed).symm

end Failures

/-! ### Blame -/

section Blame

variable {budget : Nat} {text after front : List Char} {base : ValueType} {trouble : Trouble}

theorem readArrays_closed {rest : List Char} (closed : Closed rest) :
    readArrays base rest = .ok (base, rest) := by
  rcases closed with rfl | ⟨more, rfl⟩
  · rw [readArrays]
  · exact readArrays_stop Text.blanks_nil (by decide) (by decide)

theorem Closed.ends {rest : List Char} (closed : Closed rest) : Ends rest := by
  rcases closed with rfl | ⟨more, rfl⟩
  · exact ends_blanks Text.blanks_nil
  · exact ends_blanks_cons Text.blanks_nil (by decide) (by decide) (by decide)

/-- Behind a type only a bracket that opens can be left without the one that closes it. -/
theorem stuck_readArrays (failed : readArrays base text = .error trouble) :
    (trouble = .openBracket ∧ ∃ front, text = front ++ ['[']) ∨
      ∃ front found after, text = front ++ '[' :: found :: after ∧
        trouble = .unexpected found (found :: after) ∧
        Stuck (readArrays base) (front ++ ['[']) found := by
  fun_induction readArrays base text with
  | case1 => cases failed
  | case2 base c more blank ih =>
      rcases ih failed with ⟨same, front, split⟩ | ⟨front, found, after, split, same, stuck⟩
      · exact Or.inl ⟨same, c :: front, by rw [split]; rfl⟩
      · refine Or.inr ⟨c :: front, found, after, by rw [split]; rfl, same, ?_⟩
        have skips (rest : List Char) : readArrays base ([c] ++ rest) = readArrays base rest :=
          readArrays_blank blank
        exact stuck.prepend fun rest => skips _
  | case3 => exact Or.inl ⟨(Except.error.inj failed).symm, [], rfl⟩
  | case4 base more _ ih =>
      rcases ih failed with ⟨same, front, split⟩ | ⟨front, found, after, split, same, stuck⟩
      · exact Or.inl ⟨same, '[' :: ']' :: front, by rw [split]; rfl⟩
      · refine Or.inr ⟨'[' :: ']' :: front, found, after, by rw [split]; rfl, same, ?_⟩
        have wraps (rest : List Char) :
            readArrays base (['[', ']'] ++ rest) = readArrays (.array base) rest := readArrays_pair
        exact stuck.prepend fun rest => wraps _
  | case5 base found after other =>
      refine Or.inr ⟨[], found, after, rfl, (Except.error.inj failed).symm, ?_⟩
      have bracket : Text.isBlank '[' = false := by decide
      refine ⟨fun more => ?_, fun blank => ⟨⟨[], rfl⟩, ?_⟩, [']'], .of_all (by simp) (by decide), ?_⟩
      · rw [readArrays.eq_def]
        simp [bracket, other]
      · rw [readArrays.eq_def]
        simp [bracket]
      · intro rest closed
        exact Or.inl ⟨.array base, readArrays_pair.trans (readArrays_closed closed)⟩
  | case6 => cases failed

/-- The blame for arrays, where a reader has come to them. -/
theorem blames_of_readArrays {whole : List Char → Except Trouble (ValueType × List Char)}
    (failed : readArrays base after = .error trouble) (split : text = front ++ after)
    (same : ∀ used rest other, after = used ++ rest → trimStart used ≠ [] →
      whole (front ++ (used ++ other)) = readArrays base (used ++ other)) :
    Blames whole text trouble := by
  rcases stuck_readArrays failed with
    ⟨rfl, before, splitAfter⟩ | ⟨before, found, rest, splitAfter, rfl, stuck⟩
  · exact ⟨front ++ before, by rw [split, splitAfter, List.append_assoc]⟩
  · have splitUsed : after = (before ++ ['[']) ++ found :: rest := by rw [splitAfter]; simp
    have filled : trimStart (before ++ ['[']) ≠ [] := by
      rw [Text.trimStart_append, Text.trimStart_cons (by decide)]
      split <;> simp
    refine ⟨front ++ (before ++ ['[']), rest, ?_, rfl, ?_⟩
    · rw [split, splitUsed]
      simp
    · exact stuck.prepend fun other => same _ _ other splitUsed filled

/-- A name that is missing is missed at the first character that is no blank. -/
theorem blames_of_readName (failed : readName (trimStart text) = .error trouble) :
    Blames (readType (budget + 1)) text trouble := by
  obtain ⟨gap, blanks, split⟩ := Text.exists_blanks_trimStart text
  cases left : trimStart text with
  | nil =>
      rw [left, readName] at failed
      rw [← Except.error.inj failed]
      trivial
  | cons found after =>
      rw [left, readName] at failed
      split at failed
      · cases failed
      · rename_i notStart
        have filled := Text.isBlank_of_trimStart_eq_cons left
        rw [← Except.error.inj failed]
        refine ⟨gap, after, split.trans (by rw [left]), rfl, ?_, ?_, ?_⟩
        · intro more
          rw [readType, Text.trimStart_blanks_append blanks, Text.trimStart_cons filled, readName,
            if_neg notStart]
          rfl
        · intro blank
          rw [filled] at blank
          cases blank
        · refine ⟨Primitive.int.name.toList, .of_all (by decide) (by decide), fun rest closed => ?_⟩
          have named := readName_blanks_dotted (dotted_primitive .int) blanks closed.ends.name
          refine Or.inl ⟨.primitive .int, ?_⟩
          rw [readType_plain named (plainType_primitive .int) closed.ends.arguments,
            readArrays_trimStart, readArrays_closed closed]

/-- A type in angle brackets is read on as its arguments are. -/
theorem goesOn_arguments {name : String}
    (opened : ∀ tail, ∃ after, readName (trimStart (front ++ tail)) = .ok (name, after) ∧
      trimStart after = '<' :: tail)
    (keyword : Primitive.ofName? name = none) :
    GoesOn (readType (budget + 1)) front (readArguments budget) [] where
  bracket := Or.inl rfl
  fails {tail trouble} failed := by
    obtain ⟨after, named, bracket⟩ := opened tail
    rw [readType_opened named bracket keyword, failed]
    rfl
  settles {tail rest arguments} closed taken := by
    obtain ⟨after, named, bracket⟩ := opened tail
    rw [readType_opened named bracket keyword, taken]
    cases resolved : resolveClass name with
    | error reason =>
        rw [resolveClass_eq_error resolved]
        exact Or.inr ⟨name, rfl⟩
    | ok c => exact Or.inl ⟨.declared c arguments, readArrays_closed closed⟩

/-- Type arguments are read on as the first of them is, and then want a bracket. -/
theorem goesOn_first :
    GoesOn (readArguments (budget + 1)) [] (readType budget) ['>'] where
  bracket := Or.inr rfl
  fails {tail trouble} failed := by
    rw [List.nil_append, readArguments, failed]
    rfl
  settles {tail rest t} _ taken :=
    Or.inl ⟨[t], readArguments_last taken (Text.trimStart_cons (by decide))⟩

/-- Behind a comma type arguments are read on as the others are. -/
theorem goesOn_others {used : List Char} {t : ValueType}
    (takes : Takes (readType budget) used t ',') :
    GoesOn (readArguments (budget + 1)) (used ++ [',']) (readArguments budget) [] where
  bracket := Or.inl rfl
  fails {tail trouble} failed := by
    have first := takes ',' (Or.inl rfl) tail
    rw [List.append_assoc, List.singleton_append, readArguments, first]
    simp [bind, Except.bind, Text.trimStart_cons (show Text.isBlank ',' = false by decide), failed]
  settles {tail rest others} _ taken := by
    have first := takes ',' (Or.inl rfl) tail
    rw [List.append_assoc, List.singleton_append]
    exact Or.inl ⟨t :: others, readArguments_more first (Text.trimStart_cons (by decide)) taken⟩

mutual

/-- **A type that is not read fails where its trouble says.** -/
theorem blames_readType {budget : Nat} {text : List Char} {trouble : Trouble}
    (failed : readType budget text = .error trouble) :
    Blames (readType budget) text trouble := by
  cases budget with
  | zero =>
      rw [readType] at failed
      rw [← Except.error.inj failed]
      trivial
  | succ budget =>
      cases typeFails_of_readType failed with
      | unnamed failed => exact blames_of_readName failed
      | misnamed naming => rcases naming with rfl | rfl <;> trivial
      | plainArrays named plain closed failed =>
          obtain ⟨front, split, again⟩ := exists_name named
          have ends : Ends _ := ⟨endsName_of_readName named, closed⟩
          rw [readArrays_trimStart] at failed
          refine blames_of_readArrays failed split fun used rest other splitAfter filled => ?_
          have ends' : Ends (used ++ other) := (splitAfter ▸ ends).append filled
          rw [readType_plain (again _ ends'.name) plain ends'.arguments, readArrays_trimStart]
      | arguments named opened keyword failed =>
          obtain ⟨front, split, again⟩ := exists_opening named opened
          exact (blames_readArguments failed).within (goesOn_arguments again keyword) split
      | arrays named opened keyword taken resolved failed =>
          obtain ⟨front, split, again⟩ := exists_opening named opened
          obtain ⟨items, splitInside, reread⟩ := readArguments_append taken
          have splitText := split.trans (by rw [splitInside, ← List.append_assoc])
          refine blames_of_readArrays failed splitText fun used rest other _ _ => ?_
          obtain ⟨after, named, bracket⟩ := again (items ++ (used ++ other))
          rw [List.append_assoc]
          exact readType_generic named bracket keyword (reread _) resolved

/-- Type arguments that are not read fail where their trouble says. -/
theorem blames_readArguments {budget : Nat} {text : List Char} {trouble : Trouble}
    (failed : readArguments budget text = .error trouble) :
    Blames (readArguments budget) text trouble := by
  cases budget with
  | zero =>
      rw [readArguments] at failed
      rw [← Except.error.inj failed]
      trivial
  | succ budget =>
      cases argumentsFail_of_readArguments failed with
      | first failed => exact (blames_readType failed).within goesOn_first rfl
      | unclosed same =>
          rw [same]
          trivial
      | @stray t after rest found taken left notComma notBracket same =>
          cases after with
          | nil => cases left
          | cons next further =>
              obtain ⟨used, split, takes, filled⟩ := takes_readType taken
              rw [Text.trimStart_cons filled] at left
              obtain ⟨rfl, rfl⟩ := List.cons.inj left
              rw [same]
              refine ⟨used, further, split, rfl, ?_, ?_, ?_⟩
              · intro more
                have first := takes next (Or.inl rfl) more
                rw [readArguments, first]
                simp [bind, Except.bind, Text.trimStart_cons filled, notComma, notBracket]
              · intro blank
                rw [filled] at blank
                cases blank
              · refine ⟨['>'], .of_all (by simp) (by decide), fun rest _ => Or.inl ⟨[t], ?_⟩⟩
                exact readArguments_last (takes '>' (Or.inr rfl) rest)
                  (Text.trimStart_cons (by decide))
      | @others t after inside taken left failed =>
          cases after with
          | nil => cases left
          | cons next further =>
              obtain ⟨used, split, takes, filled⟩ := takes_readType taken
              rw [Text.trimStart_cons filled] at left
              obtain ⟨rfl, rfl⟩ := List.cons.inj left
              have splitText : text = (used ++ [',']) ++ further := by rw [split]; simp
              exact (blames_readArguments failed).within (goesOn_others takes) splitText

end

end Blame

/-! ### Whole texts -/

section Whole

variable {text used left : List Char} {found : Char} {budget : Nat}

/-- What is read with any budget is read with the budget for the whole text. -/
theorem readType_whole {answer : Except Trouble (ValueType × List Char)}
    (read : readType budget text = answer) (answered : answer ≠ .error .endOfText) :
    readType (2 * text.length + 1) text = answer := by
  rw [← read] at answered
  rcases Nat.le_total budget (2 * text.length + 1) with le | le
  · exact (readType_of_le le answered).trans read
  · exact (readType_budget (Nat.lt_succ_self _) le).trans read

theorem readWhole_of_error {trouble : Trouble} (failed : readType budget text = .error trouble)
    (meant : trouble ≠ .endOfText) : readWhole text = .error trouble := by
  simp only [readWhole, readType_whole failed fun same => meant (Except.error.inj same)]

theorem readWhole_of_ok {t : ValueType} (taken : readType budget text = .ok (t, [])) :
    readWhole text = .ok t := by
  simp only [readWhole, readType_whole taken (by simp)]

theorem readWhole_of_more {t : ValueType} {rest : List Char}
    (taken : readType budget text = .ok (t, found :: rest)) :
    readWhole text = .error (.unexpected found (found :: rest)) := by
  simp only [readWhole, readType_whole taken (by simp)]

/-- A whole text is no type because of `found` behind `used`, whatever follows; if `found` is a blank
and gets trimmed, the end of `[]` is missing; and without `found` the text can be completed, but for
the names in it. -/
structure Halted (used : List Char) (found : Char) : Prop where
  stops : ∀ more, readWhole (used ++ found :: more) = .error (.unexpected found (found :: more))
  trimmed : Text.isBlank found = true →
    (∃ front, used = front ++ ['[']) ∧ readWhole used = .error .openBracket
  mends : ∃ close, Mending close ∧ ((∃ t, readWhole (used ++ close) = .ok t) ∨
    ∃ name, readWhole (used ++ close) = .error (.invalidName name))

/-- Inside a type. -/
theorem Stuck.halted (stuck : Stuck (readType budget) used found) : Halted used found where
  stops more := readWhole_of_error (stuck.stops more) (by simp)
  trimmed blank := by
    obtain ⟨bracket, failed⟩ := stuck.trimmed blank
    exact ⟨bracket, readWhole_of_error failed (by simp)⟩
  mends := by
    obtain ⟨close, mending, settles⟩ := stuck.mends
    have settled := settles [] (Or.inl rfl)
    rw [List.append_nil] at settled
    refine ⟨close, mending, ?_⟩
    rcases settled with ⟨t, taken⟩ | ⟨name, failed⟩
    · exact Or.inl ⟨t, readWhole_of_ok taken⟩
    · exact Or.inr ⟨name, readWhole_of_error failed (by simp)⟩

/-- Behind a type. -/
theorem halted_of_readType {t : ValueType} {after : List Char}
    (taken : readType budget text = .ok (t, found :: after)) :
    ∃ used, text = used ++ found :: after ∧ Halted used found := by
  obtain ⟨used, split, takes, filled⟩ := takes_readType taken
  refine ⟨used, split, ?_, ?_, ?_⟩
  · intro more
    exact readWhole_of_more (takes found (Or.inl rfl) more)
  · intro blank
    rw [filled] at blank
    cases blank
  · -- an array of this type would have been fine
    obtain ⟨type, gap, splitType, written, blanks⟩ := written_of_readType taken
    obtain rfl := List.append_cancel_right (split.symm.trans splitType)
    refine ⟨['[', ']'], .of_all (by simp) (by decide), Or.inl ⟨.array t, readWhole_of_spells ?_⟩⟩
    exact ⟨_, [], (List.append_nil _).symm, .array written blanks, Text.blanks_nil⟩

/-- **A text that is not a type halts the reader at the character that is blamed.** -/
theorem halted_of_readWhole (failed : readWhole text = .error (.unexpected found left)) :
    ∃ used after, text = used ++ found :: after ∧ left = found :: after ∧ Halted used found := by
  unfold readWhole at failed
  split at failed
  · rename_i trouble inside
    rw [Except.error.inj failed] at inside
    obtain ⟨used, after, split, same, stuck⟩ := blames_readType inside
    exact ⟨used, after, split, same, stuck.halted⟩
  · cases failed
  · rename_i t c rest taken
    obtain ⟨rfl, rfl⟩ := Trouble.unexpected.inj (Except.error.inj failed)
    obtain ⟨used, split, halted⟩ := halted_of_readType taken
    exact ⟨used, rest, split, rfl, halted⟩

theorem exists_bracket_of_readWhole (failed : readWhole text = .error .openBracket) :
    ∃ front, text = front ++ ['['] := by
  unfold readWhole at failed
  split at failed
  · rename_i trouble inside
    rw [Except.error.inj failed] at inside
    exact blames_readType inside
  · cases failed
  · cases failed

end Whole

/-! ### Positions -/

section Positions

variable {descriptor : String} {position : Nat} {found : Char}

theorem byteLength_append (text other : List Char) :
    byteLength (text ++ other) = byteLength text + byteLength other := by
  induction text with
  | nil => exact (Nat.zero_add _).symm
  | cons c text ih =>
      show c.utf8Size + byteLength (text ++ other) = c.utf8Size + byteLength text + byteLength other
      rw [ih, Nat.add_assoc]

theorem locate_unexpected (used more : List Char) :
    Trouble.locate (used ++ found :: more) (.unexpected found (found :: more))
      = .unexpected (byteLength used) found := by
  rw [Trouble.locate, byteLength_append, Nat.add_sub_cancel]

/-- An unexpected character is one that halts the reader, or the bracket at the end of a text. -/
theorem unexpected_of_parse (failed : parse descriptor = .error (.unexpected position found)) :
    (∃ used after, Text.trim descriptor.toList = used ++ found :: after ∧
      byteLength used = position ∧ Halted used found) ∨
    (∃ front, Text.trim descriptor.toList = front ++ ['['] ∧ found = '[' ∧
      byteLength front + 1 = position) := by
  obtain ⟨trouble, failed, located⟩ := mapError_eq_error_iff.mp failed
  cases trouble with
  | unexpected other left =>
      obtain ⟨used, after, split, rfl, halted⟩ := halted_of_readWhole failed
      rw [split, locate_unexpected] at located
      obtain ⟨place, rfl⟩ := TypeError.unexpected.inj located
      exact Or.inl ⟨used, after, split, place, halted⟩
  | openBracket =>
      obtain ⟨front, split⟩ := exists_bracket_of_readWhole failed
      obtain ⟨place, rfl⟩ := TypeError.unexpected.inj located
      rw [split, byteLength_append] at place
      exact Or.inr ⟨front, split, rfl, place⟩
  | _ => cases located

/-- **Errors point at the offending character**, but for one: the position of an unexpected character
is that of a character of the text, counted in bytes from the first one that is no blank, and it is
that character. Only where the text ends behind a bracket that wants another one, this bracket is
reported at the end of the text, one place behind its own. -/
theorem parse_points (failed : parse descriptor = .error (.unexpected position found)) :
    let text := Text.trim descriptor.toList
    ∃ before after, text = before ++ found :: after ∧
      (position < byteLength text ∧ byteLength before = position ∨
        position = byteLength text ∧ found = '[' ∧ after = [] ∧
          byteLength before + 1 = position) := by
  intro text
  rcases unexpected_of_parse failed with ⟨used, after, split, place, -⟩ | ⟨front, split, rfl, place⟩
  · have size : byteLength text = byteLength used + (found.utf8Size + byteLength after) := by
      rw [show text = used ++ found :: after from split, byteLength_append]
      rfl
    have filled : 0 < found.utf8Size := Char.utf8Size_pos found
    exact ⟨used, after, split, Or.inl ⟨by omega, place⟩⟩
  · have size : byteLength text = byteLength front + 1 := by
      rw [show text = front ++ ['['] from split, byteLength_append]
      rfl
    exact ⟨front, [], split, Or.inr ⟨by omega, rfl, rfl, place⟩⟩

/-- Behind a Greek letter of two bytes, and inside type arguments. -/
theorem parse_points_arguments :
    parse " λ.Map<int[x]> " = .error (.unexpected 11 'x') ∧
      ∃ before after, Text.trim " λ.Map<int[x]> ".toList = before ++ 'x' :: after ∧
        byteLength before = 11 := by
  have failed : parse " λ.Map<int[x]> " = .error (.unexpected 11 'x') :=
    (map_eq_error_iff (f := fun _ => ())).mp (by decide +kernel)
  obtain ⟨before, after, split, place | ⟨-, bracket, -⟩⟩ := parse_points failed
  · exact ⟨failed, before, after, split, place.2⟩
  · exact absurd bracket (by decide)

/-- The bracket that ends `int[` is its last character, and no character stands behind it. -/
theorem parse_bracket_misplaced :
    parse "int[" = .error (.unexpected 4 '[') ∧
      ¬∃ before after, Text.trim "int[".toList = before ++ '[' :: after ∧ byteLength before = 4 := by
  refine ⟨(map_eq_error_iff (f := fun _ => ())).mp (by decide +kernel), ?_⟩
  rintro ⟨before, after, split, place⟩
  have size : byteLength (Text.trim "int[".toList) = 4 := by decide +kernel
  rw [split, byteLength_append, place] at size
  have bracket : byteLength ('[' :: after) = 1 + byteLength after := rfl
  omega

theorem parse_eq_of_trim_eq {text : List Char} (trimmed : Text.trim descriptor.toList = text) :
    parse descriptor = (readWhole text).mapError (Trouble.locate text) := by
  rw [← trimmed]
  rfl

/-- Every text that goes on with the character that halts the reader is reported at its position. -/
theorem Halted.parse_eq_error (halted : Halted used found)
    (start : ∀ c ∈ (used ++ [found]).head?, Text.isBlank c = false)
    (begins : used ++ [found] <+: descriptor.toList) :
    ∃ shown, parse descriptor = .error (.unexpected (byteLength used) shown) ∧
      (Text.isBlank found = false → shown = found) := by
  obtain ⟨more, split⟩ := begins
  have front : trimStart descriptor.toList = descriptor.toList := by
    refine Text.trimStart_eq_self fun c hc => start c ?_
    rw [← split] at hc
    cases used <;> exact hc
  rw [List.append_assoc, List.singleton_append] at split
  have trimmed : Text.trim descriptor.toList
      = if Text.trimEnd (found :: more) = [] then Text.trimEnd used
        else used ++ Text.trimEnd (found :: more) := by
    rw [Text.trim, front, ← split, Text.trimEnd_append]
  by_cases blanks : Text.trimEnd (found :: more) = []
  · -- the blanks from `found` on are not looked at, and what is left ends with `[`
    have blank := Text.blanks_of_trimEnd_eq_nil blanks found List.mem_cons_self
    obtain ⟨⟨before, bracket⟩, failed⟩ := halted.trimmed blank
    have whole : Text.trimEnd used = used := by
      rw [bracket]
      exact Text.trimEnd_concat (by decide)
    rw [if_pos blanks, whole] at trimmed
    refine ⟨'[', by rw [parse_eq_of_trim_eq trimmed, failed]; rfl, fun filled => ?_⟩
    rw [blank] at filled
    cases filled
  · rw [if_neg blanks] at trimmed
    obtain ⟨cut, kept⟩ := Text.trimEnd_prefix (found :: more)
    cases left : Text.trimEnd (found :: more) with
    | nil => exact absurd left blanks
    | cons first more' =>
        rw [left] at trimmed kept
        obtain ⟨rfl, -⟩ := List.cons.inj kept
        refine ⟨first, ?_, fun _ => rfl⟩
        rw [parse_eq_of_trim_eq trimmed, halted.stops more', ← locate_unexpected used more']
        rfl

/-- Without the character that halts the reader, some text is read, but for the names in it. -/
theorem Halted.exists_parse (halted : Halted used found)
    (start : ∀ c ∈ (used ++ [found]).head?, Text.isBlank c = false) :
    ∃ other : String, used <+: other.toList ∧
      ((∃ t, parse other = .ok t) ∨ ∃ name, parse other = .error (.invalidName name)) := by
  obtain ⟨close, mending, answer⟩ := halted.mends
  refine ⟨String.ofList (used ++ close), by simp, ?_⟩
  have trimmed : Text.trim (String.ofList (used ++ close)).toList = used ++ close := by
    have front : trimStart (used ++ close) = used ++ close := by
      refine Text.trimStart_eq_self fun c hc => ?_
      rw [List.head?_append, Option.mem_def, Option.or_eq_some_iff] at hc
      rcases hc with inUsed | ⟨-, inClose⟩
      · exact start c (by rw [List.head?_append, inUsed]; rfl)
      · have member : c ∈ close := List.mem_of_mem_head? (Option.mem_def.mpr inClose)
        exact mending.filled c member
    have stop : used ++ close = (used ++ close.dropLast) ++ [close.getLast mending.ne_nil] := by
      rw [List.append_assoc, List.dropLast_concat_getLast]
    have last := mending.filled _ (List.getLast_mem mending.ne_nil)
    rw [String.toList_ofList, Text.trim, front, stop, Text.trimEnd_concat last]
  rw [parse_eq_of_trim_eq trimmed]
  rcases answer with ⟨t, read⟩ | ⟨name, failed⟩
  · exact Or.inl ⟨t, by rw [read]; rfl⟩
  · exact Or.inr ⟨name, by rw [failed]; rfl⟩

/-- **An unexpected character cannot be repaired by what follows.** Where an unexpected character is
reported inside the text, no text that goes on with it after the same characters is a type: each is
reported at the same position, and for the same character unless that is a blank. Nor could it have
been reported earlier: some text that goes on otherwise is a type, if it were not for a name. -/
theorem parse_unexpected_final (failed : parse descriptor = .error (.unexpected position found))
    (inside : position < byteLength (Text.trim descriptor.toList)) :
    ∃ before after, Text.trim descriptor.toList = before ++ found :: after ∧
      byteLength before = position ∧
      (∀ other : String, before ++ [found] <+: other.toList →
        ∃ shown, parse other = .error (.unexpected position shown) ∧
          (Text.isBlank found = false → shown = found)) ∧
      ∃ other : String, before <+: other.toList ∧
        ((∃ t, parse other = .ok t) ∨ ∃ name, parse other = .error (.invalidName name)) := by
  rcases unexpected_of_parse failed with
    ⟨used, after, split, place, halted⟩ | ⟨front, split, -, place⟩
  · have start : ∀ c ∈ (used ++ [found]).head?, Text.isBlank c = false := by
      intro c hc
      have first : c ∈ (Text.trim descriptor.toList).head? := by
        rw [split]
        cases used <;> exact hc
      exact Text.isBlank_of_mem_head?_trim first
    refine ⟨used, after, split, place, fun other begins => ?_, halted.exists_parse start⟩
    exact place ▸ halted.parse_eq_error start begins
  · rw [split, byteLength_append] at inside
    exact absurd inside (by rw [← place]; exact Nat.lt_irrefl _)

/-- The blank inside `[ ]` is the end, also where it is the last character and gets trimmed. -/
theorem parse_unexpected_final_blank :
    parse "λ.Map<int[ ]>" = .error (.unexpected 11 ' ') ∧
      11 < byteLength (Text.trim "λ.Map<int[ ]>".toList) ∧
      ∀ other : String, "λ.Map<int[ ".toList <+: other.toList →
        ∃ shown, parse other = .error (.unexpected 11 shown) := by
  have failed : parse "λ.Map<int[ ]>" = .error (.unexpected 11 ' ') :=
    (map_eq_error_iff (f := fun _ => ())).mp (by decide +kernel)
  have inside : 11 < byteLength (Text.trim "λ.Map<int[ ]>".toList) := by decide +kernel
  obtain ⟨before, after, split, -, rejects, -⟩ := parse_unexpected_final failed inside
  have whole : Text.trim "λ.Map<int[ ]>".toList = "λ.Map<int[".toList ++ ' ' :: "]>".toList := by
    decide +kernel
  obtain ⟨rfl, -⟩ := (List.append_cons_inj_of_notMem (by decide) (by decide)).mp
    (whole.symm.trans split)
  refine ⟨failed, inside, fun other begins => ?_⟩
  obtain ⟨shown, answer, -⟩ := rejects other begins
  exact ⟨shown, answer⟩

end Positions

end Companions.ValueType
