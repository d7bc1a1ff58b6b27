import Companions.Proofs.Contract
import Companions.Proofs.Start.Family
import Companions.Proofs.Text.Casing
import Mathlib.Data.List.Nodup

/-!
The names of the constants.

A companion has a constant for the key of every field and of every value that is handed back, named
after the role and the key in capitals. A key is a sequence of words (`Naming.words`), and its
capitals are these words in upper case with underscores between them (`Naming.constantChars_eq`), so
how the words were kept apart is lost: `userId` and `user_id` have the same capitals. Nothing else
is lost but the case (`Naming.constantName_eq_iff`), and constants of different roles never meet.

`Assembly.generate_constants` puts this together: the constants of a companion have names of their
own exactly when no two keys of one role have the same words.
-/

namespace Companions

/-! ### Words -/

namespace Naming

variable {c : Char} {rest name : List Char}

/-- Whether a text goes on from a lower-case character to an upper-case one. -/
def turns (c : Char) (rest : List Char) : Bool :=
  Text.isLowercase c && rest.head?.any Text.isUppercase

/-- A text cut into words, at every separator and wherever it turns from lower case to upper case.
Beside a separator a word may be empty. -/
def words : List Char → List (List Char)
  | [] => [[]]
  | c :: rest =>
    if isSeparator c then [] :: words rest
    else if turns c rest then [c] :: words rest
    else (words rest).modifyHead (c :: ·)

theorem words_cons : words (c :: rest)
    = if isSeparator c then [] :: words rest
      else if turns c rest then [c] :: words rest
      else (words rest).modifyHead (c :: ·) :=
  rfl

theorem words_ne_nil (name : List Char) : words name ≠ [] := by
  induction name with
  | nil => exact List.cons_ne_nil _ _
  | cons c rest ih =>
      rw [words_cons]
      split
      · exact List.cons_ne_nil _ _
      · split
        · exact List.cons_ne_nil _ _
        · exact mt List.modifyHead_eq_nil_iff.mp ih

/-- No separator is left in a word. -/
theorem isSeparator_of_mem_words {word : List Char} (member : word ∈ words name) :
    ∀ c ∈ word, isSeparator c = false := by
  induction name generalizing word with
  | nil =>
      rw [List.mem_singleton.mp member]
      nofun
  | cons c rest ih =>
      rw [words_cons] at member
      split at member
      · rcases List.mem_cons.mp member with rfl | later
        · nofun
        · exact ih later
      · rename_i letter
        rw [Bool.not_eq_true] at letter
        split at member
        · rcases List.mem_cons.mp member with rfl | later
          · exact List.forall_mem_cons.mpr ⟨letter, nofun⟩
          · exact ih later
        · obtain ⟨first, more, cut⟩ := List.exists_cons_of_ne_nil (words_ne_nil rest)
          rw [cut] at ih member
          rw [List.modifyHead_cons] at member
          rcases List.mem_cons.mp member with rfl | later
          · exact List.forall_mem_cons.mpr ⟨letter, ih List.mem_cons_self⟩
          · exact ih (List.mem_cons_of_mem _ later)

/-- The words of a name in upper case. -/
def capitals (name : String) : List (List Char) :=
  (words name.toList).map (·.flatMap Text.uppercase)

theorem capitals_ne_nil {name : String} : capitals name ≠ [] :=
  mt List.map_eq_nil_iff.mp (words_ne_nil _)

theorem underscore_not_mem_capitals {name : String} {word : List Char}
    (member : word ∈ capitals name) : '_' ∉ word := by
  obtain ⟨word, hword, rfl⟩ := List.mem_map.mp member
  intro underscore
  obtain ⟨c, hc, made⟩ := List.mem_flatMap.mp underscore
  refine Text.not_mem_uppercase ?_ (by decide) (by decide) made
  rintro rfl
  exact nomatch isSeparator_of_mem_words hword _ hc

/-- Two names that consist of the same words, up to case. -/
def SameWords (x y : String) : Prop :=
  capitals x = capitals y

instance : DecidableRel SameWords := fun x y =>
  inferInstanceAs (Decidable (capitals x = capitals y))

/-! ### Names in capitals -/

theorem isLowercase_of_isSeparator (separator : isSeparator c = true) :
    Text.isLowercase c = false := by
  simp only [isSeparator, Bool.or_eq_true, beq_iff_eq] at separator
  rcases separator with (rfl | rfl) | rfl <;> rfl

theorem constantChars_cons : constantChars (c :: rest)
    = (if isSeparator c then ['_'] else Text.uppercase c)
      ++ ((if turns c rest then ['_'] else []) ++ constantChars rest) := by
  cases rest with
  | nil => simp [constantChars, turns]
  | cons d rest =>
      rw [constantChars, turns, List.head?_cons, Option.any_some]
      cases Text.isLowercase c && Text.isUppercase d <;> rfl

/-- **A name in capitals is its words in upper case, with underscores between them.** -/
theorem constantChars_eq :
    constantChars name = ['_'].intercalate ((words name).map (·.flatMap Text.uppercase)) := by
  induction name with
  | nil => rfl
  | cons c rest ih =>
      have some : (words rest).map (·.flatMap Text.uppercase) ≠ [] :=
        mt List.map_eq_nil_iff.mp (words_ne_nil _)
      rw [constantChars_cons, words_cons, ih]
      by_cases separator : isSeparator c = true
      · have straight : turns c rest = false := by
          rw [turns, isLowercase_of_isSeparator separator, Bool.false_and]
        rw [if_pos separator, if_pos separator, straight, List.map_cons,
          List.intercalate_cons_of_ne_nil some]
        rfl
      rw [if_neg separator, if_neg separator]
      by_cases turn : turns c rest = true
      · rw [if_pos turn, if_pos turn, List.map_cons, List.intercalate_cons_of_ne_nil some,
          List.flatMap_singleton, List.append_assoc]
      · -- The character goes in front of the next word, whether or not others follow that.
        rw [if_neg turn, if_neg turn, List.nil_append]
        obtain ⟨first, more, cut⟩ := List.exists_cons_of_ne_nil (words_ne_nil rest)
        rw [cut, List.modifyHead_cons, List.map_cons, List.map_cons, List.flatMap_cons]
        cases more with
        | nil => simp only [List.map_nil, List.intercalate_singleton]
        | cons second more =>
            simp only [List.map_cons, List.intercalate_cons_cons, List.append_assoc]

/-- The words can be read back from the name in capitals. -/
theorem constantChars_eq_iff {x y : String} :
    constantChars x.toList = constantChars y.toList ↔ SameWords x y := by
  rw [constantChars_eq, constantChars_eq, ← capitals, ← capitals]
  refine ⟨fun same => ?_, congrArg _⟩
  have pieces := congrArg (List.splitOn '_') same
  rwa [List.splitOn_intercalate '_' (fun _ => underscore_not_mem_capitals) capitals_ne_nil,
    List.splitOn_intercalate '_' (fun _ => underscore_not_mem_capitals) capitals_ne_nil] at pieces

/-! ### Names of constants -/

/-- What the names of constants begin with. -/
def roles : List String :=
  ["REQUIRED_", "OPTIONAL_", "RESULT_"]

/-- **Two constants have one name exactly when they have one role and their keys the same
words.** -/
theorem constantName_eq_iff {role role' x y : String} (h : role ∈ roles) (h' : role' ∈ roles) :
    constantName role x = constantName role' y ↔ role = role' ∧ SameWords x y := by
  by_cases same : role = role'
  · subst same
    rw [constantName, constantName, String.append_right_inj, String.ofList_inj,
      constantChars_eq_iff, and_iff_right rfl]
  · refine iff_of_false (fun names => ?_) fun both => same both.1
    have texts := congrArg String.toList names
    simp only [roles, List.mem_cons, List.not_mem_nil, or_false] at h h'
    rcases h with rfl | rfl | rfl <;> rcases h' with rfl | rfl | rfl <;>
      simp [constantName] at texts same

/-- The constants of one role. -/
theorem constantNames_nodup_iff {role : String} (h : role ∈ roles) {keys : List String} :
    (keys.map (constantName role)).Nodup ↔ keys.Pairwise fun x y => ¬ SameWords x y := by
  rw [List.Nodup, List.pairwise_map]
  simp only [ne_eq, constantName_eq_iff h h, true_and]

theorem constantNames_disjoint {role role' : String} (h : role ∈ roles) (h' : role' ∈ roles)
    (other : role ≠ role') {keys keys' : List String} :
    (keys.map (constantName role)).Disjoint (keys'.map (constantName role')) := by
  intro name made made'
  obtain ⟨x, -, rfl⟩ := List.mem_map.mp made
  obtain ⟨y, -, same⟩ := List.mem_map.mp made'
  exact other ((constantName_eq_iff h' h).mp same).1.symm

end Naming

/-! ### Constants of a companion -/

/-- The values that a screen hands back. Those of a fragment are left out. -/
def Target.handedBack (t : Target) : List ResultValue :=
  match t.kind with
  | .activity => t.results
  | .fragment => []

namespace Assembly

variable {settings : Settings} {target : Target} {fields : List Field} {a : Assembly}
  {c : Companion}

/-- The contract holds the values that are handed back. -/
theorem Reached.results_eq (reached : Reached settings target fields a) :
    a.contract.toList.flatMap Contract.results = target.handedBack := by
  have made := reached.contract_eq
  unfold Target.handedBack
  cases kind : target.kind with
  | fragment =>
      rw [kind] at made
      rw [made]
      rfl
  | activity =>
      rw [kind] at made
      cases contract : a.contract with
      | none =>
          have filled := (Contract.isSome_of_make made).not
          rw [contract] at filled
          exact (not_not.mp (filled.mp nofun)).symm
      | some k =>
          rw [contract] at made
          exact (List.append_nil _).trans (Contract.make_eq_ok made).1

/-- The constants of one role. -/
def constantsFor (role : String) (keys : List String) : List Constant :=
  keys.map fun key => ⟨Naming.constantName role key, key⟩

/-- There is a constant for every field and for every value that is handed back. -/
theorem Reached.constants_eq (reached : Reached settings target fields a) :
    a.constants
      = constantsFor "REQUIRED_" ((Field.inOrder (fields.filter (·.required))).map (·.name))
        ++ constantsFor "OPTIONAL_" ((Field.inOrder (fields.filter (!·.required))).map (·.name))
        ++ constantsFor "RESULT_" (target.handedBack.map (·.name)) := by
  have results : (a.contract.toList.flatMap fun k => k.results.map
      fun r => (⟨Naming.constantName "RESULT_" r.name, r.name⟩ : Constant))
        = constantsFor "RESULT_" (target.handedBack.map (·.name)) := by
    rw [← reached.results_eq, constantsFor, List.map_map, List.map_flatMap]
    rfl
  rw [← reached.required_eq, ← reached.optional_eq, ← results]
  rfl

theorem names_constantsFor {role : String} {keys : List String} :
    (constantsFor role keys).map (·.name) = keys.map (Naming.constantName role) := by
  rw [constantsFor, List.map_map]
  rfl

theorem values_constantsFor {role : String} {keys : List String} :
    (constantsFor role keys).map (·.value) = keys := by
  rw [constantsFor, List.map_map]
  exact List.map_id keys

/-- Constants of one role clash where their keys have the same words, others never. -/
theorem names_constants_nodup_iff {required optional results : List String} :
    ((constantsFor "REQUIRED_" required ++ constantsFor "OPTIONAL_" optional
        ++ constantsFor "RESULT_" results).map (·.name)).Nodup
      ↔ (required.Pairwise fun x y => ¬ Naming.SameWords x y) ∧
        (optional.Pairwise fun x y => ¬ Naming.SameWords x y) ∧
        results.Pairwise fun x y => ¬ Naming.SameWords x y := by
  simp only [List.map_append, names_constantsFor, List.nodup_append', List.disjoint_append_left]
  rw [Naming.constantNames_nodup_iff (by decide), Naming.constantNames_nodup_iff (by decide),
    Naming.constantNames_nodup_iff (by decide)]
  exact ⟨fun h => ⟨h.1.1, h.1.2.1, h.2.1⟩, fun h =>
    ⟨⟨h.1, h.2.1, Naming.constantNames_disjoint (by decide) (by decide) (by decide)⟩, h.2.2,
      Naming.constantNames_disjoint (by decide) (by decide) (by decide),
      Naming.constantNames_disjoint (by decide) (by decide) (by decide)⟩⟩

/-- In an order of the fields of one kind no two have the same words exactly when no two of the
kind have. -/
theorem pairwise_names_inOrder_filter {p : Field → Bool} :
    (((Field.inOrder (fields.filter p)).map (·.name)).Pairwise fun x y => ¬ Naming.SameWords x y)
      ↔ fields.Pairwise fun f g => p f = true → p g = true →
          ¬ Naming.SameWords f.name g.name := by
  rw [List.pairwise_map,
    (Field.inOrder_perm _).pairwise_iff fun apart same => apart same.symm, List.pairwise_filter]

/-- **When constants clash.** A companion has one constant for every field, required ones first, and
for every value that is handed back, and the constants have names of their own exactly when no two
fields that are both required or both optional, and no two values, have the same words. -/
theorem generate_constants (reached : Reached settings target fields a)
    (generated : a.generate = .ok c) :
    c.constants.map (·.value)
        = (Field.inOrder (fields.filter (·.required))).map (·.name)
          ++ (Field.inOrder (fields.filter (!·.required))).map (·.name)
          ++ target.handedBack.map (·.name) ∧
      ((c.constants.map (·.name)).Nodup ↔
        (fields.Pairwise fun f g => f.required = g.required →
          ¬ Naming.SameWords f.name g.name) ∧
        target.handedBack.Pairwise fun r s => ¬ Naming.SameWords r.name s.name) := by
  obtain ⟨rfl, -⟩ := generate_eq_ok_iff.mp generated
  rw [companionWith, reached.constants_eq]
  refine ⟨?_, ?_⟩
  · simp only [List.map_append, values_constantsFor]
  · rw [names_constants_nodup_iff, pairwise_names_inOrder_filter, pairwise_names_inOrder_filter,
      List.pairwise_map, ← and_assoc, ← List.pairwise_and_iff]
    refine and_congr_left fun _ => ?_
    have role : ∀ f g : Field, ((f.required = true → g.required = true →
        ¬ Naming.SameWords f.name g.name) ∧ ((!f.required) = true → (!g.required) = true →
          ¬ Naming.SameWords f.name g.name))
          ↔ (f.required = g.required → ¬ Naming.SameWords f.name g.name) := by
      intro f g
      cases f.required <;> cases g.required <;> simp
    simp only [role]

/-- No two keys of the editor have the same words. -/
theorem generate_constants_editor :
    ∃ a c, Reached {} editor editorFields a ∧ a.generate = .ok c ∧
      (c.constants.map (·.name)).Nodup := by
  obtain ⟨a, c, reached, generated⟩ := editor_generates
  refine ⟨a, c, reached, generated, (generate_constants reached generated).2.mpr ⟨?_, ?_⟩⟩
  · decide
  · decide

/-- Two spellings of one name. -/
def spellings : List Field :=
  [sampleField "userId" .string true 1 (by decide) (by decide),
    sampleField "user_id" .string true 2 (by decide) (by decide)]

/-- An editor takes both, and its companion declares one constant twice. -/
theorem constants_spellings :
    ∃ a c, Reached {} editor spellings a ∧ a.generate = .ok c ∧
      c.constants.map (·.name)
        = ["REQUIRED_USER_ID", "REQUIRED_USER_ID", "RESULT_STATUS", "RESULT_COUNT"] ∧
      ¬ (c.constants.map (·.name)).Nodup := by
  obtain ⟨a, c, reached, generated, names⟩ :
      ∃ a c, Reached {} editor spellings a ∧ a.generate = .ok c ∧ c.constants.map (·.name)
        = ["REQUIRED_USER_ID", "REQUIRED_USER_ID", "RESULT_STATUS", "RESULT_COUNT"] :=
    exists_generated (by decide +kernel)
  refine ⟨a, c, reached, generated, names, ?_⟩
  rw [names]
  decide

end Assembly

end Companions
