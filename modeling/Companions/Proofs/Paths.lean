import Companions.Console.FileTree

/-!
Paths as texts, and where they lead.

A path goes on step by step. A step is a stay (an empty step or `.`), a way back (`..`), or the name
of an entry. `arrival` are the names that lead to where a path ends, read off its text alone, and in
a tree of files it leads nowhere else (`FileTree.names_of_resolve`).

A text that is joined to a path follows it after one slash (`below_eq`), so that joining names one
after the other is joining them as one text (`foldl_below`). Names that can be nothing but names are
components, and components lead further in from wherever a path has led, one entry for each
(`arrival_foldl_below`).
-/

namespace Companions.Console

variable {home names : List String} {path text name root : String}

/-! ### Slashes -/

/-- A path with the slash that a further step needs. -/
def slashed (path : String) : String :=
  if path.isEmpty || path.endsWith "/" then path else path ++ "/"

theorem startsWith_slash_iff : path.startsWith "/" = true ↔ path.toList.head? = some '/' := by
  rw [String.startsWith_string_iff]
  cases path.toList with
  | nil => simp
  | cons c rest => simp [eq_comm]

theorem startsWith_slash_eq_false (plain : '/' ∉ name.toList) : name.startsWith "/" = false := by
  rw [Bool.eq_false_iff, ne_eq, startsWith_slash_iff]
  exact fun front => plain (List.mem_of_mem_head? front)

/-- A path begins where its first part does. -/
theorem startsWith_slash_append (filled : path ≠ "") (more : String) :
    (path ++ more).startsWith "/" = path.startsWith "/" := by
  obtain ⟨c, rest, shown⟩ := List.exists_cons_of_ne_nil (mt String.toList_eq_nil_iff.mp filled)
  rw [Bool.eq_iff_iff, startsWith_slash_iff, startsWith_slash_iff, String.toList_append, shown]
  rfl

theorem endsWith_slash_iff : path.endsWith "/" = true ↔ ∃ before, path = before ++ "/" := by
  rw [String.endsWith_eq_endsWith_toSlice, String.Slice.endsWith_string_iff, String.copy_toSlice]
  constructor
  · rintro ⟨before, split⟩
    refine ⟨String.ofList before, String.toList_inj.mp ?_⟩
    rw [String.toList_append, String.toList_ofList, split]
  · rintro ⟨before, rfl⟩
    exact ⟨before.toList, String.toList_append.symm⟩

/-- A text that does not begin at the root follows the path after one slash. -/
theorem below_eq (relative : text.startsWith "/" = false) :
    below path text = slashed path ++ text := by
  rw [below, slashed, relative, if_neg Bool.false_ne_true]
  by_cases ready : (path.isEmpty || path.endsWith "/") = true
  · rw [if_pos ready, if_pos ready]
  · rw [if_neg ready, if_neg ready]

/-- A path that ends in a name does not have the slash yet. -/
theorem slashed_append (filled : name ≠ "") (plain : '/' ∉ name.toList) :
    slashed (path ++ name) = path ++ name ++ "/" := by
  rw [slashed, if_neg]
  rw [Bool.or_eq_true, not_or, String.isEmpty_iff, endsWith_slash_iff]
  refine ⟨by simp [filled], fun ⟨before, same⟩ => plain ?_⟩
  have letters : path.toList ++ name.toList = before.toList ++ ['/'] := by
    simpa [String.toList_append] using congrArg String.toList same
  obtain ⟨last, found⟩ := Option.ne_none_iff_exists'.mp
    (mt List.getLast?_eq_none_iff.mp (mt String.toList_eq_nil_iff.mp filled))
  have slash : last = '/' := by
    have ends := congrArg List.getLast? letters
    simpa [List.getLast?_append, found] using ends
  exact slash ▸ List.mem_of_getLast? found

/-! ### Steps -/

theorem steps_of_plain (plain : '/' ∉ name.toList) : steps name = [name] := by
  rw [steps, List.splitOn_eq_singleton plain, List.map_singleton, String.ofList_toList]

theorem steps_append_slash (path more : String) :
    steps (path ++ "/" ++ more) = steps path ++ steps more := by
  have text : (path ++ "/" ++ more).toList = path.toList ++ '/' :: more.toList := by
    simp [String.toList_append]
  rw [steps, text, List.splitOn_append_cons_self, List.map_append]
  rfl

/-- Names with slashes between them are the steps of what they make. -/
theorem steps_joined (some : names ≠ []) (plain : ∀ name ∈ names, '/' ∉ name.toList) :
    steps (joined "/" names) = names := by
  rw [steps, joined, String.toList_intercalate, show "/".toList = ['/'] from rfl,
    List.splitOn_intercalate '/' (by simpa using plain) (by simpa using some), List.map_map]
  simp [Function.comp_def]

/-! ### Where paths lead -/

/-- Where a step leads to, by the names that lead there from the root. The root has nothing
around it. -/
def onward (names : List String) (step : String) : List String :=
  if step = "" ∨ step = "." then names
  else if step = ".." then names.dropLast
  else names ++ [step]

/-- Where a path leads to. It begins at the root or else at `home`. -/
def arrival (home : List String) (path : String) : List String :=
  (steps path).foldl onward (if path.startsWith "/" then [] else home)

/-- A name that stands for an entry of a directory and for nothing else: it is no stay and no way
back, and no character in it parts a path or ends it, with slashes of either kind. -/
structure Component (step : String) : Prop where
  ne_empty : step ≠ ""
  ne_stay : step ≠ "."
  ne_back : step ≠ ".."
  slash_not_mem : '/' ∉ step.toList
  backslash_not_mem : '\\' ∉ step.toList
  nul_not_mem : '\x00' ∉ step.toList

theorem Component.onward_eq (component : Component name) : onward names name = names ++ [name] := by
  rw [onward, if_neg (not_or.mpr ⟨component.ne_empty, component.ne_stay⟩), if_neg component.ne_back]

/-- A name leads on from where the path has led; a slash at its end leads nowhere else. -/
theorem foldl_onward_slashed (plain : '/' ∉ name.toList) (names : List String) :
    (steps (slashed path ++ name)).foldl onward names
      = onward ((steps path).foldl onward names) name := by
  rw [slashed]
  split
  · rename_i ready
    rcases Bool.or_eq_true_iff.mp ready with empty | ends
    · obtain rfl := String.isEmpty_iff.mp empty
      rw [String.empty_append, steps_of_plain plain]
      rfl
    · obtain ⟨before, rfl⟩ := endsWith_slash_iff.mp ends
      -- The steps of the path end in an empty one, which leads nowhere and gives way to the name.
      have shown : steps (before ++ "/") = steps before ++ [""] := by
        rw [← String.append_empty (s := before ++ "/"), steps_append_slash]
        rfl
      rw [steps_append_slash, steps_of_plain plain, shown, List.foldl_append, List.foldl_append]
      rfl
  · rw [steps_append_slash, steps_of_plain plain, List.foldl_append]
    rfl

/-- A path with another name begins where it did. -/
theorem startsWith_slash_slashed (plain : '/' ∉ name.toList) :
    (slashed path ++ name).startsWith "/" = path.startsWith "/" := by
  by_cases filled : path = ""
  · have bare : slashed "" ++ name = name := String.empty_append
    rw [filled, bare, startsWith_slash_eq_false plain, startsWith_slash_eq_false (by simp)]
  · rw [slashed]
    split
    · exact startsWith_slash_append filled name
    · rw [String.append_assoc, startsWith_slash_append filled]

/-- **A component that is joined to a path leads one entry further in.** -/
theorem arrival_below (component : Component name) :
    arrival home (below path name) = arrival home path ++ [name] := by
  have plain := component.slash_not_mem
  rw [below_eq (startsWith_slash_eq_false plain), arrival, arrival, startsWith_slash_slashed plain,
    foldl_onward_slashed plain, component.onward_eq]

theorem arrival_foldl_below (components : ∀ name ∈ names, Component name) :
    arrival home (names.foldl below root) = arrival home root ++ names := by
  induction names generalizing root with
  | nil => exact (List.append_nil _).symm
  | cons name rest ih =>
      obtain ⟨first, others⟩ := List.forall_mem_cons.mp components
      rw [List.foldl_cons, ih others, arrival_below first, List.append_assoc, List.singleton_append]

/-- Joined components are no path from the root. -/
theorem startsWith_slash_joined (components : ∀ name ∈ names, Component name) :
    (joined "/" names).startsWith "/" = false := by
  cases names with
  | nil => exact startsWith_slash_eq_false List.not_mem_nil
  | cons name rest =>
      have first := components name List.mem_cons_self
      rw [← startsWith_slash_eq_false first.slash_not_mem, joined]
      cases rest with
      | nil => rw [String.intercalate_singleton]
      | cons second rest =>
          rw [String.intercalate_cons_cons, String.append_assoc,
            startsWith_slash_append first.ne_empty]

/-- Joining components one after the other is joining them with slashes between them. -/
theorem foldl_below (some : names ≠ []) (components : ∀ name ∈ names, Component name) :
    names.foldl below root = below root (joined "/" names) := by
  induction names generalizing root with
  | nil => exact absurd rfl some
  | cons name rest ih =>
      obtain ⟨first, others⟩ := List.forall_mem_cons.mp components
      cases rest with
      | nil => rw [List.foldl_cons, List.foldl_nil, joined, String.intercalate_singleton]
      | cons second rest =>
          have split : joined "/" (name :: second :: rest)
              = name ++ "/" ++ joined "/" (second :: rest) := String.intercalate_cons_cons
          rw [List.foldl_cons, ih (List.cons_ne_nil _ _) others,
            below_eq (startsWith_slash_joined components),
            below_eq (startsWith_slash_joined others),
            below_eq (startsWith_slash_eq_false first.slash_not_mem),
            slashed_append first.ne_empty first.slash_not_mem, split]
          simp only [String.append_assoc]

/-! ### Places in a tree of files -/

namespace Place

variable {p q : Place} {step : String} {rest : List String}

/-- Where something is, every name on the way there was found in a directory. -/
def Grounded (p : Place) : Prop :=
  p.here ≠ none → p.above.length = p.inward.length

theorem names_down (p : Place) (name : String) : (p.down name).names = p.names ++ [name] := by
  unfold down
  split <;> exact List.reverse_cons

theorem Grounded.down (grounded : p.Grounded) (name : String) : (p.down name).Grounded := by
  unfold Place.down
  split
  · rename_i e here
    have found : p.above.length = p.inward.length := grounded (by simp [here])
    exact fun _ => congrArg (· + 1) found
  · exact fun present => absurd rfl present

theorem Grounded.up (grounded : p.Grounded) (present : p.here ≠ none) : p.up.Grounded := by
  cases around : p.above with
  | nil => rwa [Place.up, around]
  | cons e above =>
      have found := grounded present
      rw [around, List.length_cons] at found
      rw [Place.up, around]
      intro _
      rw [List.length_tail, ← found, Nat.add_sub_cancel]

/-- A way back leads to the directory around the place. -/
theorem Grounded.names_up (grounded : p.Grounded) (present : p.here ≠ none) :
    p.up.names = p.names.dropLast := by
  cases around : p.above with
  | nil =>
      have outermost : p.inward = [] := by simpa [around, eq_comm] using grounded present
      rw [Place.up, around, names, outermost]
      rfl
  | cons e above => rw [Place.up, around, names, names, List.dropLast_reverse]

/-- A walk that gets anywhere takes its first step where that step leads to. -/
theorem Grounded.exists_walk (grounded : p.Grounded) (walked : p.walk (step :: rest) = .ok q) :
    ∃ next : Place, next.Grounded ∧ next.names = onward p.names step ∧ next.walk rest = .ok q := by
  rw [walk] at walked
  split at walked
  · cases walked
  · cases walked
  · cases walked
  · rename_i members here
    have present : p.here ≠ none := by simp [here]
    rw [onward]
    split at walked
    · rename_i stay
      exact ⟨p, grounded, (if_pos stay).symm, walked⟩
    · rename_i further
      rw [if_neg further]
      split at walked
      · rename_i back
        exact ⟨p.up, grounded.up present, by rw [if_pos back, grounded.names_up present], walked⟩
      · rename_i inward
        split at walked
        · cases walked
        · exact ⟨p.down step, grounded.down step, by rw [if_neg inward, names_down], walked⟩

/-- A walk ends where its steps lead to. -/
theorem Grounded.names_of_walk {steps : List String} (grounded : p.Grounded)
    (walked : p.walk steps = .ok q) : q.names = steps.foldl onward p.names := by
  induction steps generalizing p with
  | nil =>
      cases walked
      rfl
  | cons step rest ih =>
      obtain ⟨next, footing, named, walked⟩ := grounded.exists_walk walked
      rw [List.foldl_cons, ← named, ih footing walked]

theorem Grounded.foldl_down {inner : List String} (grounded : p.Grounded) :
    (inner.foldl Place.down p).Grounded := by
  induction inner generalizing p with
  | nil => exact grounded
  | cons name rest ih => exact ih (grounded.down name)

theorem names_foldl_down {inner : List String} :
    (inner.foldl Place.down p).names = p.names ++ inner := by
  induction inner generalizing p with
  | nil => exact (List.append_nil _).symm
  | cons name rest ih =>
      rw [List.foldl_cons, ih, names_down, List.append_assoc, List.singleton_append]

end Place

/-- **A path leads where its text says.** -/
theorem FileTree.names_of_resolve {tree : FileTree} {place : Place}
    (resolved : tree.resolve path = .ok place) : place.names = arrival tree.home path := by
  have top : tree.top.Grounded := fun _ => rfl
  unfold resolve at resolved
  split at resolved
  · cases resolved
  · split at resolved
    · cases resolved
    · split at resolved
      · cases resolved
      · rw [arrival]
        split at resolved
        · rename_i absolute
          rw [if_pos absolute, top.names_of_walk resolved]
          rfl
        · rename_i relative
          have footing : tree.start.Grounded := top.foldl_down
          have named : tree.start.names = tree.home := Place.names_foldl_down
          rw [if_neg relative, footing.names_of_walk resolved, named]

end Companions.Console
