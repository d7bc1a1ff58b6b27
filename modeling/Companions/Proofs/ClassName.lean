import Companions.ClassName

/-!
Names of classes, read and written back.

`ClassName.segments` loses nothing of a dotted name, and wherever `ClassName.ofSegments` draws the
line between package and classes, the canonical name joins all segments again. So a class that was
read has the name it was read from (`ClassName.canonical_of_parse`).

`ClassName.parse_lossless` says which texts name a class, where the line is drawn in them, and that
reading tells all texts apart.
-/

namespace Companions.ClassName

/-! ### Segments -/

/-- The segments are the pieces between the dots. -/
theorem segments_eq_splitOn (text : List Char) : segments text = text.splitOn '.' := by
  induction text with
  | nil => rfl
  | cons c rest ih =>
      rw [segments, List.splitOn_cons_eq_if_modifyHead, ← ih]
      by_cases dot : c = '.'
      · rw [if_pos dot, if_pos (beq_iff_eq.mpr dot)]
      · rw [if_neg dot, if_neg (mt beq_iff_eq.mp dot)]
        cases split : segments rest with
        | nil => exact absurd (ih.symm.trans split) (List.splitOn_ne_nil '.' rest)
        | cons segment more => rfl

theorem segments_ne_nil (text : List Char) : segments text ≠ [] := by
  rw [segments_eq_splitOn]
  exact List.splitOn_ne_nil '.' text

/-- The segments with dots between them are the text. -/
theorem intercalate_segments (text : List Char) : ['.'].intercalate (segments text) = text := by
  rw [segments_eq_splitOn]
  exact List.intercalate_splitOn '.'

/-- Pieces without dots are what a reader finds between the dots. -/
theorem segments_intercalate {parts : List (List Char)} (filled : parts ≠ [])
    (plain : ∀ part ∈ parts, '.' ∉ part) : segments (['.'].intercalate parts) = parts := by
  rw [segments_eq_splitOn]
  exact List.splitOn_intercalate '.' plain filled

/-! ### Identifiers -/

/-- A letter, an underscore or a dollar sign, then any number of these and of numerals. -/
def Identifier (text : List Char) : Prop :=
  ∃ first rest, text = first :: rest ∧ isSegmentStart first = true ∧
    ∀ c ∈ rest, isSegmentPart c = true

/-- Identifiers with a dot between each two. -/
def Dotted (name : List Char) : Prop :=
  ∃ parts, parts ≠ [] ∧ (∀ part ∈ parts, Identifier part) ∧ name = ['.'].intercalate parts

theorem isSegmentPart_of_isSegmentStart {c : Char} (start : isSegmentStart c = true) :
    isSegmentPart c = true := by
  simp only [isSegmentStart, Bool.or_eq_true] at start
  simp only [isSegmentPart, Text.isAlphanumeric, Bool.or_eq_true]
  rcases start with (letter | underscore) | dollar
  · exact Or.inl (Or.inl (Or.inl letter))
  · exact Or.inl (Or.inr underscore)
  · exact Or.inr dollar

theorem isSegment_iff {text : List Char} : isSegment text = true ↔ Identifier text := by
  cases text with
  | nil => simp [isSegment, Identifier]
  | cons c rest =>
      rw [isSegment, Bool.and_eq_true, List.all_eq_true]
      constructor
      · rintro ⟨start, further⟩
        exact ⟨c, rest, rfl, start, further⟩
      · rintro ⟨first, more, split, start, further⟩
        obtain ⟨rfl, rfl⟩ := List.cons.inj split
        exact ⟨start, further⟩

theorem Identifier.ne_nil {text : List Char} (identifier : Identifier text) : text ≠ [] := by
  obtain ⟨first, rest, rfl, -⟩ := identifier
  exact List.cons_ne_nil first rest

theorem Identifier.isSegmentPart {text : List Char} (identifier : Identifier text) {c : Char}
    (hc : c ∈ text) : isSegmentPart c = true := by
  obtain ⟨first, rest, rfl, start, further⟩ := identifier
  rcases List.mem_cons.mp hc with rfl | hc
  · exact isSegmentPart_of_isSegmentStart start
  · exact further c hc

theorem Identifier.dot_not_mem {text : List Char} (identifier : Identifier text) : '.' ∉ text := by
  intro dot
  have part := identifier.isSegmentPart dot
  exact absurd part (by decide)

/-- A dotted name is one whose pieces between the dots are all identifiers. -/
theorem dotted_iff {name : List Char} :
    Dotted name ↔ ∀ part ∈ segments name, Identifier part := by
  constructor
  · rintro ⟨parts, filled, identifiers, rfl⟩
    rw [segments_intercalate filled fun part hpart => (identifiers part hpart).dot_not_mem]
    exact identifiers
  · intro identifiers
    exact ⟨segments name, segments_ne_nil name, identifiers, (intercalate_segments name).symm⟩

theorem Dotted.exists_cons {name : List Char} (dotted : Dotted name) :
    ∃ first rest, name = first :: rest ∧ isSegmentStart first = true := by
  obtain ⟨parts, filled, identifiers, rfl⟩ := dotted
  cases parts with
  | nil => exact absurd rfl filled
  | cons part more =>
      obtain ⟨first, rest, rfl, start, -⟩ := identifiers part List.mem_cons_self
      cases more with
      | nil => exact ⟨first, rest, List.intercalate_singleton, start⟩
      | cons next more =>
          refine ⟨first, rest ++ ['.'] ++ ['.'].intercalate (next :: more), ?_, start⟩
          rw [List.intercalate_cons_cons, List.cons_append, List.cons_append]

/-- Between the dots of a dotted name stand only characters of identifiers. -/
theorem Dotted.isSegmentPart_or {name : List Char} (dotted : Dotted name) {c : Char}
    (hc : c ∈ name) : isSegmentPart c = true ∨ c = '.' := by
  obtain ⟨parts, -, identifiers, rfl⟩ := dotted
  induction parts with
  | nil => exact absurd hc List.not_mem_nil
  | cons part more ih =>
      obtain ⟨identifier, identifiers⟩ := List.forall_mem_cons.mp identifiers
      cases more with
      | nil =>
          rw [List.intercalate_singleton] at hc
          exact Or.inl (identifier.isSegmentPart hc)
      | cons next more =>
          rw [List.intercalate_cons_cons, List.mem_append, List.mem_append,
            List.mem_singleton] at hc
          rcases hc with (inside | dot) | later
          · exact Or.inl (identifier.isSegmentPart inside)
          · exact Or.inr dot
          · exact ih identifiers later

/-! ### Names and segments -/

theorem joined_segments (name : String) :
    joined "." ((segments name.toList).map String.ofList) = name := by
  rw [← String.toList_inj, joined, String.toList_intercalate, List.map_map]
  simpa using intercalate_segments name.toList

/-! ### Package and classes -/

theorem joined_ne_empty {first : String} {more : List String} (named : first ≠ "") :
    joined "." (first :: more) ≠ "" := by
  rw [joined]
  cases more with
  | nil => rwa [String.intercalate_singleton]
  | cons second more => simp [String.intercalate_cons_cons]

/-- The line between package and classes does not show in the canonical name. -/
theorem canonical_of_ofSegments {package : List String} {parts : List (List Char)} {c : ClassName}
    (found : ofSegments package parts = some c) (named : ∀ p ∈ package, p ≠ "")
    (filled : ∀ part ∈ parts, part ≠ []) :
    c.canonical = joined "." (package ++ parts.map String.ofList) := by
  induction parts generalizing package with
  | nil => exact nomatch found
  | cons segment rest ih =>
      obtain ⟨first, filled⟩ := List.forall_mem_cons.mp filled
      rw [ofSegments] at found
      split at found
      · rw [← Option.some.inj found]
        cases package with
        | nil => rfl
        | cons outermost package =>
            have shown : joined "." (outermost :: package) ≠ "" :=
              joined_ne_empty (named outermost List.mem_cons_self)
            rw [canonical, if_neg (mt String.isEmpty_iff.mp shown)]
            exact (String.intercalate_append_of_ne_nil (List.cons_ne_nil _ _)
              (List.cons_ne_nil _ _)).symm
      · rw [ih found ?_ filled, List.append_assoc]
        · rfl
        · intro p hp
          rcases List.mem_append.mp hp with hp | hp
          · exact named p hp
          · rw [List.mem_singleton.mp hp]
            simpa using first

/-- The line is drawn before the first segment with a capital, or else before the last one. -/
theorem ofSegments_eq_some_iff {package : List String} {parts : List (List Char)} {c : ClassName} :
    ofSegments package parts = some c ↔ ∃ before segment rest,
      parts = before ++ segment :: rest ∧ (∀ part ∈ before, startsCapital part = false) ∧
      (startsCapital segment = true ∨ rest = []) ∧
      c = ⟨joined "." (package ++ before.map String.ofList), String.ofList segment,
        rest.map String.ofList⟩ := by
  induction parts generalizing package with
  | nil => simp [ofSegments]
  | cons segment rest ih =>
      rw [ofSegments]
      by_cases here : (startsCapital segment || rest.isEmpty) = true
      · rw [if_pos here, Option.some.injEq]
        constructor
        · rintro rfl
          refine ⟨[], segment, rest, rfl, nofun, by simpa using here, ?_⟩
          rw [List.map_nil, List.append_nil]
        · rintro ⟨before, other, more, split, lower, -, rfl⟩
          cases before with
          | nil =>
              obtain ⟨rfl, rfl⟩ := List.cons.inj split
              rw [List.map_nil, List.append_nil]
          | cons first before =>
              obtain ⟨rfl, rfl⟩ := List.cons.inj split
              simp [lower segment List.mem_cons_self] at here
      · rw [if_neg here, ih]
        have passed : startsCapital segment = false ∧ rest ≠ [] := by simpa using here
        constructor
        · rintro ⟨before, other, more, rfl, lower, stop, rfl⟩
          refine ⟨segment :: before, other, more, rfl, ?_, stop, ?_⟩
          · exact List.forall_mem_cons.mpr ⟨passed.1, lower⟩
          · rw [List.map_cons, List.append_assoc, List.singleton_append]
        · rintro ⟨before, other, more, split, lower, stop, rfl⟩
          cases before with
          | nil =>
              obtain ⟨rfl, rfl⟩ := List.cons.inj split
              simp [passed] at stop
          | cons first before =>
              obtain ⟨rfl, rfl⟩ := List.cons.inj split
              refine ⟨before, other, more, rfl, (List.forall_mem_cons.mp lower).2, stop, ?_⟩
              rw [List.map_cons, List.append_assoc, List.singleton_append]

/-- Of any segments some are classes. -/
theorem exists_ofSegments {package : List String} {parts : List (List Char)}
    (filled : parts ≠ []) : ∃ c, ofSegments package parts = some c := by
  induction parts generalizing package with
  | nil => exact absurd rfl filled
  | cons segment rest ih =>
      rw [ofSegments]
      by_cases here : (startsCapital segment || rest.isEmpty) = true
      · rw [if_pos here]
        exact ⟨_, rfl⟩
      · rw [if_neg here]
        exact ih fun last => here (by simp [last])

/-- The names of classes are the dotted names. -/
theorem parse_eq_ok_iff {name : String} {c : ClassName} :
    parse name = .ok c ↔
      Dotted name.toList ∧ ofSegments [] (segments name.toList) = some c := by
  have segmented : (segments name.toList).all isSegment = true ↔ Dotted name.toList := by
    rw [dotted_iff, List.all_eq_true]
    exact forall₂_congr fun part _ => isSegment_iff
  rw [← segmented]
  simp only [parse]
  by_cases every : (segments name.toList).all isSegment = true
  · rw [if_pos every]
    cases ofSegments [] (segments name.toList) <;> simp [every]
  · rw [if_neg every]
    simp [every]

/-- **A class that was read has the name it was read from.** -/
theorem canonical_of_parse {name : String} {c : ClassName} (read : parse name = .ok c) :
    c.canonical = name := by
  obtain ⟨dotted, found⟩ := parse_eq_ok_iff.mp read
  have filled : ∀ part ∈ segments name.toList, part ≠ [] :=
    fun part hpart => (dotted_iff.mp dotted part hpart).ne_nil
  exact (canonical_of_ofSegments found nofun filled).trans (joined_segments name)

theorem exists_parse_iff {name : String} :
    (∃ c, parse name = .ok c) ↔ ∀ part ∈ segments name.toList, Identifier part := by
  rw [← dotted_iff]
  constructor
  · rintro ⟨c, read⟩
    exact (parse_eq_ok_iff.mp read).1
  · intro dotted
    obtain ⟨c, found⟩ := exists_ofSegments (segments_ne_nil name.toList)
    exact ⟨c, parse_eq_ok_iff.mpr ⟨dotted, found⟩⟩

/-- A text that names no class is itself reported. -/
theorem parse_eq_error {name : String} (unread : ¬∃ c, parse name = .ok c) :
    parse name = .error (.invalidName name) := by
  simp only [parse] at unread ⊢
  split
  · rename_i c found
    rw [found] at unread
    exact absurd ⟨c, rfl⟩ unread
  · rfl

/-- Reading tells texts apart: the class has the name that was read, the failure carries it. -/
theorem eq_of_parse_eq {name other : String} (same : parse name = parse other) :
    name = other := by
  by_cases read : ∃ c, parse name = .ok c
  · obtain ⟨c, read⟩ := read
    rw [← canonical_of_parse read, canonical_of_parse (same ▸ read)]
  · have failed := parse_eq_error (same ▸ read)
    rw [← same, parse_eq_error read] at failed
    injection failed with reason
    injection reason

/-! ### Classes that can be read -/

/-- The class is made up of these segments: a package without capitals, the outermost class, and
the nested ones, which only a class with a capital has. -/
structure Segmented (c : ClassName) (before : List (List Char)) (segment : List Char)
    (rest : List (List Char)) : Prop where
  identifiers : ∀ part ∈ before ++ segment :: rest, Identifier part
  lower : ∀ part ∈ before, startsCapital part = false
  capital : startsCapital segment = true ∨ rest = []
  eq : c = ⟨joined "." (before.map String.ofList), String.ofList segment, rest.map String.ofList⟩

theorem segmented_of_parse {name : String} {c : ClassName} (read : parse name = .ok c) :
    ∃ before segment rest, Segmented c before segment rest := by
  obtain ⟨dotted, found⟩ := parse_eq_ok_iff.mp read
  obtain ⟨before, segment, rest, split, lower, capital, rfl⟩ := ofSegments_eq_some_iff.mp found
  exact ⟨before, segment, rest, split ▸ dotted_iff.mp dotted, lower, capital, rfl⟩

theorem segments_joined {parts : List (List Char)} (filled : parts ≠ [])
    (identifiers : ∀ part ∈ parts, Identifier part) :
    segments (joined "." (parts.map String.ofList)).toList = parts := by
  rw [joined, String.toList_intercalate, List.map_map]
  simpa using segments_intercalate filled fun part hpart => (identifiers part hpart).dot_not_mem

namespace Segmented

variable {c d : ClassName} {before before' rest rest' : List (List Char)}
  {segment segment' : List Char}

/-- Between the dots of the canonical name stand all segments. -/
theorem segments_canonical (made : Segmented c before segment rest) :
    segments c.canonical.toList = before ++ segment :: rest := by
  have filled : ∀ part ∈ before ++ segment :: rest, part ≠ [] :=
    fun part hpart => (made.identifiers part hpart).ne_nil
  have found : ofSegments [] (before ++ segment :: rest) = some c :=
    ofSegments_eq_some_iff.mpr ⟨before, segment, rest, rfl, made.lower, made.capital, made.eq⟩
  rw [canonical_of_ofSegments found nofun filled, List.nil_append,
    segments_joined (by simp) made.identifiers]

/-- Between the dots of the relative name stand the segments without the package. -/
theorem segments_relative (made : Segmented c before segment rest) :
    segments c.relative.toList = segment :: rest := by
  have relative : c.relative = joined "." ((segment :: rest).map String.ofList) := by
    rw [made.eq]
    rfl
  rw [relative, segments_joined (List.cons_ne_nil _ _) fun part hpart =>
    made.identifiers part (List.mem_append_right before hpart)]

theorem parse_canonical (made : Segmented c before segment rest) :
    parse c.canonical = .ok c := by
  have found : ofSegments [] (before ++ segment :: rest) = some c :=
    ofSegments_eq_some_iff.mpr ⟨before, segment, rest, rfl, made.lower, made.capital, made.eq⟩
  rw [parse_eq_ok_iff, dotted_iff, made.segments_canonical]
  exact ⟨made.identifiers, found⟩

/-- The outermost class around a class that can be read can be read as well. -/
theorem topLevel (made : Segmented c before segment rest) :
    Segmented c.topLevel before segment [] where
  identifiers part hpart := by
    refine made.identifiers part ?_
    rcases List.mem_append.mp hpart with package | outer
    · exact List.mem_append_left _ package
    · rw [List.mem_singleton.mp outer]
      exact List.mem_append_right _ List.mem_cons_self
  lower := made.lower
  capital := Or.inr rfl
  eq := by rw [made.eq]; rfl

theorem outer_eq (made : Segmented c before segment rest) : c.outer = String.ofList segment := by
  rw [made.eq]

theorem identifier_of_mem_simpleNames (made : Segmented c before segment rest) :
    ∀ name ∈ c.simpleNames, Identifier name.toList := by
  have names : c.simpleNames = (segment :: rest).map String.ofList := by rw [made.eq]; rfl
  rw [names]
  refine List.forall_mem_map.mpr fun part hpart => ?_
  rw [String.toList_ofList]
  exact made.identifiers part (List.mem_append_right _ hpart)

/-- Classes with one relative name differ at most in their packages. -/
theorem eq_of_relative_eq (made : Segmented c before segment rest)
    (made' : Segmented d before' segment' rest') (same : c.relative = d.relative) :
    c.outer = d.outer ∧ c.inner = d.inner := by
  have parts := made.segments_relative
  rw [same, made'.segments_relative] at parts
  obtain ⟨rfl, rfl⟩ := List.cons.inj parts
  rw [made.eq, made'.eq]
  exact ⟨rfl, rfl⟩

/-- No relative name is the name of a class with its package. -/
theorem relative_ne_canonical (made : Segmented c before segment rest)
    (made' : Segmented d before' segment' rest') (packaged : d.package ≠ "") :
    c.relative ≠ d.canonical := by
  intro same
  have parts := made.segments_relative
  rw [same, made'.segments_canonical] at parts
  cases before' with
  | nil => exact packaged (by rw [made'.eq]; rfl)
  | cons first before' =>
      -- the first segment of a package has no capital, so it would be a class without nested ones
      obtain ⟨rfl, rfl⟩ := List.cons.inj parts
      have lower := made'.lower first List.mem_cons_self
      rcases made.capital with capital | alone
      · rw [lower] at capital
        exact nomatch capital
      · simp at alone

end Segmented

/-- **Names of classes are split and joined losslessly.** A text is read as a class exactly if every
piece between its dots is an identifier, and otherwise fails with the text itself. The class has the
text as its canonical name and is read from it again. Its package and its simple names together are
the pieces, in order; there is at least one simple name, no piece of the package starts with a
capital, and only an outermost class that does has classes nested in it. So no two texts are read
alike. -/
theorem parse_lossless :
    Function.Injective parse ∧
      ∀ name : String,
        let pieces := name.toList.splitOn '.'
        ((∃ c, parse name = .ok c) ↔ ∀ piece ∈ pieces, Identifier piece) ∧
          ((∃ piece ∈ pieces, ¬Identifier piece) → parse name = .error (.invalidName name)) ∧
          ∀ c, parse name = .ok c →
            c.canonical = name ∧ parse c.canonical = .ok c ∧ c.simpleNames ≠ [] ∧
              (∃ package : List (List Char),
                c.package = joined "." (package.map String.ofList) ∧
                  pieces = package ++ c.simpleNames.map String.toList ∧
                  ∀ piece ∈ package, startsCapital piece = false) ∧
              (c.isNested = true → startsCapital c.outer.toList = true) := by
  refine ⟨fun name other => eq_of_parse_eq, fun name => ?_⟩
  intro pieces
  have split : segments name.toList = pieces := segments_eq_splitOn name.toList
  have readable : (∃ c, parse name = .ok c) ↔ ∀ piece ∈ pieces, Identifier piece :=
    split ▸ exists_parse_iff
  refine ⟨readable, ?_, ?_⟩
  · rintro ⟨piece, hpiece, other⟩
    exact parse_eq_error fun read => other (readable.mp read piece hpiece)
  · intro c read
    obtain ⟨before, segment, rest, made⟩ := segmented_of_parse read
    have named := canonical_of_parse read
    refine ⟨named, made.parse_canonical, List.cons_ne_nil _ _, ?_, ?_⟩
    · refine ⟨before, by rw [made.eq], ?_, made.lower⟩
      rw [← split, ← named, made.segments_canonical, simpleNames, made.eq]
      simp [Function.comp_def]
    · rw [isNested, made.eq]
      intro nested
      have inside : rest ≠ [] := by simpa using nested
      simpa [inside] using made.capital

/-- The first capital opens the classes, whatever is in front of the segments after it. -/
example :
    (parse "org.größe.Outer.$inner").toOption.map (fun c => (c.package, c.simpleNames))
      = some ("org.größe", ["Outer", "$inner"]) := by
  decide +kernel

end Companions.ClassName
