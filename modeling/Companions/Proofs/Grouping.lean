import Companions.Proofs.Manifest
import Companions.Proofs.OrderKeys

/-!
A manifest read from front to back.

A `Grouping` is the table of bindings while a manifest is read. A declared screen opens a binding at
the end of the table, unless there is one of its name; a declared field goes to the end of the
binding of its owner; what has no place leaves a warning (`Grouping.declare`, `Grouping.place`).

`foldl_declare` and `foldl_place` say what any number of such steps make of a table, and
`grouped_eq` that a whole manifest is grouped as `Manifest.bind` says. `bind_partitions` says what
this is: every declaration of a manifest has one place, in the order of the manifest.
-/

namespace Companions

/-- The bindings of the screens that were read, and the warnings so far. -/
structure Grouping where
  bindings : List Binding := []
  warnings : List Warning := []

/-- The names in a table of bindings. -/
def bindingNames (bindings : List Binding) : List String :=
  bindings.map (·.className)

/-- A binding without fields yet. -/
def TargetEntry.opened (e : TargetEntry) : Binding :=
  { className := e.qualifiedName, target := e.toTarget, fields := [] }

/-- The table with a field at the end of the first binding of a name, if there is one. -/
def give? (name : String) (field : Except FieldError Field) : List Binding → Option (List Binding)
  | [] => none
  | b :: rest =>
    if b.className == name then some ({ b with fields := b.fields ++ [field] } :: rest)
    else (give? name field rest).map (b :: ·)

namespace Grouping

/-- Reads a declared screen. -/
def declare (g : Grouping) (e : TargetEntry) : Grouping :=
  if (bindingNames g.bindings).contains e.qualifiedName then
    { g with warnings := g.warnings ++ [.duplicateTarget e.qualifiedName] }
  else { g with bindings := g.bindings ++ [e.opened] }

/-- Reads a declared field, with its position in the manifest. -/
def place (g : Grouping) (item : FieldEntry × Nat) : Grouping :=
  match give? item.1.owner (item.1.toField item.2) g.bindings with
  | some bindings => { g with bindings }
  | none => { g with warnings := g.warnings ++ [.orphanField item.1.owner item.1.name] }

end Grouping

/-- Reads the screens of a manifest, then its fields. -/
def Manifest.grouped (m : Manifest) : Grouping :=
  m.fields.zipIdx.foldl Grouping.place (m.targets.foldl Grouping.declare {})

/-! ### Screens -/

namespace Grouping

variable {g : Grouping}

theorem declare_of_mem {e : TargetEntry} (known : e.qualifiedName ∈ bindingNames g.bindings) :
    g.declare e = { g with warnings := g.warnings ++ [.duplicateTarget e.qualifiedName] } :=
  if_pos (List.contains_iff_mem.mpr known)

theorem declare_of_not_mem {e : TargetEntry} (new : e.qualifiedName ∉ bindingNames g.bindings) :
    g.declare e = { g with bindings := g.bindings ++ [e.opened] } :=
  if_neg fun known => new (List.contains_iff_mem.mp known)

/-- **Screens that are read** open a binding for each name that is new, and leave a warning for
each that is not. -/
theorem foldl_declare {targets : List TargetEntry} {seen : List String}
    (same : ∀ name, name ∈ seen ↔ name ∈ bindingNames g.bindings) :
    targets.foldl declare g
      = { bindings := g.bindings
            ++ (Manifest.firstTargets seen targets).1.map TargetEntry.opened
          warnings := g.warnings
            ++ (Manifest.firstTargets seen targets).2.map .duplicateTarget } := by
  induction targets generalizing g seen with
  | nil => simp [Manifest.firstTargets]
  | cons e rest ih =>
      rw [List.foldl_cons]
      by_cases known : e.qualifiedName ∈ seen
      · rw [declare_of_mem ((same _).mp known)]
        rw [ih (g := { g with warnings := g.warnings ++ [.duplicateTarget e.qualifiedName] }) same]
        simp only [Manifest.firstTargets, List.contains_iff_mem.mpr known, ↓reduceIte,
          List.map_cons, List.append_assoc, List.singleton_append]
      · rw [declare_of_not_mem fun h => known ((same _).mpr h)]
        have grown : ∀ name, name ∈ e.qualifiedName :: seen
            ↔ name ∈ bindingNames (g.bindings ++ [e.opened]) := by
          intro name
          rw [bindingNames, List.map_append, List.mem_append, List.mem_cons, same, or_comm]
          exact or_congr_right List.mem_singleton.symm
        rw [ih grown]
        simp only [Manifest.firstTargets, List.contains_iff_mem, known, ↓reduceIte,
          List.map_cons, List.append_assoc, List.singleton_append]

end Grouping

/-! ### Fields -/

/-- The fields of a name among some of the declared ones, each converted at its position. -/
def ownedFields (items : List (FieldEntry × Nat)) (name : String) :
    List (Except FieldError Field) :=
  (items.filter fun item => item.1.owner == name).map fun item => item.1.toField item.2

/-- The binding with the fields of its name among some of the declared ones. -/
def Binding.withFields (items : List (FieldEntry × Nat)) (b : Binding) : Binding :=
  { b with fields := b.fields ++ ownedFields items b.className }

section Give

variable {bindings : List Binding} {name : String} {field : Except FieldError Field}
  {item : FieldEntry × Nat}

theorem bindingNames_withFields {items : List (FieldEntry × Nat)} :
    bindingNames (bindings.map (Binding.withFields items)) = bindingNames bindings := by
  simp only [bindingNames, List.map_map]
  rfl

theorem Binding.withFields_nil : withFields [] = id := by
  funext b
  simp [withFields, ownedFields]

/-- Some fields after another one are added one after the other. -/
theorem Binding.withFields_cons (item : FieldEntry × Nat) (rest : List (FieldEntry × Nat)) :
    withFields (item :: rest) = withFields rest ∘ withFields [item] := by
  funext b
  simp only [withFields, ownedFields, Function.comp, List.append_assoc, ← List.map_append,
    ← List.filter_append, List.singleton_append]

theorem Binding.withFields_of_ne {b : Binding} (other : item.1.owner ≠ b.className) :
    b.withFields [item] = b := by
  rw [withFields, ownedFields, List.filter_cons_of_neg (by simpa using other)]
  simp

theorem Binding.withFields_of_eq {b : Binding} (own : item.1.owner = b.className) :
    b.withFields [item] = { b with fields := b.fields ++ [item.1.toField item.2] } := by
  rw [withFields, ownedFields, List.filter_cons_of_pos (by simpa using own)]
  rfl

/-- A field without an owner in the table is not given to anyone. -/
theorem give?_of_not_mem (absent : name ∉ bindingNames bindings) :
    give? name field bindings = none := by
  induction bindings with
  | nil => rfl
  | cons b rest ih =>
      have other : name ≠ b.className := List.ne_of_not_mem_cons absent
      rw [give?, if_neg (by simpa using other.symm), ih (List.not_mem_of_not_mem_cons absent)]
      rfl

/-- A field goes to its owner and to nobody else, where every name has one binding. -/
theorem give?_of_mem (distinct : (bindingNames bindings).Nodup)
    (present : item.1.owner ∈ bindingNames bindings) :
    give? item.1.owner (item.1.toField item.2) bindings
      = some (bindings.map (Binding.withFields [item])) := by
  induction bindings with
  | nil => exact absurd present List.not_mem_nil
  | cons b rest ih =>
      obtain ⟨(apart : b.className ∉ bindingNames rest), distinctRest⟩ :=
        List.nodup_cons.mp distinct
      by_cases own : item.1.owner = b.className
      · have others : rest.map (Binding.withFields [item]) = rest := by
          refine (List.map_congr_left fun b' hb' => ?_).trans (List.map_id rest)
          refine Binding.withFields_of_ne fun same => apart ?_
          exact (own.symm.trans same) ▸ List.mem_map_of_mem hb'
        rw [give?, if_pos (by simpa using own.symm), List.map_cons, Binding.withFields_of_eq own,
          others]
      · have presentRest := (List.mem_cons.mp present).resolve_left own
        rw [give?, if_neg (by simpa using Ne.symm own), ih distinctRest presentRest, List.map_cons,
          Binding.withFields_of_ne own]
        rfl

end Give

namespace Grouping

variable {g : Grouping} {items : List (FieldEntry × Nat)}

/-- **Fields that are read** go to the binding of their owner, in order, and leave a warning each
where there is none. -/
theorem foldl_place (distinct : (bindingNames g.bindings).Nodup) :
    items.foldl place g
      = { bindings := g.bindings.map (Binding.withFields items)
          warnings := g.warnings
            ++ (items.filter fun item => item.1.owner ∉ bindingNames g.bindings).map
              fun item => .orphanField item.1.owner item.1.name } := by
  induction items generalizing g with
  | nil => simp [Binding.withFields_nil]
  | cons item rest ih =>
      rw [List.foldl_cons]
      by_cases present : item.1.owner ∈ bindingNames g.bindings
      · have step : g.place item
            = { g with bindings := g.bindings.map (Binding.withFields [item]) } := by
          rw [place, give?_of_mem distinct present]
        have names : bindingNames (g.place item).bindings = bindingNames g.bindings := by
          rw [step, bindingNames_withFields]
        rw [ih (names ▸ distinct), names, step, List.filter_cons_of_neg (by simpa using present),
          Binding.withFields_cons item rest, List.map_map]
      · have step : g.place item = { g with warnings := g.warnings
            ++ [.orphanField item.1.owner item.1.name] } := by
          rw [place, give?_of_not_mem present]
        have nobody : g.bindings.map (Binding.withFields [item]) = g.bindings := by
          refine (List.map_congr_left fun b hb => ?_).trans (List.map_id _)
          exact Binding.withFields_of_ne fun same => present (same ▸ List.mem_map_of_mem hb)
        have names : bindingNames (g.place item).bindings = bindingNames g.bindings := by rw [step]
        rw [ih (names ▸ distinct), names, step, List.filter_cons_of_pos (by simpa using present),
          Binding.withFields_cons item rest, ← List.map_map, nobody]
        simp only [List.map_cons, List.append_assoc, List.singleton_append]

end Grouping

/-! ### A whole manifest -/

namespace Manifest

variable {m : Manifest}

/-- The declared screens, in order, that others of their name precede. -/
def laterTargets (m : Manifest) : List TargetEntry :=
  (m.targets.zipIdx.filter fun item =>
    (m.targets.take item.2).any (·.qualifiedName == item.1.qualifiedName)).map Prod.fst

theorem bindingNames_opened {targets : List TargetEntry} :
    bindingNames (targets.map TargetEntry.opened) = targets.map (·.qualifiedName) := by
  rw [bindingNames, List.map_map]
  rfl

theorem orphans_eq :
    m.orphans = m.fields.filter (·.owner ∉ m.targets.map (·.qualifiedName)) :=
  List.filter_congr fun e _ => by
    rw [Bool.eq_iff_iff]
    simp

/-- **Reading a manifest from front to back** groups it as its binding says. -/
theorem grouped_eq (m : Manifest) :
    m.grouped = { bindings := m.bind.1, warnings := m.bind.2 } := by
  have screens : m.targets.foldl Grouping.declare {}
      = { bindings := (firstTargets [] m.targets).1.map TargetEntry.opened
          warnings := (firstTargets [] m.targets).2.map .duplicateTarget } :=
    Grouping.foldl_declare fun name => Iff.rfl
  have names : bindingNames ((firstTargets [] m.targets).1.map TargetEntry.opened)
      = (firstTargets [] m.targets).1.map (·.qualifiedName) := bindingNames_opened
  have left : m.orphans.map (fun e => Warning.orphanField e.owner e.name)
      = (m.fields.zipIdx.filter fun item => item.1.owner ∉ m.targets.map (·.qualifiedName)).map
        fun item => .orphanField item.1.owner item.1.name := by
    rw [orphans_eq, filter_eq_map_zipIdx, List.map_map]
    rfl
  rw [grouped, screens, Grouping.foldl_place (names ▸ nodup_names_firstTargets)]
  simp only [names, mem_names_firstTargets_iff, ← left, List.map_map]
  rfl

/-- Behind a front whose names were seen, those declarations are left out that have a name of the
front or of one that stands between. -/
theorem repeated_firstTargets (front rest : List TargetEntry) {seen : List String}
    (same : ∀ name, name ∈ seen ↔ name ∈ front.map (·.qualifiedName)) :
    (firstTargets seen rest).2
      = ((rest.zipIdx front.length).filter fun item =>
          ((front ++ rest).take item.2).any (·.qualifiedName == item.1.qualifiedName)).map
        (·.1.qualifiedName) := by
  induction rest generalizing front seen with
  | nil => rfl
  | cons e rest ih =>
      have next := @ih (front ++ [e])
      have before : (front.any (·.qualifiedName == e.qualifiedName)) = true
          ↔ e.qualifiedName ∈ seen := by
        rw [same]
        simp
      simp only [List.length_append, List.length_singleton, List.append_assoc,
        List.singleton_append, List.map_append, List.map_singleton, List.mem_append,
        List.mem_singleton] at next
      rw [List.zipIdx_cons]
      by_cases known : e.qualifiedName ∈ seen
      · have grown : ∀ name, name ∈ seen
            ↔ name ∈ front.map (·.qualifiedName) ∨ name = e.qualifiedName := fun name =>
          ⟨fun h => Or.inl ((same name).mp h),
            fun h => h.elim (same name).mpr fun own => own ▸ known⟩
        rw [List.filter_cons_of_pos (by rw [List.take_left]; exact before.mpr known),
          List.map_cons, ← next grown]
        simp only [firstTargets, List.contains_iff_mem.mpr known, ↓reduceIte]
      · have grown : ∀ name, name ∈ e.qualifiedName :: seen
            ↔ name ∈ front.map (·.qualifiedName) ∨ name = e.qualifiedName := fun name => by
          rw [List.mem_cons, same, or_comm]
        rw [List.filter_cons_of_neg (by rw [List.take_left]; exact fun h => known (before.mp h)),
          ← next grown]
        simp only [firstTargets, List.contains_iff_mem, known, ↓reduceIte]

/-- The names that are left out are those of the later declarations. -/
theorem repeated_eq : (firstTargets [] m.targets).2 = m.laterTargets.map (·.qualifiedName) := by
  rw [laterTargets, List.map_map]
  exact repeated_firstTargets [] m.targets fun name => Iff.rfl

end Manifest

/-- Items have one of some distinct keys or none of them. -/
theorem perm_flatMap_filter {α : Type} (key : α → String) {names : List String}
    (distinct : names.Nodup) (items : List α) :
    items.Perm ((names.flatMap fun name => items.filter (key · == name))
      ++ items.filter (key · ∉ names)) := by
  induction names generalizing items with
  | nil => simp
  | cons name rest ih =>
      obtain ⟨apart, distinctRest⟩ := List.nodup_cons.mp distinct
      let others := items.filter fun x => !(key x == name)
      have split : items.Perm (items.filter (key · == name) ++ others) :=
        (List.filter_append_perm _ _).symm
      have groups : (rest.flatMap fun name => others.filter (key · == name))
          = rest.flatMap fun name => items.filter (key · == name) := by
        refine List.flatMap_congr fun name' hname' => ?_
        have different : name' ≠ name := fun same => apart (same ▸ hname')
        rw [List.filter_filter]
        refine List.filter_congr fun x _ => ?_
        by_cases own : key x = name' <;> simp [own, different]
      have left : others.filter (key · ∉ rest) = items.filter (key · ∉ name :: rest) := by
        rw [List.filter_filter]
        refine List.filter_congr fun x _ => ?_
        rw [Bool.eq_iff_iff]
        simp [and_comm]
      rw [List.flatMap_cons, List.append_assoc, ← groups, ← left]
      exact split.trans ((ih distinctRest others).append_left _)

namespace Manifest

variable {m : Manifest}

/-- The names of the bindings. -/
theorem bindingNames_bind (m : Manifest) :
    bindingNames m.bind.1 = (firstTargets [] m.targets).1.map (·.qualifiedName) := by
  rw [bind, bindingNames, List.map_map]
  rfl

theorem nodup_bindingNames_bind (m : Manifest) : (bindingNames m.bind.1).Nodup := by
  rw [bindingNames_bind]
  exact nodup_names_firstTargets

theorem mem_bindingNames_bind_iff {name : String} :
    name ∈ bindingNames m.bind.1 ↔ name ∈ m.targets.map (·.qualifiedName) := by
  rw [bindingNames_bind, mem_names_firstTargets_iff]

/-- A binding comes from the first declaration of its name. -/
theorem exists_of_mem_bind {b : Binding} (hb : b ∈ m.bind.1) :
    ∃ e, m.targets.find? (·.qualifiedName == b.className) = some e ∧ b = m.binding e := by
  obtain ⟨e, he, rfl⟩ := List.mem_map.mp hb
  exact ⟨e, (mem_firstTargets_iff.mp he).2, rfl⟩

theorem fields_of_mem_bind {b : Binding} (hb : b ∈ m.bind.1) :
    b.fields = (m.fields.zipIdx.filter (·.1.owner == b.className)).map
      fun item => item.1.toField item.2 := by
  obtain ⟨e, -, rfl⟩ := exists_of_mem_bind hb
  rfl

/-- Each declared field, with its position, belongs to one binding or to none. -/
theorem perm_fields_bind (m : Manifest) : m.fields.zipIdx.Perm
    (m.bind.1.flatMap (fun b => m.fields.zipIdx.filter (·.1.owner == b.className))
      ++ m.fields.zipIdx.filter (·.1.owner ∉ m.targets.map (·.qualifiedName))) := by
  have split := perm_flatMap_filter (fun item : FieldEntry × Nat => item.1.owner)
    m.nodup_bindingNames_bind m.fields.zipIdx
  simp only [mem_bindingNames_bind_iff] at split
  rwa [bindingNames, List.flatMap_map] at split

/-- **A manifest is parted among its screens.** Reading it from front to back gives one binding for
each declared name, made from the first declaration of the name, in the order of first declaration.
Each later declaration of a name leaves one warning, and then each field whose owner is not declared
leaves one, both in the order of the manifest. The other fields are in the binding of their owner,
whether or not its screen could be converted, in order and each converted at its position in the
manifest, which is its key if it declares none. So every field has exactly one place. -/
theorem bind_partitions (m : Manifest) :
    let bindings := m.bind.1
    let names := m.targets.map (·.qualifiedName)
    let orphans := m.fields.filter (·.owner ∉ names)
    m.grouped = { bindings, warnings := m.bind.2 } ∧
      (bindingNames bindings).Nodup ∧ (∀ name, name ∈ bindingNames bindings ↔ name ∈ names) ∧
      (bindings.Pairwise fun b b' => names.idxOf b.className < names.idxOf b'.className) ∧
      (∀ b ∈ bindings, ∃ e, m.targets.find? (·.qualifiedName == b.className) = some e ∧
        b.target = e.toTarget) ∧
      m.bind.2 = m.laterTargets.map (.duplicateTarget ·.qualifiedName)
        ++ orphans.map (fun e => .orphanField e.owner e.name) ∧
      (∀ b ∈ bindings, b.fields = (m.fields.zipIdx.filter (·.1.owner == b.className)).map
        fun item => item.1.toField item.2) ∧
      (∀ (e : FieldEntry) position f, e.toField position = .ok f →
        f.order = e.order.getD (min position (2 ^ 32 - 1))) ∧
      m.fields.zipIdx.Perm
        (bindings.flatMap (fun b => m.fields.zipIdx.filter (·.1.owner == b.className))
          ++ m.fields.zipIdx.filter (·.1.owner ∉ names)) ∧
      (bindings.map (·.fields.length)).sum + orphans.length = m.fields.length := by
  intro bindings names orphans
  refine ⟨m.grouped_eq, m.nodup_bindingNames_bind, fun name => mem_bindingNames_bind_iff, ?_,
    fun b hb => ?_, ?_, fun b hb => fields_of_mem_bind hb, ?_, m.perm_fields_bind, ?_⟩
  · show ((firstTargets [] m.targets).1.map m.binding).Pairwise _
    rw [List.pairwise_map]
    exact pairwise_firstTargets
  · obtain ⟨e, first, rfl⟩ := exists_of_mem_bind hb
    exact ⟨e, first, rfl⟩
  · show (firstTargets [] m.targets).2.map Warning.duplicateTarget
      ++ m.orphans.map (fun e => .orphanField e.owner e.name) = _
    rw [repeated_eq, orphans_eq, List.map_map]
    rfl
  · intro e position f converted
    exact FieldEntry.order_of_toField converted
  · have sizes : bindings.map (·.fields.length)
        = bindings.map fun b => (m.fields.zipIdx.filter (·.1.owner == b.className)).length :=
      List.map_congr_left fun b hb => by rw [fields_of_mem_bind hb, List.length_map]
    have left : orphans.length = (m.fields.zipIdx.filter (·.1.owner ∉ names)).length := by
      rw [← List.length_map Prod.fst, ← filter_eq_map_zipIdx fun e : FieldEntry => e.owner ∉ names]
    rw [sizes, left, ← List.length_flatMap, ← List.length_append, ← m.perm_fields_bind.length_eq,
      List.length_zipIdx]

end Manifest

end Companions
