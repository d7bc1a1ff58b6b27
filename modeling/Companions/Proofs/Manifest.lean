import Companions.Manifest.Bind
import Mathlib.Data.List.Basic
import Mathlib.Order.Monotone.Basic

/-!
Which declarations of a manifest are kept.

* `filter_firstTargets` — of every name the first declaration is kept, and no other one.
* `pairwise_firstTargets` — these stand in the order in which the names are first declared.
* `only` — the manifest cut down to one name: its first declaration and the fields that name it as
  their owner. Binding it leaves out nothing (`bind_only`), and every field stands at its `rank`
  among the fields of the name (`fieldsOf_only`).
-/

namespace Companions.Manifest

/-! ### First declarations -/

section FirstTargets

variable {seen : List String} {targets : List TargetEntry}

theorem firstTargets_cons_of_seen {e : TargetEntry} (h : e.qualifiedName ∈ seen) :
    (firstTargets seen (e :: targets)).1 = (firstTargets seen targets).1 := by
  simp only [firstTargets, List.contains_iff_mem.mpr h, ↓reduceIte]

theorem firstTargets_cons_of_new {e : TargetEntry} (h : e.qualifiedName ∉ seen) :
    (firstTargets seen (e :: targets)).1
      = e :: (firstTargets (e.qualifiedName :: seen) targets).1 := by
  simp only [firstTargets, List.contains_iff_mem, h, ↓reduceIte]

/-- Of a name that was not seen yet the first declaration is kept, and nothing else. -/
theorem filter_firstTargets {name : String} :
    (firstTargets seen targets).1.filter (·.qualifiedName == name)
      = if name ∈ seen then [] else (targets.find? (·.qualifiedName == name)).toList := by
  induction targets generalizing seen with
  | nil => simp [firstTargets]
  | cons head rest ih =>
      by_cases present : head.qualifiedName ∈ seen
      · rw [firstTargets_cons_of_seen present, ih]
        refine if_ctx_congr Iff.rfl (fun _ => rfl) fun fresh => ?_
        have other : head.qualifiedName ≠ name := fun same => fresh (same ▸ present)
        rw [List.find?_cons_of_neg (by simpa using other)]
      · rw [firstTargets_cons_of_new present]
        by_cases same : head.qualifiedName = name
        · rw [List.filter_cons_of_pos (by simpa using same), ih,
            List.find?_cons_of_pos (by simpa using same), ← same]
          simp [present]
        · rw [List.filter_cons_of_neg (by simpa using same), ih,
            List.find?_cons_of_neg (by simpa using same)]
          simp [Ne.symm same]

theorem mem_firstTargets_iff {e : TargetEntry} :
    e ∈ (firstTargets seen targets).1 ↔
      e.qualifiedName ∉ seen ∧
        targets.find? (·.qualifiedName == e.qualifiedName) = some e := by
  have kept : e ∈ (firstTargets seen targets).1
      ↔ e ∈ (firstTargets seen targets).1.filter (·.qualifiedName == e.qualifiedName) := by simp
  rw [kept, filter_firstTargets]
  split <;> simp_all

/-- The declarations that are kept stand in the order of first declaration. -/
theorem pairwise_firstTargets :
    (firstTargets seen targets).1.Pairwise fun e e' =>
      (targets.map (·.qualifiedName)).idxOf e.qualifiedName
        < (targets.map (·.qualifiedName)).idxOf e'.qualifiedName := by
  induction targets generalizing seen with
  | nil => exact List.Pairwise.nil
  | cons head rest ih =>
      -- Whoever is called unlike the head stands one further with it in front.
      have later : ∀ {e : TargetEntry}, head.qualifiedName ≠ e.qualifiedName →
          ((head :: rest).map (·.qualifiedName)).idxOf e.qualifiedName
            = (rest.map (·.qualifiedName)).idxOf e.qualifiedName + 1 := by
        intro e other
        rw [List.map_cons, List.idxOf_cons_ne _ other]
      by_cases present : head.qualifiedName ∈ seen
      · rw [firstTargets_cons_of_seen present]
        have other : ∀ {e}, e ∈ (firstTargets seen rest).1 → head.qualifiedName ≠ e.qualifiedName :=
          fun h same => (mem_firstTargets_iff.mp h).1 (same ▸ present)
        refine ih.imp_of_mem fun he he' before => ?_
        rw [later (other he), later (other he')]
        exact Nat.succ_lt_succ before
      · rw [firstTargets_cons_of_new present]
        have other : ∀ {e}, e ∈ (firstTargets (head.qualifiedName :: seen) rest).1 →
            head.qualifiedName ≠ e.qualifiedName :=
          fun h same => (mem_firstTargets_iff.mp h).1 (same ▸ List.mem_cons_self)
        refine List.pairwise_cons.mpr ⟨fun e he => ?_, ih.imp_of_mem fun he he' before => ?_⟩
        · rw [later (other he), List.map_cons, List.idxOf_cons_self]
          exact Nat.succ_pos _
        · rw [later (other he), later (other he')]
          exact Nat.succ_lt_succ before

/-- Names of first declarations are distinct. -/
theorem nodup_names_firstTargets :
    ((firstTargets seen targets).1.map (·.qualifiedName)).Nodup := by
  rw [List.Nodup, List.pairwise_map]
  exact pairwise_firstTargets.imp fun before same => by
    rw [same] at before
    exact lt_irrefl _ before

end FirstTargets

/-! ### One name by itself -/

variable {m : Manifest} {name : String}

/-- A declared name has a first declaration. -/
theorem exists_first (declared : ∃ e ∈ m.targets, e.qualifiedName = name) :
    ∃ e, m.targets.find? (·.qualifiedName == e.qualifiedName) = some e ∧
      e.qualifiedName = name := by
  have found : (m.targets.find? (·.qualifiedName == name)).isSome := by
    rw [List.find?_isSome]
    simpa using declared
  obtain ⟨e, first⟩ := Option.isSome_iff_exists.mp found
  obtain rfl : e.qualifiedName = name := by simpa using List.find?_some first
  exact ⟨e, first, rfl⟩

/-- The names of first declarations are those that are declared. -/
theorem mem_names_firstTargets_iff :
    name ∈ (firstTargets [] m.targets).1.map (·.qualifiedName)
      ↔ name ∈ m.targets.map (·.qualifiedName) := by
  rw [List.mem_map, List.mem_map]
  constructor
  · rintro ⟨e, he, rfl⟩
    exact ⟨e, List.mem_of_find?_eq_some (mem_firstTargets_iff.mp he).2, rfl⟩
  · intro declared
    obtain ⟨e, first, rfl⟩ := exists_first declared
    exact ⟨e, mem_firstTargets_iff.mpr ⟨List.not_mem_nil, first⟩, rfl⟩

/-- The manifest cut down to one name: its first declaration and its fields, in order. -/
def only (m : Manifest) (name : String) : Manifest :=
  { targets := (m.targets.find? (·.qualifiedName == name)).toList
    fields := m.fields.filter (·.owner == name) }

/-- All that is left of a manifest with one name belongs to that name. -/
theorem bind_only {e : TargetEntry}
    (first : m.targets.find? (·.qualifiedName == e.qualifiedName) = some e) :
    (m.only e.qualifiedName).bind = ([(m.only e.qualifiedName).binding e], []) := by
  have targets : (m.only e.qualifiedName).targets = [e] := by
    rw [only, first]
    rfl
  have orphans : (m.only e.qualifiedName).orphans = [] := by
    refine List.filter_eq_nil_iff.mpr fun field hfield => ?_
    have owned := (List.mem_filter.mp hfield).2
    rw [targets]
    simpa using (beq_iff_eq.mp owned).symm
  simp only [bind, targets, orphans]
  rfl

/-- What is left out of a class by itself: nothing. -/
theorem bind_only_left (declared : ∃ e ∈ m.targets, e.qualifiedName = name) :
    (m.only name).bind.2 = [] := by
  obtain ⟨e, first, rfl⟩ := exists_first declared
  rw [bind_only first]

/-! ### Positions -/

/-- Positions put aside, the members of a list that are kept with them are those that are kept. -/
theorem filter_eq_map_zipIdx {α : Type} (kept : α → Bool) (l : List α) :
    l.filter kept = (l.zipIdx.filter fun x => kept x.1).map Prod.fst :=
  calc l.filter kept
      = (l.zipIdx.map Prod.fst).filter kept := by rw [List.zipIdx_map_fst]
    _ = (l.zipIdx.filter fun x => kept x.1).map Prod.fst := List.filter_map

/-- A field of a class, as the binding of its class has it. -/
theorem mem_fieldsOf {field : Except FieldError Field} (h : field ∈ m.fieldsOf name) :
    ∃ (e : FieldEntry) (position : Nat),
      m.fields[position]? = some e ∧ e.owner = name ∧ field = e.toField position := by
  obtain ⟨⟨e, position⟩, hx, rfl⟩ := List.mem_map.mp h
  obtain ⟨member, owned⟩ := List.mem_filter.mp hx
  exact ⟨e, position, List.mk_mem_zipIdx_iff_getElem?.mp member, by simpa using owned, rfl⟩

/-- How many fields of the class stand before a position. -/
def rank (m : Manifest) (name : String) (position : Nat) : Nat :=
  (m.fields.take position).countP (·.owner == name)

/-- The positions of the fields of a class. -/
def positions (m : Manifest) (name : String) : Set Nat :=
  {position | ∃ e, m.fields[position]? = some e ∧ e.owner = name}

/-- Of two fields of a class, the one that stands first has fewer of them before it. -/
theorem rank_strictMonoOn : StrictMonoOn (m.rank name) (m.positions name) := by
  rintro i ⟨e, found, owned⟩ j - before
  have counted : m.rank name (i + 1) = m.rank name i + 1 := by
    unfold rank
    rw [List.take_add_one, found, List.countP_append]
    simp [owned]
  calc m.rank name i < m.rank name (i + 1) := by omega
    _ ≤ m.rank name j := (List.take_sublist_take_left before).countP_le

theorem rank_le (position : Nat) : m.rank name position ≤ position :=
  List.countP_le_length.trans (List.length_take_le _ _)

/-- In a list cut down to some members, each of these stands where it stood among them. -/
theorem zipIdx_filter {α : Type} (kept : α → Bool) (l : List α) :
    (l.filter kept).zipIdx
      = (l.zipIdx.filter fun x => kept x.1).map fun x => (x.1, (l.take x.2).countP kept) := by
  -- The induction is on what follows a front, which is all that counts for the positions.
  have from_front : ∀ rest front : List α, (rest.filter kept).zipIdx (front.countP kept)
      = ((rest.zipIdx front.length).filter fun x => kept x.1).map
        fun x => (x.1, ((front ++ rest).take x.2).countP kept) := by
    intro rest
    induction rest with
    | nil => intro front; rfl
    | cons a rest ih =>
        intro front
        have next := ih (front ++ [a])
        rw [List.length_append, List.length_singleton, List.append_assoc, List.singleton_append,
          List.countP_append, List.countP_singleton] at next
        cases h : kept a with
        | true =>
            rw [h] at next
            simp only [List.filter_cons, List.zipIdx_cons, h, ↓reduceIte, List.map_cons,
              List.take_left]
            exact congrArg _ next
        | false =>
            rw [h] at next
            simp only [List.filter_cons, List.zipIdx_cons, h, Bool.false_eq_true, ↓reduceIte]
            exact next
  exact from_front l []

/-- The fields of a class by itself are its fields, each at its rank. -/
theorem fieldsOf_only :
    (m.only name).fieldsOf name = (m.fields.zipIdx.filter fun x => x.1.owner == name).map
      fun x => x.1.toField (m.rank name x.2) := by
  have all : (m.fields.filter (·.owner == name)).zipIdx.filter (fun x => x.1.owner == name)
      = (m.fields.filter (·.owner == name)).zipIdx := by
    refine List.filter_eq_self.mpr fun x hx => ?_
    exact (List.mem_filter.mp (List.fst_mem_of_mem_zipIdx hx)).2
  show ((m.fields.filter (·.owner == name)).zipIdx.filter fun x => x.1.owner == name).map _ = _
  rw [all, zipIdx_filter, List.map_map]
  rfl

end Companions.Manifest
