import Companions.Proofs.Start.Window

/-!
Indices around the ring.

A window of `n` fields reads the indices `ringIndices n step start`: one after the other, and zero
after the last. How far an index is from the beginning of the window, going around (`turn`), tells
whether the window reads it (`mem_ringIndices_iff`). So it reads none twice (`ringIndices_nodup`),
and if it leaves out one of them, then the set of its indices determines it
(`place_eq_of_mem_ringIndices_iff`): it begins at the only index whose predecessor it leaves out.
-/

namespace Companions

/-- The indices that a window of `n` fields reads, in order. -/
def ringIndices (n step start : Nat) : List Nat :=
  (List.range step).map fun i => (start + i) % n

/-- How many steps it takes around a ring of `n` from `start` to `index`. -/
def turn (n start index : Nat) : Nat :=
  if start ≤ index then index - start else index + n - start

section Indices

variable {n step start index i : Nat}

theorem length_ringIndices : (ringIndices n step start).length = step := by
  simp [ringIndices]

theorem lt_of_mem_ringIndices (some : 0 < n) (h : index ∈ ringIndices n step start) :
    index < n := by
  obtain ⟨i, -, rfl⟩ := List.mem_map.mp h
  exact Nat.mod_lt _ some

/-- Going around once at most, the remainder is taken by one subtraction at most. -/
theorem add_mod_eq_ite (inside : start < n) (short : i < n) :
    (start + i) % n = if start + i < n then start + i else start + i - n := by
  split
  · rw [Nat.mod_eq_of_lt ‹_›]
  · rw [Nat.mod_eq_sub_mod (by omega), Nat.mod_eq_of_lt (by omega)]

theorem turn_lt (inside : start < n) (h : index < n) : turn n start index < n := by
  unfold turn
  split <;> omega

theorem turn_add_mod (inside : start < n) (short : i < n) :
    turn n start ((start + i) % n) = i := by
  rw [add_mod_eq_ite inside short]
  unfold turn
  split <;> split <;> omega

theorem add_turn_mod (inside : start < n) (h : index < n) :
    (start + turn n start index) % n = index := by
  rw [add_mod_eq_ite inside (turn_lt inside h)]
  unfold turn
  split <;> split <;> omega

/-- A window reads the indices that are fewer steps away from its beginning than it is long. -/
theorem mem_ringIndices_iff (inside : start < n) (short : step ≤ n) (h : index < n) :
    index ∈ ringIndices n step start ↔ turn n start index < step := by
  rw [ringIndices, List.mem_map]
  constructor
  · rintro ⟨i, hi, rfl⟩
    have near : i < step := List.mem_range.mp hi
    rwa [turn_add_mod inside (by omega)]
  · intro near
    exact ⟨turn n start index, List.mem_range.mpr near, add_turn_mod inside h⟩

/-- No window reads an index twice. -/
theorem ringIndices_nodup (inside : start < n) (short : step ≤ n) :
    (ringIndices n step start).Nodup := by
  refine List.Nodup.map_on (fun i hi j hj same => ?_) List.nodup_range
  rw [List.mem_range] at hi hj
  rw [← turn_add_mod inside (show i < n by omega), same, turn_add_mod inside (by omega)]

end Indices

/-! ### A window is known from the set of its indices -/

section Sets

variable {n : Nat} {place place' : Nat × Nat}

/-- A window that contains the beginning of another one, but not the index before it, begins
there. -/
theorem start_eq_of_mem_ringIndices_iff (hplace : place ∈ places n) (hplace' : place' ∈ places n)
    (same : ∀ index < n, index ∈ ringIndices n place.1 place.2
      ↔ index ∈ ringIndices n place'.1 place'.2) : place.2 = place'.2 := by
  obtain ⟨long, short, inside⟩ := mem_places_iff.mp hplace
  obtain ⟨long', short', inside'⟩ := mem_places_iff.mp hplace'
  -- The index before the beginning is the last one that a full turn would reach.
  let before := if place.2 = 0 then n - 1 else place.2 - 1
  have beforeInside : before < n := by
    dsimp only [before]
    split <;> omega
  have contained : turn n place'.2 place.2 < place'.1 := by
    rw [← mem_ringIndices_iff inside' short'.le inside, ← same _ inside,
      mem_ringIndices_iff inside short.le inside]
    unfold turn
    split <;> omega
  have leftOut : ¬ turn n place'.2 before < place'.1 := by
    rw [← mem_ringIndices_iff inside' short'.le beforeInside, ← same _ beforeInside,
      mem_ringIndices_iff inside short.le beforeInside]
    dsimp only [before]
    unfold turn
    split <;> split <;> omega
  by_contra other
  refine leftOut (Nat.lt_of_le_of_lt ?_ contained)
  dsimp only [before]
  unfold turn
  split <;> split <;> split <;> omega

/-- **Windows that read the same indices are the same window.** -/
theorem place_eq_of_mem_ringIndices_iff (hplace : place ∈ places n) (hplace' : place' ∈ places n)
    (same : ∀ index < n, index ∈ ringIndices n place.1 place.2
      ↔ index ∈ ringIndices n place'.1 place'.2) : place = place' := by
  obtain ⟨-, short, inside⟩ := mem_places_iff.mp hplace
  obtain ⟨-, short', inside'⟩ := mem_places_iff.mp hplace'
  have some : 0 < n := by omega
  have perm : (ringIndices n place.1 place.2).Perm (ringIndices n place'.1 place'.2) := by
    refine (List.perm_ext_iff_of_nodup (ringIndices_nodup inside short.le)
      (ringIndices_nodup inside' short'.le)).mpr fun index => ?_
    exact ⟨fun h => (same index (lt_of_mem_ringIndices some h)).mp h,
      fun h => (same index (lt_of_mem_ringIndices some h)).mpr h⟩
  have steps : place.1 = place'.1 := by
    simpa only [length_ringIndices] using perm.length_eq
  exact Prod.ext steps (start_eq_of_mem_ringIndices_iff hplace hplace' same)

end Sets

/-! ### Runs and their indices -/

section Runs

variable {fields : List Field} {step start index : Nat}

/-- A run is read off its indices. -/
theorem cyclicRun_eq_filterMap : cyclicRun fields step start
    = (ringIndices fields.length step start).filterMap (fields[·]?) := by
  rw [ringIndices, List.filterMap_map]
  rfl

/-- Each index of a run has a field. -/
theorem map_some_cyclicRun (some : 0 < fields.length) :
    (cyclicRun fields step start).map Option.some
      = (ringIndices fields.length step start).map (fields[·]?) := by
  have inside : ∀ index ∈ ringIndices fields.length step start, index < fields.length :=
    fun index => lt_of_mem_ringIndices some
  rw [cyclicRun_eq_filterMap]
  generalize ringIndices fields.length step start = indices at inside
  induction indices with
  | nil => rfl
  | cons index rest ih =>
      obtain ⟨head, tail⟩ := List.forall_mem_cons.mp inside
      rw [List.filterMap_cons, List.getElem?_eq_getElem head, List.map_cons, List.map_cons, ih tail,
        List.getElem?_eq_getElem head]

/-- Where no field stands twice, a run takes the field at an index if it reads this index. -/
theorem getElem_mem_cyclicRun_iff (distinct : fields.Nodup) (h : index < fields.length) :
    fields[index] ∈ cyclicRun fields step start
      ↔ index ∈ ringIndices fields.length step start := by
  rw [cyclicRun_eq_filterMap, List.mem_filterMap]
  constructor
  · rintro ⟨other, member, found⟩
    rw [← List.getElem?_eq_getElem h] at found
    exact (List.getElem?_inj h distinct).mp found.symm ▸ member
  · intro member
    exact ⟨index, member, List.getElem?_eq_getElem h⟩

/-- **Runs that take the same fields are at the same place**, where no field stands twice. -/
theorem place_eq_of_mem_cyclicRun_iff {place place' : Nat × Nat} (distinct : fields.Nodup)
    (hplace : place ∈ places fields.length) (hplace' : place' ∈ places fields.length)
    (same : ∀ f, f ∈ cyclicRun fields place.1 place.2 ↔ f ∈ cyclicRun fields place'.1 place'.2) :
    place = place' := by
  refine place_eq_of_mem_ringIndices_iff hplace hplace' fun index h => ?_
  rw [← getElem_mem_cyclicRun_iff distinct h, ← getElem_mem_cyclicRun_iff distinct h]
  exact same _

/-- A run takes some field, and leaves out another one. -/
theorem exists_mem_and_not_mem_cyclicRun {place : Nat × Nat} (distinct : fields.Nodup)
    (hplace : place ∈ places fields.length) :
    (∃ f ∈ fields, f ∈ cyclicRun fields place.1 place.2) ∧
      ∃ f ∈ fields, f ∉ cyclicRun fields place.1 place.2 := by
  obtain ⟨long, short, inside⟩ := mem_places_iff.mp hplace
  have size := length_cyclicRun inside short.le
  constructor
  · obtain ⟨f, taken⟩ := List.exists_mem_of_length_pos (l := cyclicRun fields place.1 place.2)
      (by omega)
    exact ⟨f, mem_of_mem_cyclicRun taken, taken⟩
  · by_contra all
    push Not at all
    have whole := (distinct.subperm fun f hf => all f hf).length_le
    omega

end Runs

end Companions
