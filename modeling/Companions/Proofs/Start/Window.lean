import Companions.Start.Window
import Mathlib.Data.List.Nodup
import Mathlib.Data.List.Perm.Subperm
import Mathlib.Data.List.Range

/-!
Which windows there are.

The state of the enumeration after `k` windows is `Windows.after kind fields k`: division of `k` by
the number of fields gives length and beginning of the next window. One step goes from `after k` to
`after (k + 1)` (`next?_after`) and stops at the count (`next?_after_eq_none`), so `toList` lists
the windows by length, and those of one length by where they begin (`toList_eq_map_places`).
-/

namespace Companions

/-! ### Runs around the ring -/

/-- The run of `step` fields from the one at `start` on, where the last is followed by the first. -/
def cyclicRun (fields : List Field) (step start : Nat) : List Field :=
  (List.range step).filterMap fun i => fields[(start + i) % fields.length]?

/-- Length and beginning of every window of `n` fields, in lexicographic order. -/
def places (n : Nat) : List (Nat × Nat) :=
  (List.range' 1 (n - 1)).flatMap fun step => (List.range n).map fun start => (step, start)

theorem mem_places_iff {n : Nat} {place : Nat × Nat} :
    place ∈ places n ↔ 1 ≤ place.1 ∧ place.1 < n ∧ place.2 < n := by
  obtain ⟨step, start⟩ := place
  simp only [places, List.mem_flatMap, List.mem_range'_1, List.mem_map, List.mem_range,
    Prod.mk.injEq]
  constructor
  · rintro ⟨s, hs, i, hi, rfl, rfl⟩
    omega
  · rintro ⟨low, high, inside⟩
    exact ⟨step, by omega, start, inside, rfl, rfl⟩

theorem length_places (n : Nat) : (places n).length = n * (n - 1) := by
  simp [places, List.length_flatMap, Nat.mul_comm]

/-- Every place is listed once. -/
theorem places_nodup (n : Nat) : (places n).Nodup := by
  have steps : (List.range' 1 (n - 1)).Nodup := List.nodup_range'
  refine List.nodup_flatMap.mpr ⟨fun step _ => ?_, steps.imp fun {step step'} apart => ?_⟩
  · exact List.nodup_range.map fun _ _ same => (Prod.mk.inj same).2
  · intro place here there
    obtain ⟨_, _, rfl⟩ := List.mem_map.mp here
    obtain ⟨_, _, same⟩ := List.mem_map.mp there
    exact apart (Prod.mk.inj same).1.symm

/-- A run around the ring is read off the fields from `start` on with all fields behind them. -/
theorem take_eq_cyclicRun {fields : List Field} {step start : Nat}
    (inside : start < fields.length) (short : step ≤ fields.length) :
    (fields.drop start ++ fields).take step = cyclicRun fields step start := by
  induction step with
  | zero => rfl
  | succ step ih =>
      have next : (fields.drop start ++ fields)[step]?
          = fields[(start + step) % fields.length]? := by
        rw [List.getElem?_append, List.length_drop]
        split
        · rw [List.getElem?_drop, Nat.mod_eq_of_lt (by omega)]
        · rw [Nat.mod_eq_sub_mod (by omega), Nat.mod_eq_of_lt (by omega)]
          congr 1
          omega
      rw [List.take_add_one, ih (by omega), next, cyclicRun, cyclicRun, List.range_succ,
        List.filterMap_append]
      simp only [List.filterMap_cons, List.filterMap_nil]
      cases fields[(start + step) % fields.length]? <;> rfl

/-- A run takes fields of the ring only, each at most once. -/
theorem cyclicRun_subperm {fields : List Field} {step start : Nat}
    (inside : start < fields.length) (short : step ≤ fields.length) :
    (cyclicRun fields step start).Subperm fields := by
  have turned : (fields.drop start ++ fields.take start).Perm fields :=
    List.perm_append_comm.trans (List.Perm.of_eq (List.take_append_drop start fields))
  have around : cyclicRun fields step start
      = (fields.drop start ++ fields.take start).take step := by
    rw [← take_eq_cyclicRun inside short, List.take_append, List.take_append, List.take_take,
      List.length_drop, min_eq_left (by omega)]
  rw [around]
  exact (List.take_sublist _ _).subperm.trans turned.subperm

theorem mem_of_mem_cyclicRun {fields : List Field} {step start : Nat} {f : Field}
    (h : f ∈ cyclicRun fields step start) : f ∈ fields := by
  obtain ⟨i, -, found⟩ := List.mem_filterMap.mp h
  exact List.mem_of_getElem? found

theorem length_cyclicRun {fields : List Field} {step start : Nat}
    (inside : start < fields.length) (short : step ≤ fields.length) :
    (cyclicRun fields step start).length = step := by
  rw [← take_eq_cyclicRun inside short, List.length_take, List.length_append, List.length_drop]
  omega

/-- A run that is not empty begins with the field at its beginning. -/
theorem head?_cyclicRun {fields : List Field} {step start : Nat}
    (inside : start < fields.length) (long : 1 ≤ step) (short : step ≤ fields.length) :
    (cyclicRun fields step start).head? = fields[start]? := by
  rw [← take_eq_cyclicRun inside short, List.head?_take, if_neg (by omega), List.head?_append,
    List.head?_drop, List.getElem?_eq_getElem inside]
  rfl

/-- Runs that read alike, where no two fields do, are at the same place: their length is that of
what is read, and their beginning is where its head stands. -/
theorem place_eq_of_map_cyclicRun {α : Type} {label : Field → α} {fields : List Field}
    {place place' : Nat × Nat} (distinct : (fields.map label).Nodup)
    (hplace : place ∈ places fields.length) (hplace' : place' ∈ places fields.length)
    (same : (cyclicRun fields place.1 place.2).map label
      = (cyclicRun fields place'.1 place'.2).map label) : place = place' := by
  obtain ⟨long, short, inside⟩ := mem_places_iff.mp hplace
  obtain ⟨long', short', inside'⟩ := mem_places_iff.mp hplace'
  have steps : place.1 = place'.1 := by
    have lengths := congrArg List.length same
    rwa [List.length_map, List.length_map, length_cyclicRun inside short.le,
      length_cyclicRun inside' short'.le] at lengths
  have heads : (fields.map label)[place.2]? = (fields.map label)[place'.2]? := by
    have heads := congrArg List.head? same
    rwa [List.head?_map, List.head?_map, head?_cyclicRun inside long short.le,
      head?_cyclicRun inside' long' short'.le, ← List.getElem?_map, ← List.getElem?_map] at heads
  have inner : place.2 < (fields.map label).length := by rwa [List.length_map]
  exact Prod.ext steps ((List.getElem?_inj inner distinct).mp heads)

/-- The window at a place. -/
def Window.ofPlace (kind : Kind) (fields : List Field) (place : Nat × Nat) : Window :=
  { step := place.1, start := place.2
    name := kind.variantName ((cyclicRun fields place.1 place.2).map (·.name))
    fields := cyclicRun fields place.1 place.2 }

namespace Windows

variable {kind : Kind} {fields : List Field} {k m : Nat}

/-! ### One step -/

/-- The windows that are to come when `k` have passed. -/
def after (kind : Kind) (fields : List Field) (k : Nat) : Windows :=
  { kind, fields, step := k / fields.length + 1, start := k % fields.length }

/-- The place of the window that `k` others precede. -/
def placeAfter (n k : Nat) : Nat × Nat :=
  (k / n + 1, k % n)

theorem after_zero : after kind fields 0 = { kind, fields } := by
  simp [after]

theorem passed_after : (after kind fields k).passed = k := by
  simp only [passed, after, Nat.add_sub_cancel]
  exact Nat.div_add_mod' k fields.length

theorem remaining_after : (after kind fields k).remaining = count fields.length - k := by
  rw [remaining, passed_after]
  rfl

theorem div_add_one_lt_iff {n : Nat} (some : 2 ≤ n) : k / n + 1 < n ↔ k < count n := by
  rw [count, if_neg (by omega), ← Nat.lt_sub_iff_add_lt, Nat.div_lt_iff_lt_mul (by omega),
    Nat.mul_comm]

/-- Before the count is reached, the next window has a place. -/
theorem placeAfter_mem_places {n k : Nat} (more : k < count n) : placeAfter n k ∈ places n := by
  have size : 2 ≤ n := by
    by_contra few
    rw [count, if_pos (by omega)] at more
    exact Nat.not_lt_zero k more
  exact mem_places_iff.mpr
    ⟨Nat.le_add_left _ _, (div_add_one_lt_iff size).mpr more, Nat.mod_lt k (by omega)⟩

/-- **One step**: the window at the next place, and the enumeration after it. -/
theorem next?_after (more : k < count fields.length) :
    (after kind fields k).next?
      = some (.ofPlace kind fields (placeAfter fields.length k), after kind fields (k + 1)) := by
  obtain ⟨-, (short : k / fields.length + 1 < fields.length),
    (inside : k % fields.length < fields.length)⟩ :=
      mem_places_iff.mp (placeAfter_mem_places more)
  have rest : (if k % fields.length + 1 = fields.length
        then { after kind fields k with start := 0, step := k / fields.length + 1 + 1 }
        else { after kind fields k with start := k % fields.length + 1 })
      = after kind fields (k + 1) := by
    have split := Nat.div_add_mod k fields.length
    split
    · rename_i last
      have next : k + 1 = fields.length * (k / fields.length + 1) := by
        rw [Nat.mul_add, Nat.mul_one]
        omega
      have some : 0 < fields.length := by omega
      simp only [after, next, Nat.mul_mod_right, Nat.mul_div_cancel_left _ some]
    · rename_i inner
      have next : k + 1 = k % fields.length + 1 + fields.length * (k / fields.length) := by omega
      have quotient : (k + 1) / fields.length = k / fields.length := by
        rw [next, Nat.add_mul_div_left _ _ (by omega), Nat.div_eq_of_lt (by omega), Nat.zero_add]
      have remainder : (k + 1) % fields.length = k % fields.length + 1 := by
        rw [next, Nat.add_mul_mod_self_left, Nat.mod_eq_of_lt (by omega)]
      simp only [after, quotient, remainder]
  simp only [next?]
  rw [if_neg (show ¬ (after kind fields k).fields.length ≤ (after kind fields k).step by
    simp only [after]; omega)]
  refine congrArg some (Prod.ext ?_ rest)
  simp only [after, take_eq_cyclicRun inside short.le]
  rfl

/-- When all windows have passed, none follows. -/
theorem next?_after_eq_none (done : count fields.length ≤ k) :
    (after kind fields k).next? = none := by
  have long : fields.length ≤ k / fields.length + 1 := by
    by_cases size : 2 ≤ fields.length
    · exact Nat.le_of_not_lt fun short => absurd ((div_add_one_lt_iff size).mp short) (by omega)
    · exact (show fields.length ≤ 1 by omega).trans (Nat.le_add_left 1 _)
  simp only [next?]
  rw [if_pos (show (after kind fields k).fields.length ≤ (after kind fields k).step from long)]

/-! ### The whole enumeration -/

/-- The windows taken from a point of the enumeration on are those at the next places. -/
theorem take_after (enough : k + m ≤ count fields.length) :
    (after kind fields k).take m
      = (List.range' k m).map fun j => .ofPlace kind fields (placeAfter fields.length j) := by
  induction m generalizing k with
  | zero => rfl
  | succ m ih =>
      rw [take, next?_after (by omega), List.range'_succ, List.map_cons]
      exact congrArg _ (ih (by omega))

/-- Counting through the places goes through them in lexicographic order. -/
theorem map_placeAfter_range {n : Nat} (pos : 0 < n) :
    (List.range (n * m)).map (placeAfter n)
      = (List.range' 1 m).flatMap fun step => (List.range n).map fun start => (step, start) := by
  induction m with
  | zero => rfl
  | succ m ih =>
      rw [Nat.mul_succ, List.range_add, List.map_append, ih, List.range'_concat,
        List.flatMap_append, List.flatMap_singleton, List.map_map]
      refine congrArg (_ ++ ·) (List.map_congr_left fun start hstart => ?_)
      have inside : start < n := List.mem_range.mp hstart
      simp only [placeAfter, Function.comp, Nat.mul_add_mod, Nat.mod_eq_of_lt inside,
        Nat.mul_add_div pos, Nat.div_eq_of_lt inside]
      congr 1
      omega

/-- **The windows are one for every length and every beginning, in lexicographic order.** -/
theorem toList_eq_map_places :
    ({ kind, fields } : Windows).toList
      = (places fields.length).map (Window.ofPlace kind fields) := by
  rw [← after_zero, toList, remaining_after, Nat.sub_zero, take_after (by omega),
    ← List.range_eq_range']
  by_cases size : 2 ≤ fields.length
  · rw [count, if_neg (by omega), places, ← map_placeAfter_range (by omega), List.map_map]
    rfl
  · rw [count, if_pos (by omega), places, show fields.length - 1 = 0 by omega]
    rfl

end Windows

end Companions
