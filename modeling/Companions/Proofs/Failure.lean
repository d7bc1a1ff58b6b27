import Mathlib.Data.List.Basic
import Mathlib.Data.List.Forall2

/-!
Computations that may fail.

What went right is taken apart step by step: a sequence of steps succeeds when each of them does
(`bind_eq_ok_iff`), and a fold when its first step does and the rest of it from there
(`foldlM_cons_eq_ok_iff`); items that are all found are found together (`mapM_eq_ok_filterMap`), and
one by one (`forall₂_of_mapM_eq_ok`). What does not matter for success can be moved to the end of a
fold: the form in which a failure is reported (`foldlM_mapError`), and whatever every step carries
along (`foldlM_map`).
-/

namespace Companions

variable {α β ε δ : Type}

/-! ### Single steps -/

/-- A step that needs the result of another one succeeds when both do. -/
theorem bind_eq_ok_iff {x : Except ε α} {step : α → Except ε β} {last : β} :
    (x >>= step) = .ok last ↔ ∃ next, x = .ok next ∧ step next = .ok last := by
  cases x with
  | error reason => exact ⟨nofun, fun ⟨_, failed, _⟩ => nomatch failed⟩
  | ok next => exact ⟨fun taken => ⟨next, rfl, taken⟩, fun ⟨_, rfl, taken⟩ => taken⟩

/-- Of two steps the first one fails, or it does not and the second one fails. -/
theorem bind_eq_error_iff {x : Except ε α} {step : α → Except ε β} {reason : ε} :
    (x >>= step) = .error reason ↔
      x = .error reason ∨ ∃ next, x = .ok next ∧ step next = .error reason := by
  cases x with
  | error other =>
      show Except.error other = Except.error reason ↔ _
      simp
  | ok next =>
      show step next = .error reason ↔ _
      simp

/-- Another form for results makes no difference to failure. -/
theorem map_eq_error_iff {x : Except ε α} {f : α → β} {reason : ε} :
    x.map f = .error reason ↔ x = .error reason := by
  cases x with
  | error other =>
      show Except.error other = Except.error reason ↔ _
      rw [Except.error.injEq, Except.error.injEq]
  | ok found => exact ⟨nofun, nofun⟩

/-- Another form for failures makes no difference to success. -/
theorem mapError_eq_ok_iff {x : Except ε α} {form : ε → δ} {last : α} :
    x.mapError form = .ok last ↔ x = .ok last := by
  cases x with
  | error reason => exact ⟨nofun, nofun⟩
  | ok found =>
      show Except.ok found = Except.ok last ↔ _
      rw [Except.ok.injEq, Except.ok.injEq]

theorem mapError_eq_error_iff {x : Except ε α} {form : ε → δ} {reason : δ} :
    x.mapError form = .error reason ↔ ∃ cause, x = .error cause ∧ form cause = reason := by
  cases x with
  | error cause =>
      show Except.error (form cause) = Except.error reason ↔ _
      simp
  | ok found => exact ⟨nofun, nofun⟩

/-- Where every item of a list is found, all of them are found, in order. -/
theorem mapM_eq_ok_filterMap {l : List α} {find : α → Except ε β} {read : α → Option β}
    (found : ∀ x ∈ l, ∃ y, find x = .ok y ∧ read x = some y) :
    l.mapM find = .ok (l.filterMap read) := by
  induction l with
  | nil => rfl
  | cons x rest ih =>
      obtain ⟨⟨y, head, same⟩, tail⟩ := List.forall_mem_cons.mp found
      rw [List.mapM_cons, head, ih tail, List.filterMap_cons, same]
      rfl

/-- What is found for a list is found for its items one by one. -/
theorem forall₂_of_mapM_eq_ok {l : List α} {find : α → Except ε β} {all : List β}
    (found : l.mapM find = .ok all) : List.Forall₂ (fun x y => find x = .ok y) l all := by
  induction l generalizing all with
  | nil =>
      rw [← Except.ok.inj found]
      exact .nil
  | cons x rest ih =>
      rw [List.mapM_cons] at found
      obtain ⟨y, head, found⟩ := bind_eq_ok_iff.mp found
      obtain ⟨others, tail, found⟩ := bind_eq_ok_iff.mp found
      rw [← Except.ok.inj found]
      exact .cons head (ih tail)

/-! ### Folds -/

section Folds

variable {step : β → α → Except ε β} {l : List α} {first last : β}

/-- A fold that may fail succeeds when its first step does and the others do after it. -/
theorem foldlM_cons_eq_ok_iff {x : α} {rest : List α} :
    (x :: rest).foldlM step first = .ok last ↔
      ∃ next, step first x = .ok next ∧ rest.foldlM step next = .ok last := by
  rw [List.foldlM_cons, bind_eq_ok_iff]

/-- A change that every step carries along is carried along to the end. -/
theorem foldlM_map {change : β → β}
    (carried : ∀ b x, step (change b) x = (step b x).map change) :
    l.foldlM step (change first) = (l.foldlM step first).map change := by
  induction l generalizing first with
  | nil => rfl
  | cons x rest ih =>
      rw [List.foldlM_cons, List.foldlM_cons, carried]
      cases step first x with
      | error reason => rfl
      | ok next => exact ih

/-- Failures may as well be put into another form at the end. -/
theorem foldlM_mapError {form : ε → δ} :
    l.foldlM (fun b x => (step b x).mapError form) first
      = (l.foldlM step first).mapError form := by
  induction l generalizing first with
  | nil => rfl
  | cons x rest ih =>
      rw [List.foldlM_cons, List.foldlM_cons]
      cases step first x with
      | error reason => rfl
      | ok next => exact ih

end Folds

end Companions
