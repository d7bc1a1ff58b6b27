import Companions.Proofs.Failure
import Companions.Proofs.Start.Family
import Companions.Proofs.Start.Ring
import Mathlib.Logic.Function.Iterate

/-!
The enumeration of the windows, call by call, on words of 64 bits.

A call hands out the next window, or finds none and leaves the enumeration as it is
(`Windows.called`). `iterate_called` says where any number of calls leads.

`nextOnWords` and `remainingOnWords` do what `next?` and `remaining` do with every number kept in a
word and every field looked up by its index, and stop where something is out of range. They never
stop as long as a word holds the number of windows (`nextOnWords_eq`, `remainingOnWords_eq`).
`enumerates` puts both together.
-/

namespace Companions

/-! ### Words -/

/-- What can be out of range. -/
inductive OutOfRange where
  | word
  | difference
  | division
  | index
deriving Repr, DecidableEq

namespace Word

/-- A number, if a word of 64 bits holds it. -/
def hold (n : Nat) : Except OutOfRange Nat :=
  if n < 2 ^ 64 then .ok n else .error .word

/-- The sum of two words. -/
def sum (m n : Nat) : Except OutOfRange Nat :=
  hold (m + n)

/-- The product of two words. -/
def product (m n : Nat) : Except OutOfRange Nat :=
  hold (m * n)

/-- The difference of two words, if it is not below zero. -/
def difference (m n : Nat) : Except OutOfRange Nat :=
  if n ≤ m then .ok (m - n) else .error .difference

/-- The remainder of a division by a word that is not zero. -/
def remainder (m n : Nat) : Except OutOfRange Nat :=
  if n = 0 then .error .division else .ok (m % n)

variable {m n : Nat}

theorem hold_eq (bounded : n < 2 ^ 64) : hold n = .ok n :=
  if_pos bounded

theorem difference_eq (h : n ≤ m) : difference m n = .ok (m - n) :=
  if_pos h

theorem remainder_eq (some : n ≠ 0) : remainder m n = .ok (m % n) :=
  if_neg some

end Word

namespace Windows

/-- The field at an index. -/
def fieldOnWords (w : Windows) (position : Nat) : Except OutOfRange Field := do
  let index ← Word.remainder position w.fields.length
  match w.fields[index]? with
  | some f => return f
  | none => throw .index

/-- The fields of the next window. -/
def fieldsOnWords (w : Windows) : Except OutOfRange (List Field) := do
  let stop ← Word.sum w.start w.step
  (List.range' w.start (stop - w.start)).mapM w.fieldOnWords

/-- The first window and those after it, computed with words. -/
def nextOnWords (w : Windows) : Except OutOfRange (Option (Window × Windows)) :=
  if w.fields.length ≤ w.step then .ok none
  else do
    let fields ← w.fieldsOnWords
    let window : Window :=
      { step := w.step, start := w.start, fields
        name := w.kind.variantName (fields.map (·.name)) }
    let start ← Word.sum w.start 1
    if start = w.fields.length then
      let step ← Word.sum w.step 1
      return some (window, { w with start := 0, step })
    else return some (window, { w with start })

/-- The number of windows of `n` fields, computed with words. -/
def countOnWords (n : Nat) : Except OutOfRange Nat :=
  if n < 2 then .ok 0
  else do Word.product n (← Word.difference n 1)

/-- The number of windows that have passed, computed with words. -/
def passedOnWords (w : Windows) : Except OutOfRange Nat := do
  let turns ← Word.difference w.step 1
  let before ← Word.product turns w.fields.length
  Word.sum before w.start

/-- The number of windows still to come, computed with words. -/
def remainingOnWords (w : Windows) : Except OutOfRange Nat := do
  return (← countOnWords w.fields.length) - (← w.passedOnWords)

/-! ### Nothing is out of range -/

section Range

variable {w : Windows}

theorem two_mul_pred_le {n : Nat} (some : 2 ≤ n) : 2 * (n - 1) ≤ n * (n - 1) :=
  Nat.mul_le_mul_right (n - 1) some

/-- All fields of a window are found. -/
theorem fieldsOnWords_eq (inside : w.start < w.fields.length) (bounded : w.start + w.step < 2 ^ 64) :
    w.fieldsOnWords = .ok (cyclicRun w.fields w.step w.start) := by
  have found : ∀ position ∈ List.range' w.start w.step, ∃ f,
      w.fieldOnWords position = .ok f ∧ w.fields[position % w.fields.length]? = some f := by
    intro position _
    have some : w.fields.length ≠ 0 := by omega
    have read := List.getElem?_eq_getElem (Nat.mod_lt position (Nat.pos_of_ne_zero some))
    refine ⟨_, ?_, read⟩
    rw [fieldOnWords, Word.remainder_eq some]
    simp only [bind, Except.bind, read]
    rfl
  rw [fieldsOnWords, Word.sum, Word.hold_eq bounded]
  simp only [bind, Except.bind, Nat.add_sub_cancel_left]
  rw [mapM_eq_ok_filterMap found, List.range'_eq_map_range, List.filterMap_map]
  rfl

/-- **A call computed with words** gives what the call gives. -/
theorem nextOnWords_eq (long : 1 ≤ w.step)
    (inside : w.step < w.fields.length → w.start < w.fields.length)
    (bounded : w.fields.length * (w.fields.length - 1) < 2 ^ 64) :
    w.nextOnWords = .ok w.next? := by
  by_cases done : w.fields.length ≤ w.step
  · rw [nextOnWords, next?, if_pos done, if_pos done]
  · have short : w.step < w.fields.length := Nat.lt_of_not_le done
    have inside := inside short
    -- Neither sum is more than twice the number of fields less one.
    have twice := two_mul_pred_le (n := w.fields.length) (by omega)
    rw [nextOnWords, next?, if_neg done, if_neg done, fieldsOnWords_eq inside (by omega),
      take_eq_cyclicRun inside short.le, Word.sum, Word.hold_eq (by omega), Word.sum,
      Word.hold_eq (by omega)]
    simp only [bind, Except.bind]
    split <;> rfl

theorem countOnWords_eq {n : Nat} (bounded : n * (n - 1) < 2 ^ 64) :
    countOnWords n = .ok (count n) := by
  by_cases few : n < 2
  · rw [countOnWords, count, if_pos few, if_pos few]
  · rw [countOnWords, count, if_neg few, if_neg few, Word.difference_eq (by omega)]
    exact Word.hold_eq bounded

/-- **The count computed with words** is the count, as long as no more windows have passed than
there are. -/
theorem remainingOnWords_eq (long : 1 ≤ w.step) (passed : w.passed ≤ count w.fields.length)
    (bounded : w.fields.length * (w.fields.length - 1) < 2 ^ 64) :
    w.remainingOnWords = .ok w.remaining := by
  have fewer : w.passed < 2 ^ 64 := by
    refine (passed.trans ?_).trans_lt bounded
    rw [count]
    split
    · exact Nat.zero_le _
    · exact le_rfl
  have turns : (w.step - 1) * w.fields.length ≤ w.passed := Nat.le_add_right _ _
  have passedOnWords : w.passedOnWords = .ok w.passed := by
    rw [Windows.passedOnWords, Word.difference_eq long]
    simp only [bind, Except.bind, Word.product, Word.hold_eq (turns.trans_lt fewer)]
    exact Word.hold_eq fewer
  rw [remainingOnWords, countOnWords_eq bounded, passedOnWords]
  rfl

end Range

/-! ### Call by call -/

/-- The enumeration after a call: without the window that was handed out, or as it was when there
was none left. -/
def called (w : Windows) : Windows :=
  match w.next? with
  | some (_, rest) => rest
  | none => w

variable {kind : Kind} {fields : List Field}

/-- **Calls count windows** until there is none left. -/
theorem iterate_called (k : Nat) :
    called^[k] { kind, fields } = after kind fields (min k (count fields.length)) := by
  induction k with
  | zero => rw [Nat.zero_min, after_zero, Function.iterate_zero, id]
  | succ k ih =>
      rw [Function.iterate_succ_apply', ih, called]
      rcases Nat.lt_or_ge k (count fields.length) with more | done
      · rw [Nat.min_eq_left more.le, Nat.min_eq_left more, next?_after more]
      · rw [Nat.min_eq_right done, Nat.min_eq_right (done.trans (Nat.le_succ k)),
          next?_after_eq_none le_rfl]

theorem count_eq (n : Nat) : count n = n * (n - 1) := by
  rw [count]
  split
  · interval_cases n <;> rfl
  · rfl

/-- A window that is handed out begins inside the ring. -/
theorem start_after_lt {k : Nat} (more : (after kind fields k).step < fields.length) :
    (after kind fields k).start < fields.length :=
  Nat.mod_lt _ (Nat.zero_lt_of_lt more)

/-- **The enumeration, exactly**, for a number of windows that a word of 64 bits holds. After `k`
calls the next one hands out the window of `k / n + 1` fields from the one at `k % n` on, going
around, at indices that are all different; from the number of windows on it hands out none. The
count of the windows to come is exact at every call and no subtraction in it is cut off at zero.
Computed with words, calls and counts are the same, and no sum, product, difference, division or
index is ever out of range. -/
theorem enumerates (kind : Kind) (fields : List Field)
    (bounded : fields.length * (fields.length - 1) < 2 ^ 64) (k : Nat) :
    let n := fields.length
    let reached (calls : Nat) : Windows := called^[calls] { kind, fields }
    (k < n * (n - 1) → ∃ window,
      (reached k).next? = some (window, reached (k + 1)) ∧
        window.step = k / n + 1 ∧ window.start = k % n ∧
        window.fields.map Option.some = (ringIndices n (k / n + 1) (k % n)).map (fields[·]?) ∧
        window.name = kind.variantName (window.fields.map (·.name)) ∧
        1 ≤ window.fields.length ∧ window.fields.length ≤ n - 1 ∧
        (ringIndices n (k / n + 1) (k % n)).Nodup) ∧
      (n * (n - 1) ≤ k → (reached k).next? = none) ∧
      (reached k).remaining = count n - k ∧ (reached k).passed ≤ count n ∧
      (reached k).nextOnWords = .ok (reached k).next? ∧
      (reached k).remainingOnWords = .ok (reached k).remaining := by
  intro n reached
  have calls (k : Nat) : reached k = after kind fields (min k (count n)) := iterate_called k
  have passed : (reached k).passed ≤ count n := by
    rw [calls, passed_after]
    exact Nat.min_le_right _ _
  have long : 1 ≤ (reached k).step := by
    rw [calls]
    exact Nat.le_add_left _ _
  have size : (reached k).fields = fields := by rw [calls]; rfl
  refine ⟨fun more => ?_, fun done => ?_, ?_, passed, ?_, ?_⟩
  · rw [← count_eq] at more
    obtain ⟨longWindow, short, inside⟩ := mem_places_iff.mp (placeAfter_mem_places more)
    have taken := length_cyclicRun inside short.le
    refine ⟨.ofPlace kind fields (placeAfter n k), ?_, rfl, rfl,
      map_some_cyclicRun (Nat.zero_lt_of_lt short), rfl, ?_, ?_,
      ringIndices_nodup inside short.le⟩
    · rw [calls, calls, Nat.min_eq_left more.le, Nat.min_eq_left more]
      exact next?_after more
    · exact longWindow.trans_eq taken.symm
    · exact taken.trans_le (Nat.le_sub_one_of_lt short)
  · rw [← count_eq] at done
    rw [calls, Nat.min_eq_right done, next?_after_eq_none le_rfl]
  · rw [calls, remaining_after]
    show count n - min k (count n) = count n - k
    omega
  · refine nextOnWords_eq long (fun more => ?_) (by rwa [size])
    rw [calls] at more ⊢
    exact start_after_lt more
  · exact remainingOnWords_eq long (by rwa [size]) (by rwa [size])

/-- The three optional fields of the editor have six windows: the last one goes around, and no call
after it finds one. -/
theorem enumerates_editor :
    let fields := Assembly.editorFields.filter (!·.required)
    let reached (calls : Nat) : Windows := called^[calls] { kind := .activity, fields }
    fields.length * (fields.length - 1) < 2 ^ 64 ∧
      (∃ window, (reached 5).next? = some (window, reached 6) ∧
        window.fields.map (fun f => some f.name) = [some "tags", some "title"]) ∧
      (reached 5).remaining = 1 ∧ (reached 7).next? = none ∧ (reached 7).remaining = 0 := by
  intro fields reached
  have bounded : fields.length * (fields.length - 1) < 2 ^ 64 := by decide
  obtain ⟨handsOut, -, left, -⟩ := enumerates .activity fields bounded 5
  obtain ⟨-, exhausted, none, -⟩ := enumerates .activity fields bounded 7
  obtain ⟨window, next, -, -, taken, -⟩ := handsOut (by decide)
  have names := congrArg (List.map (Option.map (·.name))) taken
  rw [List.map_map] at names
  exact ⟨bounded, ⟨window, next, names.trans (by decide)⟩, left, exhausted (by decide), none⟩

end Windows

end Companions
