import Companions.Proofs.Execution.Documented
import Mathlib.Data.List.Basic

/-!
A device in memory. It keeps intents and bundles in two lists that only grow, and numbers objects so
that intents, bundles, lists, other objects made by code and the objects of the app cannot be
confused. `memory_documented` says that it does what is documented, so the documented behaviour is
not contradictory.
-/

namespace Companions

namespace Execution

/-- Everything that the device in memory keeps. -/
structure Memory where
  /-- The extras of each intent; a new one has no bundle for them yet. -/
  intents : List (Option Entries) := []
  bundles : List Entries := []
  /-- The number of other objects that were made. -/
  others : Nat := 0
  /-- What was last started: an intent, or the arguments of a fragment. -/
  started : Value := .null

namespace Memory

/-- The intent at a place of the list. -/
def intentAt (k : Nat) : Value := .object (5 * k)

/-- The bundle at a place of the list. -/
def bundleAt (k : Nat) : Value := .object (5 * k + 1)

/-- An object of the app. -/
def appObject (k : Nat) : Value := .object (5 * k + 4)

/-- The extras of an intent. -/
def extras (w : Memory) : Value → Option Entries
  | .object id => if id % 5 = 0 then (w.intents[id / 5]?).map (·.getD .empty) else none
  | _ => none

/-- The entries of a bundle. -/
def entries (w : Memory) : Value → Option Entries
  | .object id => if id % 5 = 1 then w.bundles[id / 5]? else none
  | _ => none

/-- Sets a key of an intent. -/
def putExtra (w : Memory) (i : Value) (key : String) (v : Value) : Memory :=
  match i with
  | .object id =>
    if id % 5 = 0 then
      { w with intents := w.intents.modify (id / 5) fun m => some ((m.getD .empty).put key v) }
    else w
  | _ => w

/-- A bundle of its own with the extras of an intent, unless it has none yet. -/
def copyExtras (w : Memory) (i : Value) : Value × Memory :=
  match i with
  | .object id =>
    match if id % 5 = 0 then w.intents[id / 5]?.join else none with
    | some m => (bundleAt w.bundles.length, { w with bundles := w.bundles ++ [m] })
    | none => (.null, w)
  | _ => (.null, w)

/-- Adds entries to a bundle. -/
def putAll (w : Memory) (b : Value) (n : Entries) : Memory :=
  match b with
  | .object id =>
    if id % 5 = 1 then { w with bundles := w.bundles.modify (id / 5) n.overlay } else w
  | _ => w

/-- Makes an object. -/
def create (w : Memory) (cls : ClassName) : Nat × Memory :=
  if cls = Platform.intent then
    (5 * w.intents.length, { w with intents := w.intents ++ [none] })
  else if cls = Platform.arrayList then (5 * w.others + 2, { w with others := w.others + 1 })
  else (5 * w.others + 3, { w with others := w.others + 1 })

/-- Answers a call. -/
def answer (runtime : Runtime) (w : Memory) : Call → Value × Memory
  | .method i "putExtra" [.literal (.text key), v] => (.null, w.putExtra i key v)
  | .method b "putAll" [more] => (.null, w.putAll b ((w.entries more).getD .empty))
  | .method _ "startActivity" [i] => (.null, { w with started := i })
  | .method _ "startActivityForResult" [i, _] => (.null, { w with started := i })
  | .getter i "extras" => w.copyExtras i
  | .getter _ "intent" => (w.started, w)
  | .getter _ "arguments" => (w.started, w)
  | .singleton object "get" (b :: .literal (.text key) :: fallback) =>
    if object = runtime.bundleUtils then
      (((w.entries b).getD .empty key).getD (fallback.headD .null), w)
    else (.null, w)
  | .singleton _ "startActivityForResult" [_, i, _] => (.null, { w with started := i })
  | .singleton _ "showFragment" [_, _, bundle, _, _] => (.null, { w with started := bundle })
  | _ => (.null, w)

end Memory

/-- The device in memory; `classes` says of which classes the objects of the app are. -/
def memory (runtime : Runtime) (classes : Nat → ClassName → Bool) : Device where
  World := Memory
  create s cls _ := ((s.world.create cls).1, { s with world := (s.world.create cls).2 })
  answer s c := ((s.world.answer runtime c).1, { s with world := (s.world.answer runtime c).2 })
  constant _ name := .literal (.integer (if name = "RESULT_OK" then -1 else 0) .int)
  isA
    | .object id, cls =>
      if id % 5 = 4 then classes (id / 5) cls
      else if id % 5 = 2 then cls == Platform.arrayList
      else false
    | _, _ => false
  extras := Memory.extras
  entries := Memory.entries

/-! ### Its laws -/

namespace Memory

variable {runtime : Runtime} {w : Memory} {i b v : Value} {m n : Entries} {key : String}

theorem extras_intentAt {k : Nat} :
    w.extras (intentAt k) = (w.intents[k]?).map (·.getD .empty) := by
  simp [extras, intentAt]

theorem entries_bundleAt {k : Nat} : w.entries (bundleAt k) = w.bundles[k]? := by
  have place : (5 * k + 1) / 5 = k := by omega
  simp [entries, bundleAt, place]

theorem extras_eq_some_iff :
    w.extras i = some m ↔ ∃ k o, i = intentAt k ∧ w.intents[k]? = some o ∧ o.getD .empty = m := by
  constructor
  · intro h
    cases i with
    | object id =>
        simp only [extras] at h
        split at h
        · obtain ⟨o, ho, rfl⟩ := Option.map_eq_some_iff.mp h
          exact ⟨id / 5, o, by rw [intentAt]; congr 1; omega, ho, rfl⟩
        · exact nomatch h
    | _ => exact nomatch h
  · rintro ⟨k, o, rfl, ho, rfl⟩
    rw [extras_intentAt, ho]
    rfl

theorem entries_eq_some_iff :
    w.entries b = some m ↔ ∃ k, b = bundleAt k ∧ w.bundles[k]? = some m := by
  constructor
  · intro h
    cases b with
    | object id =>
        simp only [entries] at h
        split at h
        · exact ⟨id / 5, by rw [bundleAt]; congr 1; omega, h⟩
        · exact nomatch h
    | _ => exact nomatch h
  · rintro ⟨k, rfl, hk⟩
    rw [entries_bundleAt, hk]

/-- What is there stays when the lists grow. -/
theorem keeps_of_grown {more : List (Option Entries)} {others : List Entries} {w' : Memory}
    (intents : w'.intents = w.intents ++ more) (bundles : w'.bundles = w.bundles ++ others) :
    (∀ i m, w.extras i = some m → w'.extras i = some m) ∧
      ∀ b m, w.entries b = some m → w'.entries b = some m := by
  constructor
  · intro i m h
    obtain ⟨k, o, rfl, place, rfl⟩ := extras_eq_some_iff.mp h
    rw [extras_intentAt, intents, List.getElem?_append_left (List.getElem?_eq_some_iff.mp place).1,
      place]
    rfl
  · intro b m h
    obtain ⟨k, rfl, place⟩ := entries_eq_some_iff.mp h
    rw [entries_bundleAt, bundles, List.getElem?_append_left (List.getElem?_eq_some_iff.mp place).1,
      place]

theorem extras_putExtra (h : w.extras i = some m) :
    (w.putExtra i key v).extras i = some (m.put key v) := by
  obtain ⟨k, o, rfl, place, rfl⟩ := extras_eq_some_iff.mp h
  rw [extras_intentAt]
  simp [putExtra, intentAt, place]

theorem entries_putExtra (h : w.entries b = some n) : (w.putExtra i key v).entries b = some n := by
  obtain ⟨k, rfl, place⟩ := entries_eq_some_iff.mp h
  have same : (w.putExtra i key v).bundles = w.bundles := by
    unfold putExtra
    split
    · split <;> rfl
    · rfl
  rw [entries_bundleAt, same, place]

theorem entries_putAll (h : w.entries b = some m) :
    (w.putAll b n).entries b = some (n.overlay m) := by
  obtain ⟨k, rfl, place⟩ := entries_eq_some_iff.mp h
  have index : (5 * k + 1) / 5 = k := by omega
  rw [entries_bundleAt]
  simp [putAll, bundleAt, index, place]

theorem copyExtras_of_extras (h : w.extras i = some m) :
    w.copyExtras i = (bundleAt w.bundles.length, { w with bundles := w.bundles ++ [m] }) ∨
      m = .empty ∧ w.copyExtras i = (.null, w) := by
  obtain ⟨k, o, rfl, place, rfl⟩ := extras_eq_some_iff.mp h
  cases o with
  | some m => exact .inl (by simp [copyExtras, intentAt, place])
  | none => exact .inr ⟨rfl, by simp [copyExtras, intentAt, place]⟩

theorem answer_get (fallback : List Value) (h : w.entries b = some m) :
    w.answer runtime (.singleton runtime.bundleUtils "get" (b :: .text key :: fallback))
      = ((m key).getD (fallback.headD .null), w) := by
  simp [answer, Value.text, h]

/-- Making an object only adds to the lists. -/
theorem create_grows (w : Memory) (cls : ClassName) : ∃ more,
    (w.create cls).2.intents = w.intents ++ more ∧ (w.create cls).2.bundles = w.bundles ++ [] := by
  unfold create
  split
  · exact ⟨[none], rfl, (List.append_nil _).symm⟩
  · split <;> exact ⟨[], (List.append_nil _).symm, (List.append_nil _).symm⟩

/-- Copying extras only adds to the lists. -/
theorem copyExtras_grows (w : Memory) (i : Value) : ∃ others,
    (w.copyExtras i).2.intents = w.intents ++ [] ∧
      (w.copyExtras i).2.bundles = w.bundles ++ others := by
  have same : ∃ others, w.intents = w.intents ++ [] ∧ w.bundles = w.bundles ++ others :=
    ⟨[], (List.append_nil _).symm, (List.append_nil _).symm⟩
  cases i with
  | object id =>
      simp only [copyExtras]
      split
      · rename_i m _
        exact ⟨[m], (List.append_nil _).symm, rfl⟩
      · exact same
  | _ => exact same

end Memory

/-- **The device in memory does what is documented.** -/
theorem memory_documented (runtime : Runtime) (classes : Nat → ClassName → Bool) :
    (memory runtime classes).Documented runtime where
  extras_null _ := rfl
  entries_null _ := rfl
  create_isA s _ := by
    have list : (5 * s.world.others + 2) % 5 = 2 := by omega
    have notIntent : Platform.arrayList ≠ Platform.intent := by decide
    simp [memory, Memory.create, notIntent, list]
  create_keeps s cls _ _ := by
    obtain ⟨more, intents, bundles⟩ := Memory.create_grows s.world cls
    obtain ⟨extras, entries⟩ := Memory.keeps_of_grown intents bundles
    exact ⟨rfl, extras, entries⟩
  create_intent s _ := by
    show Memory.extras (s.world.create Platform.intent).2
      (Memory.intentAt s.world.intents.length) = _
    rw [Memory.extras_intentAt]
    simp [Memory.create]
  putExtra_extras _ _ _ _ _ h := Memory.extras_putExtra h
  putExtra_fields _ _ _ _ _ _ := rfl
  putExtra_entries _ _ _ _ _ _ _ _ h := Memory.entries_putExtra h
  extras_keeps s i _ _ := by
    obtain ⟨others, intents, bundles⟩ := Memory.copyExtras_grows s.world i
    obtain ⟨extras, entries⟩ := Memory.keeps_of_grown intents bundles
    exact ⟨rfl, extras, entries⟩
  extras_entries s i m h := by
    show Memory.entries (s.world.copyExtras i).2 (s.world.copyExtras i).1 = some m ∨
      m = .empty ∧ (s.world.copyExtras i).1 = .null
    rcases Memory.copyExtras_of_extras h with copied | ⟨rfl, missing⟩
    · refine .inl ?_
      rw [copied, Memory.entries_bundleAt]
      simp
    · exact .inr ⟨rfl, by rw [missing]⟩
  putAll_entries s b m more n h hmore := by
    show Memory.entries (s.world.putAll b ((s.world.entries more).getD .empty)) b = _
    rw [show s.world.entries more = some n from hmore]
    exact Memory.entries_putAll h
  putAll_fields _ _ _ _ _ _ _ := rfl
  get s b m key h := by
    show (Prod.fst _, { s with world := Prod.snd _ }) = _
    rw [Memory.answer_get [] h]
    rfl
  get_default s b m key fallback h _ := by
    show (Prod.fst _, { s with world := Prod.snd _ }) = _
    rw [Memory.answer_get [fallback] h]
    rfl
  aside _ _ _ _ aside h := by
    cases aside <;> exact h
  resultOk := ⟨-1, .int, rfl⟩

theorem memory_looksUp (runtime : Runtime) (classes : Nat → ClassName → Bool) :
    (memory runtime classes).LooksUp runtime := by
  intro s b m key fallback entries
  show { s with world := Prod.snd _ } = s
  rw [Memory.answer_get [fallback] entries]

/-- The state in which an activity was started with the extras `m`. -/
def arrived (m : Entries) : State Memory :=
  { fields := fun _ _ => .null
    world := { intents := [some m], started := Memory.intentAt 0 } }

/-- The activity finds the extras that it was started with. -/
theorem memory_startedWith {runtime : Runtime} {classes : Nat → ClassName → Bool} {id : Nat}
    {m : Entries} :
    ∃ s', (memory runtime classes).StartedWith .activity (arrived m) id m s' := by
  let w : Memory := { (arrived m).world with bundles := [m] }
  refine ⟨{ arrived m with world := w }, ⟨Memory.bundleAt 0, ?_, ?_⟩, rfl⟩
  · exact .activity (i := Memory.intentAt 0) rfl Value.object_ne_null rfl
  · show w.entries (Memory.bundleAt 0) = some m
    rw [Memory.entries_bundleAt]
    rfl

end Execution

end Companions
