import Companions.Proofs.Execution.Run

/-!
What the platform and the runtime library are documented to do.

`Device.Documented` collects what generated code relies on, call by call: `putExtra` and `putAll`
update maps, `get` looks a key up, an intent's extras come as a bundle of their own, and calls about
views, flags and lists leave extras alone. Nothing is said about calls that start or finish a
screen, or about listeners of the app: those may do anything. How the extras reach a screen that
was started is a fact about its own state, `Device.StartedWith`.
-/

namespace Companions

namespace Execution

/-! ### Maps -/

namespace Entries

/-- No entries. -/
def empty : Entries := fun _ => none

/-- The entries with one key set. -/
def put (m : Entries) (key : String) (v : Value) : Entries :=
  fun other => if other = key then some v else m other

/-- The entries of both, those of `m` where they differ. -/
def overlay (m n : Entries) : Entries :=
  fun key => (m key).or (n key)

/-- One entry for each of the keys. -/
def ofKeys (keys : List String) (value : String → Value) : Entries :=
  fun key => if key ∈ keys then some (value key) else none

/-- Exactly the given keys have an entry, each the value that belongs to it. -/
theorem ofKeys_eq_some_iff {keys : List String} {value : String → Value} {key : String}
    {v : Value} :
    ofKeys keys value key = some v ↔ key ∈ keys ∧ value key = v := by
  unfold ofKeys
  split
  · rename_i present
    rw [Option.some.injEq]
    exact ⟨fun h => ⟨present, h⟩, fun h => h.2⟩
  · rename_i absent
    exact ⟨nofun, fun h => absurd h.1 absent⟩

theorem ofKeys_ne_empty {keys : List String} {value : String → Value} (some : keys ≠ []) :
    ofKeys keys value ≠ .empty := by
  intro empty
  obtain ⟨key, hkey⟩ := List.exists_mem_of_ne_nil keys some
  have held : ofKeys keys value key = Option.some (value key) :=
    ofKeys_eq_some_iff.mpr ⟨hkey, rfl⟩
  rw [empty] at held
  exact Option.some_ne_none _ held.symm

end Entries

namespace Device

variable (D : Device)

/-! ### Documented calls -/

/-- Fields, extras and bundles are in `s'` as they were in `s`; there may be more of them. -/
structure Keeps (s s' : State D.World) : Prop where
  fields : s'.fields = s.fields
  extras : ∀ i m, D.extras s.world i = some m → D.extras s'.world i = some m
  entries : ∀ b m, D.entries s.world b = some m → D.entries s'.world b = some m

/-- Calls that start callables make on the way and that have nothing to do with extras: setting
flags, finding views and their transition names, and filling a list. -/
inductive Aside : Call → Prop where
  | flags {i flags : Value} : Aside (.method i "addFlags" [flags])
  | view {root id : Value} : Aside (.method root "findViewById" [id])
  | transitionName {view : Value} : Aside (.static Platform.viewCompat "getTransitionName" [view])
  | element {list pair : Value} :
      D.isA list Platform.arrayList = true → Aside (.method list "add" [pair])

/-- The device does what the documentation of platform and runtime library says. -/
structure Documented (runtime : Runtime) : Prop where
  /-- `null` is neither an intent nor a bundle. -/
  extras_null : ∀ w, D.extras w .null = none
  entries_null : ∀ w, D.entries w .null = none
  /-- A new list is a list. -/
  create_isA : ∀ s arguments,
    D.isA (.object (D.create s Platform.arrayList arguments).1) Platform.arrayList = true
  /-- Making an intent, a list or a pair changes no object that exists. -/
  create_keeps : ∀ s cls arguments,
    cls ∈ [Platform.intent, Platform.arrayList, Platform.pair] →
      D.Keeps s (D.create s cls arguments).2
  /-- A new intent has no extras. -/
  create_intent : ∀ s arguments,
    D.extras (D.create s Platform.intent arguments).2.world
      (.object (D.create s Platform.intent arguments).1) = some .empty
  /-- `putExtra` sets one key of one intent. -/
  putExtra_extras : ∀ s i m key v, D.extras s.world i = some m →
    D.extras (D.answer s (.method i "putExtra" [.text key, v])).2.world i = some (m.put key v)
  putExtra_fields : ∀ s i m key v, D.extras s.world i = some m →
    (D.answer s (.method i "putExtra" [.text key, v])).2.fields = s.fields
  putExtra_entries : ∀ s i m key v b n, D.extras s.world i = some m →
    D.entries s.world b = some n →
      D.entries (D.answer s (.method i "putExtra" [.text key, v])).2.world b = some n
  /-- The extras of an intent are a bundle of their own; it may be missing while there are none. -/
  extras_keeps : ∀ s i m, D.extras s.world i = some m →
    D.Keeps s (D.answer s (.getter i "extras")).2
  extras_entries : ∀ s i m, D.extras s.world i = some m →
    D.entries (D.answer s (.getter i "extras")).2.world (D.answer s (.getter i "extras")).1 = some m
      ∨ m = .empty ∧ (D.answer s (.getter i "extras")).1 = .null
  /-- `putAll` adds the entries of another bundle to one. -/
  putAll_entries : ∀ s b m more n, D.entries s.world b = some m → D.entries s.world more = some n →
    D.entries (D.answer s (.method b "putAll" [more])).2.world b = some (n.overlay m)
  putAll_fields : ∀ s b m more n, D.entries s.world b = some m → D.entries s.world more = some n →
    (D.answer s (.method b "putAll" [more])).2.fields = s.fields
  /-- `get` looks a key up. A missing one gives `null`, or the default if there is one. -/
  get : ∀ s b m key, D.entries s.world b = some m →
    D.answer s (.singleton runtime.bundleUtils "get" [b, .text key]) = ((m key).getD .null, s)
  get_default : ∀ s b m key fallback, D.entries s.world b = some m → m key ≠ some .null →
    D.answer s (.singleton runtime.bundleUtils "get" [b, .text key, fallback])
      = ((m key).getD fallback, s)
  /-- Calls aside leave extras alone. -/
  aside : ∀ s c i m, D.Aside c → D.extras s.world i = some m →
    D.extras (D.answer s c).2.world i = some m
  /-- `RESULT_OK` is a number. -/
  resultOk : ∃ code kind, D.constant Platform.activity "RESULT_OK" = .literal (.integer code kind)

/-- The container and the shared views are on the screen, and the views have transition names. -/
structure FindsViews : Prop where
  view : ∀ s root id, root ≠ .null → (D.answer s (.method root "findViewById" [id])).1 ≠ .null
  transitionName : ∀ s view, view ≠ .null →
    (D.answer s (.static Platform.viewCompat "getTransitionName" [view])).1 ≠ .null

/-- Looking a key up with a default changes nothing, whatever is stored under the key. -/
def LooksUp (runtime : Runtime) : Prop :=
  ∀ s b m key fallback, D.entries s.world b = some m →
    (D.answer s (.singleton runtime.bundleUtils "get" [b, .text key, fallback])).2 = s

/-! ### Started screens -/

/-- Reading the extras of a fresh screen gives `bundle` and leads to `s'`: an activity finds them in
its intent, a fragment in its arguments. -/
inductive ReadsFresh : Kind → State D.World → Nat → Value → State D.World → Prop where
  | activity {s s₁ s₂ : State D.World} {id : Nat} {i bundle : Value} :
      D.answer s (.getter (.object id) "intent") = (i, s₁) → i ≠ .null →
      D.answer s₁ (.getter i "extras") = (bundle, s₂) → ReadsFresh .activity s id bundle s₂
  | fragment {s s₁ : State D.World} {id : Nat} {bundle : Value} :
      D.answer s (.getter (.object id) "arguments") = (bundle, s₁) →
      ReadsFresh .fragment s id bundle s₁

/-- Of the saved state and what the fresh screen `id` was started with, `bundle` is what counts, and
finding it leads to `s'`: a saved state comes first. It is `null` if there is neither. -/
inductive Finds (kind : Kind) (s : State D.World) (id : Nat) :
    (saved bundle : Value) → State D.World → Prop where
  | saved {saved : Value} : saved ≠ .null → Finds kind s id saved saved s
  | fresh {bundle : Value} {s' : State D.World} :
      D.ReadsFresh kind s id bundle s' → Finds kind s id .null bundle s'

/-- In `s`, the screen `id` was started with the extras `m`: reading them gives a bundle that holds
`m`, and leads to `s'` without touching a field. -/
structure StartedWith (kind : Kind) (s : State D.World) (id : Nat) (m : Entries)
    (s' : State D.World) : Prop where
  reads : ∃ bundle, D.ReadsFresh kind s id bundle s' ∧ D.entries s'.world bundle = some m
  fields : s'.fields = s.fields

end Device

end Execution

end Companions
