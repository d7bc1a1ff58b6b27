import Companions.Proofs.Manifest
import Companions.Proofs.Outcome

/-!
What order keys are for.

The keys of the fields decide their order and nothing else. Giving every field another key
(`rekeyed`) is natural for everything an assembly does as long as the keys in use keep their order:
fields are compared as before (`Field.compare_rekeyed`), filed at the same places
(`Assembly.add_rekeyed`), and the companion that comes out is the same one
(`Assembly.generate_rekeyed`). So the outcome of a binding is that of the binding with other keys
(`Binding.outcome_rekeyed`), and a declared field uses its position for its key only
(`FieldEntry.toField_rekeyed`).
-/

namespace Companions

variable {key : Nat → Nat} {keys : Set Nat}

/-! ### Fields and sets -/

namespace Field

/-- The field under another order key. -/
def rekeyed (key : Nat → Nat) (f : Field) : Field :=
  { f with order := key f.order }

/-- Keys that keep their order keep the order of the fields. -/
theorem compare_rekeyed (mono : StrictMonoOn key keys) {f g : Field} (hf : f.order ∈ keys)
    (hg : g.order ∈ keys) : (f.rekeyed key).compare (g.rekeyed key) = f.compare g := by
  have order : Ord.compare (key f.order) (key g.order) = Ord.compare f.order g.order := by
    rcases lt_trichotomy f.order g.order with lt | eq | gt
    · rw [Nat.compare_eq_lt.mpr lt, Nat.compare_eq_lt.mpr (mono hf hg lt)]
    · rw [eq]
      simp
    · rw [Nat.compare_eq_gt.mpr gt, Nat.compare_eq_gt.mpr (mono hg hf gt)]
  rw [compare, compare]
  exact congrArg (Ordering.then · _) order

/-- No check of a field looks at its key. -/
theorem make_rekeyed {name : String} {type : ValueType} {required : Bool} {order : Nat} :
    make name type required (key order) = (make name type required order).map (rekeyed key) := by
  unfold make
  split
  · rfl
  · split
    · split <;> rfl
    · rfl

theorem withDefault_rekeyed {f : Field} {d : Default} :
    (f.rekeyed key).withDefault d = (f.withDefault d).map (rekeyed key) := by
  unfold withDefault
  show (if _ : f.required = true then _ else if _ : d.fits f.type = true then _ else _) = _
  split
  · rfl
  · split <;> rfl

end Field

namespace FieldSet

/-- Every field of the set under another order key. -/
def rekeyed (key : Nat → Nat) (s : FieldSet) : FieldSet :=
  ⟨s.toList.map (Field.rekeyed key)⟩

theorem insertInto_rekeyed (mono : StrictMonoOn key keys) {f : Field} {l : List Field}
    (hf : f.order ∈ keys) (hl : ∀ g ∈ l, g.order ∈ keys) :
    insertInto (f.rekeyed key) (l.map (Field.rekeyed key))
      = (insertInto f l).map (Field.rekeyed key) := by
  induction l with
  | nil => rfl
  | cons g rest ih =>
      obtain ⟨hg, hrest⟩ := List.forall_mem_cons.mp hl
      rw [List.map_cons, insertInto, insertInto, Field.compare_rekeyed mono hf hg, ih hrest]
      cases f.compare g <;> rfl

theorem names_rekeyed {s : FieldSet} : (s.rekeyed key).names = s.names :=
  List.map_map

end FieldSet

/-! ### Callables of rekeyed fields -/

theorem cyclicRun_map (g : Field → Field) (fields : List Field) (step start : Nat) :
    cyclicRun (fields.map g) step start = (cyclicRun fields step start).map g := by
  simp only [cyclicRun, List.length_map, List.getElem?_map, List.map_filterMap]

theorem Draft.finished_rekeyed {owner : Owner} {contract : Option Contract} {name : String}
    {fields : List Field} :
    Draft.finished owner contract name (fields.map (Field.rekeyed key))
      = Draft.finished owner contract name fields := by
  simp only [Draft.finished, List.map_map]
  rfl

namespace SavedState

variable {owner : Owner} {fields : List Field}

theorem inject_rekeyed :
    inject owner (fields.map (Field.rekeyed key)) = inject owner fields := by
  simp only [inject, List.isEmpty_map, List.flatMap_map]
  rfl

theorem saveState_rekeyed :
    saveState owner (fields.map (Field.rekeyed key)) = saveState owner fields := by
  simp only [saveState, List.map_map]
  rfl

end SavedState

/-! ### Assemblies -/

namespace Assembly

variable {a : Assembly}

/-- The assembly with every field under another order key. -/
def rekeyed (key : Nat → Nat) (a : Assembly) : Assembly :=
  { a with required := a.required.rekeyed key, optional := a.optional.rekeyed key }

theorem fields_rekeyed : (a.rekeyed key).fields = a.fields.map (Field.rekeyed key) :=
  List.map_append.symm

theorem member_rekeyed {name : String} {chosen : List Field} :
    (a.rekeyed key).member (name, chosen.map (Field.rekeyed key)) = a.member (name, chosen) := by
  rw [member, member]
  show Draft.finished a.owner a.contract name (a.required.toList.map _ ++ chosen.map _) = _
  rw [← List.map_append, Draft.finished_rekeyed]

theorem family_rekeyed : (a.rekeyed key).family = a.family := by
  have chosen : ∀ place : Nat × Nat,
      cyclicRun (a.rekeyed key).optional.toList place.1 place.2
        = (cyclicRun a.optional.toList place.1 place.2).map (Field.rekeyed key) :=
    fun place => cyclicRun_map _ _ _ _
  have number : (a.rekeyed key).optional.toList.length = a.optional.toList.length :=
    List.length_map _
  simp only [family, number, chosen, List.map_map]
  refine Prod.ext member_rekeyed (Prod.ext (List.map_congr_left fun place _ => ?_) ?_)
  · exact member_rekeyed
  · show (a.rekeyed key).member (_, [].map (Field.rekeyed key)) = _
    exact member_rekeyed

theorem companionWith_rekeyed {family : Callable × List Callable × Callable} :
    (a.rekeyed key).companionWith family = a.companionWith family := by
  have constants : (a.rekeyed key).constants = a.constants := by
    simp only [Assembly.constants, rekeyed, FieldSet.names_rekeyed]
  simp only [companionWith, constants, fields_rekeyed, SavedState.inject_rekeyed,
    SavedState.saveState_rekeyed]
  rfl

/-- **Order keys do not show in a companion**, beyond the order they put the fields in. -/
theorem generate_rekeyed : (a.rekeyed key).generate = a.generate := by
  rw [generate, generate, startFamily_eq, startFamily_eq, family_rekeyed]
  simp only [companionWith_rekeyed]
  rfl

theorem mem_of_mem_fields_file {f g : Field} (h : g ∈ (a.file f).fields) :
    g = f ∨ g ∈ a.fields := by
  unfold file at h
  split at h <;> simp only [fields, FieldSet.insert, List.mem_append] at h ⊢
  · rcases h with h | h
    · exact (FieldSet.mem_of_mem_insertInto h).imp_right Or.inl
    · exact Or.inr (Or.inr h)
  · rcases h with h | h
    · exact Or.inr (Or.inl h)
    · exact (FieldSet.mem_of_mem_insertInto h).imp_right Or.inr

theorem add_rekeyed (mono : StrictMonoOn key keys) {f : Field} (hf : f.order ∈ keys)
    (ha : ∀ g ∈ a.fields, g.order ∈ keys) :
    (a.rekeyed key).add (f.rekeyed key) = (a.add f).map (rekeyed key) := by
  have taken : ((a.rekeyed key).fields.any fun g => g.name == (f.rekeyed key).name)
      = a.fields.any fun g => g.name == f.name := by
    rw [fields_rekeyed, List.any_map]
    rfl
  obtain ⟨required, optional⟩ := List.forall_mem_append.mp ha
  unfold add
  rw [taken]
  split
  · rfl
  · show (if f.required then _ else _) = _
    split
    · simp only [rekeyed, FieldSet.insert, FieldSet.rekeyed,
        FieldSet.insertInto_rekeyed mono hf required]
      rfl
    · simp only [rekeyed, FieldSet.insert, FieldSet.rekeyed,
        FieldSet.insertInto_rekeyed mono hf optional]
      rfl

/-- Before its first field an assembly has no keys. -/
theorem rekeyed_of_begin {settings : Settings} {target : Target}
    (begun : Assembly.begin settings target = .ok a) : a.rekeyed key = a := by
  obtain ⟨-, required, optional, -⟩ := begin_eq_ok begun
  unfold rekeyed
  rw [required, optional]
  cases a
  simp_all [FieldSet.rekeyed, FieldSet.empty]

end Assembly

/-! ### Bindings -/

namespace Binding

/-- The binding with every field under another order key. -/
def rekeyed (key : Nat → Nat) (b : Binding) : Binding :=
  { b with fields := b.fields.map (Except.map (Field.rekeyed key)) }

theorem take_rekeyed (mono : StrictMonoOn key keys) {a : Assembly} {f : Field}
    (hf : f.order ∈ keys) (ha : ∀ g ∈ a.fields, g.order ∈ keys) :
    take (a.rekeyed key) (.ok (f.rekeyed key)) = (take a (.ok f)).map (Assembly.rekeyed key) := by
  rw [take_ok, take_ok, Assembly.add_rekeyed mono hf ha]
  cases a.add f <;> rfl

theorem foldlM_take_rekeyed (mono : StrictMonoOn key keys)
    {fields : List (Except FieldError Field)} {a : Assembly}
    (hfields : ∀ f, .ok f ∈ fields → f.order ∈ keys) (ha : ∀ g ∈ a.fields, g.order ∈ keys) :
    (fields.map (Except.map (Field.rekeyed key))).foldlM take (a.rekeyed key)
      = (fields.foldlM take a).map (Assembly.rekeyed key) := by
  induction fields generalizing a with
  | nil => rfl
  | cons field rest ih =>
      rw [List.map_cons, List.foldlM_cons, List.foldlM_cons]
      cases field with
      | error reason => rfl
      | ok f =>
          have hf := hfields f List.mem_cons_self
          have step := take_rekeyed mono hf ha
          rw [take_ok (a := a)] at step ⊢
          cases added : a.add f with
          | error reason =>
              rw [added] at step
              show (take (a.rekeyed key) (.ok (f.rekeyed key)) >>= _) = _
              rw [step]
              rfl
          | ok next =>
              rw [added] at step
              show (take (a.rekeyed key) (.ok (f.rekeyed key)) >>= _) = _
              rw [step]
              obtain ⟨-, rfl⟩ := Assembly.add_eq_ok_iff.mp added
              refine ih (fun f h => hfields f (List.mem_cons_of_mem _ h)) fun g hg => ?_
              rcases Assembly.mem_of_mem_fields_file hg with rfl | hg
              · exact hf
              · exact ha g hg

variable {settings : Settings} {b : Binding}

theorem assemble_rekeyed (mono : StrictMonoOn key keys)
    (hfields : ∀ f, .ok f ∈ b.fields → f.order ∈ keys) :
    (b.rekeyed key).assemble settings = (b.assemble settings).map (Assembly.rekeyed key) := by
  cases htarget : b.target with
  | error reason =>
      rw [assemble_of_target_error htarget, assemble_of_target_error (b := b.rekeyed key) htarget]
      rfl
  | ok target =>
      cases begun : Assembly.begin settings target with
      | error reason =>
          rw [assemble_of_begin_error htarget begun,
            assemble_of_begin_error (b := b.rekeyed key) htarget begun]
          rfl
      | ok blank =>
          have none : ∀ g ∈ blank.fields, g.order ∈ keys := by
            obtain ⟨-, required, optional, -⟩ := Assembly.begin_eq_ok begun
            simp [Assembly.fields, required, optional, FieldSet.empty]
          rw [assemble_of_begin htarget begun,
            assemble_of_begin (b := b.rekeyed key) htarget begun,
            ← foldlM_take_rekeyed mono hfields none, Assembly.rekeyed_of_begin begun]
          rfl

/-- **Other keys in the same order change no outcome.** -/
theorem outcome_rekeyed (mono : StrictMonoOn key keys)
    (hfields : ∀ f, .ok f ∈ b.fields → f.order ∈ keys) :
    (b.rekeyed key).outcome settings = b.outcome settings := by
  unfold outcome
  rw [assemble_rekeyed mono hfields]
  cases b.assemble settings with
  | error reason => rfl
  | ok a =>
      show Outcome.mk b.className a.warnings (a.rekeyed key).generate = _
      rw [Assembly.generate_rekeyed]
      rfl

end Binding

/-! ### Declared fields -/

namespace FieldEntry

variable {e : FieldEntry} {position position' : Nat}

/-- A declared key is the key at every position. -/
theorem orderAt_of_declared (declared : e.order.isSome) :
    e.orderAt position = e.orderAt position' := by
  obtain ⟨order, given⟩ := Option.isSome_iff_exists.mp declared
  simp only [orderAt, given, Option.getD_some]

/-- Without a declared key the position is the key, unless it is beyond the largest one. -/
theorem orderAt_of_undeclared (undeclared : e.order = none) (small : position < 2 ^ 32) :
    e.orderAt position = position := by
  have inRange : position ≤ maxOrder := by
    show position ≤ 2 ^ 32 - 1
    omega
  rw [orderAt, undeclared, Option.getD_none, min_eq_left inRange]

/-- A field that declares its key is the same at every position. -/
theorem toField_of_declared (declared : e.order.isSome) :
    e.toField position = e.toField position' := by
  have keys : e.orderAt position = e.orderAt position' := orderAt_of_declared declared
  simp only [toField, toPlainField, keys]

/-- A declared field uses its position for nothing but its order key. -/
theorem toField_rekeyed (moved : e.orderAt position' = key (e.orderAt position)) :
    e.toField position' = (e.toField position).map (Field.rekeyed key) := by
  have plain : e.toPlainField position' = (e.toPlainField position).map (Field.rekeyed key) := by
    unfold toPlainField
    cases ValueType.parse e.typeText with
    | error reason => rfl
    | ok type =>
        rw [moved]
        exact Field.make_rekeyed
  unfold toField
  rw [plain]
  cases e.toPlainField position with
  | error reason => rfl
  | ok f =>
      cases e.default with
      | none => rfl
      | some value =>
          show (e.toDefault value >>= (f.rekeyed key).withDefault)
            = (e.toDefault value >>= f.withDefault).map (Field.rekeyed key)
          cases e.toDefault value with
          | error reason => rfl
          | ok d => exact Field.withDefault_rekeyed

/-- The key of a field is the one of its declaration: giving it that key changes nothing. -/
theorem order_of_toField {f : Field} (made : e.toField position = .ok f) :
    f.order = e.orderAt position := by
  have same : e.toField position
      = (e.toField position).map (Field.rekeyed fun _ => e.orderAt position) :=
    toField_rekeyed rfl
  rw [made] at same
  exact congrArg Field.order (Except.ok.inj same)

end FieldEntry

end Companions
