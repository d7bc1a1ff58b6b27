import Companions.Proofs.Start.Family

/-!
Fields offered to a screen, one call after the other.

An `Intake` is an assembly with a record of the fields that it has accepted. A call that offers a
field either puts it into the assembly and on the record, or is refused and changes neither
(`Intake.offer`). The record tells what the assembly holds, whatever was offered
(`Intake.reached_offerAll`), so a call is refused exactly when a field on the record has the name
that is offered, and the assembly lists the record in order, with nothing lost
(`Intake.offerAll_keeps`).
-/

namespace Companions

/-- An assembly, and the fields that it has accepted in this order. -/
structure Intake where
  assembly : Assembly
  accepted : List Field

namespace Intake

/-- After a call that offers a field. -/
def offer (s : Intake) (f : Field) : Intake :=
  match s.assembly.add f with
  | .ok next => { assembly := next, accepted := s.accepted ++ [f] }
  | .error _ => s

/-- After one call for each of the fields. -/
def offerAll (s : Intake) (offered : List Field) : Intake :=
  offered.foldl offer s

variable {settings : Settings} {target : Target} {s : Intake} {f : Field} {offered : List Field}

/-! ### One call -/

theorem offer_of_ok {next : Assembly} (taken : s.assembly.add f = .ok next) :
    s.offer f = { assembly := next, accepted := s.accepted ++ [f] } := by
  rw [offer, taken]

theorem offer_of_error {reason : FieldError} (refused : s.assembly.add f = .error reason) :
    s.offer f = s := by
  rw [offer, refused]

/-- The record still tells what the assembly holds. -/
theorem reached_offer (reached : Assembly.Reached settings target s.accepted s.assembly) :
    Assembly.Reached settings target (s.offer f).accepted (s.offer f).assembly := by
  cases answer : s.assembly.add f with
  | ok next =>
      rw [offer_of_ok answer]
      exact reached.add answer
  | error reason => rwa [offer_of_error answer]

/-- A call is refused exactly when a field on the record has the name. -/
theorem add_eq_error_iff_accepted
    (reached : Assembly.Reached settings target s.accepted s.assembly) {reason : FieldError} :
    s.assembly.add f = .error reason
      ↔ (∃ g ∈ s.accepted, g.name = f.name) ∧ reason = .duplicate f.name := by
  simp only [Assembly.add_eq_error_iff, reached.mem_fields_iff]

theorem accepted_prefix_offer : s.accepted <+: (s.offer f).accepted := by
  cases answer : s.assembly.add f with
  | ok next => exact offer_of_ok answer ▸ List.prefix_append _ _
  | error reason => exact (offer_of_error answer).symm ▸ List.prefix_rfl

/-! ### Any number of calls -/

theorem reached_offerAll (reached : Assembly.Reached settings target s.accepted s.assembly) :
    Assembly.Reached settings target (s.offerAll offered).accepted
      (s.offerAll offered).assembly := by
  induction offered generalizing s with
  | nil => exact reached
  | cons f rest ih => exact ih (reached_offer reached)

/-- What was accepted stays on the record. -/
theorem accepted_prefix_offerAll : s.accepted <+: (s.offerAll offered).accepted := by
  induction offered generalizing s with
  | nil => exact List.prefix_rfl
  | cons f rest ih => exact accepted_prefix_offer.trans ih

/-- **Nothing is lost and nothing is twice**, whatever was offered to a screen so far. The next call
is refused exactly when an accepted field has the name that is offered, whatever its role, key and
type; then the failure names the field and nothing changes. Otherwise the field is filed and all
others stay. The two sets hold the accepted fields, each as it was offered and once, the required
ones apart from the optional ones and both in ascending order by key and name; and no later call
takes one of them out. -/
theorem offerAll_keeps {fields : List Field} {a : Assembly}
    (reached : Assembly.Reached settings target fields a) (offered : List Field) :
    let s := ({ assembly := a, accepted := fields } : Intake).offerAll offered
    let ascending (l : List Field) : Prop :=
      l.Pairwise fun f g => f.order < g.order ∨ f.order = g.order ∧ f.name < g.name
    (∀ f,
        (∀ reason, s.assembly.add f = .error reason
          ↔ (∃ g ∈ s.accepted, g.name = f.name) ∧ reason = .duplicate f.name) ∧
        ((∃ g ∈ s.accepted, g.name = f.name) → s.offer f = s) ∧
        ((∀ g ∈ s.accepted, g.name ≠ f.name) →
          s.assembly.add f = .ok (s.offer f).assembly ∧
            (s.offer f).accepted = s.accepted ++ [f] ∧
            (s.offer f).assembly.fields.Perm (f :: s.assembly.fields))) ∧
      (s.assembly.required.toList ++ s.assembly.optional.toList).Perm s.accepted ∧
      (s.accepted.map (·.name)).Nodup ∧
      (∀ f ∈ s.assembly.required.toList, f.required = true) ∧
      (∀ f ∈ s.assembly.optional.toList, f.required = false) ∧
      ascending s.assembly.required.toList ∧ ascending s.assembly.optional.toList ∧
      ∀ later, ∀ f ∈ s.accepted, f ∈ (s.offerAll later).assembly.fields := by
  intro s ascending
  have kept : Assembly.Reached settings target s.accepted s.assembly := reached_offerAll reached
  obtain ⟨⟨-, requiredAscending⟩, -, optionalAscending⟩ := kept.sets
  refine ⟨fun f => ⟨fun reason => add_eq_error_iff_accepted kept, ?_, ?_⟩, kept.fields_perm,
    kept.names_nodup, ?_, ?_, ?_, ?_, ?_⟩
  · intro known
    exact offer_of_error ((add_eq_error_iff_accepted kept).mpr ⟨known, rfl⟩)
  · intro fresh
    have taken : s.assembly.add f = .ok (s.assembly.file f) :=
      Assembly.add_eq_ok_iff.mpr ⟨fun g hg => fresh g (kept.mem_fields_iff.mp hg), rfl⟩
    have after : Assembly.Reached settings target (s.accepted ++ [f]) (s.assembly.file f) :=
      kept.add taken
    rw [offer_of_ok taken]
    refine ⟨taken, rfl, after.fields_perm.trans ?_⟩
    exact (List.perm_append_singleton f _).trans (kept.fields_perm.symm.cons f)
  · exact fun f hf => (kept.mem_required_iff.mp hf).2
  · exact fun f hf => (kept.mem_optional_iff.mp hf).2
  · exact requiredAscending.imp Field.before_iff.mp
  · exact optionalAscending.imp Field.before_iff.mp
  · intro later f hf
    exact (reached_offerAll kept).mem_fields_iff.mpr (accepted_prefix_offerAll.subset hf)

/-- A field with the name of another one, but with its own role, key and type. -/
def namesake (f : Field) : Field :=
  { f with
    type := .primitive .int
    required := !f.required
    order := f.order + 5
    default := none
    defaultFits := Assembly.fits_of_mem_none }

/-- An editor that has accepted its four fields refuses a namesake of each and keeps what it has. -/
theorem offerAll_keeps_editor :
    ∃ a, Assembly.Reached {} Assembly.editor [] a ∧
      let s := ({ assembly := a, accepted := [] } : Intake).offerAll Assembly.editorFields
      (∀ f ∈ Assembly.editorFields,
        s.assembly.add (namesake f) = .error (.duplicate f.name) ∧ s.offer (namesake f) = s) ∧
        s.assembly.fields.Perm s.accepted ∧ s.accepted.length = 4 := by
  refine ⟨_, .begin rfl, ?_⟩
  intro s
  obtain ⟨answers, together, -⟩ := offerAll_keeps
    (.begin (show Assembly.begin {} Assembly.editor = .ok _ from rfl)) Assembly.editorFields
  have known : ∀ f ∈ Assembly.editorFields, ∃ g ∈ s.accepted, g.name = f.name := by
    decide +kernel
  refine ⟨fun f hf => ?_, together, by decide +kernel⟩
  obtain ⟨refused, unchanged, -⟩ := answers (namesake f)
  exact ⟨(refused _).mpr ⟨known f hf, rfl⟩, unchanged (known f hf)⟩

end Intake

end Companions
