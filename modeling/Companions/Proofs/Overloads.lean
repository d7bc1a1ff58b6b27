import Companions.Proofs.Contract
import Companions.Proofs.Start.Family
import Companions.Proofs.Start.Name
import Companions.Source.Kotlin

/-!
When a companion is generated, and what its callables are called.

* `generate_eq` — generation depends on nothing but the names of the windows: it fails with the
  first of them that an earlier window has, and else yields the companion. All other callables have
  `Kind.fixedNames`, which meet neither each other nor a window's name.
* `Kotlin.functionName_eq` — in Kotlin the simple name of the screen goes behind the verb, which
  keeps different names different.
* `generate_distinguishes` — both together, for every assembly that can be reached.
* `generate_ordinary` — fields with ordinary names always get their companion.
-/

namespace Companions

/-! ### Names in Kotlin -/

namespace Kotlin

theorem withoutFront?_append {front rest : String} :
    withoutFront? front (front ++ rest) = some rest := by
  simp [withoutFront?, ← String.length_toList]

variable {kind : Kind} {simpleName rest : String} {callable : Callable}

/-- The extension for a callable of the start family. -/
theorem functionName_eq
    (purpose : callable.purpose = match kind with
      | .activity => .start
      | .fragment => .show)
    (named : callable.name = kind.verb ++ rest) :
    functionName simpleName callable = kind.verb ++ simpleName ++ rest := by
  cases kind <;> simp only at purpose <;>
    simp only [functionName, purpose, named, Kind.verb, withoutFront?_append]

end Kotlin

namespace Kind

/-- What may follow the verb in the name of a callable of the start family. -/
inductive Ending : String → Prop where
  | full : Ending ""
  | window (labels : String) : Ending ("WithOptional" ++ labels)
  | noOptional : Ending "WithoutOptional"

/-- Every name of a start family is the verb of the screen with an ending. -/
theorem exists_ending {kind : Kind} {optional : List Field}
    {choice : String × List Field} (h : choice ∈ kind.choices optional) :
    ∃ rest, Ending rest ∧ choice.1 = kind.verb ++ rest := by
  rw [choices, List.cons_append, List.mem_cons, List.mem_append, List.mem_singleton] at h
  rcases h with rfl | h | rfl
  · exact ⟨"", .full, (String.append_empty).symm⟩
  · obtain ⟨place, -, rfl⟩ := List.mem_map.mp h
    exact ⟨_, .window _, String.append_assoc⟩
  · exact ⟨"WithoutOptional", .noOptional, rfl⟩

end Kind

/-! ### Callables beside the windows -/

namespace Companion

variable (c : Companion)

/-- The callables that follow those of the windows. -/
def afterVariants : List Callable :=
  [c.noOptional, c.inject, c.saveState] ++ c.finishWithResult.toList

/-- Every callable of a companion but those of the windows. -/
def besideVariants : List Callable :=
  c.full :: c.afterVariants

theorem callables_eq : c.callables = c.full :: (c.variants ++ c.afterVariants) := by
  simp [callables, startFamily, afterVariants]

theorem callables_perm : c.callables.Perm (c.variants ++ c.besideVariants) := by
  rw [callables_eq]
  exact List.perm_middle.symm

end Companion

namespace Assembly

variable (a : Assembly)

theorem variants_names :
    (a.companionWith a.family).variants.map (·.name)
      = Windows.names a.kind a.optional.toList := by
  rw [Windows.names_eq_map_places]
  simp only [companionWith, family, List.map_map]
  rfl

/-- Without a contract there is no callable that finishes; all other names are always there. -/
theorem besideVariants_names_sublist :
    ((a.companionWith a.family).besideVariants.map (·.name)).Sublist a.kind.fixedNames := by
  cases contract : a.contract with
  | none =>
      simp only [Companion.besideVariants, Companion.afterVariants, companionWith, contract]
      exact List.sublist_append_left [_, _, _, _] [_]
  | some k =>
      simp only [Companion.besideVariants, Companion.afterVariants, companionWith, contract]
      exact List.Sublist.refl _

/-- No window is called like one of the other callables. -/
theorem names_disjoint :
    List.Disjoint (Windows.names a.kind a.optional.toList) a.kind.fixedNames := by
  intro name window fixed
  rw [Windows.names_eq_map_places] at window
  obtain ⟨place, -, rfl⟩ := List.mem_map.mp window
  exact Kind.variantName_not_mem_fixedNames fixed

/-- The names of all callables are distinct exactly when those of the windows are. -/
theorem names_callables_nodup_iff :
    ((a.companionWith a.family).callables.map (·.name)).Nodup
      ↔ (Windows.names a.kind a.optional.toList).Nodup := by
  have beside := a.besideVariants_names_sublist
  rw [((Companion.callables_perm _).map _).nodup_iff, List.map_append, variants_names,
    List.nodup_append']
  exact ⟨fun h => h.1, fun h => ⟨h, beside.nodup (Kind.fixedNames_nodup _),
    List.disjoint_of_subset_right beside.subset a.names_disjoint⟩⟩

/-- The first name that repeats among all callables is the first among the windows: only the full
callable stands before these, and its name is none of theirs. -/
theorem firstRepeated?_callables :
    firstRepeated? ((a.companionWith a.family).callables.map (·.name))
      = firstRepeated? (Windows.names a.kind a.optional.toList) := by
  cases first : firstRepeated? (Windows.names a.kind a.optional.toList) with
  | none =>
      rw [firstRepeated?_eq_none_iff] at first ⊢
      exact a.names_callables_nodup_iff.mpr first
  | some name =>
      obtain ⟨before, after, split, distinct, again⟩ := firstRepeated?_eq_some_iff.mp first
      have fresh : a.kind.fullName ∉ before := fun h =>
        a.names_disjoint (split ▸ List.mem_append_left _ h) List.mem_cons_self
      refine firstRepeated?_eq_some_iff.mpr ⟨a.kind.fullName :: before,
        after ++ (a.companionWith a.family).afterVariants.map (·.name), ?_,
        List.nodup_cons.mpr ⟨fresh, distinct⟩, List.mem_cons_of_mem _ again⟩
      rw [Companion.callables_eq, List.map_cons, List.map_append, variants_names, split,
        List.append_assoc]
      rfl

/-- **What generation comes to**: the first name that two windows share, or the companion. -/
theorem generate_eq :
    a.generate = match firstRepeated? (Windows.names a.kind a.optional.toList) with
      | some name => .error (.duplicateCallable a.owner.target.cls.canonical name)
      | none => .ok (a.companionWith a.family) := by
  have checked := a.firstRepeated?_callables
  cases first : firstRepeated? (Windows.names a.kind a.optional.toList) with
  | none =>
      rw [first] at checked
      simp only [generate, startFamily_eq, checked]
  | some name =>
      rw [first] at checked
      simp only [generate, startFamily_eq, checked]

/-! ### Names of the Kotlin functions -/

/-- Every callable of the start family is named by the verb and an ending, and its Kotlin function
has the simple name between them. -/
theorem member_named {choice : String × List Field}
    (h : choice ∈ a.kind.choices a.optional.toList) (simpleName : String) :
    ∃ rest, Kind.Ending rest ∧ (a.member choice).name = a.kind.verb ++ rest ∧
      Kotlin.functionName simpleName (a.member choice) = a.kind.verb ++ simpleName ++ rest := by
  obtain ⟨rest, ending, named⟩ := Kind.exists_ending h
  exact ⟨rest, ending, named, Kotlin.functionName_eq rfl named⟩

/-- Callables of the start family have one Kotlin name only if they have one name. -/
theorem name_eq_of_functionName_eq {simpleName : String} {callable callable' : Callable}
    (h : callable ∈ (a.companionWith a.family).startFamily)
    (h' : callable' ∈ (a.companionWith a.family).startFamily)
    (same : Kotlin.functionName simpleName callable = Kotlin.functionName simpleName callable') :
    callable.name = callable'.name := by
  rw [startFamily_companionWith_family] at h h'
  obtain ⟨choice, hchoice, rfl⟩ := List.mem_map.mp h
  obtain ⟨choice', hchoice', rfl⟩ := List.mem_map.mp h'
  obtain ⟨rest, -, named, spelled⟩ := a.member_named hchoice simpleName
  obtain ⟨rest', -, named', spelled'⟩ := a.member_named hchoice' simpleName
  rw [spelled, spelled', String.append_right_inj] at same
  rw [named, named', same]

/-- No Kotlin name of the start family is that of the callable that finishes. -/
theorem functionName_ne_finish {simpleName : String} {callable : Callable}
    (h : callable ∈ (a.companionWith a.family).startFamily) :
    Kotlin.functionName simpleName callable ≠ "finishWithResult" := by
  rw [startFamily_companionWith_family] at h
  obtain ⟨choice, hchoice, rfl⟩ := List.mem_map.mp h
  obtain ⟨rest, -, -, spelled⟩ := a.member_named hchoice simpleName
  rw [spelled]
  intro same
  have texts := congrArg String.toList same
  cases kind : a.kind <;> simp [kind, Kind.verb] at texts

/-- Distinct names stay distinct in Kotlin. -/
theorem functionNames_nodup {simpleName : String}
    (distinct : ((a.companionWith a.family).callables.map (·.name)).Nodup) :
    ((Kotlin.members (a.companionWith a.family)).map (Kotlin.functionName simpleName)).Nodup := by
  have family : ((a.companionWith a.family).startFamily.map
      (Kotlin.functionName simpleName)).Nodup := by
    have names : ((a.companionWith a.family).startFamily.map (·.name)).Nodup := by
      rw [Companion.callables, List.append_assoc, List.map_append] at distinct
      exact (List.nodup_append'.mp distinct).1
    rw [List.Nodup, List.pairwise_map] at names ⊢
    exact names.imp_of_mem fun h h' apart same => apart (a.name_eq_of_functionName_eq h h' same)
  have finish : (a.companionWith a.family).finishWithResult.toList.map
      (Kotlin.functionName simpleName)
        = a.contract.toList.map fun _ => "finishWithResult" := by
    cases contract : a.contract <;> simp only [companionWith, contract] <;> rfl
  rw [Kotlin.members, List.map_append, finish]
  refine List.nodup_append'.mpr ⟨family, ?_, ?_⟩
  · cases a.contract <;> simp
  · intro name spelled finishing
    obtain ⟨callable, h, rfl⟩ := List.mem_map.mp spelled
    obtain ⟨-, -, same⟩ := List.mem_map.mp finishing
    exact a.functionName_ne_finish h same.symm

/-! ### Which fields get a companion -/

section Reached

variable {settings : Settings} {target : Target} {fields : List Field} {a : Assembly}

/-- The windows of a reached assembly are those of its optional fields in order. -/
theorem Reached.names_eq (reached : Reached settings target fields a) :
    Windows.names a.kind a.optional.toList
      = Windows.names target.kind (Field.inOrder (fields.filter (!·.required))) := by
  rw [reached.optional_eq, kind, reached.owner_eq]

/-- **Only windows can clash.** Whatever fields were taken, there is one window for every length and
every beginning, and a companion is generated exactly when the names of these are distinct.
Otherwise the failure names the first window, in the order of the enumeration, whose name an earlier
one has; no draft is ever used out of order. All other callables have fixed names, which differ from
each other and from those of the windows. So all callables of a companion that is generated have
names of their own, and so have its functions in Kotlin. -/
theorem generate_distinguishes (reached : Reached settings target fields a) :
    let names := Windows.names target.kind (Field.inOrder (fields.filter (!·.required)))
    let n := (fields.filter (!·.required)).length
    names.length = n * (n - 1) ∧
      ((∃ c, a.generate = .ok c) ↔ names.Nodup) ∧
      (¬ names.Nodup → ∃ before name after,
        names = before ++ name :: after ∧ before.Nodup ∧ name ∈ before ∧
          a.generate = .error (.duplicateCallable target.cls.canonical name)) ∧
      (∀ reason, a.generate ≠ .error (.draft reason)) ∧
      (∃ family, a.startFamily = .ok family ∧
        (a.companionWith family).variants.map (·.name) = names ∧
        ((a.companionWith family).besideVariants.map (·.name)).Sublist target.kind.fixedNames) ∧
      target.kind.fixedNames.Nodup ∧ names.Disjoint target.kind.fixedNames ∧
      ∀ c, a.generate = .ok c → (c.callables.map (·.name)).Nodup ∧
        ((Kotlin.members c).map (Kotlin.functionName c.target.simpleName)).Nodup := by
  intro names n
  have windows : Windows.names a.kind a.optional.toList = names := reached.names_eq
  have kinds : a.kind = target.kind := by rw [kind, reached.owner_eq]
  have generated := a.generate_eq
  rw [windows, reached.owner_eq] at generated
  have size : names.length = n * (n - 1) := by
    rw [Windows.length_names, (Field.inOrder_perm _).length_eq]
  have distinct : (∃ c, a.generate = .ok c) ↔ names.Nodup := by
    rw [← firstRepeated?_eq_none_iff, generated]
    cases firstRepeated? names <;> simp
  refine ⟨size, distinct, fun repeated => ?_, fun reason failed => ?_, ?_,
    Kind.fixedNames_nodup _, ?_, fun c hc => ?_⟩
  · rw [← firstRepeated?_eq_none_iff] at repeated
    obtain ⟨name, first⟩ := Option.ne_none_iff_exists'.mp repeated
    obtain ⟨before, after, split, fresh, again⟩ := firstRepeated?_eq_some_iff.mp first
    rw [first] at generated
    exact ⟨before, name, after, split, fresh, again, generated⟩
  · rw [generated] at failed
    cases first : firstRepeated? names <;> simp [first] at failed
  · exact ⟨a.family, a.startFamily_eq, a.variants_names.trans windows,
      kinds ▸ a.besideVariants_names_sublist⟩
  · rw [← windows, ← kinds]
    exact a.names_disjoint
  · have unique : (c.callables.map (·.name)).Nodup :=
      firstRepeated?_eq_none_iff.mp (generate_eq_ok_iff.mp hc).2
    obtain ⟨rfl, -⟩ := generate_eq_ok_iff.mp hc
    exact ⟨unique, a.functionNames_nodup unique⟩

end Reached

/-- Two letters and a name that spells both with the joint between them. -/
def lettersFields : List Field :=
  [sampleField "x" .string false 0 (by decide) (by decide),
    sampleField "y" .string false 1 (by decide) (by decide),
    sampleField "xAndY" .string false 2 (by decide) (by decide)]

/-- The window of `xAndY` alone comes before that of `x` and `y`, which has the same name. -/
theorem generate_distinguishes_letters :
    ∃ a, Reached {} editor lettersFields a ∧
      a.generate = .error (.duplicateCallable "com.example.Editor" "startWithOptionalXAndY") := by
  have begun : ∃ blank, Assembly.begin {} editor = .ok blank := ⟨_, rfl⟩
  obtain ⟨blank, begun⟩ := begun
  have taken : ∃ a, lettersFields.foldlM Assembly.add blank = .ok a := by
    rw [← Except.ok.inj begun]
    exact ⟨_, rfl⟩
  obtain ⟨a, taken⟩ := taken
  have reached : Reached {} editor lettersFields a := (Reached.begin begun).foldlM taken
  have first : firstRepeated? (Windows.names editor.kind
      (Field.inOrder (lettersFields.filter (!·.required)))) = some "startWithOptionalXAndY" := by
    rw [← Field.eq_inOrder (List.Perm.refl _) (by unfold Field.Before; decide)]
    decide
  obtain ⟨-, -, clash, -⟩ := generate_distinguishes reached
  obtain ⟨before, name, after, split, fresh, again, failed⟩ := clash fun distinct => by
    rw [firstRepeated?_eq_none_iff.mpr distinct] at first
    exact nomatch first
  rw [firstRepeated?_eq_some_iff.mpr ⟨before, after, split, fresh, again⟩] at first
  rw [← Option.some.inj first]
  exact ⟨a, reached, failed⟩

section Ordinary

variable {settings : Settings} {target : Target} {fields : List Field} {a : Assembly}

/-- **Ordinary names never clash.** If the capitalised names of the optional fields are pairwise
different and `And` occurs in none of them, the companion is generated: no two windows have one
name, however many there are. -/
theorem generate_ordinary (reached : Reached settings target fields a)
    (distinct : ((fields.filter (!·.required)).map fun f => Naming.capitalize f.name).Nodup)
    (ordinary : ∀ f ∈ fields, f.required = false →
      ¬ "And".toList <:+: (Naming.capitalize f.name).toList) :
    (∃ c, a.generate = .ok c) ∧
      (Windows.names target.kind (Field.inOrder (fields.filter (!·.required)))).Nodup := by
  have names : (Windows.names target.kind
      (Field.inOrder (fields.filter (!·.required)))).Nodup := by
    have perm := Field.inOrder_perm (fields.filter (!·.required))
    refine Windows.names_nodup ((perm.map _).nodup_iff.mpr distinct) fun f hf => ?_
    obtain ⟨member, optional⟩ := List.mem_filter.mp (perm.mem_iff.mp hf)
    exact ordinary f member (by simpa using optional)
  refine ⟨?_, names⟩
  rw [← reached.names_eq, ← firstRepeated?_eq_none_iff] at names
  exact ⟨_, by rw [a.generate_eq, names]⟩

end Ordinary

/-- The editor's optional fields have ordinary names. -/
theorem generate_ordinary_editor :
    ∃ a, Reached {} editor editorFields a ∧
      ((editorFields.filter (!·.required)).map fun f => Naming.capitalize f.name).Nodup ∧
      (∀ f ∈ editorFields, f.required = false →
        ¬ "And".toList <:+: (Naming.capitalize f.name).toList) ∧
      ∃ c, a.generate = .ok c := by
  obtain ⟨a, -, reached, -⟩ := editor_generates
  have distinct : ((editorFields.filter (!·.required)).map
      fun f => Naming.capitalize f.name).Nodup := by decide
  have ordinary : ∀ f ∈ editorFields, f.required = false →
      ¬ "And".toList <:+: (Naming.capitalize f.name).toList := by decide
  exact ⟨a, reached, distinct, ordinary, (generate_ordinary reached distinct ordinary).1⟩

end Assembly

end Companions
