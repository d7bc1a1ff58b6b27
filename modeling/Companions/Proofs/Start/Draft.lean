import Companions.Start.Draft

/-!
What a draft comes to.

An open draft is determined by its owner, its name and the fields it has visited: it is
`Draft.holding owner name fields`, and every operation on open drafts stays among these
(`visitAll_holding`, `copy_holding`). Closing one yields `Draft.finished`, whose
parameters and body are written out once here, so that nothing later has to replay a draft.
-/

namespace Companions

namespace Draft

/-- The parameter in which a callable takes a field. -/
def fieldParameter (f : Field) : Parameter :=
  { name := f.name, type := f.type }

/-- The statement that puts the argument of a field into the intent. -/
def putField (f : Field) : Statement :=
  Code.putExtra f.name (.ident f.name)

/-- The open draft that has visited `fields`. -/
def holding (owner : Owner) (name : String) (fields : List Field) : Draft :=
  { owner, name
    parameters := preambleParameters owner.target.kind ++ fields.map fieldParameter
    visited := fields
    body := preambleBody owner ++ fields.map putField }

/-- The callable of a draft that visited `fields` and was closed with `contract`. -/
def finished (owner : Owner) (contract : Option Contract) (name : String) (fields : List Field) :
    Callable :=
  { name
    purpose := match owner.target.kind with
      | .activity => .start
      | .fragment => .show
    parameters :=
      preambleParameters owner.target.kind ++ fields.map fieldParameter
        ++ closingParameters owner contract
    body :=
      preambleBody owner ++ fields.map putField ++ closingBody owner contract }

/-- The callable that a fresh draft yields when it visits `fields` in order and is closed once. -/
def written (owner : Owner) (contract : Option Contract) (name : String) (fields : List Field) :
    Except DraftError Callable := do
  let draft ← (begin owner name).visitAll fields
  let draft ← draft.close contract
  draft.build

variable {owner : Owner} {contract : Option Contract} {name other : String}
  {fields more : List Field}

theorem begin_eq_holding : begin owner name = holding owner name [] := by
  simp [begin, holding]

theorem push_holding {f : Field} :
    (holding owner name fields).push f = holding owner name (fields ++ [f]) := by
  simp [push, holding, fieldParameter, putField]

theorem foldl_push_holding :
    more.foldl push (holding owner name fields) = holding owner name (fields ++ more) := by
  induction more generalizing fields with
  | nil => rw [List.append_nil, List.foldl_nil]
  | cons f rest ih => rw [List.foldl_cons, push_holding, ih, List.append_cons fields f rest]

/-- Visiting never fails while the draft is open. -/
theorem visitAll_holding :
    (holding owner name fields).visitAll more = .ok (holding owner name (fields ++ more)) := by
  induction more generalizing fields with
  | nil => rw [List.append_nil]; rfl
  | cons f rest ih =>
      have first : (holding owner name fields).visit f
          = .ok (holding owner name (fields ++ [f])) := by
        rw [← push_holding]; rfl
      rw [visitAll, List.foldlM_cons, first, List.append_cons fields f rest]
      exact ih

/-- A copy has visited the same fields and is open. -/
theorem copy_holding : (holding owner name fields).copy other = holding owner other fields := by
  show fields.foldl push (begin owner other) = _
  rw [begin_eq_holding, foldl_push_holding, List.nil_append]

/-- A draft may be renamed after it was closed: only the name of its callable changes. -/
theorem close_rename_build :
    ((holding owner name fields).close contract >>= fun d => (d.rename other).build)
      = .ok (finished owner contract other fields) := by
  rfl

theorem close_build :
    ((holding owner name fields).close contract >>= build)
      = .ok (finished owner contract name fields) := by
  rfl

theorem written_eq :
    written owner contract name fields = .ok (finished owner contract name fields) := by
  have visited : (begin owner name).visitAll fields = .ok (holding owner name fields) := by
    rw [begin_eq_holding, visitAll_holding, List.nil_append]
  unfold written
  rw [visited]
  exact close_build

end Draft

end Companions
