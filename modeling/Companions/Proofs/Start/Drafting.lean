import Companions.Proofs.Start.Family

/-!
Any number of drafts, used in any order.

`Drafting` lists what can be done with one draft, and `Drafting.run` carries out requests on a desk
of them, each known by its place. Drafts are one instance. The other is `Outline`: an owner, a name,
the fields visited so far and, once the draft was closed, what it was closed with. Nothing more is
to be known about a draft:

* `Drafting.Mirrors.run_map`: if an outline stands for a draft before a request, it does after it,
  and both sides give the same reply;
* `Drafting.run_untouched`: a place keeps its draft until a request changes that very place, so a
  copy and its original go their own ways;
* `Outline.run_outlines` puts these together for every sequence of requests.
-/

namespace Companions

/-- What can be done with a draft, on whatever stands for one. -/
structure Drafting (α : Type) where
  start : Owner → String → α
  visit : α → Field → Except DraftError α
  close : α → Option Contract → Except DraftError α
  rename : α → String → α
  copy : α → String → α
  build : α → Except DraftError Callable

/-- A request to a desk of drafts. What is started or copied takes the next free place. -/
inductive DraftRequest where
  | start (owner : Owner) (name : String)
  | visit (place : Nat) (field : Field)
  | close (place : Nat) (contract : Option Contract)
  | rename (place : Nat) (name : String)
  | copy (place : Nat) (name : String)
  | build (place : Nat)

/-- The place whose draft the request may change. -/
def DraftRequest.changes? : DraftRequest → Option Nat
  | start _ _ | copy _ _ | build _ => none
  | visit place _ | close place _ | rename place _ => some place

/-- What a request is answered with. -/
inductive DraftReply where
  | done
  | built (callable : Callable)
  | refused (error : DraftError)
  | absent

namespace Drafting

/-! ### Requests to a desk -/

section Desk

variable {α : Type} (ops : Drafting α)

/-- Changes the draft at a place, unless the change is refused. -/
def changeAt (desk : List α) (place : Nat) (change : α → Except DraftError α) :
    List α × DraftReply :=
  match desk[place]? with
  | none => (desk, .absent)
  | some draft =>
    match change draft with
    | .ok changed => (desk.set place changed, .done)
    | .error error => (desk, .refused error)

/-- The desk after a request, and the reply. -/
def step (desk : List α) : DraftRequest → List α × DraftReply
  | .start owner name => (desk ++ [ops.start owner name], .done)
  | .visit place field => changeAt desk place (ops.visit · field)
  | .close place contract => changeAt desk place (ops.close · contract)
  | .rename place name => changeAt desk place fun draft => .ok (ops.rename draft name)
  | .copy place name =>
    match desk[place]? with
    | none => (desk, .absent)
    | some draft => (desk ++ [ops.copy draft name], .done)
  | .build place =>
    match desk[place]? with
    | none => (desk, .absent)
    | some draft =>
      match ops.build draft with
      | .ok callable => (desk, .built callable)
      | .error error => (desk, .refused error)

/-- The desk after a sequence of requests, and the replies in order. -/
def run (desk : List α) : List DraftRequest → List α × List DraftReply
  | [] => (desk, [])
  | request :: rest =>
    let (desk, reply) := ops.step desk request
    let (desk, replies) := run desk rest
    (desk, reply :: replies)

/-! ### What is left alone -/

theorem changeAt_of_ok {desk : List α} {place : Nat} {change : α → Except DraftError α}
    {draft changed : α} (there : desk[place]? = some draft) (taken : change draft = .ok changed) :
    changeAt desk place change = (desk.set place changed, .done) := by
  simp [changeAt, there, taken]

theorem changeAt_of_error {desk : List α} {place : Nat} {change : α → Except DraftError α}
    {draft : α} {error : DraftError} (there : desk[place]? = some draft)
    (refused : change draft = .error error) :
    changeAt desk place change = (desk, .refused error) := by
  simp [changeAt, there, refused]

theorem getElem?_changeAt_of_ne {desk : List α} {place other : Nat}
    {change : α → Except DraftError α} (apart : place ≠ other) :
    (changeAt desk place change).1[other]? = desk[other]? := by
  unfold changeAt
  split
  · rfl
  · split
    · simp [apart]
    · rfl

/-- A request changes no draft but the one it names; new ones come behind those there are. -/
theorem getElem?_step {desk : List α} {request : DraftRequest} {place : Nat} {draft : α}
    (there : desk[place]? = some draft) (apart : request.changes? ≠ some place) :
    (ops.step desk request).1[place]? = some draft := by
  have inside : place < desk.length := (List.getElem?_eq_some_iff.mp there).1
  cases request with
  | start owner name => simp [step, List.getElem?_append_left inside, there]
  | visit other field =>
      rw [step, getElem?_changeAt_of_ne (by simpa [DraftRequest.changes?] using apart), there]
  | close other contract =>
      rw [step, getElem?_changeAt_of_ne (by simpa [DraftRequest.changes?] using apart), there]
  | rename other name =>
      rw [step, getElem?_changeAt_of_ne (by simpa [DraftRequest.changes?] using apart), there]
  | copy other name =>
      rw [step]
      split
      · exact there
      · simp [List.getElem?_append_left inside, there]
  | build other =>
      rw [step]
      split
      · exact there
      · split <;> exact there

/-- **A draft stays as it is until a request changes it by its own place.** -/
theorem run_untouched {desk : List α} {requests : List DraftRequest} {place : Nat} {draft : α}
    (there : desk[place]? = some draft)
    (apart : ∀ request ∈ requests, request.changes? ≠ some place) :
    (ops.run desk requests).1[place]? = some draft := by
  induction requests generalizing desk with
  | nil => exact there
  | cons request rest ih =>
      obtain ⟨first, apart⟩ := List.forall_mem_cons.mp apart
      exact ih (ops.getElem?_step there first) apart

end Desk

/-! ### One kind of draft standing for another -/

section Mirrors

variable {α β : Type} {ops : Drafting α} {real : Drafting β} {shown : α → β}

/-- Every operation on what is shown is the operation on what it stands for. -/
structure Mirrors (ops : Drafting α) (real : Drafting β) (shown : α → β) : Prop where
  start : ∀ owner name, real.start owner name = shown (ops.start owner name)
  visit : ∀ a field, real.visit (shown a) field = (ops.visit a field).map shown
  close : ∀ a contract, real.close (shown a) contract = (ops.close a contract).map shown
  rename : ∀ a name, real.rename (shown a) name = shown (ops.rename a name)
  copy : ∀ a name, real.copy (shown a) name = shown (ops.copy a name)
  build : ∀ a, real.build (shown a) = ops.build a

theorem changeAt_map {desk : List α} {place : Nat} {change : α → Except DraftError α}
    {changeReal : β → Except DraftError β}
    (mirrored : ∀ a, changeReal (shown a) = (change a).map shown) :
    changeAt (desk.map shown) place changeReal
      = ((changeAt desk place change).1.map shown, (changeAt desk place change).2) := by
  unfold changeAt
  rw [List.getElem?_map]
  cases desk[place]? with
  | none => rfl
  | some draft =>
      simp only [Option.map_some, mirrored]
      cases change draft with
      | error error => rfl
      | ok changed => simp [Except.map, List.map_set]

/-- One request, on both sides. -/
theorem Mirrors.step_map (mirrors : Mirrors ops real shown) (desk : List α)
    (request : DraftRequest) :
    real.step (desk.map shown) request
      = ((ops.step desk request).1.map shown, (ops.step desk request).2) := by
  cases request with
  | start owner name => simp [step, mirrors.start]
  | visit place field => exact changeAt_map fun a => mirrors.visit a field
  | close place contract => exact changeAt_map fun a => mirrors.close a contract
  | rename place name =>
      rw [step, step]
      exact changeAt_map fun a => congrArg Except.ok (mirrors.rename a name)
  | copy place name =>
      rw [step, step, List.getElem?_map]
      cases desk[place]? with
      | none => rfl
      | some draft => simp [mirrors.copy]
  | build place =>
      rw [step, step, List.getElem?_map]
      cases desk[place]? with
      | none => rfl
      | some draft =>
          simp only [Option.map_some, mirrors.build]
          cases ops.build draft <;> rfl

/-- A whole run, on both sides. -/
theorem Mirrors.run_map (mirrors : Mirrors ops real shown) (desk : List α)
    (requests : List DraftRequest) :
    real.run (desk.map shown) requests
      = ((ops.run desk requests).1.map shown, (ops.run desk requests).2) := by
  induction requests generalizing desk with
  | nil => rfl
  | cons request rest ih =>
      simp only [run, mirrors.step_map desk request, ih]

end Mirrors

end Drafting

/-! ### Drafts and their outlines -/

/-- What can be done with a draft. -/
def Draft.drafting : Drafting Draft where
  start := begin
  visit := visit
  close := close
  rename := rename
  copy := copy
  build := build

/-- All that is to be known about a draft. `closing` is there once the draft was closed, and holds
the contract, if any, that it was closed with. -/
structure Outline where
  owner : Owner
  name : String
  fields : List Field := []
  closing : Option (Option Contract) := none

namespace Outline

/-- The listener parameter, which only a contract that closed the draft of an activity adds. -/
def listener (o : Outline) : List Parameter :=
  match o.owner.target.kind, o.closing with
  | .activity, some (some contract) => [contract.listenerParameter]
  | _, _ => []

/-- The preamble, one value parameter for every visited field, and the listener. -/
def parameters (o : Outline) : List Parameter :=
  Draft.preambleParameters o.owner.target.kind ++ o.fields.map Draft.fieldParameter ++ o.listener

/-- The launch that suits the kind of the screen. -/
def launch (o : Outline) (contract : Option Contract) : Statement :=
  match o.owner.target.kind with
  | .activity => Draft.launchActivity o.owner contract
  | .fragment => Draft.launchFragment o.owner

/-- The call that binds the extras that are pending. -/
def injection (o : Outline) : Statement :=
  Draft.onActivityBuilder o.owner "inject" []

/-- The launch and one injection call, once the draft was closed. -/
def ending (o : Outline) : List Statement :=
  match o.closing with
  | none => []
  | some contract => [o.launch contract, o.injection]

/-- The preamble, one `putExtra` for every visited field, and the ending. -/
def body (o : Outline) : List Statement :=
  Draft.preambleBody o.owner ++ o.fields.map Draft.putField ++ o.ending

/-- The draft that the outline stands for. -/
def draft (o : Outline) : Draft :=
  { owner := o.owner, name := o.name, parameters := o.parameters, visited := o.fields
    body := o.body, closed := o.closing.isSome }

/-- The callable of the draft. -/
def callable (o : Outline) : Callable :=
  { name := o.name
    purpose := match o.owner.target.kind with
      | .activity => .start
      | .fragment => .show
    parameters := o.parameters
    body := o.body }

/-- The same fields, not closed, under another name. -/
def reopened (o : Outline) (name : String) : Outline :=
  { o with name, closing := none }

/-- What is done to the outline when something is done with the draft. -/
def drafting : Drafting Outline where
  start owner name := { owner, name }
  visit o field :=
    match o.closing with
    | none => .ok { o with fields := o.fields ++ [field] }
    | some _ => .error .visitedWhenClosed
  close o contract :=
    match o.closing with
    | none => .ok { o with closing := some contract }
    | some _ => .error (.closedTwice o.owner.target.cls.canonical o.name)
  rename o name := { o with name }
  copy := reopened
  build o :=
    match o.closing with
    | none => .error (.notClosed o.owner.target.cls.canonical o.name)
    | some _ => .ok o.callable

/-! ### Outlines stand for drafts -/

variable {o : Outline}

/-- An outline that was not closed stands for an open draft. -/
theorem draft_of_open (opened : o.closing = none) :
    o.draft = Draft.holding o.owner o.name o.fields := by
  have silent : o.listener = [] := by
    unfold listener
    rw [opened]
    split <;> simp_all
  simp [draft, Draft.holding, parameters, body, ending, opened, silent]

theorem start_eq (owner : Owner) (name : String) :
    Draft.begin owner name = (drafting.start owner name).draft := by
  rw [draft_of_open rfl]
  exact Draft.begin_eq_holding

theorem visit_draft (o : Outline) (field : Field) :
    o.draft.visit field = (drafting.visit o field).map draft := by
  cases closing : o.closing with
  | none =>
      simp only [Draft.visit, drafting, closing, draft_of_open closing, Except.map]
      rw [draft_of_open rfl]
      exact congrArg Except.ok Draft.push_holding
  | some contract =>
      have closed : o.draft.closed = true := by simp [draft, closing]
      simp [Draft.visit, drafting, closed, closing, Except.map]

/-- What closing adds to the parameters is the listener. -/
theorem listener_closing (o : Outline) (contract : Option Contract) :
    listener { o with closing := some contract } = Draft.closingParameters o.owner contract := by
  unfold listener Draft.closingParameters
  cases o.owner.target.kind with
  | activity => cases contract <;> rfl
  | fragment => rfl

/-- What closing adds to the body is the ending. -/
theorem ending_closing (o : Outline) (contract : Option Contract) :
    ending { o with closing := some contract } = Draft.closingBody o.owner contract := by
  unfold ending launch injection Draft.closingBody
  cases o.owner.target.kind <;> rfl

theorem close_draft (o : Outline) (contract : Option Contract) :
    o.draft.close contract = (drafting.close o contract).map draft := by
  cases closing : o.closing with
  | none =>
      simp only [Draft.close, drafting, closing, draft_of_open closing, Except.map]
      simp [draft, parameters, body, listener_closing, ending_closing, Draft.holding]
  | some former =>
      simp [Draft.close, drafting, closing, Except.map, Draft.className, draft]

theorem copy_draft (o : Outline) (name : String) :
    o.draft.copy name = (o.reopened name).draft := by
  have opened : (o.reopened name).closing = none := rfl
  have copied : o.draft.copy name = (Draft.holding o.owner o.name o.fields).copy name := rfl
  rw [draft_of_open opened, copied]
  exact Draft.copy_holding

theorem build_draft (o : Outline) : o.draft.build = drafting.build o := by
  cases closing : o.closing with
  | none => simp [Draft.build, drafting, draft, closing, Draft.className]
  | some contract =>
      cases kind : o.owner.target.kind <;>
        simp [Draft.build, drafting, draft, closing, callable, kind]

/-- Outlines stand for drafts, whatever is done with them. -/
theorem mirrors : Drafting.Mirrors drafting Draft.drafting draft where
  start := start_eq
  visit := visit_draft
  close := close_draft
  rename _ _ := rfl
  copy := copy_draft
  build := build_draft

/-- **Drafts are what their outlines say, at any time.** After any requests to an empty desk, every
draft is that of the outline at its place, and all replies are those that outlines give. So its
parameters are the preamble, one for every visited field in order, and the listener exactly if an
activity's draft was closed with a contract; its body is the preamble, one `putExtra` for every
visited field in order, and, once it was closed, the launch and one injection call. Closing it again
is refused and changes nothing; building changes nothing, and is refused exactly while it is open;
renaming changes the name only; a copy is open and has visited the same fields. Whatever is asked
for later, the draft stays as it is until a request changes it by its own place. -/
theorem run_outlines (requests : List DraftRequest) :
    let outlines := (drafting.run [] requests).1
    let drafts := (Draft.drafting.run [] requests).1
    Draft.drafting.run [] requests = (outlines.map draft, (drafting.run [] requests).2) ∧
    ∀ (place : Nat) (o : Outline), outlines[place]? = some o →
      drafts[place]? = some o.draft ∧
      o.draft.parameters = Draft.preambleParameters o.owner.target.kind
        ++ o.fields.map Draft.fieldParameter ++ o.listener ∧
      o.draft.body = Draft.preambleBody o.owner ++ o.fields.map Draft.putField
        ++ (match o.closing with
          | none => []
          | some contract => [o.launch contract, o.injection]) ∧
      (∀ contract, o.closing.isSome = true →
        Draft.drafting.step drafts (.close place contract)
          = (drafts, .refused (.closedTwice o.owner.target.cls.canonical o.name))) ∧
      Draft.drafting.step drafts (.build place)
        = (drafts, match o.closing with
          | none => .refused (.notClosed o.owner.target.cls.canonical o.name)
          | some _ => .built o.callable) ∧
      (∀ name, Draft.drafting.step drafts (.rename place name)
        = (drafts.set place { o.draft with name }, .done)) ∧
      (∀ name, Draft.drafting.step drafts (.copy place name)
        = (drafts ++ [(o.reopened name).draft], .done)) ∧
      ∀ later : List DraftRequest, (∀ request ∈ later, request.changes? ≠ some place) →
        (Draft.drafting.run drafts later).1[place]? = some o.draft := by
  intro outlines drafts
  have mirrored : Draft.drafting.run [] requests
      = (outlines.map draft, (drafting.run [] requests).2) :=
    mirrors.run_map [] requests
  refine ⟨mirrored, fun place o outlined => ?_⟩
  have there : drafts[place]? = some o.draft := by
    simp [drafts, mirrored, outlined]
  refine ⟨there, rfl, rfl, ?_, ?_, ?_, ?_, ?_⟩
  · intro contract closed
    obtain ⟨former, closing⟩ := Option.isSome_iff_exists.mp closed
    apply Drafting.changeAt_of_error there
    show o.draft.close contract = _
    simp [close_draft, drafting, closing, Except.map]
  · have built : Draft.drafting.build o.draft = drafting.build o := o.build_draft
    simp only [Drafting.step, there, built]
    cases closing : o.closing <;> simp [drafting, closing]
  · intro name
    rw [Drafting.step]
    exact Drafting.changeAt_of_ok there rfl
  · intro name
    have copied : Draft.drafting.copy o.draft name = (o.reopened name).draft := o.copy_draft name
    simp only [Drafting.step, there, copied]
  · intro later apart
    exact Draft.drafting.run_untouched there apart

/-- A draft is closed and then copied; a further field goes to the copy, and the second attempt to
close the original is refused. -/
def copiedRequests : List DraftRequest :=
  [.start { target := Assembly.editor } "start",
    .visit 0 (Assembly.sampleField "heading" .string true 0 (by decide) (by decide)),
    .close 0 none, .copy 0 "startWithLabels",
    .visit 1 (Assembly.sampleField "labels" (.array .string) false 1 (by decide) (by decide)),
    .close 0 none]

theorem run_outlines_copied :
    let drafts := (Draft.drafting.run [] copiedRequests).1
    ∃ original copy, (drafting.run [] copiedRequests).1 = [original, copy] ∧
      original.fields.map (·.name) = ["heading"] ∧ original.closing.isSome = true ∧
      copy.fields.map (·.name) = ["heading", "labels"] ∧ copy.closing.isSome = false ∧
      drafts[0]? = some original.draft ∧ drafts[1]? = some copy.draft ∧
      Draft.drafting.step drafts (.close 0 none)
        = (drafts, .refused (.closedTwice Assembly.editor.cls.canonical "start")) ∧
      (Draft.drafting.run drafts [.rename 1 "other"]).1[0]? = some original.draft := by
  intro drafts
  obtain ⟨-, atPlace⟩ := run_outlines copiedRequests
  obtain ⟨original, -, -, refused, -, -, -, untouched⟩ := atPlace 0 _ rfl
  obtain ⟨copy, -⟩ := atPlace 1 _ rfl
  refine ⟨_, _, rfl, rfl, rfl, rfl, rfl, original, copy, refused none rfl, untouched _ ?_⟩
  simp [DraftRequest.changes?]

end Outline

end Companions
