import Companions.Manifest.Bind
import Companions.Proofs.Bindings
import Companions.Proofs.Execution.Returning
import Companions.Source.Kotlin

/-!
The names in `finishWithResult`.

Result values are checked less strictly than fields: their names only have to be names of members.
So a value may be named like the activity that finishes or like the intent that is filled, and
`finishWithResult` then binds a name twice (`Result.bindings_finishWithResult_nodup_iff`). Kotlin
knows the activity by its name alone and spells it `this`; a value of the name is spelled so too
(`Kotlin.this_receiver_only_iff`), and the activity is handed back in its place
(`Kotlin.writeAll_finishWithResult`).
-/

namespace Companions

/-! ### `finishWithResult` -/

namespace Result

variable {owner : Owner} {k : Contract}

/-- The arguments are the values. -/
theorem names_arguments_finishWithResult :
    (finishWithResult owner k).arguments.map (·.name) = k.results.map (·.name) := by
  rw [Execution.arguments_finishWithResult, Contract.listener, List.map_map]
  rfl

theorem locals_finishWithResult : (finishWithResult owner k).locals = [Code.intentName] := by
  have putting : Statement.localsOf (k.results.map fun r => Code.putExtra r.name (.ident r.name))
      = [] := Statement.localsOf_map_eq_nil fun _ => rfl
  simp only [Callable.locals, finishWithResult, List.cons_append, Statement.localsOf,
    Statement.locals, Statement.localsOf_append, putting, Code.declareIntent]
  rfl

/-- **Handing back binds a name twice exactly when a value is named like the activity or the
intent.** -/
theorem bindings_finishWithResult_nodup_iff (distinct : (k.results.map (·.name)).Nodup) :
    (finishWithResult owner k).bindings.Nodup
      ↔ ∀ r ∈ k.results, r.name ≠ "activity" ∧ r.name ≠ "intent" := by
  rw [Callable.bindings, Execution.names_finishWithResult, locals_finishWithResult,
    List.cons_append, List.nodup_cons, List.nodup_append]
  constructor
  · rintro ⟨activity, -, -, intent⟩ r hr
    have value := List.mem_map_of_mem (f := fun r : ResultValue => r.name) hr
    exact ⟨fun same => activity (List.mem_append_left _ (same ▸ value)),
      intent r.name value "intent" List.mem_cons_self⟩
  · intro apart
    refine ⟨fun activity => ?_, distinct, List.nodup_singleton _, ?_⟩
    · rcases List.mem_append.mp activity with value | declared
      · obtain ⟨r, hr, same⟩ := List.mem_map.mp value
        exact (apart r hr).1 same
      · exact absurd (List.mem_singleton.mp declared) (by decide)
    · intro value hvalue declared hdeclared
      obtain ⟨r, hr, rfl⟩ := List.mem_map.mp hvalue
      rw [List.mem_singleton.mp hdeclared]
      exact (apart r hr).2

end Result

namespace Kotlin

variable {spell : ClassName → String} {receiver : Option String} {depth : Nat} {name : String}

theorem kotlinName_ne_this : Naming.kotlinName name ≠ "this" := by
  unfold Naming.kotlinName
  split
  · intro same
    have letters := congrArg (fun text : String => text.toList.head?) same
    simp at letters
  · rename_i word
    rintro rfl
    exact word (by decide)

/-- A name is spelled `this` exactly when it is that of the receiver. -/
theorem exprText_ident_eq_this_iff :
    exprText spell receiver depth (.ident name) = "this" ↔ receiver = some name := by
  rw [exprText]
  split
  · rename_i same
    exact iff_of_true rfl (beq_iff_eq.mp same)
  · rename_i other
    exact iff_of_false kotlinName_ne_this (mt beq_iff_eq.mpr other)

/-- In `finishWithResult` only the activity is spelled `this`, unless a value has its name. -/
theorem this_receiver_only_iff {owner : Owner} {k : Contract} :
    (∀ name ∈ (Result.finishWithResult owner k).arguments.map (·.name)
        ++ (Result.finishWithResult owner k).locals,
      exprText spell ((Result.finishWithResult owner k).receiver?.map (·.name)) depth (.ident name)
        ≠ "this") ↔ ∀ r ∈ k.results, r.name ≠ "activity" := by
  have receiver : (Result.finishWithResult owner k).receiver?.map (·.name) = some "activity" := rfl
  rw [Result.names_arguments_finishWithResult, Result.locals_finishWithResult, receiver]
  constructor
  · intro others r hr same
    exact others r.name (List.mem_append_left _ (List.mem_map_of_mem hr))
      (exprText_ident_eq_this_iff.mpr (congrArg some same.symm))
  · intro apart name hname this
    have same := Option.some.inj (exprText_ident_eq_this_iff.mp this)
    rcases List.mem_append.mp hname with value | declared
    · obtain ⟨r, hr, rfl⟩ := List.mem_map.mp value
      exact apart r hr same.symm
    · exact absurd (same.trans (List.mem_singleton.mp declared)) (by decide)

/-- How a value goes into the intent: a value that is named like the activity is spelled `this`. -/
def putLine (r : ResultValue) : String :=
  "intent.putExtra(" ++ Source.quoted true r.name ++ ", "
    ++ (if r.name = "activity" then "this" else Naming.kotlinName r.name) ++ ")"

/-- The lines of `finishWithResult` in Kotlin. -/
def finishLines (spell : ClassName → String) (results : List ResultValue) : List String :=
  ("val intent = " ++ classText spell Platform.intent ++ "()") :: results.map putLine
    ++ ["setResult(" ++ classText spell Platform.activity ++ ".RESULT_OK, intent)",
      classText spell Platform.activityCompat ++ ".finishAfterTransition(this)"]

variable {page : Page}

theorem writeAll_append {body more : List Statement} :
    writeAll spell receiver page (body ++ more)
      = writeAll spell receiver (writeAll spell receiver page body) more := by
  induction body generalizing page with
  | nil => rw [List.nil_append, writeAll]
  | cons s rest ih => rw [List.cons_append, writeAll, writeAll, ih]

theorem exprText_intent :
    exprText spell (some "activity") depth Code.intent = "intent" := by
  have named : Naming.kotlinName Code.intentName = "intent" := by decide
  rw [Code.intent, exprText, named, if_neg (by decide)]

theorem write_declareIntent :
    write spell (some "activity") page (Code.declareIntent [])
      = page.line ("val intent = " ++ classText spell Platform.intent ++ "()") := by
  have named : Naming.kotlinName Code.intentName = "intent" := by decide
  rw [Code.declareIntent, write, named, exprText, exprTexts]
  refine congrArg page.line (String.toList_inj.mp ?_)
  simp [joined]

theorem write_putExtra {r : ResultValue} :
    write spell (some "activity") page (Code.putExtra r.name (.ident r.name))
      = page.line (putLine r) := by
  have access : memberAccess (some "activity") Code.intent "intent" = "intent." := by decide
  have key : exprText spell (some "activity") page.depth (Code.text r.name)
      = Source.quoted true r.name := by
    rw [Code.text, exprText, literalText]
  have value : exprText spell (some "activity") page.depth (.ident r.name)
      = if r.name = "activity" then "this" else Naming.kotlinName r.name := by
    rw [exprText]
    exact if_congr (by rw [beq_iff_eq, Option.some.injEq, eq_comm]) rfl rfl
  unfold putLine
  rw [← value, Code.putExtra, write]
  simp only [exprText, exprTexts, exprText_intent, access, typeArgumentText, key]
  refine congrArg page.line (String.toList_inj.mp ?_)
  simp [joined]

theorem writeAll_putExtra {results : List ResultValue} :
    writeAll spell (some "activity") page
        (results.map fun r => Code.putExtra r.name (.ident r.name))
      = (results.map putLine).foldl Page.line page := by
  induction results generalizing page with
  | nil => rw [List.map_nil, writeAll, List.map_nil, List.foldl_nil]
  | cons r rest ih =>
      rw [List.map_cons, writeAll, write_putExtra, ih, List.map_cons, List.foldl_cons]

theorem writeAll_finish :
    writeAll spell (some "activity") page
        [.run (.call Result.activity "setResult" []
            [.staticField Platform.activity "RESULT_OK", Code.intent]),
          .run (.staticCall Platform.activityCompat "finishAfterTransition" [] [Result.activity])]
      = (page.line
          ("setResult(" ++ classText spell Platform.activity ++ ".RESULT_OK, intent)")).line
            (classText spell Platform.activityCompat ++ ".finishAfterTransition(this)") := by
  simp only [Result.activity, write, writeAll, exprText, exprTexts, exprText_intent,
    typeArgumentText, memberAccess, isReceiver]
  refine congrArg₂ Page.line (congrArg page.line (String.toList_inj.mp ?_))
    (String.toList_inj.mp ?_)
  · simp [joined]
  · simp [joined]

theorem writeAll_finishWithResult {owner : Owner} {k : Contract} :
    writeAll spell ((Result.finishWithResult owner k).receiver?.map (·.name)) page
        (Result.finishWithResult owner k).body
      = (finishLines spell k.results).foldl Page.line page := by
  have receiver : (Result.finishWithResult owner k).receiver?.map (·.name) = some "activity" := rfl
  have body : (Result.finishWithResult owner k).body
      = (Code.declareIntent [] :: k.results.map fun r => Code.putExtra r.name (.ident r.name))
        ++ _ := rfl
  rw [receiver, body, writeAll_append, writeAll_finish, writeAll, write_declareIntent,
    writeAll_putExtra, finishLines, List.foldl_append, List.foldl_cons]
  rfl

end Kotlin

/-! ### The finishing callable of a companion -/

namespace Assembly

variable {settings : Settings} {target : Target} {fields : List Field} {a : Assembly}
  {c : Companion}

/-- **The names in `finishWithResult`.** An activity with result values gets the callable, and it
binds a name twice exactly when a value is named like the activity or like the intent. In Kotlin a
name other than that of the activity is spelled `this` exactly when a value is named like the
activity, and the body comes to the lines of `Kotlin.finishLines`. -/
theorem finishWithResult_binds (reached : Reached settings target fields a)
    (generated : a.generate = .ok c) (kind : target.kind = .activity)
    (filled : target.results ≠ []) :
    ∃ finish, c.finishWithResult = some finish ∧
      finish.bindings = "activity" :: target.results.map (·.name) ++ ["intent"] ∧
      (finish.bindings.Nodup
        ↔ ∀ r ∈ target.results, r.name ≠ "activity" ∧ r.name ≠ "intent") ∧
      (∀ spell depth,
        (∀ name ∈ finish.arguments.map (·.name) ++ finish.locals,
          Kotlin.exprText spell (finish.receiver?.map (·.name)) depth (.ident name) ≠ "this")
        ↔ ∀ r ∈ target.results, r.name ≠ "activity") ∧
      ∀ spell page, Kotlin.writeAll spell (finish.receiver?.map (·.name)) page finish.body
        = (Kotlin.finishLines spell target.results).foldl Page.line page := by
  obtain ⟨k, contract⟩ := reached.exists_contract_iff.mpr ⟨kind, filled⟩
  obtain ⟨results, distinct, -⟩ := Contract.make_eq_ok (reached.make_contract contract).2
  rw [← results]
  refine ⟨_, (reached.result_of_generate generated contract).2, ?_,
    Result.bindings_finishWithResult_nodup_iff distinct, fun spell depth => ?_,
    fun spell page => Kotlin.writeAll_finishWithResult⟩
  · rw [Callable.bindings, Execution.names_finishWithResult, Result.locals_finishWithResult]
    rfl
  · exact Kotlin.this_receiver_only_iff

/-- The editor hands back a status and a count. -/
theorem finishWithResult_binds_editor :
    ∃ a c finish, Reached {} editor editorFields a ∧ a.generate = .ok c ∧
      c.finishWithResult = some finish ∧ finish.bindings.Nodup := by
  obtain ⟨a, c, reached, generated⟩ := editor_generates
  obtain ⟨finish, present, -, hygienic, -⟩ :=
    finishWithResult_binds reached generated rfl (List.cons_ne_nil _ _)
  refine ⟨a, c, finish, reached, generated, present, hygienic.mpr ?_⟩
  decide

/-- A picker that hands back an activity and an intent. -/
def picker : TargetEntry :=
  { kind := .activity, qualifiedName := "com.example.Picker"
    resultTypes := [⟨"activity", "int"⟩, ⟨"intent", "int"⟩] }

/-- The picker gets a companion as well. -/
theorem bindings_picker :
    ∃ target a c finish, picker.toTarget = .ok target ∧ Reached {} target [] a ∧
      a.generate = .ok c ∧ c.finishWithResult = some finish ∧
      finish.bindings = ["activity", "activity", "intent", "intent"] ∧
      ¬ finish.bindings.Nodup ∧ "activity" ∈ finish.arguments.map (·.name) ∧
      ∀ spell depth,
        Kotlin.exprText spell (finish.receiver?.map (·.name)) depth (.ident "activity")
          = "this" := by
  obtain ⟨target, accepted⟩ : ∃ target, picker.toTarget = .ok target := ⟨_, rfl⟩
  obtain ⟨a, found⟩ : ∃ a, assembled? {} target [] = some a := by
    rw [← Except.ok.inj accepted]
    exact ⟨_, rfl⟩
  obtain ⟨c, generated⟩ : ∃ c, a.generate = .ok c := by
    rw [← Except.ok.inj accepted] at found
    rw [← Option.some.inj found]
    exact ⟨_, rfl⟩
  obtain ⟨kind, values⟩ : target.kind = .activity ∧
      target.results.map (·.name) = ["activity", "intent"] := by
    rw [← Except.ok.inj accepted]
    exact ⟨rfl, rfl⟩
  have reached : Reached {} target [] a := .of_assembled? found
  obtain ⟨k, contract⟩ := reached.exists_contract_iff.mpr
    ⟨kind, fun none => by rw [none] at values; exact nomatch values⟩
  rw [← (Contract.make_eq_ok (reached.make_contract contract).2).1] at values
  have bound : (Result.finishWithResult { target } k).bindings
      = ["activity", "activity", "intent", "intent"] := by
    rw [Callable.bindings, Execution.names_finishWithResult, Result.locals_finishWithResult, values]
    rfl
  refine ⟨target, a, c, _, accepted, reached, generated,
    (reached.result_of_generate generated contract).2, bound, ?_, ?_, fun spell depth => ?_⟩
  · rw [bound]
    decide
  · rw [Result.names_arguments_finishWithResult, values]
    exact List.mem_cons_self
  · exact Kotlin.exprText_ident_eq_this_iff.mpr rfl

end Assembly

end Companions
