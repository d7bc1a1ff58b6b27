import Companions.Proofs.Outcome
import Companions.Proofs.Overloads

/-!
Kotlin functions of different screens.

Kotlin functions stand beside the classes of their package, so two files of one package must not
add functions of one name to one type. `Kotlin.extensions` lists what a companion's start family
adds, delegates included; `Kotlin.writeFunction_eq` and `Kotlin.writeDelegate_eq` say that functions
are written with these heads. The name of a function is the verb, the simple name of the screen and
an ending, and two of them are the same only if one simple name is the other with an ending of its
own (`Kind.continues_of_append_eq`). `Batch.generate_extends` says for a whole run which screens can
meet and which ones must.
-/

namespace Companions

/-! ### Endings -/

/-- A text that begins with the characters of another one is this one and the rest. -/
theorem eq_append_ofList {text front : String} {more : List Char}
    (h : text.toList = front.toList ++ more) : text = front ++ String.ofList more := by
  rw [← String.toList_inj, String.toList_append, String.toList_ofList, h]

namespace Kind

/-- A text that reaches behind the front of a word up to a capital, where the word has this capital
in front only, reaches behind nothing or behind the whole word. -/
theorem eq_nil_or_prefix {word labels front rest : List Char} {capital : Char}
    (once : capital ∉ word.tail) (same : word ++ labels = front ++ capital :: rest) :
    front = [] ∨ word <+: front := by
  rcases List.append_eq_append_iff.mp same with ⟨more, whole, -⟩ | ⟨more, cut, reached⟩
  · exact .inr ⟨more, whole.symm⟩
  · cases more with
    | nil => exact .inr ⟨[], cut ▸ (by rw [List.append_nil, List.append_nil])⟩
    | cons first more =>
        obtain ⟨rfl, -⟩ := List.cons.inj reached
        cases front with
        | nil => exact .inl rfl
        | cons head front =>
            rw [cut, List.cons_append, List.tail_cons] at once
            exact absurd (List.mem_append_right _ List.mem_cons_self) once

namespace Ending

variable {front rest : String}

/-- An ending has nothing or begins with a capital. -/
theorem exists_capital (ending : Ending rest) : rest = "" ∨ ∃ tail, rest.toList = 'W' :: tail := by
  cases ending with
  | full => exact .inl rfl
  | window labels => exact .inr ⟨_, by rw [String.toList_append]; rfl⟩
  | noOptional => exact .inr ⟨_, rfl⟩

/-- What stands before an ending, in a text that is one itself, is one too. -/
theorem of_append (whole : Ending (front ++ rest)) (ending : Ending rest) : Ending front := by
  rcases ending.exists_capital with rfl | ⟨tail, capital⟩
  · rwa [String.append_empty] at whole
  · have texts : (front ++ rest).toList = front.toList ++ 'W' :: tail := by
      rw [String.toList_append, capital]
    generalize front ++ rest = text at whole texts
    cases whole with
    | full => simp at texts
    | window labels =>
        rw [String.toList_append] at texts
        rcases eq_nil_or_prefix (by decide) texts with none | ⟨more, more_eq⟩
        · rw [String.toList_eq_nil_iff.mp none]
          exact .full
        · rw [eq_append_ofList more_eq.symm]
          exact .window _
    | noOptional =>
        rcases eq_nil_or_prefix (by decide) ((List.append_nil _).trans texts) with none | long
        · rw [String.toList_eq_nil_iff.mp none]
          exact .full
        · have short := congrArg List.length texts
          rw [List.length_append, List.length_cons] at short
          exact absurd long.length_le (by omega)

end Ending

/-- The verb tells the kind. -/
theorem verb_append_inj {kind kind' : Kind} {text text' : String}
    (same : kind.verb ++ text = kind'.verb ++ text') : kind = kind' ∧ text = text' := by
  have letters := congrArg String.toList same
  cases kind <;> cases kind' <;> simp [verb] at letters ⊢ <;> exact String.toList_inj.mp letters

/-- The second simple name is the first one with an ending, perhaps the empty one. -/
def Continues (simpleName simpleName' : String) : Prop :=
  ∃ rest, Ending rest ∧ simpleName' = simpleName ++ rest

/-- With endings, simple names lead to one text only if one of them continues the other. -/
theorem continues_of_append_eq {simpleName simpleName' rest rest' : String} (ending : Ending rest)
    (ending' : Ending rest') (same : simpleName ++ rest = simpleName' ++ rest') :
    Continues simpleName simpleName' ∨ Continues simpleName' simpleName := by
  have texts := congrArg String.toList same
  rw [String.toList_append, String.toList_append] at texts
  rcases List.append_eq_append_iff.mp texts with ⟨more, longer, cut⟩ | ⟨more, longer, cut⟩
  · have between : rest = String.ofList more ++ rest' := by
      rw [← String.toList_inj, String.toList_append, String.toList_ofList, cut]
    exact .inl ⟨_, .of_append (between ▸ ending) ending', eq_append_ofList longer⟩
  · have between : rest' = String.ofList more ++ rest := by
      rw [← String.toList_inj, String.toList_append, String.toList_ofList, cut]
    exact .inr ⟨_, .of_append (between ▸ ending') ending, eq_append_ofList longer⟩

end Kind

/-! ### Extensions -/

/-- A function that Kotlin adds to a type: what it is called on, and its name. -/
structure Extension where
  receiver : Option ValueType
  name : String

namespace Kotlin

section Heads

variable (spell : ClassName → String) (simpleName : String)

/-- What a callable is as an extension. -/
def extension (c : Callable) : Extension :=
  { receiver := c.receiver?.map (·.type), name := functionName simpleName c }

/-- The extension on another receiver that passes its arguments on to `c`. -/
def delegation (c : Callable) (d : Delegate) : Extension :=
  { receiver := some (.ofClass d.receiver), name := functionName simpleName c }

/-- The head of a function in the text of a file. -/
def headText (e : Extension) (parameters : List Parameter) : String :=
  "fun " ++ (e.receiver.map fun type => typeText spell type ++ ".").getD "" ++ e.name ++ "("
    ++ parameterTexts spell parameters ++ ")"

variable {spell simpleName} {page : Page} {c : Callable} {d : Delegate}

theorem writeFunction_eq :
    writeFunction spell simpleName page c
      = (writeAll spell (c.receiver?.map (·.name))
          ((page.comment c.docs).opening (headText spell (extension simpleName c) c.arguments))
          c.body).closing "\x7d" := by
  unfold writeFunction headText extension
  cases c.receiver? <;> rfl

theorem writeDelegate_eq (foreign : builtin? d.receiver = none) :
    ∃ forwarded, writeDelegate spell simpleName page c d
      = ((page.opening (headText spell (delegation simpleName c d) c.arguments)).line
          forwarded).closing "\x7d" := by
  have receiver : typeText spell (.ofClass d.receiver) = spell d.receiver := by
    simp [ValueType.ofClass, typeText, classText, foreign]
  refine ⟨d.property ++ (if d.nullable then "?." else ".") ++ functionName simpleName c ++ "("
    ++ joined ", " (c.arguments.map fun p => Naming.kotlinName p.name) ++ ")", ?_⟩
  simp only [writeDelegate, headText, delegation, Option.map_some, Option.getD_some, receiver,
    String.append_assoc]

end Heads

/-- What the start family of a companion adds to which types. -/
def extensions (c : Companion) : List Extension :=
  c.startFamily.map (extension c.target.simpleName)
    ++ c.delegates.map (delegation c.target.simpleName c.full)

/-- The names of the functions for the start family. -/
def functionNames (c : Companion) : List String :=
  c.startFamily.map (functionName c.target.simpleName)

/-- What a start or show callable is called on. -/
def receiverType : Kind → ValueType
  | .activity => .ofClass Platform.context
  | .fragment => .ofClass Platform.activity

theorem mem_functionNames_of_mem_extensions {c : Companion} {e : Extension}
    (h : e ∈ extensions c) : e.name ∈ functionNames c := by
  rcases List.mem_append.mp h with h | h
  · obtain ⟨callable, member, rfl⟩ := List.mem_map.mp h
    exact List.mem_map_of_mem member
  · obtain ⟨d, -, rfl⟩ := List.mem_map.mp h
    exact List.mem_map_of_mem List.mem_cons_self

end Kotlin

/-! ### Extensions of a generated companion -/

namespace Assembly

open Kotlin

variable {settings : Settings} {target : Target} {fields : List Field} {a : Assembly}
  {c : Companion}

theorem receiver?_member (choice : String × List Field) :
    (a.member choice).receiver?.map (·.type) = some (receiverType a.kind) := by
  unfold member Draft.finished kind
  cases a.owner.target.kind <;> rfl

/-- Every function for the start family is called on the receiver of the kind, and its name is the
verb, the simple name of the screen and an ending. -/
theorem extension_of_mem (generated : a.generate = .ok c) {callable : Callable}
    (member : callable ∈ c.startFamily) :
    ∃ rest, Kind.Ending rest ∧
      extension c.target.simpleName callable
        = ⟨some (receiverType c.kind), c.kind.verb ++ c.target.simpleName ++ rest⟩ := by
  obtain ⟨rfl, -⟩ := generate_eq_ok_iff.mp generated
  rw [startFamily_companionWith_family] at member
  obtain ⟨choice, hchoice, rfl⟩ := List.mem_map.mp member
  obtain ⟨rest, ending, -, spelled⟩ := a.member_named hchoice a.owner.target.cls.simpleName
  exact ⟨rest, ending, congrArg₂ Extension.mk (a.receiver?_member choice) spelled⟩

/-- The functions of the full callable and of the one without optional fields. -/
theorem mem_extensions (generated : a.generate = .ok c) {rest : String}
    (outermost : rest = "" ∨ rest = "WithoutOptional") :
    ⟨some (receiverType c.kind), c.kind.verb ++ c.target.simpleName ++ rest⟩ ∈ extensions c := by
  obtain ⟨rfl, -⟩ := generate_eq_ok_iff.mp generated
  have spelled : ∀ choice : String × List Field, choice.1 = a.kind.verb ++ rest →
      extension a.owner.target.cls.simpleName (a.member choice) = ⟨some (receiverType a.kind),
        a.kind.verb ++ a.owner.target.cls.simpleName ++ rest⟩ := fun choice named =>
    congrArg₂ Extension.mk (a.receiver?_member choice) (functionName_eq rfl named)
  refine List.mem_append_left _ (List.mem_map.mpr ?_)
  rcases outermost with rfl | rfl
  · exact ⟨_, List.mem_cons_self, spelled _ (String.append_empty).symm⟩
  · exact ⟨_, List.mem_concat_self, spelled _ rfl⟩

end Assembly

/-! ### The whole run -/

namespace Batch

open Kotlin

variable {settings : Settings} {source : String} {m : Manifest} {c d : Companion}

theorem exists_generated_of_mem (member : c ∈ (generate settings source m).companions) :
    ∃ a : Assembly, a.generate = .ok c := by
  obtain ⟨-, -, -, -, a, -, -, generated⟩ := exists_reached_of_mem member
  exact ⟨a, generated⟩

/-- Functions of one name are those of two screens of one kind, where one simple name continues the
other. They are called on one type then. -/
theorem extension_eq_of_functionName_eq (hc : c ∈ (generate settings source m).companions)
    (hd : d ∈ (generate settings source m).companions) {callable callable' : Callable}
    (member : callable ∈ c.startFamily) (member' : callable' ∈ d.startFamily)
    (same : functionName c.target.simpleName callable
      = functionName d.target.simpleName callable') :
    extension c.target.simpleName callable = extension d.target.simpleName callable' ∧
      c.kind = d.kind ∧ (Kind.Continues c.target.simpleName d.target.simpleName ∨
        Kind.Continues d.target.simpleName c.target.simpleName) := by
  obtain ⟨a, generated⟩ := exists_generated_of_mem hc
  obtain ⟨a', generated'⟩ := exists_generated_of_mem hd
  obtain ⟨rest, ending, spelled⟩ := Assembly.extension_of_mem generated member
  obtain ⟨rest', ending', spelled'⟩ := Assembly.extension_of_mem generated' member'
  have names := (congrArg Extension.name spelled).symm.trans
    (same.trans (congrArg Extension.name spelled'))
  simp only [String.append_assoc] at names
  obtain ⟨kinds, behind⟩ := Kind.verb_append_inj names
  refine ⟨?_, kinds, Kind.continues_of_append_eq ending ending' behind⟩
  rw [spelled, spelled', kinds, String.append_assoc, String.append_assoc, behind]

/-- Two screens of a run have an extension in common exactly when they have the name of one in
common. -/
theorem extensions_disjoint_iff (hc : c ∈ (generate settings source m).companions)
    (hd : d ∈ (generate settings source m).companions) :
    (extensions c).Disjoint (extensions d) ↔ (functionNames c).Disjoint (functionNames d) := by
  constructor
  · intro apart name mem mem'
    obtain ⟨callable, member, rfl⟩ := List.mem_map.mp mem
    obtain ⟨callable', member', same⟩ := List.mem_map.mp mem'
    obtain ⟨equal, -⟩ := extension_eq_of_functionName_eq hc hd member member' same.symm
    exact apart (List.mem_append_left _ (List.mem_map_of_mem member))
      (List.mem_append_left _ (equal ▸ List.mem_map_of_mem member'))
  · intro apart e mem mem'
    exact apart (mem_functionNames_of_mem_extensions mem)
      (mem_functionNames_of_mem_extensions mem')

/-- Screens with an extension in common are of one kind, and one simple name continues the other. -/
theorem continues_of_not_disjoint (hc : c ∈ (generate settings source m).companions)
    (hd : d ∈ (generate settings source m).companions)
    (meet : ¬ (extensions c).Disjoint (extensions d)) :
    c.kind = d.kind ∧ (Kind.Continues c.target.simpleName d.target.simpleName ∨
      Kind.Continues d.target.simpleName c.target.simpleName) := by
  rw [extensions_disjoint_iff hc hd, List.disjoint_left, not_forall] at meet
  obtain ⟨name, meet⟩ := meet
  obtain ⟨mem, mem'⟩ := Classical.not_imp.mp meet
  obtain ⟨callable, member, rfl⟩ := List.mem_map.mp mem
  obtain ⟨callable', member', same⟩ := List.mem_map.mp (not_not.mp mem')
  exact (extension_eq_of_functionName_eq hc hd member member' same.symm).2

/-- The full callable of a screen meets that of another one of its simple name, and the callable
without optional fields of a screen whose simple name it continues. -/
theorem not_disjoint_of_eq (hc : c ∈ (generate settings source m).companions)
    (hd : d ∈ (generate settings source m).companions) (kinds : c.kind = d.kind) {rest : String}
    (outermost : rest = "" ∨ rest = "WithoutOptional")
    (continued : d.target.simpleName = c.target.simpleName ++ rest) :
    ¬ (extensions c).Disjoint (extensions d) := by
  obtain ⟨a, generated⟩ := exists_generated_of_mem hc
  obtain ⟨a', generated'⟩ := exists_generated_of_mem hd
  have own := Assembly.mem_extensions generated outermost
  have other := Assembly.mem_extensions generated' (.inl rfl)
  rw [continued, ← kinds, String.append_empty, ← String.append_assoc] at other
  exact fun apart => apart own other

/-- **When Kotlin functions of two screens meet.** Two screens of a run have a start or show
function of one name on one type exactly when any of their start or show functions have one name:
the type does not keep apart what the name does not. Such screens are of one kind, and the simple
name of one is that of the other, perhaps with an ending of its own. With one simple name they
always meet, and so they do when one simple name continues the other with the ending of the callable
without optional fields. -/
theorem generate_extends (settings : Settings) (source : String) (m : Manifest) :
    (generate settings source m).companions.Pairwise fun c d =>
      let simpleName := c.target.simpleName
      let simpleName' := d.target.simpleName
      ((extensions c).Disjoint (extensions d) ↔
          (functionNames c).Disjoint (functionNames d)) ∧
        (¬ (extensions c).Disjoint (extensions d) → c.kind = d.kind ∧
          (Kind.Continues simpleName simpleName' ∨ Kind.Continues simpleName' simpleName)) ∧
        (c.kind = d.kind → simpleName = simpleName' ∨
            simpleName' = simpleName ++ "WithoutOptional" ∨
            simpleName = simpleName' ++ "WithoutOptional" →
          ¬ (extensions c).Disjoint (extensions d)) := by
  refine List.pairwise_of_forall_mem_list fun c hc d hd => ?_
  refine ⟨extensions_disjoint_iff hc hd, continues_of_not_disjoint hc hd, fun kinds meet => ?_⟩
  rcases meet with same | longer | shorter
  · exact not_disjoint_of_eq hc hd kinds (.inl rfl) (by rw [← same, String.append_empty])
  · exact not_disjoint_of_eq hc hd kinds (.inr rfl) longer
  · rw [List.disjoint_comm]
    exact not_disjoint_of_eq hd hc kinds.symm (.inr rfl) shorter

/-- A page of mails and a page of news, in Kotlin. -/
def pages : Manifest :=
  { targets := [
      { kind := .activity, qualifiedName := "com.example.Mail.Page", mode := .kotlinOnly },
      { kind := .activity, qualifiedName := "com.example.News.Page", mode := .kotlinOnly }] }

/-- Both files of the package declare the function that starts a page from a context. -/
theorem extensions_pages :
    ∃ c d, (generate {} "pages.json" pages).companions = [c, d] ∧ c.target ≠ d.target ∧
      c.target.package = d.target.package ∧ c.dialects.kotlin = true ∧
      d.dialects.kotlin = true ∧ ¬ (extensions c).Disjoint (extensions d) := by
  have seen : (generate {} "pages.json" pages).companions.map
        (fun c => (c.target, c.kind, c.dialects.kotlin))
      = [(⟨"com.example", "Mail", ["Page"]⟩, .activity, true),
        (⟨"com.example", "News", ["Page"]⟩, .activity, true)] := by decide +kernel
  obtain ⟨c, rest, made, hc, others⟩ := List.map_eq_cons_iff.mp seen
  obtain ⟨d, rest, rfl, hd, none⟩ := List.map_eq_cons_iff.mp others
  obtain rfl := List.map_eq_nil_iff.mp none
  simp only [Prod.mk.injEq] at hc hd
  obtain ⟨target, kind, kotlin⟩ := hc
  obtain ⟨target', kind', kotlin'⟩ := hd
  have meet : ¬ (extensions c).Disjoint (extensions d) :=
    not_disjoint_of_eq (made ▸ List.mem_cons_self)
      (made ▸ List.mem_cons_of_mem _ List.mem_cons_self) (kind.trans kind'.symm) (.inl rfl)
      (by rw [target, target']; rfl)
  refine ⟨c, d, made, ?_, ?_, kotlin, kotlin', meet⟩
  · rw [target, target']
    decide
  · rw [target, target']

end Batch

end Companions
