import Companions.Proofs.Start.Family
import Companions.Source.File

/-!
What each of the two files of a companion depends on.

The Java class shows its members, and without Java these are the state callables alone: neither its
text nor its imports depend on the start family and on the finishing callable. The Kotlin file shows
nothing but these two and the delegates, so it does not depend on what the Java class has beside
them. Both hold since each import table is made of the members that the file prints
(`Java.render_congr`, `Kotlin.render_congr`). `Companion.files_isolated` puts them together.
-/

namespace Companions

variable {c c' : Companion} {source header : String}

/-! ### What each file shows -/

namespace Java

/-- Without Java the class has the state callables only. -/
theorem members_of_kotlin_only (off : c.dialects.java = false) :
    members c = [c.inject, c.saveState] := by
  simp [members, off]

/-- The imports depend on the name of the class, its members and the listener. -/
theorem imports_congr (name : c.name = c'.name) (shown : members c = members c')
    (listener : c.listener = c'.listener) : imports c = imports c' := by
  rw [imports, imports, mentioned, mentioned, name, shown, listener]

/-- **The Java class depends on nothing but what it shows.** -/
theorem render_congr (name : c.name = c'.name) (docs : c.docs = c'.docs)
    (constants : c.constants = c'.constants) (shown : members c = members c')
    (listener : c.listener = c'.listener) : render c header = render c' header := by
  rw [render, render, imports_congr name shown listener, renderWith, renderWith, name, docs,
    constants, shown, listener]

end Java

/-- The start family tells its three parts. -/
theorem Companion.startFamily_inj (same : c.startFamily = c'.startFamily) :
    c.full = c'.full ∧ c.variants = c'.variants ∧ c.noOptional = c'.noOptional := by
  rw [startFamily, startFamily, List.cons_append, List.cons_append] at same
  obtain ⟨full, rest⟩ := List.cons.inj same
  obtain ⟨variants, last⟩ := List.append_inj' rest rfl
  exact ⟨full, variants, List.singleton_inj.mp last⟩

namespace Kotlin

/-- The imports depend on the name of the class, the extensions and the delegates. -/
theorem imports_congr (name : c.name = c'.name) (family : c.startFamily = c'.startFamily)
    (finish : c.finishWithResult = c'.finishWithResult) (delegates : c.delegates = c'.delegates) :
    imports c = imports c' := by
  rw [imports, imports, mentioned, mentioned, members, members, name, family, finish, delegates]

/-- **The Kotlin file depends on nothing but what it shows.** -/
theorem render_congr (name : c.name = c'.name) (target : c.target = c'.target)
    (family : c.startFamily = c'.startFamily) (finish : c.finishWithResult = c'.finishWithResult)
    (delegates : c.delegates = c'.delegates) : render c header = render c' header := by
  obtain ⟨full, variants, noOptional⟩ := Companion.startFamily_inj family
  rw [render, render, imports_congr name family finish delegates, renderWith, renderWith, target,
    full, variants, noOptional, finish, delegates]

end Kotlin

/-! ### Files -/

namespace Companion

/-- The files of the companion in one language. -/
def filesIn (c : Companion) (source : String) (dialect : Dialect) : List SourceFile :=
  (c.files source).filter fun file => file.dialect == dialect

/-- There is always one Java file. -/
theorem filesIn_java :
    c.filesIn source .java = [⟨c.name, .java, Java.render c (fileHeader source)⟩] := by
  rw [filesIn, files]
  split <;> rfl

/-- There is a Kotlin file if Kotlin is selected. -/
theorem filesIn_kotlin : c.filesIn source .kotlin
    = if c.dialects.kotlin then [⟨c.name, .kotlin, Kotlin.render c (fileHeader source)⟩]
      else [] := by
  rw [filesIn, files]
  split <;> rfl

/-- The companions are the same but for the start family and the finishing callable. -/
def AgreeBesideStart (c c' : Companion) : Prop :=
  c' = { c with
    full := c'.full
    variants := c'.variants
    noOptional := c'.noOptional
    finishWithResult := c'.finishWithResult }

/-- The companions have the same names and the same start family, with its delegates, and the same
finishing callable. -/
structure AgreeOnStart (c c' : Companion) : Prop where
  name : c.name = c'.name
  target : c.target = c'.target
  family : c.startFamily = c'.startFamily
  finish : c.finishWithResult = c'.finishWithResult
  delegates : c.delegates = c'.delegates

/-- **The selection of dialects isolates the two files.** If Java is not selected, companions that
are the same but for the start family and the finishing callable have the same Java file with the
same imports. Companions that agree on these, on the names and on the delegates have the same Kotlin
file, whatever else they are. There is one Java file, and one Kotlin file exactly if Kotlin is
selected. -/
theorem files_isolated (c c' : Companion) (source : String) :
    (AgreeBesideStart c c' → c.dialects.java = false →
      Java.imports c = Java.imports c' ∧ c.filesIn source .java = c'.filesIn source .java) ∧
    (AgreeOnStart c c' → Kotlin.imports c = Kotlin.imports c' ∧
      ∀ file ∈ c.filesIn source .kotlin, ∀ file' ∈ c'.filesIn source .kotlin, file = file') ∧
    (c.filesIn source .java).length = 1 ∧
    (c.filesIn source .kotlin).length = if c.dialects.kotlin then 1 else 0 := by
  refine ⟨?_, ?_, ?_, ?_⟩
  · intro agree off
    have members : Java.members c = Java.members c' := by
      rw [agree, Java.members_of_kotlin_only off, Java.members_of_kotlin_only (by exact off)]
    have name : c.name = c'.name := by rw [agree]
    have listener : c.listener = c'.listener := by rw [agree]
    refine ⟨Java.imports_congr name members listener, ?_⟩
    rw [filesIn_java, filesIn_java, name,
      Java.render_congr name (by rw [agree]) (by rw [agree]) members listener]
  · intro agree
    refine ⟨Kotlin.imports_congr agree.name agree.family agree.finish agree.delegates, ?_⟩
    intro file hfile file' hfile'
    rw [filesIn_kotlin, List.mem_ite_nil_right, List.mem_singleton] at hfile hfile'
    rw [hfile.2, hfile'.2, agree.name, Kotlin.render_congr agree.name agree.target agree.family
      agree.finish agree.delegates]
  · rw [filesIn_java, List.length_singleton]
  · rw [filesIn_kotlin]
    split <;> rfl

/-- The assembly of a fragment for Kotlin only that is shown with the shared elements. It takes a
pair, but not one of the platform's. -/
def pairAssembly (elements : List SharedElement) : Assembly :=
  { owner :=
      { target :=
          { cls := ⟨"com.example", "Editor", []⟩, kind := .fragment, mode := .kotlinOnly
            sharedElements := elements } }
    dialects := ⟨false, true⟩
    contract := none
    required := FieldSet.empty.insert
      (Assembly.sampleField "versions" (.ofClass ⟨"com.other", "Pair", []⟩) true 1
        (by decide) (by decide)) }

/-- The companion of that fragment. -/
def pairEditor (elements : List SharedElement) : Companion :=
  (pairAssembly elements).companionWith (pairAssembly elements).family

/-- One shared element. -/
def sharedTitle : SharedElement := ⟨.name "title", "title"⟩

/-- A class with the simple name of one of the platform's activities. -/
def ownActivity : ClassName := ⟨"com.example", "FragmentActivity", []⟩

/-- The companion without shared elements, but with other documentation, for both languages, and
with an injection callable that mentions that class. -/
def hostedEditor : Companion :=
  { pairEditor [] with
    dialects := ⟨true, true⟩
    docs := ["The editor."]
    inject := SavedState.inject (pairAssembly []).owner
      [Assembly.sampleField "host" (.ofClass ownActivity) true 1 (by decide) (by decide)] }

/-- The show callables of a fragment with a shared element mention the platform's pair. In Java it
would take its simple name from the other pair, but the Java file does not show them and stays the
same. In the same way the Kotlin file goes on importing the platform's activity, since it does not
show the injection callable. -/
theorem files_isolated_editor :
    ∃ c shared hosted : Companion,
      (pairAssembly []).generate = .ok c ∧ (pairAssembly [sharedTitle]).generate = .ok shared ∧
      AgreeBesideStart c shared ∧ c.dialects.java = false ∧
      Platform.pair ∉ c.full.classes ∧ Platform.pair ∈ shared.full.classes ∧
      Platform.pair ∉ Java.mentioned shared ∧
      (Java.imports shared).imported = ["android.content.Intent", "android.os.Bundle",
        "com.companion.runtime.BundleUtils", "com.other.Pair"] ∧
      "com.other.Pair" ∉ (Java.imports { shared with dialects := ⟨true, true⟩ }).imported ∧
      Java.imports c = Java.imports shared ∧
      c.filesIn "editor.json" .java = shared.filesIn "editor.json" .java ∧
      AgreeOnStart c hosted ∧ c.docs ≠ hosted.docs ∧ c.dialects ≠ hosted.dialects ∧
      ownActivity ∉ c.inject.classes ∧ ownActivity ∈ hosted.inject.classes ∧
      ownActivity ∉ Kotlin.mentioned hosted ∧
      (Kotlin.imports hosted).imported = ["android.app.Activity", "android.content.Intent",
        "androidx.fragment.app.FragmentActivity", "com.companion.runtime.ActivityBuilder",
        "com.companion.runtime.FragmentBuilder", "com.other.Pair"] ∧
      "androidx.fragment.app.FragmentActivity" ∉ (Java.imports hosted).imported ∧
      Kotlin.imports c = Kotlin.imports hosted ∧
      (c.filesIn "editor.json" .kotlin).length = 1 ∧
      ∀ file ∈ c.filesIn "editor.json" .kotlin, ∀ file' ∈ hosted.filesIn "editor.json" .kotlin,
        file = file' := by
  have plain : (pairAssembly []).generate = .ok (pairEditor []) :=
    Assembly.generate_eq_ok_iff.mpr ⟨rfl, by decide⟩
  have shared : (pairAssembly [sharedTitle]).generate = .ok (pairEditor [sharedTitle]) :=
    Assembly.generate_eq_ok_iff.mpr ⟨rfl, by decide⟩
  have beside : AgreeBesideStart (pairEditor []) (pairEditor [sharedTitle]) := rfl
  have agree : AgreeOnStart (pairEditor []) hostedEditor := ⟨rfl, rfl, rfl, rfl, rfl⟩
  obtain ⟨javaImports, java⟩ := (files_isolated _ _ "editor.json").1 beside rfl
  obtain ⟨-, isolated, -, single⟩ := files_isolated (pairEditor []) hostedEditor "editor.json"
  obtain ⟨kotlinImports, kotlin⟩ := isolated agree
  refine ⟨pairEditor [], pairEditor [sharedTitle], hostedEditor, plain, shared, beside, rfl,
    ?_, ?_, ?_, ?_, ?_, javaImports, java, agree, ?_, ?_, ?_, ?_, ?_, ?_, ?_, kotlinImports, single,
    kotlin⟩
  -- the rest is about the classes of these three, and evaluates
  all_goals decide +kernel

end Companion

end Companions
