import Companions.ValueType

/-!
The classes that generated code calls: those of the Android platform, and the runtime library's
own, which live in a package of the user's choice.
-/

namespace Companions.Platform

/-- An outermost class of a package. -/
def inPackage (package name : String) : ClassName :=
  ⟨package, name, []⟩

def context : ClassName := inPackage "android.content" "Context"
def intent : ClassName := inPackage "android.content" "Intent"
def activity : ClassName := inPackage "android.app" "Activity"
def bundle : ClassName := inPackage "android.os" "Bundle"
def view : ClassName := inPackage "android.view" "View"
def fragment : ClassName := inPackage "androidx.fragment.app" "Fragment"
def fragmentActivity : ClassName := inPackage "androidx.fragment.app" "FragmentActivity"
def viewCompat : ClassName := inPackage "androidx.core.view" "ViewCompat"
def activityCompat : ClassName := inPackage "androidx.core.app" "ActivityCompat"
def pair : ClassName := inPackage "androidx.core.util" "Pair"
def arrayList : ClassName := inPackage "java.util" "ArrayList"
def object : ClassName := inPackage javaLang "Object"

/-- A list of pairs of transition names. -/
def sharedElementList : ValueType :=
  .declared arrayList [.declared pair [.string, .string]]

end Companions.Platform

namespace Companions

/-- What generated code is written against: the package of the runtime library, and the request
code of activities that are started for a result nobody listens to. -/
structure Runtime where
  package : String := "com.companion.runtime"
  requestCode : Int := 1
deriving Repr, DecidableEq

namespace Runtime

/-- Binds pending extras and starts activities with a callback. -/
def activityBuilder (r : Runtime) : ClassName :=
  Platform.inPackage r.package "ActivityBuilder"

/-- Shows fragments. -/
def fragmentBuilder (r : Runtime) : ClassName :=
  Platform.inPackage r.package "FragmentBuilder"

/-- Reads values out of bundles. -/
def bundleUtils (r : Runtime) : ClassName :=
  Platform.inPackage r.package "BundleUtils"

/-- Receives the result code and the data of an activity. -/
def resultListener (r : Runtime) : ClassName :=
  Platform.inPackage r.package "OnActivityResultListener"

end Runtime

end Companions
