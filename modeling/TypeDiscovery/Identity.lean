import TypeDiscovery.Text.Split
import Std.Data.ExtTreeMap

/-!
# Identities of compiled units

An identity is a fully qualified binary name such as `com.acme.Outer$Inner`. It has a namespace
and a simple name, divided by its last dot, and a place in an archive, where the dots are slashes.
-/

namespace TypeDiscovery

open Text

/-- The fully qualified binary name of one compiled unit. -/
structure Identity where
  name : String
  deriving DecidableEq, Inhabited

namespace Identity

instance : Ord Identity := ⟨compareOn Identity.name⟩

instance : Std.TransOrd Identity := inferInstanceAs (Std.TransCmp (compareOn Identity.name))

instance : Std.LawfulEqOrd Identity where
  eq_of_compare {a b} h := by
    have : a.name = b.name := Std.LawfulEqOrd.eq_of_compare (α := String) h
    cases a; cases b; simp_all

/-- The part before the last dot; empty for a name without dots. -/
def namespaceChars (id : Identity) : List Char :=
  match splitLast? '.' id.name.toList with
  | some (before, _) => before
  | none => []

/-- The part after the last dot. -/
def simpleNameChars (id : Identity) : List Char :=
  match splitLast? '.' id.name.toList with
  | some (_, after) => after
  | none => id.name.toList

def namespaceName (id : Identity) : String := String.ofList id.namespaceChars

def simpleName (id : Identity) : String := String.ofList id.simpleNameChars

/-- A nested unit carries a dollar sign in its simple name. -/
def isNested (id : Identity) : Bool := id.simpleNameChars.contains '$'

/-- Membership in a namespace or one of its sub-namespaces. Dots at the end of the requested
namespace do not count, and the empty namespace holds everything. -/
def inNamespace (id : Identity) (requested : String) : Bool :=
  let requested := trimEnd '.' requested.toList
  requested.isEmpty || id.namespaceChars == requested
    || (requested ++ ['.']).isPrefixOf id.namespaceChars

/-- The ending of a compiled unit's file. -/
def fileEnding : List Char := ".class".toList

/-- Simple names of the files that describe a module or a package and hold no type. -/
def descriptorNames : List (List Char) := ["module-info".toList, "package-info".toList]

/-- The identity stored at an archive path such as `a/b/C.class`; none for other files and for
module and package descriptors. -/
def ofResourcePath? (path : String) : Option Identity :=
  match stripSuffix? fileEnding path.toList with
  | none => none
  | some stem =>
    let simple := match splitLast? '/' stem with
      | some (_, after) => after
      | none => stem
    if simple.isEmpty || descriptorNames.contains simple then none
    else some ⟨String.ofList (replaceChar '/' '.' (stem.dropWhile (· == '/')))⟩

/-- The path of the compiled unit inside an archive or class directory. -/
def resourcePath (id : Identity) : String :=
  String.ofList (replaceChar '.' '/' id.name.toList ++ fileEnding)

end Identity

end TypeDiscovery
