/-!
# Archives

Archives are opened by a library, which is a parameter like the engine of the patterns. An opened
archive is asked for its members one by one, and for the data of the member of a name. What is
documented of the two is that they go together, and that the names of directories end in a
separator (`Archive.Documented`). Of the library it is that nothing empty is an archive.
-/

namespace TypeDiscovery

/-- What is said of one member of an archive. -/
structure Archive.Member where
  name : String
  isDirectory : Bool

/-- An opened archive. -/
structure Archive where
  /-- The members in their order, or the errors of those that cannot be read in form. -/
  members : List (Except String Archive.Member)
  /-- The member of a name: if there is one that can be read in form, its data or the error of
  reading them. -/
  byName : String → Except String (Except String (List UInt8))

namespace Archive

/-- The data of the member of a name. -/
def read (a : Archive) (name : String) : Except String (List UInt8) :=
  match a.byName name with
  | .ok data => data
  | .error reason => .error reason

/-- Whether a name is that of a directory. -/
def namesDirectory (name : String) : Bool :=
  match name.toList.getLast? with
  | some c => c == '/' || c == '\\'
  | none => false

/-- What is documented about an archive. -/
structure Documented (a : Archive) : Prop where
  directories : ∀ m, .ok m ∈ a.members → m.isDirectory = namesDirectory m.name
  named : ∀ name data, a.byName name = .ok data → ∃ m, .ok m ∈ a.members ∧ m.name = name

end Archive

/-- A library of archives. -/
class ArchiveLibrary where
  openArchive : List UInt8 → Except String Archive
  documented : ∀ bytes archive, openArchive bytes = .ok archive → archive.Documented
  /-- An archive ends with a closing record. -/
  openArchive_nil : ∀ archive, openArchive [] ≠ .ok archive

end TypeDiscovery
