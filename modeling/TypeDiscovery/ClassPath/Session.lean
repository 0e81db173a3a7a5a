import TypeDiscovery.ClassPath

/-!
# Sessions

One class path is asked again and again while the file system changes below it. What it answers
depends on what it remembers: the listings of archives, and the classes that it listed last.
-/

namespace TypeDiscovery.ClassPath

/-- What happens in a session: the file system becomes another one, be it by writing, by making
directories and links or by removing, or the class path is asked. -/
inductive Action where
  | change (next : FileSystem)
  | artifacts
  | resources
  | locate (id : Identity)
  | fetch (location : Location)

/-- What an action is answered, events aside. -/
inductive Answer where
  | changed
  | artifacts (listed : Except String (List Entry))
  | resources (listed : Except String (List Resource))
  | located (location : Option Location)
  | fetched (outcome : Outcome (List UInt8))

structure Session where
  classPath : ClassPath
  files : FileSystem

namespace Session

/-- A session with a class path that was made just now. -/
def begin (name : String) (entries : List String) (files : FileSystem) : Session :=
  ⟨(new entries).withName name, files⟩

variable [ArchiveLibrary]

def perform (s : Session) : Action → Answer × Session
  | .change next => (.changed, { s with files := next })
  | .artifacts =>
    let (listing, next) := s.classPath.artifacts s.files
    (.artifacts listing.answer, { s with classPath := next })
  | .resources =>
    let (listing, next) := s.classPath.resources s.files
    (.resources listing.answer, { s with classPath := next })
  | .locate id =>
    let (location, next, _) := s.classPath.locate s.files id
    (.located location, { s with classPath := next })
  | .fetch location =>
    let (outcome, next, _) := s.classPath.fetch s.files location
    (.fetched outcome, { s with classPath := next })

/-- The session after some actions. -/
def after (s : Session) : List Action → Session
  | [] => s
  | a :: rest => (s.perform a).2.after rest

/-- What some actions are answered, one by one. -/
def answers (s : Session) : List Action → List Answer
  | [] => []
  | a :: rest => (s.perform a).1 :: (s.perform a).2.answers rest

/-- The file systems at the moments of a session: at its start and after each change. -/
def moments (s : Session) (actions : List Action) : List FileSystem :=
  s.files :: actions.filterMap fun
    | .change next => some next
    | _ => none

end Session

end TypeDiscovery.ClassPath
