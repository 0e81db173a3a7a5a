import TypeDiscovery.Archive
import TypeDiscovery.ClassPath.Manifest
import TypeDiscovery.Counting
import TypeDiscovery.FileSystem
import TypeDiscovery.Scope
import TypeDiscovery.Text.Quoted
import TypeDiscovery.Text.Utf8
import Std.Data.ExtTreeMap

/-!
# Class paths

An ordered list of class directories and archives. An archive is followed by the archives that its
manifest names. Entries that do not exist are passed over, and so are archives that cannot be
read, unless nothing else is left. A class path remembers the listings of archives, which hold
while size and time of the file stay the same, and the classes that it listed last, from which it
locates identities.
-/

namespace TypeDiscovery

/-- By what a change of an archive is noticed. -/
structure Stamp where
  size : Nat
  modified : Nat
  deriving DecidableEq

/-- What an archive holds, as of a stamp. -/
structure ArchiveListing where
  stamp : Stamp
  /-- The classes and the names of their members, in the archive's order. -/
  classes : List (Identity × String)
  resources : List String
  /-- The archives and directories that the manifest names. -/
  references : List Path
  archive : Archive

/-- A searchable part of a class path. -/
inductive Root where
  | directory (path : Path)
  | archive (path : Path) (listing : ArchiveListing)
  | broken (path : Path) (reason : String)

/-- The classes listed last: each identity once, in search order, and the same by identity. -/
structure Snapshot where
  entries : List Entry
  index : Std.ExtTreeMap Identity Location

structure ClassPath where
  name : String
  entries : List Path
  memo : List (Path × ArchiveListing)
  snapshot : Option Snapshot

namespace ClassPath

/-- The classes among a tree's files end so. -/
def classEnding : List Char := ".class".toList

def isClassFile (relative : String) : Bool := classEnding.isSuffixOf relative.toList

/-- The identity of a class at a relative path. What stands below `META-INF` is none. -/
def classIdentity? (relative : String) : Option Identity :=
  if "META-INF/".toList.isPrefixOf relative.toList then none
  else Identity.ofResourcePath? relative

/-! ### Places -/

/-- The number of places not seen yet. -/
def unseen (fs : FileSystem) (seen : List (List Path.Component)) : Nat :=
  fs.places.countP fun p => !seen.contains (FileSystem.straight p)

theorem unseen_le (fs : FileSystem) (key : List Path.Component)
    (seen : List (List Path.Component)) : unseen fs (key :: seen) ≤ unseen fs seen := by
  refine List.countP_mono_left fun p _ hp => ?_
  simp only [List.contains_cons, Bool.not_or, Bool.and_eq_true] at hp
  exact hp.2

theorem unseen_lt {fs : FileSystem} {seen : List (List Path.Component)} {path : Path}
    (hf : fs.isFile path = true) (hn : seen.contains (fs.key path) = false) :
    unseen fs (fs.key path :: seen) < unseen fs seen := by
  obtain ⟨place, hc⟩ := FileSystem.canonical?_of_isFile hf
  have hkey : fs.key path = FileSystem.straight place := by simp only [FileSystem.key, hc]
  rw [hkey] at hn ⊢
  refine Counting.countP_lt_countP (FileSystem.mem_places_of_canonical? hc) (by simp only [hn]; rfl)
    (by simp) ?_
  intro p hp
  simp only [List.contains_cons, Bool.not_or, Bool.and_eq_true] at hp
  exact hp.2

/-! ### Archives -/

/-- The stamp of what is at a path. -/
def stampOf (fs : FileSystem) (path : Path) : Except FileError Stamp :=
  match fs.find path with
  | .ok (_, .file bytes modified) => .ok ⟨bytes.length, modified⟩
  | .ok _ => .ok ⟨0, 0⟩
  | .error e => .error e

/-- The text of an archive's manifest; empty if it has none. -/
def manifestOf (a : Archive) : Except String (List Char) :=
  match a.byName Manifest.memberName with
  | .ok data => data.map Text.Utf8.decodeLossy
  | .error _ => .ok []

variable [ArchiveLibrary]

/-- The archive that bytes make, with its members and the text of its manifest. All members must be
readable in form, and the manifest also in content. -/
def openBytes (bytes : List UInt8) :
    Except String (Archive × List Archive.Member × List Char) := do
  let archive ← ArchiveLibrary.openArchive bytes
  let members ← archive.members.mapM id
  let manifest ← manifestOf archive
  return (archive, members, manifest)

/-- Lists the archive that bytes at a path make. -/
def listBytes (path : Path) (stamp : Stamp) (bytes : List UInt8) :
    Except String ArchiveListing := do
  let (archive, members, manifest) ← openBytes bytes
  let files := members.filter fun m => !m.isDirectory
  return {
    stamp
    classes := files.filterMap fun m =>
      if isClassFile m.name then (classIdentity? m.name).map (·, m.name) else none
    resources := (files.filter fun m => !isClassFile m.name).map (·.name)
    references := (Manifest.classPath manifest).map (Manifest.resolve path)
    archive }

/-- Reads and lists an archive. -/
def readArchive (fs : FileSystem) (path : Path) (stamp : Stamp) :
    Except String ArchiveListing := do
  let bytes ← (fs.readFile path).mapError FileError.message
  listBytes path stamp bytes

abbrev Memo := List (Path × ArchiveListing)

namespace Memo

def get? (memo : Memo) (path : Path) : Option ArchiveListing :=
  (memo.find? fun (p, _) => p.same path).map (·.2)

/-- The memo with a listing for a path; a path is known by its components. -/
def put (memo : Memo) (path : Path) (listing : ArchiveListing) : Memo :=
  match memo with
  | [] => [(path, listing)]
  | (p, l) :: rest => if p.same path then (p, listing) :: rest else (p, l) :: put rest path listing

end Memo

/-- Reads an archive and remembers its listing. -/
def relist (fs : FileSystem) (memo : Memo) (path : Path) (stamp : Stamp) :
    Except String ArchiveListing × Memo × List Event :=
  match readArchive fs path stamp with
  | .error reason => (.error reason, memo, [])
  | .ok l =>
    (.ok l, Memo.put memo path l, [.archiveListed path l.classes.length l.resources.length])

/-- The listing of an archive: the remembered one while it holds, else a new one. -/
def listing (fs : FileSystem) (memo : Memo) (path : Path) :
    Except String ArchiveListing × Memo × List Event :=
  match stampOf fs path with
  | .error e => (.error e.message, memo, [])
  | .ok stamp =>
    match Memo.get? memo path with
    | some l => if l.stamp = stamp then (.ok l, memo, []) else relist fs memo path stamp
    | none => relist fs memo path stamp

/-! ### Roots -/

/-- The state of expanding entries into roots; roots and events stand last one first. -/
structure Expansion where
  roots : List Root
  memo : Memo
  events : List Event
  /-- By what the paths visited are told apart from others. -/
  seen : List (List Path.Component)

/-- Visits the paths on a stack, the first one first, and what an archive refers to before the
rest. Nothing is visited twice. -/
def expand (fs : FileSystem) (x : Expansion) : List Path → Expansion
  | [] => x
  | path :: rest =>
    let key := fs.key path
    if _hn : x.seen.contains key then expand fs x rest
    else if fs.isDirectory path then
      expand fs { x with roots := .directory path :: x.roots, seen := key :: x.seen } rest
    else if _hf : fs.isFile path then
      let listed := listing fs x.memo path
      let events := listed.2.2.reverse ++ x.events
      match listed.1 with
      | .ok l =>
        expand fs ⟨.archive path l :: x.roots, listed.2.1, events, key :: x.seen⟩
          (l.references ++ rest)
      | .error reason =>
        expand fs ⟨.broken path reason :: x.roots, listed.2.1, events, key :: x.seen⟩ rest
    else
      expand fs { x with events := .entryMissing path :: x.events, seen := key :: x.seen } rest
termination_by stack => (unseen fs x.seen, stack.length)
decreasing_by
  · exact Prod.Lex.right _ (Nat.lt_succ_self _)
  · exact Prod.Lex.right' _ (unseen_le fs _ _) (Nat.lt_succ_self _)
  · exact Prod.Lex.left _ _ (unseen_lt _hf (by simpa using _hn))
  · exact Prod.Lex.right' _ (unseen_le fs _ _) (Nat.lt_succ_self _)
  · exact Prod.Lex.right' _ (unseen_le fs _ _) (Nat.lt_succ_self _)

/-- The roots of a class path in search order. -/
def roots (c : ClassPath) (fs : FileSystem) : List Root × ClassPath × List Event :=
  let x := expand fs ⟨[], c.memo, [], []⟩ c.entries
  (x.roots.reverse, { c with memo := x.memo }, x.events.reverse)

/-- The report of an unreadable archive. -/
def skipped? (c : ClassPath) : Root → Option Event
  | .broken path reason => some (.archiveSkipped path c.name reason)
  | _ => none

/-- The roots, with unreadable archives reported; a failure if nothing else is left. -/
def listableRoots (c : ClassPath) (fs : FileSystem) :
    Except String (List Root) × ClassPath × List Event :=
  let (roots, next, events) := c.roots fs
  let broken := roots.filterMap c.skipped?
  let answer := if !broken.isEmpty && broken.length == roots.length then
      .error s!"no readable entry on {c.name}"
    else .ok roots
  (answer, next, events ++ broken)

/-! ### Listing and opening -/

/-- The classes of a root in search order. -/
def classesOf (fs : FileSystem) : Root → List (Identity × Location)
  | .directory dir =>
    (fs.filesBelow dir).filterMap fun (relative, path) =>
      (classIdentity? relative).map (·, .file path)
  | .archive path l => l.classes.map fun (id, member) => (id, .archive path member)
  | .broken .. => []

/-- The resources of a root in search order. -/
def resourcesOf (fs : FileSystem) : Root → List Resource
  | .directory dir =>
    (fs.filesBelow dir).filterMap fun (relative, path) =>
      if isClassFile relative then none else some ⟨relative, .file path⟩
  | .archive path l => l.resources.map fun member => ⟨member, .archive path member⟩
  | .broken .. => []

/-- Records a class unless its identity is known; the entries stand last one first. -/
def record (taken : List Entry × Std.ExtTreeMap Identity Location)
    (found : Identity × Location) : List Entry × Std.ExtTreeMap Identity Location :=
  if taken.2.contains found.1 then taken
  else (⟨found.1, some found.2⟩ :: taken.1, taken.2.insert found.1 found.2)

/-- The first occurrence of each identity. -/
def Snapshot.ofClasses (classes : List (Identity × Location)) : Snapshot :=
  let taken := classes.foldl record ([], ∅)
  ⟨taken.1.reverse, taken.2⟩

/-- Lists the classes. A successful listing is what identities are located by from now on. -/
def artifacts (c : ClassPath) (fs : FileSystem) : Listing Entry × ClassPath :=
  let (answer, next, events) := c.listableRoots fs
  match answer with
  | .error reason => (⟨.error reason, events⟩, next)
  | .ok roots =>
    let snapshot := Snapshot.ofClasses (roots.flatMap (classesOf fs))
    (⟨.ok snapshot.entries, events⟩, { next with snapshot := some snapshot })

def resources (c : ClassPath) (fs : FileSystem) : Listing Resource × ClassPath :=
  let (answer, next, events) := c.listableRoots fs
  (⟨answer.map (·.flatMap (resourcesOf fs)), events⟩, next)

/-- The location that the last listing gave an identity. -/
def located? (c : ClassPath) (id : Identity) : Option Location :=
  c.snapshot.bind fun s => s.index[id]?

/-- Locates an identity, by a new listing if there has been none. -/
def locate (c : ClassPath) (fs : FileSystem) (id : Identity) :
    Option Location × ClassPath × List Event :=
  if c.snapshot.isSome then (c.located? id, c, [])
  else
    let (l, next) := c.artifacts fs
    match l.answer with
    | .ok _ => (next.located? id, next, l.events)
    | .error reason => (none, next, l.events ++ [.locateFailed id c.name reason])

/-- The bytes behind a location. -/
def fetch (c : ClassPath) (fs : FileSystem) :
    Location → Outcome (List UInt8) × ClassPath × List Event
  | .file path => (.ofExcept FileError.message (fs.readFile path), c, [])
  | .archive path member =>
    let (answer, memo, events) := listing fs c.memo path
    let outcome := match answer with
      | .ok l => .ofExcept id (l.archive.read member)
      | .error reason => .failed reason
    (outcome, { c with memo }, events)
  | l => (.failed s!"{l.display} does not belong to {c.name}", c, [])

/-! ### Making -/

def new (entries : List String) : ClassPath := ⟨"classpath", entries.map (⟨·⟩), [], none⟩

def withName (c : ClassPath) (name : String) : ClassPath := { c with name }

/-- The entries of a search path that colons divide; an empty one is the working directory, and so
is the whole if there is no search path. -/
def ofSearchPath (value : Option String) : ClassPath :=
  match value with
  | none => new ["."]
  | some value =>
    new ((Text.segments ':' value.toList).map fun piece =>
      if piece.isEmpty then "." else String.ofList piece)

def debug (c : ClassPath) : String :=
  Text.Quoted.record "ClassPath"
    [("name", Text.Quoted.text c.name),
      ("entries", Text.Quoted.list (c.entries.map fun p => Text.Quoted.path p.text)),
      ("cached_archives", toString c.memo.length)]

end ClassPath

end TypeDiscovery
