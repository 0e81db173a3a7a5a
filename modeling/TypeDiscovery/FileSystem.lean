import TypeDiscovery.Path

/-!
# File systems

A file system is a value: items at places, a place being the names on the way from the root. Paths
are read from the working directory and followed through links. Asking changes nothing; the
operations that change a file system give the changed one.
-/

namespace TypeDiscovery

open Text

/-- The names on the way from the root. -/
abbrev Place := List String

inductive Item where
  /-- A file with the time of its last change. -/
  | file (bytes : List UInt8) (modified : Nat)
  | directory
  | link (target : String)
  deriving DecidableEq

inductive FileError where
  | notFound
  | present
  | notDirectory
  | isDirectory
  | tooManyLinks
  | badName
  deriving DecidableEq

def FileError.message : FileError → String
  | notFound => "No such file or directory (os error 2)"
  | present => "File exists (os error 17)"
  | notDirectory => "Not a directory (os error 20)"
  | isDirectory => "Is a directory (os error 21)"
  | tooManyLinks => "Too many levels of symbolic links (os error 40)"
  | badName => "file name contained an unexpected NUL byte"

structure FileSystem where
  items : List (Place × Item)

namespace FileSystem

/-- The place from which paths are read. -/
def workingDirectory : Place := ["work"]

/-- A file system with an empty working directory. -/
def empty : FileSystem := ⟨[([], .directory), (workingDirectory, .directory)]⟩

instance : Inhabited FileSystem := ⟨empty⟩

def item? (fs : FileSystem) (p : Place) : Option Item := fs.items.lookup p

def places (fs : FileSystem) : List Place := fs.items.map (·.1)

theorem mem_places_of_item?_eq_some {fs : FileSystem} {p : Place} {i : Item}
    (h : fs.item? p = some i) : p ∈ fs.places := by
  obtain ⟨items⟩ := fs
  simp only [item?, places] at *
  induction items with
  | nil => simp at h
  | cons q rest ih =>
    obtain ⟨place, item⟩ := q
    rw [List.lookup_cons] at h
    split at h
    · rename_i he
      simp [beq_iff_eq.mp he]
    · simp [ih h]

/-! ### Following paths -/

/-- One step of a path. -/
inductive Piece where
  | root
  | stay
  | up
  | name (name : String)
  deriving DecidableEq

/-- The steps of a path. An empty piece between slashes, and one after a slash at the end, asks for
a directory, as a dot does. -/
def piecesOf (text : String) : List Piece :=
  match segments '/' text.toList with
  | [] :: next :: rest => .root :: (next :: rest).map ofSegment
  | [[]] => []
  | pieces => pieces.map ofSegment
where
  ofSegment : List Char → Piece
    | [] => .stay
    | ['.'] => .stay
    | ['.', '.'] => .up
    | piece => .name (String.ofList piece)

/-- How many links may be followed on one path. -/
def linkLimit : Nat := 40

/-- The place that steps lead to from a place that exists. The last name need not exist; a link at
the last name is followed only if `followLast`. At most `links` links are followed. -/
def walk (fs : FileSystem) (followLast : Bool) (links : Nat) (here : Place) (pieces : List Piece) :
    Except FileError Place :=
  match pieces with
  | [] => .ok here
  | .root :: rest => fs.walk followLast links [] rest
  | .stay :: rest =>
    if fs.item? here = some .directory then fs.walk followLast links here rest
    else .error .notDirectory
  | .up :: rest =>
    if fs.item? here = some .directory then fs.walk followLast links here.dropLast rest
    else .error .notDirectory
  | .name n :: rest =>
    if fs.item? here = some .directory then
      let there := here ++ [n]
      match fs.item? there with
      | none => if rest.isEmpty then .ok there else .error .notFound
      | some (.link target) =>
        if rest.isEmpty && !followLast then .ok there
        else
          match links with
          | 0 => .error .tooManyLinks
          | links + 1 => fs.walk followLast links here (piecesOf target ++ rest)
      | some _ => fs.walk followLast links there rest
    else .error .notDirectory
termination_by (links, pieces.length)

/-- The place that a path leads to; its last name need not exist. -/
def placeOf (fs : FileSystem) (followLast : Bool) (pieces : List Piece) : Except FileError Place :=
  if pieces.isEmpty then .error .notFound
  else fs.walk followLast linkLimit workingDirectory pieces

def stepsOf (text : String) : Except FileError (List Piece) :=
  if text.toList.contains '\x00' then .error .badName else .ok (piecesOf text)

/-- What a path leads to, links followed: its place and the item there. -/
def find (fs : FileSystem) (path : Path) : Except FileError (Place × Item) := do
  let pieces ← stepsOf path.text
  let place ← fs.placeOf true pieces
  match fs.item? place with
  | some item => return (place, item)
  | none => .error .notFound

/-- The place of what a path leads to, if there is something. -/
def canonical? (fs : FileSystem) (path : Path) : Option Place :=
  match fs.find path with
  | .ok (place, _) => some place
  | .error _ => none

theorem item?_of_find_eq_ok {fs : FileSystem} {path : Path} {place : Place} {i : Item}
    (h : fs.find path = .ok (place, i)) : fs.item? place = some i := by
  unfold find at h
  cases hs : stepsOf path.text with
  | error e => simp [hs, bind, Except.bind] at h
  | ok pieces =>
    cases hp : fs.placeOf true pieces with
    | error e => simp [hs, hp, bind, Except.bind] at h
    | ok p =>
      cases hi : fs.item? p with
      | none => simp [hs, hp, hi, bind, Except.bind] at h
      | some j =>
        simp only [hs, hp, hi, bind, Except.bind, pure, Except.pure, Except.ok.injEq,
          Prod.mk.injEq] at h
        obtain ⟨rfl, rfl⟩ := h
        exact hi

theorem mem_places_of_canonical? {fs : FileSystem} {path : Path} {place : Place}
    (h : fs.canonical? path = some place) : place ∈ fs.places := by
  unfold canonical? at h
  split at h
  · rename_i p i hf
    simp only [Option.some.injEq] at h
    exact h ▸ mem_places_of_item?_eq_some (item?_of_find_eq_ok hf)
  · simp at h

/-- The components of the path that leads to a place straight from the root. -/
def straight (place : Place) : List Path.Component := .root :: place.map .name

/-- By what a path is told apart from others: the straight way to its place, or its own components
if it leads nowhere. -/
def key (fs : FileSystem) (path : Path) : List Path.Component :=
  match fs.canonical? path with
  | some place => straight place
  | none => path.components

def isDirectory (fs : FileSystem) (path : Path) : Bool :=
  match fs.find path with
  | .ok (_, .directory) => true
  | _ => false

def isFile (fs : FileSystem) (path : Path) : Bool :=
  match fs.find path with
  | .ok (_, .file ..) => true
  | _ => false

theorem canonical?_of_isFile {fs : FileSystem} {path : Path} (h : fs.isFile path = true) :
    ∃ place, fs.canonical? path = some place := by
  unfold isFile at h
  split at h
  · rename_i place _ _ hf
    exact ⟨place, by simp [canonical?, hf]⟩
  · cases h

def readFile (fs : FileSystem) (path : Path) : Except FileError (List UInt8) := do
  match ← fs.find path with
  | (_, .file bytes _) => return bytes
  | _ => .error .isDirectory

/-- The order of places in which what is below a name comes right after it. -/
def comesFirst : Place → Place → Bool
  | [], _ => true
  | _ :: _, [] => false
  | a :: as, b :: bs => a < b || (a == b && comesFirst as bs)

/-- The files below a directory, each with the path from the directory and the whole path. A
directory's content comes in the order of names. Links inside are not followed. -/
def filesBelow (fs : FileSystem) (dir : Path) : List (String × Path) :=
  match fs.canonical? dir with
  | none => []
  | some place =>
    let below := fs.items.filterMap fun (p, item) =>
      match item with
      | .file .. => if place.isPrefixOf p then some (p.drop place.length) else none
      | _ => none
    (below.mergeSort comesFirst).map fun names =>
      let relative := "/".intercalate names
      (relative, dir.join relative)

/-! ### Changes -/

/-- The file system with an item at a place. -/
def set (fs : FileSystem) (p : Place) (item : Item) : FileSystem :=
  ⟨fs.items.filter (·.1 != p) ++ [(p, item)]⟩

/-- The steps of a path without those at its end that only ask for a directory. -/
def withoutStays (pieces : List Piece) : List Piece :=
  (pieces.reverse.dropWhile (· == .stay)).reverse

/-- Makes one directory. -/
def makeDirectory (fs : FileSystem) (pieces : List Piece) : Except FileError FileSystem := do
  let place ← fs.placeOf false pieces
  match fs.item? place with
  | some _ => .error .present
  | none => return fs.set place .directory

def leadsToDirectory (fs : FileSystem) (pieces : List Piece) : Bool :=
  match fs.placeOf true pieces with
  | .ok place => fs.item? place == some .directory
  | .error _ => false

/-- Makes a directory and those on the way to it that are missing. -/
def makeAll (fs : FileSystem) (pieces : List Piece) : Except FileError FileSystem :=
  if _h : pieces = [] then .ok fs
  else
    let last (fs : FileSystem) : Except FileError FileSystem :=
      match fs.makeDirectory pieces with
      | .ok fs => .ok fs
      | .error e => if fs.leadsToDirectory pieces then .ok fs else .error e
    match fs.makeDirectory pieces with
    | .error .notFound =>
      match fs.makeAll pieces.dropLast with
      | .ok fs => last fs
      | .error e => .error e
    | _ => last fs
termination_by pieces.length
decreasing_by
  have := List.length_pos_iff.mpr _h
  simp only [List.length_dropLast]
  omega

def makeDirectories (fs : FileSystem) (path : Path) : Except FileError FileSystem := do
  let pieces ← stepsOf path.text
  fs.makeAll (withoutStays pieces)

/-- Puts an item at a path; directories on the way are made. A link at the path is followed if
`follow`. -/
def put (fs : FileSystem) (follow : Bool) (path : Path) (item : Item) :
    Except FileError FileSystem := do
  let pieces ← stepsOf path.text
  let fs ← fs.makeAll (withoutStays pieces.dropLast)
  let place ← fs.placeOf follow pieces
  match fs.item? place with
  | some .directory => .error .isDirectory
  | _ => return fs.set place item

def write (fs : FileSystem) (path : Path) (bytes : List UInt8) (modified : Nat) :
    Except FileError FileSystem :=
  fs.put true path (.file bytes modified)

def makeLink (fs : FileSystem) (path : Path) (target : String) : Except FileError FileSystem :=
  fs.put false path (.link target)

/-- Removes what is at a path, with all that is below it. -/
def remove (fs : FileSystem) (path : Path) : Except FileError FileSystem := do
  let pieces ← stepsOf path.text
  let place ← fs.placeOf false pieces
  return ⟨fs.items.filter fun (p, _) => !place.isPrefixOf p⟩

end FileSystem

end TypeDiscovery
