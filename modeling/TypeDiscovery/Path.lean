import TypeDiscovery.Text.Split

/-!
# Paths

A path keeps the text it was built from, and is compared by its components: repeated slashes, a
slash at the end and a dot between slashes do not count, a dot at the start does. Components of
different kinds come in the order root, dot, two dots, name; a path comes before its extensions.
-/

namespace TypeDiscovery

open Text

structure Path where
  text : String
  deriving DecidableEq, Inhabited

namespace Path

inductive Component where
  | root
  | current
  | parent
  | name (name : String)
  deriving DecidableEq, Inhabited

/-- The place of a component's kind in the order of components. -/
def Component.rank : Component → Nat
  | .root => 0
  | .current => 1
  | .parent => 2
  | .name _ => 3

def Component.compare : Component → Component → Ordering
  | .name a, .name b => Ord.compare a b
  | a, b => Ord.compare a.rank b.rank

/-- The component that a piece between slashes stands for. A dot counts only as the first piece. -/
def Component.ofPiece? (first : Bool) : List Char → Option Component
  | [] => none
  | ['.'] => if first then some .current else none
  | ['.', '.'] => some .parent
  | piece => some (.name (String.ofList piece))

/-- The components of a text together with the number of characters up to the end of each. -/
def locatedComponents (cs : List Char) : List (Component × Nat) :=
  match cs with
  | '/' :: rest => (.root, 1) :: pieces false 1 (segments '/' rest)
  | _ => pieces true 0 (segments '/' cs)
where
  /-- `start` is the number of characters before the pieces. -/
  pieces (first : Bool) (start : Nat) : List (List Char) → List (Component × Nat)
    | [] => []
    | piece :: rest =>
      let stop := start + piece.length
      match Component.ofPiece? first piece with
      | some c => (c, stop) :: pieces false (stop + 1) rest
      | none => pieces false (stop + 1) rest

def components (p : Path) : List Component := (locatedComponents p.text.toList).map (·.1)

def compareComponents : List Component → List Component → Ordering
  | [], [] => .eq
  | [], _ :: _ => .lt
  | _ :: _, [] => .gt
  | a :: as, b :: bs => (a.compare b).then (compareComponents as bs)

def compare (p q : Path) : Ordering := compareComponents p.components q.components

/-- Whether two paths have the same components. -/
def same (p q : Path) : Bool := p.components = q.components

/-- The path of the directory that holds the last component; none for the root and for a path
without components. -/
def parent? (p : Path) : Option Path :=
  match (locatedComponents p.text.toList).reverse with
  | [] => none
  | (.root, _) :: _ => none
  | [_] => some ⟨""⟩
  | _ :: (_, stop) :: _ => some ⟨String.ofList (p.text.toList.take stop)⟩

/-- A reference read from a directory: an absolute reference stands for itself, any other is
appended after one slash. -/
def join (base : Path) (reference : String) : Path :=
  let chars := base.text.toList
  if reference.toList.head? = some '/' || chars.isEmpty then ⟨reference⟩
  else if chars.getLast? = some '/' then ⟨base.text ++ reference⟩
  else ⟨base.text ++ "/" ++ reference⟩

end Path

end TypeDiscovery
