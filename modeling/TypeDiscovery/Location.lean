import TypeDiscovery.Path

/-!
# Locations of artifacts and resources

The bytes behind a name are a loose file, an entry of an archive or a key of a scope in memory.
Locations are compared by kind in this order and then by their fields, paths by components.
-/

namespace TypeDiscovery

inductive Location where
  | file (path : Path)
  | archive (path : Path) (entry : String)
  | memory (key : String)
  deriving DecidableEq, Inhabited

namespace Location

/-- The text that location patterns are tested against. -/
def matchTarget : Location → String
  | .file path => path.text
  | .archive path entry => path.text ++ "!/" ++ entry
  | .memory key => key

/-- The location as a URL-like text. -/
def display : Location → String
  | .file path => "file:" ++ path.text
  | .archive path entry => "jar:file:" ++ path.text ++ "!/" ++ entry
  | .memory key => "mem:" ++ key

def compare : Location → Location → Ordering
  | .file a, .file b => a.compare b
  | .file _, _ => .lt
  | .archive .., .file _ => .gt
  | .archive a e, .archive b f => (a.compare b).then (Ord.compare e f)
  | .archive .., .memory _ => .lt
  | .memory a, .memory b => Ord.compare a b
  | .memory _, _ => .gt

/-- Whether two locations are the same place, however their paths are spelled. -/
def same : Location → Location → Bool
  | .file a, .file b => a.same b
  | .archive a e, .archive b f => a.same b && e == f
  | .memory a, .memory b => a == b
  | _, _ => false

end Location

end TypeDiscovery
