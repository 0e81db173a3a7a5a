import TypeDiscovery.Record

/-!
# Required markers
-/

namespace TypeDiscovery

/-- How required markers combine. -/
inductive MatchMode where
  /-- Every required marker must be present. -/
  | all
  /-- One required marker is enough. -/
  | any
  deriving DecidableEq

namespace MatchMode

def default : MatchMode := all

instance : Inhabited MatchMode := ⟨default⟩

/-- Whether a record's own markers meet the required ones. No required markers accept all. -/
def accepts (mode : MatchMode) (r : Record) (required : List String) : Bool :=
  required.isEmpty ||
    match mode with
    | all => required.all r.hasMarker
    | any => required.any r.hasMarker

def debug : MatchMode → String
  | all => "All"
  | any => "Any"

end MatchMode

end TypeDiscovery
