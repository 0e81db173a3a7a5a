import TypeDiscovery.Reader
import TypeDiscovery.Text.Blank
import TypeDiscovery.Text.Utf8

/-!
# Headers written in lines

A plain text form of artifact headers: the first line names the artifact, later lines name its
ancestors and markers. An artifact without ancestors extends the root, unless it is the root.
-/

namespace TypeDiscovery.LineHeader

open Text (words lines trim)

/-- The text after a given beginning, if a line has it. -/
def after? (beginning line : List Char) : Option (List Char) :=
  if beginning.isPrefixOf line then some (line.drop beginning.length) else none

def ancestorsOf (line : List Char) : List String :=
  match after? "extends ".toList line with
  | some rest => (words rest).map String.ofList
  | none => []

def markersOf (line : List Char) : List String :=
  match after? "marker ".toList line with
  | some rest => [String.ofList (trim rest)]
  | none => []

/-- What the first line says: the artifact's name, a failure, or that reading panics. -/
def nameOf (line : List Char) : Outcome String :=
  if line = "panic".toList then .panicked
  else
    match after? "artifact ".toList line with
    | some name => .done (String.ofList name)
    | none => .failed s!"bad header: {String.ofList line}"

/-- The lines of an artifact, of which there is at least one. -/
def linesOf (bytes : List UInt8) : Outcome (List Char × List (List Char)) :=
  match Text.Utf8.decode bytes with
  | .error fault => .failed fault.message
  | .ok text =>
    match lines text.toList with
    | [] => .failed "empty artifact"
    | first :: rest => .done (first, rest)

/-- The name that an artifact gives itself. -/
def name (bytes : List UInt8) : Outcome String :=
  (linesOf bytes).bind fun (first, _) => nameOf first

def read (root : String) (bytes : List UInt8) : Outcome Record :=
  (linesOf bytes).bind fun (first, rest) =>
    (nameOf first).bind fun name =>
      let ancestors := rest.flatMap ancestorsOf
      .done (.ofLists (if ancestors.isEmpty && name != root then [root] else ancestors)
        (rest.flatMap markersOf))

def reader (root : String) : Reader := ⟨root, read root⟩

end TypeDiscovery.LineHeader
