import TypeDiscovery.Pattern
import TypeDiscovery.Scope

/-!
# Candidates

The artifacts of a scope at which a scan starts: listed entries that have a location, in a
requested namespace, at an admitted location, and not nested unless that is asked for.
-/

namespace TypeDiscovery

/-- A listed artifact with its location. -/
structure Candidate where
  identity : Identity
  location : Location
  deriving DecidableEq, Inhabited

/-- What candidates are narrowed by. No namespaces and no patterns admit everything. -/
structure Selection where
  includeNested : Bool
  namespaces : List String
  patterns : List Pattern

namespace Selection

/-- Entries that the selection keeps whatever their location. -/
def keepsEntry (sel : Selection) (e : Entry) : Bool :=
  (sel.includeNested || !e.identity.isNested)
    && (sel.namespaces.isEmpty || sel.namespaces.any e.identity.inNamespace)

/-- Locations at which the patterns find a match. -/
def keepsLocation (sel : Selection) (l : Location) : Bool :=
  Pattern.anyMatches sel.patterns l.matchTarget .find

/-- The candidate that an entry is, if it has an admitted location. -/
def candidate? (sel : Selection) (e : Entry) : Option Candidate :=
  match e.location with
  | some l => if sel.keepsLocation l then some ⟨e.identity, l⟩ else none
  | none => none

/-- The candidates among listed entries, in their order. -/
def candidates (sel : Selection) (entries : List Entry) : List Candidate :=
  (entries.filter sel.keepsEntry).filterMap sel.candidate?

theorem mem_candidates {sel : Selection} {entries : List Entry} {c : Candidate} :
    c ∈ sel.candidates entries ↔ ∃ e ∈ entries, e.identity = c.identity ∧
      sel.keepsEntry e = true ∧ e.location = some c.location ∧
      sel.keepsLocation c.location = true := by
  obtain ⟨id, l⟩ := c
  simp only [candidates, List.mem_filterMap, List.mem_filter]
  constructor
  · rintro ⟨e, ⟨he, hkeeps⟩, hc⟩
    unfold candidate? at hc
    split at hc
    · rename_i m hm
      split at hc
      · rename_i hplace
        cases hc
        exact ⟨e, he, rfl, hkeeps, hm, hplace⟩
      · cases hc
    · cases hc
  · rintro ⟨e, he, rfl, hkeeps, hl, hplace⟩
    refine ⟨e, ⟨he, hkeeps⟩, ?_⟩
    simp [candidate?, hl, hplace]

/-- The entries that are passed over for want of a location. -/
def missing (sel : Selection) (entries : List Entry) : List Identity :=
  ((entries.filter sel.keepsEntry).filter (·.location.isNone)).map (·.identity)

end Selection

/-- The candidates of a scope, or the failure to list it. -/
def Scope.candidates (s : Scope) (sel : Selection) : Except DiscoveryError (List Candidate) :=
  match s.artifacts.answer with
  | .ok entries => .ok (sel.candidates entries)
  | .error reason => .error (.enumeration s!"scope {s.name}: {reason}")

/-- What listing the candidates of a scope leaves in a trace. -/
def Scope.candidateTrace (s : Scope) (sel : Selection) (t : Trace) : Trace :=
  let t := (t.add .listed).noteAll s.artifacts.events
  match s.artifacts.answer with
  | .error _ => t
  | .ok entries =>
    let missing := sel.missing entries
    (t.noteAll (missing.map .unresolved)).note
      (.enumerated (sel.candidates entries).length entries.length s.name missing.length)

end TypeDiscovery
