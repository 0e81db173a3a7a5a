import Mathlib.Order.Bounds.Defs
import TypeDiscovery.Scan

/-!
# The closure behind a scan

From its starting identities a scan goes on to the ancestors named in the records that it reads, as
long as they are located, admitted and not the root. The identities met in this way are the least
set closed under these rules. Nothing here depends on the order in which they are met.
-/

namespace TypeDiscovery.Scan

/-- The identities that a record names, in the order of their names. -/
def ancestorsOf (r : Record) : List Identity := r.ancestors.toList.map (⟨·⟩)

theorem mem_ancestorsOf {r : Record} {a : Identity} :
    a ∈ ancestorsOf r ↔ a.name ∈ r.ancestors := by
  rw [ancestorsOf, List.mem_map, ← NameSet.mem_toList]
  constructor
  · rintro ⟨name, hname, rfl⟩
    exact hname
  · intro h
    exact ⟨a.name, h, rfl⟩

/-- The identities named by what comes of reading an artifact. -/
def named : Outcome Record → List Identity
  | .done r => ancestorsOf r
  | .failed _ | .panicked => []

theorem mem_named {o : Outcome Record} {a : Identity} :
    a ∈ named o ↔ ∃ r, o = .done r ∧ a.name ∈ r.ancestors := by
  cases o <;> simp [named, mem_ancestorsOf]

/-- A place that the filter lets ancestors in at. -/
def Admitted (s : Scan) (l : Location) : Prop :=
  s.filterAncestors = false ∨ s.patterns = [] ∨
    ∃ p ∈ s.patterns, p.isMatch l.matchTarget .find = true

theorem admits_iff {s : Scan} {l : Location} : s.admits l = true ↔ s.Admitted l := by
  simp [admits, Admitted, Pattern.anyMatches]

/-- An ancestor that a scan goes on to. -/
def Wanted (s : Scan) (a : Identity) : Prop :=
  a.name ≠ s.reader.root ∧ ∃ l, s.scope.locate a = some l ∧ s.Admitted l

theorem isRoot_eq_false_iff {s : Scan} {id : Identity} :
    s.isRoot id = false ↔ id.name ≠ s.reader.root := by
  simp [isRoot]

/-- One location for every identity, in the candidates and in the answers of the scope. -/
def Placed (s : Scan) (place : Identity → Location) (cs : List Candidate) : Prop :=
  (∀ c ∈ cs, c.location = place c.identity) ∧
    ∀ id l, s.scope.locate id = some l → l = place id

/-- The identities of candidates. -/
def starts (cs : List Candidate) : Set Identity := {x | ∃ c ∈ cs, c.identity = x}

/-- A set that holds the starting identities other than the root and, with an identity that can be
read, the wanted ancestors in its record. -/
structure Closed (s : Scan) (place : Identity → Location) (start R : Set Identity) : Prop where
  start : ∀ x ∈ start, x.name ≠ s.reader.root → x ∈ R
  ancestor : ∀ x ∈ R, ∀ r, s.outcome (place x) = .done r →
    ∀ a : Identity, a.name ∈ r.ancestors → s.Wanted a → a ∈ R

/-- The identities that chains of ancestors lead to. -/
inductive Reached (s : Scan) (place : Identity → Location) (start : Set Identity) :
    Identity → Prop where
  | start {x : Identity} (mem : x ∈ start) (notRoot : x.name ≠ s.reader.root) :
    Reached s place start x
  | ancestor {x a : Identity} {r : Record} (reached : Reached s place start x)
    (read : s.outcome (place x) = .done r) (named : a.name ∈ r.ancestors)
    (wanted : s.Wanted a) : Reached s place start a

variable {s : Scan} {place : Identity → Location} {start : Set Identity}

theorem Reached.notRoot {x : Identity} (h : Reached s place start x) :
    x.name ≠ s.reader.root := by
  cases h with
  | start _ hroot => exact hroot
  | ancestor _ _ _ wanted => exact wanted.1

theorem closed_reached (s : Scan) (place : Identity → Location) (start : Set Identity) :
    Closed s place start {x | Reached s place start x} where
  start _ hx hroot := .start hx hroot
  ancestor _ hx _ hr _ hname hwanted := .ancestor hx hr hname hwanted

theorem Reached.mem_of_closed {R : Set Identity} (closed : Closed s place start R) {x : Identity}
    (h : Reached s place start x) : x ∈ R := by
  induction h with
  | start hx hroot => exact closed.start _ hx hroot
  | ancestor _ hr hname hwanted ih => exact closed.ancestor _ ih _ hr _ hname hwanted

theorem isLeast_reached (s : Scan) (place : Identity → Location) (start : Set Identity) :
    IsLeast {R | Closed s place start R} {x | Reached s place start x} :=
  ⟨closed_reached s place start, fun _ closed _ hx => hx.mem_of_closed closed⟩

/-- An ancestor named in the record of a reached identity. -/
def Offered (s : Scan) (place : Identity → Location) (start : Set Identity) (a : Identity) :
    Prop :=
  ∃ x, Reached s place start x ∧ a ∈ named (s.outcome (place x))

theorem Offered.reached {a : Identity} (h : Offered s place start a) (hwanted : s.Wanted a) :
    Reached s place start a := by
  obtain ⟨x, hx, ha⟩ := h
  obtain ⟨r, hr, hname⟩ := mem_named.mp ha
  exact .ancestor hx hr hname hwanted

/-- Every reached identity is located or a starting one, so there are finitely many of them. -/
theorem Reached.mem_visible_or_start {x : Identity} (h : Reached s place start x) :
    x ∈ s.scope.visible ∨ x ∈ start := by
  cases h with
  | start hx _ => exact .inr hx
  | ancestor _ _ _ wanted =>
    obtain ⟨_, l, hl, _⟩ := wanted
    exact .inl (s.scope.mem_visible x (by simp [hl]))

/-! ## A small tangled scan -/

/-- The artifacts that the knot lists, the last one without a location. -/
def knotEntries : List Entry :=
  [⟨⟨"a.A"⟩, some (.memory "a.A")⟩, ⟨⟨"b.B"⟩, some (.memory "b.B")⟩, ⟨⟨"d.D"⟩, none⟩]

/-- Two artifacts that name each other, the first also itself and the second also the root and an
artifact whose reading panics. -/
def knot : Scan where
  scope :=
    { name := "knot"
      artifacts := ⟨.ok knotEntries, []⟩
      resources := ⟨.ok [], []⟩
      locate := fun id =>
        if id.name ∈ ["a.A", "b.B", "c.C"] then some (.memory id.name) else none
      fetch := fun
        | .memory "a.A" => .done [0]
        | .memory "b.B" => .done [1]
        | .memory "c.C" => .panicked
        | _ => .failed "absent"
      visible := [⟨"a.A"⟩, ⟨"b.B"⟩, ⟨"c.C"⟩]
      mem_visible := by
        rintro ⟨name⟩ h
        simpa using h }
  reader :=
    { root := "lang.Object"
      read := fun
        | [0] => .done (.ofLists ["a.A", "b.B"] [])
        | [1] => .done (.ofLists ["a.A", "c.C", "lang.Object"] [])
        | _ => .failed "unknown" }
  patterns := []
  filterAncestors := true

/-- Candidates of the knot: its two artifacts, the first one twice, and the root. -/
def knotCandidates : List Candidate :=
  ["a.A", "b.B", "a.A", "lang.Object"].map fun name => ⟨⟨name⟩, .memory name⟩

theorem placed_knot : knot.Placed (fun id => .memory id.name) knotCandidates := by
  refine ⟨by simp [knotCandidates], ?_⟩
  intro id l h
  simp only [knot] at h
  split at h
  · exact (Option.some.inj h).symm
  · cases h

end TypeDiscovery.Scan
