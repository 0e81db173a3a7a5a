import Mathlib.Logic.Relation
import TypeDiscovery.Proofs.Scan.Closure

/-!
# Closures of two scans

A scan reaches no less than another one whose artifacts it meets as well (`Carries.reached`), such
as one from fewer starting identities or with a stronger filter (`Reached.mono`), and from two sets
together it reaches what it reaches from one of them (`reached_union_iff`). A chain of records that
one scan follows is followed by every scan that reaches its first identity, as long as all
identities on it are located and admitted (`chain_of_reached`).
-/

namespace TypeDiscovery.Scan

variable {s s' : Scan} {place place' : Identity → Location} {start start' : Set Identity}

/-- A scan, with its places and where it starts, whose artifacts another scan meets as well, be it
at other places. -/
structure Carries (s s' : Scan) (place place' : Identity → Location) (start start' : Set Identity) :
    Prop where
  root : s'.reader.root = s.reader.root
  origins : ∀ x ∈ start, x ∈ start'
  outcome : ∀ x, Reached s place start x → s'.outcome (place' x) = s.outcome (place x)
  wanted : ∀ a, s.Wanted a → s'.Wanted a

theorem Carries.reached (carries : Carries s s' place place' start start') {x : Identity}
    (h : Reached s place start x) : Reached s' place' start' x := by
  induction h with
  | start hx hroot => exact .start (carries.origins _ hx) (carries.root ▸ hroot)
  | ancestor hx hr hname hwanted ih =>
    exact .ancestor ih ((carries.outcome _ hx).trans hr) hname (carries.wanted _ hwanted)

/-- A scan of the same artifacts up to the same root that goes on to no more ancestors. -/
structure Stricter (s s' : Scan) : Prop where
  root : s'.reader.root = s.reader.root
  outcome : ∀ l, s'.outcome l = s.outcome l
  wanted : ∀ a, s.Wanted a → s'.Wanted a

theorem Stricter.refl (s : Scan) : s.Stricter s := ⟨rfl, fun _ => rfl, fun _ wanted => wanted⟩

theorem Stricter.carries (stricter : s.Stricter s') (hstart : ∀ x ∈ start, x ∈ start') :
    Carries s s' place place start start' :=
  ⟨stricter.root, hstart, fun _ _ => stricter.outcome _, stricter.wanted⟩

theorem Reached.mono (stricter : s.Stricter s') (hstart : ∀ x ∈ start, x ∈ start') {x : Identity}
    (h : Reached s place start x) : Reached s' place start' x :=
  (stricter.carries hstart).reached h

/-- What is reached from two sets together is reached from one of them alone. -/
theorem reached_union_iff {x : Identity} :
    Reached s place (start ∪ start') x ↔ Reached s place start x ∨ Reached s place start' x := by
  constructor
  · intro h
    induction h with
    | start hx hroot =>
      rcases hx with hx | hx
      · exact .inl (.start hx hroot)
      · exact .inr (.start hx hroot)
    | ancestor _ hr hname hwanted ih =>
      rcases ih with ih | ih
      · exact .inl (.ancestor ih hr hname hwanted)
      · exact .inr (.ancestor ih hr hname hwanted)
  · rintro (h | h)
    · exact h.mono (.refl s) fun _ hx => .inl hx
    · exact h.mono (.refl s) fun _ hx => .inr hx

/-- A reached identity has a record that names an ancestor. -/
def Names (s : Scan) (place : Identity → Location) (start : Set Identity) (x a : String) : Prop :=
  ∃ r, (Reached s place start ⟨x⟩ ∧ s.outcome (place ⟨x⟩) = .done r) ∧ a ∈ r.ancestors

theorem Carries.names (carries : Carries s s' place place' start start') {x a : String}
    (h : s.Names place start x a) : s'.Names place' start' x a := by
  obtain ⟨r, ⟨hx, hr⟩, ha⟩ := h
  exact ⟨r, ⟨carries.reached hx, (carries.outcome _ hx).trans hr⟩, ha⟩

theorem Names.mono (stricter : s.Stricter s') (hstart : ∀ x ∈ start, x ∈ start') {x a : String}
    (h : s.Names place start x a) : s'.Names place start' x a :=
  (stricter.carries hstart).names h

/-- If whatever is reached from one set would also be met as an ancestor, then its chains of records
can be followed from a starting set that reaches no more than their first identities. -/
theorem chain_of_reached (wanted : ∀ y, Reached s place start y → s.Wanted y) {x target : String}
    (chain : Relation.TransGen (s.Names place start) x target)
    (hx : Reached s place start' ⟨x⟩) : Relation.TransGen (s.Names place start') x target := by
  induction chain using Relation.TransGen.head_induction_on with
  | single step =>
    obtain ⟨r, ⟨_, hr⟩, ha⟩ := step
    exact .single ⟨r, ⟨hx, hr⟩, ha⟩
  | head step rest ih =>
    obtain ⟨r, ⟨_, hr⟩, ha⟩ := step
    -- the next identity has a record itself, so that the first scan has reached it
    obtain ⟨_, ⟨_, ⟨hnext, _⟩, _⟩, _⟩ := Relation.TransGen.head'_iff.mp rest
    have hreached := Reached.ancestor hx hr ha (wanted _ hnext)
    exact .head ⟨r, ⟨hx, hr⟩, ha⟩ (ih hreached)

end TypeDiscovery.Scan
