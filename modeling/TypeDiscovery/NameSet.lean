/-!
# Sets of names

A set of names is its increasing list, so equal sets are equal values. `mem_insert` and
`mem_ofList` say which names a built set holds.
-/

namespace TypeDiscovery

/-- A finite set of names in increasing order. -/
structure NameSet where
  toList : List String
  increasing : toList.Pairwise (· < ·)
  deriving DecidableEq

namespace NameSet

instance : Membership String NameSet := ⟨fun s name => name ∈ s.toList⟩

instance (name : String) (s : NameSet) : Decidable (name ∈ s) :=
  inferInstanceAs (Decidable (name ∈ s.toList))

theorem mem_toList {s : NameSet} {name : String} : name ∈ s.toList ↔ name ∈ s := Iff.rfl

def empty : NameSet := ⟨[], .nil⟩

instance : Inhabited NameSet := ⟨empty⟩

theorem not_mem_empty {name : String} : ¬ name ∈ empty := List.not_mem_nil

/-- Insertion into an increasing list. -/
def insertList (name : String) : List String → List String
  | [] => [name]
  | other :: rest =>
    if name < other then name :: other :: rest
    else if other < name then other :: insertList name rest
    else other :: rest

theorem mem_insertList {name x : String} {names : List String} :
    x ∈ insertList name names ↔ x = name ∨ x ∈ names := by
  induction names with
  | nil => simp [insertList]
  | cons other rest ih =>
    simp only [insertList]
    split
    · simp
    · split
      · simp only [List.mem_cons, ih]
        grind
      · rename_i h1 h2
        have : name = other :=
          String.le_antisymm (String.not_lt.mp h2) (String.not_lt.mp h1)
        simp [this]

theorem pairwise_insertList {name : String} {names : List String}
    (h : names.Pairwise (· < ·)) : (insertList name names).Pairwise (· < ·) := by
  induction names with
  | nil => simp [insertList]
  | cons other rest ih =>
    obtain ⟨hother, hrest⟩ := List.pairwise_cons.mp h
    simp only [insertList]
    split
    · rename_i hlt
      refine List.pairwise_cons.mpr ⟨?_, h⟩
      intro x hx
      rcases List.mem_cons.mp hx with rfl | hx
      · exact hlt
      · exact String.lt_trans hlt (hother x hx)
    · split
      · rename_i hlt
        refine List.pairwise_cons.mpr ⟨?_, ih hrest⟩
        intro x hx
        rcases mem_insertList.mp hx with rfl | hx
        · exact hlt
        · exact hother x hx
      · exact h

def insert (s : NameSet) (name : String) : NameSet :=
  ⟨insertList name s.toList, pairwise_insertList s.increasing⟩

theorem mem_insert {s : NameSet} {name x : String} : x ∈ s.insert name ↔ x = name ∨ x ∈ s :=
  mem_insertList

def ofList (names : List String) : NameSet := names.foldl insert empty

theorem mem_foldl_insert {names : List String} {s : NameSet} {x : String} :
    x ∈ names.foldl insert s ↔ x ∈ s ∨ x ∈ names := by
  induction names generalizing s with
  | nil => simp
  | cons name rest ih =>
    simp only [List.foldl_cons, ih, mem_insert, List.mem_cons]
    grind

theorem mem_ofList {names : List String} {x : String} : x ∈ ofList names ↔ x ∈ names := by
  simp [ofList, mem_foldl_insert, not_mem_empty]

def size (s : NameSet) : Nat := s.toList.length

end NameSet

end TypeDiscovery
