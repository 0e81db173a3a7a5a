import TypeDiscovery.Keyed
import TypeDiscovery.Scope

/-!
# Scopes held in memory

Artifacts and resources as bytes under keys. Artifacts are listed in the order in which their
identities first came; every resource has a key of its own.
-/

namespace TypeDiscovery

structure MemoryScope where
  name : String
  artifacts : List (Identity × Option Location)
  resources : List Resource
  stored : List (String × List UInt8)

namespace MemoryScope

def empty (name : String) : MemoryScope := ⟨name, [], [], []⟩

/-- Adds an artifact stored under a given key. -/
def withArtifactAt (s : MemoryScope) (id : Identity) (key : String) (bytes : List UInt8) :
    MemoryScope :=
  { s with
    artifacts := Keyed.put s.artifacts id (some (.memory key))
    stored := Keyed.put s.stored key bytes }

/-- Adds an artifact stored under its own name. -/
def withArtifact (s : MemoryScope) (id : Identity) (bytes : List UInt8) : MemoryScope :=
  s.withArtifactAt id id.name bytes

/-- Lists an artifact that has no location. -/
def withUnresolved (s : MemoryScope) (id : Identity) : MemoryScope :=
  { s with artifacts := Keyed.put s.artifacts id none }

/-- The keys that a name may be stored under: the name itself and then numbered forms of it. -/
def numberedKey (name : String) : Nat → String
  | 0 => name
  | n + 1 => s!"{name}#{n + 1}"

/-- The first of a name's keys that is not taken. Among one more than there are taken keys, one
is free. -/
def freshKey (taken : List String) (name : String) : String :=
  (((List.range (taken.length + 1)).map (numberedKey name)).find? (· ∉ taken)).getD name

/-- Adds a resource stored under its name, or a numbered form of it if that is taken. -/
def withResource (s : MemoryScope) (name : String) (bytes : List UInt8) : MemoryScope :=
  let key := freshKey (Keyed.keys s.stored) name
  { s with
    resources := s.resources ++ [⟨name, .memory key⟩]
    stored := Keyed.put s.stored key bytes }

def entries (s : MemoryScope) : List Entry := s.artifacts.map fun (id, l) => ⟨id, l⟩

def locate (s : MemoryScope) (id : Identity) : Option Location :=
  (Keyed.get? s.artifacts id).join

def fetch (s : MemoryScope) : Location → Outcome (List UInt8)
  | .memory key =>
    match Keyed.get? s.stored key with
    | some bytes => .done bytes
    | none => .failed s!"no bytes stored under {key}"
  | l => .failed s!"{l.display} is not held by memory scope {s.name}"

theorem mem_keys_of_locate {s : MemoryScope} {id : Identity} (h : (s.locate id).isSome = true) :
    id ∈ Keyed.keys s.artifacts := by
  apply Keyed.mem_keys_of_get?_isSome
  unfold locate at h
  cases hg : Keyed.get? s.artifacts id <;> simp_all

def toScope (s : MemoryScope) : Scope where
  name := s.name
  artifacts := ⟨.ok s.entries, []⟩
  resources := ⟨.ok s.resources, []⟩
  locate := s.locate
  fetch := s.fetch
  visible := Keyed.keys s.artifacts
  mem_visible _ h := mem_keys_of_locate h

end MemoryScope

end TypeDiscovery
