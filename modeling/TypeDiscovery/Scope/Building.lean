import TypeDiscovery.Scope.Memory

/-!
# Putting scopes together

A scope held in memory is put together call by call. Artifacts and resources share one set of keys:
a resource is given a key that is not taken, an artifact the key that the call names, and if that
is taken, the bytes under it are replaced.
-/

namespace TypeDiscovery.MemoryScope

/-- A call by which a scope is put together. -/
inductive Call where
  | artifact (id : Identity) (bytes : List UInt8)
  | artifactAt (id : Identity) (key : String) (bytes : List UInt8)
  | unresolved (id : Identity)
  | resource (name : String) (bytes : List UInt8)

def call (s : MemoryScope) : Call → MemoryScope
  | .artifact id bytes => s.withArtifact id bytes
  | .artifactAt id key bytes => s.withArtifactAt id key bytes
  | .unresolved id => s.withUnresolved id
  | .resource name bytes => s.withResource name bytes

/-- The scope after some calls. -/
def after (s : MemoryScope) (calls : List Call) : MemoryScope := calls.foldl call s

namespace Call

/-- The name of the resource that a call adds. -/
def resource? : Call → Option String
  | resource name _ => some name
  | _ => none

/-- The bytes that a call stores at a location for an artifact. -/
def bytesAt? (l : Location) : Call → Option (List UInt8)
  | artifact id bytes => if l = .memory id.name then some bytes else none
  | artifactAt _ key bytes => if l = .memory key then some bytes else none
  | _ => none

end Call

end TypeDiscovery.MemoryScope
