import TypeDiscovery.Identity

/-!
# Errors of discovery

Two kinds concern a single artifact and are recovered from during a scan; the others end a query.
-/

namespace TypeDiscovery

inductive DiscoveryError where
  /-- The bytes of an artifact are missing or malformed. -/
  | artifactUnreadable (identity : Identity) (reason : String)
  /-- A discovered identity has no location from which it can be loaded. -/
  | typeResolution (identity : Identity)
  | invalidQuery (reason : String)
  /-- A pattern that does not compile. -/
  | invalidPattern (pattern : String)
  /-- The scope could not be listed at all. -/
  | enumeration (reason : String)
  | internal (reason : String)
  deriving DecidableEq

namespace DiscoveryError

/-- Whether the failure concerns one artifact only. -/
def isLocal : DiscoveryError → Bool
  | artifactUnreadable .. | typeResolution _ => true
  | _ => false

def message : DiscoveryError → String
  | artifactUnreadable id reason => s!"artifact {id.name} is unreadable: {reason}"
  | typeResolution id => s!"type {id.name} could not be resolved in scope"
  | invalidQuery reason => s!"invalid query: {reason}"
  | invalidPattern pattern => s!"invalid pattern `{pattern}`"
  | enumeration reason => s!"enumeration failed: {reason}"
  | internal reason => s!"internal error: {reason}"

end DiscoveryError

end TypeDiscovery
