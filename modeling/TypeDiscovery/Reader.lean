import TypeDiscovery.Outcome
import TypeDiscovery.Record

/-!
# Readers of artifact headers
-/

namespace TypeDiscovery

/-- A parser for the headers of one artifact format. The root type ends every chain of ancestors
and is never scanned itself. -/
structure Reader where
  root : String
  read : List UInt8 → Outcome Record

end TypeDiscovery
