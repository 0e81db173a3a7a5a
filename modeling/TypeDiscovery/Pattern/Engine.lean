import TypeDiscovery.Pattern.Expr
import TypeDiscovery.Pattern.Parser

/-!
# Engines

Patterns are compiled and matched by a library of regular expressions, the engine. It is a
parameter: all that is said of a program that uses it holds of whatever engine it is linked with.
Where what patterns mean matters, the engine has to keep to its documentation (`Documented`): what
it compiles has a match in a subject if the expression that the text denotes spans some stretch of
it, and a text that denotes one is refused for its size at most.
-/

namespace TypeDiscovery.Pattern

/-- The expression that a text denotes, if it is a pattern. -/
def Expr.ofText? [UnicodeTables] (text : List Char) : Option Expr := do
  let tree ← Tree.ofText? text
  let (e, _) ← ofTree? .default tree
  return e

/-- Why an engine refuses a text. -/
inductive Refusal where
  | malformed
  | tooLarge
  deriving DecidableEq

/-- A library of regular expressions. A text compiles to the test whether a subject has a match. -/
class Engine where
  compile : String → Except Refusal (String → Bool)

namespace Engine

/-- What is documented about an engine's treatment of a text. -/
structure Documented [UnicodeTables] [Engine] (text : String) : Prop where
  accepted : ∀ test, compile text = .ok test → ∃ e, Expr.ofText? text.toList = some e ∧
    ∀ subject : String, test subject = true ↔ ∃ i j, e.Spans subject.toList i j
  malformed : compile text = .error .malformed → Expr.ofText? text.toList = none

end Engine

end TypeDiscovery.Pattern
