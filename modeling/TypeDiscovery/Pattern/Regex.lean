import TypeDiscovery.Pattern.Engine
import TypeDiscovery.Pattern.Matcher
import TypeDiscovery.Pattern.Size
import TypeDiscovery.Unicode.CaseFolding
import TypeDiscovery.Unicode.Lookup

/-!
# The engine of this library

Programs that are run match patterns by the matcher of this library and by its tables of characters.
A text is refused if it denotes no expression, or if the machine for it would be too large.
-/

namespace TypeDiscovery.Pattern

instance : UnicodeTables where
  digit := Unicode.isDigit
  space := Text.isBlank
  word := Unicode.isWord
  property?
    | .named name => Unicode.setNamed? name
    | .valued name value => Unicode.setValued? name value
  caseClass := Unicode.caseClass

/-- The test that a text compiles to. -/
def compileText (text : String) : Except Refusal (String → Bool) :=
  match Tree.ofText? text.toList with
  | none => .error .malformed
  | some tree =>
    match Expr.ofTree? .default tree with
    | none => .error .malformed
    | some (e, _) =>
      if tree.isTooLarge then .error .tooLarge
      else .ok fun subject => e.isMatch subject.toList

instance : Engine := ⟨compileText⟩

end TypeDiscovery.Pattern
