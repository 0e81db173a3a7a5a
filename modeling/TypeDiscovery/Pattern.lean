import TypeDiscovery.Pattern.Engine
import TypeDiscovery.Error

/-!
# Patterns

A pattern is compiled once for finding a match inside a text and once for matching a whole text.
-/

namespace TypeDiscovery

/-- How a pattern must cover a text. -/
inductive MatchStyle where
  /-- Some stretch of the text matches. -/
  | find
  /-- The whole text matches. -/
  | whole
  deriving DecidableEq, Inhabited

/-- A pattern's text and the two tests that it was compiled to. -/
structure Pattern where
  source : String
  inside : String → Bool
  whole : String → Bool

namespace Pattern

/-- The text of a pattern between anchors. -/
def anchored (source ending : String) : String := "^(?:" ++ source ++ ending ++ ")$"

variable [Engine]

/-- Compiles a pattern alone and between anchors. A comment at its end would take in the closing
anchor, so if it does not compile between anchors, a line feed is put before the closing one. -/
def compile? (source : String) : Option Pattern := do
  let inside ← (Engine.compile source).toOption
  let whole ← ((Engine.compile (anchored source "")).toOption).or
    (Engine.compile (anchored source "\n")).toOption
  return ⟨source, inside, whole⟩

/-- Compiles patterns in order; the first one that does not compile is the error. -/
def compileAll : List String → Except DiscoveryError (List Pattern)
  | [] => .ok []
  | source :: rest =>
    match compile? source with
    | none => .error (.invalidPattern source)
    | some p => (compileAll rest).map (p :: ·)

def isMatch (p : Pattern) (subject : String) : MatchStyle → Bool
  | .find => p.inside subject
  | .whole => p.whole subject

/-- Whether no patterns are given or one of them matches. -/
def anyMatches (patterns : List Pattern) (subject : String) (style : MatchStyle) : Bool :=
  patterns.isEmpty || patterns.any (·.isMatch subject style)

end Pattern

end TypeDiscovery
