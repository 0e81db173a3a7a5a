import TypeDiscovery.Event
import TypeDiscovery.Text.Blank
import TypeDiscovery.Text.Split
import TypeDiscovery.Unicode.Property

/-!
# Log filters

A filter is written as directives between commas: a level for everything, or a target with a level
or without one. A target is the beginning of the names of the sources that it concerns; of the
directives that concern a source, the one with the longest target decides.
-/

namespace TypeDiscovery.Logging

open Text

/-- How much of what is told is let through, from nothing to everything. -/
abbrev Threshold := Nat

def Threshold.off : Threshold := 0
def Threshold.error : Threshold := 1
def Threshold.info : Threshold := 3
def Threshold.everything : Threshold := 5

/-- The least threshold that lets a level through. -/
def requiredBy : Level → Threshold
  | .warn => 2
  | .info => 3
  | .debug => 4

def thresholdNames : List (String × Threshold) :=
  [("off", 0), ("error", 1), ("warn", 2), ("info", 3), ("debug", 4), ("trace", 5), ("0", 0),
    ("1", 1), ("2", 2), ("3", 3), ("4", 4), ("5", 5)]

/-- A threshold by its name, in either case, or its digit. -/
def threshold? (text : List Char) : Option Threshold :=
  (thresholdNames.find? fun (name, _) => sameUpToAsciiCase name.toList text).map (·.2)

/-- One directive. A directive for spans concerns no event outside of them. -/
structure Directive where
  target : List Char
  forSpans : Bool
  threshold : Threshold
  deriving DecidableEq

def isTargetChar (c : Char) : Bool := Unicode.isWord c || c == ':' || c == '-'

/-- A target, or a span in brackets, or the one after the other. -/
def subject? (text : List Char) : Option (List Char × Bool) :=
  let target := text.takeWhile isTargetChar
  match text.drop target.length with
  | [] => if target.isEmpty then none else some (target, false)
  | '[' :: rest =>
    if rest.getLast? = some ']' && !rest.dropLast.contains ']' then some (target, true) else none
  | _ => none

/-- Reads one directive. Without a level everything of its target is let through. -/
def Directive.ofText? (text : List Char) : Option Directive :=
  match threshold? text with
  | some t => some ⟨[], false, t⟩
  | none =>
    match splitLast? '=' text with
    | none => (subject? text).map fun (target, spans) => ⟨target, spans, .everything⟩
    | some (subject, level) => do
      let (target, spans) ← subject? subject
      let t ← if level.isEmpty then some Threshold.everything else threshold? level
      return ⟨target, spans, t⟩

abbrev Filter := List Directive

namespace Filter

/-- Reads the directives of a text; none if one of them is malformed. -/
def ofText? (text : String) : Option Filter := do
  let directives ← ((segments ',' text.toList).filter (!·.isEmpty)).mapM Directive.ofText?
  return if directives.isEmpty then [⟨[], false, .error⟩] else directives

/-- The filter that a setting asks for; without a well-formed one, from `info` upward. -/
def ofSetting (setting : Option String) : Filter :=
  (setting.bind ofText?).getD [⟨[], false, .info⟩]

/-- The directive that decides for a source: of those with the longest target, the last one. -/
def deciding? (f : Filter) (source : List Char) : Option Directive :=
  (f.filter fun d => !d.forSpans && d.target.isPrefixOf source).foldl (fun best d =>
    match best with
    | some b => if b.target.length ≤ d.target.length then some d else some b
    | none => some d) none

def lets (f : Filter) (e : Event) : Bool :=
  match f.deciding? e.source.toList with
  | some d => requiredBy e.level ≤ d.threshold
  | none => false

end Filter

end TypeDiscovery.Logging
