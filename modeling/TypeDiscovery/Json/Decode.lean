import TypeDiscovery.Config
import TypeDiscovery.Handle
import TypeDiscovery.Json.Value
import TypeDiscovery.Record

/-!
# Decoding domain values from JSON

A structure is an object, whose unknown members are passed over and whose known ones must not
repeat, or an array of its fields in order. A location is an object with one member that names
its kind. Settings may leave fields out.
-/

namespace TypeDiscovery.Json

def Value.text? : Value → Option String
  | .text (some s) => some s
  | _ => none

def Value.bool? : Value → Option Bool
  | .bool b => some b
  | _ => none

def Value.texts? : Value → Option (List String)
  | .array items => items.mapM Value.text?
  | _ => none

/-- A whole number of at most 64 bits, written without sign, fraction and exponent. -/
def Value.natural? : Value → Option Nat
  | .number literal =>
    match literal.toNat? with
    | some n => if n < 0x10000000000000000 then some n else none
    | none => none
  | _ => none

def Value.optionalNatural? : Value → Option (Option Nat)
  | .null => some none
  | v => v.natural?.map some

/-- The values of the named fields of an object in the order of the names; none when a key is
malformed or a field repeats. -/
def fields? (names : List String) (members : List (Option String × Value)) :
    Option (List (Option Value)) := do
  let keyed ← members.mapM fun (key, value) => key.map fun key => (key, value)
  names.mapM fun name =>
    match keyed.filter (·.1 == name) with
    | [] => some none
    | [(_, value)] => some (some value)
    | _ => none

/-- The two fields of a structure. -/
def pair? (first second : String) : Value → Option (Value × Value)
  | .array [a, b] => some (a, b)
  | .object members =>
    match fields? [first, second] members with
    | some [some a, some b] => some (a, b)
    | _ => none
  | _ => none

def location? : Value → Option Location
  | .object [(some "File", value)] => value.text?.map fun path => .file ⟨path⟩
  | .object [(some "Memory", value)] => value.text?.map .memory
  | .object [(some "Archive", value)] => do
    let (archive, entry) ← pair? "archive" "entry" value
    return .archive ⟨← archive.text?⟩ (← entry.text?)
  | _ => none

def handle? (value : Value) : Option Handle := do
  let (identity, location) ← pair? "identity" "location" value
  return ⟨⟨← identity.text?⟩, ← location? location⟩

def handles? : Value → Option (List Handle)
  | .array items => items.mapM handle?
  | _ => none

def record? (value : Value) : Option Record := do
  let (ancestors, markers) ← pair? "ancestors" "markers" value
  return .ofLists (← ancestors.texts?) (← markers.texts?)

/-- A field that may be missing. -/
def orDefault {α : Type} (fallback : α) (decode : Value → Option α) : Option Value → Option α
  | none => some fallback
  | some value => decode value

def configOfFields? : List (Option Value) → Option Config
  | [threads, nested, filter] => do
    return {
      workerThreads := ← orDefault Config.default.workerThreads Value.optionalNatural? threads
      includeNested := ← orDefault Config.default.includeNested Value.bool? nested
      filterAncestors := ← orDefault Config.default.filterAncestors Value.bool? filter }
  | _ => none

def config? : Value → Option Config
  | .array items =>
    if items.length ≤ 3 then
      configOfFields? (items.map some ++ List.replicate (3 - items.length) none)
    else none
  | .object members => do
    configOfFields? (← fields? ["worker_threads", "include_nested", "filter_ancestors"] members)
  | _ => none

end TypeDiscovery.Json
