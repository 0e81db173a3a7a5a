import TypeDiscovery.Error
import TypeDiscovery.Location

/-!
# Events worth noting

What a listing, a scan or a query tells about its course. Each event has a level, the part of the
program that it comes from, and a message.
-/

namespace TypeDiscovery

inductive Level where
  | debug
  | info
  | warn
  deriving DecidableEq, Inhabited

/-- The counts of one scan. -/
structure Tally where
  parsed : Nat
  unreadable : Nat
  excluded : Nat
  failed : Nat
  deriving DecidableEq, Inhabited

def Tally.zero : Tally := ⟨0, 0, 0, 0⟩

inductive Event where
  | entryMissing (entry : Path)
  | archiveSkipped (archive : Path) (scope reason : String)
  | archiveListed (archive : Path) (classes resources : Nat)
  | locateFailed (identity : Identity) (scope reason : String)
  | unresolved (identity : Identity)
  | enumerated (candidates entries : Nat) (scope : String) (missing : Nat)
  | candidateSkipped (identity : Identity) (error : DiscoveryError)
  | candidatePanicked (identity : Identity)
  | ancestorInvisible (identity : Identity) (scope : String)
  | ancestorSkipped (identity : Identity) (error : DiscoveryError)
  | ancestorPanicked (identity : Identity)
  | scanned (scope : String) (candidates : Nat) (tally : Tally)
  | evaluating (query : String)
  | matchUnresolved (identity : Identity)
  | queried (target scope : String) (handles records : Nat)
  | resourcesFound (scope : String) (found resources : Nat)
  deriving DecidableEq

namespace Event

def level : Event → Level
  | archiveSkipped .. | candidatePanicked _ | ancestorPanicked _ => .warn
  | scanned .. | queried .. => .info
  | _ => .debug

/-- The part of the program that an event comes from. -/
def source : Event → String
  | entryMissing _ | archiveSkipped .. | archiveListed .. | locateFailed .. =>
    "typescout_java::classpath"
  | unresolved _ | enumerated .. => "typescout_core::scan::enumerator"
  | candidateSkipped .. | candidatePanicked _ | ancestorInvisible .. | ancestorSkipped ..
  | ancestorPanicked _ | scanned .. => "typescout_core::scan::scanner"
  | evaluating _ | matchUnresolved _ | queried .. => "typescout_core::query::finder"
  | resourcesFound .. => "typescout_core::query::resource"

def message : Event → String
  | entryMissing entry => s!"Classpath entry {entry.text} does not exist, skipping"
  | archiveSkipped archive scope reason =>
    s!"Skipping unreadable archive {archive.text} on {scope}: {reason}"
  | archiveListed archive classes resources =>
    s!"Listed {classes} classes and {resources} resources in {archive.text}"
  | locateFailed id scope reason => s!"Cannot locate {id.name} on {scope}: {reason}"
  | unresolved id => s!"No location for {id.name}, skipping"
  | enumerated candidates entries scope missing =>
    s!"Enumerated {candidates} of {entries} artifacts in scope {scope} ({missing} unresolved)"
  | candidateSkipped id error => s!"Skipping {id.name}: {error.message}"
  | candidatePanicked id => s!"Work item for {id.name} panicked; continuing scan"
  | ancestorInvisible id scope => s!"Ancestor {id.name} is not visible in {scope}"
  | ancestorSkipped id error => s!"Skipping ancestor {id.name}: {error.message}"
  | ancestorPanicked id => s!"Reading ancestor {id.name} panicked; skipping it"
  | scanned scope candidates t =>
    s!"Scan of {scope} complete: {candidates} candidates, {t.parsed} parsed, " ++
      s!"{t.unreadable} unreadable, {t.excluded} excluded, {t.failed} failed"
  | evaluating query => s!"Evaluating {query}"
  | matchUnresolved id => (DiscoveryError.typeResolution id).message
  | queried target scope handles records =>
    s!"Query for {target} in {scope} matched {handles} of {records} scanned artifacts"
  | resourcesFound scope found resources =>
    s!"Resource lookup in {scope} matched {found} of {resources} resources"

end Event

end TypeDiscovery
