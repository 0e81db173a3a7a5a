import TypeDiscovery.Text.Quoted

/-!
# Scan settings
-/

namespace TypeDiscovery

/-- Settings of one scan session. -/
structure Config where
  /-- Requested number of workers; the machine decides when there is none. -/
  workerThreads : Option Nat
  /-- Whether nested units are candidates. They are scanned as ancestors either way. -/
  includeNested : Bool
  /-- Whether location patterns also restrict the ancestors found on the way. -/
  filterAncestors : Bool
  deriving DecidableEq

namespace Config

def default : Config := ⟨none, false, true⟩

instance : Inhabited Config := ⟨default⟩

def withWorkerThreads (config : Config) (threads : Nat) : Config :=
  { config with workerThreads := some threads }

def withNested (config : Config) (nested : Bool) : Config :=
  { config with includeNested := nested }

/-- The effective number of workers, never zero, on a machine that offers `available` of them. -/
def workers (config : Config) (available : Nat) : Nat :=
  max (config.workerThreads.getD available) 1

/-- The debug form of the settings. -/
def debug (config : Config) : String :=
  Text.Quoted.record "ScanConfig"
    [("worker_threads", Text.Quoted.option config.workerThreads),
      ("include_nested", Text.Quoted.bool config.includeNested),
      ("filter_ancestors", Text.Quoted.bool config.filterAncestors)]

end Config

end TypeDiscovery
