import TypeDiscovery.Archive.Zip
import TypeDiscovery.ClassPath
import TypeDiscovery.Discovery

/-!
# Class paths as scopes

A class path over a file system that stands still is a scope. A type query lists the class path
before it locates or opens anything, so the scope locates by the listing that it gives itself; if
that fails, by the listing before.
-/

namespace TypeDiscovery.ClassPath

variable [ArchiveLibrary]

/-- The scope that a class path is as long as the file system does not change. -/
def view (c : ClassPath) (fs : FileSystem) : Scope :=
  let (artifacts, listed) := c.artifacts fs
  { name := c.name
    artifacts
    resources := (c.resources fs).1
    locate := listed.located?
    fetch := fun l => (listed.fetch fs l).1
    visible := match listed.snapshot with
      | some s => s.index.keys
      | none => []
    mem_visible := fun id h => by
      cases hs : listed.snapshot with
      | none => simp [located?, hs] at h
      | some s =>
        rw [located?, hs] at h
        exact Std.ExtTreeMap.mem_keys.mpr (Std.ExtTreeMap.mem_iff_isSome_getElem?.mpr h) }

variable [Pattern.Engine]

/-- Evaluates a type query on a class path. If it came to list the class path, its classes are
listed anew. -/
def findTypes (c : ClassPath) (fs : FileSystem) (f : TypeFinder) :
    Report (List Handle) × ClassPath :=
  let report := (f.inScope (c.view fs)).find
  (report, if report.trace.contains .listed then (c.artifacts fs).2 else c)

/-- Evaluates a resource lookup on a class path. -/
def findResources (c : ClassPath) (fs : FileSystem) (f : ResourceFinder) (style : MatchStyle) :
    Report (List Location) × ClassPath :=
  let report := (f.inScope (c.view fs)).evaluate style
  (report, if report.trace.contains .resourcesListed then (c.resources fs).2 else c)

end TypeDiscovery.ClassPath
