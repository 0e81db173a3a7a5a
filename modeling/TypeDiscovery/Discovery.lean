import TypeDiscovery.Pattern.Regex
import TypeDiscovery.Query.Resources

/-!
# Discovery

A scope, a reader and settings brought together, from which finders are made. Every finder
evaluates on a scan cache of its own.
-/

namespace TypeDiscovery

structure Discovery where
  scope : Scope
  reader : Reader
  config : Config

namespace Discovery

def new (scope : Scope) (reader : Reader) : Discovery := ⟨scope, reader, .default⟩

def withConfig (d : Discovery) (config : Config) : Discovery := { d with config }

/-- Types from which a chain of ancestors leads to the target. -/
def subtypesOf (d : Discovery) (target : String) : TypeFinder :=
  .new target d.scope d.reader d.config

/-- All types; they can be asked for by markers only. -/
def types (d : Discovery) : TypeFinder := d.subtypesOf d.reader.root

def resources (d : Discovery) : ResourceFinder := .new d.scope

end Discovery

end TypeDiscovery
