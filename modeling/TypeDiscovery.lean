import TypeDiscovery.Json.Decode
import TypeDiscovery.LineHeader
import TypeDiscovery.Logging
import TypeDiscovery.Proofs.Cache.WriteOnce
import TypeDiscovery.Proofs.ClassFile.Invisible
import TypeDiscovery.Proofs.ClassPath.Appending
import TypeDiscovery.Proofs.ClassPath.ByteFolding
import TypeDiscovery.Proofs.ClassPath.Inert
import TypeDiscovery.Proofs.ClassPath.Packing
import TypeDiscovery.Proofs.Identity.Naming
import TypeDiscovery.Proofs.Query.Lookups
import TypeDiscovery.Proofs.Query.Markers
import TypeDiscovery.Proofs.Query.Rearranging
import TypeDiscovery.Proofs.Query.Undisturbed
import TypeDiscovery.Proofs.Query.Widening
import TypeDiscovery.Proofs.Scan.Confluence
import TypeDiscovery.Proofs.Scan.Origins
import TypeDiscovery.Proofs.Scope.Stored
import TypeDiscovery.Scope.Override
