import Readiness.Bench
import Readiness.Cluster.Connect
import Readiness.EventFilter
import Readiness.Json.Reader
import Readiness.LogSink
import Readiness.Proofs.Bench.Phases
import Readiness.Proofs.Manifest.Order
import Readiness.Proofs.Ports.Binding
import Readiness.Proofs.Ports.Leases
import Readiness.Proofs.Selection.EmptyLists
import Readiness.Proofs.Tunnel.Closing
import Readiness.Proofs.Tunnel.Failing
import Readiness.Proofs.Tunnel.Holders
import Readiness.Proofs.Tunnel.Isolation
import Readiness.Proofs.Tunnel.Probing
import Readiness.Proofs.Tunnel.Reports
import Readiness.Proofs.Tunnel.Stopping
import Readiness.Proofs.Wait.Detection
import Readiness.Proofs.Wait.Diagnosis
import Readiness.Proofs.Wait.Presence
import Readiness.Proofs.Wait.Range
import Readiness.Proofs.Yaml.Trees
import Readiness.Proofs.Yaml.Conversion
import Readiness.Proofs.Yaml.Keys
import Readiness.Proofs.Binary64.Rounding
import Readiness.Proofs.Yaml.Literals
import Readiness.Proofs.Yaml.Reals
import Readiness.Proofs.Settings.Sources
import Readiness.Proofs.Status.Entries
import Readiness.Proofs.Status.Fields
import Readiness.Proofs.Settings.Edits
import Readiness.Proofs.Bench.Credentials
import Readiness.Proofs.Tunnel.Attribution
import Readiness.Proofs.Tunnel.Forwarding
