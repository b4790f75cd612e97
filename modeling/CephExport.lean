import CephExport.KeyMap
import CephExport.Number.Double
import CephExport.Number.Extended
import CephExport.Number.Numeral
import CephExport.Json.Basic
import CephExport.Json.Printer
import CephExport.Json.Parser
import CephExport.Json.Pointer
import CephExport.Json.Codec
import CephExport.Text.Blank
import CephExport.Text.Escape
import CephExport.Text.Quoted
import CephExport.Time.Timestamp
import CephExport.Kube.Metadata
import CephExport.Kube.Service
import CephExport.Kube.Schema
import CephExport.Rook.Spec
import CephExport.Cluster.Basic
import CephExport.Cluster.Definition
import CephExport.Settings.Basic
import CephExport.Settings.Value
import CephExport.Settings.Variable
import CephExport.Settings.Extract
import CephExport.Settings.Load
import CephExport.Toml.Document
import CephExport.Yaml.Document
import CephExport.Yaml.Printer
import CephExport.Naming
import CephExport.Logging.Filter
import CephExport.Event
import CephExport.Resource.Drift
import CephExport.Reconcile.Cluster
import CephExport.Store.Memory
import CephExport.Http.Server
import CephExport.CommandLine
import CephExport.Program
import CephExport.Main
import CephExport.Proofs.Pass.Discipline
import CephExport.Proofs.Store.Contents
import CephExport.Proofs.Resource.Merge
import CephExport.Proofs.Pass.Resource
import CephExport.Proofs.Resource.Parent
import CephExport.Proofs.Pass.Orchestrator
import CephExport.Proofs.Fleet.Basic
import CephExport.Proofs.Fleet.LostUpdate
import CephExport.Proofs.Store.Knowledge
import CephExport.Proofs.Session.Basic
import CephExport.Proofs.Session.DependencyOrder
import CephExport.Proofs.Pass.Cluster
import CephExport.Proofs.Store.Server
import CephExport.Proofs.Session.Orphans
import CephExport.Proofs.Pass.History
import CephExport.Proofs.Pass.Course
import CephExport.Proofs.Pass.Reconciliation
import CephExport.Proofs.Pass.FailStop
import CephExport.Proofs.Pass.Phases
import CephExport.Proofs.Fleet.Upkeep
import CephExport.Proofs.Fleet.Convergence
import CephExport.Proofs.Session.Quiescence
import CephExport.Proofs.Session.Withdrawal
import CephExport.Proofs.Resource.Naming
import CephExport.Proofs.Session.Forecast
import CephExport.Proofs.Session.Isolation
import CephExport.Proofs.Http.Absence
import CephExport.Proofs.Json.Codec
import CephExport.Proofs.Json.Plain
import CephExport.Proofs.Json.Text
import CephExport.Proofs.Kube.Codec
import CephExport.Proofs.Resource.RoundTrip
import CephExport.Proofs.Http.Exchange
import CephExport.Proofs.Pass.Provision
import CephExport.Proofs.Http.Steadiness
import CephExport.Proofs.Json.Frame
import CephExport.Proofs.Kube.Frame
import CephExport.Proofs.Resource.Frame
import CephExport.Proofs.Http.Update
import CephExport.Proofs.Resource.Canonical
import CephExport.Proofs.Cluster.Formats
import CephExport.Proofs.Resource.Addressable
import CephExport.Proofs.Resource.Subdomain
import CephExport.Proofs.Resource.Legality
import CephExport.Proofs.Pass.Addressing
import CephExport.Proofs.Session.HeadlessService
import CephExport.Proofs.Pass.Requeue
import CephExport.Proofs.Pass.Errands
import CephExport.Proofs.Resource.Inputs
import CephExport.Proofs.Pass.Conduct
import CephExport.Proofs.Pass.Audit
import CephExport.Proofs.Settings.Overlay
import CephExport.Proofs.Settings.Readers
import CephExport.Proofs.Settings.Fields
import CephExport.Proofs.Settings.Layering
import CephExport.Proofs.Time.Calendar
