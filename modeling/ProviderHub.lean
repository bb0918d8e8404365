import ProviderHub.Cli.Report
import ProviderHub.Cli.Serve
import ProviderHub.Clock
import ProviderHub.Completion.Trim
import ProviderHub.Config.Files
import ProviderHub.Document
import ProviderHub.Main
import ProviderHub.Provider.Commands
import ProviderHub.Provider.Metadata
import ProviderHub.Provider.Providers
import ProviderHub.Provider.Route
import ProviderHub.Rehearsal.Execution
import ProviderHub.Rehearsal.Registrar
import ProviderHub.Rehearsal.Requests
import ProviderHub.Rehearsal.Screenplay
import ProviderHub.Rehearsal.Stage
import ProviderHub.Rehearsal.Terminal
import ProviderHub.Resolution.Binder
import ProviderHub.Rpc.Client
import ProviderHub.Rpc.Frame
import ProviderHub.Session.Capability
import ProviderHub.Session.Host
import ProviderHub.Session.Language
import ProviderHub.Session.Method
import ProviderHub.Session.Params
import ProviderHub.Startup
import ProviderHub.Watch.Engine
import ProviderHub.Proofs.Watch.Containment
import ProviderHub.Proofs.Watch.Roots
import ProviderHub.Proofs.Watch.Flushes
import ProviderHub.Proofs.Watch.Watchers
import ProviderHub.Proofs.Watch.History
import ProviderHub.Proofs.Watch.Coverage
import ProviderHub.Proofs.Watch.Conservation
import ProviderHub.Proofs.Watch.Leak
import ProviderHub.Proofs.Resolution.Eviction
import ProviderHub.Proofs.Lsp.Reading
import ProviderHub.Proofs.Resolution.Numbers
import ProviderHub.Proofs.Resolution.Binding
import ProviderHub.Proofs.Session.Items
import ProviderHub.Proofs.Session.Exchanges
import ProviderHub.Proofs.Session.RoundTrip
import ProviderHub.Proofs.Watch.Antichain
import ProviderHub.Proofs.Watch.References
import ProviderHub.Proofs.Watch.Requests
import ProviderHub.Proofs.Watch.Smooth
import ProviderHub.Proofs.Watch.Handover
import ProviderHub.Proofs.Watch.Backlog
import ProviderHub.Proofs.Watch.Identifiers
import ProviderHub.Proofs.Watch.Refusals
import ProviderHub.Proofs.Resolution.Ownership
import ProviderHub.Proofs.Resolution.Release
import ProviderHub.Proofs.Session.Runs
import ProviderHub.Proofs.Session.Tasks
import ProviderHub.Proofs.Session.Bindings
import ProviderHub.Proofs.Session.Outcomes
import ProviderHub.Proofs.Session.ClosedDocuments
import ProviderHub.Proofs.Session.Commands
import ProviderHub.Proofs.Session.Phases
import ProviderHub.Proofs.Session.Openings
import ProviderHub.Proofs.Session.Gates
import ProviderHub.Proofs.Session.Outgoing
import ProviderHub.Proofs.Session.Docket
import ProviderHub.Proofs.Session.Answers
import ProviderHub.Proofs.Session.Connection
import ProviderHub.Proofs.Session.Lifecycle
import ProviderHub.Proofs.Session.Silence
import ProviderHub.Proofs.Json.Decimals
import ProviderHub.Proofs.Rpc.Correlation
import ProviderHub.Proofs.Json.Scalars
import ProviderHub.Proofs.Json.Exact
import ProviderHub.Proofs.Json.Texts
import ProviderHub.Proofs.Rpc.Frames
import ProviderHub.Proofs.Json.Order
import ProviderHub.Proofs.Lsp.Rereading
import ProviderHub.Proofs.Completion.Table
import ProviderHub.Proofs.Completion.Alignment
import ProviderHub.Proofs.Provider.Matching
import ProviderHub.Proofs.Provider.Errands
import ProviderHub.Proofs.Session.Tables
import ProviderHub.Proofs.Session.Documents
import ProviderHub.Proofs.Session.Inquiries
import ProviderHub.Proofs.Session.FanOut
import ProviderHub.Proofs.Session.Batches
import ProviderHub.Proofs.Session.BestProvider
import ProviderHub.Proofs.Completion.Transpositions
import ProviderHub.Proofs.Text.Columns
import ProviderHub.Proofs.Completion.Words
import ProviderHub.Proofs.Completion.Ranking
import ProviderHub.Proofs.Rpc.Progress
import ProviderHub.Proofs.Rpc.Buffers
import ProviderHub.Proofs.Session.Announcements
import ProviderHub.Proofs.Watch.Endpoints
import ProviderHub.Proofs.Config.Loading
import ProviderHub.Proofs.Provider.Kinds
import ProviderHub.Proofs.Completion.Bounds
import ProviderHub.Proofs.Watch.Paths
