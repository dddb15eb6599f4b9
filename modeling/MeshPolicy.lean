import MeshPolicy.Authority.Domain
import MeshPolicy.Backoff
import MeshPolicy.CommandLine
import MeshPolicy.Grant.Binding
import MeshPolicy.Grant.Rules
import MeshPolicy.Http.Message
import MeshPolicy.Http.Status
import MeshPolicy.Inclusion
import MeshPolicy.Json.Basic
import MeshPolicy.Json.Printer
import MeshPolicy.Json.Reader
import MeshPolicy.Json.Record
import MeshPolicy.LiveIndex
import MeshPolicy.Log
import MeshPolicy.Main
import MeshPolicy.Manager
import MeshPolicy.Metrics.Caches
import MeshPolicy.Metrics.Counter
import MeshPolicy.Metrics.Exposition
import MeshPolicy.Metrics.Passes
import MeshPolicy.Naming
import MeshPolicy.Pass.Plan
import MeshPolicy.Pass.Report
import MeshPolicy.Pass.Run
import MeshPolicy.Pass.Wanted
import MeshPolicy.Resource.Enforcement
import MeshPolicy.Resource.Kind
import MeshPolicy.Resource.Metadata
import MeshPolicy.Resource.Object
import MeshPolicy.Resource.ObjectId
import MeshPolicy.Resource.RoleBinding
import MeshPolicy.Resource.ServiceRole
import MeshPolicy.Resource.SignedDomain
import MeshPolicy.Signal
import MeshPolicy.Simulation.Basic
import MeshPolicy.Simulation.Cluster
import MeshPolicy.Simulation.Step
import MeshPolicy.Simulation.Watch
import MeshPolicy.Sorted.List
import MeshPolicy.Sorted.Map
import MeshPolicy.Store.Basic
import MeshPolicy.Store.Disturbed
import MeshPolicy.Store.Error
import MeshPolicy.Store.Memory
import MeshPolicy.Store.Remote
import MeshPolicy.Text.Blank
import MeshPolicy.Text.Decimal
import MeshPolicy.Text.Quoted
import MeshPolicy.Text.Split
import MeshPolicy.Text.Uppercase
import MeshPolicy.Text.Visible
import MeshPolicy.Watch.Domains
import MeshPolicy.Watch.Gate
import MeshPolicy.Watch.Namespaces
import MeshPolicy.Watch.Reaction
import MeshPolicy.Watch.Services
import MeshPolicy.Worker.Loop
import MeshPolicy.Worker.Timed
import MeshPolicy.Proofs.Json.Record
import MeshPolicy.Proofs.Resource.Fields
import MeshPolicy.Proofs.LiveIndex.Claims
import MeshPolicy.Proofs.Naming.ServiceRoles
import MeshPolicy.Proofs.Store.Contract
import MeshPolicy.Proofs.Store.Recording
import MeshPolicy.Proofs.Store.Versions
import MeshPolicy.Proofs.Store.Contested
import MeshPolicy.Proofs.Pass.Wanted
import MeshPolicy.Proofs.Pass.Requests
import MeshPolicy.Proofs.Pass.Convergence
import MeshPolicy.Proofs.Pass.Sent
import MeshPolicy.Proofs.Pass.Shielding
import MeshPolicy.Proofs.Grant.Access
import MeshPolicy.Proofs.Grant.Subjects
import MeshPolicy.Proofs.Grant.Canonical
import MeshPolicy.Proofs.Grant.Changes
import MeshPolicy.Proofs.Pass.Idempotence
import MeshPolicy.Proofs.Pass.Listing
import MeshPolicy.Proofs.Pass.Sweep
import MeshPolicy.Proofs.Pass.Tenants
import MeshPolicy.Proofs.Pass.Interleaving
import MeshPolicy.Proofs.Pass.Recording
import MeshPolicy.Proofs.Pass.LostUpdates
import MeshPolicy.Proofs.Pass.Touches
import MeshPolicy.Proofs.Inclusion.Convergence
import MeshPolicy.Proofs.Inclusion.WriteBack
import MeshPolicy.Proofs.Inclusion.Edits
import MeshPolicy.Proofs.Text.Spelling
import MeshPolicy.Proofs.Worker.Pokes
import MeshPolicy.Proofs.Watch.Replay
import MeshPolicy.Proofs.Worker.Loop
import MeshPolicy.Proofs.Worker.Wakeups
import MeshPolicy.Proofs.Worker.Bursts
import MeshPolicy.Proofs.Worker.Stages
import MeshPolicy.Proofs.Worker.Course
import MeshPolicy.Proofs.Worker.Retries
import MeshPolicy.Proofs.Worker.Reaching
import MeshPolicy.Proofs.Worker.Coalescing
import MeshPolicy.Proofs.Worker.Clock
import MeshPolicy.Proofs.Worker.Shutdown
import MeshPolicy.Proofs.Naming.Domains
import MeshPolicy.Proofs.Pass.Tallies
import MeshPolicy.Proofs.Metrics.Receipts
import MeshPolicy.Proofs.Metrics.Balance
import MeshPolicy.Proofs.Json.View
import MeshPolicy.Proofs.Resource.Lossless
import MeshPolicy.Proofs.Resource.Depth
import MeshPolicy.Proofs.Store.Remote
import MeshPolicy.Proofs.Watch.Snapshots
import MeshPolicy.Proofs.Watch.Services
import MeshPolicy.Proofs.Json.Shape
import MeshPolicy.Proofs.Resource.Shapes
import MeshPolicy.Proofs.Watch.Gate
import MeshPolicy.Proofs.LiveIndex.History
import MeshPolicy.Proofs.Backoff.Words
import MeshPolicy.Proofs.Backoff.Growth
import MeshPolicy.Proofs.CommandLine.Values
import MeshPolicy.Proofs.CommandLine.Lines
import MeshPolicy.Proofs.Store.Addresses
