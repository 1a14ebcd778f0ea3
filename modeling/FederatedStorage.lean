import FederatedStorage.Backend.Call
import FederatedStorage.Backend.Echo
import FederatedStorage.Backend.Factory
import FederatedStorage.Backend.Loopback
import FederatedStorage.Backend.Remote
import FederatedStorage.Backend.Rotation
import FederatedStorage.Backend.Shelf
import FederatedStorage.Capacity
import FederatedStorage.Cluster.Descriptor
import FederatedStorage.Cluster.Document
import FederatedStorage.Cluster.Registry
import FederatedStorage.Cluster.Source
import FederatedStorage.Decimal.Binary64
import FederatedStorage.Decimal.Shortest
import FederatedStorage.Failure
import FederatedStorage.Gateway.Deployment
import FederatedStorage.Gateway.Pass
import FederatedStorage.Gateway.Report
import FederatedStorage.Gateway.State
import FederatedStorage.Http.Api
import FederatedStorage.Http.Body
import FederatedStorage.Http.MediaType
import FederatedStorage.Http.Route
import FederatedStorage.Http.Status
import FederatedStorage.Json.Codec
import FederatedStorage.Json.Outline
import FederatedStorage.Json.Printer
import FederatedStorage.Json.Record
import FederatedStorage.Json.Token
import FederatedStorage.Json.Value
import FederatedStorage.Keyed
import FederatedStorage.Main
import FederatedStorage.Metrics
import FederatedStorage.Ownership
import FederatedStorage.Placement.Allocate
import FederatedStorage.Placement.Draw
import FederatedStorage.Placement.Tags
import FederatedStorage.Proofs.Backend.Loopback
import FederatedStorage.Proofs.Cluster.Registry
import FederatedStorage.Proofs.Gateway.Arrays
import FederatedStorage.Proofs.Gateway.Callers
import FederatedStorage.Proofs.Gateway.Deleted
import FederatedStorage.Proofs.Gateway.Detour
import FederatedStorage.Proofs.Gateway.Fleet
import FederatedStorage.Proofs.Gateway.History
import FederatedStorage.Proofs.Gateway.Homes
import FederatedStorage.Proofs.Gateway.Live
import FederatedStorage.Proofs.Gateway.Parts
import FederatedStorage.Proofs.Gateway.Pass
import FederatedStorage.Proofs.Gateway.Passes
import FederatedStorage.Proofs.Gateway.Reconciled
import FederatedStorage.Proofs.Gateway.Sequential
import FederatedStorage.Proofs.Gateway.SyncResources
import FederatedStorage.Proofs.Ownership
import FederatedStorage.Proofs.Schedule.Leads
import FederatedStorage.Proofs.Schedule.Rely
import FederatedStorage.Proofs.Schedule.Runs
import FederatedStorage.Schedule.Activity
import FederatedStorage.Schedule.Board
import FederatedStorage.Schedule.Bound
import FederatedStorage.Schedule.Pool
import FederatedStorage.Schedule.World
import FederatedStorage.Service.Lines
import FederatedStorage.Service.Options
import FederatedStorage.Storage.Resource
import FederatedStorage.Storage.Wire
import FederatedStorage.Text.Blank
import FederatedStorage.Text.Casing
import FederatedStorage.Text.Percent
import FederatedStorage.Text.Printable
import FederatedStorage.Text.Quoted
import FederatedStorage.Text.Utf8
import FederatedStorage.Time.Rfc3339
import FederatedStorage.Time.Timestamp
import FederatedStorage.Yaml.Cursor
import FederatedStorage.Yaml.Layout
import FederatedStorage.Yaml.Node
import FederatedStorage.Yaml.Scalar
import FederatedStorage.Yaml.Token
import FederatedStorage.Yaml.Value
import FederatedStorage.Proofs.Gateway.Clients
import FederatedStorage.Proofs.Schedule.Beside
import FederatedStorage.Proofs.Gateway.Registered
import FederatedStorage.Proofs.Gateway.Settled
import FederatedStorage.Proofs.Gateway.Contacts
import FederatedStorage.Proofs.Gateway.Loaded
import FederatedStorage.Proofs.Gateway.Cancelled
import FederatedStorage.Proofs.Backend.LoopbackRun
import FederatedStorage.Proofs.Backend.Wraparound
import FederatedStorage.Proofs.Backend.Rotation
import FederatedStorage.Proofs.Schedule.AlikeWhile
import FederatedStorage.Proofs.Schedule.Bounded
import FederatedStorage.Proofs.Gateway.Attempts
import FederatedStorage.Proofs.Gateway.Sending
import FederatedStorage.Proofs.Gateway.Serial
import FederatedStorage.Proofs.Gateway.Resynced
import FederatedStorage.Proofs.Schedule.Timed
import FederatedStorage.Proofs.Gateway.Fetches
import FederatedStorage.Proofs.Gateway.Listed
import FederatedStorage.Proofs.Json.Words
import FederatedStorage.Proofs.Json.Built
import FederatedStorage.Proofs.Json.Reordered
import FederatedStorage.Proofs.Json.Records
import FederatedStorage.Proofs.Time.Rfc3339
import FederatedStorage.Proofs.Storage.Wire
import FederatedStorage.Proofs.Text.Blank
import FederatedStorage.Proofs.Decimal.Nearest
import FederatedStorage.Proofs.Capacity
import FederatedStorage.Proofs.Text.Percent
import FederatedStorage.Proofs.Http.Route
import FederatedStorage.Proofs.Http.Paths
import FederatedStorage.Proofs.Backend.Rounds
import FederatedStorage.Proofs.Backend.Shares
import FederatedStorage.Proofs.Placement.Candidates
import FederatedStorage.Proofs.Placement.Reruns
import FederatedStorage.Proofs.Schedule.Audit
import FederatedStorage.Proofs.Schedule.Scripts
import FederatedStorage.Proofs.Schedule.Customers
import FederatedStorage.Proofs.Gateway.Evolution
import FederatedStorage.Proofs.Gateway.Services
import FederatedStorage.Proofs.Http.Scripts
import FederatedStorage.Proofs.Gateway.Counted
import FederatedStorage.Proofs.Gateway.Ready
import FederatedStorage.Proofs.Ownership.Groups
import FederatedStorage.Proofs.Ownership.Written
import FederatedStorage.Proofs.Gateway.Views
import FederatedStorage.Proofs.Decimal.Reaching
import FederatedStorage.Proofs.Capacity.Grammar
import FederatedStorage.Proofs.Http.Sizes
import FederatedStorage.Proofs.Backend.Issued
import FederatedStorage.Proofs.Placement.Ties
