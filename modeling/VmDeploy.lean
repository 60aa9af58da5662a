import VmDeploy.Agent.Client
import VmDeploy.Agent.Endpoint
import VmDeploy.Agent.Error
import VmDeploy.Agent.Reply
import VmDeploy.Agent.Request
import VmDeploy.ApplySpec.Basic
import VmDeploy.ApplySpec.Json
import VmDeploy.Cloud.Command
import VmDeploy.Cloud.Error
import VmDeploy.Cloud.Request
import VmDeploy.Config
import VmDeploy.Config.Json
import VmDeploy.Deployment
import VmDeploy.Digest.Fingerprint
import VmDeploy.Digest.Sha256
import VmDeploy.Disk.Basic
import VmDeploy.Disk.Inventory
import VmDeploy.Disk.Record
import VmDeploy.Domain.Composition
import VmDeploy.Domain.Composition.Table
import VmDeploy.Domain.Direction
import VmDeploy.Domain.Joining
import VmDeploy.Domain.Mapping
import VmDeploy.Domain.Mapping.Runs
import VmDeploy.Domain.Mapping.Texts
import VmDeploy.Domain.Mark
import VmDeploy.Domain.Name
import VmDeploy.Domain.Punycode
import VmDeploy.Domain.Valid
import VmDeploy.Failure
import VmDeploy.Id.Cloud
import VmDeploy.Id.Crockford
import VmDeploy.Id.Error
import VmDeploy.Id.Record
import VmDeploy.Id.Uuid
import VmDeploy.Instance.Basic
import VmDeploy.Instance.DesiredState
import VmDeploy.Instance.Lifecycle
import VmDeploy.Json.Basic
import VmDeploy.Json.Compact
import VmDeploy.Json.Decode
import VmDeploy.Json.Diagnostic
import VmDeploy.Json.Fault
import VmDeploy.Json.Reader
import VmDeploy.Json.Record
import VmDeploy.Json.Skip
import VmDeploy.Keyed
import VmDeploy.LogFilter
import VmDeploy.Manifest.Basic
import VmDeploy.Manifest.Json
import VmDeploy.Number.Binary64
import VmDeploy.Number.Extended
import VmDeploy.Number.Shortest
import VmDeploy.Pattern.Basic
import VmDeploy.Pattern.Reader
import VmDeploy.Pattern.Support
import VmDeploy.Program
import VmDeploy.Proofs.Program.Runs
import VmDeploy.Proofs.Services.Calls
import VmDeploy.Registry.Basic
import VmDeploy.Registry.Cell
import VmDeploy.Registry.Error
import VmDeploy.Registry.Numeral
import VmDeploy.Registry.Request
import VmDeploy.Retry
import VmDeploy.Services
import VmDeploy.Simulation.Agent
import VmDeploy.Simulation.Attempts
import VmDeploy.Simulation.Call
import VmDeploy.Simulation.Clock
import VmDeploy.Simulation.Cloud
import VmDeploy.Simulation.Command
import VmDeploy.Simulation.Control
import VmDeploy.Simulation.FaultPlan
import VmDeploy.Simulation.FileTree
import VmDeploy.Simulation.Report
import VmDeploy.Simulation.Roster
import VmDeploy.Simulation.Server
import VmDeploy.Simulation.Session
import VmDeploy.Simulation.Transport
import VmDeploy.Simulation.Tunnel
import VmDeploy.Simulation.Vm
import VmDeploy.Simulation.World
import VmDeploy.Stage
import VmDeploy.Stage.Tree
import VmDeploy.Stemcell
import VmDeploy.Text.Base64
import VmDeploy.Text.Blank
import VmDeploy.Text.Decimal
import VmDeploy.Text.Hex
import VmDeploy.Text.Letter
import VmDeploy.Text.Quoted
import VmDeploy.Text.StepTable
import VmDeploy.Text.Unseen
import VmDeploy.Text.Utf8
import VmDeploy.Time.Calendar
import VmDeploy.Time.Duration
import VmDeploy.Time.Timestamp
import VmDeploy.Tunnel.Basic
import VmDeploy.Tunnel.Copy
import VmDeploy.Tunnel.Error
import VmDeploy.Tunnel.Interface
import VmDeploy.Tunnel.Options
import VmDeploy.Tunnel.State
import VmDeploy.Url.Basic
import VmDeploy.Url.Host
import VmDeploy.Vm.Agent
import VmDeploy.Vm.Basic
import VmDeploy.Proofs.Id.Text
import VmDeploy.Proofs.Registry.Rows
import VmDeploy.Proofs.Registry.Environment
import VmDeploy.Proofs.Services.Plans
import VmDeploy.Proofs.Disk.Inventory
import VmDeploy.Proofs.Vm.Convergence
import VmDeploy.Proofs.Vm.Atomicity
import VmDeploy.Proofs.Services.Keeping
import VmDeploy.Proofs.Disk.Session
import VmDeploy.Proofs.Disk.CurrentDisk
import VmDeploy.Proofs.Disk.Store
import VmDeploy.Proofs.Disk.Orphans
import VmDeploy.Proofs.Vm.Settlement
import VmDeploy.Proofs.Services.Actions
import VmDeploy.Proofs.Instance.Operations
import VmDeploy.Proofs.Vm.Calls
import VmDeploy.Proofs.Instance.Deletion
import VmDeploy.Proofs.Retry.Attempts
import VmDeploy.Proofs.Instance.Jobs
import VmDeploy.Proofs.Services.Questions
import VmDeploy.Proofs.Vm.Confinement
import VmDeploy.Proofs.Deployment.Elements
import VmDeploy.Proofs.Deployment.Order
import VmDeploy.Proofs.Deployment.Teardown
import VmDeploy.Proofs.Instance.Contacts
import VmDeploy.Proofs.Instance.History
import VmDeploy.Proofs.Registry.Tables
import VmDeploy.Proofs.Registry.Ledger
import VmDeploy.Proofs.Registry.Refinement
import VmDeploy.Proofs.Tunnel.Protocol
import VmDeploy.Proofs.Tunnel.Accounts
import VmDeploy.Proofs.Tunnel.Interleaving
import VmDeploy.Proofs.Tunnel.Balance
import VmDeploy.Proofs.Tunnel.Course
import VmDeploy.Proofs.Instance.Readiness
import VmDeploy.Proofs.Json.Entries
import VmDeploy.Proofs.Json.Records
import VmDeploy.Proofs.Agent.Tasks
import VmDeploy.Proofs.Json.Slots
import VmDeploy.Proofs.Cloud.Responses
import VmDeploy.Proofs.Json.Forms
import VmDeploy.Proofs.Json.Documents
import VmDeploy.Proofs.Number.Shortest
import VmDeploy.Proofs.Json.Numerals
import VmDeploy.Proofs.Json.Texts
import VmDeploy.Proofs.Json.Alike
import VmDeploy.Proofs.Digest.Fingerprint
import VmDeploy.Proofs.Instance.Configuration
import VmDeploy.Proofs.Retry.Deadline
import VmDeploy.Proofs.Retry.Truncation
import VmDeploy.Proofs.Instance.Watch
import VmDeploy.Proofs.Disk.Sweep
import VmDeploy.Proofs.Id.Parsing
import VmDeploy.Proofs.Text.Utf8
import VmDeploy.Proofs.Id.Order
import VmDeploy.Proofs.Stage.Courses
import VmDeploy.Proofs.Stage.Brackets
import VmDeploy.Proofs.Tunnel.Stops
import VmDeploy.Proofs.Tunnel.Dialing
import VmDeploy.Proofs.Tunnel.Serving
import VmDeploy.Proofs.Tunnel.Starts
import VmDeploy.Proofs.Tunnel.Standing
import VmDeploy.Proofs.Tunnel.Readiness
import VmDeploy.Proofs.Tunnel.Copying
import VmDeploy.Proofs.Tunnel.Transparency
import VmDeploy.Proofs.Text.Hex
import VmDeploy.Proofs.Text.Decimal
import VmDeploy.Proofs.Id.Uuid
import VmDeploy.Proofs.Config.Lookup
import VmDeploy.Proofs.Text.Ascii
import VmDeploy.Proofs.Text.Base64
import VmDeploy.Proofs.Domain.Name
import VmDeploy.Proofs.Url.Encoding
import VmDeploy.Proofs.Url.Host
import VmDeploy.Proofs.Url.Path
import VmDeploy.Proofs.Url.Parts
import VmDeploy.Proofs.Agent.Endpoint
import VmDeploy.Proofs.Agent.Credentials
import VmDeploy.Proofs.Stage.Progress
import VmDeploy.Proofs.Services.Steps
import VmDeploy.Proofs.Stage.Outcome
import VmDeploy.Proofs.Deployment.Steps
