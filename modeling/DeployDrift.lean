import DeployDrift.Action
import DeployDrift.CommandLine.Invocation
import DeployDrift.CommandLine.Reading
import DeployDrift.Console
import DeployDrift.Deadline
import DeployDrift.Document
import DeployDrift.Drift.Comparison
import DeployDrift.Drift.Detection
import DeployDrift.Drift.IgnoreRules
import DeployDrift.Drift.Merge
import DeployDrift.Drift.Report
import DeployDrift.Json.Cursor
import DeployDrift.Json.Fault
import DeployDrift.Json.Numeral
import DeployDrift.Json.Reader
import DeployDrift.Json.Writer
import DeployDrift.LineDiff.Script
import DeployDrift.LineDiff.Unified
import DeployDrift.Main
import DeployDrift.Network.Address
import DeployDrift.Network.Http
import DeployDrift.Network.Url
import DeployDrift.Number
import DeployDrift.Pointer
import DeployDrift.Proofs.Action.Timeouts
import DeployDrift.Proofs.Document.Equality
import DeployDrift.Proofs.Document.Lists
import DeployDrift.Proofs.Drift.Answers
import DeployDrift.Proofs.Drift.AtOnce
import DeployDrift.Proofs.Drift.Convergence
import DeployDrift.Proofs.Drift.Detection
import DeployDrift.Proofs.Drift.Exactness
import DeployDrift.Proofs.Drift.Faults
import DeployDrift.Proofs.Drift.Ignored
import DeployDrift.Proofs.Drift.InSync
import DeployDrift.Proofs.Drift.Order
import DeployDrift.Proofs.Drift.Pairing
import DeployDrift.Proofs.Drift.Secrets
import DeployDrift.Proofs.Drift.Stages
import DeployDrift.Proofs.Duration.Grammar
import DeployDrift.Proofs.Json.Texts
import DeployDrift.Proofs.Merge.Covering
import DeployDrift.Proofs.Merge.Declared
import DeployDrift.Proofs.Merge.Exactness
import DeployDrift.Proofs.Merge.Lookup
import DeployDrift.Proofs.Merge.Prediction
import DeployDrift.Proofs.Merge.Repetition
import DeployDrift.Proofs.Merge.Sameness
import DeployDrift.Proofs.Merge.Stale
import DeployDrift.Proofs.Merge.Steady
import DeployDrift.Proofs.Merge.Survival
import DeployDrift.Proofs.Merge.ThreeWay
import DeployDrift.Proofs.Network.Percent
import DeployDrift.Proofs.Network.Url
import DeployDrift.Proofs.Number.Whole
import DeployDrift.Proofs.Pointer.Agreement
import DeployDrift.Proofs.Pointer.Fields
import DeployDrift.Proofs.Pointer.Positions
import DeployDrift.Proofs.Pointer.Removal
import DeployDrift.Proofs.Pointer.Spelling
import DeployDrift.Proofs.Pointer.Tokens
import DeployDrift.Proofs.Resource.Edits
import DeployDrift.Proofs.Resource.Grouping
import DeployDrift.Proofs.Resource.Metadata
import DeployDrift.Proofs.Resource.Placement
import DeployDrift.Proofs.Server.Addressing
import DeployDrift.Proofs.Server.Runs
import DeployDrift.Proofs.Settings.BaseUrl
import DeployDrift.Proofs.Sync.Accounting
import DeployDrift.Proofs.Sync.Execution
import DeployDrift.Proofs.Sync.Interleaving
import DeployDrift.Proofs.Table.Lookup
import DeployDrift.Proofs.Text.Ends
import DeployDrift.Proofs.Text.Quoted
import DeployDrift.Proofs.Workflow.Authorization
import DeployDrift.Proofs.Workflow.Phases
import DeployDrift.Resource
import DeployDrift.Resource.Identity
import DeployDrift.Resource.Ownership
import DeployDrift.Server.Application
import DeployDrift.Server.Client
import DeployDrift.Server.Program
import DeployDrift.Session
import DeployDrift.Settings.Connection
import DeployDrift.Settings.Environment
import DeployDrift.Settings.EnvironmentFile
import DeployDrift.Shape
import DeployDrift.Sync
import DeployDrift.Table
import DeployDrift.Text
import DeployDrift.Text.Alphanumeric
import DeployDrift.Text.Bytes
import DeployDrift.Text.Quoted
import DeployDrift.Text.Width
import DeployDrift.Workflow
import DeployDrift.Yaml.Node
import DeployDrift.Yaml.Reader
import DeployDrift.Yaml.Scalar
import DeployDrift.Yaml.Token
import DeployDrift.Yaml.Token.Scan
import DeployDrift.Yaml.Token.Tag
import DeployDrift.Yaml.Token.Text
import DeployDrift.Yaml.Writer
