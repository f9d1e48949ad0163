/-
The gateway: keyed tables, sliding windows and their stores, the
execution of agents behind them, the HTTP routes, the settings and the
command line. What is proved about whole runs of them is under `Proofs`.
-/
import TenantGate.CommandLine
import TenantGate.Decimal.Digits
import TenantGate.Decimal.Read
import TenantGate.Decimal.Shortest
import TenantGate.Digest.Sha1
import TenantGate.Directory.Agents
import TenantGate.Directory.Keys
import TenantGate.Execution.Completion
import TenantGate.Execution.Document
import TenantGate.Execution.History
import TenantGate.Execution.Request
import TenantGate.Execution.RequestText
import TenantGate.Execution.Service
import TenantGate.Fault
import TenantGate.Gateway
import TenantGate.Http.Body
import TenantGate.Http.MediaType
import TenantGate.Http.Paging
import TenantGate.Http.Request
import TenantGate.Http.Response
import TenantGate.Json.Basic
import TenantGate.Json.Head
import TenantGate.Json.Numeral
import TenantGate.Json.Read
import TenantGate.Json.Source
import TenantGate.Limit.Backend
import TenantGate.Limit.Error
import TenantGate.Limit.Key
import TenantGate.Limit.Limiter
import TenantGate.Limit.Memory
import TenantGate.Limit.Quota
import TenantGate.Limit.Sweeper
import TenantGate.Main
import TenantGate.NetAddress
import TenantGate.Proofs.Directory.Lookups
import TenantGate.Proofs.Execution.Charging
import TenantGate.Proofs.Execution.Paging
import TenantGate.Proofs.Execution.Rendering
import TenantGate.Proofs.Execution.Rules
import TenantGate.Proofs.Gateway.Annotations
import TenantGate.Proofs.Gateway.Answers
import TenantGate.Proofs.Gateway.Discretion
import TenantGate.Proofs.Gateway.FirstPage
import TenantGate.Proofs.Gateway.Gates
import TenantGate.Proofs.Gateway.Noninterference
import TenantGate.Proofs.Json.Grammar
import TenantGate.Proofs.Json.Passing
import TenantGate.Proofs.Json.Tokens
import TenantGate.Proofs.Limit.AnyInterval
import TenantGate.Proofs.Limit.Deployment
import TenantGate.Proofs.Limit.Expiry
import TenantGate.Proofs.Limit.InMemory
import TenantGate.Proofs.Limit.LargerLimit
import TenantGate.Proofs.Limit.Ledgers
import TenantGate.Proofs.Limit.Logs
import TenantGate.Proofs.Limit.Origin
import TenantGate.Proofs.Limit.Peek
import TenantGate.Proofs.Limit.Retry
import TenantGate.Proofs.Limit.Shedding
import TenantGate.Proofs.Limit.Sweeping
import TenantGate.Proofs.Limit.TrackedKeys
import TenantGate.Proofs.Limit.Twins
import TenantGate.Proofs.Store.Agreement
import TenantGate.Proofs.Store.Calls
import TenantGate.Proofs.Store.Connections
import TenantGate.Proofs.Store.Fleet
import TenantGate.Proofs.Store.Lifetimes
import TenantGate.Proofs.Store.Rows
import TenantGate.Proofs.Store.Scripts
import TenantGate.Proofs.Text.Hex
import TenantGate.Proofs.Uuid.Spelling
import TenantGate.Proofs.Window.Ledger
import TenantGate.Proofs.Window.Retention
import TenantGate.Proofs.Window.Tracks
import TenantGate.Proofs.Window.Wait
import TenantGate.Settings.Basic
import TenantGate.Settings.Document
import TenantGate.Settings.Layers
import TenantGate.Settings.Load
import TenantGate.Settings.Reading
import TenantGate.Startup
import TenantGate.Store.Address
import TenantGate.Store.Client
import TenantGate.Store.Double
import TenantGate.Store.Reply
import TenantGate.Store.Script
import TenantGate.Store.Server
import TenantGate.Store.SortedSets
import TenantGate.Table
import TenantGate.Text.Escaped
import TenantGate.Text.Hex
import TenantGate.Text.Number
import TenantGate.Text.Percent
import TenantGate.Text.Unprintable
import TenantGate.Text.Utf8
import TenantGate.Uuid.Basic
import TenantGate.Uuid.Named
import TenantGate.Window.Log
import TenantGate.Window.Verdict
import TenantGate.Yaml.Block
import TenantGate.Yaml.Cursor
import TenantGate.Yaml.Flow
import TenantGate.Yaml.Folding
import TenantGate.Yaml.Node
import TenantGate.Yaml.Read
import TenantGate.Yaml.Resolve
import TenantGate.Yaml.Style
import TenantGate.Yaml.Write
