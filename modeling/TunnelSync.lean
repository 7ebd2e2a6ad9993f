import TunnelSync.Bridge.Basic
import TunnelSync.Bridge.Step
import TunnelSync.Cli.Args
import TunnelSync.Cli.Help
import TunnelSync.Cli.Option
import TunnelSync.Cli.Run
import TunnelSync.Config.Settings
import TunnelSync.Config.File
import TunnelSync.Copy.Event
import TunnelSync.Decimal.Binary64
import TunnelSync.Decimal.Digits
import TunnelSync.Scan
import TunnelSync.Error
import TunnelSync.Filter.Basic
import TunnelSync.Filter.Glob
import TunnelSync.Main
import TunnelSync.Os.Error
import TunnelSync.Os.Program
import TunnelSync.Os.Tree
import TunnelSync.Plan
import TunnelSync.Relay.Basic
import TunnelSync.Relay.Schedule
import TunnelSync.Relay.Step
import TunnelSync.Rsync.Args
import TunnelSync.Rsync.Outcome
import TunnelSync.Stats
import TunnelSync.Sync.Gather
import TunnelSync.Sync.Host
import TunnelSync.Sync.Report
import TunnelSync.Sync.Run
import TunnelSync.Text.Basic
import TunnelSync.Text.Class
import TunnelSync.Text.Quoted
import TunnelSync.Text.Runs
import TunnelSync.Text.Utf8
import TunnelSync.Toml.Document
import TunnelSync.Toml.Scalar
import TunnelSync.Transport.Choice
import TunnelSync.Transport.Run
import TunnelSync.Url.Basic
import TunnelSync.Url.Percent
import TunnelSync.Url.Parse
import TunnelSync.Url.Idna.Domain
import TunnelSync.Url.Idna.MappingTable
import TunnelSync.Url.Idna.Normal
import TunnelSync.Url.Idna.PropertyTables
import TunnelSync.Url.Address
import TunnelSync.Url.Punycode
import TunnelSync.Url.Worker
import TunnelSync.Proofs.Relay.Run
import TunnelSync.Proofs.Relay.ToWorker
import TunnelSync.Proofs.Relay.ToSsh
import TunnelSync.Proofs.Sync.Gather
import TunnelSync.Proofs.Sync.Fanout
import TunnelSync.Proofs.Plan
import TunnelSync.Proofs.Rsync.Partition
import TunnelSync.Proofs.Bridge.Result
import TunnelSync.Proofs.Relay.Progress
import TunnelSync.Proofs.Rsync.Operands
import TunnelSync.Proofs.Url.Form
import TunnelSync.Proofs.Url.Path
import TunnelSync.Proofs.Url.Host
import TunnelSync.Proofs.Url.Parse
import TunnelSync.Proofs.Url.Worker
import TunnelSync.Proofs.Transport.Shell
import TunnelSync.Proofs.Url.Endpoint
import TunnelSync.Proofs.Url.Text
import TunnelSync.Proofs.Url.Redact
import TunnelSync.Proofs.Os.Nodes
import TunnelSync.Proofs.Scan.Count
import TunnelSync.Proofs.Filter.Exclusion
import TunnelSync.Proofs.Rsync.Redact
import TunnelSync.Proofs.Transport.ProxyCommand
import TunnelSync.Proofs.Relay.Count
import TunnelSync.Proofs.Sync.Shape
import TunnelSync.Proofs.Relay.Return
import TunnelSync.Proofs.Sync.Choice
import TunnelSync.Proofs.Rsync.Deletion
import TunnelSync.Proofs.Scan
import TunnelSync.Proofs.Rsync.Excuse
import TunnelSync.Proofs.Rsync.Verbose
import TunnelSync.Proofs.Plan.Degree
import TunnelSync.Proofs.Relay.Backpressure
import TunnelSync.Proofs.Rsync.Include
import TunnelSync.Proofs.Rsync.Pattern
import TunnelSync.Proofs.Filter.Agreement
import TunnelSync.Proofs.Sync.Merging
