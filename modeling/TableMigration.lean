import TableMigration.Decimal.Shortest
import TableMigration.Text.Ranges
import TableMigration.Text.GraphemeExtend
import TableMigration.Text.Printable
import TableMigration.Text.Controls
import TableMigration.Json.Value
import TableMigration.Json.Render
import TableMigration.Json.Reader
import TableMigration.Json.Parse
import TableMigration.Json.Fields
import TableMigration.Pattern
import TableMigration.Drift
import TableMigration.Record
import TableMigration.Failure
import TableMigration.Store.Key
import TableMigration.Store.Payload
import TableMigration.Store.Table
import TableMigration.Store.Transaction
import TableMigration.Validation.Basic
import TableMigration.Control.Error
import TableMigration.CommandLine
import TableMigration.Store.Session
import TableMigration.Bus
import TableMigration.Access.Node
import TableMigration.Access.Cluster
import TableMigration.Access.Handle
import TableMigration.Validation.Scan
import TableMigration.Validation.Single
import TableMigration.Repair
import TableMigration.Timeline
import TableMigration.Control.MediaType
import TableMigration.Control.Request
import TableMigration.Control.Target
import TableMigration.Control.Wire
import TableMigration.World.Basic
import TableMigration.World.Connection
import TableMigration.World.Http
import TableMigration.World.Step
import TableMigration.Main
import TableMigration.Proofs.QuietCluster
import TableMigration.Proofs.FullPass.Forward
import TableMigration.Proofs.FullPass.Backward
import TableMigration.Proofs.FullPass.Run
import TableMigration.Proofs.FullPass.Exact
import TableMigration.Proofs.Json.Text
import TableMigration.Proofs.Json.Numbers
import TableMigration.Proofs.Json.Values
import TableMigration.Proofs.Json.Records
import TableMigration.Proofs.Json.Canonical
import TableMigration.Proofs.Convergence
import TableMigration.Proofs.Writes
import TableMigration.Proofs.Transactions
import TableMigration.Proofs.DualWrite
import TableMigration.Proofs.RunReports
import TableMigration.Proofs.RepairDirection
import TableMigration.Proofs.Scheduler
import TableMigration.Proofs.Keyset.Trace
import TableMigration.Proofs.Keyset.Forward
import TableMigration.Proofs.Keyset.Backward
import TableMigration.Proofs.Keyset.Run
import TableMigration.Proofs.ControlSurface
import TableMigration.Proofs.Routing
import TableMigration.Proofs.RepairAgreement
import TableMigration.Proofs.SingleCheck
import TableMigration.Proofs.StoreMap
import TableMigration.Proofs.KeyLayout
import TableMigration.Proofs.RepairReplay
import TableMigration.Proofs.Keyset.Publish
import TableMigration.Proofs.Keyset.Cursor
import TableMigration.Proofs.Keyset.Termination
import TableMigration.Proofs.Keyset.FailureCount
import TableMigration.Proofs.Keyset.Tailing
