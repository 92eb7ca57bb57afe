import InventorySync.Config
import InventorySync.Controller.Fault
import InventorySync.Controller.Startup
import InventorySync.Controller.Visit
import InventorySync.Controller.Watch
import InventorySync.Drift.Policy
import InventorySync.Drift.Resolve
import InventorySync.Http.Client
import InventorySync.Http.Exchange
import InventorySync.Http.Inventory
import InventorySync.Http.Listing
import InventorySync.Http.Status
import InventorySync.Http.Url
import InventorySync.Inventory.Call
import InventorySync.Inventory.Codec
import InventorySync.Inventory.Fault
import InventorySync.Inventory.Fixture
import InventorySync.Inventory.Program
import InventorySync.Inventory.Query
import InventorySync.Inventory.Record
import InventorySync.Inventory.Store
import InventorySync.Inventory.Table
import InventorySync.Json.Block
import InventorySync.Json.Codec
import InventorySync.Json.Document
import InventorySync.Json.Merge
import InventorySync.Json.Reader
import InventorySync.Json.Value
import InventorySync.Log
import InventorySync.Main
import InventorySync.Numeral.Binary64
import InventorySync.Numeral.Decimal
import InventorySync.Pass.Fault
import InventorySync.Pass.Reconcile
import InventorySync.Pass.Report
import InventorySync.Proofs.Acceptance
import InventorySync.Proofs.Account
import InventorySync.Proofs.Arithmetic
import InventorySync.Proofs.Backoff
import InventorySync.Proofs.Bookkeeping
import InventorySync.Proofs.Bucket
import InventorySync.Proofs.Circle
import InventorySync.Proofs.Compact
import InventorySync.Proofs.Compliance
import InventorySync.Proofs.Contents
import InventorySync.Proofs.Correction
import InventorySync.Proofs.Credit
import InventorySync.Proofs.Curve
import InventorySync.Proofs.Decision
import InventorySync.Proofs.DeviceVisit
import InventorySync.Proofs.DryRun
import InventorySync.Proofs.Effect
import InventorySync.Proofs.FailFast
import InventorySync.Proofs.Gathering
import InventorySync.Proofs.Grammar
import InventorySync.Proofs.Itinerary
import InventorySync.Proofs.Locality
import InventorySync.Proofs.Order
import InventorySync.Proofs.Packing
import InventorySync.Proofs.Pages
import InventorySync.Proofs.QueryString
import InventorySync.Proofs.Rate
import InventorySync.Proofs.Reading
import InventorySync.Proofs.Record
import InventorySync.Proofs.Reference
import InventorySync.Proofs.Remainder
import InventorySync.Proofs.Repetition
import InventorySync.Proofs.Requeue
import InventorySync.Proofs.Reshape
import InventorySync.Proofs.Resolve
import InventorySync.Proofs.Resumption
import InventorySync.Proofs.Retention
import InventorySync.Proofs.RoundTrip
import InventorySync.Proofs.Rounding
import InventorySync.Proofs.Schedule
import InventorySync.Proofs.Scope
import InventorySync.Proofs.Seconds
import InventorySync.Proofs.Selection
import InventorySync.Proofs.Settings
import InventorySync.Proofs.Shutdown
import InventorySync.Proofs.StatusPatch
import InventorySync.Proofs.Table
import InventorySync.Proofs.Ticks
import InventorySync.Proofs.Timestamp
import InventorySync.Proofs.TriggerMoves
import InventorySync.Resource.ClusterSync
import InventorySync.Resource.Definition
import InventorySync.Resource.Outcome
import InventorySync.Resource.Schema
import InventorySync.Resync.Trigger
import InventorySync.Retry.Backoff
import InventorySync.Retry.Bucket
import InventorySync.Retry.Requeue
import InventorySync.Text.Blank
import InventorySync.Text.CaseTable
import InventorySync.Text.Lowercase
import InventorySync.Text.Percent
import InventorySync.Text.Quoted
import InventorySync.Text.QuotedTable
import InventorySync.Text.Utf8
import InventorySync.Time.Duration
import InventorySync.Time.Instant
import InventorySync.Time.Timestamp
