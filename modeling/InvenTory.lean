import InvenTory.Lib.Counters
import InvenTory.Lib.Places
import InvenTory.Lib.PyString
import InvenTory.Lib.Session
import InvenTory.Lib.Sort
import InvenTory.Lib.Table
import InvenTory.Desktop.Proof.Records
import InvenTory.Desktop.Pull
import InvenTory.Server.Proof.Integrity
import InvenTory.Server.Proof.Convergence
import InvenTory.Server.Proof.Redelivery
import InvenTory.Sync.Proof.Pull
import InvenTory.Sync.Run
import InvenTory.Server.Proof.Run
import InvenTory.Sync.Proof.Corrections
import InvenTory.Lib.Hoare
import InvenTory.Lib.Marker
import InvenTory.Sync.Proof.Late
import InvenTory.Server.Proof.Collision
import InvenTory.Server.Proof.Acceptance
import InvenTory.Server.Proof.Prefetch
import InvenTory.Lib.Pages
import InvenTory.Lib.Statements
import InvenTory.Server.Proof.Statements
import InvenTory.Server.Catalogue
import InvenTory.Sync.Pages
import InvenTory.Sync.Proof.Apply
import InvenTory.Server.Proof.Referenced
import InvenTory.Lib.Upserts
import InvenTory.Sync.Proof.Fits
import InvenTory.Sync.Proof.Closure
import InvenTory.Lib.Faults
import InvenTory.Sync.Cursor
import InvenTory.Sync.Proof.Cursor
import InvenTory.Server.Proof.Stamps
import InvenTory.Sync.Device
import InvenTory.Sync.Proof.Master
import InvenTory.Server.Legacy
import InvenTory.Server.Proof.Legacy
import InvenTory.Lib.Interleave
import InvenTory.Server.Proof.Movements
import InvenTory.Sync.Deltas
import InvenTory.Sync.Proof.Deltas
import InvenTory.Lib.Runs
import InvenTory.Sync.Flag
import InvenTory.Sync.Proof.Flag
import InvenTory.Lib.Window
import InvenTory.Desktop.Queue
import InvenTory.Sync.Wire
import InvenTory.Sync.PushLoop
import InvenTory.Sync.Proof.Turn
import InvenTory.Sync.Proof.PushLoop
import InvenTory.Desktop.Catalogue
import InvenTory.Desktop.Proof.Catalogue
import InvenTory.Desktop.Proof.PerRow
import InvenTory.Desktop.Products
import InvenTory.Server.Widths
import InvenTory.Sync.Products
import InvenTory.Server.Proof.Products
import InvenTory.Desktop.Proof.Fresh
import InvenTory.Sync.Proof.Replication
import InvenTory.Desktop.Proof.Products
import InvenTory.Sync.Edits
import InvenTory.Lib.Latest
import InvenTory.Sync.Proof.Edits
import InvenTory.Sync.Proof.Untouched
import InvenTory.Lib.Guard
import InvenTory.Server.Requests
import InvenTory.Server.Proof.Widths
import InvenTory.Lib.Writes
import InvenTory.Desktop.Proof.Plans
import InvenTory.Desktop.Proof.Planned
import InvenTory.Desktop.Proof.Atomic
import InvenTory.Desktop.Proof.Nonneg
import InvenTory.Desktop.Proof.Transfers
import InvenTory.Desktop.Provision
import InvenTory.Desktop.Proof.Projection
import InvenTory.Server.Bookkeeping
import InvenTory.Server.Proof.Books
import InvenTory.Server.Proof.Entries
import InvenTory.Server.Proof.Openings
import InvenTory.Lib.Spans
import InvenTory.Server.Proof.Filing
import InvenTory.Server.Proof.Placement
import InvenTory.Server.Proof.Provisioning
import InvenTory.Sync.Deletions
import InvenTory.Desktop.Proof.Drawn
import InvenTory.Sync.Proof.Deletions
import InvenTory.Sync.Proof.Pages
import InvenTory.Sync.Proof.Paging
import InvenTory.Lib.Running
import InvenTory.Server.Proof.RunningBalances
import InvenTory.Desktop.DayBooks
import InvenTory.Server.Proof.Reevaluation
import InvenTory.Desktop.Proof.Closings
import InvenTory.Desktop.Proof.Cancelled
import InvenTory.Sync.Restore
import InvenTory.Desktop.Proof.Restored
import InvenTory.Lib.Trim
import InvenTory.Sync.Proof.Logins
import InvenTory.Sync.Proof.Restored
import InvenTory.Server.Proof.Revocation
import InvenTory.Desktop.AuthService
import InvenTory.Desktop.Proof.SignedIn
import InvenTory.Desktop.Dashboard
import InvenTory.Desktop.Proof.Backoff
import InvenTory.Server.Dashboard
import InvenTory.Sync.Proof.Trends
import InvenTory.Desktop.Proof.Skus
import InvenTory.Sync.Proof.Pushes
import InvenTory.Desktop.Proof.Search
import InvenTory.Server.Proof.Retries
import InvenTory.Sync.Proof.Rejections
import InvenTory.Desktop.LocalBooks
import InvenTory.Desktop.Proof.LocalBooks
import InvenTory.Desktop.Proof.LocalBalances
import InvenTory.Desktop.Proof.Sheets
import InvenTory.Lib.Endings
import InvenTory.Server.Fitting
import InvenTory.Server.Proof.Answers
import InvenTory.Sync.Delivery
import InvenTory.Sync.Proof.Delivery
import InvenTory.Domain.Ledger
import InvenTory.Domain.Proof.Ledger
import InvenTory.Desktop.BalanceCache
import InvenTory.Desktop.Proof.BalanceCache
import InvenTory.Desktop.PhysicalCount
import InvenTory.Desktop.Proof.PhysicalCount
import InvenTory.Desktop.Proof.Outbox
import InvenTory.Server.Proof.Arrivals
import InvenTory.Sync.Flight
import InvenTory.Sync.Proof.Aligned
import InvenTory.Sync.Proof.Flight
import InvenTory.Sync.Proof.SingleDevice
import InvenTory.Sync.Proof.Carried
import InvenTory.Server.Proof.StoreRows
import InvenTory.Sync.Proof.Reconcile
import InvenTory.Sync.Proof.StorePush
import InvenTory.Sync.Proof.StoreRenames
import InvenTory.Lib.Memo
import InvenTory.Web.ApiClient
import InvenTory.Web.Proof.ApiClient
import InvenTory.Desktop.FullText
import InvenTory.Desktop.Import
import InvenTory.Desktop.Proof.FullText
import InvenTory.Desktop.Proof.Import
import InvenTory.Ui.Export
import InvenTory.Ui.Proof.Export
import InvenTory.Desktop.Proof.TransferRules
import InvenTory.Desktop.Genesis
import InvenTory.Desktop.Proof.Genesis
import InvenTory.Server.Proof.Genesis
import InvenTory.Sync.Proof.Genesis
import InvenTory.Domain.Outbox
import InvenTory.Sync.Proof.Statuses
