import InvenTory.Server.Catalogue

/-!
# Column widths

The central tables declare their texts as `VARCHAR(n)`, and a database that enforces this raises an error
for a longer one. The rows of `Schema.lean` with the widths of `app/models`, and the product upsert of
`push_events` on such a database. `Db.fits` is what holds of such a database as a whole.
-/

namespace Server

open Relational

/-- A text of a column `VARCHAR(n)`, whose length is in code points. -/
def fits (n : Nat) (s : String) : Bool := s.length ≤ n

def Store.fits (r : Store) : Bool :=
  Server.fits 36 r.id && Server.fits 50 r.code && Server.fits 255 r.name

def Product.fits (r : Product) : Bool :=
  Server.fits 36 r.id && Server.fits 100 r.sku && Server.fits 255 r.name &&
    Server.fits 100 r.category && Server.fits 20 r.unit

/-- The alternate names are a `TEXT`. -/
def ProductColumns.fits (c : ProductColumns) : Bool :=
  c.brand.all (Server.fits 100) && c.model.all (Server.fits 100) && c.barcode.all (Server.fits 100)

def Device.fits (r : Device) : Bool :=
  Server.fits 36 r.id && Server.fits 36 r.storeId && Server.fits 255 r.deviceName

def InventoryTransaction.fits (r : InventoryTransaction) : Bool :=
  Server.fits 36 r.transactionId && Server.fits 36 r.storeId && Server.fits 36 r.productId &&
    Server.fits 50 r.movementType && Server.fits 50 r.stockBucket && Server.fits 36 r.deviceId &&
    r.referenceNumber.all (Server.fits 100) && r.reasonCode.all (Server.fits 100) &&
    r.transferId.all (Server.fits 36) && r.purchaseOrderId.all (Server.fits 36) &&
    r.batchId.all (Server.fits 36) && r.originalTransactionId.all (Server.fits 36)

def StockBalance.fits (r : StockBalance) : Bool :=
  Server.fits 36 r.id && Server.fits 36 r.stock.storeId && Server.fits 36 r.stock.productId &&
    Server.fits 50 r.stock.stockBucket

/-- The reason is a `TEXT`. -/
def SyncReceipt.fits (r : SyncReceipt) : Bool := Server.fits 36 r.transactionId

def DayBook.fits (r : DayBook) : Bool := Server.fits 36 r.id && Server.fits 36 r.storeId

/-- The day book has less room for a reason than the ledger. -/
def DayBookEntry.fits (r : DayBookEntry) : Bool :=
  Server.fits 36 r.id && Server.fits 36 r.dayBookId && Server.fits 36 r.transactionId &&
    Server.fits 50 r.movementType && Server.fits 36 r.productId && Server.fits 50 r.stockBucket &&
    r.referenceNumber.all (Server.fits 100) && r.reasonCode.all (Server.fits 50)

def Db.fits (db : Db) : Bool :=
  db.stores.rows.all Store.fits && db.products.rows.all Product.fits &&
    db.devices.rows.all Device.fits && db.ledger.rows.all InventoryTransaction.fits &&
    db.balances.rows.all StockBalance.fits && db.receipts.rows.all SyncReceipt.fits &&
    db.dayBooks.all DayBook.fits && db.entries.all DayBookEntry.fits

def valueTooLong : Exn := ⟨"DBAPIError", "value too long for type character varying"⟩

namespace CentralDb

/-- `upsertProduct` where widths are enforced. -/
def upsertFitting (now : DateTime) (c : CentralDb) (p : ProductSnapshot) : Except Exn CentralDb := do
  let c ← c.upsertProduct now p
  if (c.db.products.get? p.id).all Product.fits && (c.productColumns p.id).fits then .ok c
  else .error valueTooLong

end CentralDb

end Server
