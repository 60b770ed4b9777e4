import InvenTory.Desktop.Pull
import InvenTory.Server.Schema
import Mathlib.Data.List.Sort

/-!
# Pulling a snapshot

The balances of a pull response (`_paginated_pull`, all pages read at one moment), and their
decoding into the arguments of `apply_sync_pull`, which takes quantities of an `i32` only.
-/

namespace Sync

open Desktop (StockBalanceSnapshot)

/-- `StockBalance.updated_at > since`; without `since` all balances are sent. -/
def newerThan (since : Option Server.DateTime) (b : Server.StockBalance) : Bool :=
  since.all fun t => t.instant < b.updatedAt.instant

/-- `order_by(StockBalance.store_id, StockBalance.id)` -/
def balanceLe (a b : Server.StockBalance) : Prop :=
  a.stock.storeId < b.stock.storeId ∨ a.stock.storeId = b.stock.storeId ∧ a.id ≤ b.id

instance : DecidableRel balanceLe := fun a b => by
  unfold balanceLe
  infer_instance

def pulledBalances (since : Option Server.DateTime) (db : Server.Db) : List Server.StockBalance :=
  (db.balances.rows.filter (newerThan since)).insertionSort balanceLe

def decodeBalance (b : Server.StockBalance) : Option StockBalanceSnapshot :=
  (Desktop.Db.readI32 b.quantity).map fun q => ⟨b.id, b.stock, q⟩

/-- The balances of a response, as the command gets them. -/
def snapshot (since : Option Server.DateTime) (db : Server.Db) :
    Option (List StockBalanceSnapshot) :=
  (pulledBalances since db).mapM decodeBalance

end Sync
