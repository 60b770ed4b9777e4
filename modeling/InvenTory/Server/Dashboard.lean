import InvenTory.Lib.Trend
import InvenTory.Server.Schema

/-!
# The stock trend of the server

`GET /dashboard/stock-trend`. Days are those of UTC, which is the time zone of the database session, and
their ISO texts are ordered as they are.
-/

namespace Server

open Relational

def availableBucket : String := "AVAILABLE"

/-- The day of a time. -/
def dayOf (d : DateTime) : Int := d.instant / DateTime.day

/-- `_parse_date_range`, of the dates that are given and can be read. -/
def parseDateRange (today : Int) (startDate endDate : Option Int) (defaultDays : Int) : Int × Int :=
  let last := endDate.getD today
  let first := startDate.getD (last - (defaultDays - 1))
  if first > last then (last, first) else (first, last)

/-- An empty store id is none. -/
def inScope (storeId : Option String) (s : String) : Bool := storeId.getD "" = "" ∨ storeId = some s

namespace Db

variable (db : Db) (storeId : Option String)

/-- The sum of the current balances. -/
def startTotal : Int := db.balances.total fun b =>
  if b.stock.stockBucket = availableBucket ∧ inScope storeId b.stock.storeId then b.quantity else 0

/-- The sum of a day, among the rows of the window `_date_window`. -/
def netDelta (first last : Int) (d : Int) : Int := db.ledger.total fun r =>
  if (r.stockBucket = availableBucket ∧ first * DateTime.day ≤ r.occurredAt.instant ∧
    r.occurredAt.instant < (last + 1) * DateTime.day) ∧ inScope storeId r.storeId ∧
    dayOf r.occurredAt = d then r.quantityDelta else 0

/-- `stock_trend` -/
def stockTrend (today : Int) (startDate endDate : Option Int) : List (Int × Int) :=
  let range := parseDateRange today startDate endDate 7
  (Trend.accumulate (db.netDelta storeId range.1 range.2) (db.startTotal storeId)
    (Trend.dates range.1 range.2)).map fun p => (p.1, max 0 p.2)

end Db

end Server
