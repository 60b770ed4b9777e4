import InvenTory.Desktop.DayBooks
import InvenTory.Lib.Trend

/-!
# The stock trend of the desktop

What `get_dashboard_analytics` checks first, and the part of it that computes the trend.
-/

namespace Desktop

open Relational

/-- The store filter: an empty id is none, and one with other characters is refused. -/
def storeFilter (storeId : Option String) : Except String (Option String) :=
  let sid := storeId.getD ""
  if sid = "" then .ok none
  else if ¬ sid.toList.all fun c => c.isAlphanum || c = '-' then .error "Invalid store_id"
  else .ok (some sid)

def inStore (filter : Option String) (s : String) : Bool := filter.all (· = s)

namespace Db

variable (db : Db) (filter : Option String)

def currentTotal : Int := db.balances.total fun b =>
  if b.stock.stockBucket = "AVAILABLE" ∧ inStore filter b.stock.storeId then b.quantity else 0

/-- The sum of a day, among the rows of the window. -/
def dailyDelta (start stop : Int) (d : Int) : Int := db.transactions.total fun r =>
  if (r.stockBucket = "AVAILABLE" ∧ start * 86400 ≤ r.occurredAt ∧ r.occurredAt < (stop + 1) * 86400) ∧
    inStore filter r.storeId ∧ bookDate r.occurredAt = d then r.quantityDelta else 0

def trend (start stop : Int) : List (Int × Int) :=
  (Trend.accumulate (db.dailyDelta filter start stop) (db.currentTotal filter)
    (Trend.dates start stop)).map fun p => (p.1, max 0 p.2)

/-- `get_dashboard_analytics`; `parse` is `NaiveDate::parse_from_str`. -/
def dashboardTrend (parse : String → Option Int) (storeId : Option String) (startDate endDate : String) :
    Except String (List (Int × Int)) :=
  match parse startDate, parse endDate with
  | none, _ => .error ("Invalid start_date: " ++ startDate)
  | some _, none => .error ("Invalid end_date: " ++ endDate)
  | some start, some stop =>
    if stop < start then .error ("start_date (" ++ startDate ++ ") must not be after end_date (" ++
      endDate ++ ")")
    else (storeFilter storeId).map fun filter => db.trend filter start stop

end Db

end Desktop
