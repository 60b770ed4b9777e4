import InvenTory.Server.Serving
import InvenTory.Server.Sessions
import InvenTory.Sync.Pages

/-!
# Pulls while requests are ingested

A device pulls again and again while any number of requests is ingested (`Tick`). The server reads its
clock for a page before it makes the queries, and a session stamps a balance when it executes the
upsert, which the queries do not see before the commit. Each pull passes the `server_time` of the
device's last successful pull.
-/

namespace Sync

open Sql Relational
open Server (CentralDb Db DateTime Exn ProductColumns Requests StockKey StoreColumns anyFault)

/-- The columns of the catalogue, which the pull sends too. -/
structure Columns where
  product : String → ProductColumns
  store : String → StoreColumns

def Columns.central (cols : Columns) (db : Db) : CentralDb := ⟨db, cols.product, cols.store⟩

/-- The requests at work, and a device. -/
structure Puller (ι : Type) : Type 1 where
  requests : Requests ι
  clock : Int
  /-- The `server_time` of the last successful pull. -/
  since : Option DateTime
  /-- The quantity of each balance when it was received last. -/
  received : StockKey → Option Int
  /-- The pages of the pull under way. -/
  pages : List Answer
  /-- The `now` of the page whose queries come next. -/
  now : Option DateTime

/-- A balance is stamped with the time of the statement that changes it. -/
def stampedAt (t : Int) : Statement Exn Db → Db → Prop
  | .read _, _ => True
  | .write f, db => ∀ db', f db = .ok db' → ∀ k b, db'.balances.get? k = some b →
    db.balances.get? k ≠ some b → b.updatedAt.instant = t

namespace Puller

variable {ι : Type}

/-- Nothing has been pulled yet. -/
def start (y : Requests ι) (clock : Int) : Puller ι := ⟨y, clock, none, fun _ => none, [], none⟩

/-- The balances of a response, on top of those received before. -/
def receive (bs : List Server.StockBalance) (received : StockKey → Option Int) (k : StockKey) :
    Option Int :=
  ((bs.find? (·.stock = k)).map (·.quantity)).or (received k)

variable (cols : Columns) (limit : Nat) (s : Puller ι)

/-- The page that the queries answer now. -/
def page (now : DateTime) : Answer := some (cols.central s.requests.store, now)

/-- What the pull under way comes to with this page. -/
def outcome (now : DateTime) : PullOutcome :=
  httpPullAll s.since limit 0 none (s.pages ++ [s.page cols now])

/-- The queries of a page. The pull completes with the last one. -/
def answer (now : DateTime) (t : Int) : Puller ι :=
  match s.outcome cols limit now with
  | .done resp => { s with
      clock := t, since := some resp.serverTime
      received := receive resp.rows.stockBalances s.received, pages := [], now := none }
  | _ => { s with clock := t, pages := s.pages ++ [s.page cols now], now := none }

/-- The balances that are different in `db` have stamps after the last successful pull. -/
def Timely (db : Db) : Prop :=
  ∀ k b, db.balances.get? k = some b → s.requests.store.balances.get? k ≠ some b →
    newerThan s.since b

/-- The rows to be pulled are those of the earlier pages. -/
def Steady : Prop :=
  ∀ c now, some (c, now) ∈ s.pages →
    pulledRows s.since c = pulledRows s.since (cols.central s.requests.store)

variable [DecidableEq ι] (careful : Bool)

/-- A step of a request, or of a pull. In a careful run sessions commit balances with stamps after the
last pull only, and the rows to be pulled do not change from page to page. -/
inductive Tick (s : Puller ι) : Puller ι → Prop
  | ingest {i : ι} {db : Db} {thread : Thread Exn Db (List Server.SyncReceipt)} {t : Int}
    (ht : s.clock ≤ t)
    (hm : (s.requests.threads i).Move ⟨anyFault, stampedAt t⟩ (s.requests.Free Db.locks i)
      s.requests.store db thread) (hc : careful = true → s.Timely db) :
    Tick s { s with requests := s.requests.set db i thread, clock := t }
  | ask {now : DateTime} (ht : s.clock ≤ now.instant) :
    Tick s { s with now := some now, clock := now.instant }
  | answer {now : DateTime} {t : Int} (ht : s.clock ≤ t) (hn : s.now = some now)
    (hc : careful = true → s.Steady cols) : Tick s (s.answer cols limit now t)
  /-- The pull is given up. -/
  | fail : Tick s { s with pages := [], now := none }

end Puller

end Sync
