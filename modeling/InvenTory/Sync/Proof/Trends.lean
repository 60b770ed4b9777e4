import InvenTory.Desktop.Dashboard
import InvenTory.Server.Dashboard

/-!
# The stock trends

Both trends start from what is in stock now, which has the movements of the window in it, and add these
once more. So a trend tells the stock of its days exactly if the movements since its first day add up to
nothing, or there is nothing to be told (`stock_trends_iff`).
-/

open Relational

/-! ## The server -/

namespace Server

/-- What a row adds to the stock in scope. -/
def InventoryTransaction.available (storeId : Option String) (r : InventoryTransaction) : Int :=
  if r.stockBucket = availableBucket ∧ inScope storeId r.storeId then r.quantityDelta else 0

namespace Db

variable (db : Db) (storeId : Option String)

/-- Each available balance is the sum of its rows. -/
def Agrees : Prop := ∀ k : StockKey, k.stockBucket = availableBucket →
  db.quantity k = db.ledger.total fun r => if r.stock = k then r.quantityDelta else 0

/-- The stock in scope at the end of a day. -/
def stockOn (d : Int) : Int :=
  Trend.upTo (fun r => dayOf r.occurredAt) (·.available storeId) db.ledger.rows d

/-- The movements in scope from a day on. -/
def movedSince (d : Int) : Int :=
  Trend.since (fun r => dayOf r.occurredAt) (·.available storeId) db.ledger.rows d

variable {db}

theorem startTotal_eq (h : db.Agrees) :
    db.startTotal storeId = (db.ledger.rows.map (·.available storeId)).sum :=
  Table.total_groups (fun k : StockKey => k.stockBucket = availableBucket ∧ inScope storeId k.storeId)
    fun k hk => h k hk.1

theorem netDelta_eq {first last d : Int} (h1 : first ≤ d) (h2 : d ≤ last) :
    db.netDelta storeId first last d = db.stockOn storeId d - db.stockOn storeId (d - 1) := by
  rw [stockOn, stockOn, ← Trend.onDay_eq]
  refine congrArg List.sum (List.map_congr_left fun r _ => ?_)
  unfold InventoryTransaction.available
  by_cases hd : dayOf r.occurredAt = d
  · have hday : first * DateTime.day ≤ r.occurredAt.instant ∧
        r.occurredAt.instant < (last + 1) * DateTime.day := by
      simp only [dayOf, DateTime.day] at hd ⊢
      omega
    simp only [hd, hday, and_true, if_true]
  · simp only [hd, and_false, if_false]

theorem stockTrend_iff (h : db.Agrees) (today : Int) (startDate endDate : Option Int) :
    Trend.Truthful (db.stockOn storeId) (db.stockTrend storeId today startDate endDate) ↔
      Trend.Unshifted (db.stockOn storeId)
        (db.movedSince storeId (parseDateRange today startDate endDate 7).1)
        (parseDateRange today startDate endDate 7).1 (parseDateRange today startDate endDate 7).2 := by
  rw [movedSince, ← Trend.sum_sub_upTo, ← startTotal_eq storeId h]
  refine Trend.truthful_iff fun d hd => ?_
  obtain ⟨h1, h2⟩ := Trend.mem_dates.1 hd
  exact netDelta_eq storeId h1 h2

end Db

end Server

/-! ## The desktop -/

namespace Desktop

/-- What a row adds to the stock in scope. -/
def InventoryTransaction.availableIn (filter : Option String) (r : InventoryTransaction) : Int :=
  if r.stockBucket = "AVAILABLE" ∧ inStore filter r.storeId then r.quantityDelta else 0

namespace Db

variable (db : Db) (filter : Option String)

/-- Each available balance is the sum of its rows. -/
def Agrees : Prop := ∀ k : Server.StockKey, k.stockBucket = "AVAILABLE" →
  db.quantity k = db.transactions.total fun r => if r.stock = k then r.quantityDelta else 0

def stockOn (d : Int) : Int :=
  Trend.upTo (fun r => bookDate r.occurredAt) (·.availableIn filter) db.transactions.rows d

def movedSince (d : Int) : Int :=
  Trend.since (fun r => bookDate r.occurredAt) (·.availableIn filter) db.transactions.rows d

variable {db}

theorem currentTotal_eq (h : db.Agrees) :
    db.currentTotal filter = (db.transactions.rows.map (·.availableIn filter)).sum :=
  Table.total_groups (fun k : Server.StockKey => k.stockBucket = "AVAILABLE" ∧ inStore filter k.storeId)
    fun k hk => h k hk.1

theorem dailyDelta_eq {start stop d : Int} (h1 : start ≤ d) (h2 : d ≤ stop) :
    db.dailyDelta filter start stop d = db.stockOn filter d - db.stockOn filter (d - 1) := by
  rw [stockOn, stockOn, ← Trend.onDay_eq]
  refine congrArg List.sum (List.map_congr_left fun r _ => ?_)
  unfold InventoryTransaction.availableIn
  by_cases hd : bookDate r.occurredAt = d
  · have hday : start * 86400 ≤ r.occurredAt ∧ r.occurredAt < (stop + 1) * 86400 := by
      rw [← hd] at h1 h2
      exact ⟨(Int.le_ediv_iff_mul_le (by decide)).1 h1,
        (Int.ediv_lt_iff_lt_mul (by decide)).1 (Int.lt_add_one_of_le h2)⟩
    simp only [hd, hday, and_true, if_true]
  · simp only [hd, and_false, if_false]

theorem trend_iff (h : db.Agrees) (start stop : Int) :
    Trend.Truthful (db.stockOn filter) (db.trend filter start stop) ↔
      Trend.Unshifted (db.stockOn filter) (db.movedSince filter start) start stop := by
  rw [movedSince, ← Trend.sum_sub_upTo, ← currentTotal_eq filter h]
  refine Trend.truthful_iff fun d hd => ?_
  obtain ⟨h1, h2⟩ := Trend.mem_dates.1 hd
  exact dailyDelta_eq filter h1 h2

end Db

end Desktop

/-! ## Both -/

namespace Sync

open Server (parseDateRange)

/-- The trends of the server and of the desktop, for their windows: each value is the stock in scope at
the end of its day. -/
def TrendsTruthful (s : Server.Db) (d : Desktop.Db) (storeId : Option String) (today : Int)
    (startDate endDate : Option Int) (filter : Option String) (trend : List (Int × Int)) : Prop :=
  Trend.Truthful (s.stockOn storeId) (s.stockTrend storeId today startDate endDate) ∧
    Trend.Truthful (d.stockOn filter) trend

/-- **The trends tell the past** exactly if what has moved since their first days does not show. -/
theorem stock_trends_iff (s : Server.Db) (d : Desktop.Db) (hs : s.Agrees) (hd : d.Agrees)
    (storeId : Option String) (today : Int) (startDate endDate : Option Int)
    (parse : String → Option Int) (first last : String) (start stop : Int) (filter : Option String)
    (trend : List (Int × Int)) (hfirst : parse first = some start) (hlast : parse last = some stop)
    (hfilter : Desktop.storeFilter storeId = .ok filter)
    (htrend : d.dashboardTrend parse storeId first last = .ok trend) :
    TrendsTruthful s d storeId today startDate endDate filter trend ↔
      Trend.Unshifted (s.stockOn storeId) (s.movedSince storeId (parseDateRange today startDate endDate 7).1)
          (parseDateRange today startDate endDate 7).1 (parseDateRange today startDate endDate 7).2 ∧
        Trend.Unshifted (d.stockOn filter) (d.movedSince filter start) start stop := by
  have htrend' : trend = d.trend filter start stop := by
    simp only [Desktop.Db.dashboardTrend, hfirst, hlast, hfilter] at htrend
    split at htrend
    · cases htrend
    · exact (Except.ok.inj htrend).symm
  rw [TrendsTruthful, htrend', s.stockTrend_iff storeId hs, d.trend_iff filter hd]

/-! ## A receipt of five units -/

def trendStock : Server.StockKey := ⟨"S", "P", "AVAILABLE"⟩

def trendTime : Server.DateTime := ⟨0, some 0⟩

def serverReceipt : Server.Db := { Server.Db.empty with
  ledger := (∅ : Table Server.InventoryTransaction).put ⟨"T", "S", "P", "RECEIPT", "AVAILABLE", 5, trendTime,
    trendTime, 1, "D", none, none, none, none, none, none, .accepted, none, none⟩
  balances := (∅ : Table Server.StockBalance).put ⟨"B", trendStock, 5, trendTime⟩ }

def desktopReceipt : Desktop.Db := { Desktop.Db.empty with
  transactions := (∅ : Table Desktop.InventoryTransaction).put ⟨"T", "S", "P", "RECEIPT", "AVAILABLE", 5, 0, 0,
    "U", "D", none, none, none, .pending, none⟩
  balances := (∅ : Table Desktop.StockBalance).put ⟨"B", trendStock, 5⟩ }

theorem serverReceipt_agrees : serverReceipt.Agrees := by
  intro k _
  by_cases hk : trendStock = k
  · subst hk
    decide +kernel
  · have hrow : serverReceipt.balances.get? k = none := Table.get?_put_of_ne ∅ hk
    have htotal : serverReceipt.ledger.total (fun r => if r.stock = k then r.quantityDelta else 0) =
        0 + if trendStock = k then 5 else 0 := Table.total_put_new _ rfl
    rw [htotal, if_neg hk, Server.Db.quantity, hrow]
    rfl

theorem desktopReceipt_agrees : desktopReceipt.Agrees := by
  intro k _
  by_cases hk : trendStock = k
  · subst hk
    decide +kernel
  · have hrow : desktopReceipt.balances.get? k = none := Table.get?_put_of_ne ∅ hk
    have htotal : desktopReceipt.transactions.total
        (fun r => if r.stock = k then r.quantityDelta else 0) = 0 + if trendStock = k then 5 else 0 :=
      Table.total_put_new _ rfl
    rw [htotal, if_neg hk, Desktop.Db.quantity, hrow]
    rfl

/-- The day after. -/
theorem trends_next_day : TrendsTruthful serverReceipt desktopReceipt none 1 (some 1) none none [(1, 5)] :=
  (stock_trends_iff serverReceipt desktopReceipt serverReceipt_agrees desktopReceipt_agrees none 1 (some 1)
    none (fun _ => some 1) "" "" 1 1 none [(1, 5)] rfl rfl rfl (by decide +kernel)).2
    ⟨.inl (by decide +kernel), .inl (by decide +kernel)⟩

/-- On its day the receipt counts twice. -/
theorem trends_same_day : ¬ ∀ (s : Server.Db) (d : Desktop.Db), s.Agrees → d.Agrees →
    ∀ (storeId : Option String) (today : Int) (startDate : Option Int) (parse : String → Option Int)
      (first last : String) (start : Int) (filter : Option String) (trend : List (Int × Int)),
    parse first = some start → parse last = some today → Desktop.storeFilter storeId = .ok filter →
    d.dashboardTrend parse storeId first last = .ok trend →
    TrendsTruthful s d storeId today startDate none filter trend := by
  intro h
  have hsame := (h serverReceipt desktopReceipt serverReceipt_agrees desktopReceipt_agrees none 0 (some 0)
    (fun _ => some 0) "" "" 0 none [(0, 10)] rfl rfl rfl (by decide +kernel)).2 (0, 10)
    (List.mem_singleton.2 rfl)
  exact absurd hsame (by decide +kernel)

end Sync
