import InvenTory.Server.Proof.Answers
import InvenTory.Sync.Delivery
import InvenTory.Sync.Proof.PushLoop

/-!
# Which events a push answers

The server takes a request as a whole (`reply_isSome_iff`), and answers each event of a request that it
takes (`reply_answers`). So an event whose own item is well formed goes without a receipt exactly if the
request is not in order (`answered_iff`).
-/

namespace Sync.Delivery

open PushLoop
open Server (CentralDb SyncReceipt TransactionPushItem)
open Wire (Runtime)

/-! ## Validation -/

theorem validateItem_transactionId {py : Pydantic} {rt : Runtime} {i : Wire.PushItem}
    {e : TransactionPushItem} (h : validateItem py rt i = some e) : e.transactionId = i.transactionId := by
  unfold validateItem at h
  simp only [Option.bind_eq_bind, Option.bind_eq_some_iff] at h
  obtain ⟨q, -, t, -, u, -, r1, -, r2, -, r3, -, r4, -, h⟩ := h
  split at h
  · cases h
    rfl
  · cases h

theorem filterMap_eq_nil {α β : Type} {f : α → Option β} {xs : List α} (h : ∀ x ∈ xs, (f x).isSome) :
    xs.filterMap f = [] ↔ xs = [] := by
  constructor
  · intro hnil
    rw [List.filterMap_eq_nil_iff] at hnil
    rw [List.eq_nil_iff_forall_not_mem]
    intro x hx
    have := h x hx
    rw [hnil x hx] at this
    cases this
  · rintro rfl
    rfl

theorem validateRequest_eq_some_iff {py : Pydantic} {rt : Runtime} {events : List Wire.PushItem}
    {products : List Wire.ProductSnapshot} {es : List TransactionPushItem} {ps : List PushedProduct} :
    validateRequest py rt events products = some (es, ps) ↔
      events.mapM (validateItem py rt) = some es ∧ products.mapM (validateProduct py) = some ps ∧
        es.length ≤ 1000 ∧ ¬(es = [] ∧ ps = []) := by
  unfold validateRequest
  cases events.mapM (validateItem py rt) with
  | none => simp
  | some es' =>
    cases products.mapM (validateProduct py) with
    | none => simp
    | some ps' =>
      simp only [Option.bind_eq_bind, Option.bind_some, Option.some.injEq]
      split
      · rename_i h
        constructor
        · intro he
          cases he
          exact ⟨rfl, rfl, h⟩
        · rintro ⟨rfl, rfl, -⟩
          rfl
      · rename_i h
        refine iff_of_false nofun ?_
        rintro ⟨rfl, rfl, h'⟩
        exact h h'

namespace Push

variable {p : Push}

/-- A read takes 500 events at most. -/
theorem length_events_le : p.events.length ≤ 1000 := by
  have hrows : p.rows.length ≤ limit p.config := length_pending_le
  have hlimit : limit p.config ≤ 500 := by
    have hmin : min (max p.config.batchSize 1) 500 ≤ (500 : Int32) := by
      change (if max p.config.batchSize 1 ≤ 500 then max p.config.batchSize 1 else (500 : Int32)) ≤ 500
      split
      · assumption
      · exact Int32.le_refl _
    have hint := Int32.le_iff_toInt_le.1 hmin
    have h500 : (500 : Int32).toInt = 500 := rfl
    unfold limit Desktop.batchLimit
    rw [Option.getD_some]
    omega
  have hitems : (items p.config p.isoNow p.rows).length ≤ p.rows.length := List.length_filterMap_le _ _
  unfold events
  rw [List.length_map]
  omega

/-- The handler on the validated request. -/
theorem reply_eq_some_iff {receipts : List SyncReceipt} : p.reply = some receipts ↔
    (∀ i ∈ p.events, (p.read i).isSome) ∧ (∀ w ∈ p.products, (validateProduct p.pydantic w).isSome) ∧
      ¬(p.events = [] ∧ p.products = []) ∧
      (Server.pushEvents p.call p.central (p.events.filterMap p.read)
        ((p.products.filterMap (validateProduct p.pydantic)).map (·.toProductSnapshot))).1 =
          .ok receipts := by
  have hok : ∀ x : Except Server.Exn (List SyncReceipt), x.toOption = some receipts ↔ x = .ok receipts := by
    intro x
    cases x <;> simp [Except.toOption]
  unfold reply
  simp only [Option.bind_eq_bind, Option.bind_eq_some_iff, Prod.exists, hok, validateRequest_eq_some_iff,
    Runs.mapM_eq_some_iff]
  constructor
  · rintro ⟨es, ps, ⟨⟨hes, rfl⟩, ⟨hps, rfl⟩, -, hne⟩, hreply⟩
    rw [filterMap_eq_nil hes, filterMap_eq_nil hps] at hne
    exact ⟨hes, hps, hne, hreply⟩
  · rintro ⟨hes, hps, hne, hreply⟩
    refine ⟨_, _, ⟨⟨hes, rfl⟩, ⟨hps, rfl⟩, ?_, ?_⟩, hreply⟩
    · exact (List.length_filterMap_le _ _).trans length_events_le
    · exact fun ⟨he, hp⟩ => hne ⟨(filterMap_eq_nil hes).1 he, (filterMap_eq_nil hps).1 hp⟩

/-- A batch is ingested once the products are there. -/
theorem pushEvents_eq_ok_iff {call : Server.PushCall} {c : CentralDb} (h : c.Kept)
    {events : List TransactionPushItem} {products : List Server.ProductSnapshot}
    {receipts : List SyncReceipt} : (Server.pushEvents call c events products).1 = .ok receipts ↔
      Runs.Along (CentralDb.pushed call.now) CentralDb.Room c products ∧
      ((Server.ingestBatchFitting call.py (call.submissions events)).eval
        (products.foldl (CentralDb.pushed call.now) c).db).1 = .ok receipts := by
  have hiff : ∀ c', c.upsertAllFitting call.now products = .ok c' ↔ _ := fun c' =>
    CentralDb.upsertAllFitting_ok_iff h
  unfold Server.pushEvents
  cases hup : c.upsertAllFitting call.now products with
  | error e =>
    refine iff_of_false nofun fun ⟨hroom, _⟩ => ?_
    rw [(hiff _).2 ⟨hroom, rfl⟩] at hup
    cases hup
  | ok c' =>
    obtain ⟨hroom, rfl⟩ := (hiff c').1 hup
    exact (and_iff_right hroom).symm

theorem submissions_transactionId (call : Server.PushCall) {events : List TransactionPushItem}
    {e : TransactionPushItem} (he : e ∈ events) :
    ∃ s ∈ call.submissions events, s.id = e.transactionId := by
  obtain ⟨i, hi⟩ := List.mem_iff_getElem?.1 he
  exact ⟨_, List.mem_map_of_mem (List.mk_mem_zipIdx_iff_getElem?.2 hi), rfl⟩

/-- **The server takes a request** exactly if it is in order, and not empty. -/
theorem reply_isSome_iff : p.reply.isSome ↔ p.InOrder ∧ ¬(p.events = [] ∧ p.products = []) := by
  rw [Option.isSome_iff_exists]
  simp only [reply_eq_some_iff, pushEvents_eq_ok_iff p.kept]
  constructor
  · rintro ⟨receipts, hes, hps, hne, hroom, hbatch⟩
    refine ⟨⟨hes, hps, hroom, ?_⟩, hne⟩
    by_contra hs
    rw [Server.eval_batch_unsortable hs] at hbatch
    cases hbatch
  · rintro ⟨⟨hes, hps, hroom, hs⟩, hne⟩
    obtain ⟨rs, db', hrs, -⟩ := Server.answers_batch p.call.py hs
      ((List.foldl (CentralDb.pushed p.call.now) p.central _).db)
    exact ⟨rs, hes, hps, hne, hroom, congrArg Prod.fst hrs⟩

/-- **It answers** every event of a request that it takes. -/
theorem reply_answers {receipts : List SyncReceipt} (h : p.reply = some receipts) {i : Wire.PushItem}
    (hi : i ∈ p.events) : ∃ r ∈ receipts, r.transactionId = i.transactionId := by
  have hsome : p.reply.isSome := by
    rw [h]
    rfl
  obtain ⟨⟨-, -, -, hs⟩, -⟩ := reply_isSome_iff.1 hsome
  obtain ⟨hes, -, -, hreply⟩ := reply_eq_some_iff.1 h
  obtain ⟨-, hbatch⟩ := (pushEvents_eq_ok_iff p.kept).1 hreply
  obtain ⟨rs, db', hrs, hall⟩ := Server.answers_batch p.call.py hs
    ((List.foldl (CentralDb.pushed p.call.now) p.central _).db)
  rw [hrs] at hbatch
  obtain rfl : rs = receipts := Except.ok.inj hbatch
  obtain ⟨e, he⟩ := Option.isSome_iff_exists.1 (hes i hi)
  obtain ⟨s, hs, hid⟩ := submissions_transactionId p.call
    (List.mem_filterMap.2 ⟨i, hi, he⟩)
  obtain ⟨r, hr, hrid⟩ := hall s hs
  exact ⟨r, hr, hrid.trans (hid.trans (validateItem_transactionId he))⟩

/-- **The push answers** its well-formed events exactly if it has none, or is in order. -/
theorem answered_iff (p : Push) :
    p.Answered ↔ (∀ i ∈ p.events, p.read i = none) ∨ p.InOrder := by
  constructor
  · intro h
    by_cases hnone : ∀ i ∈ p.events, p.read i = none
    · exact .inl hnone
    · push Not at hnone
      obtain ⟨i, hi, hread⟩ := hnone
      obtain ⟨receipts, hreply, -⟩ := h i hi (Option.isSome_iff_ne_none.2 hread)
      exact .inr (reply_isSome_iff.1 (by rw [hreply]; rfl)).1
  · rintro (hnone | horder) i hi hread
    · rw [hnone i hi] at hread
      cases hread
    · have hne : ¬(p.events = [] ∧ p.products = []) := fun ⟨he, _⟩ => by
        rw [he] at hi
        cases hi
      obtain ⟨receipts, hreply⟩ := Option.isSome_iff_exists.1 (reply_isSome_iff.2 ⟨horder, hne⟩)
      exact ⟨receipts, hreply, reply_answers hreply hi⟩

end Push

/-! ## A store with a long id -/

namespace Sample

def receipt (transactionId storeId : String) : Wire.Message := ⟨"INVENTORY_TRANSACTION", some (.obj
  [("transaction_id", .str transactionId), ("store_id", .str storeId), ("product_id", .str "PROD-1"),
    ("movement_type", .str "RECEIPT"), ("quantity_delta", .num "5"),
    ("occurred_at", .str "2024-05-01T08:00:00Z")])⟩

def outbox (storeId : String) : Desktop.Queue Wire.Message :=
  ⟨[⟨"OUT-1", "EVT-1", receipt "TX-1" "STORE-A", .pending, 0, none, 0, none⟩,
    ⟨"OUT-2", "EVT-2", receipt "TX-2" storeId, .pending, 0, none, 0, none⟩],
    by simp [Relational.key]⟩

def runtime : Runtime := { PushLoop.Sample.runtime with
  number := fun s => ((readInt s).map fun n => Wire.Number.finite n).getD .nan }

def pydantic : Pydantic where
  datetime
    | .str s => if s = "2024-05-01T08:00:00Z" then some ⟨0, some 0⟩ else none
    | _ => none
  bool _ := none
  int
    | .num literal => readInt literal
    | _ => none

/-- A push of two receipts of goods, the second into the store. -/
def push (storeId : String) : Push where
  config := ⟨runtime, 100, false, 3, []⟩
  outbox := outbox storeId
  readAt := 0
  isoNow := ""
  pushedAnything := false
  pydantic := pydantic
  call := ⟨Server.Sample.python, 1, ⟨0, some 0⟩, fun _ => Server.Sample.env⟩
  central := Server.CentralDb.oneCable
  kept := Server.CentralDb.oneCable_kept

end Sample

open Delivery.Sample in
/-- An id of 37 characters fails the request model, and the receipt into the other store with it. -/
theorem long_id_blocks : ¬ ∀ p : Push, p.Answered := by
  intro h
  let p := push "STORE-0123456789-0123456789-012345678"
  have hread : (p.events.map fun i => (p.read i).isSome) = [true, false] := by decide +kernel
  obtain ⟨i, hi, hsome⟩ : ∃ i ∈ p.events, (p.read i).isSome = true :=
    List.mem_map.1 (by rw [hread]; simp)
  obtain ⟨j, hj, hnone⟩ : ∃ j ∈ p.events, (p.read j).isSome = false :=
    List.mem_map.1 (by rw [hread]; simp)
  obtain ⟨receipts, hreply, -⟩ := h p i hi hsome
  have hall := (Push.reply_eq_some_iff.1 hreply).1 j hj
  rw [hnone] at hall
  cases hall

open Delivery.Sample in
/-- With ids of both stores that are short enough the push is in order. -/
theorem short_ids_answered : (push "STORE-B").Answered := by
  refine (Push.answered_iff _).2 (.inr ⟨?_, ?_, ?_, ?_⟩)
  · have hread : ((push "STORE-B").events.all fun i => ((push "STORE-B").read i).isSome) = true := by
      decide +kernel
    exact List.all_eq_true.1 hread
  · exact nofun
  · trivial
  · decide +kernel

end Sync.Delivery
