import InvenTory.Desktop.Outbox
import InvenTory.Lib.Writes

/-!
# What a command does

`Effect d d'` says all that a command that succeeds may do to the transactions, the balances and
the outbox: nothing (`SameStock`), record one or two movements (`Recorded`), edit a transaction
(`Updated`) or delete one (`Deleted`). Each command has its own lemma, and later proofs use only
`Effect`.
-/

namespace Desktop

open Relational Sql Sql.Prog
open Server (StockKey)

/-! ## Statements -/

variable {F : String → Prop} {σ α : Type}

theorem yields_context_ok {label : String} {p : Prog String σ α} {s s' : σ} {a : α}
    (h : (context label p).Yields F s (.ok a) s') : p.Yields F s (.ok a) s' := yields_mapError_ok h

theorem yields_require_ok {p : Prop} [Decidable p] {m : String} {s s' : σ} {u : Unit}
    (h : (require p m : Prog String σ Unit).Yields F s (.ok u) s') : p ∧ s' = s := by
  unfold require at h
  split at h
  · exact ⟨‹_›, (yields_pure h).2⟩
  · cases (yields_throw h).1

theorem yields_onlyIf_ok {p : Prop} [Decidable p] {x : Prog String σ Unit} {s s' : σ} {u : Unit}
    (h : (onlyIf p x).Yields F s (.ok u) s') : (p ∧ x.Yields F s (.ok u) s') ∨ (¬p ∧ s' = s) := by
  unfold onlyIf at h
  split at h
  · exact .inl ⟨‹_›, h⟩
  · exact .inr ⟨‹_›, (yields_pure h).2⟩

/-- A check that passes leaves the store to the rest of the program. -/
theorem yields_require_bind {p : Prop} [Decidable p] {m : String} {k : Unit → Prog String σ α}
    {s s' : σ} {a : α} (h : (require p m >>= k).Yields F s (.ok a) s') :
    p ∧ (k ()).Yields F s (.ok a) s' := by
  obtain ⟨u, s1, h1, h2⟩ := yields_bind_ok h
  obtain ⟨hp, rfl⟩ := yields_require_ok h1
  exact ⟨hp, h2⟩

theorem yields_query_bind {f : σ → α} {β : Type} {k : α → Prog String σ β} {s s' : σ} {b : β}
    (h : (query f >>= k).Yields F s (.ok b) s') : (k (f s)).Yields F s (.ok b) s' := by
  obtain ⟨a, s1, h1, h2⟩ := yields_bind_ok h
  obtain ⟨rfl, rfl⟩ := yields_query_ok h1
  exact h2

theorem within_require_of {Q : σ → σ → Prop} (hrefl : ∀ s, Q s s) (p : Prop) [Decidable p]
    (m : String) : Within Q (require p m : Prog String σ Unit) := by
  unfold require
  split
  · exact .ret hrefl ()
  · exact .raise hrefl m

theorem within_onlyIf_of {Q : σ → σ → Prop} (hrefl : ∀ s, Q s s) {p : Prop} [Decidable p]
    {x : Prog String σ Unit} (h : Within Q x) : Within Q (onlyIf p x) := by
  unfold onlyIf
  split
  · exact h
  · exact .ret hrefl ()

theorem within_selectTransfer_of {Q : Db → Db → Prop} (hrefl : ∀ s, Q s s)
    (htrans : ∀ a b c, Q a b → Q b c → Q a c) (id : String) : Within Q (selectTransfer id) := by
  refine .seq htrans (.query hrefl _) fun t => ?_
  split
  · exact .ret hrefl _
  · exact .raise hrefl _

/-- The tables that the sync and the corrections work on are as before. -/
structure SameStock (d d' : Db) : Prop where
  transactions : d'.transactions = d.transactions
  balances : d'.balances = d.balances
  outbox : d'.outbox = d.outbox

theorem SameStock.refl (d : Db) : SameStock d d := ⟨rfl, rfl, rfl⟩

theorem SameStock.trans {d d' d'' : Db} (h : SameStock d d') (h' : SameStock d' d'') :
    SameStock d d'' :=
  ⟨h'.transactions.trans h.transactions, h'.balances.trans h.balances, h'.outbox.trans h.outbox⟩

theorem quantity_congr {d d' : Db} (h : d'.balances = d.balances) (k : StockKey) :
    d'.quantity k = d.quantity k := by
  rw [Db.quantity, Db.quantity, h]

theorem updateEvents_congr {d d' : Db} (h : d'.outbox = d.outbox) (p : OutboxEvent → Bool)
    (f : OutboxEvent → OutboxEvent) : (d'.updateEvents p f).outbox = (d.updateEvents p f).outbox := by
  rw [Db.updateEvents, Db.updateEvents, h]

theorem ensureUser_ok {d d' : Db} {id : String} (h : d.ensureUser id = .ok d') : SameStock d d' := by
  unfold Db.ensureUser at h
  split at h
  · cases h
    exact .refl d
  · split at h <;> cases h
    exact ⟨rfl, rfl, rfl⟩

theorem ensureStore_ok {d d' : Db} {id : String} (h : d.ensureStore id = .ok d') :
    SameStock d d' := by
  unfold Db.ensureStore at h
  split at h
  · cases h
    exact .refl d
  · split at h <;> cases h
    exact ⟨rfl, rfl, rfl⟩

theorem ensureProduct_ok {d d' : Db} {id : String} (h : d.ensureProduct id = .ok d') :
    SameStock d d' := by
  unfold Db.ensureProduct at h
  split at h
  · cases h
    exact .refl d
  · split at h <;> cases h
    exact ⟨rfl, rfl, rfl⟩

theorem ensureDevice_ok {d d' : Db} {id store : String} (h : d.ensureDevice id store = .ok d') :
    SameStock d d' := by
  unfold Db.ensureDevice at h
  split at h
  · cases h
    exact .refl d
  · split at h <;> cases h
    exact ⟨rfl, rfl, rfl⟩

/-- A step of `ensureForeignKeysExist`. -/
theorem ensured {p : Prop} [Decidable p] {label : String} {f : Db → Except String Db}
    (hf : ∀ {d d'}, f d = .ok d' → SameStock d d') {d d' : Db} {u : Unit}
    (h : (onlyIf p (context label (autocommit f))).Yields F d (.ok u) d') : SameStock d d' := by
  rcases yields_onlyIf_ok h with ⟨-, h1⟩ | ⟨-, rfl⟩
  · exact hf (yields_autocommit_ok (yields_context_ok h1))
  · exact .refl _

theorem ensureForeignKeysExist_ok {user device store product : String} {d d' : Db} {u : Unit}
    (h : (ensureForeignKeysExist user device store product).Yields F d (.ok u) d') :
    SameStock d d' := by
  unfold ensureForeignKeysExist at h
  obtain ⟨_, d1, h1, h⟩ := yields_bind_ok h
  obtain ⟨_, d2, h2, h⟩ := yields_bind_ok h
  obtain ⟨_, d3, h3, h4⟩ := yields_bind_ok h
  exact ((ensured ensureUser_ok h1).trans (ensured ensureStore_ok h2)).trans
    ((ensured ensureProduct_ok h3).trans (ensured ensureDevice_ok h4))

theorem selectBalance_ok {k : StockKey} {d d' : Db} {n : Int32}
    (h : (selectBalance k).Yields F d (.ok n) d') : d' = d ∧ (n = d.readBalance k ∨ n = 0) := by
  unfold selectBalance at h
  obtain ⟨r, d1, h1, h2⟩ := yields_bind_ok h
  obtain ⟨r', he, h1⟩ := yields_attempt h1
  cases he
  obtain ⟨hn, rfl⟩ := yields_pure h2
  cases hn
  cases r with
  | ok b =>
    obtain ⟨rfl, rfl⟩ := yields_query_ok h1
    exact ⟨rfl, .inl rfl⟩
  | error e =>
    rcases yields_stmt h1 with ⟨_, hr, -⟩ | ⟨_, -, rfl, -⟩
    · cases hr
    · exact ⟨rfl, .inr rfl⟩

/-- The balance holds what is taken, if that is something. -/
theorem requireStock_ok {k : StockKey} {q : Int32} {m : Int32 → String} {d d' : Db} {u : Unit}
    (h : (requireStock k q m).Yields F d (.ok u) d') :
    d' = d ∧ (q ≤ d.readBalance k ∨ q ≤ 0) := by
  unfold requireStock at h
  obtain ⟨n, d1, h1, h2⟩ := yields_bind_ok h
  obtain ⟨rfl, hn⟩ := selectBalance_ok h1
  obtain ⟨hle, rfl⟩ := yields_require_ok h2
  rcases hn with rfl | rfl
  · exact ⟨rfl, .inl hle⟩
  · exact ⟨rfl, .inr hle⟩

theorem requireAdjustable_ok {input : AdjustStockInput} {d d' : Db} {u : Unit}
    (h : (requireAdjustable input).Yields F d (.ok u) d') :
    d' = d ∧ (0 ≤ d.readBalance (available input.storeId input.productId) + input.quantityDelta ∨
      0 ≤ input.quantityDelta) := by
  unfold requireAdjustable at h
  obtain ⟨n, d1, h1, h2⟩ := yields_bind_ok h
  obtain ⟨rfl, hn⟩ := selectBalance_ok h1
  obtain ⟨hle, rfl⟩ := yields_require_ok h2
  rcases hn with rfl | rfl
  · exact ⟨rfl, .inl hle⟩
  · rw [Int32.zero_add] at hle
    exact ⟨rfl, .inr hle⟩

theorem readI32_eq {n : Int} {q : Int32} (h : Db.readI32 n = some q) : q.toInt = n := by
  unfold Db.readI32 at h
  split at h
  · rename_i hn
    cases h
    exact Int32.toInt_ofInt_of_le hn.1 hn.2
  · cases h

/-- What `upsertBalance` does when both of its branches set a quantity. -/
theorem upsertBalance_ok {d d' : Db} {b : StockBalance} {f : StockBalance → StockBalance}
    (h : d.upsertBalance b f = .ok d') : d'.transactions = d.transactions ∧ d'.outbox = d.outbox ∧
      ∃ b', b'.stock = b.stock ∧ d'.balances = d.balances.put b' ∧
        b'.quantity = ((d.balances.get? b.stock).map fun old => (f old).quantity).getD b.quantity := by
  unfold Db.upsertBalance at h
  split at h
  · rename_i old hold
    cases h
    refine ⟨rfl, rfl, { f old with stock := b.stock }, rfl, rfl, ?_⟩
    rw [hold]
    rfl
  · rename_i hold
    split at h
    · cases h
    · split at h <;> cases h
      exact ⟨rfl, rfl, b, rfl, rfl, by simp [hold]⟩

theorem quantity_put {d d' : Db} {b : StockBalance} (h : d'.balances = d.balances.put b)
    (k : StockKey) : d'.quantity k = if b.stock = k then b.quantity else d.quantity k := by
  have hkey : key b = b.stock := rfl
  rw [Db.quantity, Db.quantity, h, Table.get?_put, hkey]
  split <;> rfl

theorem addToBalance_ok {d d' : Db} {k : StockKey} {delta : Int}
    (h : d.addToBalance k delta = .ok d') : d'.transactions = d.transactions ∧
      d'.outbox = d.outbox ∧
      ∀ k', d'.quantity k' = d.quantity k' + if k = k' then delta else 0 := by
  obtain ⟨ht, ho, b, hb, hput, hq⟩ := upsertBalance_ok h
  refine ⟨ht, ho, fun k' => ?_⟩
  have hb : b.stock = k := hb
  rw [quantity_put hput, hb]
  split
  · rename_i he
    subst he
    rw [hq, Db.quantity]
    cases d.balances.get? k <;> simp
  · simp

theorem insertTransaction_ok {d d' : Db} {r : InventoryTransaction}
    (h : d.insertTransaction r = .ok d') : d.transactions.get? r.transactionId = none ∧
      d'.transactions = d.transactions.put r ∧ d'.balances = d.balances ∧ d'.outbox = d.outbox := by
  unfold Db.insertTransaction at h
  split at h
  · cases h
  · rename_i hn
    split at h <;> cases h
    exact ⟨by simpa using hn, rfl, rfl, rfl⟩

theorem insertEvent_ok {d d' : Db} {e : OutboxEvent} (h : d.insertEvent e = .ok d') :
    d.outbox.get? e.eventId = none ∧ d'.outbox = d.outbox.put e ∧
      d'.transactions = d.transactions ∧ d'.balances = d.balances := by
  unfold Db.insertEvent at h
  split at h
  · cases h
  · split at h
    · cases h
    · rename_i hn
      cases h
      exact ⟨by simpa using hn, rfl, rfl, rfl⟩

/-! ## Movements -/

/-- `m` is recorded: a new transaction, its balance, and a new event. -/
structure Recorded (m : Movement) (outboxId : String) (now : Instant) (d d' : Db) : Prop where
  new : d.transactions.get? m.transactionId = none
  transactions : d'.transactions = d.transactions.put (m.row now)
  quantity : ∀ k, d'.quantity k = d.quantity k + if m.stock = k then m.quantityDelta.toInt else 0
  fresh : d.outbox.get? (eventId m.transactionId) = none
  outbox : d'.outbox = d.outbox.put (m.event outboxId now)

theorem Recorded.of_steps {m : Movement} {outboxId : String} {now : Instant} {d d1 d2 d' : Db}
    (h1 : d.insertTransaction (m.row now) = .ok d1)
    (h2 : d1.addToBalance m.stock m.quantityDelta.toInt = .ok d2)
    (h3 : d2.insertEvent (m.event outboxId now) = .ok d') : Recorded m outboxId now d d' := by
  obtain ⟨hn, ht, hb, ho⟩ := insertTransaction_ok h1
  obtain ⟨ht2, ho2, hq2⟩ := addToBalance_ok h2
  obtain ⟨hf, ho3, ht3, hb3⟩ := insertEvent_ok h3
  refine ⟨hn, by rw [ht3, ht2, ht], fun k => ?_, ?_, by rw [ho3, ho2, ho]⟩
  · rw [quantity_congr hb3, hq2, quantity_congr hb]
  · rwa [ho2, ho] at hf

/-- `view` is the database as the statements run by `exec` see it. -/
theorem recordMovement_ok {exec : (Db → Except String Db) → Prog String σ Unit} (view : σ → Db)
    (hexec : ∀ {f s s'} {u : Unit}, (exec f).Yields F s (.ok u) s' → f (view s) = .ok (view s'))
    {labels : Labels} {m : Movement} {outboxId : String} {now : Instant} {s s' : σ} {u : Unit}
    (h : (recordMovement exec labels m outboxId now).Yields F s (.ok u) s') :
    Recorded m outboxId now (view s) (view s') := by
  unfold recordMovement at h
  obtain ⟨_, s1, h1, h⟩ := yields_bind_ok h
  obtain ⟨_, s2, h2, h3⟩ := yields_bind_ok h
  exact .of_steps (hexec (yields_context_ok h1)) (hexec (yields_context_ok h2))
    (hexec (yields_context_ok h3))

theorem record_autocommit_ok {labels : Labels} {m : Movement} {outboxId : String} {now : Instant}
    {d d' : Db} {u : Unit}
    (h : (recordMovement autocommit labels m outboxId now).Yields F d (.ok u) d') :
    Recorded m outboxId now d d' :=
  recordMovement_ok id (fun h => yields_autocommit_ok h) h

theorem record_session_ok {labels : Labels} {m : Movement} {outboxId : String} {now : Instant}
    {d d' : Db} {u : Unit}
    (h : (session (recordMovement execute labels m outboxId now)).Yields F d (.ok u) d') :
    Recorded m outboxId now d d' := by
  rcases yields_session h with ⟨_, he, -⟩ | ⟨_, c, -, hc, rfl⟩
  · cases he
  · exact recordMovement_ok Conn.work (fun h => (yields_execute_ok h).1) hc

theorem Recorded.of_same {m : Movement} {outboxId : String} {now : Instant} {d d1 d' : Db}
    (h : SameStock d d1) (hr : Recorded m outboxId now d1 d') : Recorded m outboxId now d d' where
  new := h.transactions ▸ hr.new
  transactions := h.transactions ▸ hr.transactions
  quantity k := (hr.quantity k).trans (by rw [quantity_congr h.balances])
  fresh := h.outbox ▸ hr.fresh
  outbox := h.outbox ▸ hr.outbox

/-! ## Corrections -/

/-- The transaction of `input` is edited, and its event, if there is one, is pending again. -/
structure Updated (input : UpdateTransactionInput) (now : Instant) (r : InventoryTransaction)
    (q : Int32) (d d' : Db) : Prop where
  row : d.transactions.get? input.transactionId = some r
  delta : Db.readI32 r.quantityDelta = some q
  transactions : d'.transactions = d.transactions.put (input.edit r)
  quantity : ∀ k, d'.quantity k =
    d.quantity k + if r.stock = k then (input.quantityDelta - q).toInt else 0
  outbox : d'.outbox =
    (d.updateEvent (eventId input.transactionId) (.requeue (input.payload r now))).outbox

/-- The transaction `r` is deleted. A tombstone is queued if it was synced, else its event is
withdrawn. -/
structure Deleted (outboxId : String) (now : Instant) (r : InventoryTransaction) (q : Int32)
    (d d' : Db) : Prop where
  row : d.transactions.get? r.transactionId = some r
  delta : Db.readI32 r.quantityDelta = some q
  transactions : d'.transactions = d.transactions.erase r.transactionId
  quantity : ∀ k, d'.quantity k = d.quantity k + if r.stock = k then (-q).toInt else 0
  tombstone : r.syncStatus ∈ [.synced, .accepted] →
    d.outbox.get? (voidEventId r.transactionId) = none ∧ d'.outbox = d.outbox.put
      (newEvent outboxId (voidEventId r.transactionId) (voidPayload r q now) now)
  withdrawn : r.syncStatus ∉ [.synced, .accepted] →
    d'.outbox = (d.updateEvent (eventId r.transactionId) .withdraw).outbox

theorem selectTransaction_ok {id : String} {d d' : Db} {x : Option (InventoryTransaction × Int32)}
    (h : (selectTransaction id).Yields F d (.ok x) d') : d' = d ∧
      (x = none ∧ d.transactions.get? id = none ∨
        ∃ r q, x = some (r, q) ∧ d.transactions.get? id = some r ∧
          Db.readI32 r.quantityDelta = some q) := by
  have h := yields_query_bind h
  cases hr : d.transactions.get? id with
  | none =>
    simp only [hr] at h
    obtain ⟨he, rfl⟩ := yields_pure h
    cases he
    exact ⟨rfl, .inl ⟨rfl, rfl⟩⟩
  | some r =>
    simp only [hr] at h
    split at h
    · rename_i q hq
      obtain ⟨he, rfl⟩ := yields_pure h
      cases he
      exact ⟨rfl, .inr ⟨r, q, rfl, rfl, hq⟩⟩
    · cases (yields_throw h).1

/-- What an edit returns: the time of the edit, and not that of the transaction. -/
def UpdateTransactionInput.returned (input : UpdateTransactionInput) (r : InventoryTransaction)
    (now : Instant) : InventoryTransaction :=
  { input.edit r with
    occurredAt := now
    recordedAt := now
    transferId := none
    syncStatus := .pending
    serverAcceptedAt := none }

theorem updateTransaction_ok {clk : Clock} {input : UpdateTransactionInput} {d d' : Db}
    {x : InventoryTransaction} (h : (updateTransaction clk input).Yields F d (.ok x) d') :
    ∃ r q, Updated input clk.now r q d d' ∧ x = input.returned r clk.now := by
  unfold updateTransaction at h
  obtain ⟨row, d1, h1, h⟩ := yields_bind_ok h
  obtain ⟨rfl, ⟨rfl, -⟩ | ⟨r, q, rfl, hr, hq⟩⟩ := selectTransaction_ok h1
  · cases (yields_throw h).1
  · obtain ⟨-, h⟩ := yields_require_bind h
    obtain ⟨_, d2, h2, h⟩ := yields_bind_ok h
    obtain ⟨_, d3, h3, h⟩ := yields_bind_ok h
    obtain ⟨_, d4, h4, h⟩ := yields_bind_ok h
    obtain ⟨hx, rfl⟩ := yields_pure h
    cases hx
    cases yields_autocommit_ok (yields_context_ok h2)
    cases yields_autocommit_ok (yields_context_ok h4)
    have hput : d1.updateTransaction input.transactionId input.edit =
        { d1 with transactions := d1.transactions.put (input.edit r) } := by
      simp only [Db.updateTransaction, hr]
    rw [hput] at h3
    rcases yields_onlyIf_ok h3 with ⟨-, h3⟩ | ⟨hz, rfl⟩
    · obtain ⟨ht, ho, hb⟩ := addToBalance_ok (yields_autocommit_ok (yields_context_ok h3))
      exact ⟨r, q, ⟨hr, hq, ht, hb, updateEvents_congr ho _ _⟩, rfl⟩
    · have hz : (input.quantityDelta - q).toInt = 0 := by rw [not_not.1 hz]; rfl
      exact ⟨r, q, ⟨hr, hq, rfl, fun k => by rw [hz, ite_self, add_zero]; rfl, rfl⟩, rfl⟩

theorem deleteTransaction_ok {clk : Clock} {id : String} {d d' : Db} {u : Unit}
    (h : (deleteTransaction clk id).Yields F d (.ok u) d') :
    (d' = d ∧ d.transactions.get? id = none) ∨
      ∃ r q outboxId, r.transactionId = id ∧ Deleted outboxId clk.now r q d d' := by
  unfold deleteTransaction at h
  obtain ⟨row, d1, h1, h⟩ := yields_bind_ok h
  obtain ⟨rfl, ⟨rfl, hn⟩ | ⟨r, q, rfl, hr, hq⟩⟩ := selectTransaction_ok h1
  · exact .inl ⟨(yields_pure h).2, hn⟩
  · have hid : r.transactionId = id := Table.key_of_get? hr
    subst hid
    obtain ⟨_, d2, h2, h⟩ := yields_bind_ok h
    obtain ⟨_, d3, h3, h⟩ := yields_bind_ok h
    obtain ⟨_, d4, h4, h⟩ := yields_bind_ok h
    obtain ⟨ht, ho, hb⟩ := addToBalance_ok (yields_autocommit_ok (yields_context_ok h2))
    cases yields_autocommit_ok (yields_context_ok h3)
    cases yields_autocommit_ok (yields_context_ok h4)
    refine .inr ⟨r, q, generateId "OB" (clk.nanos 0), rfl, ?_⟩
    split at h
    · rename_i hs
      obtain ⟨hf, ho', ht', hb'⟩ := insertEvent_ok (yields_autocommit_ok (yields_context_ok h))
      refine ⟨hr, hq, ?_, fun k => ?_, fun _ => ⟨ho ▸ hf, ho' ▸ ho ▸ rfl⟩, fun hn => absurd hs hn⟩
      · rw [ht']
        exact congrArg (fun t : Table InventoryTransaction => t.erase _) ht
      · rw [quantity_congr hb']
        exact hb k
    · rename_i hs
      cases yields_autocommit_ok (yields_context_ok h)
      exact ⟨hr, hq, congrArg (fun t : Table InventoryTransaction => t.erase _) ht, hb,
        fun h => absurd h hs, fun _ => updateEvents_congr ho _ _⟩

end Desktop
