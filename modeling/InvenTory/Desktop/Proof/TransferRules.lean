import InvenTory.Desktop.Proof.Transfers
import InvenTory.Domain.Proof.Transfers

/-!
# The transfers of the desktop are those of the rules

Each transfer of the desktop is one that the rules of the domain package lead to from a draft, and its ledger
rows are the events that the rules have for this life, in their order (`TransferRun.refines`). Only the type of
the events is another one: `TRANSFER_OUT` at the source and `TRANSFER_IN` at the destination.
-/

namespace Desktop

open Relational Sql Sql.Prog
open Domain (TransferStatus Life validateTransferTransition)

/-! ## Rows and events -/

/-- The transfer is the row. -/
structure Transfer.Pictured (t : Transfer) (u : Domain.Transfer Instant) : Prop where
  id : u.id = t.id
  source : u.sourceStoreId = t.sourceStoreId
  destination : u.destinationStoreId = t.destinationStoreId
  product : u.productId = t.productId
  quantity : u.quantity = t.quantity.toInt
  status : t.status = u.status.value
  author : u.createdByUserId = t.createdByUserId
  notes : u.notes = t.notes
  createdAt : u.createdAt = t.createdAt
  updatedAt : u.updatedAt = t.updatedAt

/-- The row has what the event says, and a type that says whether it is at the source. -/
structure InventoryTransaction.Records (source : String) (r : InventoryTransaction)
    (e : Domain.InventoryTransaction Instant) : Prop where
  id : e.transactionId = r.transactionId
  store : e.storeId = r.storeId
  product : e.productId = r.productId
  bucket : r.stockBucket = e.stockBucket.value
  delta : e.quantityDelta = r.quantityDelta
  occurredAt : e.occurredAt = r.occurredAt
  recordedAt : e.recordedAt = r.recordedAt
  user : e.userId = r.userId
  device : e.deviceId = r.deviceId
  reference : e.referenceNumber = r.referenceNumber
  reason : e.reasonCode = r.reasonCode
  transfer : e.transferId = r.transferId
  type : e.movementType = .transfer
  direction : r.movementType = if r.storeId = source then "TRANSFER_OUT" else "TRANSFER_IN"

/-- The ledger rows of a transfer. -/
def Db.ledgerOf (d : Db) (transferId : String) : List InventoryTransaction :=
  d.transactions.rows.filter (·.transferId = some transferId)

theorem value_injective : ∀ {a b : TransferStatus}, a.value = b.value → a = b := by
  intro a b h
  cases a <;> cases b <;> first | rfl | exact absurd h (by decide)

theorem Transfer.Pictured.status_eq {t : Transfer} {u : Domain.Transfer Instant} (h : t.Pictured u)
    (status : TransferStatus) (hs : t.status = status.value) : u.status = status :=
  value_injective (h.status.symm.trans hs)

/-! ## What a command does -/

/-- The row `t` has become `t'` with the ledger rows `rows`, as the rules have it. -/
structure Changed (d d' : Db) (t t' : Transfer) (rows : List InventoryTransaction) : Prop where
  row : d.transfers.get? t.id = some t
  id : t'.id = t.id
  source : t'.sourceStoreId = t.sourceStoreId
  transfers : d'.transfers = d.transfers.put t'
  transactions : d'.transactions.rows = d.transactions.rows ++ rows
  own : ∀ r ∈ rows, r.transferId = some t.id
  rules : ∀ u, t.Pictured u → ∃ (status : TransferStatus) (fresh : Domain.Factories Instant)
    (userId deviceId : String) (occurredAt : Option Instant), u.status ≠ status ∧
      validateTransferTransition u.status status = .ok () ∧
      t'.Pictured { u with status := status, notes := t'.notes, updatedAt := t'.updatedAt } ∧
      List.Forall₂ (InventoryTransaction.Records t.sourceStoreId) rows
        (u.bookings fresh userId deviceId occurredAt status)

/-- What a transfer command does that is carried out, by the rules. -/
inductive Ruled (d d' : Db) : Prop
  | same (h : SameTables d d')
  | created {t : Transfer} {u : Domain.Transfer Instant} (hnew : d.transfers.get? t.id = none)
      (hu : t.Pictured u) (hs : u.status = .draft) (ht : d'.transfers = d.transfers.put t)
      (hr : d'.transactions = d.transactions)
  | changed {t t' : Transfer} {rows : List InventoryTransaction} (h : Changed d d' t t' rows)

section
variable {F : String → Prop} {clk : Clock} {d d1 d' : Db} {xs : List Step} {t : Transfer}

/-- A recorded movement is a row at the end of the ledger. -/
theorem recorded_row {m : Movement} {labels : Labels} {outboxId : String} {now : Instant}
    (h : applyAll ((m.steps labels outboxId now).map Step.write) d = .ok d') :
    d'.transfers = d.transfers ∧ d'.transactions.rows = d.transactions.rows ++ [m.row now] := by
  obtain ⟨d1, h1, h⟩ := applyAll_cons.1 h
  obtain ⟨d2, h2, h⟩ := applyAll_cons.1 h
  obtain ⟨d3, h3, h⟩ := applyAll_cons.1 h
  cases h
  have hf1 := Statement.frame (x := .insertTransaction (m.row now)) h1
  have hf2 := Statement.frame (x := .addToBalance m.stock m.quantityDelta.toInt) h2
  have hf3 := Statement.frame (x := .insertEvent (m.event outboxId now)) h3
  obtain ⟨hnew, hput, -⟩ := insertTransaction_ok h1
  refine ⟨(hf3.transfers nofun).trans ((hf2.transfers nofun).trans (hf1.transfers nofun)), ?_⟩
  have htx : d'.transactions = d.transactions.put (m.row now) :=
    (hf3.transactions nofun).trans ((hf2.transactions nofun).trans hput)
  rw [htx]
  exact Table.rows_put_new hnew

theorem update_row (f : Transfer → Transfer) (ht : d.transfers.get? t.id = some t) :
    (d.updateTransfer t.id f).transfers = d.transfers.put { f t with id := t.id } ∧
      (d.updateTransfer t.id f).transactions = d.transactions := by
  unfold Db.updateTransfer
  rw [ht]
  exact ⟨rfl, rfl⟩

/-- The row with a status, as an UPDATE sets it. -/
def Transfer.withStatus (t : Transfer) (status : TransferStatus) (now : Instant) : Transfer :=
  { t with status := status.value, updatedAt := now }

theorem Transfer.Pictured.withStatus {u : Domain.Transfer Instant} (h : t.Pictured u)
    (status : TransferStatus) (now : Instant) : (t.withStatus status now).Pictured
      { u with status := status, notes := t.notes, updatedAt := now } :=
  ⟨h.id, h.source, h.destination, h.product, h.quantity, rfl, h.author, rfl, h.createdAt, rfl⟩

/-- A status that the rules allow is set, and the row of a movement is added that is what they have for it. -/
theorem changed_recorded (status : TransferStatus) (userId deviceId : String) {m : Movement} {now : Instant}
    (ht : d.transfers.get? t.id = some t) (hput : d'.transfers = d.transfers.put (t.withStatus status now))
    (hrows : d'.transactions.rows = d.transactions.rows ++ [m.row now]) (hid : m.transferId = some t.id)
    (hallowed : ∀ u, t.Pictured u → status ∈ Domain.allowedTransitions u.status ∧
      ∃ e, u.bookings ⟨m.transactionId, now, now⟩ userId deviceId (some now) status = [e] ∧
        (m.row now).Records t.sourceStoreId e) :
    Changed d d' t (t.withStatus status now) [m.row now] where
  row := ht
  id := rfl
  source := rfl
  transfers := hput
  transactions := hrows
  own := by
    intro r hr
    cases List.mem_singleton.1 hr
    exact hid
  rules := by
    intro u hu
    obtain ⟨hmem, e, hbook, he⟩ := hallowed u hu
    refine ⟨status, ⟨m.transactionId, now, now⟩, userId, deviceId, some now, ?_,
      Domain.validate_of_allowed hmem, hu.withStatus status now, ?_⟩
    · exact Domain.ne_of_allowed hmem
    · rw [hbook]
      exact .cons he .nil

/-- A status that the rules allow is set, for which they have nothing. -/
theorem changed_unrecorded (t' : Transfer) (now : Instant) (ht : d.transfers.get? t.id = some t)
    (hid : t'.id = t.id) (hsource : t'.sourceStoreId = t.sourceStoreId)
    (hput : d'.transfers = d.transfers.put t') (htx : d'.transactions = d.transactions)
    (hallowed : ∀ u, t.Pictured u → ∃ status ∈ Domain.allowedTransitions u.status,
      t'.Pictured { u with status := status, notes := t'.notes, updatedAt := t'.updatedAt } ∧
        u.bookings ⟨"", now, now⟩ "" "" none status = []) :
    Changed d d' t t' [] where
  row := ht
  id := hid
  source := hsource
  transfers := hput
  transactions := by rw [htx, List.append_nil]
  own := by simp
  rules := by
    intro u hu
    obtain ⟨status, hmem, hu', hbook⟩ := hallowed u hu
    refine ⟨status, ⟨"", now, now⟩, "", "", none, Domain.ne_of_allowed hmem, Domain.validate_of_allowed hmem,
      hu', ?_⟩
    rw [hbook]
    exact .nil

/-! ## The commands -/

theorem createTransfer_ruled {input : CreateTransferInput}
    (h : (createTransfer.staged clk input).plan.Yields F d (.ok xs) d1)
    (happly : applyAll (xs.map Step.write) d1 = .ok d') : Ruled d1 d' := by
  simp only [createTransfer.staged, Staged.plan] at h
  obtain ⟨hq, h2⟩ := yields_require_bind h
  obtain ⟨hne, h3⟩ := yields_require_bind h2
  obtain ⟨_, d2, -, h4⟩ := yields_bind_ok h3
  obtain ⟨_, d3, -, h5⟩ := yields_bind_ok h4
  obtain ⟨he, -⟩ := yields_pure h5
  cases he
  obtain ⟨d4, hinsert, hnil⟩ := applyAll_cons.1 happly
  cases hnil
  obtain ⟨hnew, ht, -, hr⟩ := insertTransfer_ok hinsert
  let u : Domain.Transfer Instant := ⟨input.sourceStoreId, input.destinationStoreId, input.productId,
    input.quantity.toInt, input.createdByUserId, generateId "TRF" (clk.nanos 0), .draft, input.notes,
    clk.now, clk.now, Int32.lt_iff_toInt_lt.1 hq, hne⟩
  have hu : (input.transfer clk).Pictured u := ⟨rfl, rfl, rfl, rfl, rfl, rfl, rfl, rfl, rfl, rfl⟩
  exact .created hnew hu rfl ht hr

theorem dispatchTransfer_ruled {id user device : String}
    (h : (dispatchTransfer.staged clk id user device).plan.Yields F d (.ok xs) d1) (hs : Sound d1)
    (happly : applyAll (xs.map Step.write) d1 = .ok d') : Ruled d1 d' := by
  simp only [dispatchTransfer.staged, Staged.plan] at h
  obtain ⟨t, d2, h2, h3⟩ := yields_bind_ok h
  obtain ⟨rfl, rfl, ht⟩ := selectTransfer_row h2
  obtain ⟨hst, h4⟩ := yields_require_bind h3
  obtain ⟨_, d3, h5, h6⟩ := yields_bind_ok h4
  obtain ⟨rfl, -⟩ := requireStock_ok h5
  obtain ⟨_, d4, h7, h8⟩ := yields_bind_ok h6
  obtain ⟨he, rfl⟩ := yields_pure h8
  cases he
  have ht : d1.transfers.get? t.id = some t := (ensureForeignKeysExist_same h7).transfers ▸ ht
  have hq := toInt_neg_of_pos (hs.transfers t (Table.mem_of_get? ht))
  obtain ⟨d5, hupdate, hrecord⟩ := applyAll_cons.1 happly
  cases hupdate
  obtain ⟨hput, htx⟩ := update_row (fun t => { t with status := "DISPATCHED", updatedAt := clk.now }) ht
  obtain ⟨htr, hrows⟩ := recorded_row hrecord
  rw [htx] at hrows
  refine .changed (changed_recorded .dispatched user device ht (htr.trans hput) hrows rfl fun u hu => ?_)
  rw [hu.status_eq .draft hst]
  refine ⟨by decide, _, rfl, rfl, hu.source, hu.product, rfl, ?_, rfl, rfl, rfl, rfl, ?_, ?_, ?_, rfl, ?_⟩
  · exact (congrArg Neg.neg hu.quantity).trans hq.symm
  · exact congrArg (fun id => some ("TRF-DISP-" ++ id)) hu.id
  · exact congrArg (fun id => some ("TRANSFER DISPATCH -> Store " ++ id)) hu.destination
  · exact congrArg some hu.id
  · exact (if_pos rfl).symm

theorem Transfer.Pictured.onTheWay {u : Domain.Transfer Instant} (h : t.Pictured u)
    (hs : t.status ∈ onTheWay) : u.status = .dispatched ∨ u.status = .exception := by
  simp only [Desktop.onTheWay, List.mem_cons, List.not_mem_nil, or_false] at hs
  exact hs.imp (h.status_eq .dispatched) (h.status_eq .exception)

theorem receiveTransfer_ruled {id user device : String}
    (h : (receiveTransfer.staged clk id user device).plan.Yields F d (.ok xs) d1)
    (happly : applyAll (xs.map Step.write) d1 = .ok d') : Ruled d1 d' := by
  simp only [receiveTransfer.staged, Staged.plan] at h
  obtain ⟨t, d2, h2, h3⟩ := yields_bind_ok h
  obtain ⟨rfl, rfl, ht⟩ := selectTransfer_row h2
  obtain ⟨hst, h4⟩ := yields_require_bind h3
  obtain ⟨_, d3, h5, h6⟩ := yields_bind_ok h4
  obtain ⟨he, rfl⟩ := yields_pure h6
  cases he
  have ht : d1.transfers.get? t.id = some t := (ensureForeignKeysExist_same h5).transfers ▸ ht
  obtain ⟨d4, hupdate, hrecord⟩ := applyAll_cons.1 happly
  cases hupdate
  obtain ⟨hput, htx⟩ := update_row (fun t => { t with status := "RECEIVED", updatedAt := clk.now }) ht
  obtain ⟨htr, hrows⟩ := recorded_row hrecord
  rw [htx] at hrows
  refine .changed (changed_recorded .received user device ht (htr.trans hput) hrows rfl fun u hu => ?_)
  refine ⟨?_, _, rfl, rfl, hu.destination, hu.product, rfl, hu.quantity, rfl, rfl, rfl, rfl, ?_, ?_, ?_, rfl,
    ?_⟩
  · obtain hway | hway := hu.onTheWay hst
    · rw [hway]
      decide
    · rw [hway]
      decide
  · exact congrArg (fun id => some ("TRF-RECV-" ++ id)) hu.id
  · exact congrArg (fun id => some ("TRANSFER RECEIVE <- Store " ++ id)) hu.source
  · exact congrArg some hu.id
  · have hne : t.destinationStoreId ≠ t.sourceStoreId := by
      rw [← hu.source, ← hu.destination]
      exact u.stores_ne.symm
    exact (if_neg hne).symm

theorem cancelTransfer_ruled {id user device : String}
    (h : (cancelTransfer.staged clk id user device).plan.Yields F d (.ok xs) d1)
    (happly : applyAll (xs.map Step.write) d1 = .ok d') : Ruled d1 d' := by
  simp only [cancelTransfer.staged, Staged.plan] at h
  obtain ⟨t, d2, h2, h3⟩ := yields_bind_ok h
  obtain ⟨rfl, rfl, ht⟩ := selectTransfer_row h2
  obtain ⟨hst, h4⟩ := yields_require_bind h3
  obtain ⟨_, d3, h5, h6⟩ := yields_bind_ok h4
  obtain ⟨he, rfl⟩ := yields_pure h6
  cases he
  have ht : d1.transfers.get? t.id = some t := (ensureForeignKeysExist_same h5).transfers ▸ ht
  rw [List.map_append, applyAll_append] at happly
  obtain ⟨d4, hrecord, hset⟩ := happly
  obtain ⟨d5, hupdate, hnil⟩ := applyAll_cons.1 hset
  cases hnil
  cases hupdate
  by_cases hway : t.status ∈ ["DISPATCHED", "EXCEPTION"]
  · rw [if_pos hway] at hrecord
    obtain ⟨htr, hrows⟩ := recorded_row hrecord
    obtain ⟨hput, htx⟩ := update_row (fun t => { t with status := "CANCELLED", updatedAt := clk.now })
      (htr ▸ ht)
    rw [← htx] at hrows
    refine .changed (changed_recorded .cancelled user device ht (hput.trans (by rw [htr]; rfl)) hrows rfl
      fun u hu => ?_)
    have hstatus : u.status ∈ [TransferStatus.dispatched, .exception] := by
      obtain h | h := hu.onTheWay hway
      · simp [h]
      · simp [h]
    have hbook : Domain.createCancelCompensationTransaction ⟨generateId "TX" (clk.nanos 0), clk.now, clk.now⟩ u
        user device (some clk.now) = some _ := if_neg (not_not.2 hstatus)
    refine ⟨?_, _, congrArg Option.toList hbook, rfl, hu.source, hu.product, rfl, hu.quantity, rfl, rfl, rfl,
      rfl, ?_, rfl, ?_, rfl, ?_⟩
    · obtain h | h := hu.onTheWay hway
      · rw [h]
        decide
      · rw [h]
        decide
    · exact congrArg (fun id => some ("TRF-CNCL-" ++ id)) hu.id
    · exact congrArg some hu.id
    · exact (if_pos rfl).symm
  · rw [if_neg hway] at hrecord
    cases hrecord
    obtain ⟨hput, htx⟩ := update_row (fun t => { t with status := "CANCELLED", updatedAt := clk.now }) ht
    refine .changed (changed_unrecorded (t.withStatus .cancelled clk.now) clk.now ht rfl rfl hput htx
      fun u hu => ?_)
    have hdraft : u.status = .draft := by
      have hvalue := hu.status
      cases hs : u.status with
      | draft => rfl
      | dispatched => simp [hvalue, hs, TransferStatus.value] at hway
      | exception => simp [hvalue, hs, TransferStatus.value] at hway
      | received => simp [hvalue, hs, TransferStatus.value] at hst
      | cancelled => simp [hvalue, hs, TransferStatus.value] at hst
    refine ⟨.cancelled, by rw [hdraft]; decide, hu.withStatus .cancelled clk.now, ?_⟩
    have hbook : Domain.createCancelCompensationTransaction ⟨"", clk.now, clk.now⟩ u "" "" none = none :=
      if_pos (by simp [hdraft])
    rw [Domain.Transfer.bookings, hbook]
    rfl

theorem markTransferException_ruled {id : String} {notes : Option String}
    (h : (markTransferException.staged clk id notes).plan.Yields F d (.ok xs) d1)
    (happly : applyAll (xs.map Step.write) d1 = .ok d') : Ruled d1 d' := by
  simp only [markTransferException.staged, Staged.plan] at h
  obtain ⟨t, d2, h2, h3⟩ := yields_bind_ok h
  obtain ⟨rfl, rfl, ht⟩ := selectTransfer_row h2
  obtain ⟨hst, h4⟩ := yields_require_bind h3
  obtain ⟨he, rfl⟩ := yields_pure h4
  cases he
  obtain ⟨d3, hupdate, hnil⟩ := applyAll_cons.1 happly
  cases hnil
  cases hupdate
  obtain ⟨hput, htx⟩ := update_row (Transfer.flag (exceptionNotes t.notes notes) clk.now) ht
  refine .changed (changed_unrecorded (t.flag (exceptionNotes t.notes notes) clk.now) clk.now ht rfl rfl
    hput htx fun u hu => ?_)
  refine ⟨.exception, by rw [hu.status_eq .dispatched hst]; decide, ?_, rfl⟩
  exact ⟨hu.id, hu.source, hu.destination, hu.product, hu.quantity, rfl, hu.author, rfl, hu.createdAt, rfl⟩

theorem TransferCommand.ruled {cmd : TransferCommand} (hs : Sound d1)
    (h : (cmd.plan clk).Yields F d (.ok xs) d1) (happly : applyAll (xs.map Step.write) d1 = .ok d') :
    Ruled d1 d' := by
  cases cmd with
  | createTransfer input => exact createTransfer_ruled h happly
  | dispatchTransfer t user device => exact dispatchTransfer_ruled h hs happly
  | receiveTransfer t user device => exact receiveTransfer_ruled h happly
  | cancelTransfer t user device => exact cancelTransfer_ruled h happly
  | markTransferException t notes => exact markTransferException_ruled h happly

theorem Ruled.after_checks (hsame : SameTables d d1) (h : Ruled d1 d') : Ruled d d' := by
  cases h with
  | same h => exact .same (SameTables.trans _ _ _ hsame h)
  | created hnew hu hs ht hr =>
    rw [hsame.transfers] at hnew ht
    exact .created hnew hu hs ht (hr.trans hsame.transactions)
  | changed h =>
    refine .changed ⟨hsame.transfers ▸ h.row, h.id, h.source, hsame.transfers ▸ h.transfers, ?_, h.own,
      h.rules⟩
    rw [h.transactions, hsame.transactions]

end

theorem TransferCall.ruled {c : TransferCall} {d : Db} (hs : Sound d) (hc : c.Clean d) :
    Ruled d (c.after d) := by
  unfold after
  rw [TransferCommand.run_eq]
  rcases hp : (c.cmd.plan c.clk).run c.faults d with ⟨r, d1, fs1⟩
  have hy : (c.cmd.plan c.clk).Yields (fun _ => True) d r d1 :=
    ⟨c.faults, fs1, fun _ _ => trivial, hp⟩
  have hsame := TransferCommand.plan_same hy
  cases r with
  | error e =>
    rw [run_bind_error hp]
    exact .same hsame
  | ok xs =>
    rw [run_bind_ok hp]
    have hhalts := run_commitEach (xs.map Step.write) fs1 d1
    have hstop := hc xs d1 fs1 hp
    show Ruled d ((commitEach (xs.map Step.write)).run fs1 d1).state
    generalize ((commitEach (xs.map Step.write)).run fs1 d1).result = r at hhalts
    cases hhalts with
    | ok _ hd =>
      exact (TransferCommand.ruled (hs.congr hsame.balances hsame.transfers) hy hd).after_checks hsame
    | error hn _ _ => exact absurd (hstop.symm.trans hn) nofun

/-! ## Runs -/

/-- Each transfer is one that the rules lead to, and its rows are the events of its life. -/
structure Lived (d : Db) : Prop where
  lives : ∀ t ∈ d.transfers.rows, ∃ u events, t.Pictured u ∧ Life u events ∧
    List.Forall₂ (InventoryTransaction.Records t.sourceStoreId) (d.ledgerOf t.id) events
  known : ∀ r ∈ d.transactions.rows, ∀ id, r.transferId = some id → (d.transfers.get? id).isSome

section
variable {d d' : Db} {t t' : Transfer}

theorem ledgerOf_congr (h : d'.transactions = d.transactions) (id : String) : d'.ledgerOf id = d.ledgerOf id :=
  congrArg (fun rows => rows.filter (·.transferId = some id)) (congrArg Table.rows h)

theorem ledgerOf_unknown (h : Lived d) {id : String} (hnew : d.transfers.get? id = none) :
    d.ledgerOf id = [] := by
  refine List.filter_eq_nil_iff.2 fun r hr hid => ?_
  have hknown := h.known r hr id (of_decide_eq_true hid)
  rw [hnew] at hknown
  cases hknown

theorem Lived.created {u : Domain.Transfer Instant} (h : Lived d) (hnew : d.transfers.get? t.id = none)
    (hu : t.Pictured u) (hs : u.status = .draft) (ht : d'.transfers = d.transfers.put t)
    (hr : d'.transactions = d.transactions) : Lived d' where
  lives := by
    intro x hx
    rw [ledgerOf_congr hr]
    rw [ht] at hx
    obtain rfl | ⟨hx, -⟩ := Table.mem_put.1 hx
    · refine ⟨u, [], hu, .draft hs, ?_⟩
      rw [ledgerOf_unknown h hnew]
      exact .nil
    · exact h.lives x hx
  known := by
    intro r hmem id hid
    rw [ht, Table.get?_put]
    split
    · rfl
    · exact h.known r (hr ▸ hmem) id hid

theorem Changed.ledgerOf {rows : List InventoryTransaction} (h : Changed d d' t t' rows) (id : String) :
    d'.ledgerOf id = d.ledgerOf id ++ if t.id = id then rows else [] := by
  unfold Db.ledgerOf
  rw [h.transactions, List.filter_append]
  congr 1
  split
  · rename_i hid
    subst hid
    exact List.filter_eq_self.2 fun r hr => decide_eq_true (h.own r hr)
  · rename_i hid
    refine List.filter_eq_nil_iff.2 fun r hr hmem => hid ?_
    exact Option.some.inj ((h.own r hr).symm.trans (of_decide_eq_true hmem))

theorem Lived.changed {rows : List InventoryTransaction} (h : Lived d) (hc : Changed d d' t t' rows) :
    Lived d' where
  lives := by
    intro x hx
    rw [hc.transfers] at hx
    rw [hc.ledgerOf]
    obtain rfl | ⟨hx, hne⟩ := Table.mem_put.1 hx
    · obtain ⟨u, events, hu, hlife, hrows⟩ := h.lives t (Table.mem_of_get? hc.row)
      obtain ⟨status, fresh, user, device, at', hne, hvalid, hu', hbook⟩ := hc.rules u hu
      refine ⟨_, _, hu', hlife.change hne hvalid fresh user device at' _ _, ?_⟩
      rw [hc.id, if_pos rfl, hc.source]
      exact List.rel_append hrows hbook
    · have hne : ¬ t.id = x.id := fun heq => hne (heq.symm.trans hc.id.symm)
      rw [if_neg hne, List.append_nil]
      exact h.lives x hx
  known := by
    intro r hmem id hid
    rw [hc.transfers, Table.get?_put]
    split
    · rfl
    · rename_i hne
      rw [hc.transactions] at hmem
      obtain hmem | hmem := List.mem_append.1 hmem
      · exact h.known r hmem id hid
      · have heq := Option.some.inj ((hc.own r hmem).symm.trans hid)
        exact absurd (hc.id.trans heq) hne

theorem Lived.step (h : Lived d) (hr : Ruled d d') : Lived d' := by
  cases hr with
  | same hsame =>
    refine ⟨?_, ?_⟩
    · intro t ht
      rw [ledgerOf_congr hsame.transactions]
      exact h.lives t (hsame.transfers ▸ ht)
    · intro r hr id hid
      rw [hsame.transfers]
      exact h.known r (hsame.transactions ▸ hr) id hid
  | created hnew hu hs ht hr => exact h.created hnew hu hs ht hr
  | changed hc => exact h.changed hc

end

namespace TransferRun

variable {d0 d : Db}

theorem lived (h0 : TransferStart d0) (h : TransferRun d0 d) : Lived d := by
  induction h with
  | start =>
    refine ⟨?_, ?_⟩
    · simp [h0.transfers]
    · intro r hr id hid
      rw [h0.transactions r hr] at hid
      cases hid
  | call c h hc ih => exact ih.step (c.ruled (h.settled (settled_start h0)).sound hc)

/-- **The desktop keeps the rules**: each of its transfers is one that the rules lead to from a draft, its ledger
rows are the events that they have for this, and of a received one they accept the deltas. -/
theorem refines (h0 : TransferStart d0) (h : TransferRun d0 d) : ∀ t ∈ d.transfers.rows, ∃ u events,
    t.Pictured u ∧ Life u events ∧
      List.Forall₂ (InventoryTransaction.Records t.sourceStoreId) (d.ledgerOf t.id) events ∧
      (t.status = "RECEIVED" → ∃ e r, events = [e, r] ∧ Domain.validateTransferDeltas e r = .ok ()) := by
  intro t ht
  obtain ⟨u, events, hu, hlife, hrows⟩ := (h.lived h0).lives t ht
  exact ⟨u, events, hu, hlife, hrows, fun hs => hlife.received (hu.status_eq .received hs)⟩

end TransferRun

namespace Sample

def arrived : Db := arrival.after underWay

theorem run_arrived : TransferRun stocked arrived := .call arrival run_underWay (clean_of (by decide +kernel))

end Sample

open Sample in
theorem arrived_refines : (∀ t ∈ arrived.transfers.rows, ∃ u events, t.Pictured u ∧ Life u events ∧
      List.Forall₂ (InventoryTransaction.Records t.sourceStoreId) (arrived.ledgerOf t.id) events ∧
      (t.status = "RECEIVED" → ∃ e r, events = [e, r] ∧ Domain.validateTransferDeltas e r = .ok ())) ∧
    arrived.transfers.rows.map (·.status) = ["RECEIVED"] :=
  ⟨TransferRun.refines start_stocked run_arrived, by decide +kernel⟩

end Desktop
