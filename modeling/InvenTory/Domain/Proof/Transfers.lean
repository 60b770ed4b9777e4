import InvenTory.Domain.Transfers

/-!
# The life of a transfer

The events of a transfer are told by its status (`Life.told`): none for a draft, its dispatch while it is on
its way, and then its receipt or what it is cancelled with. Of a transfer that has been received the two
deltas are equal and opposite (`Life.received`).
-/

namespace Domain

variable {T : Type} {t : Transfer T} {events : List (InventoryTransaction T)}

/-- The event moves `delta` of the transfer's product at a store. -/
structure Transfer.Moves (t : Transfer T) (storeId : String) (delta : Int) (e : InventoryTransaction T) :
    Prop where
  store : e.storeId = storeId
  product : e.productId = t.productId
  delta : e.quantityDelta = delta
  transfer : e.transferId = some t.id

/-- The events of a transfer with this status. -/
inductive Transfer.Told (t : Transfer T) : TransferStatus → List (InventoryTransaction T) → Prop
  | draft : t.Told .draft []
  | dispatched {e : InventoryTransaction T} (h : t.Moves t.sourceStoreId (-t.quantity) e) :
    t.Told .dispatched [e]
  | exception {e : InventoryTransaction T} (h : t.Moves t.sourceStoreId (-t.quantity) e) :
    t.Told .exception [e]
  | received {e r : InventoryTransaction T} (h : t.Moves t.sourceStoreId (-t.quantity) e)
      (hr : t.Moves t.destinationStoreId t.quantity r) : t.Told .received [e, r]
  | dropped : t.Told .cancelled []
  | restored {e r : InventoryTransaction T} (h : t.Moves t.sourceStoreId (-t.quantity) e)
      (hr : t.Moves t.sourceStoreId t.quantity r) : t.Told .cancelled [e, r]

theorem Transfer.Moves.update {storeId : String} {delta : Int} {e : InventoryTransaction T}
    (h : t.Moves storeId delta e) (status : TransferStatus) (notes : Option String) (updatedAt : T) :
    Transfer.Moves { t with status := status, notes := notes, updatedAt := updatedAt } storeId delta e :=
  ⟨h.store, h.product, h.delta, h.transfer⟩

theorem Transfer.Told.update {status : TransferStatus} (h : t.Told status events) (status' : TransferStatus)
    (notes : Option String) (updatedAt : T) :
    Transfer.Told { t with status := status', notes := notes, updatedAt := updatedAt } status events := by
  cases h with
  | draft => exact .draft
  | dispatched h => exact .dispatched (h.update status' notes updatedAt)
  | exception h => exact .exception (h.update status' notes updatedAt)
  | received h hr => exact .received (h.update status' notes updatedAt) (hr.update status' notes updatedAt)
  | dropped => exact .dropped
  | restored h hr => exact .restored (h.update status' notes updatedAt) (hr.update status' notes updatedAt)

/-- The statuses that the rules let a transfer go to. -/
theorem allowed_of_validate {current new : TransferStatus} (hne : current ≠ new)
    (h : validateTransferTransition current new = .ok ()) : new ∈ allowedTransitions current := by
  unfold validateTransferTransition at h
  rw [if_neg hne] at h
  by_contra hnot
  rw [if_pos hnot] at h
  cases h

theorem validate_of_allowed {current new : TransferStatus} (h : new ∈ allowedTransitions current) :
    validateTransferTransition current new = .ok () := by
  unfold validateTransferTransition
  rw [if_neg (not_not.2 h), ite_self]

theorem ne_of_allowed {current new : TransferStatus} (h : new ∈ allowedTransitions current) :
    current ≠ new := by
  intro heq
  subst heq
  cases current <;> exact absurd h (by decide)

/-- A change of status tells what it books. -/
theorem Transfer.Told.change {status : TransferStatus} (h : t.Told t.status events)
    (hallowed : status ∈ allowedTransitions t.status) (fresh : Factories T) (userId deviceId : String)
    (occurredAt : Option T) :
    t.Told status (events ++ t.bookings fresh userId deviceId occurredAt status) := by
  have hcancel : t.status ∈ [TransferStatus.dispatched, .exception] →
      ∃ e, createCancelCompensationTransaction fresh t userId deviceId occurredAt = some e ∧
        t.Moves t.sourceStoreId t.quantity e := by
    intro hway
    unfold createCancelCompensationTransaction
    rw [if_neg (not_not.2 hway)]
    exact ⟨_, rfl, rfl, rfl, rfl, rfl⟩
  generalize hs : t.status = current at h hallowed hcancel
  cases h with
  | draft =>
    simp only [allowedTransitions, List.mem_cons, List.not_mem_nil, or_false] at hallowed
    obtain rfl | rfl := hallowed
    · exact .dispatched ⟨rfl, rfl, rfl, rfl⟩
    · have hnone : createCancelCompensationTransaction fresh t userId deviceId occurredAt = none := by
        simp [createCancelCompensationTransaction, hs]
      rw [bookings, hnone]
      exact .dropped
  | dispatched h =>
    simp only [allowedTransitions, List.mem_cons, List.not_mem_nil, or_false] at hallowed
    obtain rfl | rfl | rfl := hallowed
    · exact .received h ⟨rfl, rfl, rfl, rfl⟩
    · exact .exception h
    · obtain ⟨r, hsome, hr⟩ := hcancel (by simp)
      rw [bookings, hsome]
      exact .restored h hr
  | exception h =>
    simp only [allowedTransitions, List.mem_cons, List.not_mem_nil, or_false] at hallowed
    obtain rfl | rfl := hallowed
    · exact .received h ⟨rfl, rfl, rfl, rfl⟩
    · obtain ⟨r, hsome, hr⟩ := hcancel (by simp)
      rw [bookings, hsome]
      exact .restored h hr
  | received h hr => simp [allowedTransitions] at hallowed
  | dropped => simp [allowedTransitions] at hallowed
  | restored h hr => simp [allowedTransitions] at hallowed

theorem Life.told (h : Life t events) : t.Told t.status events := by
  induction h with
  | draft hs =>
    rw [hs]
    exact .draft
  | change h hne hallowed fresh userId deviceId occurredAt notes updatedAt ih =>
    exact (ih.change (allowed_of_validate hne hallowed) fresh userId deviceId occurredAt).update _ _ _

theorem Transfer.Moves.deltas {e r : InventoryTransaction T} {source destination : String}
    (h : t.Moves source (-t.quantity) e) (hr : t.Moves destination t.quantity r) :
    validateTransferDeltas e r = .ok () := by
  unfold validateTransferDeltas
  rw [h.transfer, hr.transfer, h.product, hr.product, h.delta, hr.delta]
  simp

/-- Of a transfer that has been received, the rules accept the deltas. -/
theorem Life.received (h : Life t events) (hs : t.status = .received) :
    ∃ e r, events = [e, r] ∧ validateTransferDeltas e r = .ok () := by
  have htold := h.told
  rw [hs] at htold
  cases htold with
  | received hdispatch hreceipt => exact ⟨_, _, rfl, hdispatch.deltas hreceipt⟩

end Domain
