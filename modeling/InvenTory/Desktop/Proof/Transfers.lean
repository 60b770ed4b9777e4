import InvenTory.Desktop.Proof.Nonneg

/-!
# Transfers conserve stock

A transfer command that is carried out creates a draft, or moves a transfer that is not finished to
another status and books what this takes out of a store or brings in (`Transferred`). So the stock of
a product in all stores, with what is on its way, stays the same, and the ledger rows of a transfer
add up to what its status says (`TransferRun.conserves`).
-/

namespace Desktop

open Relational Sql Sql.Prog
open Server (StockKey)

/-! ## Commands -/

inductive TransferCommand
  | createTransfer (input : CreateTransferInput)
  | dispatchTransfer (transferId userId deviceId : String)
  | receiveTransfer (transferId userId deviceId : String)
  | cancelTransfer (transferId userId deviceId : String)
  | markTransferException (transferId : String) (notes : Option String)

namespace TransferCommand

def run (clk : Clock) : TransferCommand → Prog String Db Unit
  | .createTransfer input => forget (Desktop.createTransfer clk input)
  | .dispatchTransfer t user device => forget (Desktop.dispatchTransfer clk t user device)
  | .receiveTransfer t user device => forget (Desktop.receiveTransfer clk t user device)
  | .cancelTransfer t user device => forget (Desktop.cancelTransfer clk t user device)
  | .markTransferException t notes => forget (Desktop.markTransferException clk t notes)

/-- The checks of a command, with the steps that it is then to run. -/
def plan (clk : Clock) : TransferCommand → Prog String Db (List Step)
  | .createTransfer input => (createTransfer.staged clk input).plan
  | .dispatchTransfer t user device => (dispatchTransfer.staged clk t user device).plan
  | .receiveTransfer t user device => (receiveTransfer.staged clk t user device).plan
  | .cancelTransfer t user device => (cancelTransfer.staged clk t user device).plan
  | .markTransferException t notes => (markTransferException.staged clk t notes).plan

theorem run_eq (clk : Clock) (cmd : TransferCommand) :
    cmd.run clk = cmd.plan clk >>= fun xs => carryOut false (xs.map Step.write) := by
  cases cmd with
  | createTransfer input => exact (createTransfer.staged clk input).forget_eq
  | dispatchTransfer t user device => exact (dispatchTransfer.staged clk t user device).forget_eq
  | receiveTransfer t user device => exact (receiveTransfer.staged clk t user device).forget_eq
  | cancelTransfer t user device => exact (cancelTransfer.staged clk t user device).forget_eq
  | markTransferException t notes => exact (markTransferException.staged clk t notes).forget_eq

end TransferCommand

/-- What a transfer command plans. -/
inductive TransferPlanned (clk : Clock) (d : Db) (xs : List Step) : Prop
  | command {cmd : Command} (hcmd : cmd.onTransfer = true) (h : Planned clk d cmd xs)
  | flag {t : Transfer} {notes : String} (ht : d.transfers.get? t.id = some t)
      (hs : t.status = "DISPATCHED") (hxs : xs = [flagStep t.id notes clk.now])

section
variable {F : String → Prop} {clk : Clock} {d d1 : Db} {xs : List Step}

theorem markTransferException_planned {id : String} {notes : Option String}
    (h : (markTransferException.staged clk id notes).plan.Yields F d (.ok xs) d1) :
    TransferPlanned clk d1 xs := by
  simp only [markTransferException.staged, Staged.plan] at h
  obtain ⟨t, d2, h2, h3⟩ := yields_bind_ok h
  obtain ⟨rfl, rfl, ht⟩ := selectTransfer_row h2
  obtain ⟨hs, h4⟩ := yields_require_bind h3
  obtain ⟨he, rfl⟩ := yields_pure h4
  cases he
  exact .flag ht hs rfl

theorem TransferCommand.planned {cmd : TransferCommand}
    (h : (cmd.plan clk).Yields F d (.ok xs) d1) : TransferPlanned clk d1 xs := by
  cases cmd with
  | createTransfer input => exact .command rfl (createTransfer_planned h)
  | dispatchTransfer t user device => exact .command rfl (dispatchTransfer_planned h)
  | receiveTransfer t user device => exact .command rfl (receiveTransfer_planned h)
  | cancelTransfer t user device => exact .command rfl (cancelTransfer_planned h)
  | markTransferException t notes => exact markTransferException_planned h

theorem TransferCommand.plan_same {cmd : TransferCommand} {r : Except String (List Step)}
    (h : (cmd.plan clk).Yields F d r d1) : SameTables d d1 := by
  have hwithin : ∀ {α : Type} {tx : Bool} {p : Prog String Db α}
      (x : Staged SameTables Step.write tx p), Within SameTables x.plan :=
    fun x => x.plan_within SameTables.refl SameTables.trans
  cases cmd with
  | createTransfer input => exact hwithin (createTransfer.staged clk input) F d r d1 h
  | dispatchTransfer t user device =>
    exact hwithin (dispatchTransfer.staged clk t user device) F d r d1 h
  | receiveTransfer t user device =>
    exact hwithin (receiveTransfer.staged clk t user device) F d r d1 h
  | cancelTransfer t user device =>
    exact hwithin (cancelTransfer.staged clk t user device) F d r d1 h
  | markTransferException t notes =>
    exact hwithin (markTransferException.staged clk t notes) F d r d1 h

end

/-! ## Sums -/

namespace Db

/-- What all stores have available of a product. -/
def inStores (d : Db) (productId : String) : Int :=
  d.balances.total fun b =>
    if b.stock.productId = productId ∧ b.stock.stockBucket = "AVAILABLE" then b.quantity else 0

/-- What is on its way of a product. -/
def inTransit (d : Db) (productId : String) : Int :=
  d.transfers.total fun t =>
    if t.productId = productId ∧ t.status ∈ onTheWay then t.quantity.toInt else 0

/-- The sum of the ledger rows of a transfer. -/
def carried (d : Db) (transferId : String) : Int :=
  d.transactions.total fun r => if r.transferId = some transferId then r.quantityDelta else 0

end Db

def transferStatuses : List String := ["DRAFT", "DISPATCHED", "EXCEPTION", "RECEIVED", "CANCELLED"]

/-- The statuses of a transfer that is finished. -/
def finished : List String := ["RECEIVED", "CANCELLED"]

/-- What the ledger rows of a transfer are to add up to. -/
def owed (quantity : Int32) (status : String) : Int :=
  if status ∈ onTheWay then -quantity.toInt else 0

section
variable {d d1 d' : Db} {t : Transfer} {a b : Int}

/-- `delta` has been booked for the transfer `t`. -/
structure Booked (t : Transfer) (delta : Int) (d d' : Db) : Prop where
  inStores : ∀ p, d'.inStores p = d.inStores p + if t.productId = p then delta else 0
  carried : ∀ id, d'.carried id = d.carried id + if t.id = id then delta else 0
  rows : ∀ r ∈ d'.transactions.rows, r ∈ d.transactions.rows ∨ r.transferId = some t.id

theorem Booked.nothing (hb : d'.balances = d.balances) (ht : d'.transactions = d.transactions) :
    Booked t 0 d d' where
  inStores p := by rw [Db.inStores, Db.inStores, hb, ite_self, add_zero]
  carried id := by rw [Db.carried, Db.carried, ht, ite_self, add_zero]
  rows r hr := .inl (ht ▸ hr)

theorem Booked.trans (h : Booked t a d d1) (h' : Booked t b d1 d') : Booked t (a + b) d d' where
  inStores p := by
    rw [h'.inStores, h.inStores]
    split <;> omega
  carried id := by
    rw [h'.carried, h.carried]
    split <;> omega
  rows r hr := (h'.rows r hr).elim (h.rows r) .inr

theorem inStores_addToBalance {k : StockKey} {delta : Int} (h : d.addToBalance k delta = .ok d')
    (p : String) : d'.inStores p = d.inStores p +
      if k.productId = p ∧ k.stockBucket = "AVAILABLE" then delta else 0 := by
  obtain ⟨-, -, b, hb, hput, hq⟩ := upsertBalance_ok h
  have hb : key b = k := hb
  have hq : b.quantity = ((d.balances.get? k).map fun old => old.quantity + delta).getD delta := hq
  unfold Db.inStores
  rw [hput, Table.total_put, hb, Table.share, show b.stock = k from hb, hq]
  cases hold : d.balances.get? k with
  | none =>
    simp only [Option.map_none, Option.getD_none]
    omega
  | some old =>
    have hk : old.stock = k := Table.key_of_get? hold
    simp only [Option.map_some, Option.getD_some, hk]
    split <;> omega

/-- A recorded movement of a transfer. -/
theorem booked_record {m : Movement} {labels : Labels} {outboxId store : String} {now : Instant}
    {delta : Int32} (hm : m.Carries t store delta)
    (h : applyAll ((m.steps labels outboxId now).map Step.write) d = .ok d') :
    Booked t delta.toInt d d' ∧ d'.transfers = d.transfers := by
  obtain ⟨d1, h1, h⟩ := applyAll_cons.1 h
  obtain ⟨d2, h2, h⟩ := applyAll_cons.1 h
  obtain ⟨d3, h3, h⟩ := applyAll_cons.1 h
  cases h
  have hf1 := Statement.frame (x := .insertTransaction (m.row now)) h1
  have hf2 := Statement.frame (x := .addToBalance m.stock m.quantityDelta.toInt) h2
  have hf3 := Statement.frame (x := .insertEvent (m.event outboxId now)) h3
  obtain ⟨hnew, hput, -⟩ := insertTransaction_ok h1
  have htx : d'.transactions = d.transactions.put (m.row now) :=
    (hf3.transactions nofun).trans ((hf2.transactions nofun).trans hput)
  refine ⟨⟨fun p => ?_, fun id => ?_, fun r hr => ?_⟩, ?_⟩
  · have hin : d'.inStores p = d2.inStores p := by
      rw [Db.inStores, Db.inStores, hf3.balances nofun]
    have hout : d1.inStores p = d.inStores p := by
      rw [Db.inStores, Db.inStores, hf1.balances nofun]
    rw [hin, inStores_addToBalance h2, hout, hm.stock, hm.delta]
    simp [available]
  · rw [Db.carried, htx, Table.total_put_new _ hnew]
    have hrow : (m.row now).transferId = some t.id := hm.transfer
    have hdelta : (m.row now).quantityDelta = delta.toInt := congrArg Int32.toInt hm.delta
    rw [hrow, hdelta]
    simp [Db.carried]
  · rw [htx] at hr
    rcases Table.mem_put.1 hr with rfl | ⟨hr, -⟩
    · exact .inr hm.transfer
    · exact .inl hr
  · exact (hf3.transfers nofun).trans ((hf2.transfers nofun).trans (hf1.transfers nofun))

/-- The transfer `t` is moved to `status`, and `delta` is booked for it. -/
structure Moved (t : Transfer) (status : String) (delta : Int) (d d' : Db) : Prop where
  row : d.transfers.get? t.id = some t
  transfers : ∃ t' : Transfer, t'.id = t.id ∧ t'.productId = t.productId ∧
    t'.quantity = t.quantity ∧ t'.status = status ∧ d'.transfers = d.transfers.put t'
  booked : Booked t delta d d'

/-- `f` leaves a transfer as it is, except for its status, notes and time. -/
theorem moved_update {status : String} {f : Transfer → Transfer}
    (ht : d.transfers.get? t.id = some t)
    (hf : (f t).productId = t.productId ∧ (f t).quantity = t.quantity ∧ (f t).status = status) :
    Moved t status 0 d (d.updateTransfer t.id f) := by
  simp only [Db.updateTransfer, ht]
  exact ⟨ht, ⟨{ f t with id := t.id }, rfl, hf.1, hf.2.1, hf.2.2, rfl⟩, .nothing rfl rfl⟩

theorem moved_status (status : String) (now : Instant) (ht : d.transfers.get? t.id = some t) :
    Moved t status 0 d
      (d.updateTransfer t.id fun t => { t with status := status, updatedAt := now }) :=
  moved_update ht ⟨rfl, rfl, rfl⟩

theorem moved_flag (notes : String) (now : Instant) (ht : d.transfers.get? t.id = some t) :
    Moved t "EXCEPTION" 0 d (d.updateTransfer t.id (Transfer.flag notes now)) :=
  moved_update ht ⟨rfl, rfl, rfl⟩

theorem Moved.booked_after {status : String} (h : Moved t status a d d1) (h' : Booked t b d1 d')
    (ht : d'.transfers = d1.transfers) : Moved t status (a + b) d d' where
  row := h.row
  transfers := by
    obtain ⟨t', hid, hp, hq, hs, hput⟩ := h.transfers
    exact ⟨t', hid, hp, hq, hs, ht.trans hput⟩
  booked := h.booked.trans h'

theorem Moved.booked_before {status : String} (h : Booked t a d d1)
    (ht : d1.transfers = d.transfers) (h' : Moved t status b d1 d') :
    Moved t status (a + b) d d' where
  row := ht ▸ h'.row
  transfers := ht ▸ h'.transfers
  booked := h.trans h'.booked

/-- What a transfer command does that is carried out. -/
inductive Transferred (d d' : Db) : Prop
  | same (h : SameTables d d')
  | created {t : Transfer} (hnew : d.transfers.get? t.id = none) (hs : t.status = "DRAFT")
      (ht : d'.transfers = d.transfers.put t) (hb : d'.balances = d.balances)
      (hr : d'.transactions = d.transactions)
  | moved {t : Transfer} {status : String} {delta : Int} (h : Moved t status delta d d')
      (hopen : t.status ∉ finished) (hs : status ∈ transferStatuses)
      (howed : owed t.quantity status = owed t.quantity t.status + delta)

theorem SameTables.transferred (h : SameTables d d1) (h' : Transferred d1 d') : Transferred d d' := by
  obtain ⟨⟨ht, hb, ho⟩, htr⟩ := h
  have hin : ∀ p, d1.inStores p = d.inStores p := fun p => by rw [Db.inStores, Db.inStores, hb]
  have hca : ∀ id, d1.carried id = d.carried id := fun id => by rw [Db.carried, Db.carried, ht]
  cases h' with
  | same h' => exact .same (trans _ _ _ ⟨⟨ht, hb, ho⟩, htr⟩ h')
  | created hnew hs hput hb' hr' =>
    exact .created (htr ▸ hnew) hs (htr ▸ hput) (hb'.trans hb) (hr'.trans ht)
  | moved h' hopen hs howed =>
    have hbook : Booked _ _ d d' :=
      ⟨fun p => hin p ▸ h'.booked.inStores p, fun id => hca id ▸ h'.booked.carried id,
        fun r hr => ht ▸ h'.booked.rows r hr⟩
    exact .moved ⟨htr ▸ h'.row, htr ▸ h'.transfers, hbook⟩ hopen hs howed

theorem insertTransfer_ok (h : d.insertTransfer t = .ok d') : d.transfers.get? t.id = none ∧
    d'.transfers = d.transfers.put t ∧ d'.balances = d.balances ∧
      d'.transactions = d.transactions := by
  unfold Db.insertTransfer at h
  split at h
  · cases h
  · rename_i hn
    split at h <;> cases h
    exact ⟨by simpa using hn, rfl, rfl, rfl⟩

theorem owed_onTheWay {q : Int32} {status : String} (h : status ∈ onTheWay) :
    owed q status = -q.toInt := if_pos h

theorem owed_of_not {q : Int32} {status : String} (h : status ∉ onTheWay) : owed q status = 0 :=
  if_neg h

theorem not_finished_of_onTheWay {status : String} (h : status ∈ onTheWay) : status ∉ finished := by
  simp only [onTheWay, finished, List.mem_cons, List.not_mem_nil, or_false] at *
  rcases h with rfl | rfl <;> decide

/-- **What is planned for a transfer, carried out.** -/
theorem Planned.transferred {clk : Clock} {cmd : Command} {xs : List Step}
    (hp : Planned clk d cmd xs) (hcmd : cmd.onTransfer = true) (hs : Sound d)
    (h : applyAll (xs.map Step.write) d = .ok d') : Transferred d d' := by
  cases hp with
  | record hno _ => exact absurd (hcmd.symm.trans hno) nofun
  | move hno _ _ => exact absurd (hcmd.symm.trans hno) nofun
  | create hq =>
    obtain ⟨d1, h1, h2⟩ := applyAll_cons.1 h
    cases h2
    obtain ⟨hnew, ht, hb, hr⟩ := insertTransfer_ok h1
    exact .created hnew rfl ht hb hr
  | @dispatch t user device m labels outboxId ht hst hm hc =>
    obtain ⟨d1, h1, h2⟩ := applyAll_cons.1 h
    cases h1
    obtain ⟨hbook, htr⟩ := booked_record hm h2
    have hmoved := (moved_status "DISPATCHED" clk.now ht).booked_after hbook htr
    refine .moved hmoved (by rw [hst]; decide) (by decide) ?_
    rw [owed_onTheWay (by decide), owed_of_not (by rw [hst]; decide),
      toInt_neg_of_pos (hs.transfers t (Table.mem_of_get? ht))]
    omega
  | @receive t user device m labels outboxId ht hst hm =>
    obtain ⟨d1, h1, h2⟩ := applyAll_cons.1 h
    cases h1
    obtain ⟨hbook, htr⟩ := booked_record hm h2
    have hmoved := (moved_status "RECEIVED" clk.now ht).booked_after hbook htr
    refine .moved hmoved (not_finished_of_onTheWay hst) (by decide) ?_
    rw [owed_onTheWay hst, owed_of_not (by decide)]
    omega
  | @restock t user device m labels outboxId ht hst hm =>
    rw [List.map_append, applyAll_append] at h
    obtain ⟨d1, h1, h2⟩ := h
    obtain ⟨hbook, htr⟩ := booked_record hm h1
    obtain ⟨d2, h3, h4⟩ := applyAll_cons.1 h2
    cases h4
    cases h3
    have hback := moved_status (d := d1) "CANCELLED" clk.now (htr ▸ ht)
    refine .moved (Moved.booked_before hbook htr hback) (not_finished_of_onTheWay hst) (by decide) ?_
    rw [owed_onTheWay hst, owed_of_not (by decide)]
    omega
  | cancel ht hst hw =>
    obtain ⟨d1, h1, h2⟩ := applyAll_cons.1 h
    cases h2
    cases h1
    refine .moved (moved_status "CANCELLED" clk.now ht) hst (by decide) ?_
    rw [owed_of_not hw, owed_of_not (by decide)]
    rfl
  | update _ _ => cases hcmd
  | absent _ => cases hcmd
  | delete _ _ => cases hcmd

theorem TransferPlanned.transferred {clk : Clock} {xs : List Step} (hp : TransferPlanned clk d xs)
    (hs : Sound d) (h : applyAll (xs.map Step.write) d = .ok d') :
    Transferred d d' ∧ Sound d' := by
  cases hp with
  | @command cmd hcmd hp =>
    refine ⟨hp.transferred hcmd hs h, (hp.through ?_ hs).of_take (n := (xs.map Step.write).length) ?_⟩
    · cases cmd <;> trivial
    · rw [List.take_length]
      exact h
  | @flag t notes ht hst hxs =>
    subst hxs
    obtain ⟨d1, h1, h2⟩ := applyAll_cons.1 h
    cases h2
    refine ⟨?_, hs.step (x := .flagTransfer t.id notes clk.now) trivial h1⟩
    cases h1
    refine .moved (moved_flag notes clk.now ht) ?_ (by decide) ?_
    · rw [hst]
      decide
    · rw [hst, owed_onTheWay (by decide), owed_onTheWay (by decide), add_zero]

end

/-! ## The law of transfers -/

/-- What transfers keep, in a run from `d0` to `d`. -/
structure Settled (d0 d : Db) : Prop where
  sound : Sound d
  total : ∀ p, d.inStores p + d.inTransit p = d0.inStores p + d0.inTransit p
  transfers : ∀ t ∈ d.transfers.rows, t.status ∈ transferStatuses ∧
    d.carried t.id = owed t.quantity t.status
  known : ∀ r ∈ d.transactions.rows, ∀ id, r.transferId = some id → (d.transfers.get? id).isSome

section
variable {d0 d d' : Db} {t : Transfer}

/-- A product has on its way what the transfers owe. -/
theorem inTransit_eq (d : Db) (p : String) : d.inTransit p =
    d.transfers.total fun t => if t.productId = p then -owed t.quantity t.status else 0 := by
  unfold Db.inTransit owed
  congr 1
  funext t
  split
  · rename_i h
    rw [if_pos h.1, if_pos h.2, neg_neg]
  · rename_i h
    split
    · rw [if_neg fun hs => h ⟨‹_›, hs⟩, neg_zero]
    · rfl

theorem Moved.inTransit {status : String} {delta : Int} (h : Moved t status delta d d')
    (howed : owed t.quantity status = owed t.quantity t.status + delta) (p : String) :
    d'.inTransit p = d.inTransit p - if t.productId = p then delta else 0 := by
  obtain ⟨t', hid, hp, hq, hs, hput⟩ := h.transfers
  have hkey : key t' = t.id := hid
  rw [inTransit_eq, inTransit_eq, hput, Table.total_put, hkey, Table.share_some h.row, hp, hq, hs,
    howed]
  split <;> omega

theorem carried_of_unknown {id : String} (h : ∀ r ∈ d.transactions.rows, r.transferId ≠ some id) :
    d.carried id = 0 := by
  refine List.sum_eq_zero fun x hx => ?_
  obtain ⟨r, hr, rfl⟩ := List.mem_map.1 hx
  exact if_neg (h r hr)

theorem Settled.congr {d1 : Db} (h : Settled d0 d) (hs : SameTables d d1) : Settled d0 d1 where
  sound := h.sound.congr hs.balances hs.transfers
  total p := by
    rw [Db.inStores, Db.inTransit, hs.balances, hs.transfers]
    exact h.total p
  transfers t ht := by
    rw [Db.carried, hs.transactions]
    exact h.transfers t (hs.transfers ▸ ht)
  known r hr id hid := by
    rw [hs.transfers]
    exact h.known r (hs.transactions ▸ hr) id hid

theorem Settled.created (h : Settled d0 d) (hnew : d.transfers.get? t.id = none)
    (hst : t.status = "DRAFT") (ht : d'.transfers = d.transfers.put t)
    (hb : d'.balances = d.balances) (hr : d'.transactions = d.transactions) (hs : Sound d') :
    Settled d0 d' where
  sound := hs
  total p := by
    have hzero : ¬(t.productId = p ∧ t.status ∈ onTheWay) := by
      rw [hst]
      exact fun hp => absurd hp.2 (by decide)
    rw [← h.total p, Db.inStores, Db.inTransit, hb, ht, Table.total_put_new _ hnew, if_neg hzero,
      add_zero]
    rfl
  transfers t' ht' := by
    rw [Db.carried, hr]
    rw [ht] at ht'
    rcases Table.mem_put.1 ht' with rfl | ⟨ht', -⟩
    · rw [hst]
      refine ⟨by decide, (carried_of_unknown (d := d) fun r hr hid => ?_).trans ?_⟩
      · have hknown := h.known r hr _ hid
        rw [hnew] at hknown
        cases hknown
      · exact (owed_of_not (by decide)).symm
    · exact h.transfers t' ht'
  known r hr' id hid := by
    rw [ht, Table.get?_put]
    split
    · rfl
    · exact h.known r (hr ▸ hr') id hid

theorem Settled.moved {status : String} {delta : Int} (h : Settled d0 d)
    (hm : Moved t status delta d d') (hst : status ∈ transferStatuses)
    (howed : owed t.quantity status = owed t.quantity t.status + delta) (hs : Sound d') :
    Settled d0 d' where
  sound := hs
  total p := by
    rw [← h.total p, hm.booked.inStores, hm.inTransit howed]
    omega
  transfers t'' ht'' := by
    obtain ⟨t', hid, -, hq, hs', hput⟩ := hm.transfers
    rw [hm.booked.carried]
    rw [hput] at ht''
    rcases Table.mem_put.1 ht'' with rfl | ⟨ht'', hne⟩
    · rw [if_pos hid.symm, hid, (h.transfers t (Table.mem_of_get? hm.row)).2, hs', hq]
      exact ⟨hst, howed.symm⟩
    · have hne : ¬t.id = t''.id := fun he => hne (he.symm.trans hid.symm)
      rw [if_neg hne, add_zero]
      exact h.transfers t'' ht''
  known r hr id hid := by
    obtain ⟨t', hid', -, -, -, hput⟩ := hm.transfers
    rw [hput, Table.get?_put]
    split
    · rfl
    · rename_i hne
      rcases hm.booked.rows r hr with hr | hr
      · exact h.known r hr id hid
      · rw [hid] at hr
        exact absurd (hid'.trans (Option.some.inj hr).symm) hne

theorem Settled.step (h : Settled d0 d) (ht : Transferred d d') (hs : Sound d') : Settled d0 d' := by
  cases ht with
  | same hsame => exact h.congr hsame
  | created hnew hst hput hb hr => exact h.created hnew hst hput hb hr hs
  | moved hm hopen hst howed => exact h.moved hm hst howed hs

/-- A finished transfer stays as it is. -/
theorem Transferred.finished (h : Transferred d d') {id : String}
    (ht : d.transfers.get? id = some t) (hf : t.status ∈ finished) :
    d'.transfers.get? id = some t := by
  cases h with
  | same hsame => exact hsame.transfers ▸ ht
  | @created t' hnew hst hput hb hr =>
    have hne : key t' ≠ id := by
      rintro rfl
      exact absurd (hnew.symm.trans ht) nofun
    rw [hput, Table.get?_put_of_ne _ hne]
    exact ht
  | @moved t' status delta hm hopen hst howed =>
    obtain ⟨t'', hid, -, -, -, hput⟩ := hm.transfers
    have hne : key t'' ≠ id := by
      intro he
      have heq : t'.id = id := hid.symm.trans he
      rw [← heq, hm.row] at ht
      cases ht
      exact hopen hf
    rw [hput, Table.get?_put_of_ne _ hne]
    exact ht

end

/-! ## Runs of transfer commands -/

/-- A transfer command as it is called, with the faults of its statements. -/
structure TransferCall where
  clk : Clock
  cmd : TransferCommand
  faults : List (Option String)

namespace TransferCall

def after (c : TransferCall) (d : Db) : Db := ((c.cmd.run c.clk).run c.faults d).state

/-- No writing statement fails: the checks reject the command, or it is carried out. -/
def Clean (c : TransferCall) (d : Db) : Prop :=
  ∀ xs d1 fs1, (c.cmd.plan c.clk).run c.faults d = ⟨.ok xs, d1, fs1⟩ →
    stop (xs.map Step.write) fs1 d1 = none

theorem step {c : TransferCall} {d : Db} (hs : Sound d) (hc : c.Clean d) :
    Transferred d (c.after d) ∧ Sound (c.after d) := by
  unfold after
  rw [TransferCommand.run_eq]
  rcases hp : (c.cmd.plan c.clk).run c.faults d with ⟨r, d1, fs1⟩
  have hy : (c.cmd.plan c.clk).Yields (fun _ => True) d r d1 :=
    ⟨c.faults, fs1, fun _ _ => trivial, hp⟩
  have hsame := TransferCommand.plan_same hy
  have hs1 := hs.congr hsame.balances hsame.transfers
  cases r with
  | error e =>
    rw [run_bind_error hp]
    exact ⟨.same hsame, hs1⟩
  | ok xs =>
    rw [run_bind_ok hp]
    have hhalts := run_commitEach (xs.map Step.write) fs1 d1
    have hstop := hc xs d1 fs1 hp
    show Transferred d ((commitEach (xs.map Step.write)).run fs1 d1).state ∧
      Sound ((commitEach (xs.map Step.write)).run fs1 d1).state
    generalize ((commitEach (xs.map Step.write)).run fs1 d1).result = r at hhalts
    cases hhalts with
    | ok _ hd =>
      obtain ⟨ht, hs'⟩ := (TransferCommand.planned hy).transferred hs1 hd
      exact ⟨hsame.transferred ht, hs'⟩
    | error hn _ _ => exact absurd (hstop.symm.trans hn) nofun

end TransferCall

/-- The databases that transfer commands lead to from `d0`. -/
inductive TransferRun (d0 : Db) : Db → Prop
  | start : TransferRun d0 d0
  | call {d : Db} (c : TransferCall) (h : TransferRun d0 d) (hc : c.Clean d) :
    TransferRun d0 (c.after d)

/-- There are no transfers yet, and there is no negative balance. -/
structure TransferStart (d : Db) : Prop where
  transfers : d.transfers = ∅
  transactions : ∀ r ∈ d.transactions.rows, r.transferId = none
  balances : ∀ b ∈ d.balances.rows, 0 ≤ b.quantity

namespace TransferRun

variable {d0 d1 d2 : Db}

theorem settled_start (h : TransferStart d0) : Settled d0 d0 := by
  have hno : ∀ t, t ∉ d0.transfers.rows := by simp [h.transfers]
  refine ⟨⟨fun k => ?_, fun t ht => absurd ht (hno t)⟩, fun _ => rfl, fun t ht => absurd ht (hno t),
    fun r hr id hid => ?_⟩
  · unfold Db.quantity
    cases hk : d0.balances.get? k with
    | none => exact le_rfl
    | some b => exact h.balances b (Table.mem_of_get? hk)
  · rw [h.transactions r hr] at hid
    cases hid

theorem settled (h : TransferRun d0 d1) (h0 : Settled d0 d0) : Settled d0 d1 := by
  induction h with
  | start => exact h0
  | call c _ hc ih =>
    obtain ⟨ht, hs⟩ := TransferCall.step ih.sound hc
    exact ih.step ht hs

theorem finished (h : TransferRun d1 d2) (hs : Sound d1) {id : String} {t : Transfer}
    (ht : d1.transfers.get? id = some t) (hf : t.status ∈ Desktop.finished) :
    Sound d2 ∧ d2.transfers.get? id = some t := by
  induction h with
  | start => exact ⟨hs, ht⟩
  | call c _ hc ih =>
    obtain ⟨htr, hs'⟩ := TransferCall.step ih.1 hc
    exact ⟨hs', htr.finished ih.2 hf⟩

/-- **Transfers conserve stock.** -/
theorem conserves (h0 : TransferStart d0) (h1 : TransferRun d0 d1) (h2 : TransferRun d1 d2) :
    (∀ p, d1.inStores p + d1.inTransit p = d0.inStores p + d0.inTransit p) ∧
    (∀ t ∈ d1.transfers.rows, t.status ∈ transferStatuses ∧
      d1.carried t.id = owed t.quantity t.status) ∧
    (∀ t ∈ d1.transfers.rows, t.status ∈ Desktop.finished → d2.transfers.get? t.id = some t) ∧
    ∀ b ∈ d1.balances.rows, 0 ≤ b.quantity := by
  have hset := h1.settled (settled_start h0)
  refine ⟨hset.total, hset.transfers, fun t ht hf => ?_, fun b hb => ?_⟩
  · exact (h2.finished hset.sound (Table.get?_of_mem ht) hf).2
  · have hq := hset.sound.quantity b.stock
    rwa [Db.quantity, show d1.balances.get? b.stock = some b from Table.get?_of_mem hb] at hq

end TransferRun

namespace Sample

def transferOf (quantity : Int32) : TransferCall :=
  ⟨clock 5, .createTransfer ⟨"STORE-A", "STORE-B", "PROD-1", quantity, "USER-1", none⟩, []⟩

def dispatch : TransferCall := ⟨clock 6, .dispatchTransfer "TRF-5" "USER-1" "DEV-1", []⟩

def arrival : TransferCall := ⟨clock 8, .receiveTransfer "TRF-5" "USER-1" "DEV-1", []⟩

def stocked : Db := receipt.after rust .empty

def drafted : Db := (transferOf 4).after stocked

def underWay : Db := dispatch.after drafted

def isClean (c : TransferCall) (d : Db) : Bool :=
  match (c.cmd.plan c.clk).run c.faults d with
  | ⟨.ok xs, d1, fs1⟩ => (stop (xs.map Step.write) fs1 d1).isNone
  | ⟨.error _, _, _⟩ => true

theorem clean_of {c : TransferCall} {d : Db} (h : isClean c d = true) : c.Clean d := by
  intro xs d1 fs1 hp
  simp only [isClean, hp] at h
  exact Option.isNone_iff_eq_none.1 h

theorem start_stocked : TransferStart stocked where
  transfers := rfl
  transactions := by decide +kernel
  balances := by decide +kernel

theorem run_underWay : TransferRun stocked underWay :=
  .call dispatch (.call (transferOf 4) .start (clean_of (by decide +kernel)))
    (clean_of (by decide +kernel))

end Sample

open Sample in
/-- Ten are in the stores or on their way while four are. -/
theorem conserves_underWay : underWay.inStores "PROD-1" + underWay.inTransit "PROD-1" = 10 :=
  ((TransferRun.conserves start_stocked run_underWay
    (.call arrival .start (clean_of (by decide +kernel)))).1 "PROD-1").trans (by decide +kernel)

end Desktop
