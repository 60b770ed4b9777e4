import InvenTory.Sync.Proof.Flight

/-!
# One device

The balances of the server are those of the desktop, once nothing is left to be sent, in every run whose
commands come between two pushes and delete no transaction that is synced (`single_device_converges`). The
deletion of one is sent as the opposite quantity, and the server takes that for the new one
(`deletion_counted`).
-/

namespace Sync.Flight

open Desktop (Clock Command Db Instant OutboxEvent OutboxPayload PerEvent PerTransaction Projects
  SameMovement)
open Server (StockKey)
open Relational Sql Sql.Prog

variable {w : Setting} {s : State} {t : String} {d d' : Db} {uid : Int} {now : Instant}
  {r : Desktop.InventoryTransaction} {e : OutboxEvent} {o : Option Server.InventoryTransaction}
  {rs : Desktop.Rust} {clk : Clock} {cmd : Command}

/-! ## The same stock -/

/-- The quantities agree, and so does what they are of. -/
def sameStock : Match where
  Shows r row := row.quantityDelta = r.quantityDelta ∧ row.stock = r.stock
  Kin r row := row.stock = r.stock
  kin h := h.2
  shows_blind := by
    rintro r r' row ⟨_, _, rfl⟩ h
    exact h
  kin_blind := by
    rintro r r' row ⟨_, _, rfl⟩ h
    exact h

theorem orDefault_of_ne {x fallback : String} (h : x ≠ "") : orDefault x fallback = x := if_neg h

theorem orDefault_ne {x fallback : String} (h : fallback ≠ "") : orDefault x fallback ≠ "" := by
  unfold orDefault
  split
  · exact h
  · assumption

theorem next_stock {x : Server.Submission} {row : Server.InventoryTransaction} :
    (x.next (some row)).stock = row.stock := by
  unfold Server.Submission.next
  dsimp only
  split <;> rfl

theorem carries_sameStock {payload : OutboxPayload}
    (hq : payload.quantityDelta.toInt = r.quantityDelta) (hs : payload.stock = r.stock)
    (hnone : o = none → payload.stockBucket ≠ "") (hsome : ∀ row, o = some row → row.stock = r.stock) :
    Carries sameStock uid r o payload := by
  intro env
  refine ⟨by rw [Server.next_quantityDelta]; exact hq, ?_⟩
  cases o with
  | none =>
    have hnew : (Server.Submission.next ⟨(buildPushItem payload).payload uid, env⟩ none).stock =
        ⟨payload.storeId, payload.productId, orDefault payload.stockBucket "AVAILABLE"⟩ := rfl
    rw [hnew, orDefault_of_ne (hnone rfl)]
    exact hs
  | some row =>
    rw [next_stock]
    exact hsome row rfl

/-- What the server does not have yet is in a bucket that is named. -/
theorem Alive.bucket (ha : Alive sameStock uid t .idle r none e) : r.stockBucket ≠ "" := by
  have hn : ∀ x ∈ Phase.idle.flying, x.payload.transactionId ≠ t := fun _ hx => absurd hx List.not_mem_nil
  by_cases hd : Deliverable e
  · have hbucket := congrArg StockKey.stockBucket (ha.waits hd hn Server.Sample.env).2
    change orDefault e.payload.stockBucket "AVAILABLE" = r.stockBucket at hbucket
    rw [← hbucket]
    exact orDefault_ne Desktop.available_ne
  · obtain ⟨row, hnone, -⟩ := ha.settled hd
    cases hnone

theorem edits_sameStock {input : Desktop.UpdateTransactionInput} (now : Instant)
    (ha : Alive sameStock uid input.transactionId .idle r o e) :
    Edits sameStock uid input.transactionId .idle (input.edit r) o (input.payload r now) where
  quantity _ hx := absurd hx List.not_mem_nil
  waits _ := carries_sameStock rfl rfl (fun ho => (ho ▸ ha).bucket) ha.kin
  flies _ hx := absurd hx List.not_mem_nil
  lands _ hx := absurd hx List.not_mem_nil
  kin := ha.kin

theorem Between.deletable {M : Match} (h : Between s cmd) (ha : Aligned M w s) {t : String}
    (hcmd : cmd = .deleteTransaction t) : Deletable s t := by
  intro r hr
  obtain ⟨-, -, e, -, halive⟩ := ha.event hr
  rw [h.idle] at halive
  split
  · rename_i hs
    exact h.deletion t hcmd r hr hs
  · rename_i hs
    refine ⟨fun row hrow => ?_, fun y hy => ?_⟩
    · -- what the server has is synced, between two pushes
      rcases halive.marked (by rw [hrow]; rfl) with hsynced | ⟨y, hy, -⟩
      · exact absurd hsynced hs
      · cases hy
    · rw [h.idle] at hy
      cases hy

theorem Reached.sameStock (hpy : w.py.Conforms) (h : Reached rs w (fun _ => Between) s) :
    Aligned sameStock w s :=
  h.aligned hpy fun ha hok hrun =>
    ha.command hrun
      (fun hc => ha.creates hc hrun fun m hm _ =>
        carries_sameStock rfl rfl (fun _ => hm.bucket) fun _ ho => by cases ho)
      (fun input r e _ _ halive => by
        rw [hok.idle] at halive ⊢
        exact edits_sameStock _ halive)
      fun t hcmd => hok.deletable ha hcmd

/-! ## The balances of the desktop -/

theorem projects_perEvent {g : OutboxEvent → OutboxEvent} (h : Projects d) (hd : PerEvent g d d') :
    Projects d' :=
  h.sameLedger (Desktop.sameLedger_of_same hd.transactions hd.balances)

theorem projects_perTransaction {f : Desktop.InventoryTransaction → Desktop.InventoryTransaction}
    (h : Projects d) (hd : PerTransaction f d d') (hf : ∀ r, SameMovement r (f r)) : Projects d' := by
  intro k
  rw [Desktop.quantity_congr hd.balances, h k]
  refine Table.total_congr fun t => ?_
  rw [Table.share, Table.share, hd.transactions, Option.map_map]
  cases d.transactions.get? t with
  | none => rfl
  | some r =>
    obtain ⟨_, _, hr⟩ := hf r
    simp only [Option.map_some, Function.comp_apply, hr]
    rfl

theorem Reached.summed (hpy : w.py.Conforms) (h : Reached rs w (fun _ => Between) s) :
    Projects s.desktop := by
  induction h with
  | start => exact Desktop.projects_empty
  | command clk cmd _ hrun hok ih =>
    exact ih.command (F := fun _ => False) hok.fits (yields_of_eval hrun)
  | other _ hd ih => exact ih.same hd
  | serve _ _ _ ih => exact ih
  | @fetch s now h hp ih =>
    obtain ⟨d, rows, hs, hd, -⟩ := fetch_eq w s now
    rw [hs]
    exact projects_perEvent ih hd
  | mark now h hp ih =>
    obtain ⟨d, hs, hd⟩ := (h.sameStock hpy).mark_eq hp now
    rw [hs]
    exact projects_perEvent ih hd
  | post env _ _ _ _ ih => exact ih
  | writeOutbox now h hp ih =>
    obtain ⟨d, hs, hd⟩ := (h.sameStock hpy).writeOutbox_eq hp now
    rw [hs]
    exact projects_perEvent ih hd
  | @writeTxs s rows receipts outbox h hp ih =>
    obtain ⟨d, hs, hd⟩ := writeTxs_eq w s rows receipts outbox
    rw [hs]
    exact projects_perTransaction ih hd (Desktop.sameMovement_settle _)
  | finish _ _ ih => exact ih

/-- **One device and the server** have the same balances once nothing is left to be sent. -/
theorem single_device_converges (hpy : w.py.Conforms) (h : Reached rs w (fun _ => Between) s)
    (hq : Quiet s) (k : StockKey) : s.server.quantity k = s.desktop.quantity k := by
  have ha := h.sameStock hpy
  rw [h.integral.balanced k, h.summed hpy k]
  refine Table.total_congr fun t => ?_
  cases hrow : s.desktop.transactions.get? t with
  | some r =>
    have hid : r.transactionId = t := Table.key_of_get? hrow
    obtain ⟨row, hserver, hquantity, hstock⟩ := ha.shows hq (Table.mem_of_get? hrow)
    rw [hid] at hserver
    rw [Table.share_some hserver, Table.share_some hrow,
      Server.contribution_accepted (h.integral.accepted t row hserver), hstock, hquantity]
  | none =>
    rw [Table.share_none hrow]
    cases hserver : s.server.ledger.get? t with
    | none => exact Table.share_none hserver
    | some row =>
      rw [Table.share_some hserver, Server.Db.contribution, ha.weightless hq hserver hrow, ite_self]

/-! ## Sample runs -/

namespace Sample

open Sync.Sample

/-- What the desktop and the server have in stock. -/
def stocks (s : State) : Int × Int :=
  (s.desktop.quantity (Desktop.available "STORE-A" "PROD-1"),
    s.server.quantity (Desktop.available "STORE-A" "PROD-1"))

/-- The receipt was a mistake. -/
def deletion : Act := .command (clock 2 5) (.deleteTransaction "TX-1")

def isIdle : Phase → Bool
  | .idle => true
  | _ => false

theorem isIdle_eq {p : Phase} (h : isIdle p = true) : p = .idle := by
  cases p <;> simp_all [isIdle]

/-- The edit comes between two pushes, and its numbers are small. -/
def careful (s : State) : Bool :=
  isIdle s.phase && (s.desktop.transactions.get? "TX-1").all fun r =>
    -2 ^ 31 ≤ 7 - r.quantityDelta ∧ 7 - r.quantityDelta < 2 ^ 31

theorem between_edited {s : State} (h : careful s = true) :
    Between s (.updateTransaction (edit "TX-1" 7)) := by
  obtain ⟨hidle, hfits⟩ := Bool.and_eq_true_iff.1 h
  refine ⟨isIdle_eq hidle, fun r hr => ?_, fun t ht => by cases ht⟩
  have hr' : s.desktop.transactions.get? "TX-1" = some r := hr
  rw [hr', Option.all_some, decide_eq_true_eq] at hfits
  exact hfits

end Sample

open Flight.Sample Sync.Sample in
/-- A receipt that is edited after it was pushed. -/
theorem edited_converges : ∃ s, acts start (arrival :: push 1 ++ amended :: push 3) = some s ∧
    stocks s = (7, 7) ∧ ∀ k, s.server.quantity k = s.desktop.quantity k := by
  have hrun : (acts start (arrival :: push 1 ++ amended :: push 3)).any
      (fun s => Quiet s ∧ stocks s = (7, 7)) = true := by decide +kernel
  have hcareful : (acts start (arrival :: push 1)).all careful = true := by decide +kernel
  obtain ⟨s, h, hq, hstocks⟩ := exists_acts hrun
  have hr : Reached rust setting (fun _ => Between) s := by
    refine reached_corrected h (fun clk cmd hmem => ?_) ?_ fun s1 h1 => ?_
    · simp [push] at hmem
    · exact ⟨rfl, trivial, fun t ht => by cases ht⟩
    · rw [h1] at hcareful
      exact between_edited hcareful
  exact ⟨s, h, hstocks, single_device_converges Server.Sample.conforms hr hq⟩

open Flight.Sample Sync.Sample in
/-- Ten are received, pushed, and deleted: the desktop has none, and the server counts minus ten. -/
theorem deletion_counted : ¬ ∀ s, Reached rust setting (fun _ s _ => s.phase = .idle) s → Quiet s →
    ∀ k, s.server.quantity k = s.desktop.quantity k := by
  intro h
  have hrun : (acts start (arrival :: push 1 ++ deletion :: push 3)).any
      (fun s => Quiet s ∧ stocks s = (0, -10)) = true := by decide +kernel
  have hcareful : (acts start (arrival :: push 1)).all careful = true := by decide +kernel
  obtain ⟨s, hs, hq, hstocks⟩ := exists_acts hrun
  have hr : Reached rust setting (fun _ s _ => s.phase = .idle) s := by
    refine reached_corrected hs (fun clk cmd hmem => ?_) rfl fun s1 h1 => ?_
    · simp [push] at hmem
    · rw [h1] at hcareful
      exact (between_edited hcareful).idle
  obtain ⟨hdesktop, hserver⟩ := Prod.mk.inj hstocks
  have heq := h s hr hq (Desktop.available "STORE-A" "PROD-1")
  omega

end Sync.Flight
