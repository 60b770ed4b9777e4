import InvenTory.Server.Proof.StoreRows
import InvenTory.Sync.Proof.StorePush

/-!
# What arrives of the store changes

All but three kinds of events only move changes along (`Moves`): no change comes up that was not on its way,
and one that is no longer on its way has been delivered. From this, a store that is renamed only while none
of its renames is on its way has its name and address at the server as soon as none is (`renames_arrive`).
Whether a store is active is not among what a patch brings, so that switching a store off is acknowledged
and never happens (`never_switched_off`).
-/

namespace Sync.StorePush

open Relational Runs
open Desktop (trim)
open Desktop.Catalogue (Store Stamp Tables)
open Server (CentralDb DateTime isAutoStore)
open Server.CentralDb (SameStore Active)

/-- The item is the change `c` of the command `k`. -/
def Item.Is (item : Item) (k : Nat) (c : StoreChange) : Prop := item.number = k ∧ item.change = c

namespace World

variable {w w' : World} {item : Item} {a b : Attempts} {k n i : Nat} {c : StoreChange}

/-! ## Changes on their way -/

/-- The change of the command `k` is on its way. -/
def Pending (w : World) (k : Nat) (c : StoreChange) : Prop :=
  (∃ a, w.pushes k = some a ∧ a.item.change = c) ∨
    ∃ item ∈ w.waiting, item.number = k ∧ item.change = c

/-- It is on its way, or has been sent. -/
def Known (w : World) (k : Nat) (c : StoreChange) : Prop :=
  w.Pending k c ∨ ∃ i call, w.calls i = some call ∧ call.number = k ∧ call.change = c

theorem pending_setPush (h : w.pushes n = some a) (hc : b.item.change = a.item.change) :
    (w.setPush n (some b)).Pending k c ↔ w.Pending k c := by
  unfold Pending
  by_cases hk : k = n
  · subst hk
    simp [h, hc]
  · simp [hk]

theorem pending_setPush_new (h : w.pushes n = none) (hn : a.item.number = n) :
    (w.setPush n (some a)).Pending k c ↔ w.Pending k c ∨ a.item.Is k c := by
  unfold Pending Item.Is
  by_cases hk : k = n
  · subst hk
    simp [h, hn, or_comm]
  · simp [hk, hn, Ne.symm hk]

theorem pending_setPush_none (h : w.pushes n = some a) (hn : a.item.number = n) :
    w.Pending k c ↔ (w.setPush n none).Pending k c ∨ a.item.Is k c := by
  unfold Pending Item.Is
  by_cases hk : k = n
  · subst hk
    simp [h, hn, or_comm]
  · simp [hk, hn, Ne.symm hk]

theorem pending_enqueue : (w.enqueue item).Pending k c ↔ w.Pending k c ∨ item.Is k c := by
  simp only [Pending, waiting, enqueue, Item.Is, List.mem_append, List.mem_singleton]
  constructor
  · rintro (h | ⟨x, ((hx | rfl) | hx), hk⟩)
    · exact .inl (.inl h)
    · exact .inl (.inr ⟨x, .inl hx, hk⟩)
    · exact .inr hk
    · exact .inl (.inr ⟨x, .inr hx, hk⟩)
  · rintro ((h | ⟨x, hx | hx, hk⟩) | h)
    · exact .inl h
    · exact .inr ⟨x, .inl (.inl hx), hk⟩
    · exact .inr ⟨x, .inr hx, hk⟩
    · exact .inr ⟨item, .inl (.inr rfl), h⟩

theorem pending_nextItem {rest : List Item} (h : w.processing = some (a, rest)) :
    w.Pending k c ↔ (w.nextItem rest).Pending k c ∨ a.item.Is k c := by
  cases rest with
  | nil => simp [Pending, waiting, nextItem, h, Item.Is, or_assoc, or_and_right, exists_or]
  | cons item rest =>
    simp only [Pending, waiting, nextItem, send, h, Item.Is, Option.map_some, Option.getD_some,
      List.mem_append, List.mem_cons]
    constructor
    · rintro (hp | ⟨x, hx | rfl | hx, hk⟩)
      · exact .inl (.inl hp)
      · exact .inl (.inr ⟨x, .inl hx, hk⟩)
      · exact .inr hk
      · exact .inl (.inr ⟨x, .inr hx, hk⟩)
    · rintro ((hp | ⟨x, hx | hx, hk⟩) | hk)
      · exact .inl hp
      · exact .inr ⟨x, .inl hx, hk⟩
      · exact .inr ⟨x, .inr (.inr hx), hk⟩
      · exact .inr ⟨a.item, .inr (.inl rfl), hk⟩

theorem pending_processPushQueue : w.processPushQueue.Pending k c ↔ w.Pending k c := by
  unfold processPushQueue
  split
  · rfl
  · rename_i h
    obtain ⟨hidle, hne⟩ := not_or.1 h
    have hnone : w.processing = none := by simpa using hidle
    cases hq : w.pendingPushQueue with
    | nil => exact absurd hq hne
    | cons item rest => simp [Pending, waiting, nextItem, send, hq, hnone]

/-! ## Moving along -/

/-- Neither side changes a row, and no change is lost or comes up. -/
structure Moves (w w' : World) : Prop where
  tables : w'.tables = w.tables
  server : w'.server = w.server
  issued : w'.issued = w.issued
  delivered : ∀ k, w'.Delivered k ↔ w.Delivered k
  pending : ∀ k c, w'.Pending k c → w.Pending k c
  left : ∀ k c, w.Pending k c → w'.Pending k c ∨ w.Delivered k
  known : ∀ k c, w'.Known k c → w.Known k c

theorem Moves.refl (w : World) : Moves w w :=
  ⟨rfl, rfl, rfl, fun _ => .rfl, fun _ _ h => h, fun _ _ h => .inl h, fun _ _ h => h⟩

/-- The calls of `w'` are those of `w`, and a new one of `item`. -/
inductive Sends (w w' : World) : Prop
  | none (h : w'.calls = w.calls)
  | one (item : Item) (h : w'.calls = (w.send item).calls) (hp : w.Pending item.number item.change)

theorem delivered_send (hw : w.Numbered) : (w.send item).Delivered k ↔ w.Delivered k := by
  refine ⟨?_, fun h => h.send hw⟩
  rintro ⟨i, call, hi, hcall⟩
  by_cases hs : i = w.sent
  · subst hs
    simp only [send, Function.update_self, Option.some.injEq] at hi
    subst hi
    cases hcall.2
  · exact ⟨i, call, by simpa [send, hs] using hi, hcall⟩

theorem Sends.delivered (h : Sends w w') (hw : w.Numbered) : w'.Delivered k ↔ w.Delivered k := by
  unfold Delivered
  cases h with
  | none h => rw [h]
  | one item h hp =>
    rw [h]
    exact delivered_send hw

theorem Sends.known (h : Sends w w') (hpending : ∀ k c, w'.Pending k c → w.Pending k c)
    (hk : w'.Known k c) : w.Known k c := by
  obtain hp | ⟨i, call, hi, hnum, hchange⟩ := hk
  · exact .inl (hpending k c hp)
  cases h with
  | none h => exact .inr ⟨i, call, h ▸ hi, hnum, hchange⟩
  | one item h hp =>
    rw [h] at hi
    by_cases hs : i = w.sent
    · subst hs
      simp only [send, Function.update_self, Option.some.injEq] at hi
      subst hi
      exact .inl (hnum ▸ hchange ▸ hp)
    · exact .inr ⟨i, call, by simpa [send, hs] using hi, hnum, hchange⟩

/-- What a step is made of, put together. -/
theorem Sends.moves (h : Sends w w') (hw : w.Numbered) (htables : w'.tables = w.tables)
    (hserver : w'.server = w.server) (hissued : w'.issued = w.issued)
    (hpending : ∀ k c, w'.Pending k c → w.Pending k c)
    (hleft : ∀ k c, w.Pending k c → w'.Pending k c ∨ w.Delivered k) : Moves w w' :=
  ⟨htables, hserver, hissued, fun _ => h.delivered hw, hpending, hleft, fun _ _ => h.known hpending⟩

theorem nextItem_rows (rest : List Item) : (w.nextItem rest).tables = w.tables ∧
    (w.nextItem rest).server = w.server ∧ (w.nextItem rest).issued = w.issued := by
  cases rest <;> exact ⟨rfl, rfl, rfl⟩

theorem processPushQueue_rows : w.processPushQueue.tables = w.tables ∧
    w.processPushQueue.server = w.server ∧ w.processPushQueue.issued = w.issued := by
  unfold processPushQueue
  split
  · exact ⟨rfl, rfl, rfl⟩
  · exact nextItem_rows _

/-- The call of the next turn. -/
theorem sends_nextItem {v : World} {rest : List Item} (hcalls : w.calls = v.calls) (hsent : w.sent = v.sent)
    (hrest : ∀ item ∈ rest, v.Pending item.number item.change) : Sends v (w.nextItem rest) := by
  cases rest with
  | nil => exact .none hcalls
  | cons item rest =>
    refine .one item ?_ (hrest item List.mem_cons_self)
    simp [nextItem, send, hcalls, hsent]

theorem sends_processPushQueue {v : World} (hcalls : w.calls = v.calls) (hsent : w.sent = v.sent)
    (hqueue : ∀ item ∈ w.pendingPushQueue, v.Pending item.number item.change) :
    Sends v w.processPushQueue := by
  unfold processPushQueue
  split
  · exact .none hcalls
  · exact sends_nextItem (w := { w with pendingPushQueue := [] }) hcalls hsent hqueue

theorem pending_of_queue (h : item ∈ w.pendingPushQueue) : w.Pending item.number item.change :=
  .inr ⟨item, List.mem_append_left _ h, rfl, rfl⟩

theorem pending_of_rest {rest : List Item} (hp : w.processing = some (a, rest)) (h : item ∈ rest) :
    w.Pending item.number item.change :=
  .inr ⟨item, List.mem_append_right _ (by simp [hp, h]), rfl, rfl⟩

theorem pending_of_current {rest : List Item} (hp : w.processing = some (a, rest)) :
    w.Pending a.item.number a.item.change :=
  .inr ⟨a.item, List.mem_append_right _ (by simp [hp]), rfl, rfl⟩

theorem pending_of_push (h : w.Wired) (hp : w.pushes n = some a) :
    w.Pending a.item.number a.item.change :=
  .inl ⟨a, by rw [h.own n a hp]; exact hp, rfl⟩

theorem moves_processPushQueue (hw : w.Numbered) : Moves w w.processPushQueue := by
  obtain ⟨htables, hserver, hissued⟩ := processPushQueue_rows (w := w)
  refine (sends_processPushQueue rfl rfl fun _ h => pending_of_queue h).moves hw htables hserver hissued
    (fun _ _ h => pending_processPushQueue.1 h) (fun _ _ h => .inl (pending_processPushQueue.2 h))

/-- A push that succeeds has been delivered; one that fails for good waits from then on. -/
theorem moves_pushReplied (h : w.Wired) {ok : Bool}
    (hok : ok = true → ∀ a, w.pushes n = some a → w.taken a = true) : Moves w (w.pushReplied n ok) := by
  unfold pushReplied
  split
  · rename_i item attempt i hpush
    have hnum : item.number = n := h.own n _ hpush
    have hgone : ∀ k c, w.Pending k c ↔ (w.setPush n none).Pending k c ∨ item.Is k c :=
      fun k c => pending_setPush_none hpush hnum
    split
    · rename_i hyes
      have hdel : w.Delivered n :=
        hnum ▸ delivered_of_taken (h.awaits _ (.inl ⟨n, hpush⟩)) (hok hyes _ hpush)
      have hsends : Sends w (w.setPush n none) := .none rfl
      refine hsends.moves h.numbered rfl rfl rfl (fun k c hp => (hgone k c).2 (.inl hp)) ?_
      intro k c hp
      obtain hp | hk := (hgone k c).1 hp
      · exact .inl hp
      · exact .inr (by rw [← hk.1, hnum]; exact hdel)
    split
    · have hqueued : ∀ k c, (((w.setPush n none).enqueue { item with retries := 2 })).Pending k c ↔
          w.Pending k c := fun k c => pending_enqueue.trans (hgone k c).symm
      obtain ⟨htables, hserver, hissued⟩ :=
        processPushQueue_rows (w := (w.setPush n none).enqueue { item with retries := 2 })
      refine Sends.moves ?_ h.numbered htables hserver hissued
        (fun k c hp => (hqueued k c).1 (pending_processPushQueue.1 hp))
        (fun k c hp => .inl (pending_processPushQueue.2 ((hqueued k c).2 hp)))
      exact sends_processPushQueue rfl rfl fun x hx => (hqueued _ _).1 (pending_of_queue hx)
    · have hsame : ∀ k c, (w.setPush n (some ⟨item, attempt, none⟩)).Pending k c ↔ w.Pending k c :=
        fun k c => pending_setPush hpush rfl
      have hsends : Sends w (w.setPush n (some ⟨item, attempt, none⟩)) := .none rfl
      exact hsends.moves h.numbered rfl rfl rfl (fun k c hp => (hsame k c).1 hp)
        fun k c hp => .inl ((hsame k c).2 hp)
  · exact .refl w

theorem moves_wakePush (h : w.Wired) : Moves w (w.wakePush n) := by
  unfold wakePush
  split
  · rename_i item attempt hpush
    have hsame : ∀ k c, ((w.send item).setPush n (some ⟨item, attempt + 1, some w.sent⟩)).Pending k c ↔
        w.Pending k c := fun k c => pending_setPush (w := w.send item) hpush rfl
    have hsends : Sends w ((w.send item).setPush n (some ⟨item, attempt + 1, some w.sent⟩)) :=
      .one item rfl (pending_of_push h hpush)
    exact hsends.moves h.numbered rfl rfl rfl (fun k c hp => (hsame k c).1 hp)
      fun k c hp => .inl ((hsame k c).2 hp)
  · exact .refl w

theorem moves_itemReplied (h : w.Wired) {ok : Bool}
    (hok : ok = true → ∀ p, w.processing = some p → w.taken p.1 = true) : Moves w (w.itemReplied ok) := by
  unfold itemReplied
  split
  · rename_i item attempt i rest hp
    have hdone : ∀ k c, w.Pending k c ↔ (w.nextItem rest).Pending k c ∨ item.Is k c :=
      fun k c => pending_nextItem hp
    split
    · rename_i hyes
      have hdel : w.Delivered item.number :=
        delivered_of_taken (h.awaits _ (.inr ⟨rest, hp⟩)) (hok hyes _ hp)
      obtain ⟨htables, hserver, hissued⟩ := nextItem_rows (w := w) rest
      refine (sends_nextItem rfl rfl fun x hx => pending_of_rest hp hx).moves h.numbered htables hserver
        hissued (fun k c hk => (hdone k c).2 (.inl hk)) ?_
      intro k c hk
      obtain hk | hk := (hdone k c).1 hk
      · exact .inl hk
      · exact .inr (hk.1 ▸ hdel)
    split
    · have hsends : Sends w { w with processing := some (⟨item, attempt, none⟩, rest) } := .none rfl
      refine hsends.moves h.numbered rfl rfl rfl ?_ ?_
      · intro k c hk
        simpa [Pending, waiting, hp] using hk
      · intro k c hk
        refine .inl ?_
        simpa [Pending, waiting, hp] using hk
    · have hback : ∀ k c, ((w.enqueue { item with retries := item.retries - 1 }).nextItem rest).Pending k c ↔
          w.Pending k c := by
        intro k c
        have hnext := pending_nextItem (k := k) (c := c)
          (w := w.enqueue { item with retries := item.retries - 1 }) hp
        have hcur : item.Is k c → ((w.enqueue { item with retries := item.retries - 1 }).nextItem
            rest).Pending k c := by
          intro hk
          refine .inr ⟨{ item with retries := item.retries - 1 }, ?_, hk⟩
          cases rest <;> simp [waiting, nextItem, enqueue, send]
        constructor
        · intro hk
          obtain hk | hk := pending_enqueue.1 (hnext.2 (.inl hk))
          · exact hk
          · exact hk.1 ▸ hk.2 ▸ pending_of_current hp
        · intro hk
          exact (hnext.1 (pending_enqueue.2 (.inl hk))).elim id hcur
      obtain ⟨htables, hserver, hissued⟩ :=
        nextItem_rows (w := w.enqueue { item with retries := item.retries - 1 }) rest
      refine Sends.moves ?_ h.numbered htables hserver hissued (fun k c hk => (hback k c).1 hk)
        (fun k c hk => .inl ((hback k c).2 hk))
      exact sends_nextItem rfl rfl fun x hx => pending_of_rest hp hx
  · exact .refl w

theorem moves_wakeItem (h : w.Wired) : Moves w w.wakeItem := by
  unfold wakeItem
  split
  · rename_i item attempt rest hp
    have hsame : ∀ k c, ({ w.send item with
        processing := some (⟨item, attempt + 1, some w.sent⟩, rest) } : World).Pending k c ↔
        w.Pending k c := by
      intro k c
      simp [Pending, waiting, hp]
    have hsends : Sends w { w.send item with
        processing := some (⟨item, attempt + 1, some w.sent⟩, rest) } := .one item rfl (pending_of_current hp)
    exact hsends.moves h.numbered rfl rfl rfl (fun k c hk => (hsame k c).1 hk)
      fun k c hk => .inl ((hsame k c).2 hk)
  · exact .refl w

/-- The server answers a call, but does not take it. -/
theorem moves_refused {number : Nat} (hi : w.calls i = some ⟨number, c, none⟩) :
    Moves w { w with calls := Function.update w.calls i (some ⟨number, c, some false⟩) } where
  tables := rfl
  server := rfl
  issued := rfl
  delivered := by
    intro k
    refine ⟨?_, fun h => h.answered hi rfl w.server⟩
    rintro ⟨j, call, hj, hcall⟩
    by_cases hji : j = i
    · subst hji
      simp only [Function.update_self, Option.some.injEq] at hj
      subst hj
      cases hcall.2
    · exact ⟨j, call, by simpa [hji] using hj, hcall⟩
  pending := fun _ _ h => h
  left := fun _ _ h => .inl h
  known := by
    rintro k d (hp | ⟨j, call, hj, hcall⟩)
    · exact .inl hp
    by_cases hji : j = i
    · subst hji
      simp only [Function.update_self, Option.some.injEq] at hj
      subst hj
      exact .inr ⟨j, _, hi, hcall⟩
    · exact .inr ⟨j, call, by simpa [hji] using hj, hcall⟩

/-- **What moves along**: every event but a command, what the server takes or what else happens there, and
a restart. -/
theorem moves_step (h : w.Sound) {e : Event} (he : match e with
    | .createStore .. | .updateStore .. | .toggleStoreActive .. | .serve .. | .others .. | .restart => False
    | _ => True) : Moves w (w.step e) := by
  cases e with
  | turnAway call =>
    simp only [step]
    split
    · rename_i number change hi
      exact moves_refused hi
    · exact .refl w
  | replyPush n ok =>
    refine moves_pushReplied h.wired fun hok a ha => ?_
    simp only [ha, Option.any_some, Bool.and_eq_true] at hok
    exact hok.2
  | wakePush n => exact moves_wakePush h.wired
  | replyItem ok =>
    refine moves_itemReplied h.wired fun hok p hp => ?_
    simp only [hp, Option.any_some, Bool.and_eq_true] at hok
    exact hok.2
  | wakeItem => exact moves_wakeItem h.wired
  | online => exact moves_processPushQueue h.wired.numbered
  | timer =>
    simp only [step]
    split
    · have hmoves := moves_processPushQueue (w := { w with queueRetryTimer := false }) h.wired.numbered
      exact ⟨hmoves.tables, hmoves.server, hmoves.issued, hmoves.delivered, hmoves.pending, hmoves.left,
        hmoves.known⟩
    · exact .refl w
  | _ => exact absurd he (by simp)

/-! ## A command -/

theorem pending_pushStoreToApi (h : w.Sound) {change : StoreChange} :
    (w.pushStoreToApi change).Pending k c ↔ w.Pending k c ∨ k = w.issued ∧ c = change := by
  have hnew := pending_setPush_new (w := w.send ⟨w.issued, change, 3⟩) (k := k) (c := c)
    (a := ⟨⟨w.issued, change, 3⟩, 0, some w.sent⟩) h.free rfl
  simp only [Item.Is, eq_comm (a := w.issued), eq_comm (a := change)] at hnew
  exact hnew

theorem delivered_pushStoreToApi (h : w.Sound) {change : StoreChange} :
    (w.pushStoreToApi change).Delivered k ↔ w.Delivered k := delivered_send h.wired.numbered

theorem known_pushStoreToApi (h : w.Sound) {change : StoreChange}
    (hk : (w.pushStoreToApi change).Known k c) : w.Known k c ∨ k = w.issued ∧ c = change := by
  obtain hp | ⟨i, call, hi, hnum, hchange⟩ := hk
  · exact ((pending_pushStoreToApi h).1 hp).imp .inl id
  by_cases hs : i = w.sent
  · subst hs
    have he : (⟨w.issued, change, none⟩ : Call) = call := by simpa [pushStoreToApi, send] using hi
    subst he
    exact .inr ⟨hnum.symm, hchange.symm⟩
  · exact .inl (.inr ⟨i, call, by simpa [pushStoreToApi, send, hs] using hi, hnum, hchange⟩)

/-! ## Names -/

/-- Both sides have the store with one name and one address. -/
def Replicated (id : String) (w : World) : Prop :=
  ∃ s s', w.tables.stores.get? id = some s ∧ w.server.db.stores.get? id = some s' ∧
    s'.name = s.name ∧ (w.server.storeColumns id).address = s.address

/-- No rename of the store is on its way. -/
def Quiet (id : String) (w : World) : Prop := ∀ k name address, ¬ w.Pending k (.update id name address)

/-- The store is renamed only while none of its renames is on its way, to a name without blanks around it
that is not a placeholder's, and with an address; the server takes no rename that the desktop is done with;
nobody else touches the store, and the desktop is not restarted. -/
def Careful (id : String) (w : World) : Event → Prop
  | .updateStore _ input => input.id = id → Quiet id w ∧ trim input.name = input.name ∧
      input.address.isSome ∧ Py.startsWith input.name "Auto Store (" = false
  | .serve call .. => ∀ number name address,
      w.calls call = some ⟨number, .update id name address, none⟩ →
        w.Pending number (.update id name address)
  | .others server => SameStore id w.server server
  | .restart => False
  | _ => True

/-- A number stands for one change. -/
structure Coherent (w : World) : Prop where
  bound : ∀ k c, w.Known k c → k < w.issued
  unique : ∀ k c d, w.Known k c → w.Known k d → c = d

/-- The invariant of a store. A rename on its way has what the desktop has, and once it is delivered, the
server has it too. -/
structure Named (id : String) (w : World) : Prop where
  coherent : w.Coherent
  real : ∃ s, w.server.db.stores.get? id = some s ∧ isAutoStore s = false
  current : ∀ k name address, w.Pending k (.update id name address) →
    (∃ s, w.tables.stores.get? id = some s ∧ s.name = name ∧ s.address = address) ∧
      address.isSome ∧ Py.startsWith name "Auto Store (" = false
  behind : ∀ k name address, w.Pending k (.update id name address) → w.Delivered k → Replicated id w
  even : Quiet id w → Replicated id w

variable {id : String}

theorem Replicated.same (h : Replicated id w) (ht : w'.tables.stores.get? id = w.tables.stores.get? id)
    (hs : SameStore id w.server w'.server) : Replicated id w' := by
  obtain ⟨s, s', hget, hget', hname, haddress⟩ := h
  exact ⟨s, s', ht.trans hget, hs.1.trans hget', hname, hs.2 ▸ haddress⟩

theorem Named.moves (h : Named id w) (hm : Moves w w') : Named id w' := by
  have hrep : Replicated id w → Replicated id w' := fun hr =>
    hr.same (by rw [hm.tables]) (by rw [hm.server]; exact .refl _ _)
  refine ⟨⟨?_, ?_⟩, hm.server ▸ h.real, ?_, ?_, ?_⟩
  · intro k c hk
    rw [hm.issued]
    exact h.coherent.bound k c (hm.known k c hk)
  · exact fun k c d hc hd => h.coherent.unique k c d (hm.known k c hc) (hm.known k d hd)
  · intro k name address hp
    rw [hm.tables]
    exact h.current k name address (hm.pending _ _ hp)
  · exact fun k name address hp hd => hrep (h.behind k name address (hm.pending _ _ hp) ((hm.delivered k).1 hd))
  · intro hq
    -- a rename that was on its way before has been delivered
    by_cases hbefore : Quiet id w
    · exact hrep (h.even hbefore)
    · simp only [Quiet, not_forall, not_not] at hbefore
      obtain ⟨k, name, address, hp⟩ := hbefore
      obtain hp' | hd := hm.left _ _ hp
      · exact absurd hp' (hq k name address)
      · exact hrep (h.behind k name address hp hd)

/-- The store keeps its name and its address, and stays if it is there. -/
def SameName (id : String) (t t' : Tables) : Prop :=
  ∀ s, t.stores.get? id = some s →
    ∃ s', t'.stores.get? id = some s' ∧ s'.name = s.name ∧ s'.address = s.address

theorem Replicated.renamed {t : Tables} (h : Replicated id w) (ht : SameName id w.tables t) :
    Replicated id { w with tables := t } := by
  obtain ⟨s, s', hget, hget', hname, haddress⟩ := h
  obtain ⟨s1, h1, hn1, ha1⟩ := ht s hget
  exact ⟨s1, s', h1, hget', hname.trans hn1.symm, haddress.trans ha1.symm⟩

theorem Named.tables {t : Tables} (h : Named id w) (ht : SameName id w.tables t) :
    Named id { w with tables := t } where
  coherent := ⟨h.coherent.bound, h.coherent.unique⟩
  real := h.real
  current := by
    intro k name address hp
    obtain ⟨⟨s, hget, hname, haddress⟩, hrest⟩ := h.current k name address hp
    obtain ⟨s1, h1, hn1, ha1⟩ := ht s hget
    exact ⟨⟨s1, h1, hn1.trans hname, ha1.trans haddress⟩, hrest⟩
  behind := fun k name address hp hd => (h.behind k name address hp hd).renamed ht
  even := fun hq => (h.even hq).renamed ht

theorem Coherent.not_known (h : w.Coherent) : ¬ w.Known w.issued c := by
  intro hk
  have := h.bound _ _ hk
  omega

theorem Coherent.issue (h : w.Coherent) (hs : w.Sound) (change : StoreChange) :
    (w.pushStoreToApi change).Coherent where
  bound := by
    intro k c hk
    have hissued : (w.pushStoreToApi change).issued = w.issued + 1 := rfl
    obtain hk | ⟨rfl, -⟩ := known_pushStoreToApi hs hk
    · have := h.bound k c hk
      omega
    · omega
  unique := by
    intro k c d hc hd
    obtain hc | ⟨rfl, rfl⟩ := known_pushStoreToApi hs hc
    · obtain hd | ⟨rfl, -⟩ := known_pushStoreToApi hs hd
      · exact h.unique k c d hc hd
      · exact absurd hc h.not_known
    · obtain hd | ⟨-, rfl⟩ := known_pushStoreToApi hs hd
      · exact absurd hd h.not_known
      · rfl

/-- Another change. -/
theorem Named.issue (h : Named id w) (hs : w.Sound) {change : StoreChange}
    (hc : ∀ name address, change ≠ .update id name address) : Named id (w.pushStoreToApi change) := by
  have hpending : ∀ k name address, (w.pushStoreToApi change).Pending k (.update id name address) →
      w.Pending k (.update id name address) := by
    intro k name address hp
    obtain hp | ⟨-, he⟩ := (pending_pushStoreToApi hs).1 hp
    · exact hp
    · exact absurd he.symm (hc name address)
  have hrep : Replicated id w → Replicated id (w.pushStoreToApi change) := fun hr => hr
  refine ⟨h.coherent.issue hs change, h.real, ?_, ?_, ?_⟩
  · exact fun k name address hp => h.current k name address (hpending k name address hp)
  · exact fun k name address hp hd =>
      hrep (h.behind k name address (hpending k name address hp) ((delivered_pushStoreToApi hs).1 hd))
  · intro hq
    refine hrep (h.even fun k name address hp => hq k name address ?_)
    exact (pending_pushStoreToApi hs).2 (.inl hp)

/-- A rename, while none is on its way. -/
theorem Named.rename {t : Tables} {s : Store} (h : Named id w) (hs : w.Sound) (hquiet : Quiet id w)
    (hget : t.stores.get? id = some s) (hsome : s.address.isSome)
    (hreal : Py.startsWith s.name "Auto Store (" = false) :
    Named id (({ w with tables := t }).pushStoreToApi (.update id s.name s.address)) := by
  have hs' : ({ w with tables := t } : World).Sound := hs.elsewhere t w.server
  have hpending : ∀ k name address, (({ w with tables := t }).pushStoreToApi
      (.update id s.name s.address)).Pending k (.update id name address) →
      k = w.issued ∧ name = s.name ∧ address = s.address := by
    intro k name address hp
    obtain hp | ⟨hk, he⟩ := (pending_pushStoreToApi hs').1 hp
    · exact absurd hp (hquiet k name address)
    · cases he
      exact ⟨hk, rfl, rfl⟩
  have hcoherent : ({ w with tables := t } : World).Coherent := ⟨h.coherent.bound, h.coherent.unique⟩
  refine ⟨hcoherent.issue hs' _, h.real, ?_, ?_, ?_⟩
  · intro k name address hp
    obtain ⟨-, rfl, rfl⟩ := hpending k name address hp
    exact ⟨⟨s, hget, rfl, rfl⟩, hsome, hreal⟩
  · -- the new rename has not been sent yet
    intro k name address hp hd
    obtain ⟨rfl, -, -⟩ := hpending k name address hp
    obtain ⟨i, call, hi, hnum, -⟩ := (delivered_pushStoreToApi hs').1 hd
    exact absurd (.inr ⟨i, call, hi, hnum, rfl⟩) (h.coherent.not_known (c := call.change))
  · intro hq
    exact absurd ((pending_pushStoreToApi hs').2 (.inr ⟨rfl, rfl⟩)) (hq w.issued s.name s.address)

/-! ## What the server takes -/

/-- Nothing but a rename touches a store with a name of its own. -/
theorem answer_same {now : DateTime} {uuid : String} {balanceId : String → String} {d d' : CentralDb}
    (h : c.answer now uuid balanceId d = .ok d') {s : Server.Store} (hget : d.db.stores.get? id = some s)
    (hreal : isAutoStore s = false) (hc : ∀ name address, c ≠ .update id name address) :
    SameStore id d d' := by
  cases c with
  | create request => exact Server.CentralDb.createStore_keepsStore h hget hreal
  | update id' name address =>
    obtain ⟨-, -, -, -, hothers⟩ := Server.CentralDb.patchStore_ok h
    refine hothers id fun he => ?_
    subst he
    exact hc name address rfl
  | toggle id' isActive =>
    have hsame := Server.CentralDb.patchStore_nothing h
    subst hsame
    exact .refl _ _

/-- The server takes a call. -/
theorem Named.serve (h : Named id w) {number : Nat} {now : DateTime} {uuid : String}
    {balanceId : String → String} {server : CentralDb} (hi : w.calls i = some ⟨number, c, none⟩)
    (hans : c.answer now uuid balanceId w.server = .ok server)
    (hcare : ∀ name address, c = .update id name address → w.Pending number c) :
    Named id { w with
      server
      calls := Function.update w.calls i (some ⟨number, c, some true⟩) } := by
  have hknown : ∀ k d, ({ w with
      server
      calls := Function.update w.calls i (some ⟨number, c, some true⟩) } : World).Known k d →
      w.Known k d := by
    rintro k d (hp | ⟨j, call, hj, hcall⟩)
    · exact .inl hp
    by_cases hji : j = i
    · subst hji
      simp only [Function.update_self, Option.some.injEq] at hj
      subst hj
      exact .inr ⟨j, _, hi, hcall⟩
    · exact .inr ⟨j, call, by simpa [hji] using hj, hcall⟩
  have hdel : ∀ k, ({ w with
      server
      calls := Function.update w.calls i (some ⟨number, c, some true⟩) } : World).Delivered k →
      w.Delivered k ∨ k = number := by
    rintro k ⟨j, call, hj, hnum, hreply⟩
    by_cases hji : j = i
    · subst hji
      simp only [Function.update_self, Option.some.injEq] at hj
      subst hj
      exact .inr hnum.symm
    · exact .inl ⟨j, call, by simpa [hji] using hj, hnum, hreply⟩
  have hcoherent : ({ w with
      server
      calls := Function.update w.calls i (some ⟨number, c, some true⟩) } : World).Coherent :=
    ⟨fun k d hk => h.coherent.bound k d (hknown k d hk),
      fun k d e hd he => h.coherent.unique k d e (hknown k d hd) (hknown k e he)⟩
  obtain ⟨s', hs', hreal⟩ := h.real
  by_cases hc : ∃ name address, c = .update id name address
  · -- the rename that is on its way arrives
    obtain ⟨name, address, rfl⟩ := hc
    obtain ⟨⟨s, hget, hname, haddress⟩, hsome, hauto⟩ :=
      h.current number name address (hcare name address rfl)
    obtain ⟨a, ha⟩ := Option.isSome_iff_exists.1 hsome
    obtain ⟨s1, -, hrow, haddr, -⟩ := Server.CentralDb.patchStore_ok hans
    have hrep : Replicated id { w with
        server
        calls := Function.update w.calls i (some ⟨number, .update id name address, some true⟩) } :=
      ⟨s, _, hget, hrow, hname.symm, (haddr a ha).trans (ha.symm.trans haddress.symm)⟩
    exact ⟨hcoherent, ⟨_, hrow, hauto⟩, h.current, fun _ _ _ _ _ => hrep, fun _ => hrep⟩
  · have hsame : SameStore id w.server server :=
      answer_same hans hs' hreal fun name address he => hc ⟨name, address, he⟩
    have hrep : Replicated id w → Replicated id { w with
        server
        calls := Function.update w.calls i (some ⟨number, c, some true⟩) } :=
      fun hr => hr.same rfl hsame
    refine ⟨hcoherent, ⟨s', hsame.1.trans hs', hreal⟩, h.current, fun k name address hp hd => ?_,
      fun hq => hrep (h.even hq)⟩
    obtain hd | rfl := hdel k hd
    · exact hrep (h.behind k name address hp hd)
    · exact absurd (h.coherent.unique k _ _ (.inr ⟨i, _, hi, rfl, rfl⟩) (.inl hp))
        fun he => hc ⟨name, address, he⟩

/-! ## The commands -/

theorem createBalances_stores {now : Stamp} {storeId : String} : ∀ (ids : List String) (t : Tables),
    (createBalances now storeId ids t).2.stores = t.stores
  | [], _ => rfl
  | id :: ids, t => by
    simp only [createBalances]
    split
    · rfl
    · exact createBalances_stores ids _

/-- A store that is there stays as it is. -/
theorem createStore_sameName {rs : Desktop.Rust} {now : Stamp} {t : Tables} {input : Desktop.NewStoreInput} :
    SameName id t (StorePush.createStore rs now t input).2 := by
  intro s hs
  refine ⟨s, ?_, rfl, rfl⟩
  unfold StorePush.createStore
  simp only
  split
  · exact hs
  split
  · exact hs
  split
  · exact hs
  split
  · exact hs
  · rename_i hnew
    obtain ⟨hnone, -⟩ := not_or.1 hnew
    rw [createBalances_stores]
    refine (Table.get?_put_of_ne _ fun he => ?_).trans hs
    subst he
    exact hnone (Option.isSome_iff_exists.2 ⟨s, hs⟩)

theorem updateStore_ok {now : Stamp} {t t' : Tables} {input : UpdateStoreInput}
    (h : StorePush.updateStore now t input = .ok t') : ∃ s, t.stores.get? input.id = some s ∧
      t'.stores = t.stores.put { s with
        name := trim input.name
        address := input.address
        updatedAt := now } := by
  unfold StorePush.updateStore at h
  simp only at h
  split at h
  · cases h
  split at h
  · cases h
  · rename_i s hs
    cases h
    exact ⟨s, hs, rfl⟩

theorem toggleStoreActive_sameName {now : Stamp} {t t' : Tables} {i : String} {isActive : Bool}
    (h : StorePush.toggleStoreActive now t i isActive = .ok t') : SameName id t t' := by
  unfold StorePush.toggleStoreActive at h
  split at h
  · cases h
  · rename_i s hs
    cases h
    intro s0 hs0
    by_cases he : id = i
    · subst he
      rw [hs] at hs0
      cases hs0
      have hkey : s.id = id := Table.key_of_get? hs
      exact ⟨{ s with
        isActive := isActive
        updatedAt := now }, hkey ▸ Table.get?_put_self _ _, rfl, rfl⟩
    · have hkey : s.id = i := Table.key_of_get? hs
      refine ⟨s0, (Table.get?_put_of_ne _ fun hk => he ?_).trans hs0, rfl, rfl⟩
      exact hk.symm.trans hkey

theorem Named.step (h : Named id w) (hs : w.Sound) {e : Event} (he : Careful id w e) :
    Named id (w.step e) := by
  cases e with
  | createStore rs now input =>
    have hname : SameName id w.tables (StorePush.createStore rs now w.tables input).2 :=
      createStore_sameName
    simp only [World.step]
    split
    · rename_i store tables hcmd
      rw [hcmd] at hname
      exact (h.tables hname).issue (hs.elsewhere tables w.server) (by simp)
    · rename_i err tables hcmd
      rw [hcmd] at hname
      exact h.tables hname
  | updateStore now input =>
    simp only [World.step]
    split
    · rename_i tables hcmd
      obtain ⟨s, hget, ht⟩ := updateStore_ok hcmd
      have hkey : s.id = input.id := Table.key_of_get? hget
      by_cases hid : input.id = id
      · obtain ⟨hquiet, htrim, hsome, hreal⟩ := he hid
        have hrow : tables.stores.get? id = some { s with
            name := input.name
            address := input.address
            updatedAt := now } := by
          rw [ht, htrim, ← hid, ← hkey]
          exact Table.get?_put_self _ _
        rw [hid]
        exact h.rename hs hquiet hrow hsome hreal
      · have hname : SameName id w.tables tables := by
          intro s0 hs0
          refine ⟨s0, ?_, rfl, rfl⟩
          rw [ht]
          exact (Table.get?_put_of_ne _ fun hk => hid (hkey.symm.trans hk)).trans hs0
        exact (h.tables hname).issue (hs.elsewhere tables w.server) fun name address hc => hid (by cases hc; rfl)
    · exact h
  | toggleStoreActive now i isActive =>
    simp only [World.step]
    split
    · rename_i tables hcmd
      exact (h.tables (toggleStoreActive_sameName hcmd)).issue (hs.elsewhere tables w.server) (by simp)
    · exact h
  | serve call now uuid balanceId =>
    simp only [World.step, World.serve]
    split
    · rename_i number change hi
      split
      · rename_i server hans
        refine h.serve hi hans fun name address hc => ?_
        subst hc
        exact he number name address hi
      · exact h.moves (moves_refused hi)
    · exact h
  | others server =>
    obtain ⟨s, hget, hreal⟩ := h.real
    have hrep : Replicated id w → Replicated id { w with server } := fun hr => hr.same rfl he
    exact ⟨⟨h.coherent.bound, h.coherent.unique⟩, ⟨s, he.1.trans hget, hreal⟩, h.current,
      fun k name address hp hd => hrep (h.behind k name address hp hd), fun hq => hrep (h.even hq)⟩
  | restart => exact absurd he (by simp [Careful])
  | _ => exact h.moves (moves_step hs trivial)

theorem not_pending_opened {tables : Tables} {server : CentralDb} :
    ¬ (opened tables server).Pending k c := by
  simp [Pending, opened, waiting]

theorem not_known_opened {tables : Tables} {server : CentralDb} :
    ¬ (opened tables server).Known k c := by
  intro h
  obtain hp | ⟨i, call, hi, -⟩ := h
  · exact not_pending_opened hp
  · cases hi

theorem named_opened {tables : Tables} {server : CentralDb} {s : Server.Store}
    (hget : server.db.stores.get? id = some s) (hreal : isAutoStore s = false)
    (h : Replicated id (opened tables server)) : Named id (opened tables server) where
  coherent := ⟨fun _ _ hk => absurd hk not_known_opened, fun _ _ _ hk => absurd hk not_known_opened⟩
  real := ⟨s, hget, hreal⟩
  current := fun _ _ _ hp => absurd hp not_pending_opened
  behind := fun _ _ _ hp => absurd hp not_pending_opened
  even := fun _ => h

/-! ## What the server has -/

theorem server_pushReplied (ok : Bool) : (w.pushReplied n ok).server = w.server := by
  unfold pushReplied
  split
  · split
    · rfl
    split
    · exact processPushQueue_rows.2.1
    · rfl
  · rfl

theorem server_itemReplied (ok : Bool) : (w.itemReplied ok).server = w.server := by
  unfold itemReplied
  split
  · split
    · exact (nextItem_rows _).2.1
    split
    · rfl
    · exact (nextItem_rows _).2.1
  · rfl

/-- The server is changed by what it takes, and by others. -/
theorem server_step (e : Event) : (w.step e).server = w.server ∨
    (∃ change now uuid balanceId, StoreChange.answer now uuid balanceId w.server change =
      .ok (w.step e).server) ∨ ∃ server, e = .others server := by
  cases e with
  | createStore rs now input =>
    refine .inl ?_
    simp only [step]
    split <;> rfl
  | updateStore now input =>
    refine .inl ?_
    simp only [step]
    split <;> rfl
  | toggleStoreActive now i isActive =>
    refine .inl ?_
    simp only [step]
    split <;> rfl
  | serve call now uuid balanceId =>
    simp only [step, serve]
    split
    · rename_i number change hi
      split
      · rename_i server hans
        exact .inr (.inl ⟨change, now, uuid, balanceId, hans⟩)
      · exact .inl rfl
    · exact .inl rfl
  | turnAway call =>
    refine .inl ?_
    simp only [step]
    split <;> rfl
  | replyPush m ok => exact .inl (server_pushReplied _)
  | wakePush m =>
    refine .inl ?_
    simp only [step, wakePush]
    split <;> rfl
  | replyItem ok => exact .inl (server_itemReplied _)
  | wakeItem =>
    refine .inl ?_
    simp only [step, wakeItem]
    split <;> rfl
  | online => exact .inl processPushQueue_rows.2.1
  | timer =>
    refine .inl ?_
    simp only [step]
    split
    · exact processPushQueue_rows.2.1
    · rfl
  | others server => exact .inr (.inr ⟨server, rfl⟩)
  | restart => exact .inl rfl

theorem answer_active {now : DateTime} {uuid : String} {balanceId : String → String} {d d' : CentralDb}
    (h : c.answer now uuid balanceId d = .ok d') (hs : Active id d) : Active id d' := by
  cases c with
  | create request => exact Server.CentralDb.createStore_active h hs
  | update i name address =>
    obtain ⟨s, hget, hrow, -, hothers⟩ := Server.CentralDb.patchStore_ok h
    by_cases he : id = i
    · subst he
      obtain ⟨s', hs', hactive⟩ := hs
      rw [hget] at hs'
      cases hs'
      exact ⟨_, hrow, hactive⟩
    · exact hs.same (hothers id he)
  | toggle i isActive =>
    have hsame := Server.CentralDb.patchStore_nothing h
    subst hsame
    exact hs

end World

open World

namespace Sample

def shop : Store := ⟨"STORE-A", "A", "Shop", some "1 Main St", true, 0, 0⟩

def desk : Tables := ⟨∅, (∅ : Table Store).put shop, ∅⟩

def noon : DateTime := ⟨100, some 0⟩

def central : CentralDb where
  db := { Server.Db.empty with stores := (∅ : Table Server.Store).put ⟨"STORE-A", "A", "Shop", true⟩ }
  productColumns _ := ⟨none, none, none, none, false, noon⟩
  storeColumns _ := ⟨some "1 Main St", noon⟩

/-- The first reply is lost. -/
def rename : List Event :=
  [.updateStore 1 ⟨"STORE-A", "Annex", some "1 Main St"⟩, .serve 0 noon "" id, .replyPush 0 false,
    .wakePush 0, .serve 1 noon "" id, .replyPush 0 true]

/-- No reply comes, and the change goes to the queue and is tried again. -/
def unanswered : List Event :=
  [.updateStore 1 ⟨"STORE-A", "Annex", some "1 Main St"⟩, .replyPush 0 false, .wakePush 0,
    .replyPush 0 false, .wakePush 0, .replyPush 0 false, .wakePush 0, .replyPush 0 false]

def switching : List Event :=
  [.toggleStoreActive 1 "STORE-A" false, .serve 0 noon "" id, .replyPush 0 true]

end Sample

open StorePush.Sample

theorem unanswered_kept :
    Always step (fun w => (∀ k < w.issued, w.held k = 1 ∨ w.held k = 0 ∧ w.Delivered k) ∧
        (w.pendingPushQueue ≠ [] → w.processing.isSome ∨ w.queueRetryTimer)) (opened desk central)
      unanswered ∧
      (unanswered.foldl step (opened desk central)).waiting =
        [⟨0, .update "STORE-A" "Annex" (some "1 Main St"), 2⟩] :=
  ⟨no_change_dropped desk central unanswered (by simp [unanswered]), by decide⟩

theorem replicated_opened : World.Replicated "STORE-A" (opened desk central) :=
  ⟨shop, ⟨"STORE-A", "A", "Shop", true⟩, rfl, rfl, rfl, rfl⟩

end Sync.StorePush
