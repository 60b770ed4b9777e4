import InvenTory.Desktop.Catalogue
import InvenTory.Desktop.Provision
import InvenTory.Server.Catalogue

/-!
# Pushing store changes

A store command changes the local row, and then `_pushStoreToApi` of `tauriStoreService.ts` sends the
change to the server, four times at most. A change that none of them brings through waits in
`_pendingPushQueue`, which `_processPushQueue` goes through when the desktop comes online, or half a
minute later. The machine below has every call that is on its way: the server takes them in any order, also
when the desktop has given them up, and each reply can be lost. A delay can be of any length. The queue is
in memory, and a restart empties it. An id is taken to be one segment of a path.
-/

namespace Sync.StorePush

open Relational
open Desktop (Rust NewStoreInput trim available)
open Desktop.Catalogue (Product Store StockBalance Stamp Tables sqlUpper)
open Server (CentralDb CreateStoreRequest DateTime Refusal)

/-! ## The commands -/

structure UpdateStoreInput where
  id : String
  name : String
  address : Option String

/-- A balance of nothing for each of the products, up to the first that cannot be inserted. -/
def createBalances (now : Stamp) (storeId : String) : List String → Tables → Except String Tables × Tables
  | [], t => (.ok t, t)
  | productId :: productIds, t =>
    let b : StockBalance := ⟨"SB-" ++ storeId ++ "-" ++ productId, available storeId productId, 0, now⟩
    if t.balances.rows.any (·.id = b.id) ∨ (t.balances.get? b.stock).isSome then
      (.error ("Failed to create stock balance for product " ++ productId), t)
    else createBalances now storeId productIds { t with balances := t.balances.put b }

/-- `create_store`: each statement commits, also where a later one fails. -/
def createStore (rs : Rust) (now : Stamp) (t : Tables) (input : NewStoreInput) :
    Except String Store × Tables :=
  let code := rs.toUppercase (trim input.code)
  let name := trim input.name
  if code = "" then (.error "Store code cannot be empty.", t)
  else if name = "" then (.error "Store name cannot be empty.", t)
  else if t.stores.rows.any fun s => sqlUpper s.code = code then
    (.error ("Store code '" ++ code ++ "' already exists."), t)
  else
    let store : Store := ⟨"STORE-" ++ code, code, name, input.address, true, now, now⟩
    if (t.stores.get? store.id).isSome ∨ t.stores.rows.any (·.code = code) then
      (.error "Failed to insert store into database", t)
    else
      let productIds := (t.products.rows.filter Product.isActive).map Product.id
      let (result, t) := createBalances now store.id productIds { t with stores := t.stores.put store }
      (result.map fun _ => store, t)

def storeNotFound (id : String) : String := "Store with ID '" ++ id ++ "' not found."

/-- `update_store` -/
def updateStore (now : Stamp) (t : Tables) (input : UpdateStoreInput) : Except String Tables :=
  let name := trim input.name
  if name = "" then .error "Store name cannot be empty."
  else match t.stores.get? input.id with
    | none => .error (storeNotFound input.id)
    | some s =>
      let row := { s with name, address := input.address, updatedAt := now }
      .ok { t with stores := t.stores.put row }

/-- `toggle_store_active` -/
def toggleStoreActive (now : Stamp) (t : Tables) (id : String) (isActive : Bool) : Except String Tables :=
  match t.stores.get? id with
  | none => .error (storeNotFound id)
  | some s =>
    let row := { s with isActive, updatedAt := now }
    .ok { t with stores := t.stores.put row }

/-! ## What is sent -/

/-- The method, the path and the body of a push. -/
inductive StoreChange
  | create (request : CreateStoreRequest)
  | update (id name : String) (address : Option String)
  | toggle (id : String) (isActive : Bool)
  deriving DecidableEq, Repr

/-- What the server makes of it. JSON has no field for an `undefined` address, and `PatchStoreRequest` has
none for `is_active`. -/
def StoreChange.answer (now : DateTime) (uuid : String) (balanceId : String → String) (c : CentralDb) :
    StoreChange → Except Refusal CentralDb
  | .create request => c.createStore now uuid balanceId request
  | .update id name address => c.patchStore now id (some (some name)) (address.map some)
  | .toggle id _ => c.patchStore now id none none

/-- An item of `_pendingPushQueue`, with the number of the command that it comes from. -/
structure Item where
  number : Nat
  change : StoreChange
  retries : Nat
  deriving DecidableEq, Repr

/-- A loop over the attempts at an item. It awaits the reply to a call, or the end of a delay. -/
structure Attempts where
  item : Item
  attempt : Nat
  call : Option Nat
  deriving DecidableEq, Repr

/-- A request that has been sent, and whether the server took it, once it has answered. -/
structure Call where
  number : Nat
  change : StoreChange
  reply : Option Bool
  deriving DecidableEq, Repr

/-! ## The machine -/

/-- The desktop and the server. `pushes` has the runs of `_pushStoreToApi` by the number of their command,
and `processing` the run of `_processPushQueue`, with the items that it has still to come to. -/
structure World where
  tables : Tables
  pushes : Nat → Option Attempts
  pendingPushQueue : List Item
  processing : Option (Attempts × List Item)
  queueRetryTimer : Bool
  issued : Nat
  calls : Nat → Option Call
  sent : Nat
  server : CentralDb

namespace World

def opened (tables : Tables) (server : CentralDb) : World :=
  ⟨tables, fun _ => none, [], none, false, 0, fun _ => none, 0, server⟩

variable (w : World)

/-- The call of an attempt. -/
def send (item : Item) : World :=
  { w with
    calls := Function.update w.calls w.sent (some ⟨item.number, item.change, none⟩)
    sent := w.sent + 1 }

def setPush (n : Nat) (a : Option Attempts) : World := { w with pushes := Function.update w.pushes n a }

/-- `_pushStoreToApi` -/
def pushStoreToApi (change : StoreChange) : World :=
  let item : Item := ⟨w.issued, change, 3⟩
  { (w.send item).setPush w.issued (some ⟨item, 0, some w.sent⟩) with issued := w.issued + 1 }

/-- The next turn of the loop of `_processPushQueue`, or its end. -/
def nextItem : List Item → World
  | item :: rest => { w.send item with processing := some (⟨item, 0, some w.sent⟩, rest) }
  | [] =>
    { w with
      processing := none
      queueRetryTimer := w.queueRetryTimer || !w.pendingPushQueue.isEmpty }

/-- `_processPushQueue`, up to the first call. -/
def processPushQueue : World :=
  if w.processing.isSome ∨ w.pendingPushQueue = [] then w
  else ({ w with pendingPushQueue := [] }).nextItem w.pendingPushQueue

def enqueue (item : Item) : World := { w with pendingPushQueue := w.pendingPushQueue ++ [item] }

/-- What `_fetchApi` has come back with for a push. -/
def pushReplied (n : Nat) (ok : Bool) : World :=
  match w.pushes n with
  | some ⟨item, attempt, some _⟩ =>
    if ok then w.setPush n none
    else if attempt = item.retries then
      ((w.setPush n none).enqueue { item with retries := 2 }).processPushQueue
    else w.setPush n (some ⟨item, attempt, none⟩)
  | _ => w

/-- The delay of a push is over. -/
def wakePush (n : Nat) : World :=
  match w.pushes n with
  | some ⟨item, attempt, none⟩ => (w.send item).setPush n (some ⟨item, attempt + 1, some w.sent⟩)
  | _ => w

/-- What `_fetchApi` has come back with for the item that is processed. -/
def itemReplied (ok : Bool) : World :=
  match w.processing with
  | some (⟨item, attempt, some _⟩, rest) =>
    if ok then w.nextItem rest
    else if attempt < item.retries then { w with processing := some (⟨item, attempt, none⟩, rest) }
    else (w.enqueue { item with retries := item.retries - 1 }).nextItem rest
  | _ => w

def wakeItem : World :=
  match w.processing with
  | some (⟨item, attempt, none⟩, rest) =>
    { w.send item with processing := some (⟨item, attempt + 1, some w.sent⟩, rest) }
  | _ => w

/-- The server took the call of these attempts. -/
def taken (a : Attempts) : Bool := ((a.call.bind w.calls).bind Call.reply).getD false

/-- The server comes to a call: it takes it, if it can, or turns it away. -/
def serve (call : Nat) (now : DateTime) (uuid : String) (balanceId : String → String) : World :=
  match w.calls call with
  | some ⟨number, change, none⟩ =>
    match change.answer now uuid balanceId w.server with
    | .ok server =>
      { w with server, calls := Function.update w.calls call (some ⟨number, change, some true⟩) }
    | .error _ => { w with calls := Function.update w.calls call (some ⟨number, change, some false⟩) }
  | _ => w

end World

/-- `createStore`, `updateStore` and `toggleStoreActive` are the services; `serve` and `turnAway` happen at
the server, and `others` is what else changes there. A reply is a success only if the server took the call,
and can be a failure whatever it did. -/
inductive Event
  | createStore (rs : Rust) (now : Stamp) (input : NewStoreInput)
  | updateStore (now : Stamp) (input : UpdateStoreInput)
  | toggleStoreActive (now : Stamp) (id : String) (isActive : Bool)
  | serve (call : Nat) (now : DateTime) (uuid : String) (balanceId : String → String)
  | turnAway (call : Nat)
  | replyPush (n : Nat) (ok : Bool)
  | wakePush (n : Nat)
  | replyItem (ok : Bool)
  | wakeItem
  | online
  | timer
  | others (server : CentralDb)
  | restart

namespace World

def step (w : World) : Event → World
  | .createStore rs now input =>
    match StorePush.createStore rs now w.tables input with
    | (.ok store, tables) =>
      ({ w with tables }).pushStoreToApi (.create ⟨some store.id, input.code, input.name, input.address⟩)
    | (.error _, tables) => { w with tables }
  | .updateStore now input =>
    match StorePush.updateStore now w.tables input with
    | .ok tables => ({ w with tables }).pushStoreToApi (.update input.id input.name input.address)
    | .error _ => w
  | .toggleStoreActive now id isActive =>
    match StorePush.toggleStoreActive now w.tables id isActive with
    | .ok tables => ({ w with tables }).pushStoreToApi (.toggle id isActive)
    | .error _ => w
  | .serve call now uuid balanceId => w.serve call now uuid balanceId
  | .turnAway call =>
    match w.calls call with
    | some ⟨number, change, none⟩ =>
      { w with calls := Function.update w.calls call (some ⟨number, change, some false⟩) }
    | _ => w
  | .replyPush n ok => w.pushReplied n (ok && (w.pushes n).any w.taken)
  | .wakePush n => w.wakePush n
  | .replyItem ok => w.itemReplied (ok && w.processing.any fun p => w.taken p.1)
  | .wakeItem => w.wakeItem
  | .online => w.processPushQueue
  | .timer =>
    if w.queueRetryTimer then ({ w with queueRetryTimer := false }).processPushQueue else w
  | .others server => { w with server }
  | .restart =>
    { w with
      pushes := fun _ => none
      pendingPushQueue := []
      processing := none
      queueRetryTimer := false }

/-! ## What is still to be delivered -/

variable (w : World)

/-- The items of the queue, and those that are being processed. -/
def waiting : List Item :=
  w.pendingPushQueue ++ (w.processing.map fun p => p.1.item :: p.2).getD []

/-- How often the change of a command is on its way. -/
def held (k : Nat) : Nat :=
  (if (w.pushes k).isSome then 1 else 0) + w.waiting.countP (·.number = k)

/-- The server took a call of the command. -/
def Delivered (k : Nat) : Prop :=
  ∃ i call, w.calls i = some call ∧ call.number = k ∧ call.reply = some true

end World

end Sync.StorePush
