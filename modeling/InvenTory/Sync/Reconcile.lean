import InvenTory.Desktop.Catalogue
import InvenTory.Server.Stores

/-!
# Reconciling stores

Before it pushes, a sync sends the server every local store that the server does not have under its id, or
has as a placeholder (`_reconcileStores`). The list of the server is read once, before the first request.
-/

namespace Sync.Reconcile

open Desktop.Catalogue (Store)
open Server (CentralDb CreateStoreRequest DateTime StoreListItem isAutoStore)

/-- `GET /stores`, in the order of the rows. -/
def listStores (c : CentralDb) (includePlaceholders : Bool) : List StoreListItem :=
  (c.db.stores.rows.filter fun s => includePlaceholders || !isAutoStore s).map c.listItem

/-- A later entry of a `Map` replaces an earlier one. -/
def needsReconcile (serverStores : List StoreListItem) (store : Store) : Bool :=
  let serverByIdMatch := serverStores.reverse.find? (·.id = store.id)
  let serverByCodeMatch := serverStores.reverse.find? (·.code = store.code)
  serverByIdMatch.all (·.isPlaceholder) ||
    serverByCodeMatch.any fun s => s.isPlaceholder && s.id ≠ store.id

def request (store : Store) : CreateStoreRequest := ⟨some store.id, store.code, store.name, store.address⟩

/-- What the server draws for a request. -/
structure Draws where
  now : DateTime
  uuid : String
  balanceId : String → String

/-- `POST /stores` -/
def postStore (draws : String → Draws) (c : CentralDb) (store : Store) : CentralDb :=
  let d := draws store.id
  c.handle d.now (.createStore (request store) d.uuid d.balanceId)

/-- The loop over the local stores, with the list that was read before. -/
def postStores (draws : String → Draws) (serverStores : List StoreListItem) (c : CentralDb)
    (localStores : List Store) : CentralDb :=
  localStores.foldl
    (fun c store => if needsReconcile serverStores store then postStore draws c store else c) c

/-- `_reconcileStores`, when every request arrives; the list comes in any order. -/
def Reconciles (draws : String → Draws) (localStores : List Store) (c c' : CentralDb) : Prop :=
  ∃ serverStores, serverStores.Perm (listStores c true) ∧
    c' = postStores draws serverStores c localStores

end Sync.Reconcile
