import InvenTory.Server.Widths

/-!
# The response to a store creation

`createStore` of `Catalogue.lean` says what `create_store` leaves behind. Here is what it returns: the
store as it is then, unless a text does not fit its column, or a balance of a new store, which is
inserted after the commit, fails.
-/

namespace Server

open Relational Py

structure StoreListItem where
  id : String
  code : String
  name : String
  address : Option String
  isActive : Bool
  isPlaceholder : Bool
  deriving DecidableEq, Repr

namespace CentralDb

def listItem (c : CentralDb) (s : Store) : StoreListItem :=
  ⟨s.id, s.code, s.name, (c.storeColumns s.id).address, s.isActive, isAutoStore s⟩

def placeholderByCode (c : CentralDb) (code : String) : Option Store :=
  c.db.stores.rows.find? fun q => q.code = code ∧ isAutoStore q

/-- The store that a request is about: a placeholder with its id, or else one with its code. -/
def createdStoreId (c : CentralDb) (storeId code : String) : String :=
  match (c.db.stores.get? storeId).filter isAutoStore, c.placeholderByCode code with
  | some s, _ => s.id
  | none, some s => s.id
  | none, none => storeId

/-- `await db.refresh(store)`, and the columns of the row. -/
def refreshed (c : CentralDb) (id : String) : Except Refusal StoreListItem :=
  match c.db.stores.get? id with
  | none => .error (.raised ⟨"InvalidRequestError", "Could not refresh instance"⟩)
  | some s =>
    if s.fits && (c.storeColumns id).address.all (fits 500) then .ok (c.listItem s)
    else .error (.raised valueTooLong)

/-- The balances of a new store. -/
def newBalances (now : DateTime) (balanceId : String → String) (c : CentralDb) (storeId : String)
    (r : CreateStoreRequest) : Except Refusal Unit := do
  let db ← (c.db.insertStore ⟨storeId, r.code, r.name, true⟩).mapError .raised
  let _ ← (insertZeroBalances now balanceId storeId db).mapError .raised
  pure ()

def createStoreResponse (now : DateTime) (uuid : String) (balanceId : String → String) (c : CentralDb)
    (r : CreateStoreRequest) : Except Refusal StoreListItem := do
  let c' ← c.createStore now uuid balanceId r
  let id := c.createdStoreId (r.storeId uuid) r.code
  if (c.db.stores.get? id).isNone then c.newBalances now balanceId id r
  c'.refreshed id

end CentralDb

end Server
