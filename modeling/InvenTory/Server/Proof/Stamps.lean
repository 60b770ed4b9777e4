import InvenTory.Lib.Runs
import InvenTory.Server.Catalogue
import InvenTory.Server.Proof.Item

/-!
# Stamps of stores

Every request of the catalogue stamps the stores that it changes with the server's clock
(`handle_stamps`).
-/

namespace Server.CentralDb

open Relational

/-- A store either is as it was or has the stamp `now`. -/
def StampsStores (now : DateTime) (c c' : CentralDb) : Prop :=
  ∀ id, (c'.db.stores.get? id = c.db.stores.get? id ∧ c'.storeColumns id = c.storeColumns id) ∨
    (c'.storeColumns id).updatedAt = now

variable {now : DateTime} {c c' : CentralDb}

theorem StampsStores.refl (c : CentralDb) : StampsStores now c c := fun _ => .inl ⟨rfl, rfl⟩

/-- A row that is written with its stamp. -/
theorem stamps_putStore {r : Store} {address : Option String} :
    StampsStores now c (c.putStore { c.db with stores := c.db.stores.put r } r.id ⟨address, now⟩) := by
  intro id
  by_cases h : id = r.id
  · subst h
    refine .inr ?_
    show (Function.update c.storeColumns r.id ⟨address, now⟩ r.id).updatedAt = now
    rw [Function.update_self]
  · refine .inl ⟨Table.get?_put_of_ne _ (Ne.symm h), ?_⟩
    show Function.update c.storeColumns r.id ⟨address, now⟩ id = _
    rw [Function.update_of_ne h]

theorem changeStore_stamps {old row : Store} {address : Option String} (hid : row.id = old.id)
    (h : c.changeStore now old row address = .ok c') : StampsStores now c c' := by
  unfold changeStore at h
  split at h
  · cases h
    exact .refl c
  · unfold Db.updateStore at h
    split at h
    · cases h
    · cases h
      rw [← hid]
      exact stamps_putStore

theorem changeStore_mapError_stamps {old row : Store} {address : Option String}
    (h : (c.changeStore now old row address).mapError Refusal.raised = .ok c')
    (hid : row.id = old.id) : StampsStores now c c' := by
  exact changeStore_stamps hid (Runs.mapError_ok_iff.1 h)

theorem healStore_stamps {s : Store} {r : CreateStoreRequest}
    (h : c.healStore now s r = .ok c') : StampsStores now c c' := by
  unfold healStore at h
  exact changeStore_mapError_stamps h rfl

theorem insertZeroBalances_stores {balanceId : String → String} {id : String} {db db' : Db}
    (h : insertZeroBalances now balanceId id db = .ok db') : db'.stores = db.stores := by
  unfold insertZeroBalances at h
  generalize db.products.rows.filter (·.isActive) = ps at h
  induction ps generalizing db with
  | nil =>
    cases h
    rfl
  | cons p ps ih =>
    rw [List.foldlM_cons] at h
    cases hb : db.insertBalance ⟨balanceId p.id, ⟨id, p.id, "AVAILABLE"⟩, 0, now⟩ with
    | error e =>
      rw [hb] at h
      cases h
    | ok db1 =>
      rw [hb] at h
      have hs : db1.stores = db.stores := by
        unfold Db.insertBalance at hb
        simp only at hb
        split at hb
        · cases hb
        split at hb
        · cases hb
        split at hb <;> cases hb
        rfl
      exact (ih h).trans hs

/-- The store is inserted, and its balances are there or not. -/
theorem insertNewStore_ok {balanceId : String → String} {id : String} {r : CreateStoreRequest}
    (h : c.insertNewStore now balanceId id r = .ok c') :
    ∃ db, c.db.insertStore ⟨id, r.code, r.name, true⟩ = .ok db ∧
      (c' = c.putStore db id ⟨r.address, now⟩ ∨
        ∃ db', insertZeroBalances now balanceId id db = .ok db' ∧
          c' = { c.putStore db id ⟨r.address, now⟩ with db := db' }) := by
  unfold insertNewStore at h
  rw [Runs.bind_ok_iff] at h
  obtain ⟨db, hdb, h⟩ := h
  refine ⟨db, Runs.mapError_ok_iff.1 hdb, ?_⟩
  dsimp only at h
  split at h
  · rename_i db' hz
    exact .inr ⟨db', hz, (Except.ok.inj h).symm⟩
  · exact .inl (Except.ok.inj h).symm

theorem insertNewStore_stamps {balanceId : String → String} {id : String} {r : CreateStoreRequest}
    (h : c.insertNewStore now balanceId id r = .ok c') : StampsStores now c c' := by
  obtain ⟨db, hdb, hc⟩ := insertNewStore_ok h
  obtain ⟨-, -, rfl⟩ := insertStore_ok hdb
  have hput : StampsStores now c (c.putStore
      { c.db with stores := c.db.stores.put ⟨id, r.code, r.name, true⟩ } id ⟨r.address, now⟩) :=
    stamps_putStore
  rcases hc with rfl | ⟨db', hz, rfl⟩
  · exact hput
  · intro i
    show (db'.stores.get? i = _ ∧ _) ∨ _
    rw [insertZeroBalances_stores hz]
    exact hput i

theorem createStore_stamps {uuid : String} {balanceId : String → String} {r : CreateStoreRequest}
    (h : c.createStore now uuid balanceId r = .ok c') : StampsStores now c c' := by
  unfold createStore at h
  simp only at h
  split at h
  · split at h
    · cases h
    · exact healStore_stamps h
  split at h
  · split at h
    · cases h
    · exact healStore_stamps h
  split at h
  · split at h <;> cases h
    exact .refl c
  split at h
  · cases h
  · exact insertNewStore_stamps h

theorem insertProduct_stores {db db' : Db} {r : Product} (h : db.insertProduct r = .ok db') :
    db'.stores = db.stores := by
  unfold Db.insertProduct at h
  split at h <;> [cases h; split at h] <;> cases h
  rfl

theorem updateProduct_stores {db db' : Db} {r : Product} (h : db.updateProduct r = .ok db') :
    db'.stores = db.stores := by
  unfold Db.updateProduct at h
  split at h <;> cases h
  rfl

theorem upsertProduct_stores {p : ProductSnapshot} (h : c.upsertProduct now p = .ok c') :
    c'.db.stores = c.db.stores ∧ c'.storeColumns = c.storeColumns := by
  unfold upsertProduct at h
  split at h
  · unfold insertProductSnapshot at h
    simp only at h
    generalize hdb : c.db.insertProduct _ = res at h
    cases res with
    | error e => cases h
    | ok db =>
      cases h
      exact ⟨insertProduct_stores hdb, rfl⟩
  · unfold updateProductSnapshot at h
    simp only at h
    generalize hdb : c.db.updateProduct _ = res at h
    cases res with
    | error e => cases h
    | ok db =>
      cases h
      exact ⟨updateProduct_stores hdb, rfl⟩

theorem upsertProducts_stores : ∀ {ps : List ProductSnapshot} {c c' : CentralDb},
    c.upsertProducts now ps = .ok c' → c'.db.stores = c.db.stores ∧ c'.storeColumns = c.storeColumns
  | [], c, c', h => by
    cases h
    exact ⟨rfl, rfl⟩
  | p :: ps, c, c', h => by
    unfold upsertProducts at h
    rw [List.foldlM_cons] at h
    cases hp : c.upsertProduct now p with
    | error e =>
      rw [hp] at h
      cases h
    | ok c1 =>
      rw [hp] at h
      obtain ⟨h1, h2⟩ := upsertProduct_stores hp
      obtain ⟨h3, h4⟩ := upsertProducts_stores h
      exact ⟨h3.trans h1, h4.trans h2⟩

/-- **Every request stamps the stores that it changes.** -/
theorem handle_stamps (now : DateTime) (c : CentralDb) (r : CatalogueRequest) :
    StampsStores now c (c.handle now r) := by
  unfold handle
  split
  · rename_i c' h
    cases r with
    | pushProducts ps =>
      change (c.upsertProducts now ps).mapError Refusal.raised = .ok c' at h
      cases hps : c.upsertProducts now ps with
      | error e =>
        rw [hps] at h
        cases h
      | ok c1 =>
        rw [hps] at h
        cases h
        obtain ⟨h1, h2⟩ := upsertProducts_stores hps
        exact fun id => .inl ⟨by rw [h1], by rw [h2]⟩
    | createStore r uuid balanceId => exact createStore_stamps h
    | updateStore id name address =>
      change c.updateStore now id name address = .ok c' at h
      unfold updateStore at h
      split at h
      · cases h
      · exact changeStore_mapError_stamps h rfl
    | patchStore id name address =>
      change c.patchStore now id name address = .ok c' at h
      unfold patchStore at h
      split at h
      · cases h
      split at h
      · cases h
      · exact changeStore_mapError_stamps h rfl
      · exact changeStore_mapError_stamps h rfl
    | toggleStoreActive id isActive =>
      change c.toggleStoreActive now id isActive = .ok c' at h
      unfold toggleStoreActive at h
      split at h
      · cases h
      · exact changeStore_mapError_stamps h rfl
  · exact .refl c

end Server.CentralDb
