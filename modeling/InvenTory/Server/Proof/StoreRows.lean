import InvenTory.Server.Proof.Stamps

/-!
# What a request leaves of the stores

A creation writes a new store or a placeholder, and never a store with a name of its own
(`createStore_keepsStore`); whatever it writes is active (`createStore_active`). A patch writes the name and the
address that it brings (`patchStore_ok`), and nothing if it brings none (`patchStore_nothing`).
-/

namespace Server.CentralDb

open Relational

variable {c c' : CentralDb} {now : DateTime} {uuid : String} {balanceId : String → String}
  {r : CreateStoreRequest}

/-- The store `id` has the row and the address that it had. -/
def SameStore (id : String) (c c' : CentralDb) : Prop :=
  c'.db.stores.get? id = c.db.stores.get? id ∧ c'.storeColumns id = c.storeColumns id

theorem SameStore.refl (id : String) (c : CentralDb) : SameStore id c c := ⟨rfl, rfl⟩

/-- The store `id` is active. -/
def Active (id : String) (c : CentralDb) : Prop := ∃ s, c.db.stores.get? id = some s ∧ s.isActive = true

theorem Active.same {id : String} (h : Active id c) (hs : SameStore id c c') : Active id c' := by
  obtain ⟨s, hget, hactive⟩ := h
  exact ⟨s, hs.1.trans hget, hactive⟩

/-- `changeStore` writes the row and the address, or they are there. -/
theorem changeStore_ok {old row : Store} {address : Option String} (hid : row.id = old.id)
    (hold : c.db.stores.get? old.id = some old) (h : c.changeStore now old row address = .ok c') :
    c'.db.stores.get? old.id = some row ∧ (c'.storeColumns old.id).address = address ∧
      ∀ id, id ≠ old.id → SameStore id c c' := by
  unfold changeStore at h
  split at h
  · rename_i hsame
    cases h
    exact ⟨hsame.1 ▸ hold, hsame.2.symm, fun _ _ => .refl _ _⟩
  · unfold Db.updateStore at h
    split at h
    · cases h
    · cases h
      refine ⟨hid ▸ Table.get?_put_self _ _, ?_, fun id hne => ⟨?_, ?_⟩⟩
      · simp [putStore]
      · exact Table.get?_put_of_ne _ (by rw [show key row = row.id from rfl, hid]; exact hne.symm)
      · simp [putStore, hne]

theorem healStore_ok {s : Store} (hs : c.db.stores.get? s.id = some s)
    (h : c.healStore now s r = .ok c') :
    c'.db.stores.get? s.id = some ⟨s.id, r.code, r.name, true⟩ ∧ ∀ id, id ≠ s.id → SameStore id c c' := by
  have hrow : (⟨s.id, r.code, r.name, true⟩ : Store).id = s.id := rfl
  obtain ⟨hget, -, hothers⟩ := changeStore_ok hrow hs (Runs.mapError_ok_iff.1 h)
  exact ⟨hget, hothers⟩

theorem insertNewStore_rows {id : String} (h : c.insertNewStore now balanceId id r = .ok c') :
    c.db.stores.get? id = none ∧ c'.db.stores.get? id = some ⟨id, r.code, r.name, true⟩ ∧
      ∀ i, i ≠ id → SameStore i c c' := by
  obtain ⟨db, hdb, hc⟩ := insertNewStore_ok h
  obtain ⟨hnew, -, rfl⟩ := insertStore_ok hdb
  have hput : ∀ i, i ≠ id → (c.db.stores.put ⟨id, r.code, r.name, true⟩).get? i = c.db.stores.get? i :=
    fun i hi => Table.get?_put_of_ne _ (Ne.symm hi)
  obtain rfl | ⟨db', hz, rfl⟩ := hc
  · refine ⟨hnew, Table.get?_put_self _ _, fun i hi => ⟨hput i hi, ?_⟩⟩
    simp [putStore, hi]
  · have hstores := insertZeroBalances_stores hz
    refine ⟨hnew, ?_, fun i hi => ⟨?_, ?_⟩⟩
    · exact hstores ▸ Table.get?_put_self _ _
    · exact (congrArg (·.get? i) hstores).trans (hput i hi)
    · simp [putStore, hi]

/-- **What a creation can do**: it writes a placeholder or a new store, or nothing. -/
theorem createStore_writes (h : c.createStore now uuid balanceId r = .ok c') :
    c' = c ∨ ∃ id, (∀ s, c.db.stores.get? id = some s → isAutoStore s = true) ∧
      c'.db.stores.get? id = some ⟨id, r.code, r.name, true⟩ ∧ ∀ i, i ≠ id → SameStore i c c' := by
  have hheal : ∀ s, c.db.stores.get? s.id = some s → isAutoStore s = true →
      c.healStore now s r = .ok c' →
      ∃ id, (∀ s, c.db.stores.get? id = some s → isAutoStore s = true) ∧
        c'.db.stores.get? id = some ⟨id, r.code, r.name, true⟩ ∧ ∀ i, i ≠ id → SameStore i c c' := by
    intro s hget hauto hok
    refine ⟨s.id, fun s' hs' => ?_, healStore_ok hget hok⟩
    rw [hget] at hs'
    cases hs'
    exact hauto
  unfold createStore at h
  simp only at h
  split at h
  · rename_i s hs
    obtain ⟨hget, hauto⟩ := Option.filter_eq_some_iff.1 hs
    have hid : s.id = r.storeId uuid := Table.key_of_get? hget
    split at h
    · cases h
    · exact .inr (hheal s (hid ▸ hget) hauto h)
  split at h
  · rename_i s hs
    have hprop := List.find?_some hs
    simp only [decide_eq_true_eq] at hprop
    split at h
    · cases h
    · exact .inr (hheal s (Table.get?_of_mem (List.mem_of_find?_eq_some hs)) hprop.2 h)
  split at h
  · split at h <;> cases h
    exact .inl rfl
  split at h
  · cases h
  · obtain ⟨hnew, hrow, hothers⟩ := insertNewStore_rows h
    refine .inr ⟨_, fun s hs => ?_, hrow, hothers⟩
    rw [hnew] at hs
    cases hs

/-- A store with a name of its own is left as it is. -/
theorem createStore_keepsStore (h : c.createStore now uuid balanceId r = .ok c') {id : String} {s : Store}
    (hs : c.db.stores.get? id = some s) (hreal : isAutoStore s = false) : SameStore id c c' := by
  obtain rfl | ⟨i, hauto, -, hothers⟩ := createStore_writes h
  · exact .refl _ _
  · refine hothers id fun he => ?_
    subst he
    rw [hauto s hs] at hreal
    cases hreal

theorem createStore_active (h : c.createStore now uuid balanceId r = .ok c') {id : String}
    (hs : Active id c) : Active id c' := by
  obtain rfl | ⟨i, -, hrow, hothers⟩ := createStore_writes h
  · exact hs
  · by_cases he : id = i
    · exact ⟨_, he ▸ hrow, rfl⟩
    · exact hs.same (hothers id he)

/-- A patch with a name writes it, and the address if it has one. -/
theorem patchStore_ok {id name : String} {address : Option String}
    (h : c.patchStore now id (some (some name)) (address.map some) = .ok c') :
    ∃ s, c.db.stores.get? id = some s ∧ c'.db.stores.get? id = some { s with name } ∧
      (∀ a, address = some a → (c'.storeColumns id).address = some a) ∧
      ∀ i, i ≠ id → SameStore i c c' := by
  unfold patchStore at h
  split at h
  · cases h
  · rename_i s hget
    obtain rfl : s.id = id := Table.key_of_get? hget
    have hrow : ({ s with name := name } : Store).id = s.id := rfl
    obtain ⟨hs, ha, hothers⟩ := changeStore_ok hrow hget (Runs.mapError_ok_iff.1 h)
    refine ⟨s, hget, hs, fun a hsome => ?_, hothers⟩
    rw [ha, hsome]
    rfl

/-- A patch of no field that the request has changes nothing. -/
theorem patchStore_nothing {id : String} (h : c.patchStore now id none none = .ok c') : c' = c := by
  unfold patchStore at h
  split at h
  · cases h
  · rename_i s hget
    have hid : s.id = id := Table.key_of_get? hget
    unfold changeStore at h
    rw [if_pos ⟨rfl, by rw [hid]; rfl⟩] at h
    cases h
    rfl

end Server.CentralDb
