import InvenTory.Lib.Runs
import InvenTory.Server.Proof.Stamps
import InvenTory.Server.Stores

/-!
# A store creation that is sent again

A request with the id `STORE-{code}` has its store under this id afterwards, and is answered with it
again, but in one case: a placeholder of the code under another id keeps its id, and when its new name is
that of a store, the second request finds the code taken (`createStore_idempotent_iff`).
-/

namespace Server

open Relational Py

namespace CentralDb

variable {c c' : CentralDb} {now : DateTime} {uuid : String} {balanceId : String → String}
  {r : CreateStoreRequest}

/-- The id that the desktop derives from the code. -/
def desktopId (r : CreateStoreRequest) : String := "STORE-" ++ r.code

theorem storeId_desktopId (h : r.id = some (desktopId r)) : r.storeId uuid = desktopId r := by
  unfold CreateStoreRequest.storeId
  rw [h]
  dsimp only
  refine if_neg ?_
  simp [desktopId, startsWith]

/-- The store of a request, as it is written. -/
def storeRow (r : CreateStoreRequest) (id : String) : Store := ⟨id, r.code, r.name, true⟩

/-- The request has been written to the store `id`, the only one with its code. -/
structure Written (c c' : CentralDb) (r : CreateStoreRequest) (id : String) : Prop where
  row : c'.db.stores.get? id = some (storeRow r id)
  others : ∀ k, k ≠ id → c'.db.stores.get? k = c.db.stores.get? k
  address : (c'.storeColumns id).address = r.address
  sole : ∀ q ∈ c'.db.stores.rows, q.code = r.code → q.id = id

/-! ## Writing -/

theorem putStore_columns_self {db : Db} {id : String} {columns : StoreColumns} :
    (c.putStore db id columns).storeColumns id = columns := Function.update_self ..

/-- The first store with the code is the only one. -/
theorem sole_of_others {id : String} (hothers : ∀ k, k ≠ id → c'.db.stores.get? k = c.db.stores.get? k)
    (hsole : ∀ q ∈ c.db.stores.rows, q.code = r.code → q.id = id) :
    ∀ q ∈ c'.db.stores.rows, q.code = r.code → q.id = id := by
  intro q hq hcode
  by_contra hid
  have hget : c'.db.stores.get? q.id = some q := Table.get?_of_mem hq
  rw [hothers _ hid] at hget
  exact hid (hsole q (Table.mem_of_get? hget) hcode)

theorem healStore_written {s : Store} (hs : c.db.stores.get? s.id = some s)
    (hsole : ∀ q ∈ c.db.stores.rows, q.code = r.code → q.id = s.id)
    (h : c.healStore now s r = .ok c') : Written c c' r s.id := by
  have hparts : c'.db.stores.get? s.id = some (storeRow r s.id) ∧
      (∀ k, k ≠ s.id → c'.db.stores.get? k = c.db.stores.get? k) ∧
      (c'.storeColumns s.id).address = r.address := by
    unfold healStore changeStore at h
    split at h
    · rename_i hsame
      cases h
      exact ⟨hs.trans (congrArg some hsame.1.symm), fun _ _ => rfl, hsame.2.symm⟩
    · unfold Db.updateStore at h
      split at h
      · cases h
      · cases h
        refine ⟨Table.get?_put_self _ _, fun k hk => Table.get?_put_of_ne _ (Ne.symm hk), ?_⟩
        exact congrArg StoreColumns.address putStore_columns_self
  exact ⟨hparts.1, hparts.2.1, hparts.2.2, sole_of_others hparts.2.1 hsole⟩

theorem putStore_written {id : String} {db : Db} (hdb : db.stores = c.db.stores.put (storeRow r id))
    (hsole : ∀ q ∈ c.db.stores.rows, q.code ≠ r.code) :
    Written c { c.putStore db id ⟨r.address, now⟩ with db := db } r id := by
  have hrow : db.stores.get? id = some (storeRow r id) := hdb ▸ Table.get?_put_self _ _
  have hothers : ∀ k, k ≠ id → db.stores.get? k = c.db.stores.get? k :=
    fun k hk => hdb ▸ Table.get?_put_of_ne _ (Ne.symm hk)
  have hcolumns : (c.putStore db id ⟨r.address, now⟩).storeColumns id = ⟨r.address, now⟩ :=
    putStore_columns_self
  refine ⟨hrow, hothers, congrArg StoreColumns.address hcolumns, ?_⟩
  exact sole_of_others (c := c) hothers fun q hq hcode => absurd hcode (hsole q hq)

theorem insertNewStore_written {id : String} (hsole : ∀ q ∈ c.db.stores.rows, q.code ≠ r.code)
    (h : c.insertNewStore now balanceId id r = .ok c') : Written c c' r id := by
  obtain ⟨db, hdb, hc⟩ := insertNewStore_ok h
  obtain ⟨-, -, rfl⟩ := insertStore_ok hdb
  rcases hc with rfl | ⟨db', hz, rfl⟩
  · exact putStore_written rfl hsole
  · exact putStore_written (insertZeroBalances_stores hz) hsole

/-! ## What a request does -/

/-- A store stands under the id with the code, and no placeholder has either. -/
structure Settled (c : CentralDb) (id code : String) : Prop where
  byId : ∃ s, c.db.stores.get? id = some s ∧ isAutoStore s = false ∧ s.code = code
  byCode : c.placeholderByCode code = none

theorem placeholderByCode_some {code : String} {s : Store} (h : c.placeholderByCode code = some s) :
    c.db.stores.get? s.id = some s ∧ s.code = code ∧ isAutoStore s = true := by
  have hprop := List.find?_some h
  simp only [decide_eq_true_eq] at hprop
  exact ⟨Table.get?_of_mem (List.mem_of_find?_eq_some h), hprop⟩

theorem placeholderByCode_none {code : String} (h : c.placeholderByCode code = none) :
    ∀ q ∈ c.db.stores.rows, q.code = code → isAutoStore q = false := by
  intro q hq hcode
  have hprop := List.find?_eq_none.1 h q hq
  simpa [hcode] using hprop

/-- The store of a request has its id, or is a placeholder of its code. -/
theorem createdStoreId_cases (c : CentralDb) (storeId code : String) :
    c.createdStoreId storeId code = storeId ∨ c.createdStoreId storeId code ≠ storeId ∧
      (∀ s ∈ c.db.stores.get? storeId, isAutoStore s = false) ∧
      ∃ q ∈ c.db.stores.rows, q.code = code ∧ isAutoStore q = true ∧
        q.id = c.createdStoreId storeId code := by
  rw [or_iff_not_imp_left]
  intro hne
  refine ⟨hne, ?_⟩
  unfold createdStoreId at hne ⊢
  cases hbyId : (c.db.stores.get? storeId).filter isAutoStore with
  | some s =>
    rw [hbyId] at hne
    obtain ⟨hget, -⟩ := Option.filter_eq_some_iff.1 hbyId
    exact absurd (Table.key_of_get? hget) hne
  | none =>
    rw [hbyId] at hne
    cases hbyCode : c.placeholderByCode code with
    | none =>
      rw [hbyCode] at hne
      exact absurd rfl hne
    | some q =>
      obtain ⟨hget, hcode, hauto⟩ := placeholderByCode_some hbyCode
      refine ⟨fun s hs => ?_, q, Table.mem_of_get? hget, hcode, hauto, rfl⟩
      simpa using Option.filter_eq_none_iff.1 hbyId s hs

/-- **A request that is granted** writes the store that it is about, or finds it settled. -/
theorem createStore_cases (hcodes : c.db.stores.Unique Store.code)
    (h : c.createStore now uuid balanceId r = .ok c') :
    Written c c' r (c.createdStoreId (r.storeId uuid) r.code) ∨
      c' = c ∧ Settled c (r.storeId uuid) r.code := by
  unfold createStore at h
  unfold createdStoreId
  simp only at h
  split at h
  · rename_i s hs
    rw [hs]
    obtain ⟨hget, -⟩ := Option.filter_eq_some_iff.1 hs
    have hid : s.id = r.storeId uuid := Table.key_of_get? hget
    split at h
    · cases h
    · rename_i hclash
      refine .inl (healStore_written (hid ▸ hget) (fun q hq hcode => ?_) h)
      by_contra hne
      refine hclash ⟨fun hsame => hne ?_, List.any_eq_true.2 ⟨q, hq, ?_⟩⟩
      · rw [hcodes q hq s (Table.mem_of_get? hget) (hcode.trans hsame)]
      · simpa [← hid] using ⟨hcode, hne⟩
  rename_i hbyId
  rw [hbyId]
  split at h
  · rename_i s hs
    rw [show c.placeholderByCode r.code = some s from hs]
    obtain ⟨hget, hcode, -⟩ := placeholderByCode_some hs
    split at h
    · cases h
    · refine .inl (healStore_written hget (fun q hq hq' => ?_) h)
      rw [hcodes q hq s (Table.mem_of_get? hget) (hq'.trans hcode.symm)]
  · rename_i hs
    rw [show c.placeholderByCode r.code = none from hs]
    split at h
    · rename_i s hget
      split at h
      · rename_i hcode
        cases h
        refine .inr ⟨rfl, ⟨s, hget, ?_, hcode⟩, hs⟩
        by_contra hauto
        rw [hget] at hbyId
        simp [hauto] at hbyId
      · cases h
    · split at h
      · cases h
      · rename_i hnone
        refine .inl (insertNewStore_written (fun q hq hcode => hnone ?_) h)
        exact List.any_eq_true.2 ⟨q, hq, decide_eq_true hcode⟩

/-! ## The second request -/

theorem placeholderByCode_eq_none {code : String}
    (h : ∀ q ∈ c.db.stores.rows, q.code = code → isAutoStore q = false) :
    c.placeholderByCode code = none := by
  refine List.find?_eq_none.2 fun q hq => ?_
  simpa using h q hq

/-- A settled store is found again. -/
theorem Settled.retry (h : Settled c (r.storeId uuid) r.code) :
    c.createStore now uuid balanceId r = .ok c ∧
      c.createdStoreId (r.storeId uuid) r.code = r.storeId uuid := by
  obtain ⟨⟨s, hget, hauto, hcode⟩, hbyCode⟩ := h
  have hfilter : (c.db.stores.get? (r.storeId uuid)).filter isAutoStore = none := by
    rw [hget, Option.filter_some_neg (by simp [hauto])]
  unfold createStore createdStoreId
  simp only
  rw [hfilter, show (c.db.stores.rows.find? fun q => q.code = r.code ∧ isAutoStore q) = none from hbyCode,
    hbyCode, hget]
  exact ⟨if_pos hcode, rfl⟩

section
variable {id : String}

theorem healStore_again (hw : Written c c' r id) : c'.healStore now (storeRow r id) r = .ok c' := by
  unfold healStore changeStore
  rw [if_pos ⟨rfl, hw.address.symm⟩]
  rfl

theorem Written.only (hw : Written c c' r id) :
    ∀ q ∈ c'.db.stores.rows, q.code = r.code → q = storeRow r id := by
  intro q hq hcode
  have hget : c'.db.stores.get? q.id = some q := Table.get?_of_mem hq
  rw [hw.sole q hq hcode, hw.row] at hget
  exact (Option.some.inj hget).symm

theorem Written.settled (hw : Written c c' r id) (hauto : isAutoStore (storeRow r id) = false) :
    Settled c' id r.code := by
  refine ⟨⟨_, hw.row, hauto, rfl⟩, placeholderByCode_eq_none fun q hq hcode => ?_⟩
  rw [hw.only q hq hcode, hauto]

/-- A store that is still a placeholder under the id is written again, as it is. -/
theorem Written.retry_byId (hw : Written c c' r (r.storeId uuid))
    (hauto : isAutoStore (storeRow r (r.storeId uuid)) = true) :
    c'.createStore now uuid balanceId r = .ok c' ∧
      c'.createdStoreId (r.storeId uuid) r.code = r.storeId uuid := by
  have hfilter : (c'.db.stores.get? (r.storeId uuid)).filter isAutoStore =
      some (storeRow r (r.storeId uuid)) := by
    rw [hw.row, Option.filter_some_pos hauto]
  unfold createStore createdStoreId
  simp only
  rw [hfilter]
  refine ⟨(if_neg fun h => h.1 rfl).trans (healStore_again hw), rfl⟩

/-- So is one under another id. -/
theorem Written.retry_byCode (hw : Written c c' r id) (hne : id ≠ r.storeId uuid)
    (hauto : isAutoStore (storeRow r id) = true)
    (hbyId : ∀ s ∈ c.db.stores.get? (r.storeId uuid), isAutoStore s = false) :
    c'.createStore now uuid balanceId r = .ok c' ∧
      c'.createdStoreId (r.storeId uuid) r.code = id := by
  have hfilter : (c'.db.stores.get? (r.storeId uuid)).filter isAutoStore = none := by
    rw [hw.others _ hne.symm]
    exact Option.filter_eq_none_iff.2 fun s hs => by simp [hbyId s hs]
  have hfind : (c'.db.stores.rows.find? fun q => q.code = r.code ∧ isAutoStore q) =
      some (storeRow r id) := by
    cases hs : c'.db.stores.rows.find? fun q => q.code = r.code ∧ isAutoStore q with
    | none =>
      have hmem := List.find?_eq_none.1 hs _ (Table.mem_of_get? hw.row)
      exact absurd (decide_eq_true ⟨rfl, hauto⟩) hmem
    | some s =>
      obtain ⟨hget, hcode, -⟩ := placeholderByCode_some hs
      rw [hw.only s (Table.mem_of_get? hget) hcode]
  unfold createStore createdStoreId
  simp only
  rw [hfilter, show c'.placeholderByCode r.code = some (storeRow r id) from hfind, hfind]
  refine ⟨(if_neg fun h => ?_).trans (healStore_again hw), rfl⟩
  obtain ⟨q, hq, hprop⟩ := List.any_eq_true.1 h
  simp only [decide_eq_true_eq] at hprop
  exact hprop.2.1 (hw.sole q hq hprop.1)

/-- A store of another id keeps the code from the request. -/
theorem Written.refused (hw : Written c c' r id) (hne : id ≠ r.storeId uuid)
    (hauto : isAutoStore (storeRow r id) = false)
    (hbyId : ∀ s ∈ c.db.stores.get? (r.storeId uuid), isAutoStore s = false) :
    ∃ e, c'.createStore now uuid balanceId r = .error e := by
  have hfilter : (c'.db.stores.get? (r.storeId uuid)).filter isAutoStore = none := by
    rw [hw.others _ hne.symm]
    exact Option.filter_eq_none_iff.2 fun s hs => by simp [hbyId s hs]
  have hfind : (c'.db.stores.rows.find? fun q => q.code = r.code ∧ isAutoStore q) = none :=
    placeholderByCode_eq_none fun q hq hcode => by rw [hw.only q hq hcode, hauto]
  unfold createStore
  simp only
  rw [hfilter, hfind]
  dsimp only
  cases hget : c'.db.stores.get? (r.storeId uuid) with
  | some s =>
    have hcode : ¬ s.code = r.code := fun hcode => hne <| by
      rw [← hw.sole s (Table.mem_of_get? hget) hcode]
      exact Table.key_of_get? hget
    exact ⟨_, if_neg hcode⟩
  | none =>
    refine ⟨_, if_pos ?_⟩
    exact List.any_eq_true.2 ⟨_, Table.mem_of_get? hw.row, decide_eq_true rfl⟩

end

/-! ## Responses -/

theorem createStoreResponse_ok_iff {item : StoreListItem} :
    c.createStoreResponse now uuid balanceId r = .ok item ↔
      ∃ c', c.createStore now uuid balanceId r = .ok c' ∧
        ((c.db.stores.get? (c.createdStoreId (r.storeId uuid) r.code)).isNone →
          c.newBalances now balanceId (c.createdStoreId (r.storeId uuid) r.code) r = .ok ()) ∧
        c'.refreshed (c.createdStoreId (r.storeId uuid) r.code) = .ok item := by
  unfold createStoreResponse
  rw [Runs.bind_ok_iff]
  refine exists_congr fun c' => and_congr_right fun _ => ?_
  dsimp only
  split
  · rename_i hnone
    rw [Runs.bind_ok_iff]
    constructor
    · rintro ⟨_, h, hr⟩
      exact ⟨fun _ => h, hr⟩
    · rintro ⟨h, hr⟩
      exact ⟨(), h hnone, hr⟩
  · rename_i hsome
    exact ⟨fun hr => ⟨fun hnone => absurd hnone hsome, hr⟩, fun h => h.2⟩

theorem handle_of_ok (h : c.createStore now uuid balanceId r = .ok c') :
    c.handle now (.createStore r uuid balanceId) = c' := by
  have hanswer : c.answer now (.createStore r uuid balanceId) = .ok c' := h
  rw [handle, hanswer]

/-- A request that leaves everything as it is is answered with the store that is there. -/
theorem response_of_unchanged {id : String} {item : StoreListItem}
    (h : c.createStore now uuid balanceId r = .ok c ∧ c.createdStoreId (r.storeId uuid) r.code = id)
    (hitem : c.refreshed id = .ok item) :
    c.createStoreResponse now uuid balanceId r = .ok item ∧
      c.handle now (.createStore r uuid balanceId) = c := by
  refine ⟨createStoreResponse_ok_iff.2 ⟨c, h.1, fun hnone => ?_, h.2 ▸ hitem⟩, handle_of_ok h.1⟩
  rw [h.2, Option.isNone_iff_eq_none] at hnone
  rw [refreshed, hnone] at hitem
  cases hitem

/-- The second request is answered as the first one, and changes nothing. -/
def Repeats (c : CentralDb) (r : CreateStoreRequest) : Prop :=
  ∀ now now' uuid uuid' balanceId balanceId' item,
    c.createStoreResponse now uuid balanceId r = .ok item →
    let c' := c.handle now (.createStore r uuid balanceId)
    c'.createStoreResponse now' uuid' balanceId' r = .ok item ∧
      c'.handle now' (.createStore r uuid' balanceId') = c'

/-- A placeholder of another id is to become a store. -/
structure TakesOver (c : CentralDb) (r : CreateStoreRequest) : Prop where
  byId : ∀ s ∈ c.db.stores.get? (desktopId r), isAutoStore s = false
  byCode : ∃ q ∈ c.db.stores.rows, q.code = r.code ∧ isAutoStore q = true ∧
    (storeRow r q.id).fits = true
  name : startsWith r.name "Auto Store (" = false
  address : r.address.all (fits 500) = true

/-- The first request takes the placeholder over. -/
theorem TakesOver.first (h : TakesOver c r) (hcodes : c.db.stores.Unique Store.code)
    (hid : r.id = some (desktopId r)) (now : DateTime) (uuid : String) (balanceId : String → String) :
    ∃ c' id item, Written c c' r id ∧ id ≠ desktopId r ∧
      c.createStore now uuid balanceId r = .ok c' ∧
      c.createStoreResponse now uuid balanceId r = .ok item := by
  obtain ⟨q, hq, hcode, hauto, hfits⟩ := h.byCode
  have hstoreId : r.storeId uuid = desktopId r := storeId_desktopId hid
  have hget : c.db.stores.get? q.id = some q := Table.get?_of_mem hq
  have hne : q.id ≠ desktopId r := by
    intro he
    rw [he] at hget
    exact absurd (h.byId q hget) (by simp [hauto])
  have hsole : ∀ q' ∈ c.db.stores.rows, q'.code = r.code → q' = q :=
    fun q' hq' hcode' => hcodes q' hq' q hq (hcode'.trans hcode.symm)
  have hfilter : (c.db.stores.get? (desktopId r)).filter isAutoStore = none :=
    Option.filter_eq_none_iff.2 fun s hs => by simp [h.byId s hs]
  have hfind : (c.db.stores.rows.find? fun q => q.code = r.code ∧ isAutoStore q) = some q := by
    cases hs : c.db.stores.rows.find? fun q => q.code = r.code ∧ isAutoStore q with
    | none => exact absurd (decide_eq_true ⟨hcode, hauto⟩) (List.find?_eq_none.1 hs _ hq)
    | some s =>
      obtain ⟨hs, hcode', -⟩ := placeholderByCode_some hs
      rw [hsole s (Table.mem_of_get? hs) hcode']
  have hheal : ∃ c', c.healStore now q r = .ok c' := by
    unfold healStore changeStore
    split
    · exact ⟨c, rfl⟩
    · unfold Db.updateStore
      rw [if_neg fun hany => ?_]
      · exact ⟨_, rfl⟩
      · obtain ⟨q', hq', hprop⟩ := List.any_eq_true.1 hany
        simp only [decide_eq_true_eq] at hprop
        exact hprop.2 (congrArg Store.id (hsole q' hq' hprop.1))
  obtain ⟨c', hc'⟩ := hheal
  have hw : Written c c' r q.id :=
    healStore_written hget (fun q' hq' hcode' => congrArg Store.id (hsole q' hq' hcode')) hc'
  have hcreate : c.createStore now uuid balanceId r = .ok c' := by
    unfold createStore
    simp only
    rw [hstoreId, hfilter, hfind]
    refine (if_neg fun hany => ?_).trans hc'
    obtain ⟨q', hq', hprop⟩ := List.any_eq_true.1 hany
    simp only [decide_eq_true_eq] at hprop
    exact hprop.2.1 (congrArg Store.id (hsole q' hq' hprop.1))
  have hcreated : c.createdStoreId (r.storeId uuid) r.code = q.id := by
    unfold createdStoreId placeholderByCode
    rw [hstoreId, hfilter, hfind]
  refine ⟨c', q.id, c'.listItem (storeRow r q.id), hw, hne, hcreate,
    createStoreResponse_ok_iff.2 ⟨c', hcreate, fun hnone => ?_, ?_⟩⟩
  · rw [hcreated, hget] at hnone
    cases hnone
  · rw [hcreated, refreshed, hw.row]
    exact if_pos (by rw [hw.address, hfits, h.address]; rfl)

theorem refreshed_ok {id : String} {item : StoreListItem} (h : c.refreshed id = .ok item) :
    ∃ s, c.db.stores.get? id = some s ∧ s.fits = true ∧
      (c.storeColumns id).address.all (fits 500) = true := by
  unfold refreshed at h
  split at h
  · cases h
  · rename_i s hget
    split at h
    · rename_i hfits
      exact ⟨s, hget, by simpa using hfits⟩
    · cases h

/-- **Store creation is idempotent** unless a placeholder of the code, under another id, becomes a
store. -/
theorem createStore_idempotent_iff (c : CentralDb) (r : CreateStoreRequest)
    (hcodes : c.db.stores.Unique Store.code) (hid : r.id = some (desktopId r)) :
    Repeats c r ↔ ¬ TakesOver c r := by
  have hstoreId : ∀ uuid, r.storeId uuid = desktopId r := fun _ => storeId_desktopId hid
  constructor
  · intro h htakes
    let epoch : DateTime := ⟨0, some 0⟩
    obtain ⟨c', id, item, hw, hne, hcreate, hresponse⟩ := htakes.first hcodes hid epoch "" fun p => p
    obtain ⟨hretry, -⟩ := h epoch epoch "" "" _ (fun p => p) item hresponse
    rw [handle_of_ok hcreate] at hretry
    obtain ⟨c2, hagain, -⟩ := createStoreResponse_ok_iff.1 hretry
    have hrefused : ∃ e, c'.createStore epoch "" (fun p => p) r = .error e :=
      hw.refused (hstoreId "" ▸ hne) htakes.name (hstoreId "" ▸ htakes.byId)
    obtain ⟨e, he⟩ := hrefused
    rw [he] at hagain
    cases hagain
  · intro htakes now now' uuid uuid' balanceId balanceId' item hresponse
    obtain ⟨c', hcreate, -, hitem⟩ := createStoreResponse_ok_iff.1 hresponse
    have hsame : r.storeId uuid' = r.storeId uuid := (hstoreId uuid').trans (hstoreId uuid).symm
    dsimp only
    rw [handle_of_ok hcreate]
    rcases createStore_cases hcodes hcreate with hw | ⟨rfl, hsettled⟩
    · rcases createdStoreId_cases c (r.storeId uuid) r.code with hid | ⟨hne, hbyId, q, hq, hcode, hq', hqid⟩
      · rw [hid, ← hsame] at hw hitem
        cases hauto : isAutoStore (storeRow r (r.storeId uuid')) with
        | true => exact response_of_unchanged (hw.retry_byId hauto) hitem
        | false => exact response_of_unchanged (hw.settled hauto).retry hitem
      · cases hauto : isAutoStore (storeRow r (c.createdStoreId (r.storeId uuid) r.code)) with
        | true =>
          rw [← hsame] at hw hauto hitem hne hbyId
          exact response_of_unchanged (hw.retry_byCode hne hauto hbyId) hitem
        | false =>
          obtain ⟨s, hget, hfits, haddress⟩ := refreshed_ok hitem
          cases hw.row.symm.trans hget
          rw [← hqid] at hfits
          exact absurd ⟨hstoreId uuid ▸ hbyId, ⟨q, hq, hcode, hq', hfits⟩, hauto, hw.address ▸ haddress⟩
            htakes
    · obtain ⟨-, hid⟩ : c'.createStore now uuid balanceId r = .ok c' ∧ _ := hsettled.retry
      rw [hid, ← hsame] at hitem
      rw [← hsame] at hsettled
      exact response_of_unchanged hsettled.retry hitem

/-! ## A placeholder of another id -/

namespace Main

def request : CreateStoreRequest := ⟨some "STORE-MAIN", "MAIN", "Main Street", none⟩

/-- The placeholder that a transaction of the store `MAIN` has left. -/
def placeholder : Store := ⟨"MAIN", "MAIN", "Auto Store (MAIN)", true⟩

/-- A database with these stores. -/
def withStores (stores : Table Store) : CentralDb :=
  ⟨{ Db.empty with stores := stores }, fun _ => ⟨none, none, none, none, false, ⟨0, some 0⟩⟩,
    fun _ => ⟨none, ⟨0, some 0⟩⟩⟩

end Main

open Main in
/-- On a new database the request can be repeated. -/
theorem main_repeats : Repeats (withStores ∅) request :=
  (createStore_idempotent_iff _ _ (by unfold Table.Unique; decide) rfl).2 fun h =>
    absurd h.byCode (by decide)

open Main in
/-- Over the placeholder it is granted once. -/
theorem main_refused : ¬ ∀ (c : CentralDb) (r : CreateStoreRequest), c.db.stores.Unique Store.code →
    r.id = some (desktopId r) → Repeats c r := by
  intro h
  have hcodes : (withStores ((∅ : Table Store).put placeholder)).db.stores.Unique Store.code := by
    unfold Table.Unique
    decide
  refine (createStore_idempotent_iff _ request hcodes rfl).1 (h _ _ hcodes rfl) ?_
  exact ⟨by decide, by decide, by decide, by decide⟩

end CentralDb

end Server
