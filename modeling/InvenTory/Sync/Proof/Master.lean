import InvenTory.Server.Proof.Stamps
import InvenTory.Sync.Device
import InvenTory.Sync.Proof.Closure

/-!
# Pulling what changed

A pull since `t` brings the products and stores with a stamp after `t`, but no inactive stores and no
placeholders. A device that agreed with the server at `t` agrees after the pull exactly if all that
changed is among them and can be applied (`delta_complete_iff`). A store that was deactivated is not
(`delta_misses_deactivated`).
-/

namespace Sync

open Relational Sql Sql.Prog
open Server (CentralDb DateTime isAutoStore)

/-! ## Stamps -/

/-- A store that changed after `t` has a later stamp. -/
theorem Evolves.stamped {t : DateTime} {c c' : CentralDb} (h : Evolves t c c') (id : String) :
    (c'.db.stores.get? id = c.db.stores.get? id ∧ c'.storeColumns id = c.storeColumns id) ∨
      t.instant < (c'.storeColumns id).updatedAt.instant := by
  induction h with
  | refl => exact .inl ⟨rfl, rfl⟩
  | request h hnow r ih =>
    rcases Server.CentralDb.handle_stamps _ _ r id with ⟨h1, h2⟩ | h1
    · rcases ih with ⟨h3, h4⟩ | h3
      · exact .inl ⟨h1.trans h3, h2.trans h4⟩
      · refine .inr ?_
        rw [h2]
        exact h3
    · refine .inr ?_
      rw [h1]
      exact hnow

/-! ## The rows of a pull -/

variable {t : DateTime} {c c1 c2 : CentralDb} {d : Device}

/-- The product is real, and newer than `t`. -/
def NewProduct (t : DateTime) (c : CentralDb) (id : String) : Prop :=
  (centralProduct c id).isSome ∧ t.instant < (c.productColumns id).updatedAt.instant

/-- The store is in use, and newer than `t`. -/
def NewStore (t : DateTime) (c : CentralDb) (id : String) : Prop :=
  InUse c id ∧ t.instant < (c.storeColumns id).updatedAt.instant

theorem newer_some {updatedAt : DateTime} :
    newer (some t) updatedAt = true ↔ t.instant < updatedAt.instant := by
  unfold newer
  simp

theorem newProduct_iff {id : String} : NewProduct t c id ↔
    ∃ p, c.db.products.get? id = some p ∧ p ∈ pulledProducts (some t) c := by
  unfold NewProduct centralProduct
  simp only [mem_pulledProducts, newer_some]
  constructor
  · rintro ⟨hsome, hnew⟩
    rw [Option.isSome_map] at hsome
    obtain ⟨p, hp⟩ := Option.isSome_iff_exists.1 hsome
    obtain ⟨hget, hreal⟩ := Option.filter_eq_some_iff.1 hp
    refine ⟨p, hget, Table.mem_of_get? hget, by simpa using hreal, ?_⟩
    rw [show p.id = id from Table.key_of_get? hget]
    exact hnew
  · rintro ⟨p, hget, -, hreal, hnew⟩
    rw [show p.id = id from Table.key_of_get? hget] at hnew
    rw [hget, Option.filter_some, if_pos (by simp [hreal])]
    exact ⟨rfl, hnew⟩

theorem newStore_iff {id : String} : NewStore t c id ↔
    ∃ s, c.db.stores.get? id = some s ∧ s ∈ pulledStores (some t) c := by
  unfold NewStore InUse
  simp only [mem_pulledStores, newer_some]
  constructor
  · rintro ⟨⟨s, hget, huse⟩, hnew⟩
    refine ⟨s, hget, Table.mem_of_get? hget, huse, ?_⟩
    rw [show s.id = id from Table.key_of_get? hget]
    exact hnew
  · rintro ⟨s, hget, -, huse, hnew⟩
    rw [show s.id = id from Table.key_of_get? hget] at hnew
    exact ⟨⟨s, hget, huse⟩, hnew⟩

/-! ## The columns written -/

theorem writeColumns_other {ρ α : Type} {id : ρ → String} {column : ρ → α} {k : String} :
    ∀ {rs : List ρ} {f : String → α}, k ∉ rs.map id → writeColumns id column rs f k = f k
  | [], _, _ => rfl
  | r :: rs, f, h => by
    rw [List.map_cons, List.mem_cons, not_or] at h
    show writeColumns id column rs (Function.update f (id r) (column r)) k = f k
    rw [writeColumns_other h.2, Function.update_of_ne h.1]

theorem writeColumns_mem {ρ α : Type} {id : ρ → String} {column : ρ → α} {r : ρ} :
    ∀ {rs : List ρ} {f : String → α}, (rs.map id).Nodup → r ∈ rs →
      writeColumns id column rs f (id r) = column r
  | x :: rs, f, hn, hr => by
    obtain ⟨hx, hrs⟩ := List.nodup_cons.1 hn
    show writeColumns id column rs (Function.update f (id x) (column x)) (id r) = column r
    rcases List.mem_cons.1 hr with rfl | hr
    · rw [writeColumns_other hx, Function.update_self]
    · exact writeColumns_mem hrs hr

/-! ## The device afterwards -/

section
variable {db : Desktop.Db} (hcon : Constrained c.db)
  (hdb : applyRows (pulledRows (some t) c) d.db = some db)

include hdb in
theorem apply_of_some : d.apply (pulledRows (some t) c) =
    { db
      attributes := writeColumns (fun p => p.1.id) (fun p => attributes p.1 p.2)
        (pulledRows (some t) c).products d.attributes
      address := writeColumns (fun s => s.1.id) (fun s => s.2.address)
        (pulledRows (some t) c).stores d.address } := by
  unfold Device.apply
  rw [hdb]

include hcon hdb

/-- A product that is pulled. -/
theorem product_new {id : String} (h : NewProduct t c id) :
    (d.apply (pulledRows (some t) c)).product id = centralProduct c id := by
  obtain ⟨p, hget, hp⟩ := newProduct_iff.1 h
  have hid : p.id = id := Table.key_of_get? hget
  have hreal := (mem_pulledProducts.1 hp).2.1
  have hdist := pulled_distinct hcon (some t)
  have hmem : (sentProduct p, c.productColumns p.id) ∈ (pulledRows (some t) c).products :=
    List.mem_map_of_mem hp
  have hrow : db.products.get? id = some (desktopProduct p) := by
    rw [(applyRows_written pulled_real hdist hdb).products, ← hid]
    exact Table.get?_putAll_mem hdist.desktopProducts.1 (List.mem_map_of_mem hmem)
  have hcols : writeColumns (fun p => p.1.id) (fun p => attributes p.1 p.2)
      (pulledRows (some t) c).products d.attributes id =
        attributes (sentProduct p) (c.productColumns id) := by
    rw [← hid]
    exact writeColumns_mem (r := (sentProduct p, c.productColumns p.id)) hdist.products hmem
  rw [apply_of_some hdb]
  unfold Device.product centralProduct
  simp only [hrow, hcols, hget, Option.filter_some]
  have hreal' : Desktop.isPlaceholderProduct (desktopProduct p).sku (desktopProduct p).name = false :=
    (isPlaceholderProduct_eq p).trans hreal
  rw [hreal, hreal']
  rfl

/-- A product that is not pulled. -/
theorem product_old {id : String} (h : ¬ NewProduct t c id) :
    (d.apply (pulledRows (some t) c)).product id = d.product id := by
  have hdist := pulled_distinct hcon (some t)
  have hnot : id ∉ (pulledRows (some t) c).products.map fun p => p.1.id := by
    intro hm
    obtain ⟨x, hx, rfl⟩ := List.mem_map.1 hm
    obtain ⟨p, hp, rfl⟩ := List.mem_map.1 hx
    exact h (newProduct_iff.2 ⟨p, Table.get?_of_mem (mem_pulledProducts.1 hp).1, hp⟩)
  have hrow : db.products.get? id = d.db.products.get? id := by
    rw [(applyRows_written pulled_real hdist hdb).products]
    refine Table.get?_putAll ?_
    unfold Rows.desktopProducts
    rw [List.map_map]
    exact hnot
  rw [apply_of_some hdb]
  unfold Device.product
  simp only [hrow, writeColumns_other hnot]

theorem store_new {id : String} (h : NewStore t c id) :
    (d.apply (pulledRows (some t) c)).store id = centralStore c id := by
  obtain ⟨s, hget, hs⟩ := newStore_iff.1 h
  have hid : s.id = id := Table.key_of_get? hget
  have hdist := pulled_distinct hcon (some t)
  have hmem : (s, c.storeColumns s.id) ∈ (pulledRows (some t) c).stores := List.mem_map_of_mem hs
  have hrow : db.stores.get? id = some (desktopStore s) := by
    rw [(applyRows_written pulled_real hdist hdb).stores, ← hid]
    exact Table.get?_putAll_mem hdist.desktopStores.1 (List.mem_map_of_mem hmem)
  have hcols : writeColumns (fun s => s.1.id) (fun s => s.2.address)
      (pulledRows (some t) c).stores d.address id = (c.storeColumns id).address := by
    rw [← hid]
    exact writeColumns_mem (r := (s, c.storeColumns s.id)) hdist.stores hmem
  rw [apply_of_some hdb]
  unfold Device.store centralStore
  simp only [hrow, hcols, hget, Option.map_some]

theorem store_old {id : String} (h : ¬ NewStore t c id) :
    (d.apply (pulledRows (some t) c)).store id = d.store id := by
  have hdist := pulled_distinct hcon (some t)
  have hnot : id ∉ (pulledRows (some t) c).stores.map fun s => s.1.id := by
    intro hm
    obtain ⟨x, hx, rfl⟩ := List.mem_map.1 hm
    obtain ⟨s, hs, rfl⟩ := List.mem_map.1 hx
    exact h (newStore_iff.2 ⟨s, Table.get?_of_mem (mem_pulledStores.1 hs).1, hs⟩)
  have hrow : db.stores.get? id = d.db.stores.get? id := by
    rw [(applyRows_written pulled_real hdist hdb).stores]
    refine Table.get?_putAll ?_
    unfold Rows.desktopStores
    rw [List.map_map]
    exact hnot
  rw [apply_of_some hdb]
  unfold Device.store
  simp only [hrow, writeColumns_other hnot]

end

/-! ## Completeness -/

/-- All that changed is brought by the pull, and can be applied. -/
structure Delivered (t : DateTime) (c1 c2 : CentralDb) (d : Device) : Prop where
  products : ∀ id, centralProduct c2 id ≠ centralProduct c1 id → NewProduct t c2 id
  stores : ∀ id, (d.store id).isSome → centralStore c2 id ≠ centralStore c1 id → InUse c2 id
  fits : Fits (pulledRows (some t) c2) d.db

/-- Nothing changed that the device should have. -/
structure Unchanged (c1 c2 : CentralDb) (d : Device) : Prop where
  products : ∀ id, centralProduct c2 id = centralProduct c1 id
  stores : ∀ id, (d.store id).isSome → centralStore c2 id = centralStore c1 id
  inUse : ∀ id, InUse c2 id → (d.store id).isSome

theorem centralStore_congr {id : String} (h : c2.db.stores.get? id = c1.db.stores.get? id ∧
    c2.storeColumns id = c1.storeColumns id) : centralStore c2 id = centralStore c1 id := by
  unfold centralStore
  rw [h.1, h.2]

theorem isSome_centralStore {id : String} (h : InUse c id) : (centralStore c id).isSome := by
  obtain ⟨s, hs, -⟩ := h
  unfold centralStore
  rw [hs]
  rfl

theorem agrees_of_delivered (hat : Agrees c1 d) (hev : Evolves t c1 c2) (hcon : Constrained c2.db)
    (h : Delivered t c1 c2 d) : Agrees c2 (d.apply (pulledRows (some t) c2)) := by
  obtain ⟨db, hdb⟩ := Option.isSome_iff_exists.1
    ((applyRows_isSome pulled_real (pulled_distinct hcon (some t))).2 h.fits)
  constructor
  · intro id
    by_cases hnew : NewProduct t c2 id
    · exact product_new hcon hdb hnew
    · rw [product_old hcon hdb hnew, hat.products id]
      by_contra hne
      exact hnew (h.products id (Ne.symm hne))
  · intro id hsome
    by_cases hnew : NewStore t c2 id
    · exact store_new hcon hdb hnew
    · rw [store_old hcon hdb hnew] at hsome ⊢
      rw [hat.stores id hsome]
      by_contra hne
      -- a store in use that changed would be new
      have huse := h.stores id hsome (Ne.symm hne)
      rcases hev.stamped id with hsame | hstamp
      · exact hne (centralStore_congr hsame).symm
      · exact hnew ⟨huse, hstamp⟩
  · intro id huse
    by_cases hnew : NewStore t c2 id
    · rw [store_new hcon hdb hnew]
      exact isSome_centralStore huse
    · rw [store_old hcon hdb hnew]
      rcases hev.stamped id with ⟨hget, -⟩ | hstamp
      · refine hat.inUse id ?_
        unfold InUse at huse ⊢
        rwa [hget] at huse
      · exact absurd ⟨huse, hstamp⟩ hnew

theorem agrees_of_unchanged (hat : Agrees c1 d) (h : Unchanged c1 c2 d) : Agrees c2 d where
  products id := (hat.products id).trans (h.products id).symm
  stores id hsome := (hat.stores id hsome).trans (h.stores id hsome).symm
  inUse := h.inUse

theorem unchanged_of_agrees (hat : Agrees c1 d) (h : Agrees c2 d) : Unchanged c1 c2 d where
  products id := (h.products id).symm.trans (hat.products id)
  stores id hsome := (h.stores id hsome).symm.trans (hat.stores id hsome)
  inUse := h.inUse

theorem delivered_of_agrees (hat : Agrees c1 d) (hcon : Constrained c2.db)
    (hf : Fits (pulledRows (some t) c2) d.db)
    (h : Agrees c2 (d.apply (pulledRows (some t) c2))) : Delivered t c1 c2 d := by
  obtain ⟨db, hdb⟩ := Option.isSome_iff_exists.1
    ((applyRows_isSome pulled_real (pulled_distinct hcon (some t))).2 hf)
  refine ⟨fun id hne => ?_, fun id hsome hne => ?_, hf⟩
  · by_contra hnew
    have hid := h.products id
    rw [product_old hcon hdb hnew, hat.products id] at hid
    exact hne hid.symm
  · by_contra huse
    have hnew : ¬ NewStore t c2 id := fun hn => huse hn.1
    have hid := h.stores id
    rw [store_old hcon hdb hnew] at hid
    exact hne ((hid hsome).symm.trans (hat.stores id hsome))

/-- **When a delta pull of the master data is complete.** -/
theorem delta_complete_iff (hat : Agrees c1 d) (hev : Evolves t c1 c2) (hcon : Constrained c2.db)
    {limit n : Nat} {now : DateTime} {resp : PullResponse}
    (h : httpPullAll (some t) limit 0 none (List.replicate n (some (c2, now))) = .done resp) :
    Agrees c2 (d.apply resp.rows) ↔ Delivered t c1 c2 d ∨ Unchanged c1 c2 d := by
  have hrows : resp.rows = pulledRows (some t) c2 := by
    refine pullAll_rows (fun c' now' hx => ?_) (merged_start _) h
    cases List.eq_of_mem_replicate hx
    rfl
  rw [hrows]
  by_cases hf : Fits (pulledRows (some t) c2) d.db
  · constructor
    · intro h2
      exact .inl (delivered_of_agrees hat hcon hf h2)
    · rintro (hdel | hun)
      · exact agrees_of_delivered hat hev hcon hdel
      · exact agrees_of_delivered hat hev hcon
          ⟨fun id hne => absurd (hun.products id) hne,
            fun id hsome hne => absurd (hun.stores id hsome) hne, hf⟩
  · -- nothing is applied
    have hsame : d.apply (pulledRows (some t) c2) = d := by
      unfold Device.apply
      cases hdb : applyRows (pulledRows (some t) c2) d.db with
      | none => rfl
      | some db =>
        exact absurd ((applyRows_isSome pulled_real (pulled_distinct hcon _)).1 (by rw [hdb]; rfl)) hf
    rw [hsame]
    constructor
    · intro h2
      exact .inr (unchanged_of_agrees hat h2)
    · rintro (hdel | hun)
      · exact absurd hdel.fits hf
      · exact agrees_of_unchanged hat hun

namespace Sample

def opened : CentralDb := startup.handle noon (.createStore store "7c1d" fun id => "SB-" ++ id)

def later : DateTime := ⟨200, some 0⟩

def renamed : CentralDb := opened.handle later (.updateStore "STORE-A" "Shop" none)

def deactivated : CentralDb := opened.handle later (.toggleStoreActive "STORE-A" false)

/-- A device that has the store. -/
def device : Device where
  db := { Desktop.Db.empty with stores := (∅ : Table Desktop.Store).put ⟨"STORE-A", "A", "Main", true⟩ }
  attributes _ := ⟨"General", "pcs", none, none, none, none, false⟩
  address _ := none

theorem opened_reachable : Server.Reachable Server.Sample.python opened := .request (.start rfl) noon _

theorem constrained_request {r : Server.CatalogueRequest}
    (h : (opened.handle later r).db.balances.rows = []) : Constrained (opened.handle later r).db := by
  refine ⟨(Server.Reachable.request opened_reachable later r).referenced, fun a ha => ?_⟩
  rw [h] at ha
  cases ha

theorem store_device {id : String} (h : (device.store id).isSome) : id = "STORE-A" := by
  by_contra hne
  have hnone : device.db.stores.get? id = none := by
    show ((∅ : Table Desktop.Store).put ⟨"STORE-A", "A", "Main", true⟩).get? id = none
    rw [Table.get?_put_of_ne _ (Ne.symm hne)]
    rfl
  unfold Device.store at h
  rw [hnone] at h
  cases h

/-- A server without products and with the stores of the device. -/
theorem product_none {c : CentralDb} (h : c.db.products.rows = []) (id : String) :
    centralProduct c id = none := by
  have hget : c.db.products.get? id = none := by
    rw [Table.get?_eq_none, h]
    exact List.not_mem_nil
  unfold centralProduct
  rw [hget]
  rfl

theorem inUse_opened {id : String} (h : InUse opened id) : id = "STORE-A" := by
  obtain ⟨s, hs, -⟩ := h
  have hrows : opened.db.stores.rows.map Server.Store.id = ["STORE-A"] := by decide +kernel
  have hm := List.mem_map_of_mem (f := Server.Store.id) (Table.mem_of_get? hs)
  rw [hrows, show s.id = id from Table.key_of_get? hs] at hm
  exact List.mem_singleton.1 hm

theorem device_agrees : Agrees opened device where
  products id := (product_none (by decide +kernel) id).symm
  stores id h := by
    rw [store_device h]
    decide +kernel
  inUse id h := by
    rw [inUse_opened h]
    decide +kernel

theorem renamed_delivered : Delivered noon opened renamed device where
  products id h := absurd ((product_none (by decide +kernel) id).trans
    (product_none (by decide +kernel) id).symm) h
  stores id h _ := by
    rw [store_device h]
    exact ⟨⟨"STORE-A", "A", "Shop", true⟩, by decide +kernel, rfl, by decide +kernel⟩
  fits := by
    have hs : (pulledRows (some noon) renamed).desktopStores = [⟨"STORE-A", "A", "Shop", true⟩] := by
      decide +kernel
    have hb : (pulledRows (some noon) renamed).stockBalances = [] := by decide +kernel
    refine ⟨(fun pre r post _ q hq => by cases hq), ?_, ?_, ?_⟩
    · intro pre r post he q hq _
      rw [hs] at he
      have hr : r = ⟨"STORE-A", "A", "Shop", true⟩ := by
        have hm : r ∈ pre ++ r :: post := by simp
        rw [← he] at hm
        exact List.mem_singleton.1 hm
      rw [hr, List.mem_singleton.1 hq]
      exact .inl rfl
    · rw [hb]
      intro b hm
      cases hm
    · rw [hb]
      intro b hm
      cases hm

end Sample

theorem delta_complete_renamed : ∃ resp, httpPullAll (some Sample.noon) 10 0 none
      (List.replicate 2 (some (Sample.renamed, Sample.later))) = .done resp ∧
    Agrees Sample.renamed (Sample.device.apply resp.rows) := by
  obtain ⟨resp, hresp⟩ := pullAll_done Sample.later (show 0 < 10 by decide)
    (merged_start (pulledRows (some Sample.noon) Sample.renamed))
    (show (pulledRows (some Sample.noon) Sample.renamed).length < 0 + 2 by decide +kernel)
  have hev : Evolves Sample.noon Sample.opened Sample.renamed := .request (.refl _) (by decide) _
  have hcon : Constrained Sample.renamed.db := Sample.constrained_request (by decide +kernel)
  exact ⟨resp, hresp,
    (delta_complete_iff Sample.device_agrees hev hcon hresp).2 (.inl Sample.renamed_delivered)⟩

/-- A store that was deactivated stays active on the device. -/
theorem delta_misses_deactivated : ¬ ∀ (t : DateTime) (c1 c2 : CentralDb) (d : Device), Agrees c1 d →
    Evolves t c1 c2 → Constrained c2.db → ∀ limit n now resp,
      httpPullAll (some t) limit 0 none (List.replicate n (some (c2, now))) = .done resp →
        Agrees c2 (d.apply resp.rows) := by
  intro h
  obtain ⟨resp, hresp⟩ := pullAll_done Sample.later (show 0 < 10 by decide)
    (merged_start (pulledRows (some Sample.noon) Sample.deactivated))
    (show (pulledRows (some Sample.noon) Sample.deactivated).length < 0 + 1 by decide +kernel)
  have hagree := h Sample.noon Sample.opened Sample.deactivated Sample.device Sample.device_agrees
    (.request (.refl _) (by decide) _) (Sample.constrained_request (by decide +kernel)) _ _ _ _ hresp
  have hrows : resp.rows = pulledRows (some Sample.noon) Sample.deactivated := by
    refine pullAll_rows (fun c' now' hx => ?_) (merged_start _) hresp
    cases List.eq_of_mem_replicate hx
    rfl
  rw [hrows] at hagree
  have hstore := hagree.stores "STORE-A" (by decide +kernel)
  revert hstore
  decide +kernel

end Sync
