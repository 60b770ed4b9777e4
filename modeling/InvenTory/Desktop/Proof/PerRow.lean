import InvenTory.Desktop.Proof.Catalogue

/-!
# A batch, and the commands for a row

`applySyncPull` replaces the commands `upsert_.._from_server`. Where these go through, it leaves the same
tables (`applySyncPull_iff_perRow`) exactly if no placeholder is written over a product that has a
placeholder's name but a SKU of its own (`Overwritten`), and no store with a real name comes under a code
that another local store has (`CodeElsewhere`).
-/

namespace Desktop.Catalogue

open Relational Runs

variable {t t' : Tables} {r : Response} {p : Product} {s : Store}

/-- The batch writes the placeholder, the command keeps the local row. -/
def Overwritten (local? : Option Product) (p : Product) : Prop :=
  isPlaceholderProduct p.sku p.name = true ∧ ∃ old, local? = some old ∧
    isPlaceholderProduct p.sku old.name = true ∧ isPlaceholderProduct old.sku old.name = false

/-- No row is such a one in its turn. -/
structure Response.Agrees (r : Response) (t : Tables) : Prop where
  products : Along (Table.merge key (productRule localSku).write)
    (fun ps p => ¬ Overwritten (ps.get? p.id) p) t.products r.products
  stores : Along (Table.merge key storeRule.write) (fun ss s => ¬ CodeElsewhere ss s) t.stores r.stores

/-! ## A row -/

/-- A placeholder's SKU is one beside any name. -/
theorem isPlaceholder_of_sku {sku name name' sku' : String} (h : isPlaceholderProduct sku name = true)
    (h' : isPlaceholderProduct sku' name' = true) : isPlaceholderProduct sku name' = true := by
  simp only [isPlaceholderProduct, Bool.and_eq_true] at h h' ⊢
  exact ⟨h.1, h'.2⟩

theorem keeps_eq {local? : Option Product} (h : ¬ Overwritten local? p) :
    (productRule incomingSku).keeps local? p = (productRule localSku).keeps local? p := by
  unfold productRule incomingSku localSku
  cases hp : isPlaceholderProduct p.sku p.name with
  | false => simp [hp]
  | true =>
    cases local? with
    | none => rfl
    | some old =>
      cases hin : isPlaceholderProduct p.sku old.name with
      | true =>
        have hloc : isPlaceholderProduct old.sku old.name = true :=
          Bool.of_not_eq_false fun hf => h ⟨hp, old, rfl, hin, hf⟩
        simp [hp, hin, hloc]
      | false =>
        have hloc : isPlaceholderProduct old.sku old.name = false :=
          Bool.of_not_eq_true fun ht => by simp [isPlaceholder_of_sku hp ht] at hin
        simp [hp, hin, hloc]

theorem writeProduct_eq (h : ¬ Overwritten (t.products.get? p.id) p) :
    writeProduct incomingSku t p = writeProduct localSku t p := by
  unfold writeProduct
  rw [keeps_eq h]

theorem not_overwritten_of_write {local? : Option Product}
    (h : (productRule incomingSku).write local? p = (productRule localSku).write local? p) :
    ¬ Overwritten local? p := by
  rintro ⟨hp, old, rfl, hin, hloc⟩
  have hsku := congrArg Product.sku h
  simp [Table.Rule.write, productRule, incomingSku, localSku, hp, hin, hloc] at hsku
  rw [hsku, hloc] at hin
  exact absurd hin Bool.false_ne_true

/-! ## The sections -/

theorem upsertProduct_steps : Steps (fun t p => (upsertProductFromServer t p).map Prod.snd)
    (putProduct localSku) fun t p => (productRule localSku).Free t.products p :=
  fun t p t' => upsertProductFromServer_ok_iff.trans (writeProduct_steps localSku t p t')

theorem products_congr {ps : List Product} (h : Along (Table.merge key (productRule localSku).write)
    (fun ps p => ¬ Overwritten (ps.get? p.id) p) t.products ps) :
    ps.foldlM (fun t p => (pullProduct t p).map Prod.snd) t = .ok t' ↔
      ps.foldlM (fun t p => (upsertProductFromServer t p).map Prod.snd) t = .ok t' := by
  have hrun : Along (putProduct localSku)
      (fun t p => ¬ Overwritten (t.products.get? p.id) p) t ps :=
    (along_map Tables.products fun _ _ => rfl).2 h
  apply hrun.foldlM_congr upsertProduct_steps
  intro t p t' hp
  rw [pullProduct_eq, writeProduct_eq hp, upsertProductFromServer_ok_iff]

theorem stores_congr {ss : List Store} (h : Along (Table.merge key storeRule.write)
    (fun ss s => ¬ CodeElsewhere ss s) t.stores ss) :
    ss.foldlM (fun t s => (upsertStoreFromServer t s).map Prod.snd) t = .ok t' ↔
      ss.foldlM (fun t s => (pullStore t s).map Prod.snd) t = .ok t' := by
  have hrun : Along putStore (fun t s => ¬ CodeElsewhere t.stores s) t ss :=
    (along_map Tables.stores fun _ _ => rfl).2 h
  apply hrun.foldlM_congr pullStore_steps
  intro t s t' hs
  rw [pullStore_eq, upsertStoreFromServer_ok_iff hs]

theorem balances_congr {bs : List StockBalance} :
    bs.foldlM upsertStockBalanceFromServer t = .ok t' ↔ bs.foldlM Tables.setBalance t = .ok t' :=
  (along_of_forall (G := fun _ _ => True) (fun _ _ => trivial) t bs).foldlM_congr setBalance_steps
    fun _ _ _ _ => mapError_ok_iff

/-- The stores that a batch writes. -/
theorem stores_along {ss : List Store}
    (h : ss.foldlM (fun t s => (pullStore t s).map Prod.snd) t = .ok t') :
    Along (Table.merge key storeRule.write) (fun ss s => ¬ CodeElsewhere ss s) t.stores ss :=
  (along_stores.1 (pullStore_steps.foldlM_ok_iff.1 h).1).mono fun _ _ hs =>
    not_codeElsewhere_of_free hs

theorem write_of_perRow (h : perRow r t = .ok t') (ha : r.Agrees t) : r.write t = .ok t' := by
  unfold perRow at h
  unfold Response.write
  simp only [bind_ok_iff] at h ⊢
  obtain ⟨t1, hp, t2, hs, hb⟩ := h
  have hrun := (upsertProduct_steps.foldlM_ok_iff.1 hp).2
  have hstores : t1.stores = t.stores := by rw [hrun, foldl_putProduct]
  refine ⟨t1, (products_congr ha.products).2 hp, t2, (stores_congr ?_).1 hs, balances_congr.1 hb⟩
  rw [hstores]
  exact ha.stores

theorem agrees_of_write (h : perRow r t = .ok t') (hw : r.write t = .ok t')
    (hn : (r.products.map Product.id).Nodup) : r.Agrees t := by
  unfold perRow at h
  unfold Response.write at hw
  simp only [bind_ok_iff] at h hw
  obtain ⟨t1, hp, t2, hs, hb⟩ := h
  obtain ⟨u1, hup, u2, hus, hub⟩ := hw
  have ht1 := (upsertProduct_steps.foldlM_ok_iff.1 hp).2
  have hu1 := (pullProduct_steps.foldlM_ok_iff.1 hup).2
  have hstores : Along (Table.merge key storeRule.write) (fun ss s => ¬ CodeElsewhere ss s) t.stores
      r.stores := by
    have hrun := stores_along hus
    rwa [hu1, foldl_putProduct] at hrun
  refine ⟨?_, hstores⟩
  -- Both runs end with the same products, and the later sections leave the products alone.
  have ht2 : t2.products = t1.products := by
    rw [stores_congr (by rwa [ht1, foldl_putProduct]), pullStore_steps.foldlM_ok_iff] at hs
    rw [hs.2, foldl_putStore]
  have hu2 : u2.products = u1.products := by
    rw [(pullStore_steps.foldlM_ok_iff.1 hus).2, foldl_putStore]
  have ht : t'.products = t2.products := by
    rw [(setBalance_steps.foldlM_ok_iff.1 (balances_congr.1 hb)).2, foldl_putBalance]
  have hu : t'.products = u2.products := by
    rw [(setBalance_steps.foldlM_ok_iff.1 hub).2, foldl_putBalance]
  have hsame : u1.products = t1.products := by rw [← hu2, ← hu, ht, ht2]
  rw [ht1, hu1, foldl_putProduct, foldl_putProduct] at hsame
  apply (Table.along_merge (productRule localSku).key_write (G := fun o p => ¬ Overwritten o p) hn).2
  intro p hmem
  apply not_overwritten_of_write
  have hget := congrArg (·.get? p.id) hsame
  have hin := Table.get?_mergeAll_mem (t := t.products) (productRule incomingSku).key_write hn hmem
  have hloc := Table.get?_mergeAll_mem (t := t.products) (productRule localSku).key_write hn hmem
  exact Option.some.inj (hin.symm.trans (hget.trans hloc))

/-- **The batch and the commands**, on a response on which these go through. -/
theorem applySyncPull_iff_perRow (r : Response) (t t' : Tables) (h : perRow r t = .ok t') :
    (r.Agrees t → ∃ summary, applySyncPull r t = (.ok summary, t')) ∧
      ((r.products.map Product.id).Nodup →
        (∃ summary, applySyncPull r t = (.ok summary, t')) → r.Agrees t) := by
  rw [applySyncPull_ok_iff]
  exact ⟨write_of_perRow h, fun hn hw => agrees_of_write h hw hn⟩

namespace Sample

/-- The shop as this device made it. -/
def shop : Tables := { Tables.empty with stores := ⟨[store "S-1" "MAIN" "Shop"], by decide⟩ }

/-- The server has the shop under another id. -/
def healed : Response := ⟨[], [store "S-2" "MAIN" "Main Street"], []⟩

def renamed : Response := ⟨[product "P-1" "BOLT" "Bolt M6"], [], []⟩

def renamedTables : Tables :=
  { Tables.empty with products := ⟨[product "P-1" "BOLT" "Bolt M6"], by decide⟩ }

end Sample

theorem applySyncPull_iff_perRow_renamed : ∃ summary,
    applySyncPull Sample.renamed Sample.offline = (.ok summary, Sample.renamedTables) := by
  apply (applySyncPull_iff_perRow Sample.renamed Sample.offline Sample.renamedTables ?_).1
  · refine ⟨⟨fun h => ?_, trivial⟩, trivial⟩
    exact absurd h.1 (by decide +kernel)
  · rfl

/-- The command writes to the shop; the batch fails. -/
theorem healed_store_fails : (∃ t', perRow Sample.healed Sample.shop = .ok t') ∧
    ∃ e, applySyncPull Sample.healed Sample.shop = (.error e, Sample.shop) :=
  ⟨⟨_, rfl⟩, ⟨_, rfl⟩⟩

end Desktop.Catalogue
