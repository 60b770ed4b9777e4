import InvenTory.Desktop.Catalogue

/-!
# A pull goes through whole, or not at all

The statements of a pull are upserts that keep some local rows (`productRule`, `storeRule`), so that a
row is written exactly if it is free (`writeProduct_steps`, `writeStore_steps`, `setBalance_steps`).
`pullSections_iff`: a response is applied exactly if every row is free in its turn;
`applySyncPull_atomic` says what this leaves, and `applySyncPull_iff_perRow` when the commands for a row
leave the same.
-/

namespace Desktop.Catalogue

open Relational Runs
open Server (StockKey)

variable {t t' : Tables} {r : Response} {p : Product} {s : Store} {b : StockBalance}

theorem map_snd {ε σ α : Type} (x : Except ε σ) (a : α) :
    (x.map fun t => (a, t)).map Prod.snd = x := by
  cases x <;> rfl

/-! ## Products -/

/-- A placeholder does not replace a product with a real name; the SKU that is tested with the local name
is the incoming one in a batch, and the local one in the command for a row. -/
def productRule (sku : Product → Product → String) : Table.Rule Product String where
  column := Product.sku
  keeps local? p := isPlaceholderProduct p.sku p.name &&
    local?.any fun old => !isPlaceholderProduct (sku old p) old.name
  kept old p := { old with id := p.id, isActive := p.isActive, updatedAt := p.updatedAt }
  merged old p := { p with createdAt := old.createdAt }
  keeps_none _ := by simp
  key_kept _ _ := rfl
  key_merged _ _ := rfl
  column_merged _ _ := rfl

def incomingSku (_ p : Product) : String := p.sku

def localSku (old _ : Product) : String := old.sku

def putProduct (sku : Product → Product → String) (t : Tables) (p : Product) : Tables :=
  { t with products := t.products.merge key (productRule sku).write p }

/-- The two statements of a product, by the SKU that is tested. -/
def writeProduct (sku : Product → Product → String) (t : Tables) (p : Product) :
    Except String Tables :=
  if (productRule sku).keeps (t.products.get? p.id) p then .ok (t.setProductStatus p)
  else t.upsertProduct p

theorem writeProduct_steps (sku : Product → Product → String) :
    Steps (writeProduct sku) (putProduct sku) fun t p => (productRule sku).Free t.products p :=
  Table.Rule.steps Tables.products (fun t ps => { t with products := ps }) Tables.skuTaken
    (fun t p old h => by
      have hid : old.id = p.id := Table.key_of_get? h
      have hget : t.products.get? old.id = some old := by rw [hid]; exact h
      simp [Tables.setProductStatus, hget, productRule, ← hid])
    fun t p => by
      unfold Tables.upsertProduct Tables.productRow Table.Rule.upserted
      cases t.products.get? p.id <;> simp [productRule]

theorem pullProduct_eq (t : Tables) (p : Product) :
    (pullProduct t p).map Prod.snd = writeProduct incomingSku t p := by
  unfold pullProduct writeProduct productRule incomingSku
  cases hp : isPlaceholderProduct p.sku p.name with
  | false => simp [hp, map_snd]
  | true =>
    cases hl : t.products.get? p.id with
    | none => simp [hp, map_snd]
    | some old =>
      cases h : isPlaceholderProduct p.sku old.name with
      | false => simp [hp, h, Except.map]
      | true => simp [hp, h, map_snd]

theorem upsertProductFromServer_ok_iff : (upsertProductFromServer t p).map Prod.snd = .ok t' ↔
    writeProduct localSku t p = .ok t' := by
  unfold upsertProductFromServer writeProduct productRule localSku
  cases hp : isPlaceholderProduct p.sku p.name with
  | false => simp [hp, map_snd, mapError_ok_iff]
  | true =>
    cases hl : t.products.get? p.id with
    | none => simp [hp, map_snd, mapError_ok_iff]
    | some old =>
      cases h : isPlaceholderProduct old.sku old.name with
      | false => simp [hp, h, Except.map]
      | true => simp [hp, h, map_snd, mapError_ok_iff]

/-! ## Stores -/

/-- A placeholder does not replace a store with a real name. -/
def storeRule : Table.Rule Store String where
  column := Store.code
  keeps local? s := isPlaceholderStore s.name &&
    local?.any fun old => !isPlaceholderStore old.name
  kept old s := { old with id := s.id, isActive := s.isActive, updatedAt := s.updatedAt }
  merged old s := { s with createdAt := old.createdAt }
  keeps_none _ := by simp
  key_kept _ _ := rfl
  key_merged _ _ := rfl
  column_merged _ _ := rfl

def putStore (t : Tables) (s : Store) : Tables :=
  { t with stores := t.stores.merge key storeRule.write s }

def writeStore (t : Tables) (s : Store) : Except String Tables :=
  if storeRule.keeps (t.stores.get? s.id) s then .ok (t.setStoreStatus s) else t.upsertStore s

theorem writeStore_steps :
    Steps writeStore putStore fun t s => storeRule.Free t.stores s :=
  Table.Rule.steps Tables.stores (fun t ss => { t with stores := ss }) Tables.codeTaken
    (fun t s old h => by
      have hid : old.id = s.id := Table.key_of_get? h
      have hget : t.stores.get? old.id = some old := by rw [hid]; exact h
      simp [Tables.setStoreStatus, hget, storeRule, ← hid])
    fun t s => by
      unfold Tables.upsertStore Tables.storeRow Table.Rule.upserted
      cases t.stores.get? s.id <;> simp [storeRule]

theorem pullStore_eq (t : Tables) (s : Store) : (pullStore t s).map Prod.snd = writeStore t s := by
  unfold pullStore writeStore storeRule
  cases hs : isPlaceholderStore s.name with
  | false => simp [hs, map_snd]
  | true =>
    cases hl : t.stores.get? s.id with
    | none => simp [hs, map_snd]
    | some old =>
      cases h : isPlaceholderStore old.name with
      | false => simp [hs, h, Except.map]
      | true => simp [hs, h, map_snd]

/-- The row has a real name, and another local store has its code: the command for a row then writes
that store. -/
def CodeElsewhere (ss : Table Store) (s : Store) : Prop :=
  isPlaceholderStore s.name = false ∧ ∃ q ∈ ss.rows, q.code = s.code ∧ q.id ≠ s.id

theorem upsertStoreFromServer_ok_iff (hc : ¬ CodeElsewhere t.stores s) :
    (upsertStoreFromServer t s).map Prod.snd = .ok t' ↔ writeStore t s = .ok t' := by
  unfold upsertStoreFromServer writeStore storeRule
  cases hs : isPlaceholderStore s.name with
  | false =>
    have hnone : (t.stores.rows.find? fun q => q.code = s.code ∧ q.id ≠ s.id) = none := by
      rw [List.find?_eq_none]
      intro q hq hcode
      exact hc ⟨hs, q, hq, by simpa using hcode⟩
    simp only [hs, Bool.false_eq_true, if_false, Bool.false_and, hnone]
    rw [map_snd, mapError_ok_iff]
  | true =>
    cases hl : t.stores.get? s.id with
    | none => simp [hs, map_snd, mapError_ok_iff]
    | some old =>
      cases h : isPlaceholderStore old.name with
      | false => simp [hs, h, Except.map]
      | true => simp [hs, h, map_snd, mapError_ok_iff]

/-- A batch does not write such a row. -/
theorem not_codeElsewhere_of_free {ss : Table Store} (h : storeRule.Free ss s) :
    ¬ CodeElsewhere ss s := by
  rintro ⟨hs, q, hq, hcode, hid⟩
  rcases h with h | h
  · simp [storeRule, hs] at h
  · exact hid (h q hq hcode)

/-! ## Balances -/

/-- The balance of the stock keeps its id. -/
def pulledBalance (local? : Option StockBalance) (b : StockBalance) : StockBalance :=
  { b with id := (local?.map StockBalance.id).getD b.id }

def putBalance (t : Tables) (b : StockBalance) : Tables :=
  { t with balances := t.balances.merge StockBalance.stock pulledBalance b }

/-- The stock has a balance, or no balance has the id. -/
def BalanceFree (bs : Table StockBalance) (b : StockBalance) : Prop :=
  (bs.get? b.stock).isSome ∨ ∀ q ∈ bs.rows, q.id ≠ b.id

def Refers (t : Tables) (b : StockBalance) : Prop :=
  (t.stores.get? b.stock.storeId).isSome ∧ (t.products.get? b.stock.productId).isSome

theorem setBalance_steps : Steps Tables.setBalance putBalance fun t b =>
    BalanceFree t.balances b ∧ ((t.balances.get? b.stock).isSome ∨ Refers t b) := by
  intro t b t'
  dsimp only [putBalance, Table.merge]
  unfold Tables.setBalance BalanceFree Refers
  cases h : t.balances.get? b.stock with
  | some old =>
    have hstock : old.stock = b.stock := Table.key_of_get? h
    have hrow : pulledBalance (some old) b =
        { old with quantity := b.quantity, updatedAt := b.updatedAt } := by
      simp [pulledBalance, ← hstock]
    rw [hrow]
    exact ⟨fun h => ⟨⟨.inl rfl, .inl rfl⟩, (Except.ok.inj h).symm⟩, fun h => congrArg _ h.2.symm⟩
  | none =>
    by_cases hid : t.balances.rows.any (·.id = b.id)
    · simp only [hid, if_true]
      refine ⟨(fun he => by cases he), ?_⟩
      rintro ⟨⟨hnone, -⟩, -⟩
      obtain ⟨q, hq, hqid⟩ := List.any_eq_true.1 hid
      simp only [Option.isSome_none, Bool.false_eq_true, false_or] at hnone
      exact absurd (by simpa using hqid) (hnone q hq)
    · have hfree : ∀ q ∈ t.balances.rows, q.id ≠ b.id := fun q hq he =>
        hid (List.any_eq_true.2 ⟨q, hq, by simpa using he⟩)
      rw [if_neg (by simpa using hid)]
      cases hs : t.stores.get? b.stock.storeId with
      | none => simp
      | some s =>
        cases hp : t.products.get? b.stock.productId with
        | none => simp
        | some p => simpa [pulledBalance, eq_comm] using fun _ => hfree

/-! ## A response -/

theorem pullAll_snd {ρ : Type} {f : Tables → ρ → Except String (Nat × Tables)} {rs : List ρ}
    {t : Tables} :
    (pullAll f t rs).map Prod.snd = rs.foldlM (fun t r => (f t r).map Prod.snd) t := by
  induction rs generalizing t with
  | nil => rfl
  | cons r rs ih =>
    rw [List.foldlM_cons, pullAll]
    cases f t r with
    | error e => rfl
    | ok x =>
      refine Eq.trans ?_ (ih (t := x.2))
      show ((pullAll f x.2 rs).bind fun y => .ok (x.1 + y.1, y.2)).map Prod.snd = _
      cases pullAll f x.2 rs <;> rfl

/-- The sections without their counts. -/
def Response.write (r : Response) (t : Tables) : Except String Tables := do
  let t ← r.products.foldlM (fun t p => (pullProduct t p).map Prod.snd) t
  let t ← r.stores.foldlM (fun t s => (pullStore t s).map Prod.snd) t
  r.stockBalances.foldlM Tables.setBalance t

theorem pullSections_snd : (pullSections r t).map Prod.snd = r.write t := by
  unfold pullSections Response.write
  simp only [← pullAll_snd]
  cases pullAll pullProduct t r.products with
  | error e => rfl
  | ok x =>
    show (Except.bind (pullAll pullStore x.2 r.stores) fun _ => _).map Prod.snd =
      Except.bind ((pullAll pullStore x.2 r.stores).map Prod.snd) fun _ => _
    cases pullAll pullStore x.2 r.stores with
    | error e => rfl
    | ok y =>
      have hb : (pullAll pullBalance y.2 r.stockBalances).map Prod.snd =
          r.stockBalances.foldlM Tables.setBalance y.2 := by
        rw [pullAll_snd]
        simp only [pullBalance, map_snd]
      show (Except.bind (pullAll pullBalance y.2 r.stockBalances) fun _ => _).map Prod.snd = _
      refine Eq.trans ?_ hb
      cases pullAll pullBalance y.2 r.stockBalances <;> rfl

theorem applySyncPull_ok_iff :
    (∃ summary, applySyncPull r t = (.ok summary, t')) ↔ r.write t = .ok t' := by
  rw [← pullSections_snd, applySyncPull]
  cases pullSections r t with
  | error e => simp [Except.map]
  | ok x => simp [Except.map]

/-- The tables after all rows of the response. -/
def Response.applied (r : Response) (t : Tables) : Tables :=
  r.stockBalances.foldl putBalance
    (r.stores.foldl putStore (r.products.foldl (putProduct incomingSku) t))

/-- Every row of the response violates no unique constraint in its turn. -/
structure Response.Free (r : Response) (t : Tables) : Prop where
  products : Along (Table.merge key (productRule incomingSku).write) (productRule incomingSku).Free
    t.products r.products
  stores : Along (Table.merge key storeRule.write) storeRule.Free t.stores r.stores
  balances : Along (Table.merge StockBalance.stock pulledBalance) BalanceFree t.balances
    r.stockBalances

/-- Every balance is of a store and a product that are listed or local. -/
def Response.Refers (r : Response) (t : Tables) : Prop :=
  ∀ b ∈ r.stockBalances,
    (b.stock.storeId ∈ r.stores.map Store.id ∨ (t.stores.get? b.stock.storeId).isSome) ∧
    (b.stock.productId ∈ r.products.map Product.id ∨ (t.products.get? b.stock.productId).isSome)

section
variable {sku : Product → Product → String} {ps : List Product} {ss : List Store}
  {bs : List StockBalance}

theorem foldl_putProduct : ps.foldl (putProduct sku) t =
    { t with products := ps.foldl (Table.merge key (productRule sku).write) t.products } := by
  induction ps generalizing t with
  | nil => rfl
  | cons p ps ih => exact ih

theorem foldl_putStore : ss.foldl putStore t =
    { t with stores := ss.foldl (Table.merge key storeRule.write) t.stores } := by
  induction ss generalizing t with
  | nil => rfl
  | cons s ss ih => exact ih

theorem foldl_putBalance : bs.foldl putBalance t =
    { t with balances := bs.foldl (Table.merge StockBalance.stock pulledBalance) t.balances } := by
  induction bs generalizing t with
  | nil => rfl
  | cons b bs ih => exact ih

theorem along_products :
    Along (putProduct sku) (fun t p => (productRule sku).Free t.products p) t ps ↔
      Along (Table.merge key (productRule sku).write) (productRule sku).Free t.products ps :=
  along_map Tables.products fun _ _ => rfl

theorem along_stores :
    Along putStore (fun t s => storeRule.Free t.stores s) t ss ↔
      Along (Table.merge key storeRule.write) storeRule.Free t.stores ss :=
  along_map Tables.stores fun _ _ => rfl

theorem along_balances (h : ∀ b ∈ bs, Refers t b) :
    Along putBalance (fun t b => BalanceFree t.balances b ∧
        ((t.balances.get? b.stock).isSome ∨ Refers t b)) t bs ↔
      Along (Table.merge StockBalance.stock pulledBalance) BalanceFree t.balances bs := by
  induction bs generalizing t with
  | nil => exact Iff.rfl
  | cons b bs ih =>
    rw [List.forall_mem_cons] at h
    exact and_congr (and_iff_left (.inr h.1)) (ih (t := putBalance t b) h.2)

end

theorem pullProduct_steps : Steps (fun t p => (pullProduct t p).map Prod.snd)
    (putProduct incomingSku) fun t p => (productRule incomingSku).Free t.products p := by
  intro t p t'
  dsimp only
  rw [pullProduct_eq]
  exact writeProduct_steps incomingSku t p t'

theorem pullStore_steps : Steps (fun t s => (pullStore t s).map Prod.snd) putStore
    fun t s => storeRule.Free t.stores s := by
  intro t s t'
  dsimp only
  rw [pullStore_eq]
  exact writeStore_steps t s t'

/-- The stores and products of the balances are there when the balances are written. -/
theorem Response.Refers.after (h : r.Refers t) (hb : b ∈ r.stockBalances) :
    Catalogue.Refers (r.stores.foldl putStore (r.products.foldl (putProduct incomingSku) t)) b := by
  obtain ⟨hs, hp⟩ := h b hb
  rw [foldl_putStore, foldl_putProduct]
  constructor
  · exact (Table.isSome_get?_mergeAll storeRule.key_write).2 hs.symm
  · exact (Table.isSome_get?_mergeAll (productRule incomingSku).key_write).2 hp.symm

/-- **A response is written** exactly if every row is free. -/
theorem write_ok_iff (hr : r.Refers t) : r.write t = .ok t' ↔ r.Free t ∧ t' = r.applied t := by
  have hb : Along putBalance _ _ r.stockBalances ↔ _ := along_balances fun b => hr.after
  unfold Response.write
  simp only [bind_ok_iff, pullProduct_steps.foldlM_ok_iff, pullStore_steps.foldlM_ok_iff,
    setBalance_steps.foldlM_ok_iff]
  constructor
  · rintro ⟨_, ⟨hp, rfl⟩, _, ⟨hs, rfl⟩, hbs, rfl⟩
    rw [along_stores] at hs
    rw [hb] at hbs
    rw [foldl_putStore, foldl_putProduct] at hbs
    rw [foldl_putProduct] at hs
    exact ⟨⟨along_products.1 hp, hs, hbs⟩, rfl⟩
  · rintro ⟨⟨hp, hs, hbs⟩, rfl⟩
    refine ⟨_, ⟨along_products.2 hp, rfl⟩, _, ⟨along_stores.2 ?_, rfl⟩, hb.2 ?_, rfl⟩
    · rw [foldl_putProduct]
      exact hs
    · rw [foldl_putStore, foldl_putProduct]
      exact hbs

theorem applySyncPull_error (h : ∀ t', r.write t ≠ .ok t') : ∃ e, applySyncPull r t = (.error e, t) := by
  rw [applySyncPull]
  cases hw : pullSections r t with
  | error e => exact ⟨_, rfl⟩
  | ok x =>
    rw [← pullSections_snd, hw] at h
    exact absurd rfl (h x.2)

/-- What a response leaves: its rows, a balance as the last row of its stock has it, and all others as
they were. -/
structure Response.Applied (r : Response) (t t' : Tables) : Prop where
  products : ∀ p ∈ r.products,
    t'.products.get? p.id = some ((productRule incomingSku).write (t.products.get? p.id) p)
  stores : ∀ s ∈ r.stores, t'.stores.get? s.id = some (storeRule.write (t.stores.get? s.id) s)
  balances : ∀ pre b post, r.stockBalances = pre ++ b :: post →
    b.stock ∉ post.map StockBalance.stock → ∃ row, t'.balances.get? b.stock = some row ∧
      row.quantity = b.quantity ∧ row.updatedAt = b.updatedAt
  otherProducts : ∀ id ∉ r.products.map Product.id, t'.products.get? id = t.products.get? id
  otherStores : ∀ id ∉ r.stores.map Store.id, t'.stores.get? id = t.stores.get? id
  otherBalances : ∀ k ∉ r.stockBalances.map StockBalance.stock, t'.balances.get? k = t.balances.get? k

theorem key_pulledBalance (local? : Option StockBalance) (b : StockBalance) :
    key (pulledBalance local? b) = b.stock := rfl

theorem Response.applied_spec (hp : (r.products.map Product.id).Nodup)
    (hs : (r.stores.map Store.id).Nodup) : r.Applied t (r.applied t) := by
  unfold Response.applied
  rw [foldl_putBalance, foldl_putStore, foldl_putProduct]
  refine ⟨?_, ?_, ?_, ?_, ?_, ?_⟩
  · exact fun p => Table.get?_mergeAll_mem (productRule incomingSku).key_write hp
  · exact fun s => Table.get?_mergeAll_mem storeRule.key_write hs
  · intro pre b post hbs hlast
    dsimp only
    rw [hbs, List.foldl_append, List.foldl_cons, Table.get?_mergeAll key_pulledBalance hlast,
      Table.get?_merge_self key_pulledBalance]
    exact ⟨_, rfl, rfl, rfl⟩
  · exact fun id => Table.get?_mergeAll (productRule incomingSku).key_write
  · exact fun id => Table.get?_mergeAll storeRule.key_write
  · exact fun k => Table.get?_mergeAll key_pulledBalance

/-- **A pull is applied whole, or not at all**: it is applied if every row is free in its turn. Otherwise
nothing is written, now and whenever it is tried again. -/
theorem applySyncPull_atomic (r : Response) (t : Tables) (hp : (r.products.map Product.id).Nodup)
    (hs : (r.stores.map Store.id).Nodup) (hr : r.Refers t) :
    (r.Free t → ∃ summary t', applySyncPull r t = (.ok summary, t') ∧ r.Applied t t') ∧
      (¬ r.Free t → ∀ n, ∃ e,
        applySyncPull r ((fun t => (applySyncPull r t).2)^[n] t) = (.error e, t)) := by
  constructor
  · intro hfree
    obtain ⟨summary, h⟩ := applySyncPull_ok_iff.2 ((write_ok_iff hr).2 ⟨hfree, rfl⟩)
    exact ⟨summary, _, h, Response.applied_spec hp hs⟩
  · intro hfree n
    obtain ⟨e, he⟩ := applySyncPull_error fun t' h => hfree ((write_ok_iff hr).1 h).1
    have hsame : (fun t => (applySyncPull r t).2)^[n] t = t :=
      Function.iterate_fixed (congrArg Prod.snd he) n
    exact ⟨e, by rw [hsame, he]⟩

namespace Sample

def product (id sku name : String) : Product where
  id := id
  sku := sku
  name := name
  brand := none
  model := none
  category := "General"
  unit := "pcs"
  barcode := none
  alternateNames := none
  serialTrackingEnabled := false
  isActive := true
  lowStockThreshold := none
  createdAt := 0
  updatedAt := 0

def store (id code name : String) : Store := ⟨id, code, name, none, true, 0, 0⟩

/-- A product made offline. -/
def offline : Tables := { Tables.empty with products := ⟨[product "P-1" "BOLT" "Bolt"], by decide⟩ }

/-- Another device made a product with this SKU. -/
def clashing : Response where
  products := [product "P-2" "BOLT" "Bolt M6", product "P-3" "NUT" "Nut"]
  stores := []
  stockBalances := []

def listed : Response where
  products := [product "P-3" "NUT" "Nut"]
  stores := [store "S-1" "MAIN" "Main"]
  stockBalances := [⟨"B-1", ⟨"S-1", "P-3", "AVAILABLE"⟩, 4, 0⟩]

theorem listed_refers : listed.Refers offline := by
  intro b hb
  rw [List.mem_singleton.1 hb]
  exact ⟨.inl (by decide), .inl (by decide)⟩

theorem listed_free : listed.Free offline where
  products := by
    refine ⟨.inr fun q hq hsku => ?_, trivial⟩
    rw [List.mem_singleton.1 hq] at hsku
    exact absurd hsku (by decide)
  stores := ⟨.inr fun q hq => absurd hq List.not_mem_nil, trivial⟩
  balances := ⟨.inr fun q hq => absurd hq List.not_mem_nil, trivial⟩

theorem clashing_not_free : ¬ clashing.Free offline := by
  intro h
  rcases h.products.1 with hk | hk
  · exact absurd hk (by decide +kernel)
  · exact absurd (hk _ (List.mem_singleton_self _) rfl) (by decide)

end Sample

theorem applySyncPull_atomic_listed : ∃ summary t',
    applySyncPull Sample.listed Sample.offline = (.ok summary, t') ∧
      Sample.listed.Applied Sample.offline t' :=
  (applySyncPull_atomic _ _ (by decide) (by decide) Sample.listed_refers).1 Sample.listed_free

/-- The product with the SKU that is taken blocks the other one, however often it is tried. -/
theorem clashing_blocks : (Sample.clashing.products.map Product.id).Nodup ∧
    Sample.product "P-3" "NUT" "Nut" ∈ Sample.clashing.products ∧
    (∀ q ∈ Sample.offline.products.rows, q.sku ≠ "NUT") ∧
    ∀ n, ((fun t => (applySyncPull Sample.clashing t).2)^[n] Sample.offline).products.get? "P-3" =
      none := by
  refine ⟨by decide, by decide, by decide, fun n => ?_⟩
  have hr : Sample.clashing.Refers Sample.offline := fun b hb => absurd hb List.not_mem_nil
  obtain ⟨e, he⟩ := applySyncPull_error fun t' h =>
    Sample.clashing_not_free ((write_ok_iff hr).1 h).1
  have hsame : (fun t => (applySyncPull Sample.clashing t).2)^[n] Sample.offline = Sample.offline :=
    Function.iterate_fixed (congrArg Prod.snd he) n
  rw [hsame]
  decide

end Desktop.Catalogue
