import InvenTory.Desktop.Proof.DayBooks

/-!
# Made-up SKUs

Without a SKU a product gets the letters of its category and a number that the time, and in a batch its
name and its row, add up to. Nothing looks for another number when that one is taken, so the call
succeeds exactly if the number it comes to is free (`createProduct_iff`, `createProductsBatch_iff`).
-/

namespace Desktop

open Relational Sql Sql.Prog
open LocalDb (onStock onEvents)
open Catalogue (CatalogueRust ProductsDb NewProductInput sqlUpper byteSum defaultSku nameRequired
  categoryRequired enqueueProductUpsert)

/-! ## Free SKUs -/

/-- The letters of a made-up SKU. -/
def skuLetters (rs : CatalogueRust) (category : String) : String :=
  let letters := rs.toUppercase (String.ofList ((category.toList.filter rs.isAlphanumeric).take 4))
  if letters = "" then "PROD" else letters

def madeUpSku (letters : String) (number : Nat) : String := letters ++ "-" ++ toString number

namespace Db

variable (db : Db)

/-- No product has the SKU, as it is or in capitals. -/
def SkuFree (sku : String) : Prop := ∀ q ∈ db.products.rows, sqlUpper q.sku ≠ sku ∧ q.sku ≠ sku

/-- One of the numbers is left. -/
def SomeSkuFree (letters : String) : Prop :=
  ∃ n, 1000 ≤ n ∧ n ≤ 9999 ∧ db.SkuFree (madeUpSku letters n)

/-- The SKU gets through the SELECT, and through the constraint if the id does. -/
structure SkuPasses (id sku : String) : Prop where
  select : ∀ q ∈ db.products.rows, sqlUpper q.sku ≠ sku
  constraint : db.products.get? id = none → ∀ q ∈ db.products.rows, q.sku ≠ sku

end Db

theorem defaultSku_eq (rs : CatalogueRust) (category : String) (now : Instant) :
    defaultSku rs category now =
      madeUpSku (skuLetters rs category) (byteSum (rs.rfc3339 now) * 17 % 9000 + 1000) := rfl

theorem batchSku_eq (rs : CatalogueRust) (category name : String) (now : Instant) (idx : Nat) :
    batchSku rs category name now idx = madeUpSku (skuLetters rs category)
      ((byteSum (rs.rfc3339 now) + byteSum name + idx) * 17 % 2 ^ 32 % 9000 + 1000) := rfl

theorem any_sku_eq_false {ps : List Product} {f : Product → String} {sku : String} :
    (ps.any fun q => f q = sku) = false ↔ ∀ q ∈ ps, f q ≠ sku := by
  simp

/-! ## Insertion -/

section
variable {db : Db} {p : Product}

theorem insertProduct_ok (hid : db.products.get? p.id = none)
    (hsku : ∀ q ∈ db.products.rows, q.sku ≠ p.sku) :
    db.insertProduct p = .ok { db with products := db.products.put p } := by
  unfold Db.insertProduct
  rw [hid, any_sku_eq_false.2 hsku]
  rfl

theorem insertProduct_idTaken (hid : db.products.get? p.id ≠ none) :
    db.insertProduct p = .error (Db.uniqueFailed "products.id") := by
  unfold Db.insertProduct
  rw [if_pos (Option.isSome_iff_ne_none.2 hid)]

theorem insertProduct_skuTaken (hid : db.products.get? p.id = none)
    (hsku : ¬ ∀ q ∈ db.products.rows, q.sku ≠ p.sku) :
    db.insertProduct p = .error (Db.uniqueFailed "products.sku") := by
  unfold Db.insertProduct
  rw [hid, if_neg (by simp), if_pos]
  by_contra hany
  exact hsku (any_sku_eq_false.1 (Bool.eq_false_iff.2 hany))

end

/-! ## One product -/

/-- The two errors of a SKU that is taken. -/
def SkuError (sku e : String) : Prop :=
  e = "Product SKU '" ++ sku ++ "' already exists." ∨
    e = "Failed to insert product: " ++ Db.uniqueFailed "products.sku"

theorem not_skuError_id {sku : String} :
    ¬ SkuError sku ("Failed to insert product: " ++ Db.uniqueFailed "products.id") := by
  rintro (h | h)
  · have hhead := congrArg (fun s => s.toList.head?) h
    simp at hhead
  · exact absurd h (by decide)

theorem not_skuError_queue {sku e : String} :
    ¬ SkuError sku (Catalogue.productQueueFailed ++ ": " ++ e) := by
  unfold Catalogue.productQueueFailed
  rintro (h | h)
  · have hhead := congrArg (fun s => s.toList.head?) h
    simp at hhead
  · have htake := congrArg (fun s => s.toList.take 11) h
    simp at htake

theorem eval_onStock {α : Type} (p : Prog String Db α) (db : LocalDb) :
    (onStock p).eval db = ((p.eval db.stock).1, { db with stock := (p.eval db.stock).2 }) := rfl

/-- A product's INSERT, with its error named. -/
theorem eval_insert_ok {label : String} {f : Db → Except String Db} {db : LocalDb} {d : Db}
    (h : f db.stock = .ok d) :
    (onStock (context label (autocommit f))).eval db = (.ok (), { db with stock := d }) := by
  rw [eval_onStock, context, eval_mapError, eval_autocommit_ok h]
  rfl

theorem eval_insert_error {label e : String} {f : Db → Except String Db} {db : LocalDb}
    (h : f db.stock = .error e) :
    (onStock (context label (autocommit f))).eval db = (.error (label ++ ": " ++ e), db) := by
  rw [eval_onStock, context, eval_mapError, eval_autocommit_error h]
  rfl

theorem eval_onStock_query {α : Type} (label : String) (f : Db → α) (db : LocalDb) :
    (onStock (context label (query f))).eval db = (.ok (f db.stock), db) := rfl

theorem eval_require {σ : Type} {p : Prop} [Decidable p] (hp : p) (message : String) (s : σ) :
    (require p message : Prog String σ Unit).eval s = (.ok (), s) := by
  rw [require, if_pos hp, eval_pure]

theorem eval_onEvents_stock {α : Type} (p : Prog String ProductsDb α) (db : LocalDb) :
    ((onEvents p).eval db).2.stock = db.stock := rfl

theorem eval_enqueue_error {outboxId e : String} {p : Catalogue.Product} {now : Instant}
    {q : ProductsDb} (h : ((enqueueProductUpsert outboxId p now).eval q).1 = .error e) :
    ∃ e', e = Catalogue.productQueueFailed ++ ": " ++ e' := by
  have herror : ∀ f : ProductsDb → Except String ProductsDb,
      ((context Catalogue.productQueueFailed (autocommit f)).eval q).1 = .error e →
      ∃ e', e = Catalogue.productQueueFailed ++ ": " ++ e' := by
    intro f hf
    rw [context, eval_mapError] at hf
    cases hr : ((autocommit f : Prog String ProductsDb Unit).eval q).1 with
    | ok u =>
      rw [hr] at hf
      cases hf
    | error e' =>
      rw [hr] at hf
      cases hf
      exact ⟨e', rfl⟩
  unfold enqueueProductUpsert at h
  rw [eval_bind, context, eval_mapError, eval_query] at h
  change ((if _ then _ else _ : Prog String ProductsDb Unit).eval q).1 = _ at h
  split at h
  · exact herror _ h
  · exact herror _ h

section
variable (rs : CatalogueRust) (clk : Clock) (earlier : Instant) (db : LocalDb) (input : NewProductInput)

/-- A call without a SKU, for which there is one. -/
structure Unnumbered : Prop where
  sku : trim input.sku = ""
  name : trim input.name ≠ ""
  category : trim input.category ≠ ""
  left : db.stock.SomeSkuFree (skuLetters rs (trim input.category))

/-- What `create_product` makes up gets through. -/
def NumberPasses : Prop :=
  db.stock.SkuPasses (generateId "PROD" (clk.nanos 0)) (defaultSku rs (trim input.category) earlier)

/-- The call fails because of its SKU. -/
def FailsForSku : Prop :=
  ∃ e, ((createProduct rs clk earlier input).eval db).1 = .error e ∧
    SkuError (defaultSku rs (trim input.category) earlier) e

variable {rs clk earlier db input}

/-- **One call** without a SKU fails for the SKU that it makes up exactly if that does not pass. -/
theorem failsForSku_iff (hsku : trim input.sku = "") (hname : trim input.name ≠ "")
    (hcategory : trim input.category ≠ "") :
    FailsForSku rs clk earlier db input ↔ ¬ NumberPasses rs clk earlier db input := by
  unfold FailsForSku NumberPasses createProduct
  rw [if_pos hsku]
  set sku := defaultSku rs (trim input.category) earlier with hdef
  dsimp only
  rw [eval_bind_ok (eval_require hname _ _), eval_bind_ok (eval_require hcategory _ _),
    eval_bind_ok (eval_onStock_query _ _ _)]
  set product := input.row (generateId "PROD" (clk.nanos 0)) sku clk.now with hproduct
  by_cases hselect : ∀ q ∈ db.stock.products.rows, sqlUpper q.sku ≠ sku
  · rw [eval_bind_ok (eval_require (any_sku_eq_false.2 hselect) _ _)]
    by_cases hid : db.stock.products.get? (productColumns product).id = none
    · by_cases hconstraint : ∀ q ∈ db.stock.products.rows, q.sku ≠ sku
      · refine iff_of_false ?_ (not_not.2 ⟨hselect, fun _ => hconstraint⟩)
        rintro ⟨e, he, hsku⟩
        rw [eval_bind_ok (eval_insert_ok (insertProduct_ok hid hconstraint)), eval_bind] at he
        split at he
        · cases he
        · rename_i heq
          cases he
          obtain ⟨e', rfl⟩ := eval_enqueue_error (congrArg Prod.fst heq)
          exact not_skuError_queue hsku
      · refine iff_of_true ⟨_, ?_, .inr rfl⟩ fun hpass => hconstraint (hpass.constraint hid)
        rw [eval_bind_error (eval_insert_error (insertProduct_skuTaken hid hconstraint))]
        rfl
    · refine iff_of_false ?_ (not_not.2 ⟨hselect, fun hnone => absurd hnone hid⟩)
      rintro ⟨e, he, hsku⟩
      rw [eval_bind_error (eval_insert_error (insertProduct_idTaken hid))] at he
      cases he
      exact not_skuError_id hsku
  · refine iff_of_true ⟨_, ?_, .inl rfl⟩ fun hpass => hselect hpass.select
    rw [require, if_neg fun hany => hselect (any_sku_eq_false.1 hany), eval_bind_error (eval_throw _ _)]

end

/-! ## Products in bulk -/

/-- The products are as before. -/
def SameProducts (d d' : Db) : Prop := d'.products = d.products

theorem sameProducts_refl (d : Db) : SameProducts d d := rfl

theorem insertBalanceOrNothing_products {d d' : Db} {b : StockBalance}
    (h : d.insertBalanceOrNothing b = .ok d') : SameProducts d d' := by
  unfold Db.insertBalanceOrNothing Db.insertBalance at h
  repeat' split at h
  all_goals cases h
  all_goals rfl

theorem within_createBalancesOrNothing_products (productId : String) : ∀ storeIds : List String,
    Within SameProducts (createBalancesOrNothing productId storeIds)
  | [] => .ret sameProducts_refl ()
  | _ :: storeIds => .seq (fun _ _ _ h h' => h'.trans h)
      (.attempt (.autocommit sameProducts_refl fun _ _ => insertBalanceOrNothing_products))
      fun _ => within_createBalancesOrNothing_products productId storeIds

theorem total_createBalancesOrNothing (productId : String) : ∀ storeIds : List String,
    Total (createBalancesOrNothing productId storeIds)
  | [] => .ret ()
  | _ :: storeIds => .seq (.attempt _) fun _ => total_createBalancesOrNothing productId storeIds

theorem total_createBatchProduct (rs : CatalogueRust) (clk : Clock) (storeIds : List String) (idx : Nat)
    (input : BatchProductItem) : Total (createBatchProduct rs clk storeIds idx input) := by
  unfold createBatchProduct
  dsimp only
  split
  · exact .ret _
  refine .seq (.attempt _) fun _ => ?_
  split
  · exact .ret _
  refine .seq (.attempt _) fun _ => ?_
  split
  · exact .ret _
  refine .seq (.attempt _) fun inserted => ?_
  cases inserted with
  | error e => exact .ret _
  | ok _ =>
    refine .seq (.zoom (total_createBalancesOrNothing _ _)) fun _ => ?_
    exact .seq (.attempt _) fun _ => .ret _

theorem eval_attempt_query {α : Type} (f : Db → α) (db : LocalDb) :
    (attempt (onStock (query f))).eval db = (.ok (.ok (f db.stock)), db) := rfl

theorem eval_attempt_insert_ok {f : Db → Except String Db} {db : LocalDb} {d : Db}
    (h : f db.stock = .ok d) :
    (attempt (onStock (autocommit f))).eval db = (.ok (.ok ()), { db with stock := d }) := by
  rw [eval_attempt, eval_onStock, eval_autocommit_ok h]

theorem eval_attempt_insert_error {e : String} {f : Db → Except String Db} {db : LocalDb}
    (h : f db.stock = .error e) :
    (attempt (onStock (autocommit f))).eval db = (.ok (.error e), db) := by
  rw [eval_attempt, eval_onStock, eval_autocommit_error h]

section
variable (rs : CatalogueRust) (clk : Clock) (idx : Nat) (db : LocalDb) (input : BatchProductItem)

def rowSku : String := batchSku rs (trim input.category) (trim input.name) clk.now idx

/-- The product that a row without a SKU is to become. -/
def madeUpRow : Product :=
  productColumns (input.row (generateId "PROD" (clk.nanos (2 * idx))) (rowSku rs clk idx input) clk.now)

/-- A row without a SKU, with a name that is not used yet, for which there is a SKU. -/
structure ValidRow : Prop where
  sku : trim input.sku = ""
  name : trim input.name ≠ ""
  category : trim input.category ≠ ""
  unused : ∀ q ∈ db.stock.products.rows, sqlLower q.name ≠ sqlLower (trim input.name)
  left : db.stock.SomeSkuFree (skuLetters rs (trim input.category))

/-- The row has been made a product. -/
def RowCreated (result : BatchProductResult) (db' : LocalDb) : Prop :=
  ∃ p : Product, result = ⟨idx, true, none, some p.id, some p.sku⟩ ∧
    db.stock.products.get? p.id = none ∧ db'.stock.products = db.stock.products.put p

end

section
variable {rs : CatalogueRust} {clk : Clock} {storeIds : List String} {idx : Nat} {db : LocalDb}
  {input : BatchProductItem}

theorem ValidRow.unused_eq (h : ValidRow rs db input) :
    (db.stock.products.rows.any fun q => sqlLower q.name = sqlLower (trim input.name)) = false := by
  simpa using h.unused

/-- What is left to do for a row once its SKU is made up. -/
theorem eval_createBatchProduct (h : ValidRow rs db input) :
    (createBatchProduct rs clk storeIds idx input).eval db =
      if (db.stock.products.rows.any fun q => sqlUpper q.sku = rowSku rs clk idx input) then
        (.ok ⟨idx, false, some ("SKU '" ++ rowSku rs clk idx input ++ "' already exists."), none, none⟩, db)
      else
        match db.stock.insertProduct (madeUpRow rs clk idx input) with
        | .error e => (.ok ⟨idx, false, some ("Insert failed: " ++ e), none, none⟩, db)
        | .ok d =>
          ((do
            onStock (createBalancesOrNothing (madeUpRow rs clk idx input).id storeIds)
            let _ ← attempt (onEvents (enqueueProductUpsert (generateId "OB" (clk.nanos (2 * idx + 1)))
              (input.row (generateId "PROD" (clk.nanos (2 * idx))) (rowSku rs clk idx input) clk.now)
              clk.now))
            return ⟨idx, true, none, some (madeUpRow rs clk idx input).id,
              some (madeUpRow rs clk idx input).sku⟩ : Prog String LocalDb BatchProductResult)).eval
            { db with stock := d } := by
  unfold createBatchProduct
  dsimp only
  rw [if_neg h.name, eval_bind_ok (eval_attempt_query _ _), h.unused_eq, if_pos h.sku]
  simp only [Except.toOption, Option.getD_some, Bool.false_eq_true, if_false]
  rw [eval_bind_ok (eval_attempt_query _ _)]
  change (Prog.eval (if (db.stock.products.rows.any fun q => sqlUpper q.sku = rowSku rs clk idx input) =
    true then _ else _) db) = _
  split
  · rfl
  · cases hinsert : db.stock.insertProduct (madeUpRow rs clk idx input) with
    | error e => exact (eval_bind_ok (eval_attempt_insert_error hinsert)).trans rfl
    | ok d => exact (eval_bind_ok (eval_attempt_insert_ok hinsert)).trans rfl

/-- A row whose SKU passes is made a product. -/
theorem createBatchProduct_created (storeIds : List String) (h : ValidRow rs db input)
    (hid : db.stock.products.get? (madeUpRow rs clk idx input).id = none)
    (hpass : db.stock.SkuPasses (madeUpRow rs clk idx input).id (madeUpRow rs clk idx input).sku) :
    ∃ result db', (createBatchProduct rs clk storeIds idx input).eval db = (.ok result, db') ∧
      RowCreated idx db result db' := by
  have hselect : (db.stock.products.rows.any fun q => sqlUpper q.sku = rowSku rs clk idx input) = false :=
    any_sku_eq_false.2 hpass.select
  rw [eval_createBatchProduct h, hselect, insertProduct_ok hid (hpass.constraint hid)]
  simp only [Bool.false_eq_true, if_false]
  set d : Db := { db.stock with products := db.stock.products.put (madeUpRow rs clk idx input) } with hd
  obtain ⟨u, d', hbalances⟩ := total_createBalancesOrNothing (madeUpRow rs clk idx input).id storeIds d
  have hproducts : d'.products = d.products :=
    within_createBalancesOrNothing_products _ _ (fun _ => False) _ _ _ (yields_of_eval hbalances)
  have hstock : (onStock (createBalancesOrNothing (madeUpRow rs clk idx input).id storeIds)).eval
      { db with stock := d } = (.ok u, { db with stock := d' }) := by
    rw [eval_onStock, hbalances]
  rw [eval_bind_ok hstock, eval_bind_ok (eval_attempt _ _)]
  exact ⟨_, _, rfl, madeUpRow rs clk idx input, rfl, hid, hproducts⟩

/-- A row whose SKU does not pass, or whose id is taken, is not. -/
theorem createBatchProduct_refused (storeIds : List String) (h : ValidRow rs db input)
    (hno : ¬ (db.stock.products.get? (madeUpRow rs clk idx input).id = none ∧
      db.stock.SkuPasses (madeUpRow rs clk idx input).id (madeUpRow rs clk idx input).sku)) :
    ∃ result db', (createBatchProduct rs clk storeIds idx input).eval db = (.ok result, db') ∧
      result.success = false := by
  rw [eval_createBatchProduct h]
  split
  · exact ⟨_, _, rfl, rfl⟩
  · rename_i hselect
    have hselect := any_sku_eq_false.1 (Bool.eq_false_iff.2 hselect)
    by_cases hid : db.stock.products.get? (madeUpRow rs clk idx input).id = none
    · have hconstraint : ¬ ∀ q ∈ db.stock.products.rows, q.sku ≠ (madeUpRow rs clk idx input).sku :=
        fun hc => hno ⟨hid, hselect, fun _ => hc⟩
      rw [insertProduct_skuTaken hid hconstraint]
      exact ⟨_, _, rfl, rfl⟩
    · rw [insertProduct_idTaken hid]
      exact ⟨_, _, rfl, rfl⟩

theorem eval_createBatchProducts (rs : CatalogueRust) (clk : Clock) (storeIds : List String) (idx : Nat)
    (db : LocalDb) (inputs : List BatchProductItem) :
    ∃ results db', (createBatchProducts rs clk storeIds idx inputs).eval db = (.ok results, db') ∧
      results.length = inputs.length := by
  induction inputs generalizing idx db with
  | nil => exact ⟨[], db, rfl, rfl⟩
  | cons input inputs ih =>
    obtain ⟨result, db1, hrow⟩ := total_createBatchProduct rs clk storeIds idx input db
    obtain ⟨results, db', hrows, hlength⟩ := ih (idx + 1) db1
    refine ⟨result :: results, db', ?_, congrArg (· + 1) hlength⟩
    rw [createBatchProducts, eval_bind_ok hrow, eval_bind_ok hrows]
    rfl

theorem eval_createBatchProducts_append {db1 db' : LocalDb} {results results' : List BatchProductResult}
    {before after : List BatchProductItem}
    (h : (createBatchProducts rs clk storeIds idx before).eval db = (.ok results, db1))
    (h' : (createBatchProducts rs clk storeIds (idx + before.length) after).eval db1 =
      (.ok results', db')) :
    (createBatchProducts rs clk storeIds idx (before ++ after)).eval db =
      (.ok (results ++ results'), db') := by
  induction before generalizing idx db results with
  | nil =>
    cases h
    exact h'
  | cons input before ih =>
    obtain ⟨result, db2, hrow⟩ := total_createBatchProduct rs clk storeIds idx input db
    obtain ⟨results2, db3, hrows, -⟩ := eval_createBatchProducts rs clk storeIds (idx + 1) db2 before
    rw [createBatchProducts, eval_bind_ok hrow, eval_bind_ok hrows] at h
    cases h
    have hlength : idx + (input :: before).length = idx + 1 + before.length := by
      simp only [List.length_cons]
      omega
    have hrest := ih hrows (hlength ▸ h')
    rw [List.cons_append, createBatchProducts, eval_bind_ok hrow, eval_bind_ok hrest]
    rfl

/-- The active stores, as the call reads them. -/
def activeStoreIds (db : LocalDb) : List String := (db.stock.stores.rows.filter Store.isActive).map Store.id

theorem eval_createProductsBatch (rs : CatalogueRust) (clk : Clock) (db : LocalDb)
    (inputs : List BatchProductItem) : (createProductsBatch rs clk inputs).eval db =
      (createBatchProducts rs clk (activeStoreIds db) 0 inputs).eval db :=
  eval_bind_ok (eval_onStock_query _ _ _)

/-- Where a batch leads to. -/
def afterBatch (rs : CatalogueRust) (clk : Clock) (db : LocalDb) (inputs : List BatchProductItem) :
    LocalDb := ((createProductsBatch rs clk inputs).eval db).2

/-- A batch does its rows one by one. -/
theorem afterBatch_row (rs : CatalogueRust) (clk : Clock) (db : LocalDb)
    (before : List BatchProductItem) (input : BatchProductItem) (after : List BatchProductItem) :
    ∃ results result, ((createProductsBatch rs clk (before ++ input :: after)).eval db).1 = .ok results ∧
      results[before.length]? = some result ∧
      (createBatchProduct rs clk (activeStoreIds db) before.length input).eval
        (afterBatch rs clk db before) = (.ok result, afterBatch rs clk db (before ++ [input])) := by
  obtain ⟨results1, db1, h1, hlength⟩ :=
    eval_createBatchProducts rs clk (activeStoreIds db) 0 db before
  obtain ⟨result, db2, hrow⟩ :=
    total_createBatchProduct rs clk (activeStoreIds db) (0 + before.length) input db1
  obtain ⟨results3, db3, h3, -⟩ :=
    eval_createBatchProducts rs clk (activeStoreIds db) (0 + before.length + 1) db2 after
  have hone : (createBatchProducts rs clk (activeStoreIds db) (0 + before.length) [input]).eval db1 =
      (.ok [result], db2) := by
    rw [createBatchProducts, eval_bind_ok hrow]
    rfl
  have hrest : (createBatchProducts rs clk (activeStoreIds db) (0 + before.length)
      (input :: after)).eval db1 = (.ok (result :: results3), db3) := by
    rw [createBatchProducts, eval_bind_ok hrow, eval_bind_ok h3]
    rfl
  refine ⟨results1 ++ result :: results3, result, ?_, ?_, ?_⟩
  · rw [eval_createProductsBatch, eval_createBatchProducts_append h1 hrest]
  · simp [hlength]
  · unfold afterBatch
    rw [eval_createProductsBatch, eval_createProductsBatch, h1,
      eval_createBatchProducts_append h1 hone, ← hrow, Nat.zero_add]

end

section
variable (rs : CatalogueRust) (clk : Clock) (db : LocalDb) (inputs : List BatchProductItem)

/-- Each valid row of a batch is made a product. -/
def EachCreated : Prop := ∀ before input after, inputs = before ++ input :: after →
  ValidRow rs (afterBatch rs clk db before) input →
  ∃ results result, ((createProductsBatch rs clk inputs).eval db).1 = .ok results ∧
    results[before.length]? = some result ∧ RowCreated before.length (afterBatch rs clk db before) result
      (afterBatch rs clk db (before ++ [input]))

/-- What a batch makes up for its valid rows gets through. -/
def EachPasses : Prop := ∀ before input after, inputs = before ++ input :: after →
  ValidRow rs (afterBatch rs clk db before) input →
  (afterBatch rs clk db before).stock.products.get? (madeUpRow rs clk before.length input).id = none ∧
    (afterBatch rs clk db before).stock.SkuPasses (madeUpRow rs clk before.length input).id
      (madeUpRow rs clk before.length input).sku

variable {rs clk db inputs}

/-- **A batch** makes each valid row a product exactly if what it makes up for them passes. -/
theorem eachCreated_iff : EachCreated rs clk db inputs ↔ EachPasses rs clk db inputs := by
  refine forall_congr' fun before => forall_congr' fun input => forall_congr' fun after =>
    forall_congr' fun hinputs => forall_congr' fun hvalid => ?_
  subst hinputs
  obtain ⟨results, result, hall, hresult, hrow⟩ := afterBatch_row rs clk db before input after
  constructor
  · rintro ⟨results', result', hall', hresult', hcreated⟩
    cases hall.symm.trans hall'
    cases hresult.symm.trans hresult'
    by_contra hno
    obtain ⟨result2, db', hrow2, hfailed⟩ :=
      createBatchProduct_refused (activeStoreIds db) hvalid hno
    cases hrow.symm.trans hrow2
    obtain ⟨p, rfl, -⟩ := hcreated
    cases hfailed
  · rintro ⟨hid, hpass⟩
    obtain ⟨result2, db', hrow2, hcreated⟩ :=
      createBatchProduct_created (activeStoreIds db) hvalid hid hpass
    cases hrow.symm.trans hrow2
    exact ⟨results, result, hall, hresult, hcreated⟩

end

/-- Made-up SKUs do not collide: a call without a SKU does not fail for the one it makes up while some
are left, and a batch makes each valid row a product. -/
def NoCollisions (rs : CatalogueRust) (clk : Clock) (earlier : Instant) (db : LocalDb)
    (input : NewProductInput) (inputs : List BatchProductItem) : Prop :=
  (Unnumbered rs db input → ¬ FailsForSku rs clk earlier db input) ∧ EachCreated rs clk db inputs

/-- **Made-up SKUs** do not collide exactly if each that comes up is free when it does. -/
theorem noCollisions_iff (rs : CatalogueRust) (clk : Clock) (earlier : Instant) (db : LocalDb)
    (input : NewProductInput) (inputs : List BatchProductItem) :
    NoCollisions rs clk earlier db input inputs ↔
      (Unnumbered rs db input → NumberPasses rs clk earlier db input) ∧ EachPasses rs clk db inputs := by
  refine and_congr (forall_congr' fun h => ?_) eachCreated_iff
  rw [failsForSku_iff h.sku h.name h.category, not_not]

/-! ## Numbers that come up again -/

namespace Sample

def cable : NewProductInput := ⟨"", "Cable", none, none, "Parts", none, none, none, none, none⟩

def adapter : NewProductInput := { cable with name := "Adapter" }

/-- A cable has been created, without a SKU. -/
def cableCreated : LocalDb := ((createProduct catalogueRust (ids 1) 0 cable).eval .empty).2

def lead (name : String) : BatchProductItem := ⟨"", name, none, none, "Leads", none, none, none⟩

end Sample

open Sample in
/-- A second product of the category comes to the number of the first one, and so does the second row of
a batch whose name is by one less than that of the first. -/
theorem adapter_collides : ∃ (rs : CatalogueRust) (clk : Clock) (earlier : Instant) (db : LocalDb)
    (input : NewProductInput) (inputs : List BatchProductItem),
    ¬ (Unnumbered rs db input → ¬ FailsForSku rs clk earlier db input) ∧
      ¬ EachCreated rs clk db inputs := by
  refine ⟨catalogueRust, ids 3, 0, cableCreated, adapter, [lead "Lead B", lead "Lead A"], ?_, ?_⟩
  · intro hcall
    refine hcall ?_ ((failsForSku_iff (by decide) (by decide) (by decide)).2 fun hpass => ?_)
    · exact ⟨by decide, by decide, by decide, 1000, le_rfl, by decide, by unfold Db.SkuFree; decide +kernel⟩
    · exact absurd hpass.select (by decide +kernel)
  · intro heach
    have hrow := eachCreated_iff.1 heach [lead "Lead B"] (lead "Lead A") [] rfl
      ⟨by decide, by decide, by decide, by decide +kernel, 1000, le_rfl, by decide, by
        unfold Db.SkuFree
        decide +kernel⟩
    exact absurd hrow.2.select (by decide +kernel)

end Desktop
