import InvenTory.Desktop.Search

/-!
# The full-text index of the products

`products_fts` has the columns of each product under the rowid of its row, but no copy of the rows: the
triggers of `products` tell it what to take back and what to add. SQLite does not fire the trigger of a
deletion for the rows that `INSERT OR REPLACE` takes out of the way.
-/

namespace Desktop.Catalogue

open Relational

/-- The columns of `products_fts`. -/
structure FtsColumns where
  sku : String
  name : String
  brand : Option String
  model : Option String
  category : String
  barcode : Option String
  alternateNames : Option String
  deriving DecidableEq, Repr

def Product.ftsColumns (p : Product) : FtsColumns :=
  ⟨p.sku, p.name, p.brand, p.model, p.category, p.barcode, p.alternateNames⟩

/-- What is indexed under each rowid. -/
abbrev FtsDocs := Nat → List FtsColumns

namespace FtsDocs

/-- `INSERT INTO products_fts(rowid, ..)` -/
def add (docs : FtsDocs) (r : Nat) (c : FtsColumns) : FtsDocs := Function.update docs r (c :: docs r)

/-- The `'delete'` command, which is given the old columns. -/
def delete (docs : FtsDocs) (r : Nat) (c : FtsColumns) : FtsDocs :=
  Function.update docs r ((docs r).erase c)

end FtsDocs

structure IndexedDb where
  tables : Tables
  /-- The rowid of a product. -/
  rowid : String → Nat
  /-- `products_fts`, if the table is there. -/
  docs : Option FtsDocs
  /-- `products_ai`, `products_ad` and `products_au` are there, as `create_fts_triggers` makes them. -/
  triggers : Bool

inductive ProductStatement
  /-- `INSERT INTO products` -/
  | insert (p : Product)
  /-- `UPDATE products .. WHERE id`, with the row as it is afterwards. -/
  | update (p : Product)
  /-- `INSERT INTO products .. ON CONFLICT(id) DO UPDATE`, with the row as it is afterwards. -/
  | upsert (p : Product)
  /-- `INSERT OR REPLACE INTO products` -/
  | replace (p : Product)
  /-- `DELETE FROM products` -/
  | deleteAll
  /-- The same, and the index is made again (`delete_all_data`). -/
  | wipe
  /-- `ensure_products_fts`, when the app starts. -/
  | startup
  deriving DecidableEq, Repr

namespace IndexedDb

variable (db : IndexedDb)

/-! ## Statements -/

/-- The rowid of the next row is one more than the greatest. -/
def nextRowid : Nat := (db.tables.products.rows.map fun p => db.rowid p.id).foldr max 0 + 1

/-- What a trigger does to the index. -/
def fire (f : FtsDocs → FtsDocs) : Option FtsDocs := if db.triggers then db.docs.map f else db.docs

def insertRow (p : Product) : IndexedDb :=
  { db with
    tables.products := db.tables.products.put p
    rowid := Function.update db.rowid p.id db.nextRowid
    docs := db.fire (·.add db.nextRowid p.ftsColumns) }

def updateRow (old p : Product) : IndexedDb :=
  { db with
    tables.products := db.tables.products.put p
    docs := db.fire fun docs =>
      (docs.delete (db.rowid old.id) old.ftsColumns).add (db.rowid old.id) p.ftsColumns }

/-- Another product has the SKU. -/
def skuTaken (p : Product) : Bool := db.tables.products.rows.any fun q => q.sku = p.sku ∧ q.id ≠ p.id

def insertProduct (p : Product) : IndexedDb :=
  if (db.tables.products.get? p.id).isSome ∨ db.skuTaken p then db else db.insertRow p

def updateProduct (p : Product) : IndexedDb :=
  match db.tables.products.get? p.id with
  | some old => if db.skuTaken p then db else db.updateRow old p
  | none => db

def upsertProduct (p : Product) : IndexedDb :=
  if (db.tables.products.get? p.id).isSome then db.updateProduct p else db.insertProduct p

/-- The rows that are in the way of a new one. -/
def replaced (p : Product) : List Product :=
  db.tables.products.rows.filter fun q => q.id = p.id ∨ q.sku = p.sku

/-- The rowid is chosen before the rows are taken out of the way. -/
def replaceProduct (p : Product) : IndexedDb :=
  { db with
    tables.products := (db.tables.products.filter fun q => ¬ (q.id = p.id ∨ q.sku = p.sku)).put p
    rowid := Function.update db.rowid p.id db.nextRowid
    docs := db.fire (·.add db.nextRowid p.ftsColumns) }

def deleteAll : IndexedDb :=
  { db with
    tables.products := ∅
    docs := db.fire fun docs =>
      db.tables.products.rows.foldl (fun docs p => docs.delete (db.rowid p.id) p.ftsColumns) docs }

/-- The `'rebuild'` command reads the rows of `products`. -/
def rebuild : IndexedDb :=
  { db with
    docs := some fun r =>
      (db.tables.products.rows.filter (db.rowid ·.id = r)).map Product.ftsColumns }

/-- `SELECT count(*) FROM products_fts`. The rows of an index on external content are those of the
content. -/
def ftsCount : Nat := db.tables.products.rows.length

def ensureProductsFts : IndexedDb :=
  match db.docs with
  | some _ =>
    if db.triggers then
      if db.ftsCount = 0 ∧ 0 < db.tables.products.rows.length then db.rebuild else db
    else { db.rebuild with triggers := true }
  | none => { db.rebuild with triggers := true }

def step (db : IndexedDb) : ProductStatement → IndexedDb
  | .insert p => db.insertProduct p
  | .update p => db.updateProduct p
  | .upsert p => db.upsertProduct p
  | .replace p => db.replaceProduct p
  | .deleteAll => db.deleteAll
  | .wipe => db.deleteAll.rebuild
  | .startup => db.ensureProductsFts

/-! ## The search -/

/-- `JOIN products p ON p.rowid = fts.rowid` -/
def productAt (r : Nat) : Option Product := db.tables.products.rows.find? (db.rowid ·.id = r)

def ftsQuery (rs : SearchRust) (query : String) : Option String :=
  let tokens := (((trim query).toList.splitOnP (! rs.isAlphanumeric ·)).filter (· ≠ [])).map fun s =>
    "\"" ++ String.ofList s ++ "\"*"
  if tokens = [] then none else some (" ".intercalate tokens)

/-- `answer` has the rowids that match, by rank, if the query does not fail. -/
def searchProductsFts5 (rs : SearchRust) (answer : String → Option (List Nat)) (query : String)
    (storeId : Option String) : Except String (List FoundProduct) :=
  if trim query = "" then .ok []
  else match (ftsQuery rs query).bind answer with
    | none => searchProductsLike rs db.tables query storeId none
    | some hits =>
      match ((hits.take 50).filterMap db.productAt).mapM
          (db.tables.readFound storeId "Failed to read FTS5 product record") with
      | .ok (p :: ps) => .ok (p :: ps)
      | _ => searchProductsLike rs db.tables query storeId none

end IndexedDb

/-- Which documents of a rowid match a query. -/
structure Fts5 where
  finds : String → List FtsColumns → Bool
  nothing : ∀ query, finds query [] = false

/-- SQLite's answer to a query: the rowids that match, in any order. -/
def IndexedDb.Answers (fts : Fts5) (db : IndexedDb) (query : String) (hits : List Nat) : Prop :=
  hits.Nodup ∧ ∃ docs, db.docs = some docs ∧ ∀ r, r ∈ hits ↔ fts.finds query (docs r) = true

end Desktop.Catalogue
