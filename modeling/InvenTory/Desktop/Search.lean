import InvenTory.Desktop.Provision
import Mathlib.Data.List.Sort

/-!
# The product search

`search_products` asks the full-text index, which ranks its matches and gives the first hundred of them,
and only then looks at the category. Where that leaves nothing, and where it fails, it looks for the term
in the columns instead (`searchProductsLike`).
-/

namespace Desktop.Catalogue

open Relational

/-- What the search takes from Rust besides: `str::to_lowercase`. -/
structure SearchRust extends CatalogueRust where
  toLowercase : String → String

/-- `products_fts`: the rows that match a query, by rank. A row is named by the id of its product. -/
structure FtsIndex where
  hits : String → List String
  nodup : ∀ query, (hits query).Nodup

structure SearchDb where
  tables : Tables
  /-- The index is made at the start, if SQLite can. -/
  fts : Option FtsIndex

structure FoundProduct where
  product : Product
  stockQuantity : Int32
  deriving DecidableEq

/-! ## Rows -/

namespace Tables

variable (t : Tables) (storeId category : Option String)

/-- `COALESCE(SUM(..), 0)` of the balances of a product, in one store or in all. -/
def stockQuantity (productId : String) : Int :=
  t.balances.total fun b =>
    if b.stock.productId = productId ∧ b.stock.stockBucket = "AVAILABLE" ∧
      (∀ s ∈ storeId, b.stock.storeId = s) then b.quantity else 0

/-- The stock is read as an `i32`. -/
def readFound (label : String) (p : Product) : Except String FoundProduct :=
  match Db.readI32 (t.stockQuantity storeId p.id) with
  | some q => .ok ⟨p, q⟩
  | none => .error (label ++ ": Integer " ++ toString (t.stockQuantity storeId p.id) ++
      " out of range at index 14")

/-- `?3 IS NULL OR p.category = ?3` -/
def inCategory (p : Product) : Bool := ∀ c ∈ category, p.category = c

end Tables

/-! ## The columns -/

/-- `LIKE`: `%` is any text, `_` any character, and a letter is itself in either case of ASCII. -/
def like : List Char → List Char → Bool
  | [], text => text = []
  | c :: pattern, text =>
    if c = '%' then text.tails.any (like pattern)
    else match text with
      | [] => false
      | d :: text => (c = '_' || c.toLower = d.toLower) && like pattern text

/-- The columns that `search_products_like` looks at. -/
def Product.searched (p : Product) : List String :=
  [p.name, p.sku, p.model.getD "", p.barcode.getD "", p.alternateNames.getD ""]

/-- The term is somewhere in a column. -/
def Product.contains (term : String) (p : Product) : Bool :=
  p.searched.any fun column => like ('%' :: term.toList ++ ['%']) (sqlLower column).toList

/-- The products that the term is in, by name, and by id where names agree, as `GROUP BY` leaves them. -/
def Tables.likeMatches (t : Tables) (term : String) (category : Option String) : List Product :=
  ((t.products.rows.filter fun p => p.contains term && Tables.inCategory category p).insertionSort
    (·.id ≤ ·.id)).insertionSort (·.name ≤ ·.name)

def searchTerm (rs : SearchRust) (query : String) : String := rs.toLowercase (trim query)

def searchProductsLike (rs : SearchRust) (t : Tables) (query : String)
    (storeId category : Option String) : Except String (List FoundProduct) :=
  if searchTerm rs query = "" then .ok []
  else ((t.likeMatches (searchTerm rs query) category).take 100).mapM
    (t.readFound storeId "Failed to read product record")

/-! ## The index -/

def ftsTokens (rs : SearchRust) (query : String) : List String :=
  (((searchTerm rs query).toList.splitOnP (! rs.isAlphanumeric ·)).filter (· ≠ [])).map fun s =>
    "\"" ++ String.ofList s ++ "\"*"

/-- The limit is on the matches, and the category on what is joined to them. -/
def searchFts (rs : SearchRust) (db : SearchDb) (query : String) (storeId category : Option String) :
    Except String (List FoundProduct) :=
  match db.fts with
  | none => .error "FTS5 not available"
  | some index =>
    if ftsTokens rs query = [] then .error "No tokens"
    else
      let hits := (index.hits (" ".intercalate (ftsTokens rs query))).take 100
      ((hits.filterMap db.tables.products.get?).filter (Tables.inCategory category)).mapM
        (db.tables.readFound storeId "Failed to read FTS5 product record")

def searchProducts (rs : SearchRust) (db : SearchDb) (query : String) (storeId category : Option String) :
    Except String (List FoundProduct) :=
  if searchTerm rs query = "" then .ok []
  else match searchFts rs db query storeId category with
    | .ok (p :: ps) => .ok (p :: ps)
    | _ => searchProductsLike rs db.tables query storeId category

end Desktop.Catalogue
