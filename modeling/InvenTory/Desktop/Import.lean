import InvenTory.Desktop.Provision
import InvenTory.Sync.Push

/-!
# The import of products

`CreateProductView.tsx` reads a CSV file, takes each row's fields by the headers, and has the rows created in
batches of fifty. What a batch answers for a row is counted and listed with the row's number in the file.
-/

namespace Desktop.Import

open Sql Sql.Prog
open Catalogue (CatalogueRust)
open Sync (jsTrim orDefault)

/-! ## The file -/

/-- A row is kept if it has something in it. -/
def keepRow (row : List String) : List (List String) := if row.any (· ≠ "") then [row] else []

def pushField (current : List String) (field : List Char) : List String :=
  current ++ [jsTrim (String.ofList field)]

/-- The loop of `parseCsv`, with `inQuotes`, `field` and `current`. -/
def parseFrom : Bool → List Char → List String → List Char → List (List String)
  | _, field, current, [] => keepRow (pushField current field)
  | true, field, current, '"' :: '"' :: rest => parseFrom true (field ++ ['"']) current rest
  | true, field, current, '"' :: rest => parseFrom false field current rest
  | true, field, current, ch :: rest => parseFrom true (field ++ [ch]) current rest
  | false, field, current, '"' :: rest => parseFrom true field current rest
  | false, field, current, ',' :: rest => parseFrom false [] (pushField current field) rest
  | false, field, current, '\r' :: '\n' :: rest =>
    keepRow (pushField current field) ++ parseFrom false [] [] rest
  | false, field, current, ch :: rest =>
    if ch = '\n' ∨ ch = '\r' then keepRow (pushField current field) ++ parseFrom false [] [] rest
    else parseFrom false (field ++ [ch]) current rest

theorem parseFrom_nil (inQuotes : Bool) (field : List Char) (current : List String) :
    parseFrom inQuotes field current [] = keepRow (pushField current field) := by
  rw [parseFrom]

def parseCsv (text : String) : List (List String) := parseFrom false [] [] text.toList

/-! ## Rows -/

/-- What the view takes from JavaScript. -/
structure Js where
  toLowerCase : String → String
  toUpperCase : String → String

/-- The properties of the row object, in the order in which they were set. -/
abbrev ImportRow := List (String × String)

def ImportRow.get? (row : ImportRow) (key : String) : Option String :=
  (row.reverse.find? (·.1 = key)).map (·.2)

def nameAliases : List String := ["name", "product name", "product_name", "productname"]
def modelAliases : List String := ["model", "sku", "model / sku", "model/sku"]
def brandAliases : List String := ["brand"]
def barcodeAliases : List String := ["barcode"]
def alternateNamesAliases : List String := ["alternate_names", "alternatenames", "alternate names"]
def categoryAliases : List String := ["category"]
def unitAliases : List String := ["unit"]

def pickRowValue (row : ImportRow) (aliases : List String) : String :=
  (aliases.findSome? fun key => ((row.get? key).map jsTrim).filter (· ≠ "")).getD ""

/-- `value || undefined` -/
def orUndefined (value : String) : Option String := if value = "" then none else some value

/-- The input that `importBatch` makes of a row. -/
def importItem (js : Js) (row : ImportRow) : BatchProductItem where
  sku := js.toUpperCase (pickRowValue row modelAliases)
  name := pickRowValue row nameAliases
  brand := orUndefined (pickRowValue row brandAliases)
  model := orUndefined (pickRowValue row modelAliases)
  category := orDefault (pickRowValue row categoryAliases) "General"
  unit := some (orDefault (pickRowValue row unitAliases) "pcs")
  barcode := orUndefined (pickRowValue row barcodeAliases)
  alternateNames := orUndefined (pickRowValue row alternateNamesAliases)

/-! ## The import -/

/-- A row of the session's list; its timestamp is left out. -/
structure SessionRow where
  id : String
  sku : String
  name : String
  category : String
  unit : String
  barcode : Option String
  deriving DecidableEq, Repr

structure SkippedRow where
  rowNumber : Nat
  reason : String
  deriving DecidableEq, Repr

structure ImportReport where
  total : Nat
  done : Nat
  errors : Nat
  created : List SessionRow
  skipped : List SkippedRow
  deriving DecidableEq, Repr

/-- What the view does with an answer. The file's row number counts from one, and the header is a row. -/
def ImportReport.tally (batch : List ImportRow) (start : Nat) (report : ImportReport)
    (r : BatchProductResult) : ImportReport :=
  let sourceRow := batch[r.rowIndex]?.getD []
  if r.success then
    { report with
      done := report.done + 1
      created := report.created ++ [⟨r.productId.getD "", r.sku.getD "", pickRowValue sourceRow nameAliases,
        orDefault (pickRowValue sourceRow categoryAliases) "General",
        orDefault (pickRowValue sourceRow unitAliases) "pcs",
        orUndefined (pickRowValue sourceRow barcodeAliases)⟩] }
  else
    { report with
      done := report.done + 1
      errors := report.errors + 1
      skipped := report.skipped ++ [⟨start + r.rowIndex + 2, r.error.getD "Unknown error"⟩] }

def batchSize : Nat := 50

section
variable (rs : CatalogueRust) (js : Js) (clk : Nat → Clock) (rows : List ImportRow)

/-- The loop over the batches, of which the `b`-th is next and `n` are left. Each batch is a call of its
own, with its own clock. -/
def importBatches : Nat → Nat → ImportReport → Prog String LocalDb ImportReport
  | 0, _, report => pure report
  | n + 1, b, report => do
    let start := b * batchSize
    let batch := (rows.drop start).take batchSize
    let results ← createProductsBatch rs (clk b) (batch.map (importItem js))
    importBatches n (b + 1) (results.foldl (ImportReport.tally batch start) report)

def importRows : Prog String LocalDb ImportReport :=
  importBatches rs js clk rows ((rows.length + (batchSize - 1)) / batchSize) 0 ⟨rows.length, 0, 0, [], []⟩

end

/-- The rows of the file by their headers, or the error that the view shows. -/
def readRows (js : Js) (text : String) : Except String (List ImportRow) :=
  match parseCsv text with
  | header :: first :: rest =>
    let headers := header.map fun h => js.toLowerCase (jsTrim h)
    let row (fields : List String) : ImportRow :=
      headers.zipIdx.map fun (h, idx) => (h, fields[idx]?.getD "")
    let keys := headers.map js.toLowerCase
    if keys.any (· ∈ nameAliases) ∨ keys.any (· ∈ modelAliases) then .ok ((first :: rest).map row)
    else .error ("File headers do not include \"name\" or \"model\". Expected columns: " ++
      "Product Name, Model / SKU, Brand, Barcode, Alternate Names, Category, Unit")
  | _ => .error "CSV file is empty or has no data rows (only a header row)."

/-- `handleFileImport` of a CSV file. -/
def handleFileImport (rs : CatalogueRust) (js : Js) (clk : Nat → Clock) (text : String) :
    Prog String LocalDb ImportReport :=
  match readRows js text with
  | .ok rows => importRows rs js clk rows
  | .error message => throw message

end Desktop.Import
