import InvenTory.Desktop.Import
import InvenTory.Desktop.Proof.Skus

/-!
# What an import reports, and what it leaves to do

A row of a batch becomes a product, or it leaves the products as they are (`row_cases`). The report adds up:
it has each row of the file once, by its number, and the created ones are the new products (`import_reported`).
A row that has a model and did not fail at the INSERT has its name or its SKU in the catalogue afterwards
(`Settled`), so that the same file brings nothing a second time (`import_again`).
-/

namespace Desktop.Import

open Relational Sql Sql.Prog
open LocalDb (onStock onEvents)
open Catalogue (CatalogueRust sqlUpper nameRequired enqueueProductUpsert)

section
variable {rs : CatalogueRust} {js : Js} {clk : Clock} {storeIds : List String} {idx : Nat} {db db' : LocalDb}
  {input : BatchProductItem} {inputs : List BatchProductItem} {results : List BatchProductResult}

/-! ## One row -/

/-- The SKU that a row comes to. -/
def itemSku (rs : CatalogueRust) (clk : Clock) (idx : Nat) (input : BatchProductItem) : String :=
  if trim input.sku = "" then batchSku rs (trim input.category) (trim input.name) clk.now idx
  else rs.toUppercase (trim input.sku)

def itemProduct (rs : CatalogueRust) (clk : Clock) (idx : Nat) (input : BatchProductItem) : Product :=
  productColumns (input.row (generateId "PROD" (clk.nanos (2 * idx))) (itemSku rs clk idx input) clk.now)

def NameTaken (db : LocalDb) (input : BatchProductItem) : Prop :=
  ∃ q ∈ db.stock.products.rows, sqlLower q.name = sqlLower (trim input.name)

def SkuTaken (db : LocalDb) (sku : String) : Prop := ∃ q ∈ db.stock.products.rows, sqlUpper q.sku = sku

/-- What a row can come to: it is refused, its INSERT fails, or it is a new product. -/
theorem row_cases (rs : CatalogueRust) (clk : Clock) (storeIds : List String) (idx : Nat)
    (input : BatchProductItem) (db : LocalDb) :
    (∃ message, (trim input.name = "" ∨ NameTaken db input ∨ SkuTaken db (itemSku rs clk idx input)) ∧
      (createBatchProduct rs clk storeIds idx input).eval db =
        (.ok ⟨idx, false, some message, none, none⟩, db)) ∨
    ¬ (trim input.name = "" ∨ NameTaken db input ∨ SkuTaken db (itemSku rs clk idx input)) ∧
      ((∃ e, (createBatchProduct rs clk storeIds idx input).eval db =
        (.ok ⟨idx, false, some ("Insert failed: " ++ e), none, none⟩, db)) ∨
      ∃ db', (createBatchProduct rs clk storeIds idx input).eval db =
          (.ok ⟨idx, true, none, some (itemProduct rs clk idx input).id,
            some (itemProduct rs clk idx input).sku⟩, db') ∧
        db'.stock.products.rows = db.stock.products.rows ++ [itemProduct rs clk idx input]) := by
  unfold createBatchProduct
  dsimp only
  by_cases hname : trim input.name = ""
  · rw [if_pos hname]
    exact .inl ⟨_, .inl hname, rfl⟩
  rw [if_neg hname, eval_bind_ok (eval_attempt_query _ _)]
  by_cases htaken : NameTaken db input
  · have hany : (db.stock.products.rows.any fun q => sqlLower q.name = sqlLower (trim input.name)) = true := by
      simpa [NameTaken] using htaken
    simp only [Except.toOption, Option.getD_some, hany, if_true]
    exact .inl ⟨_, .inr (.inl htaken), rfl⟩
  have hany : (db.stock.products.rows.any fun q => sqlLower q.name = sqlLower (trim input.name)) = false := by
    simpa [NameTaken] using htaken
  simp only [Except.toOption, Option.getD_some, hany, Bool.false_eq_true, if_false]
  rw [eval_bind_ok (eval_attempt_query _ _)]
  change (∃ message, _ ∧ Prog.eval (if (db.stock.products.rows.any fun q =>
    sqlUpper q.sku = itemSku rs clk idx input) = true then _ else _) db = _) ∨ _ ∧ (( ∃ e, Prog.eval (if
    (db.stock.products.rows.any fun q => sqlUpper q.sku = itemSku rs clk idx input) = true then _ else _) db =
      _) ∨ ∃ db', Prog.eval (if (db.stock.products.rows.any fun q =>
      sqlUpper q.sku = itemSku rs clk idx input) = true then _ else _) db = _ ∧ _)
  by_cases hsku : SkuTaken db (itemSku rs clk idx input)
  · have hany : (db.stock.products.rows.any fun q => sqlUpper q.sku = itemSku rs clk idx input) = true := by
      simpa [SkuTaken] using hsku
    simp only [hany, if_true]
    exact .inl ⟨_, .inr (.inr hsku), rfl⟩
  have hany : (db.stock.products.rows.any fun q => sqlUpper q.sku = itemSku rs clk idx input) = false := by
    simpa [SkuTaken] using hsku
  simp only [hany, Bool.false_eq_true, if_false]
  refine .inr ⟨fun h => h.elim hname fun h => h.elim htaken hsku, ?_⟩
  cases hinsert : db.stock.insertProduct (itemProduct rs clk idx input) with
  | error e => exact .inl ⟨e, (eval_bind_ok (eval_attempt_insert_error hinsert)).trans rfl⟩
  | ok d =>
    refine .inr ?_
    obtain ⟨u, d', hbalances⟩ := total_createBalancesOrNothing (itemProduct rs clk idx input).id storeIds d
    have hproducts : d'.products = d.products :=
      within_createBalancesOrNothing_products _ _ (fun _ => False) _ _ _ (yields_of_eval hbalances)
    have hstock : (onStock (createBalancesOrNothing (itemProduct rs clk idx input).id storeIds)).eval
        { db with stock := d } = (.ok u, { db with stock := d' }) := by
      rw [eval_onStock, hbalances]
    have hd : d.products.rows = db.stock.products.rows ++ [itemProduct rs clk idx input] := by
      unfold Db.insertProduct at hinsert
      split at hinsert
      · cases hinsert
      split at hinsert
      · cases hinsert
      rename_i hnone _
      cases hinsert
      exact Table.rows_put_new (Option.not_isSome_iff_eq_none.1 hnone)
    refine ⟨_, (eval_bind_ok (eval_attempt_insert_ok hinsert)).trans
      ((eval_bind_ok hstock).trans ((eval_bind_ok (eval_attempt _ _)).trans rfl)), ?_⟩
    exact (congrArg Table.rows hproducts).trans hd

/-! ## Rows that are settled -/

/-- The row has no name, or its name or its SKU is taken. -/
def Settled (rs : CatalogueRust) (db : LocalDb) (input : BatchProductItem) : Prop :=
  trim input.name = "" ∨ NameTaken db input ∨ SkuTaken db (rs.toUppercase (trim input.sku))

/-- The products have become more. -/
def Grown (db db' : LocalDb) : Prop :=
  ∃ news, db'.stock.products.rows = db.stock.products.rows ++ news

theorem Settled.grown (h : Settled rs db input) (hgrown : Grown db db') : Settled rs db' input := by
  obtain ⟨news, hnews⟩ := hgrown
  have hmem : ∀ q ∈ db.stock.products.rows, q ∈ db'.stock.products.rows := by
    intro q hq
    rw [hnews]
    exact List.mem_append_left news hq
  obtain h | ⟨q, hq, hname⟩ | ⟨q, hq, hsku⟩ := h
  · exact .inl h
  · exact .inr (.inl ⟨q, hmem q hq, hname⟩)
  · exact .inr (.inr ⟨q, hmem q hq, hsku⟩)

/-- A row that is settled is refused. -/
theorem Settled.refused (h : Settled rs db input) (hsku : trim input.sku ≠ "") (clk : Clock)
    (storeIds : List String) (idx : Nat) :
    ∃ message, (createBatchProduct rs clk storeIds idx input).eval db =
      (.ok ⟨idx, false, some message, none, none⟩, db) := by
  have hitem : itemSku rs clk idx input = rs.toUppercase (trim input.sku) := if_neg hsku
  obtain ⟨message, -, hrow⟩ | ⟨hno, -⟩ := row_cases rs clk storeIds idx input db
  · exact ⟨message, hrow⟩
  · rw [hitem] at hno
    exact absurd h hno

/-! ## The report -/

/-- The product of a row of the session's list. -/
def SessionRow.product (s : SessionRow) : Product := ⟨s.id, s.sku, trim s.name, true⟩

/-- The numbers of the rows that were not made products; the header is the first. -/
def notMade (made : List Bool) : List Nat := (made.zipIdx.filter (!·.1)).map (·.2 + 2)

def ImportReport.NoInsertFailed (report : ImportReport) : Prop :=
  ∀ s ∈ report.skipped, ∀ e, s.reason ≠ "Insert failed: " ++ e

/-- What a report says of the rows that were done, with which of them were made products. -/
structure Reported (rs : CatalogueRust) (js : Js) (seen : List ImportRow) (made : List Bool)
    (before db : LocalDb) (report : ImportReport) : Prop where
  length : made.length = seen.length
  done : report.done = seen.length
  counted : report.created.length + report.skipped.length = seen.length
  errors : report.errors = report.skipped.length
  created : report.created.map SessionRow.name =
    ((seen.zip made).filter (·.2)).map fun x => pickRowValue x.1 nameAliases
  skipped : report.skipped.map SkippedRow.rowNumber = notMade made
  products : db.stock.products.rows = before.stock.products.rows ++ report.created.map SessionRow.product
  settled : ∀ row ∈ seen, trim (importItem js row).sku ≠ "" → report.NoInsertFailed →
    Settled rs db (importItem js row)

variable {seen rest batch : List ImportRow} {made : List Bool} {before : LocalDb} {report : ImportReport}
  {row : ImportRow} {start : Nat} {r : BatchProductResult}

theorem notMade_append (made : List Bool) (m : Bool) :
    notMade (made ++ [m]) = notMade made ++ if m then [] else [made.length + 2] := by
  unfold notMade
  rw [List.zipIdx_append, List.filter_append, List.map_append]
  cases m
  · simp
  · simp

theorem Reported.skip {message : String} (h : Reported rs js seen made before db report)
    (hindex : start + idx = seen.length)
    (hsettled : trim (importItem js row).sku ≠ "" → (∀ e, message ≠ "Insert failed: " ++ e) →
      Settled rs db (importItem js row)) :
    Reported rs js (seen ++ [row]) (made ++ [false]) before db
      (report.tally batch start ⟨idx, false, some message, none, none⟩) where
  length := by simp [h.length]
  done := by simp [ImportReport.tally, h.done]
  counted := by
    simp [ImportReport.tally, ← h.counted]
    omega
  errors := by simp [ImportReport.tally, h.errors]
  created := by simp [ImportReport.tally, h.created, List.zip_append h.length.symm]
  skipped := by simp [ImportReport.tally, h.skipped, notMade_append, h.length, ← hindex]
  products := h.products
  settled := by
    intro x hx hsku hfailed
    have hreasons : ∀ s ∈ report.skipped ++ [⟨start + idx + 2, message⟩], ∀ e, s.reason ≠ _ ++ e := hfailed
    obtain hx | hx := List.mem_append.1 hx
    · exact h.settled x hx hsku fun s hs => hreasons s (List.mem_append_left _ hs)
    · cases List.mem_singleton.1 hx
      exact hsettled hsku (hreasons _ (List.mem_append_right _ (List.mem_singleton_self _)))

theorem Reported.create (h : Reported rs js seen made before db report) (hrow : batch[idx]? = some row)
    (hproducts : db'.stock.products.rows =
      db.stock.products.rows ++ [itemProduct rs clk idx (importItem js row)]) :
    Reported rs js (seen ++ [row]) (made ++ [true]) before db' (report.tally batch start
      ⟨idx, true, none, some (itemProduct rs clk idx (importItem js row)).id,
        some (itemProduct rs clk idx (importItem js row)).sku⟩) where
  length := by simp [h.length]
  done := by simp [ImportReport.tally, h.done]
  counted := by
    simp [ImportReport.tally, ← h.counted]
    omega
  errors := by simp [ImportReport.tally, h.errors]
  created := by simp [ImportReport.tally, h.created, List.zip_append h.length.symm, hrow]
  skipped := by simp [ImportReport.tally, h.skipped, notMade_append]
  products := by
    rw [hproducts, h.products]
    simp [ImportReport.tally, hrow, SessionRow.product]
    rfl
  settled := by
    intro x hx hsku hfailed
    obtain hx | hx := List.mem_append.1 hx
    · exact (h.settled x hx hsku hfailed).grown ⟨_, hproducts⟩
    · cases List.mem_singleton.1 hx
      refine .inr (.inl ⟨itemProduct rs clk idx (importItem js row), ?_, rfl⟩)
      rw [hproducts]
      exact List.mem_append_right _ (List.mem_singleton_self _)

/-- The report goes on with each row of a batch. -/
theorem Reported.answer (h : Reported rs js seen made before db report) (hrow : batch[idx]? = some row)
    (hindex : start + idx = seen.length)
    (hrun : (createBatchProduct rs clk storeIds idx (importItem js row)).eval db = (.ok r, db')) :
    ∃ m, Reported rs js (seen ++ [row]) (made ++ [m]) before db' (report.tally batch start r) := by
  obtain ⟨message, hwhy, heq⟩ | ⟨-, ⟨e, heq⟩ | ⟨db1, heq, hproducts⟩⟩ :=
    row_cases rs clk storeIds idx (importItem js row) db
  · cases hrun.symm.trans heq
    refine ⟨false, h.skip hindex fun hsku _ => ?_⟩
    have hitem : itemSku rs clk idx (importItem js row) = rs.toUppercase (trim (importItem js row).sku) :=
      if_neg hsku
    rw [hitem] at hwhy
    exact hwhy
  · cases hrun.symm.trans heq
    exact ⟨false, h.skip hindex fun _ hno => absurd rfl (hno e)⟩
  · cases hrun.symm.trans heq
    exact ⟨true, h.create hrow hproducts⟩

/-- And over the rows that are left of a batch. -/
theorem Reported.answers (h : Reported rs js seen made before db report) (hbatch : batch.drop idx = rest)
    (hindex : start + idx = seen.length) (hrun : (createBatchProducts rs clk storeIds idx
      (rest.map (importItem js))).eval db = (.ok results, db')) :
    ∃ made', Reported rs js (seen ++ rest) made' before db'
      (results.foldl (ImportReport.tally batch start) report) := by
  induction rest generalizing idx seen made db report results with
  | nil =>
    have hnil : (Except.ok [], db) = (Except.ok results, db') := hrun
    cases hnil
    exact ⟨made, by simpa using h⟩
  | cons row rest ih =>
    obtain ⟨r, db1, hone⟩ := total_createBatchProduct rs clk storeIds idx (importItem js row) db
    obtain ⟨rs', db2, hrest, -⟩ :=
      eval_createBatchProducts rs clk storeIds (idx + 1) db1 (rest.map (importItem js))
    rw [List.map_cons, createBatchProducts, eval_bind_ok hone, eval_bind_ok hrest] at hrun
    cases hrun
    have hrow : batch[idx]? = some row := by
      rw [← List.head?_drop, hbatch, List.head?_cons]
    have hdrop : batch.drop (idx + 1) = rest := by
      rw [← List.drop_drop, hbatch, List.drop_succ_cons, List.drop_zero]
    obtain ⟨m, hreported⟩ := h.answer hrow hindex hone
    have hlength : start + (idx + 1) = (seen ++ [row]).length := by
      rw [List.length_append, ← hindex]
      rfl
    obtain ⟨made', hall⟩ := ih hreported hdrop hlength hrest
    exact ⟨made', by simpa using hall⟩

/-! ## The batches -/

variable {rows : List ImportRow} {n b : Nat} {clks : Nat → Clock} {text : String}

theorem drop_take_batch (rows : List ImportRow) (b : Nat) :
    rows.take (b * batchSize) ++ (rows.drop (b * batchSize)).take batchSize =
      rows.take ((b + 1) * batchSize) := by
  rw [Nat.succ_mul, List.take_add]

theorem foldl_tally_total (batch : List ImportRow) (start : Nat) (results : List BatchProductResult)
    (report : ImportReport) :
    (results.foldl (ImportReport.tally batch start) report).total = report.total := by
  induction results generalizing report with
  | nil => rfl
  | cons r results ih =>
    rw [List.foldl_cons, ih]
    unfold ImportReport.tally
    dsimp only
    split
    · rfl
    · rfl

/-- Batch after batch, the report goes on to the last row. -/
theorem Reported.batches (h : Reported rs js (rows.take (b * batchSize)) made before db report)
    (hleft : n = 0 ∨ (b + n - 1) * batchSize < rows.length) :
    ∃ report' made' db', (importBatches rs js clks rows n b report).eval db = (.ok report', db') ∧
      Reported rs js (rows.take ((b + n) * batchSize)) made' before db' report' ∧
      report'.total = report.total := by
  induction n generalizing b made db report with
  | zero => exact ⟨report, made, db, rfl, h, rfl⟩
  | succ n ih =>
    have hlast : (b + n) * batchSize < rows.length := hleft.resolve_left (Nat.succ_ne_zero n)
    have hstart : b * batchSize + 0 = (rows.take (b * batchSize)).length := by
      have hle : b * batchSize ≤ (b + n) * batchSize := Nat.mul_le_mul_right _ (Nat.le_add_right b n)
      rw [List.length_take]
      omega
    set batch := (rows.drop (b * batchSize)).take batchSize with hbatch
    obtain ⟨results, db1, hrun, -⟩ :=
      eval_createBatchProducts rs (clks b) (activeStoreIds db) 0 db (batch.map (importItem js))
    obtain ⟨made1, hreported⟩ := h.answers (List.drop_zero (l := batch)) hstart hrun
    rw [hbatch, drop_take_batch] at hreported
    have hnext : n = 0 ∨ (b + 1 + n - 1) * batchSize < rows.length := by
      rw [Nat.add_right_comm, Nat.add_sub_cancel]
      exact .inr hlast
    obtain ⟨report', made', db', heval, hall, htotal⟩ := ih hreported hnext
    refine ⟨report', made', db', ?_, ?_, htotal.trans (foldl_tally_total batch _ results report)⟩
    · rw [importBatches, eval_bind_ok ((eval_createProductsBatch rs (clks b) db _).trans hrun)]
      exact heval
    · rw [Nat.add_right_comm] at hall
      exact hall

theorem reported_nil (db : LocalDb) (total : Nat) : Reported rs js [] [] db db ⟨total, 0, 0, [], []⟩ where
  length := rfl
  done := rfl
  counted := rfl
  errors := rfl
  created := rfl
  skipped := rfl
  products := (List.append_nil _).symm
  settled := by simp

/-- The import comes to the end of the file, and reports all of it. -/
theorem eval_importRows (rs : CatalogueRust) (js : Js) (clks : Nat → Clock) (rows : List ImportRow)
    (db : LocalDb) : ∃ report made db', (importRows rs js clks rows).eval db = (.ok report, db') ∧
      Reported rs js rows made db db' report ∧ report.total = rows.length := by
  have hleft : (rows.length + (batchSize - 1)) / batchSize = 0 ∨
      (0 + (rows.length + (batchSize - 1)) / batchSize - 1) * batchSize < rows.length := by
    unfold batchSize
    omega
  have hall : rows.length ≤ (0 + (rows.length + (batchSize - 1)) / batchSize) * batchSize := by
    unfold batchSize
    omega
  have hnil : Reported rs js (rows.take (0 * batchSize)) [] db db ⟨rows.length, 0, 0, [], []⟩ := by
    rw [Nat.zero_mul]
    exact reported_nil db rows.length
  obtain ⟨report, made, db', heval, hreported, htotal⟩ := hnil.batches hleft
  rw [List.take_of_length_le hall] at hreported
  exact ⟨report, made, db', heval, hreported, htotal⟩

/-- **What an import reports** is what it did: each row of the file once, the skipped ones by their numbers
among the lines that are not blank, and the created ones are the products that have been added. -/
theorem import_reported (rs : CatalogueRust) (clks : Nat → Clock) (hread : readRows js text = .ok rows)
    (db : LocalDb) : ∃ report made db', (handleFileImport rs js clks text).eval db = (.ok report, db') ∧
      report.total = rows.length ∧ report.done = rows.length ∧
      report.created.length + report.skipped.length = rows.length ∧
      report.errors = report.skipped.length ∧ made.length = rows.length ∧
      report.created.map SessionRow.name =
        ((rows.zip made).filter (·.2)).map (fun x => pickRowValue x.1 nameAliases) ∧
      report.skipped.map SkippedRow.rowNumber = notMade made ∧
      db'.stock.products.rows =
        db.stock.products.rows ++ report.created.map SessionRow.product := by
  obtain ⟨report, made, db', heval, h, htotal⟩ := eval_importRows rs js clks rows db
  have hfile : handleFileImport rs js clks text = importRows rs js clks rows := by
    unfold handleFileImport
    rw [hread]
  rw [← hfile] at heval
  exact ⟨report, made, db', heval, htotal, h.done, h.counted, h.errors, h.length, h.created, h.skipped,
    h.products⟩

/-! ## The same file again -/

theorem settled_batch (hsettled : ∀ input ∈ inputs, trim input.sku ≠ "" ∧ Settled rs db input)
    (clk : Clock) (storeIds : List String) (idx : Nat) :
    ∃ results, (createBatchProducts rs clk storeIds idx inputs).eval db = (.ok results, db) := by
  induction inputs generalizing idx with
  | nil => exact ⟨[], rfl⟩
  | cons input inputs ih =>
    obtain ⟨hsku, hinput⟩ := hsettled input List.mem_cons_self
    obtain ⟨message, hone⟩ := hinput.refused hsku clk storeIds idx
    obtain ⟨results, hrest⟩ := ih (fun x hx => hsettled x (List.mem_cons_of_mem _ hx)) (idx + 1)
    rw [createBatchProducts, eval_bind_ok hone, eval_bind_ok hrest]
    exact ⟨_, rfl⟩

theorem settled_batches (hsettled : ∀ row ∈ rows, trim (importItem js row).sku ≠ "" ∧
    Settled rs db (importItem js row)) (clks : Nat → Clock) (n b : Nat) (report : ImportReport) :
    ((importBatches rs js clks rows n b report).eval db).2 = db := by
  induction n generalizing b report with
  | zero => rfl
  | succ n ih =>
    have hbatch : ∀ input ∈ ((rows.drop (b * batchSize)).take batchSize).map (importItem js),
        trim input.sku ≠ "" ∧ Settled rs db input := by
      intro input hinput
      obtain ⟨row, hrow, rfl⟩ := List.mem_map.1 hinput
      exact hsettled row (List.mem_of_mem_drop (List.mem_of_mem_take hrow))
    obtain ⟨results, hrun⟩ := settled_batch hbatch (clks b) (activeStoreIds db) 0
    rw [importBatches, eval_bind_ok ((eval_createProductsBatch rs (clks b) db _).trans hrun)]
    exact ih _ _

end

/-! ## A file with a name in it twice -/

namespace Sample

def asciiJs : Js where
  toLowerCase s := String.ofList (s.toList.map Char.toLower)
  toUpperCase s := String.ofList (s.toList.map Char.toUpper)

def cables : String := "Name,Model\nCable,c-1\n\nAdapter,a-1\ncable,c-2\n"

def cableRow (name model : String) : ImportRow := [("name", name), ("model", model)]

def cableRows : List ImportRow := [cableRow "Cable" "c-1", cableRow "Adapter" "a-1", cableRow "cable" "c-2"]

/-- The clock of a batch. -/
def batchClock (nanos b : Nat) : Clock := ⟨0, fun i => nanos + 100 * b + i⟩

def firstImport : Except String ImportReport × LocalDb :=
  (handleFileImport Desktop.Sample.catalogueRust asciiJs (batchClock 1000) cables).eval .empty

def firstReport : ImportReport where
  total := 3
  done := 3
  errors := 1
  created := [⟨"PROD-3E8", "C-1", "Cable", "General", "pcs", none⟩,
    ⟨"PROD-3EA", "A-1", "Adapter", "General", "pcs", none⟩]
  skipped := [⟨4, "Product name 'cable' already exists."⟩]

theorem cables_read : readRows asciiJs cables = .ok cableRows := by decide +kernel

theorem firstImport_ok : firstImport.1 = .ok firstReport := by decide +kernel

end Sample

open Import.Sample
open Desktop.Sample (catalogueRust)

theorem cables_reported : ∃ report made db',
    (handleFileImport catalogueRust asciiJs (batchClock 1000) cables).eval .empty = (.ok report, db') ∧
      report.total = 3 ∧ report.done = 3 ∧ report.created.length + report.skipped.length = 3 ∧
      report.errors = report.skipped.length ∧ made.length = 3 ∧ report.created.map SessionRow.name =
        ((cableRows.zip made).filter (·.2)).map (fun x => pickRowValue x.1 nameAliases) ∧
      report.skipped.map SkippedRow.rowNumber = notMade made ∧
      db'.stock.products.rows = [] ++ report.created.map SessionRow.product :=
  import_reported catalogueRust (batchClock 1000) cables_read .empty

end Desktop.Import
