import InvenTory.Lib.Hoare
import InvenTory.Lib.Marker
import InvenTory.Server.Proof.Admission
import Mathlib.Data.List.ReduceOption

/-!
# Duplicate keys of the ledger

`isInventoryTransactionsPkeyCollision` looks for the name of a constraint anywhere in the text of
an exception, where the parameters of the statement stand too. As long as no text of a payload has
such a marker in it (`Plain`), only an exception about a ledger row that exists is taken for a
duplicate key (`collision_ledger`).
-/

namespace Server

open Relational Sql Sql.Prog Py

/-! ## Texts without a marker -/

/-- The texts by which a duplicate key of the ledger is recognised. -/
def pkeyMarkers : List String := ["inventory_transactions_pkey", "UNIQUE constraint failed"]

/-- `s` has none of the markers in it. -/
def Clean (s : String) : Prop := Lacks pkeyMarkers s.toList

instance : DecidablePred Clean := fun _ => inferInstanceAs (Decidable (Lacks _ _))

theorem markers_ne : ∀ m ∈ pkeyMarkers, m.toList ≠ [] := by simp [pkeyMarkers]

/-- The characters that stand between the pieces of a message. -/
theorem separates : ∀ c ∈ ['\'', '"', '(', ')', ']', ',', '-', '\n'], Separates pkeyMarkers c := by
  simp [Separates, pkeyMarkers]

/-- A small `t` stands in every marker. -/
theorem t_mem_marker : ∀ m ∈ pkeyMarkers, 't' ∈ m.toList := by simp [pkeyMarkers]

/-- The fixed pieces of the messages, with the names of the tables and the constraints. -/
def messageTexts : List String :=
  ["duplicate key value violates unique constraint ", "insert, update or delete on table ",
    " violates foreign key constraint ", "\n[parameters: ", "]", "None", "true", "false",
    "Auto Store ", "Auto Device ", "OFFLINE", "OFFLINE-PROD",
    "stores", "products", "devices", "inventory_transactions", "sync_receipts",
    "stores_pkey", "ix_stores_code", "products_pkey", "ix_products_sku", "devices_pkey",
    "sync_receipts_pkey", "devices_store_id_fkey", "inventory_transactions_store_id_fkey",
    "inventory_transactions_product_id_fkey", "inventory_transactions_device_id_fkey",
    "stock_balances_store_id_fkey", "users_store_id_fkey",
    "transaction_id is required", "store_id is required", "product_id is required",
    "user_id must be a positive integer", "device_id is required", "movement_type is required",
    "quantity_delta must be non-zero", "reference_number is required for SALE transactions"]

theorem clean_messageTexts : ∀ s ∈ messageTexts, Clean s := by decide +kernel

/-- The statements that an exception can quote. -/
def statementTexts : List String :=
  ["INSERT INTO stores", "INSERT INTO products", "INSERT INTO devices", "DELETE FROM stores",
    "INSERT INTO inventory_transactions", "INSERT INTO sync_receipts"]

theorem lacks_statementTexts : ∀ s ∈ statementTexts,
    Lacks pkeyMarkers ("[SQL: ".toList ++ s.toList) := by decide +kernel

theorem clean_of_part {s t : String} (h : Clean s) (hi : t.toList <:+: s.toList) : Clean t :=
  Lacks.of_part h hi

theorem Clean.isIn {s : String} (h : Clean s) {m : String} (hm : m ∈ pkeyMarkers) :
    Py.isIn m s = false := by
  rw [Py.isIn, decide_eq_false_iff_not]
  exact h m hm

theorem not_collision_of_clean {e : Exn} (h : Clean e.text) :
    isInventoryTransactionsPkeyCollision e = false := by
  unfold isInventoryTransactionsPkeyCollision
  rw [h.isIn (List.mem_cons_self ..), h.isIn (List.mem_cons_of_mem _ (List.mem_cons_self ..))]
  simp only [Bool.false_and, Bool.or_self, Bool.and_false]

theorem toList_quoted (s : String) : (Db.quoted s).toList = '\'' :: (s.toList ++ ['\'']) := by
  rw [Db.quoted, String.toList_append, String.toList_append]
  rfl

theorem clean_quoted {s : String} (h : Clean s) : Clean (Db.quoted s) := by
  unfold Clean
  rw [toList_quoted]
  exact (Lacks.concat markers_ne (separates _ (by simp)) h).cons markers_ne (separates _ (by simp))

theorem clean_quotedOpt {o : Option String} (h : ∀ s, o = some s → Clean s) :
    Clean (Db.quotedOpt o) := by
  cases o with
  | none => exact clean_messageTexts _ (by simp [messageTexts, Db.quotedOpt])
  | some s => exact clean_quoted (h s rfl)

theorem clean_toString_int (z : Int) : Clean (toString z) := by
  have hn : 't' ∉ "-0123456789".toList := by simp
  exact Lacks.of_missing fun m hm => ⟨'t', t_mem_marker m hm, fun h => hn (mem_toString_int h)⟩

theorem clean_insufficientStock (current delta : Int) :
    Clean (insufficientStock current delta) := by
  have hU : ∀ c ∈ (insufficientStock current delta).toList, c ≠ '_' ∧ c ≠ 'U' :=
    forall_mem_insufficientStock (by simp) (by simp) (by simp) _ _
  have hm : ∀ m ∈ pkeyMarkers, '_' ∈ m.toList ∨ 'U' ∈ m.toList := by simp [pkeyMarkers]
  refine Lacks.of_missing fun m hin => ?_
  rcases hm m hin with h | h
  · exact ⟨'_', h, fun hc => (hU _ hc).1 rfl⟩
  · exact ⟨'U', h, fun hc => (hU _ hc).2 rfl⟩

/-! ## The texts of the exceptions -/

/-- An `IntegrityError` has a marker only if its message or a parameter has one. -/
theorem clean_integrityError {message sql : String} {params : List String} (hm : Clean message)
    (hs : Lacks pkeyMarkers ("[SQL: ".toList ++ sql.toList)) (hp : ∀ x ∈ params, Clean x) :
    Clean (Db.integrityError message sql params).text := by
  have hsql : "\n[SQL: ".toList = '\n' :: "[SQL: ".toList := by simp
  have hpar : "]\n[parameters: (".toList = ']' :: ("\n[parameters: ".toList ++ ['(']) := by simp
  have hend : ")]".toList = ')' :: "]".toList := by simp
  have hjoin : ", ".toList = ',' :: " ".toList := by simp
  have hparams : Lacks pkeyMarkers (", ".intercalate params).toList := by
    rw [String.toList_intercalate, hjoin]
    refine Lacks.intercalate markers_ne (separates _ (by simp)) (fun _ hs => ?_) fun s hs => ?_
    · exact Lacks.append_of_heads (by simp [pkeyMarkers]) hs
    · obtain ⟨x, hx, rfl⟩ := List.mem_map.1 hs
      exact hp x hx
  have htext : (Db.integrityError message sql params).text.toList = message.toList ++ '\n' ::
      (("[SQL: ".toList ++ sql.toList) ++ ']' :: ("\n[parameters: ".toList ++ '(' ::
        ((", ".intercalate params).toList ++ ')' :: "]".toList))) := by
    simp only [Db.integrityError, String.toList_append, hsql, hpar, hend]
    simp only [List.append_assoc, List.cons_append, List.nil_append]
  unfold Clean
  rw [htext]
  have hp1 : Clean "\n[parameters: " := clean_messageTexts _ (by simp [messageTexts])
  have hp2 : Clean "]" := clean_messageTexts _ (by simp [messageTexts])
  refine Lacks.append_cons (separates _ (by simp)) hm (Lacks.append_cons (separates _ (by simp)) hs
    (Lacks.append_cons (separates _ (by simp)) hp1
      (Lacks.append_cons (separates _ (by simp)) hparams hp2)))

theorem clean_uniqueViolation {constraint sql : String} {params : List String}
    (hc : Clean constraint) (hs : Lacks pkeyMarkers ("[SQL: ".toList ++ sql.toList))
    (hp : ∀ x ∈ params, Clean x) : Clean (Db.uniqueViolation constraint sql params).text := by
  refine clean_integrityError ?_ hs hp
  have hpre : "duplicate key value violates unique constraint \"".toList =
      "duplicate key value violates unique constraint ".toList ++ ['"'] := by simp
  have htext : ("duplicate key value violates unique constraint \"" ++ constraint ++ "\"").toList =
      "duplicate key value violates unique constraint ".toList ++ '"' ::
        (constraint.toList ++ '"' :: []) := by
    simp only [String.toList_append, hpre, List.append_assoc, List.cons_append, List.nil_append]
    rfl
  unfold Clean
  rw [htext]
  exact Lacks.append_cons (separates _ (by simp)) (clean_messageTexts _ (by simp [messageTexts]))
    (Lacks.concat markers_ne (separates _ (by simp)) hc)

theorem clean_foreignKeyViolation {table constraint sql : String} {params : List String}
    (ht : Clean table) (hc : Clean constraint)
    (hs : Lacks pkeyMarkers ("[SQL: ".toList ++ sql.toList)) (hp : ∀ x ∈ params, Clean x) :
    Clean (Db.foreignKeyViolation table constraint sql params).text := by
  refine clean_integrityError ?_ hs hp
  have hpre : "insert, update or delete on table \"".toList =
      "insert, update or delete on table ".toList ++ ['"'] := by simp
  have hmid : "\" violates foreign key constraint \"".toList =
      '"' :: (" violates foreign key constraint ".toList ++ ['"']) := by simp
  have htext : ("insert, update or delete on table \"" ++ table ++
      "\" violates foreign key constraint \"" ++ constraint ++ "\"").toList =
      "insert, update or delete on table ".toList ++ '"' :: (table.toList ++ '"' ::
        (" violates foreign key constraint ".toList ++ '"' :: (constraint.toList ++ '"' :: []))) := by
    simp only [String.toList_append, hpre, hmid, List.append_assoc, List.cons_append,
      List.nil_append]
    rfl
  unfold Clean
  rw [htext]
  have hp1 : Clean "insert, update or delete on table " :=
    clean_messageTexts _ (by simp [messageTexts])
  have hp2 : Clean " violates foreign key constraint " :=
    clean_messageTexts _ (by simp [messageTexts])
  exact Lacks.append_cons (separates _ (by simp)) hp1 (Lacks.append_cons (separates _ (by simp)) ht
    (Lacks.append_cons (separates _ (by simp)) hp2
      (Lacks.concat markers_ne (separates _ (by simp)) hc)))

/-! ## Plain payloads -/

def TransactionPayload.texts (p : TransactionPayload) : List String :=
  [p.transactionId, p.storeId, p.productId, p.movementType, p.stockBucket, p.deviceId] ++
    [p.referenceNumber, p.reasonCode, p.transferId, p.purchaseOrderId, p.batchId,
      p.originalTransactionId].reduceOption

/-- Nothing that the item brings has a marker in it. -/
def Plain (s : Submission) : Prop := ∀ x ∈ s.env.productHex :: s.payload.texts, Clean x

instance : DecidablePred Plain := fun s => by
  unfold Plain
  infer_instance

/-- What is documented of Python: `str.upper` leaves no ASCII lower-case letter, and the `repr` of
the movement types has their names only. -/
structure Python.Conforms (py : Python) : Prop where
  upper : ∀ s, ∀ c ∈ (py.caseMap.upper s).toList, ¬ c.isLower
  repr : Clean py.validTypesRepr

/-- No store of the database has a marker in its id. -/
def CleanStores (db : Db) : Prop := ∀ id, (db.stores.get? id).isSome → Clean id

section
variable {s : Submission}

theorem Plain.text (h : Plain s) {x : String} (hx : x ∈ s.payload.texts) : Clean x :=
  h x (List.mem_cons_of_mem _ hx)

theorem Plain.transactionId (h : Plain s) : Clean s.payload.transactionId := h.text (by
  simp [TransactionPayload.texts])

theorem Plain.storeId (h : Plain s) : Clean s.payload.storeId := h.text (by
  simp [TransactionPayload.texts])

theorem Plain.productId (h : Plain s) : Clean s.payload.productId := h.text (by
  simp [TransactionPayload.texts])

theorem Plain.deviceId (h : Plain s) : Clean s.payload.deviceId := h.text (by
  simp [TransactionPayload.texts])

theorem Plain.productHex (h : Plain s) : Clean s.env.productHex := h _ List.mem_cons_self

/-- The parameters of the ledger's INSERT are the texts of the payload, and numbers. -/
theorem Plain.ledgerParams (h : Plain s) :
    ∀ x ∈ Db.ledgerParams (s.payload.ledgerRow s.env), Clean x := by
  have hq : ∀ x ∈ s.payload.texts, Clean (Db.quoted x) := fun x hx => clean_quoted (h.text hx)
  have ho : ∀ o ∈ [s.payload.referenceNumber, s.payload.reasonCode, s.payload.transferId,
      s.payload.purchaseOrderId, s.payload.batchId, s.payload.originalTransactionId],
      Clean (Db.quotedOpt o) := by
    intro o hin
    refine clean_quotedOpt fun x hx => h.text ?_
    rw [TransactionPayload.texts, List.mem_append, List.reduceOption_mem_iff]
    exact .inr (hx ▸ hin)
  simp only [TransactionPayload.texts, List.mem_append, List.mem_cons, List.not_mem_nil, or_false,
    or_imp, forall_and, forall_eq] at hq
  simp only [List.mem_cons, List.not_mem_nil, or_false, forall_eq_or_imp, forall_eq] at ho
  simp only [Db.ledgerParams, TransactionPayload.ledgerRow, List.mem_cons, List.not_mem_nil,
    or_false, forall_eq_or_imp, forall_eq]
  exact ⟨hq.1.1, hq.1.2.1, hq.1.2.2.1, hq.1.2.2.2.1, hq.1.2.2.2.2.1, clean_toString_int _,
    clean_toString_int _, hq.1.2.2.2.2.2, ho⟩

end

/-! ## Codes and names -/

variable {py : Python}

theorem clean_upper (hpy : py.Conforms) (s : String) : Clean (py.caseMap.upper s) := by
  exact Lacks.of_missing fun m hm =>
    ⟨'t', t_mem_marker m hm, fun h => hpy.upper s 't' h (by decide)⟩

theorem clean_takeFirst (n : Nat) {s : String} (h : Clean s) : Clean (takeFirst n s) :=
  clean_of_part h (toList_takeFirst_part n s)

theorem clean_autoStoreName {suffix storeId : String} (hs : Clean suffix) (hid : Clean storeId) :
    Clean (autoStoreName suffix storeId) := by
  have hpre : "Auto Store (".toList = "Auto Store ".toList ++ ['('] := by simp
  have htext : (autoStoreName suffix storeId).toList = "Auto Store ".toList ++ '(' ::
      ((orElse (takeFirst 30 suffix) (takeFirst 30 storeId)).toList ++ [')']) := by
    simp only [autoStoreName, String.toList_append, hpre, List.append_assoc, List.cons_append,
      List.nil_append]
    rfl
  unfold Clean
  rw [htext]
  exact Lacks.append_cons (separates _ (by simp)) (clean_messageTexts _ (by simp [messageTexts]))
    (Lacks.concat markers_ne (separates _ (by simp))
      (Lacks.orElse (clean_takeFirst 30 hs) (clean_takeFirst 30 hid)))

/-- A text behind a fixed one that ends with a dash. -/
theorem clean_behind {lit : String} {a : List Char} (hlit : lit.toList = a ++ ['-'])
    (ha : Lacks pkeyMarkers a) {s : String} (hs : Clean s) : Clean (lit ++ s) := by
  unfold Clean
  rw [String.toList_append, hlit, List.append_assoc]
  exact Lacks.append_cons (separates _ (by simp)) ha hs

theorem clean_dash {a s : String} (ha : Clean a) (hs : Clean s) : Clean (a ++ "-" ++ s) :=
  clean_behind (a := a.toList) (String.toList_append ..) ha hs

/-! ## Exceptions of the statements -/

theorem insertStore_error {db : Db} {r : Store} {e : Exn} (h : db.insertStore r = .error e)
    (hid : Clean r.id) (hcode : Clean r.code) (hname : Clean r.name) : Clean e.text := by
  have hp : ∀ x ∈ [Db.quoted r.id, Db.quoted r.code, Db.quoted r.name], Clean x := by
    simp [clean_quoted hid, clean_quoted hcode, clean_quoted hname]
  unfold Db.insertStore at h
  split at h
  · cases h
    exact clean_uniqueViolation (clean_messageTexts _ (by simp [messageTexts]))
      (lacks_statementTexts _ (by simp [statementTexts])) hp
  · split at h <;> cases h
    exact clean_uniqueViolation (clean_messageTexts _ (by simp [messageTexts]))
      (lacks_statementTexts _ (by simp [statementTexts])) hp

theorem insertProduct_error {db : Db} {r : Product} {e : Exn} (h : db.insertProduct r = .error e)
    (hid : Clean r.id) (hsku : Clean r.sku) (hname : Clean r.name) : Clean e.text := by
  have hp : ∀ x ∈ [Db.quoted r.id, Db.quoted r.sku, Db.quoted r.name], Clean x := by
    simp [clean_quoted hid, clean_quoted hsku, clean_quoted hname]
  unfold Db.insertProduct at h
  split at h
  · cases h
    exact clean_uniqueViolation (clean_messageTexts _ (by simp [messageTexts]))
      (lacks_statementTexts _ (by simp [statementTexts])) hp
  · split at h <;> cases h
    exact clean_uniqueViolation (clean_messageTexts _ (by simp [messageTexts]))
      (lacks_statementTexts _ (by simp [statementTexts])) hp

theorem insertDevice_error {db : Db} {r : Device} {e : Exn} (h : db.insertDevice r = .error e)
    (hid : Clean r.id) (hstore : Clean r.storeId) (hname : Clean r.deviceName) : Clean e.text := by
  have hp : ∀ x ∈ [Db.quoted r.id, Db.quoted r.storeId, Db.quoted r.deviceName], Clean x := by
    simp [clean_quoted hid, clean_quoted hstore, clean_quoted hname]
  simp only [Db.insertDevice] at h
  split at h
  · cases h
    exact clean_uniqueViolation (clean_messageTexts _ (by simp [messageTexts]))
      (lacks_statementTexts _ (by simp [statementTexts])) hp
  · split at h <;> cases h
    exact clean_foreignKeyViolation (clean_messageTexts _ (by simp [messageTexts]))
      (clean_messageTexts _ (by simp [messageTexts]))
      (lacks_statementTexts _ (by simp [statementTexts])) hp

theorem deleteStore_error {db : Db} {id : String} {e : Exn} (h : db.deleteStore id = .error e)
    (hid : Clean id) : Clean e.text := by
  have hp : ∀ x ∈ [Db.quoted id], Clean x := by
    simp [clean_quoted hid]
  simp only [Db.deleteStore] at h
  repeat' split at h
  all_goals cases h
  all_goals
    exact clean_foreignKeyViolation (clean_messageTexts _ (by simp [messageTexts]))
      (clean_messageTexts _ (by simp [messageTexts]))
      (lacks_statementTexts _ (by simp [statementTexts])) hp

theorem insertReceipt_error {db : Db} {r : SyncReceipt} {e : Exn}
    (h : db.insertReceipt r = .error e) (hid : Clean r.transactionId)
    (hreason : ∀ x, r.rejectionReason = some x → Clean x) : Clean e.text := by
  have hb : ∀ b : Bool, Clean (toString b)
    | true => clean_messageTexts "true" (by simp [messageTexts])
    | false => clean_messageTexts "false" (by simp [messageTexts])
  have hp : ∀ x ∈ [Db.quoted r.transactionId, toString r.accepted, Db.quotedOpt r.rejectionReason],
      Clean x := by
    simp [clean_quoted hid, hb, clean_quotedOpt hreason]
  unfold Db.insertReceipt at h
  split at h <;> cases h
  exact clean_uniqueViolation (clean_messageTexts _ (by simp [messageTexts]))
      (lacks_statementTexts _ (by simp [statementTexts])) hp

/-- Only the INSERT of a ledger row whose id exists names the primary key. -/
theorem insertLedger_error {db : Db} {r : InventoryTransaction} {e : Exn}
    (h : db.insertLedger r = .error e) (hp : ∀ x ∈ Db.ledgerParams r, Clean x) :
    (db.ledger.get? r.transactionId).isSome ∨ Clean e.text := by
  simp only [Db.insertLedger] at h
  split at h
  · rename_i hsome
    exact .inl hsome
  right
  repeat' split at h
  all_goals cases h
  all_goals
    exact clean_foreignKeyViolation (clean_messageTexts _ (by simp [messageTexts]))
      (clean_messageTexts _ (by simp [messageTexts]))
      (lacks_statementTexts _ (by simp [statementTexts])) hp

/-! ## Stores -/

theorem CleanStores.congr {db db' : Db} (h : CleanStores db) (hs : db'.stores = db.stores) :
    CleanStores db' := fun id hid => h id (hs ▸ hid)

theorem insertStore_clean {db db' : Db} {r : Store} (h : db.insertStore r = .ok db')
    (hs : CleanStores db) (hid : Clean r.id) : CleanStores db' := by
  unfold Db.insertStore at h
  split at h
  · cases h
  · split at h <;> cases h
    intro id hsome
    rw [Table.get?_put] at hsome
    split at hsome
    · rename_i he
      exact he ▸ hid
    · exact hs id hsome

theorem deleteStore_clean {db db' : Db} {id : String} (h : db.deleteStore id = .ok db')
    (hs : CleanStores db) : CleanStores db' := by
  simp only [Db.deleteStore] at h
  repeat' split at h
  all_goals cases h
  intro id' hsome
  rw [Table.get?_erase] at hsome
  split at hsome
  · cases hsome
  · exact hs id' hsome

/-! ## The run of an item

Until the ledger row is inserted the ledger is that of the beginning, `L`. -/

section
variable {F : Exn → Prop} {L : Table InventoryTransaction} {s : Submission}

/-- Nothing is inserted into the ledger `L` yet. -/
def Before (L : Table InventoryTransaction) (c : Conn Db) : Prop :=
  c.work.ledger = L ∧ CleanStores c.work

/-- If `e` is taken for a duplicate key, `L` has the id. -/
def Collides (L : Table InventoryTransaction) (id : String) (e : Exn) : Prop :=
  isInventoryTransactionsPkeyCollision e = true → (L.get? id).isSome

theorem collides_of_clean {id : String} {e : Exn} (h : Clean e.text) : Collides L id e := by
  intro hc
  rw [not_collision_of_clean h] at hc
  cases hc

variable {id : String} (hF : ∀ e, F e → Collides L id e)
include hF

theorem isKnown_triple (b : Bool) (holds : Db → Bool) :
    Triple F (Before L) (isKnown b holds) (fun _ => Before L) (Collides L id) := by
  unfold isKnown
  split
  · exact .ret fun _ h => h
  · exact .select hF fun _ h => h

theorem insertStore_triple (r : Store) (hid : Clean r.id) (hcode : Clean r.code)
    (hname : Clean r.name) :
    Triple F (Before L) (execute (·.insertStore r)) (fun _ => Before L) (Collides L id) := by
  refine .execute hF (fun c w hc hw => ?_) fun c e _ he => ?_
  · exact ⟨(insertStore_frame hw).ledger.trans hc.1, insertStore_clean hw hc.2 hid⟩
  · exact collides_of_clean (insertStore_error he hid hcode hname)

theorem deleteStore_triple {store : String} (hid : Clean store) :
    Triple F (Before L) (execute (·.deleteStore store)) (fun _ => Before L) (Collides L id) := by
  refine .execute hF (fun c w hc hw => ?_) fun c e _ he => ?_
  · exact ⟨(deleteStore_frame hw).ledger.trans hc.1, deleteStore_clean hw hc.2⟩
  · exact collides_of_clean (deleteStore_error he hid)

theorem createStore_triple (hpy : py.Conforms) (env : Env) {store : String} (hid : Clean store) :
    Triple F (Before L) (createStore py env store) (fun _ => Before L) (Collides L id) := by
  have hraw : Clean (strip store) := clean_of_part hid (toList_strip_part store)
  unfold createStore
  extract_lets rawId suffix targetCode autoStore aliasCode
  have hsuffix : Clean suffix := by
    simp only [suffix]
    split
    · exact clean_of_part hraw (toList_dropFirst_part 6 _)
    · exact hraw
  have hname : Clean autoStore.name := clean_autoStoreName hsuffix hid
  have hcode : Clean autoStore.code :=
    Lacks.orElse (clean_of_part (clean_upper hpy _) (toList_strip_part _)) (clean_upper hpy _)
  have halias : Clean aliasCode := clean_upper hpy _
  have hauto := insertStore_triple (L := L) hF autoStore hid hcode hname
  have haliased := insertStore_triple (L := L) hF { autoStore with code := aliasCode } hid halias
    hname
  clear_value autoStore aliasCode targetCode
  refine .seq (R := fun _ => Before L) (.select hF fun _ h => h) fun owner => ?_
  split
  · exact hauto
  rename_i owner' _
  refine .seq (R := fun o c => Before L c ∧ o = c.work.stores.get? owner')
    (.select hF fun _ h => ⟨h, rfl⟩) fun existing => ?_
  split
  · rename_i existing
    have hexisting : ∀ c, Before L c ∧ some existing = c.work.stores.get? owner' →
        Clean existing.id := by
      intro c hc
      have hkey : existing.id = owner' := Table.key_of_get? hc.2.symm
      refine hc.1.2 _ ?_
      rw [hkey, ← hc.2]
      rfl
    refine Triple.assume fun c hc => Triple.pre (P := Before L) ?_ fun _ he => he ▸ hc.1
    split
    · refine .seq (deleteStore_triple hF (hexisting c hc)) fun _ => hauto
    · exact haliased
  · exact haliased.pre fun _ h => h.1

theorem provisionStore_triple (hpy : py.Conforms) (env : Env) (c : Option IngestPrefetch)
    {store : String} (hid : Clean store) :
    Triple F (Before L) (provisionStore py env c store) (fun _ => Before L) (Collides L id) := by
  refine .seq (isKnown_triple hF _ _) fun known => ?_
  split
  · exact .ret fun _ h => h
  · exact createStore_triple hF hpy env hid

theorem createProduct_triple (env : Env) (hhex : Clean env.productHex) {product : String}
    (hid : Clean product) :
    Triple F (Before L) (createProduct env product) (fun _ => Before L) (Collides L id) := by
  have htoken : Clean (takeFirst 80 product) := clean_takeFirst 80 hid
  have hoffline : ∀ {x : String}, Clean x → Clean ("OFFLINE-" ++ x) :=
    clean_behind (a := "OFFLINE".toList) (by simp) (clean_messageTexts _ (by simp [messageTexts]))
  unfold createProduct
  extract_lets skuToken targetSku
  refine .seq (R := fun _ => Before L) (.select hF fun _ h => h) fun owner => ?_
  extract_lets sku
  have hsku : Clean sku := by
    simp only [sku]
    split
    · exact clean_dash (hoffline (clean_takeFirst 70 htoken)) hhex
    · exact hoffline htoken
  have hname : Clean ("OFFLINE-PROD-" ++ takeFirst 70 skuToken) :=
    clean_behind (a := "OFFLINE-PROD".toList) (by simp)
      (clean_messageTexts _ (by simp [messageTexts])) (clean_takeFirst 70 htoken)
  refine .execute hF (fun c w hc hw => ?_) fun c e _ he => ?_
  · refine ⟨(insertProduct_frame hw).ledger.trans hc.1, hc.2.congr ?_⟩
    unfold Db.insertProduct at hw
    split at hw <;> [cases hw; split at hw] <;> cases hw
    rfl
  · exact collides_of_clean (insertProduct_error he hid hsku hname)

theorem provisionProduct_triple (env : Env) (hhex : Clean env.productHex)
    (c : Option IngestPrefetch) {product : String} (hid : Clean product) :
    Triple F (Before L) (provisionProduct env c product) (fun _ => Before L) (Collides L id) := by
  refine .seq (isKnown_triple hF _ _) fun known => ?_
  split
  · exact .ret fun _ h => h
  · exact createProduct_triple hF env hhex hid

theorem provisionDevice_triple (c : Option IngestPrefetch) {device store : String}
    (hid : Clean device) (hstore : Clean store) :
    Triple F (Before L) (provisionDevice c device store) (fun _ => Before L) (Collides L id) := by
  have hlit : "Auto Device (".toList = "Auto Device ".toList ++ ['('] := by simp
  have hname : Clean ("Auto Device (" ++ takeFirst 12 device ++ ")") := by
    have htext : ("Auto Device (" ++ takeFirst 12 device ++ ")").toList =
        "Auto Device ".toList ++ '(' :: ((takeFirst 12 device).toList ++ [')']) := by
      simp only [String.toList_append, hlit, List.append_assoc, List.cons_append, List.nil_append]
      rfl
    unfold Clean
    rw [htext]
    exact Lacks.append_cons (separates _ (by simp)) (clean_messageTexts _ (by simp [messageTexts]))
      (Lacks.concat markers_ne (separates _ (by simp)) (clean_takeFirst 12 hid))
  refine .seq (isKnown_triple hF _ _) fun known => ?_
  split
  · exact .ret fun _ h => h
  · refine .execute hF (fun c w hc hw => ?_) fun c e _ he => ?_
    · refine ⟨(insertDevice_frame hw).ledger.trans hc.1, hc.2.congr ?_⟩
      simp only [Db.insertDevice] at hw
      split at hw <;> [cases hw; split at hw] <;> cases hw
      rfl
    · exact collides_of_clean (insertDevice_error he hid hstore hname)

/-- The receipt of the payload is the last row that is written. -/
theorem insertReceipt_triple {P : Conn Db → Prop} (hP : ∀ c, P c → CleanStores c.work)
    {r : SyncReceipt} (hid : Clean r.transactionId)
    (hreason : ∀ x, r.rejectionReason = some x → Clean x) :
    Triple F P (execute (·.insertReceipt r)) (fun _ c => CleanStores c.work) (Collides L id) := by
  refine .execute hF (fun c w hc hw => ?_) fun c e _ he => ?_
  · obtain ⟨-, rfl⟩ := insertReceipt_ok hw
    exact hP c hc
  · exact collides_of_clean (insertReceipt_error he hid hreason)

theorem reject_triple {P : Conn Db → Prop} (hP : ∀ c, P c → CleanStores c.work) (env : Env)
    {p : TransactionPayload} {reason : String} (hid : Clean p.transactionId)
    (hreason : Clean reason) :
    Triple F P (reject env p reason) (fun _ c => CleanStores c.work) (Collides L id) := by
  refine .seq (insertReceipt_triple hF hP hid fun x hx => ?_) fun _ => .ret fun _ h => h
  cases hx
  exact hreason

end

/-! ## The rest of an insertion

Once the ledger row is inserted its store and product are known to exist, so that the day book and
the balance fail by faults only. -/

section
variable {F E : Exn → Prop} {p : TransactionPayload}

/-- The ledger row of `p` is inserted. -/
structure Placed (p : TransactionPayload) (c : Conn Db) : Prop where
  clean : CleanStores c.work
  store : (c.work.stores.get? p.storeId).isSome
  product : (c.work.products.get? p.productId).isSome
  ledger : (c.work.ledger.get? p.transactionId).isSome

theorem Placed.congr {c c' : Conn Db} (h : Placed p c) (hs : c'.work.stores = c.work.stores)
    (hp : c'.work.products = c.work.products) (hl : c'.work.ledger = c.work.ledger) :
    Placed p c' := ⟨h.clean.congr hs, hs ▸ h.store, hp ▸ h.product, hl ▸ h.ledger⟩

variable (hF : ∀ e, F e → E e)
include hF

theorem getOrCreateDayBook_triple (env : Env) (d : DateTime) :
    Triple F (Placed p) (getOrCreateDayBook env p.storeId d)
      (fun b c => Placed p c ∧ b ∈ c.work.dayBooks) E := by
  unfold getOrCreateDayBook
  extract_lets day b
  refine .seq (R := fun o c => Placed p c ∧ o = c.work.dayBookOf p.storeId day)
    (.select hF fun _ h => ⟨h, rfl⟩) fun o => ?_
  split
  · exact .ret fun c h => ⟨h.1, List.mem_of_find?_eq_some h.2.symm⟩
  have hinsert : ∀ c, Placed p c → c.work.insertDayBook b =
      .ok { c.work with dayBooks := c.work.dayBooks ++ [b] } := by
    intro c h
    have hn := Option.isSome_iff_ne_none.1 h.store
    simp [Db.insertDayBook, b, hn]
  refine .seq (R := fun _ c => Placed p c ∧ b ∈ c.work.dayBooks) ?_ fun _ => .ret fun _ h => h
  refine .execute hF (fun c w h hw => ?_) fun c e h he => ?_
  · rw [hinsert c h.1] at hw
    cases hw
    exact ⟨h.1.congr rfl rfl rfl, by simp⟩
  · rw [hinsert c h.1] at he
    cases he

theorem recalculateDayBookBalance_triple (b : DayBook) :
    Triple F (Placed p) (recalculateDayBookBalance b) (fun _ => Placed p) E := by
  unfold recalculateDayBookBalance
  refine .seq (R := fun _ => Placed p) (.select hF fun _ h => h) fun total => ?_
  refine .execute hF (fun c w h hw => ?_) fun c e _ he => by cases he
  cases hw
  exact h.congr rfl rfl rfl

theorem addTransactionToDayBook_triple (env : Env) :
    Triple F (Placed p) (addTransactionToDayBook env (p.ledgerRow env)) (fun _ => Placed p) E := by
  unfold addTransactionToDayBook
  refine .seq (getOrCreateDayBook_triple hF env _) fun b => ?_
  refine .seq (R := fun _ c => Placed p c ∧ b ∈ c.work.dayBooks)
    (.select hF fun _ h => h) fun o => ?_
  split
  · exact .ret fun _ h => h.1
  extract_lets e
  have hinsert : ∀ c, Placed p c → b ∈ c.work.dayBooks → c.work.insertDayBookEntry e =
      .ok { c.work with entries := c.work.entries ++ [e] } := by
    intro c h hb
    have hbook : c.work.dayBooks.any (fun x => x.id = b.id) = true :=
      List.any_eq_true.2 ⟨b, hb, by simp⟩
    have hl := Option.isSome_iff_ne_none.1 h.ledger
    have hp := Option.isSome_iff_ne_none.1 h.product
    simp [Db.insertDayBookEntry, e, hbook, hl, hp, TransactionPayload.ledgerRow]
  refine .seq (R := fun _ => Placed p) ?_ fun _ =>
    .seq (recalculateDayBookBalance_triple hF b) fun _ => .ret fun _ h => h
  refine .execute hF (fun c w h hw => ?_) fun c e h he => ?_
  · rw [hinsert c h.1 h.2] at hw
    cases hw
    exact h.1.congr rfl rfl rfl
  · rw [hinsert c h.1 h.2] at he
    cases he

theorem upsertStockBalance_triple (id : String) (delta : Int) (now : DateTime) :
    Triple F (Placed p) (execute (·.upsertStockBalance id p.stock delta now))
      (fun _ c => CleanStores c.work) E := by
  have hok : ∀ c, Placed p c → ∃ w, c.work.upsertStockBalance id p.stock delta now = .ok w ∧
      Masters c.work w := fun c h =>
    eval_upsertStockBalance c.work id p.stock delta now (.inr ⟨h.store, h.product⟩)
  refine .execute hF (fun c w h hw => ?_) fun c e h he => ?_
  · obtain ⟨w', hw', hm⟩ := hok c h
    rw [hw'] at hw
    cases hw
    exact h.clean.congr hm.stores
  · obtain ⟨w', hw', -⟩ := hok c h
    rw [hw'] at he
    cases he

end

/-! ## The item -/

section
variable {F : Exn → Prop} {L : Table InventoryTransaction} {s : Submission}
  (hF : ∀ e, F e → Collides L s.payload.transactionId e)
include hF

theorem insertMovement_triple (hs : Plain s) :
    Triple F (Before L) (insertMovement s.env s.payload) (fun _ c => CleanStores c.work)
      (Collides L s.payload.transactionId) := by
  unfold insertMovement
  extract_lets row r
  refine .seq (R := fun _ => Placed s.payload) ?_ fun _ => ?_
  · refine .execute hF (fun c w hc hw => ?_) fun c e hc he => ?_
    · simp only [Db.insertLedger] at hw
      repeat' split at hw
      all_goals cases hw
      rename_i hstore hproduct _
      have hstore : ¬ (c.work.stores.get? s.payload.storeId).isNone := hstore
      have hproduct : ¬ (c.work.products.get? s.payload.productId).isNone := hproduct
      refine ⟨hc.2, ?_, ?_, ?_⟩
      · simpa [Option.isSome_iff_ne_none] using hstore
      · simpa [Option.isSome_iff_ne_none] using hproduct
      · exact Option.isSome_of_eq_some (Table.get?_put_self c.work.ledger row)
    · intro hcol
      rcases insertLedger_error he hs.ledgerParams with h | h
      · exact hc.1 ▸ h
      · rw [not_collision_of_clean h] at hcol
        cases hcol
  refine .seq (addTransactionToDayBook_triple hF s.env) fun _ => ?_
  refine .seq (upsertStockBalance_triple hF _ _ _) fun _ => ?_
  refine .seq (insertReceipt_triple hF (fun _ h => h) hs.transactionId fun x hx => ?_) fun _ =>
    .ret fun _ h => h
  cases hx

theorem checkAndInsert_triple (hs : Plain s) :
    Triple F (Before L) (checkAndInsert s.env s.payload) (fun _ c => CleanStores c.work)
      (Collides L s.payload.transactionId) := by
  unfold checkAndInsert
  split
  · refine .seq (R := fun _ => Before L) (.select hF fun _ h => h) fun current => ?_
    split
    · exact reject_triple hF (fun _ h => h.2) s.env hs.transactionId
        (clean_insufficientStock _ _)
    · exact insertMovement_triple hF hs
  · exact insertMovement_triple hF hs

omit hF in
theorem clean_validatePayload (hpy : py.Conforms) {p : TransactionPayload} {reason : String}
    (h : validatePayload py p = some reason) : Clean reason := by
  unfold validatePayload at h
  repeat' split at h
  all_goals cases h
  all_goals first | (apply clean_messageTexts; simp [messageTexts]; done) | skip
  unfold Clean
  rw [String.toList_append]
  exact Lacks.append_of_heads (by simp [pkeyMarkers]) hpy.repr

theorem ingestNew_triple (hpy : py.Conforms) (hs : Plain s) (c : Option IngestPrefetch) :
    Triple F (Before L) (ingestNew py s.env c s.payload) (fun _ c => CleanStores c.work)
      (Collides L s.payload.transactionId) := by
  unfold ingestNew
  split
  · rename_i reason hreason
    exact reject_triple hF (fun _ h => h.2) s.env hs.transactionId
      (clean_validatePayload hpy hreason)
  · refine .seq (provisionStore_triple hF hpy s.env c hs.storeId) fun _ => ?_
    refine .seq (provisionProduct_triple hF s.env hs.productHex c hs.productId) fun _ => ?_
    refine .seq (provisionDevice_triple hF c hs.deviceId hs.storeId) fun _ => ?_
    exact checkAndInsert_triple hF hs

omit hF in
theorem upsertStockBalance_stores {db w : Db} {id : String} {k : StockKey} {d : Int}
    {now : DateTime} (h : db.upsertStockBalance id k d now = .ok w) : w.stores = db.stores := by
  simp only [Db.upsertStockBalance] at h
  repeat' split at h
  all_goals cases h
  all_goals rfl

omit hF in
theorem editLedgerRow_triple {E : Exn → Prop} (hE : ∀ e, E e) (env : Env)
    (p : TransactionPayload) (row : InventoryTransaction) :
    Triple F (fun c => CleanStores c.work) (editLedgerRow env p row)
      (fun _ c => CleanStores c.work) E := by
  unfold editLedgerRow
  split
  · refine .seq (R := fun _ c => CleanStores c.work) ?_ fun _ => ?_
    · exact .execute (fun e _ => hE e)
        (fun c w hc hw => hc.congr (upsertStockBalance_stores hw)) fun _ e _ _ => hE e
    · refine .execute (fun e _ => hE e) (fun c w hc hw => ?_) fun _ e _ _ => hE e
      cases hw
      exact hc
  · exact .ret fun _ h => h

theorem lookupReceipt_triple {P : Conn Db → Prop} (c : Option IngestPrefetch) (id : String) :
    Triple F P (lookupReceipt c id) (fun _ => P) (Collides L s.payload.transactionId) := by
  unfold lookupReceipt
  split
  · exact .select hF fun _ h => h
  · split
    · exact .ret fun _ h => h
    · split
      · exact .ret fun _ h => h
      · exact .select hF fun _ h => h

theorem ledgerFirst_triple (hsome : (L.get? s.payload.transactionId).isSome) (env : Env)
    (c : Option IngestPrefetch) (p : TransactionPayload) (row : InventoryTransaction) :
    Triple F (fun c => CleanStores c.work) (ledgerFirst env c p row)
      (fun _ c => CleanStores c.work) (Collides L s.payload.transactionId) := by
  have hE : ∀ e, Collides L s.payload.transactionId e := fun _ _ => hsome
  unfold ledgerFirst
  refine .seq (editLedgerRow_triple hE env p row) fun _ => ?_
  refine .seq (lookupReceipt_triple hF c _) fun o => ?_
  split
  · split
    · exact .ret fun _ h => h
    · refine .seq (R := fun _ c => CleanStores c.work) ?_ fun _ => .ret fun _ h => h
      refine .execute hF (fun c w hc hw => ?_) fun _ e _ _ => hE e
      cases hw
      exact hc
  · extract_lets r
    refine .seq (R := fun _ c => CleanStores c.work) ?_ fun _ => .ret fun _ h => h
    refine .execute hF (fun c w hc hw => ?_) fun _ e _ _ => hE e
    obtain ⟨-, rfl⟩ := insertReceipt_ok hw
    exact hc

theorem retryStale_triple (hpy : py.Conforms) (hs : Plain s) (c : Option IngestPrefetch) :
    Triple F (Before L) (retryStale py s.env c s.payload) (fun _ c => CleanStores c.work)
      (Collides L s.payload.transactionId) := by
  unfold retryStale
  refine .seq (R := fun _ => Before L) ?_ fun _ => ingestNew_triple hF hpy hs c
  refine .execute hF (fun c w hc hw => ?_) fun _ e _ he => by cases he
  cases hw
  exact hc

omit hF in
/-- The rollback of a failed check finds nothing to give up. -/
theorem staleCheck_triple (r : SyncReceipt) (p : TransactionPayload) :
    Triple F (fun c => c.work = c.base ∧ Before L c) (staleDomainRejectionShouldRetry r p)
      (fun _ => Before L) (Collides L s.payload.transactionId) := by
  unfold staleDomainRejectionShouldRetry
  split
  · exact .ret fun _ h => h.2
  split
  · exact .ret fun _ h => h.2
  refine .seq (R := fun _ c => c.work = c.base ∧ Before L c)
    (.attemptSelect (fun _ h => h) fun _ _ h _ => h) fun o => ?_
  split
  · exact .ret fun _ h => h.2
  · refine .seq (R := fun _ => Before L) (.rollback fun c h => ?_) fun _ => .ret fun _ h => h
    unfold Before
    rw [← h.1]
    exact h.2

/-- **What an item may raise**: a duplicate key is about a row of the ledger it started with. -/
theorem impl_triple (hpy : py.Conforms) (hs : Plain s) (c : Option IngestPrefetch) :
    Triple F (fun c => c.work = c.base ∧ Before L c) (ingestTransactionImpl py s.env s.payload c)
      (fun _ c => CleanStores c.work) (Collides L s.payload.transactionId) := by
  have hruntime : ∀ e : Exn, Collides L s.payload.transactionId
      ⟨"RuntimeError", "_ingest_transaction_impl step 1a SELECT failed: " ++ e.type ++ ": " ++
        e.text⟩ := by
    intro e hcol
    simp [isInventoryTransactionsPkeyCollision] at hcol
  unfold ingestTransactionImpl
  refine .seq (R := fun o c => (c.work = c.base ∧ Before L c) ∧
    ∀ row, o = some row → (L.get? s.payload.transactionId).isSome) ?_ fun o => ?_
  · unfold selectLedgerRow
    split
    · exact .ret fun _ h => ⟨h, fun _ he => by cases he⟩
    · refine .mapError (.select (fun e _ => hruntime e) fun c h => ⟨h, fun row hrow => ?_⟩)
      rw [← h.2.1, hrow]
      rfl
  split
  · rename_i row
    refine Triple.assume fun c hc => ?_
    refine Triple.pre (P := fun c => CleanStores c.work) ?_ fun _ he => he ▸ hc.1.2.2
    exact .seq (ledgerFirst_triple hF (hc.2 row rfl) s.env _ _ row) fun _ => .ret fun _ h => h
  refine Triple.pre (P := fun c => c.work = c.base ∧ Before L c) ?_ fun _ h => h.1
  refine .seq (lookupReceipt_triple hF c _) fun o => ?_
  split
  · exact (ingestNew_triple hF hpy hs c).pre fun _ h => h.2
  split
  · exact .ret fun _ h => h.2.2
  split
  · exact (retryStale_triple hF hpy hs c).pre fun _ h => h.2
  refine .seq (staleCheck_triple _ _) fun a => ?_
  split
  · exact retryStale_triple hF hpy hs c
  · exact .ret fun _ h => h.2
  · exact .ret fun _ h => h.2

end

/-- **A duplicate key is one**: an exception of a plain payload that is taken for a duplicate key of
the ledger comes from an id that the ledger has. -/
theorem collision_ledger {F : Exn → Prop} (hpy : py.Conforms)
    (hF : ∀ e, F e → isInventoryTransactionsPkeyCollision e = false) {s : Submission}
    (hs : Plain s) {db : Db} (hdb : CleanStores db) {c : Option IngestPrefetch} {e : Exn}
    {cn : Conn Db}
    (h : (ingestTransactionImpl py s.env s.payload c).Yields F ⟨db, db⟩ (.error e) cn)
    (hcol : isInventoryTransactionsPkeyCollision e = true) :
    (db.ledger.get? s.payload.transactionId).isSome := by
  have hF' : ∀ e, F e → Collides db.ledger s.payload.transactionId e := by
    intro e he hc
    rw [hF e he] at hc
    cases hc
  exact (impl_triple hF' hpy hs c).error ⟨rfl, rfl, hdb⟩ h hcol

theorem cleanStores_impl {F : Exn → Prop} (hpy : py.Conforms)
    (hF : ∀ e, F e → isInventoryTransactionsPkeyCollision e = false) {s : Submission}
    (hs : Plain s) {db : Db} (hdb : CleanStores db) {c : Option IngestPrefetch} {ret : Returned}
    {cn : Conn Db}
    (h : (ingestTransactionImpl py s.env s.payload c).Yields F ⟨db, db⟩ (.ok ret) cn) :
    CleanStores cn.work := by
  have hF' : ∀ e, F e → Collides db.ledger s.payload.transactionId e := by
    intro e he hc
    rw [hF e he] at hc
    cases hc
  exact (impl_triple hF' hpy hs c).ok ⟨rfl, rfl, hdb⟩ h

end Server
