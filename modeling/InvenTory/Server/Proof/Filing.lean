import InvenTory.Server.Proof.Books
import InvenTory.Server.Proof.Movements

/-!
# Entries and their books

A session files an entry in a book that begins on the event's own day, the day between two midnights
of the event's offset. `keys` tells for which store and midnight each key of a book was drawn, so that
the book of an entry is known from the entry alone (`Filed`). If the books of a store that begin on
the own day of an event contain the event when its entry is inserted (`fitting`), every entry that is
ever committed is in a book that contains it, whatever the sessions do in between (`requests_files`).
-/

namespace Server

open Relational Sql Sql.Prog

variable {ι : Type}

/-- The day that begins at `d` contains the time `t`. -/
def DateTime.DayHolds (d t : DateTime) : Prop :=
  d.instant ≤ t.instant ∧ t.instant < d.instant + DateTime.day

instance : DecidableRel DateTime.DayHolds := fun d t => by
  unfold DateTime.DayHolds
  infer_instance

/-- `d` is on the own day of `t`. -/
def DateTime.OnDayOf (t d : DateTime) : Prop := t.startOfDay.DayHolds d

instance : DecidableRel DateTime.OnDayOf := fun t d => by
  unfold DateTime.OnDayOf
  infer_instance

/-- An entry is inserted when the books of its store that begin on the event's own day contain the
event. -/
def Fitting (db : Db) (e : DayBookEntry) : Prop :=
  ∀ r, db.ledger.get? e.transactionId = some r → ∀ b ∈ db.dayBooks, b.storeId = r.storeId →
    e.occurredAt.OnDayOf b.bookDate → b.bookDate.DayHolds e.occurredAt

/-- Books have the keys that were drawn for them, and every entry is in a book that contains it. -/
structure Filed (keys : String → String × DateTime) (db : Db) : Prop where
  drawn : ∀ b ∈ db.dayBooks, keys b.id = (b.storeId, b.bookDate)
  book : ∀ e ∈ db.entries, ∃ b ∈ db.dayBooks, b.id = e.dayBookId
  holds : ∀ e ∈ db.entries, (keys e.dayBookId).2.DayHolds e.occurredAt

variable {keys : String → String × DateTime} {db db' : Db}

theorem SameBooks.filed (h : SameBooks db db') (hf : Filed keys db) : Filed keys db' where
  drawn := by
    rw [h.dayBooks]
    exact hf.drawn
  book := by
    rw [h.dayBooks, h.entries]
    exact hf.book
  holds := by
    rw [h.entries]
    exact hf.holds

/-! ## Statements -/

/-- The statements that insert neither a book nor an entry. -/
inductive PlainStatement : (Db → Except Exn Db) → Prop
  | insertStore (r : Store) : PlainStatement (·.insertStore r)
  | deleteStore (id : String) : PlainStatement (·.deleteStore id)
  | insertProduct (r : Product) : PlainStatement (·.insertProduct r)
  | insertDevice (r : Device) : PlainStatement (·.insertDevice r)
  | insertLedger (r : InventoryTransaction) : PlainStatement (·.insertLedger r)
  | updateLedger (r : InventoryTransaction) : PlainStatement fun db => .ok (db.updateLedger r)
  | insertReceipt (r : SyncReceipt) : PlainStatement (·.insertReceipt r)
  | updateReceipt (r : SyncReceipt) : PlainStatement fun db => .ok (db.updateReceipt r)
  | deleteReceipt (id : String) : PlainStatement fun db => .ok (db.deleteReceipt id)
  | upsertStockBalance (id : String) (k : StockKey) (delta : Int) (now : DateTime) :
    PlainStatement (·.upsertStockBalance id k delta now)
  | setOpeningBalance (id : String) (total : Int) :
    PlainStatement fun db => .ok (db.setOpeningBalance id total)

/-- With a store go its books and their entries. -/
theorem deleteStore_filed {id : String} (h : Filed keys db) (hok : db.deleteStore id = .ok db') :
    Filed keys db' := by
  obtain ⟨-, -, -, -, rfl⟩ := deleteStore_ok hok
  refine ⟨fun b hb => h.drawn b (List.mem_of_mem_filter hb), fun e he => ?_,
    fun e he => h.holds e (List.mem_of_mem_filter he)⟩
  obtain ⟨he, hkept⟩ := List.mem_filter.1 he
  obtain ⟨b, hb, hid⟩ := h.book e he
  refine ⟨b, List.mem_filter.2 ⟨hb, decide_eq_true fun hstore => ?_⟩, hid⟩
  refine of_decide_eq_true hkept (List.mem_map.2 ⟨b, List.mem_filter.2 ⟨hb, ?_⟩, hid⟩)
  exact decide_eq_true hstore

theorem setOpeningBalance_filed (h : Filed keys db) (id : String) (total : Int) :
    Filed keys (db.setOpeningBalance id total) := by
  refine ⟨fun b hb => ?_, fun e he => ?_, h.holds⟩
  · obtain ⟨x, hx, rfl⟩ := List.mem_map.1 hb
    split
    · exact h.drawn x hx
    · exact h.drawn x hx
  · obtain ⟨b, hb, hid⟩ := h.book e he
    refine ⟨_, List.mem_map.2 ⟨b, hb, rfl⟩, ?_⟩
    split
    · exact hid
    · exact hid

theorem PlainStatement.filed {f : Db → Except Exn Db} (hf : PlainStatement f) (h : Filed keys db)
    (hok : f db = .ok db') : Filed keys db' := by
  cases hf with
  | insertStore r =>
    obtain ⟨-, -, rfl⟩ := insertStore_ok hok
    exact ⟨h.drawn, h.book, h.holds⟩
  | deleteStore id => exact deleteStore_filed h hok
  | insertProduct r =>
    obtain ⟨-, -, rfl⟩ := insertProduct_ok hok
    exact ⟨h.drawn, h.book, h.holds⟩
  | insertDevice r =>
    obtain ⟨-, -, rfl⟩ := insertDevice_ok hok
    exact ⟨h.drawn, h.book, h.holds⟩
  | insertLedger r =>
    obtain ⟨-, rfl⟩ := insertLedger_ok hok
    exact ⟨h.drawn, h.book, h.holds⟩
  | updateLedger r =>
    cases hok
    exact ⟨h.drawn, h.book, h.holds⟩
  | insertReceipt r =>
    obtain ⟨-, rfl⟩ := insertReceipt_ok hok
    exact ⟨h.drawn, h.book, h.holds⟩
  | updateReceipt r =>
    cases hok
    exact ⟨h.drawn, h.book, h.holds⟩
  | deleteReceipt id =>
    cases hok
    exact ⟨h.drawn, h.book, h.holds⟩
  | upsertStockBalance id k delta now => exact (upsertStockBalance_books hok).filed h
  | setOpeningBalance id total =>
    cases hok
    exact setOpeningBalance_filed h id total

theorem insertDayBook_filed {b : DayBook} (hb : keys b.id = (b.storeId, b.bookDate))
    (h : Filed keys db) (hok : db.insertDayBook b = .ok db') : Filed keys db' := by
  obtain ⟨-, rfl⟩ := insertDayBook_ok hok
  refine ⟨fun x hx => ?_, fun e he => ?_, h.holds⟩
  · rcases List.mem_append.1 hx with hx | hx
    · exact h.drawn x hx
    · rw [List.mem_singleton.1 hx]
      exact hb
  · obtain ⟨x, hx, hid⟩ := h.book e he
    exact ⟨x, List.mem_append_left _ hx, hid⟩

theorem insertDayBookEntry_filed {e : DayBookEntry}
    (he : (keys e.dayBookId).2.DayHolds e.occurredAt) (h : Filed keys db)
    (hok : db.insertDayBookEntry e = .ok db') : Filed keys db' := by
  obtain ⟨hbook, -, -, rfl⟩ := insertDayBookEntry_ok hok
  refine ⟨h.drawn, fun x hx => ?_, fun x hx => ?_⟩
  · rcases List.mem_append.1 hx with hx | hx
    · exact h.book x hx
    · rw [List.mem_singleton.1 hx]
      exact hbook
  · rcases List.mem_append.1 hx with hx | hx
    · exact h.holds x hx
    · rw [List.mem_singleton.1 hx]
      exact he

/-! ## Logs -/

/-- The statements of the log keep the filing. -/
def Files (keys : String → String × DateTime) (l : Log Exn Db) : Prop :=
  ∀ db db', Filed keys db → replay l db = .ok db' → Filed keys db'

theorem Files.nil : Files keys [] := fun _ _ h hr => by
  cases hr
  exact h

theorem Files.concat {l : Log Exn Db} {f : Db → Except Exn Db} (h : Files keys l)
    (hf : ∀ db db', Filed keys db → f db = .ok db' → Filed keys db') : Files keys (l ++ [f]) := by
  intro db db' hdb hr
  obtain ⟨v, hv, hfv⟩ := replay_concat_ok hr
  exact hf v db' (h db v hdb hv) hfv

theorem Files.plain (f : Db → Except Exn Db) (l : Log Exn Db) (hf : PlainStatement f)
    (h : Files keys l) : Files keys (l ++ [f]) := h.concat fun _ _ => hf.filed

/-- After the statements of the log the ledger has the row `r`. -/
def HasRow (r : InventoryTransaction) (l : Log Exn Db) : Prop :=
  ∀ db db', replay l db = .ok db' → db'.ledger.get? r.transactionId = some r

theorem HasRow.side {r : InventoryTransaction} (f : Db → Except Exn Db) (l : Log Exn Db)
    (hf : SideStatement f) (h : HasRow r l) : HasRow r (l ++ [f]) := by
  intro db db' hr
  obtain ⟨v, hv, hfv⟩ := replay_concat_ok hr
  rw [(hf.keeps hfv).1]
  exact h db v hv

theorem hasRow_insertLedger (r : InventoryTransaction) (l : Log Exn Db) :
    HasRow r (l ++ [(·.insertLedger r)]) := by
  intro db db' hr
  obtain ⟨v, hv, hfv⟩ := replay_concat_ok hr
  obtain ⟨-, rfl⟩ := insertLedger_ok hfv
  exact Table.get?_put_self _ r

/-! ## The code without the day book -/

section
variable {py : Python} {env : Env}

theorem isKnown_plain (cached : Bool) (holds : Db → Bool) :
    (isKnown.code cached holds).All PlainStatement := ⟨fun _ => trivial, fun _ => trivial⟩

theorem createStore_plain (id : String) : (createStore.code py env id).All PlainStatement := by
  refine ⟨trivial, fun owner => ?_⟩
  dsimp only
  generalize Option.filter _ owner = owner
  cases owner with
  | none => exact PlainStatement.insertStore _
  | some owner =>
    refine ⟨trivial, fun existing => ?_⟩
    cases existing with
    | none => exact PlainStatement.insertStore _
    | some existing =>
      exact ⟨fun _ => ⟨PlainStatement.deleteStore _, fun _ => PlainStatement.insertStore _⟩,
        fun _ => PlainStatement.insertStore _⟩

theorem provisionStore_plain (c : Option IngestPrefetch) (id : String) :
    (provisionStore.code py env c id).All PlainStatement :=
  ⟨isKnown_plain _ _, fun _ => ⟨fun _ => trivial, fun _ => createStore_plain id⟩⟩

theorem provisionProduct_plain (c : Option IngestPrefetch) (id : String) :
    (provisionProduct.code env c id).All PlainStatement :=
  ⟨isKnown_plain _ _, fun _ => ⟨fun _ => trivial, fun _ =>
    ⟨trivial, fun _ => PlainStatement.insertProduct _⟩⟩⟩

theorem provisionDevice_plain (c : Option IngestPrefetch) (id storeId : String) :
    (provisionDevice.code c id storeId).All PlainStatement :=
  ⟨isKnown_plain _ _, fun _ => ⟨fun _ => trivial, fun _ => PlainStatement.insertDevice _⟩⟩

theorem reject_plain (p : TransactionPayload) (reason : String) :
    (reject.code env p reason).All PlainStatement :=
  ⟨PlainStatement.insertReceipt _, fun _ => trivial⟩

theorem selectLedgerRow_plain (c : Option IngestPrefetch) (id : String) :
    (selectLedgerRow.code c id).All PlainStatement := ⟨fun _ => trivial, fun _ => trivial⟩

theorem lookupReceipt_plain (c : Option IngestPrefetch) (id : String) :
    (lookupReceipt.code c id).All PlainStatement := by
  unfold lookupReceipt.code
  delta lookupReceipt
  simp only [id_eq]
  cases c with
  | none => trivial
  | some c =>
    dsimp only
    cases c.receiptByTx id with
    | none => trivial
    | some snap => exact ⟨fun _ => trivial, fun _ => trivial⟩

theorem editLedgerRow_plain {R : Prop} (p : TransactionPayload) (row : InventoryTransaction) :
    (editLedgerRow.code env R p row).All PlainStatement :=
  ⟨fun _ => ⟨PlainStatement.upsertStockBalance .., fun _ => PlainStatement.updateLedger _⟩,
    fun _ => trivial⟩

theorem staleCheck_plain (r : SyncReceipt) (p : TransactionPayload) :
    (staleDomainRejectionShouldRetry.code r p).All PlainStatement := by
  unfold staleDomainRejectionShouldRetry.code
  delta staleDomainRejectionShouldRetry
  simp only [id_eq]
  cases r.rejectionReason.bind matchInsufficientStock with
  | none => trivial
  | some n =>
    refine ⟨fun _ => trivial, fun _ => ⟨trivial, fun o => ?_⟩⟩
    cases o with
    | ok _ => trivial
    | error _ => exact ⟨trivial, fun _ => trivial⟩

theorem recalculate_plain (b : DayBook) :
    (recalculateDayBookBalance.code b).All PlainStatement :=
  ⟨trivial, fun _ => PlainStatement.setOpeningBalance _ _⟩

theorem ensureAcceptedReceipt_plain (id : String) :
    (ensureAcceptedReceipt.code env id).All PlainStatement := by
  refine ⟨trivial, fun existing => ?_⟩
  cases existing with
  | none => exact ⟨PlainStatement.insertReceipt _, fun _ => trivial⟩
  | some _ => exact ⟨PlainStatement.updateReceipt _, fun _ => trivial⟩

theorem persistRejection_plain (id : String) (exc : Exn) :
    (persistRejection.code env id exc).All PlainStatement := by
  refine ⟨trivial, fun existing => ?_⟩
  rcases existing with _ | _ | _
  · exact ⟨PlainStatement.insertReceipt _, fun _ => trivial⟩
  · exact ⟨PlainStatement.insertReceipt _, fun _ => trivial⟩
  · exact ⟨PlainStatement.updateReceipt _, fun _ => trivial⟩

theorem handleError_plain (s : Submission) (exc : Exn) :
    (handleError.code s exc).All PlainStatement := by
  refine ⟨fun _ => ⟨ensureAcceptedReceipt_plain _, fun o => ?_⟩,
    fun _ => ⟨persistRejection_plain _ _, fun o => ?_⟩⟩
  · cases o <;> trivial
  · cases o <;> trivial

end

/-! ## Sessions -/

/-- Nobody is relied on. -/
def anyone : Party Db := ⟨fun _ _ => True, fun _ _ => True, fun _ => trivial, fun _ _ => trivial⟩

/-- A session that returns has kept the filing. -/
def Filing {α : Type} (keys : String → String × DateTime) (r : Except Exn α) (l : Log Exn Db)
    (_ : Db) : Prop := ∀ a, r = .ok a → Files keys l

theorem filing_error {α : Type} (keys : String → String × DateTime) (e : Exn) (l : Log Exn Db) (db : Db) :
    Filing (α := α) keys (.error e) l db := fun _ h => by cases h

section
variable {ρ : Rules Exn Db} {env : Env} {py : Python} {l : Log Exn Db} {p : TransactionPayload}

/-- A part of a session without books and entries. -/
theorem plain_meets {α : Type} {prog : Tx α} {S : (Db → Except Exn Db) → Prop} {R : Prop}
    {c : Code S R prog} (hc : c.All PlainStatement) (h : Files keys l) :
    c.script.Meets ρ (Filed keys) anyone (fun _ l _ => Files keys l) l db :=
  hc.only.meets Files.plain (fun _ => Files.nil) h

theorem sidePlain_meets {α : Type} {prog : Tx α} {R : Prop} {c : Code SideStatement False prog}
    (hc : c.All PlainStatement) (h : Files keys l) :
    (sideCode c : Code (ItemStatement env) R prog).script.Meets ρ (Filed keys) anyone
      (fun _ l _ => Files keys l) l db := by
  unfold sideCode
  rw [c.script_mono]
  exact plain_meets hc h

theorem sidePlain_filing {α : Type} {prog : Tx α} {R : Prop} {c : Code SideStatement False prog}
    (hc : c.All PlainStatement) (h : Files keys l) :
    (sideCode c : Code (ItemStatement env) R prog).script.Meets ρ (Filed keys) anyone
      (Filing keys) l db :=
  (sidePlain_meets hc h).mono fun _ _ _ _ hl _ _ => hl

/-- The book that is found or made begins on the own day of the row. -/
theorem getOrCreateDayBook_meets {tx : InventoryTransaction}
    (hkey : keys env.dayBookId = (tx.storeId, tx.occurredAt.startOfDay)) (h : Files keys l)
    (hrow : HasRow tx l) :
    (getOrCreateDayBook.code env tx.storeId tx.occurredAt).script.Meets ρ (Filed keys) anyone
      (fun r l _ => ∀ b, r = .ok b → Files keys l ∧ HasRow tx l ∧
        keys b.id = (tx.storeId, b.bookDate) ∧ tx.occurredAt.OnDayOf b.bookDate) l db := by
  have hQ : ∀ (e : Exn) (l : Log Exn Db) (_ : Db), ∀ b : DayBook, Except.error e = Except.ok b →
      Files keys l ∧ HasRow tx l ∧ keys b.id = (tx.storeId, b.bookDate) ∧
        tx.occurredAt.OnDayOf b.bookDate := fun _ _ _ _ h => by cases h
  refine Code.meets_select_seq_ok hQ fun db' _ hi v hv _ => ?_
  cases hb : v.dayBookOf tx.storeId tx.occurredAt.startOfDay with
  | some b =>
    intro _ _ _ b' hb'
    cases hb'
    have hfiled := h db' v hi hv
    have hfound := List.find?_some hb
    obtain ⟨hstore, hon⟩ := of_decide_eq_true hfound
    refine ⟨h, hrow, ?_, hon⟩
    rw [hfiled.drawn b (List.mem_of_find?_eq_some hb), hstore]
  | none =>
    refine Code.meets_execute_seq_ok hQ fun _ _ _ _ _ _ _ _ => ?_
    intro _ _ _ b' hb'
    cases hb'
    have hday : (0 : Int) < DateTime.day := by decide
    refine ⟨h.concat fun _ _ => insertDayBook_filed hkey, hrow.side _ _ (.insertDayBook _), hkey,
      ⟨le_refl _, ?_⟩⟩
    exact lt_add_of_pos_right _ hday

/-- The entry of a row is filed in a book that contains it, if it is inserted when that fits. -/
theorem addTransactionToDayBook_meets
    (hρ : ∀ e v, ρ.guard (.write fun db => db.insertDayBookEntry e) v → Fitting v e)
    {tx : InventoryTransaction}
    (hkey : keys env.dayBookId = (tx.storeId, tx.occurredAt.startOfDay)) (h : Files keys l)
    (hrow : HasRow tx l) :
    (addTransactionToDayBook.code env tx).script.Meets ρ (Filed keys) anyone (Filing keys) l db := by
  have hQ := filing_error keys (α := DayBookEntry)
  refine Code.meets_seq_ok hQ ((getOrCreateDayBook_meets hkey h hrow).mono fun r l _ _ hr b hb => ?_)
  obtain ⟨hfiles, hrow, hdrawn, hon⟩ := hr b hb
  refine Code.meets_select_seq_ok hQ fun _ _ _ v _ _ => ?_
  cases v.entries.find? (·.transactionId = tx.transactionId) with
  | some e => exact fun _ _ _ _ _ => hfiles
  | none =>
    refine Code.meets_execute_seq_ok hQ fun db' _ hi v hv v' hf hg => ?_
    have hfiled := hfiles db' v hi hv
    obtain ⟨⟨b', hb', hid⟩, -, -, -⟩ := insertDayBookEntry_ok hf
    -- the session still sees the book that it has found or made
    have hsame : keys b.id = (b'.storeId, b'.bookDate) := by
      rw [← hfiled.drawn b' hb', hid]
    obtain ⟨hstore, hdate⟩ := Prod.mk.inj (hsame.symm.trans hdrawn)
    have hholds : b'.bookDate.DayHolds tx.occurredAt :=
      hρ _ _ hg tx (hrow db' v hv) b' hb' hstore (hdate ▸ hon)
    have hentry : (keys b.id).2.DayHolds tx.occurredAt := by
      rw [hsame]
      exact hholds
    have h1 := hfiles.concat fun _ _ => insertDayBookEntry_filed (e := tx.entry env b.id) hentry
    refine Code.meets_seq_ok hQ ((plain_meets (recalculate_plain b) h1).mono fun _ _ _ _ hl _ _ => ?_)
    exact fun _ _ _ _ _ => hl

/-! ## The item -/

section
variable (hρ : ∀ e v, ρ.guard (.write fun db => db.insertDayBookEntry e) v → Fitting v e)
  (hkey : keys env.dayBookId = (p.storeId, p.occurredAt.startOfDay))
include hρ hkey

theorem insertMovement_files {R : Prop} (h : Files keys l) :
    (insertMovement.code env R p).script.Meets ρ (Filed keys) anyone (Filing keys) l db := by
  have hQ := filing_error keys (α := Returned)
  refine Code.meets_execute_seq_ok hQ fun db' _ _ _ _ _ _ _ => ?_
  have h1 := Files.plain _ _ (.insertLedger (p.ledgerRow env)) h
  have hmeets : (addTransactionToDayBook.code env (p.ledgerRow env)).script.Meets ρ (Filed keys) anyone
      (Filing keys) _ db' :=
    addTransactionToDayBook_meets hρ hkey h1 (hasRow_insertLedger (p.ledgerRow env) l)
  rw [← Code.script_mono (fun _ h => (h.any env : ItemStatement env _)) (False.elim : False → R)]
    at hmeets
  refine Code.meets_seq_ok hQ (hmeets.mono fun _ _ _ _ hr e he => ?_)
  refine Code.meets_execute_seq_ok hQ fun _ _ _ _ _ _ _ _ => ?_
  have h2 := Files.plain _ _ (.upsertStockBalance env.balanceId p.stock p.quantityDelta env.now)
    (hr e he)
  refine Code.meets_execute_seq_ok hQ fun _ _ _ _ _ _ _ _ => ?_
  have h3 := Files.plain _ _ (.insertReceipt (makeAcceptedReceipt env p.transactionId)) h2
  exact fun _ _ _ _ _ => h3

theorem checkAndInsert_files {R : Prop} (h : Files keys l) :
    (checkAndInsert.code env R p).script.Meets ρ (Filed keys) anyone (Filing keys) l db := by
  refine Code.meets_cond (fun _ => ?_) fun _ => insertMovement_files hρ hkey h
  refine Code.meets_select_seq_ok (filing_error keys) fun _ _ _ _ _ _ => ?_
  exact Code.meets_cond (fun _ => sidePlain_filing (reject_plain p _) h)
    fun _ => insertMovement_files hρ hkey h

theorem ingestNew_files {R : Prop} {c : Option IngestPrefetch} (h : Files keys l) :
    (ingestNew.code py env R c p).script.Meets ρ (Filed keys) anyone (Filing keys) l db := by
  have hQ := filing_error keys (α := Returned)
  unfold ingestNew.code
  delta ingestNew
  simp only [id]
  generalize validatePayload py p = o
  cases o with
  | some reason => exact sidePlain_filing (reject_plain p _) h
  | none => ?_
  refine Code.meets_seq_ok hQ
    ((sidePlain_meets (provisionStore_plain c _) h).mono fun _ _ _ _ h1 _ _ => ?_)
  refine Code.meets_seq_ok hQ
    ((sidePlain_meets (provisionProduct_plain c _) h1).mono fun _ _ _ _ h2 _ _ => ?_)
  refine Code.meets_seq_ok hQ
    ((sidePlain_meets (provisionDevice_plain c _ _) h2).mono fun _ _ _ _ h3 _ _ => ?_)
  exact checkAndInsert_files hρ hkey h3

theorem retryStale_files {R : Prop} {c : Option IngestPrefetch} (h : Files keys l) :
    (retryStale.code py env R c p).script.Meets ρ (Filed keys) anyone (Filing keys) l db :=
  Code.meets_execute_seq_ok (filing_error keys) fun _ _ _ _ _ _ _ _ =>
    ingestNew_files hρ hkey (Files.plain _ _ (.deleteReceipt p.transactionId) h)

omit hρ hkey in
theorem ledgerFirst_files {R : Prop} {c : Option IngestPrefetch} {row : InventoryTransaction}
    (h : Files keys l) : (ledgerFirst.code env R c p row).script.Meets ρ (Filed keys) anyone
      (Filing keys) l db := by
  have hQ := filing_error keys (α := SyncReceipt)
  refine Code.meets_seq_ok hQ
    ((plain_meets (editLedgerRow_plain p row) h).mono fun _ _ _ _ h1 _ _ => ?_)
  refine Code.meets_seq_ok hQ
    ((sidePlain_meets (lookupReceipt_plain c _) h1).mono fun _ _ _ _ h2 r _ => ?_)
  cases r with
  | some r =>
    refine Code.meets_cond (fun _ _ _ _ _ _ => h2) fun _ => ?_
    refine Code.meets_execute_seq_ok hQ fun _ _ _ _ _ _ _ _ => ?_
    exact fun _ _ _ _ _ => Files.plain _ _ (.updateReceipt _) h2
  | none =>
    refine Code.meets_execute_seq_ok hQ fun _ _ _ _ _ _ _ _ => ?_
    exact fun _ _ _ _ _ => Files.plain _ _ (.insertReceipt _) h2

theorem ingestTransactionImpl_files {c : Option IngestPrefetch} (h : Files keys l) :
    (ingestTransactionImpl.code py env p c).script.Meets ρ (Filed keys) anyone (Filing keys) l
      db := by
  have hQ := filing_error keys (α := Returned)
  refine Code.meets_seq_ok hQ
    ((sidePlain_meets (selectLedgerRow_plain c _) h).mono fun _ _ _ _ h1 row _ => ?_)
  cases row with
  | some row =>
    refine Code.meets_seq_ok hQ ((ledgerFirst_files h1).mono fun _ _ _ _ h2 r hr => ?_)
    exact fun _ _ _ _ _ => h2 r hr
  | none => ?_
  refine Code.meets_seq_ok hQ
    ((sidePlain_meets (lookupReceipt_plain c _) h1).mono fun _ _ _ _ h2 r _ => ?_)
  cases r with
  | none => exact ingestNew_files hρ hkey h2
  | some r =>
    refine Code.meets_cond (fun _ _ _ _ _ _ => h2) fun _ => ?_
    refine Code.meets_cond (fun _ => retryStale_files hρ hkey h2) fun _ => ?_
    refine Code.meets_seq_ok hQ ?_
    rw [Code.script_mono]
    refine (plain_meets (staleCheck_plain r p) h2).mono fun _ _ _ _ h3 a _ => ?_
    cases a with
    | answered retry =>
      cases retry with
      | true => exact retryStale_files hρ hkey h3
      | false => exact fun _ _ _ _ _ => h3
    | rolledBack => exact fun _ _ _ _ _ => h3

end

end

/-! ## Requests -/

section
variable {ρ : Rules Exn Db} {py : Python}
  (hρ : ∀ e v, ρ.guard (.write fun db => db.insertDayBookEntry e) v → Fitting v e)
include hρ

theorem ingestItem_files {c : IngestPrefetch} {s : Submission}
    (hkey : keys s.env.dayBookId = (s.payload.storeId, s.payload.occurredAt.startOfDay)) :
    (ingestItem.code py c s).flow.Meets ρ (Filed keys) anyone (fun _ _ => True) db := by
  have hcommit : ∀ (l : Log Exn Db) (db db' : Db), Filed keys db → Files keys l →
      replay l db = .ok db' → Filed keys db' ∧ anyone.guar db db' :=
    fun l db db' hi hl hr => ⟨hl db db' hi hr, trivial⟩
  have herror : ∀ (exc : Exn) (db : Db), (FlowCode.seq ((handleError.code s exc).mono
      (fun _ h => h.anyStatement) (False.elim : False → True)) fun r =>
        FlowCode.ret (S := AnyStatement) (r, c.record s.payload r)).flow.Meets ρ (Filed keys) anyone
          (fun _ _ => True) db := by
    intro exc db
    refine FlowCode.meets_seq ?_
    rw [FlowCode.flow_mono]
    refine ((handleError_plain s exc).only.meets Files.plain Files.nil hcommit).mono
      fun r _ _ _ => ?_
    cases r with
    | error e => exact fun _ _ _ => trivial
    | ok r => exact fun _ _ _ => trivial
  refine FlowCode.meets_attempt_session_seq ?_
  rw [Code.script_mono]
  refine (ingestTransactionImpl_files hρ hkey Files.nil).mono fun r l db hi hr => ?_
  cases r with
  | error exc => exact herror exc db
  | ok a =>
    refine ⟨fun db' hr' => ?_, fun e _ => herror e db⟩
    obtain ⟨hi', hg⟩ := hcommit l db db' hi (hr a rfl) hr'
    refine ⟨hi', hg, ?_⟩
    cases a with
    | live r => exact fun _ _ _ => trivial
    | expired => exact fun _ _ _ => trivial

theorem ingestItems_files : ∀ {items : List Item} {c : IngestPrefetch} {db : Db},
    (∀ x ∈ items, keys x.2.env.dayBookId =
      (x.2.payload.storeId, x.2.payload.occurredAt.startOfDay)) →
        (ingestItems.code py c items).flow.Meets ρ (Filed keys) anyone (fun _ _ => True) db
  | [], _, _, _ => fun _ _ _ => trivial
  | (i, s) :: rest, c, db, hkeys => by
    refine FlowCode.meets_seq ((ingestItem_files hρ (hkeys _ List.mem_cons_self)).mono
      fun r db' _ _ => ?_)
    cases r with
    | error e => exact fun _ _ _ => trivial
    | ok x =>
      refine FlowCode.meets_seq ((ingestItems_files
        fun y hy => hkeys y (List.mem_cons_of_mem _ hy)).mono fun r _ _ _ => ?_)
      cases r with
      | error e => exact fun _ _ _ => trivial
      | ok rs => exact fun _ _ _ => trivial

theorem ingestBatch_files {subs : List Submission} (hkeys : ∀ s ∈ subs,
    keys s.env.dayBookId = (s.payload.storeId, s.payload.occurredAt.startOfDay)) :
    (ingestBatch.code py subs).flow.Meets ρ (Filed keys) anyone (fun _ _ => True) db := by
  refine FlowCode.meets_cond (fun _ => FlowCode.meets_seq (FlowCode.meets_reading ?_))
    fun _ _ _ _ => trivial
  refine Script.meets_of_post (fun r _ db' db'' _ _ => ?_) _ _ _
  cases r with
  | error e => exact fun _ _ _ => trivial
  | ok c =>
    refine FlowCode.meets_seq ((ingestItems_files hρ fun x hx => hkeys _
      ((processed_perm subs).mem_iff.1 (List.mem_map_of_mem hx))).mono fun r _ _ _ => ?_)
    cases r with
    | error e => exact fun _ _ _ => trivial
    | ok rs => exact fun _ _ _ => trivial

end

/-- `keys` tells for which store and midnight each key of a book is drawn. -/
structure Drawn (keys : String → String × DateTime) (subs : ι → List Submission) (db : Db) :
    Prop where
  books : ∀ b ∈ db.dayBooks, keys b.id = (b.storeId, b.bookDate)
  new : ∀ i, ∀ s ∈ subs i,
    keys s.env.dayBookId = (s.payload.storeId, s.payload.occurredAt.startOfDay)

/-- **Every entry that is committed is in a book that contains it.** -/
theorem requests_files [DecidableEq ι] {L : Type} {locks : Db → Db → L → Prop} {ρ : Rules Exn Db}
    (hρ : ∀ e v, ρ.guard (.write fun db => db.insertDayBookEntry e) v → Fitting v e)
    {py : ι → Python} {subs : ι → List Submission} (hkeys : Drawn keys subs db)
    (h : Filed keys db) {y : Requests ι} (hr : Pool.Reaches ρ locks (requests py subs db) y) :
    Filed keys y.store := by
  have hstart : (requests py subs db).Meets ρ (Filed keys) (fun _ => anyone)
      (fun _ _ _ => True) := ⟨h, fun i => ingestBatch_files hρ (hkeys.new i)⟩
  exact (hstart.reaches (fun _ _ _ _ _ _ => trivial) hr).store

end Server
