import InvenTory.Server.Serving

/-!
# The day books at work

`Bookkeeping F py G db batch` is `Serving` for a server that had no day books either, and that
answers requests for balance sheets between its items.
-/

namespace Server

open Relational Sql Sql.Prog

/-- Nothing was ever ingested, and there are no day books. -/
structure Unbooked (db : Db) : Prop extends EmptyLedger db where
  dayBooks : db.dayBooks = []
  entries : db.entries = []

inductive Bookkeeping (F : Exn → Prop) (py : Python) (G : Db → Submission → Prop) :
    Db → Option (IngestPrefetch × List Item) → Prop
  | start {db : Db} (h : Unbooked db) : Bookkeeping F py G db none
  | request {db : Db} {subs : List Submission} {c : IngestPrefetch}
    (h : Bookkeeping F py G db none) (hs : Sortable subs)
    (hc : (reading (IngestPrefetch.load (subs.map (·.payload)))).Yields F db (.ok c) db) :
    Bookkeeping F py G db (some (c, ordered subs))
  | turn {db db' : Db} {c : IngestPrefetch} {i : Nat} {s : Submission} {rest : List Item}
    {res : Except Exn (SyncReceipt × IngestPrefetch)}
    (h : Bookkeeping F py G db (some (c, (i, s) :: rest))) (hG : G db s)
    (hi : (ingestItem py c s).Yields F db res db') :
    Bookkeeping F py G db' (res.toOption.map fun x => (x.2, rest))
  | respond {db : Db} {c : IngestPrefetch} (h : Bookkeeping F py G db (some (c, []))) :
    Bookkeeping F py G db none
  | balanceSheet {db db' : Db} {batch : Option (IngestPrefetch × List Item)} {now : DateTime}
    {dayBookId : String} {res : Except Exn BalanceSheet} (h : Bookkeeping F py G db batch)
    (hb : (session (generateBalanceSheet now dayBookId)).Yields F db res db') :
    Bookkeeping F py G db' batch

variable {F : Exn → Prop} {py : Python} {G : Db → Submission → Prop}

theorem bookkeeping_batched : Batched F py G (Bookkeeping F py G) := ⟨.request, .turn, .respond⟩

/-- **A call of `ingestBatch` is a run of the machine.** -/
theorem bookkeeping_batch (hG : ∀ db s, G db s) {subs : List Submission} {db db' : Db}
    {res : Except Exn (List SyncReceipt)} (h : Bookkeeping F py G db none)
    (hr : (ingestBatch py subs).Yields F db res db') : Bookkeeping F py G db' none :=
  bookkeeping_batched.batch hG h hr

theorem bookkeeping_pushAll (hG : ∀ db s, G db s) (batches : List (List Submission)) {db : Db}
    (h : Bookkeeping F py G db none) : Bookkeeping F py G (pushAll py db batches).2 none :=
  bookkeeping_batched.pushAll hG batches h

theorem Sample.unbooked : Unbooked Db.empty := ⟨Sample.empty, rfl, rfl⟩

end Server
