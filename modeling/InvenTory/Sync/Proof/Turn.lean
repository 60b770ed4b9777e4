import InvenTory.Lib.Sort
import InvenTory.Sync.PushLoop

/-!
# What an iteration of the push loop does

* `kind_parse`: whether an event can be pushed, and as what, does not change with the time.
* `line_marked`, `line_accepted`: which events are left in the line of live events.
-/

namespace Sync.Wire

variable {rt : Runtime} {now : String} {p : Json}

/-! ## The kind of a message -/

/-- A default for a missing time has a text. -/
theorem isSome_text_orElse (rt : Runtime) (x : Option Json) (s s' : String) :
    ((orElse rt x (.str s)).text rt).isSome = ((orElse rt x (.str s')).text rt).isSome := by
  cases x with
  | none => simp [orElse, Json.text]
  | some j =>
    by_cases h : j.truthy rt = true
    · simp [orElse, h]
    · simp [orElse, h, Json.text]

theorem property_cases (p : Json) :
    p = .null ∨ ∃ f : String → Option Json, ∀ name, p.property name = some (f name) := by
  cases p with
  | null => exact .inl rfl
  | obj fields => exact .inr ⟨fun name => fields.lookup name, fun _ => rfl⟩
  | bool _ | num _ | str _ | arr _ => exact .inr ⟨fun _ => none, fun _ => rfl⟩

/-- Two values that agree in the texts which decide about the item. -/
theorem buildPushItem_congr (rt : Runtime) (p p' : Json) (s s' : String)
    (hsome : ∀ name, (p.property name).isSome = (p'.property name).isSome)
    (hsame : ∀ name, name ≠ "movement_type" → p.property name = p'.property name)
    (htype : ∀ x ∈ p.property "movement_type", ∀ x' ∈ p'.property "movement_type",
      ((nullish x (.str "")).text rt).isSome = ((nullish x' (.str "")).text rt).isSome) :
    (buildPushItem rt s p).map (·.transactionId) = (buildPushItem rt s' p').map (·.transactionId) := by
  unfold buildPushItem
  rw [hsame "user_id" (by decide), hsame "device_id" (by decide),
    hsame "transaction_id" (by decide), hsame "store_id" (by decide),
    hsame "product_id" (by decide), hsame "quantity_delta" (by decide),
    hsame "occurred_at" (by decide), hsame "stock_bucket" (by decide),
    hsame "reference_number" (by decide), hsame "reason_code" (by decide),
    hsame "transfer_id" (by decide), hsame "purchase_order_id" (by decide)]
  rcases property_cases p' with rfl | ⟨f, hf⟩
  · rfl
  have htype0 := hsome "movement_type"
  rw [hf "movement_type"] at htype0 htype
  obtain ⟨x, hx⟩ := Option.isSome_iff_exists.1 htype0
  have ht := htype x hx _ rfl
  have ho := isSome_text_orElse rt (f "occurred_at") s s'
  simp only [hf, hx, Option.bind_eq_bind, Option.bind_some]
  generalize (nullish x (.str "")).text rt = t1 at ht
  generalize (nullish (f "movement_type") (.str "")).text rt = t2 at ht
  generalize (orElse rt (f "occurred_at") (.str s)).text rt = t3 at ho
  generalize (orElse rt (f "occurred_at") (.str s')).text rt = t4 at ho
  generalize (nullish (f "user_id") (.str "")).text rt = t5
  generalize (nullish (f "device_id") (.str "")).text rt = t6
  generalize (nullish (f "transaction_id") (.str "")).text rt = t7
  generalize (nullish (f "store_id") (.str "")).text rt = t8
  generalize (nullish (f "product_id") (.str "")).text rt = t9
  generalize (nullish (f "quantity_delta") (.num "0")).toNumber rt = t10
  generalize (orElse rt (f "stock_bucket") (.str "AVAILABLE")).text rt = t11
  rcases t5 with _ | _
  · rfl
  rcases t6 with _ | _
  · rfl
  rcases t7 with _ | _
  · rfl
  rcases t8 with _ | _
  · rfl
  rcases t9 with _ | _
  · rfl
  rcases t1 with _ | _ <;> rcases t2 with _ | _
  · rfl
  · cases ht
  · cases ht
  rcases t10 with _ | _
  · rfl
  rcases t3 with _ | _ <;> rcases t4 with _ | _
  · rfl
  · cases ho
  · cases ho
  rcases t11 with _ | _ <;> rfl

theorem isSome_buildProductUpdate (rt : Runtime) {p p' : Json} (s s' : String)
    (hsome : ∀ name, (p.property name).isSome = (p'.property name).isSome) :
    (buildProductUpdate rt s p).isSome = (buildProductUpdate rt s' p').isSome := by
  rcases property_cases p with rfl | ⟨f, hf⟩ <;> rcases property_cases p' with rfl | ⟨f', hf'⟩
  · rfl
  · have h := hsome ""
    rw [hf'] at h
    cases h
  · have h := hsome ""
    rw [hf] at h
    cases h
  · simp [buildProductUpdate, hf, hf']

theorem lookup_setField {name other : String} {j : Json} (h : other ≠ name) :
    ∀ fields : List (String × Json), (setField name j fields).lookup other = fields.lookup other
  | [] => rfl
  | f :: fields => by
    have ih := lookup_setField (j := j) h fields
    unfold setField at ih ⊢
    by_cases hf : f.1 = name
    · have hne : (other == f.1) = false := by simp [hf, h]
      have hne' : (other == name) = false := by simp [h]
      rw [List.map_cons, if_pos hf, List.lookup_cons, List.lookup_cons, hne, hne', ih]
    · rw [List.map_cons, if_neg hf, List.lookup_cons, List.lookup_cons, ih]

theorem lookup_setField_self {name : String} {j x : Json} :
    ∀ {fields : List (String × Json)}, fields.lookup name = some x →
      (setField name j fields).lookup name = some j
  | [], h => by cases h
  | f :: fields, h => by
    unfold setField
    by_cases hf : f.1 = name
    · simp [hf]
    · have hne : (name == f.1) = false := by simp [Ne.symm hf]
      rw [List.lookup_cons, hne] at h
      rw [List.map_cons, if_neg hf, List.lookup_cons, hne]
      exact lookup_setField_self h

end Sync.Wire

namespace Sync.PushLoop

open Wire

theorem Kind.of_item (o : Option Wire.PushItem) :
    Kind.of ((o.map .item).getD .unparseable) =
      ((o.map (·.transactionId)).map .transaction).getD .unparseable := by
  cases o <;> rfl

theorem Kind.of_product (o : Option ProductSnapshot) :
    Kind.of ((o.map .product).getD .unparseable) = if o.isSome then .product else .unparseable := by
  cases o <;> rfl

theorem kind_of_parse (rt : Runtime) (now : String) (m : Message) :
    Kind.of (m.parse rt now) =
      if m.eventType = "PRODUCT_UPDATE" then
        if (m.payload.bind (buildProductUpdate rt now)).isSome then .product else .unparseable
      else (((m.payload.bind (Wire.buildPushItem rt now)).map (·.transactionId)).map
        Kind.transaction).getD .unparseable := by
  unfold Message.parse
  split
  · exact Kind.of_product _
  · exact Kind.of_item _

theorem kind_parse (rt : Runtime) (now : String) (m : Message) :
    Kind.of (m.parse rt now) = kind rt m := by
  unfold kind
  rw [kind_of_parse, kind_of_parse]
  cases m.payload with
  | none => simp only [Option.bind_none]
  | some p =>
    have h1 := isSome_buildProductUpdate rt (p := p) now "" fun _ => rfl
    have h2 := buildPushItem_congr rt p _ now "" (fun _ => rfl)
      (fun _ _ => rfl) fun x hx x' hx' => by rw [Option.mem_unique hx hx']
    simp only [Option.bind_some, h1, h2]

theorem kind_repair (rt : Runtime) (m : Message) : kind rt m.repair = kind rt m := by
  obtain ⟨eventType, payload⟩ := m
  unfold Message.repair
  split
  · rename_i fields hp
    obtain rfl : payload = some (.obj fields) := hp
    split
    · rename_i h
      obtain ⟨htype, hmt⟩ := h
      obtain rfl : eventType = "INVENTORY_TRANSACTION" := htype
      obtain ⟨x, hx, hstr⟩ := Option.bind_eq_some_iff.1 hmt
      have hx' : x = .str "TRANSFER" := by
        cases x with
        | str s => exact congrArg Json.str (Option.some.inj hstr)
        | _ => cases hstr
      have hitem := buildPushItem_congr rt
        (.obj (setField "movement_type" (.str (repairedType fields)) fields))
        (.obj fields) "" "" (fun _ => rfl)
        (fun name hne => congrArg some (lookup_setField hne fields)) fun y hy y' hy' => by
          have h1 : y = some (.str (repairedType fields)) :=
            (Option.some.inj hy).symm.trans (lookup_setField_self hx)
          have h2 : y' = some (.str "TRANSFER") := by
            rw [← hx', ← hx]
            exact (Option.some.inj hy').symm
          rw [h1, h2]
          rfl
      unfold kind
      rw [kind_of_parse, kind_of_parse]
      simp only [Option.bind_some]
      rw [hitem]
      rfl
    · rfl
  · rfl

/-! ## The line of live events -/

open Relational
open Desktop (Instant Queue QueuedEvent Status StatusUpdate)
open Server (SyncReceipt)

variable {c : Config} {q : Queue Message} {now : Instant}

def sorted (q : Queue Message) : List Row :=
  q.rows.insertionSort fun a b => a.createdAt ≤ b.createdAt

theorem mem_sorted {row : Row} : row ∈ sorted q ↔ row ∈ q.rows := List.mem_insertionSort _

instance : IsTrans Row fun a b => a.createdAt ≤ b.createdAt := ⟨fun _ _ _ => le_trans⟩

instance : Std.Total fun a b : Row => a.createdAt ≤ b.createdAt :=
  ⟨fun a b => le_total a.createdAt b.createdAt⟩

/-- A change of the rows that the line does not show, but for their statuses. -/
structure Restates (rt : Runtime) (f : Row → Row) : Prop where
  eventId : ∀ row, (f row).eventId = row.eventId
  createdAt : ∀ row, (f row).createdAt = row.createdAt
  kind : ∀ row, kind rt (f row).payload = kind rt row.payload

namespace Restates

variable {rt : Runtime} {f g : Row → Row}

theorem entry (h : Restates rt f) (row : Row) : entry rt (f row) = entry rt row := by
  simp [PushLoop.entry, h.eventId, h.kind]

theorem comp (hf : Restates rt f) (hg : Restates rt g) : Restates rt (f ∘ g) :=
  ⟨fun row => (hf.eventId _).trans (hg.eventId row),
    fun row => (hf.createdAt _).trans (hg.createdAt row),
    fun row => (hf.kind _).trans (hg.kind row)⟩

theorem sorted_change (h : Restates rt f) (q : Queue Message) :
    sorted (q.change f h.eventId) = (sorted q).map f := by
  unfold sorted
  rw [Queue.rows_change]
  exact (List.map_insertionSort _ _ f q.rows fun a _ b _ => by
    rw [h.createdAt, h.createdAt]).symm

end Restates

theorem line_change {f : Row → Row} (h : Restates c.rt f) :
    line c (q.change f h.eventId) =
      ((sorted q).filter fun row => live c.force (f row).status).map (entry c.rt) := by
  have hs := h.sorted_change q
  unfold sorted at hs
  unfold line
  rw [hs, List.filter_map, List.map_map]
  exact List.map_congr_left fun row _ => h.entry row

theorem nodup_line : (line c q).Nodup := by
  have hkeys : (q.rows.map (·.eventId)).Nodup := q.nodup
  have hperm : ((sorted q).map (·.eventId)).Perm (q.rows.map (·.eventId)) :=
    (List.perm_insertionSort _ q.rows).map _
  refine List.Nodup.of_map Entry.eventId ?_
  unfold line
  rw [List.map_map]
  exact ((hperm.nodup_iff).2 hkeys).sublist (List.filter_sublist.map _)

theorem mem_line {x : Entry} :
    x ∈ line c q ↔ ∃ row ∈ q.rows, live c.force row.status = true ∧ entry c.rt row = x := by
  unfold line
  simp [and_assoc]

/-- **A change of statuses** takes some entries out of the line. -/
theorem line_change_filter {f : Row → Row} (h : Restates c.rt f) {p : Entry → Bool}
    (hp : ∀ row ∈ q.rows, live c.force (f row).status =
      (live c.force row.status && p (entry c.rt row))) :
    line c (q.change f h.eventId) = (line c q).filter p := by
  rw [line_change h]
  unfold line
  rw [List.filter_map, List.filter_filter]
  congr 1
  refine List.filter_congr fun row hrow => ?_
  rw [hp row (mem_sorted.1 hrow), Bool.and_comm]
  rfl

/-! ## Reading -/

/-- What a read does to a row. -/
def prep (force : Bool) (row : Row) : Row :=
  if force then repairRow (row.recover true) else row.recover false

theorem restates_repairRow (rt : Runtime) : Restates rt repairRow :=
  ⟨fun _ => rfl, fun _ => rfl, fun row => kind_repair rt row.payload⟩

theorem restates_recover (rt : Runtime) (force : Bool) :
    Restates rt (QueuedEvent.recover force) := by
  refine ⟨by simp, fun row => ?_, by simp⟩
  unfold QueuedEvent.recover
  split_ifs <;> rfl

theorem restates_prep (rt : Runtime) (force : Bool) : Restates rt (prep force) := by
  cases force with
  | true => exact (restates_repairRow rt).comp (restates_recover rt true)
  | false => exact restates_recover rt false

theorem prep_eventId (force : Bool) (row : Row) : (prep force row).eventId = row.eventId := by
  cases force <;> simp [prep, repairRow]

theorem recovered_eq (force : Bool) (q : Queue Message) :
    recovered force q = q.change (prep force) (prep_eventId force) := by
  cases force with
  | true => exact Table.ext (List.map_map ..)
  | false => rfl

theorem live_prep (force : Bool) (row : Row) :
    live force (prep force row).status = live force row.status := by
  obtain ⟨id, eventId, payload, status, retry, next, created, err⟩ := row
  cases force <;> cases status <;> rfl

/-- Forced, every live event is due; otherwise those whose backoff is over. -/
theorem due_prep (force : Bool) (now : Instant) (row : Row)
    (h : force = true ∨ row.nextAttemptAt.all (· ≤ now) = true) :
    (prep force row).due now = live force row.status := by
  obtain ⟨id, eventId, payload, status, retry, next, created, err⟩ := row
  cases force with
  | true => cases status <;> rfl
  | false =>
    have hn : next.all (· ≤ now) = true := by simpa using h
    cases status <;> simp [prep, QueuedEvent.recover, QueuedEvent.due, live, hn]

theorem live_of_due (force : Bool) (row : Row) (h : (prep force row).due now = true) :
    live force row.status = true := by
  obtain ⟨id, eventId, payload, status, retry, next, created, err⟩ := row
  cases force <;> cases status <;> first | rfl | cases h

/-- A batch is the first due rows of the outbox, as the read leaves them. -/
theorem pending_eq : pending c now q =
    (((sorted q).filter fun row => (prep c.force row).due now).map (prep c.force)).take (limit c) := by
  have hs := (restates_prep c.rt c.force).sorted_change q
  unfold sorted at hs
  unfold pending Queue.selectDue
  rw [recovered_eq, ← StableSort.filter_insertionSort, hs, List.filter_map]
  rfl

theorem mem_pending {row : Row} (h : row ∈ pending c now q) :
    ∃ row' ∈ q.rows, row = prep c.force row' ∧ live c.force row'.status = true := by
  rw [pending_eq] at h
  obtain ⟨row', hrow', rfl⟩ := List.mem_map.1 (List.mem_of_mem_take h)
  obtain ⟨hmem, hdue⟩ := List.mem_filter.1 hrow'
  exact ⟨row', mem_sorted.1 hmem, rfl, live_of_due c.force row' hdue⟩

/-- The entries of a batch. -/
def batch (c : Config) (now : Instant) (q : Queue Message) : List Entry :=
  (pending c now q).map (entry c.rt)

theorem batch_eq : batch c now q =
    (((sorted q).filter fun row => (prep c.force row).due now).map (entry c.rt)).take (limit c) := by
  unfold batch
  rw [pending_eq, ← List.map_take, List.map_map, ← List.map_take]
  exact List.map_congr_left fun row _ => (restates_prep c.rt c.force).entry row

/-- **When all that is live is due** a batch is the window of the line. -/
theorem batch_eq_take (h : c.force = true ∨ ∀ row ∈ q.rows, row.nextAttemptAt.all (· ≤ now) = true) :
    batch c now q = (line c q).take (limit c) := by
  rw [batch_eq]
  unfold line
  congr 2
  refine List.filter_congr fun row hrow => ?_
  exact due_prep c.force now row (h.imp_right fun h => h row (mem_sorted.1 hrow))

theorem batch_sublist (now : Instant) (q : Queue Message) : (batch c now q).Sublist (line c q) := by
  rw [batch_eq]
  refine (List.take_sublist ..).trans (List.Sublist.map _ ?_)
  exact List.monotone_filter_right _ fun row h => live_of_due c.force row h

theorem length_pending_le : (pending c now q).length ≤ limit c := by
  rw [pending_eq]
  exact List.length_take_le _ _

theorem length_batch (c : Config) (now : Instant) (q : Queue Message) :
    (batch c now q).length = (pending c now q).length := List.length_map _

/-! ## Writing -/

theorem write_eq {updates : List StatusUpdate}
    (h : ∀ u ∈ updates, u.eventId ∈ q.rows.map (·.eventId)) :
    write now updates q =
      q.change (Queue.advanceAll now updates) (Queue.advanceAll_eventId now updates) := by
  unfold write
  rw [Queue.updateStatuses_ok h]

theorem restates_advanceAll (rt : Runtime) (now : Instant) (updates : List StatusUpdate) :
    Restates rt (Queue.advanceAll now updates) := by
  refine ⟨by simp, fun row => ?_, by simp⟩
  induction updates generalizing row with
  | nil => rfl
  | cons u us ih =>
    refine (ih (Queue.advance now u row)).trans ?_
    unfold Queue.advance QueuedEvent.transition
    split_ifs
    · split <;> rfl
    · rfl

/-! ## The rows of a batch -/

theorem eq_of_eventId {r r' : Row} (hr : r ∈ q.rows) (hr' : r' ∈ q.rows)
    (h : r.eventId = r'.eventId) : r = r' := by
  have h1 := Table.get?_of_mem hr
  have h2 := Table.get?_of_mem hr'
  rw [show Keyed.key r = Keyed.key r' from h, h2] at h1
  exact (Option.some.inj h1).symm

theorem pending_eventId {r row : Row} (hr : r ∈ q.rows) (hrow : row ∈ pending c now q)
    (h : row.eventId = r.eventId) : row = prep c.force r := by
  obtain ⟨r', hr', rfl, -⟩ := mem_pending hrow
  rw [prep_eventId] at h
  rw [eq_of_eventId hr' hr h]

theorem mem_batch (c : Config) (now : Instant) {r : Row} (hr : r ∈ q.rows) :
    entry c.rt r ∈ batch c now q ↔ prep c.force r ∈ pending c now q := by
  have hprep := (restates_prep c.rt c.force).entry r
  constructor
  · intro h
    obtain ⟨row, hrow, he⟩ := List.mem_map.1 h
    rwa [← pending_eventId hr hrow (congrArg Entry.eventId he)]
  · intro h
    exact List.mem_map.2 ⟨_, h, hprep⟩

theorem mem_unparseable {isoNow : String} {rows : List Row} {row : Row} :
    row ∈ unparseable c isoNow rows ↔ row ∈ rows ∧ kind c.rt row.payload = .unparseable := by
  have hk := kind_parse c.rt isoNow row.payload
  unfold unparseable
  rw [List.mem_filter, ← hk]
  cases row.payload.parse c.rt isoNow <;> simp [Kind.of]

theorem mem_items {isoNow : String} {rows : List Row} {x : Wire.PushItem × Row}
    (h : x ∈ items c isoNow rows) :
    x.2 ∈ rows ∧ kind c.rt x.2.payload = .transaction x.1.transactionId := by
  obtain ⟨row, hrow, hx⟩ := List.mem_filterMap.1 h
  have hk := kind_parse c.rt isoNow row.payload
  cases hp : row.payload.parse c.rt isoNow with
  | item i =>
    rw [hp] at hk hx
    obtain rfl := Option.some.inj hx
    exact ⟨hrow, hk.symm⟩
  | product p => simp [hp] at hx
  | unparseable => simp [hp] at hx

theorem exists_item (isoNow : String) {rows : List Row} {row : Row} {id : String} (hrow : row ∈ rows)
    (hk : kind c.rt row.payload = .transaction id) :
    ∃ i, (i, row) ∈ items c isoNow rows ∧ i.transactionId = id := by
  rw [← kind_parse c.rt isoNow] at hk
  cases hp : row.payload.parse c.rt isoNow with
  | item i =>
    rw [hp] at hk
    exact ⟨i, List.mem_filterMap.2 ⟨row, hrow, by rw [hp]⟩, Kind.transaction.inj hk⟩
  | product p => simp [hp, Kind.of] at hk
  | unparseable => simp [hp, Kind.of] at hk

theorem mem_productUpdates {isoNow : String} {rows : List Row} {x : ProductSnapshot × Row}
    (h : x ∈ productUpdates c isoNow rows) :
    x.2 ∈ rows ∧ kind c.rt x.2.payload = .product := by
  obtain ⟨row, hrow, hx⟩ := List.mem_filterMap.1 h
  have hk := kind_parse c.rt isoNow row.payload
  cases hp : row.payload.parse c.rt isoNow with
  | product p =>
    rw [hp] at hk hx
    obtain rfl := Option.some.inj hx
    exact ⟨hrow, hk.symm⟩
  | item i => simp [hp] at hx
  | unparseable => simp [hp] at hx

theorem exists_productUpdate (isoNow : String) {rows : List Row} {row : Row} (hrow : row ∈ rows)
    (hk : kind c.rt row.payload = .product) : ∃ p, (p, row) ∈ productUpdates c isoNow rows := by
  rw [← kind_parse c.rt isoNow] at hk
  cases hp : row.payload.parse c.rt isoNow with
  | product p => exact ⟨p, List.mem_filterMap.2 ⟨row, hrow, by rw [hp]⟩⟩
  | item i => simp [hp, Kind.of] at hk
  | unparseable => simp [hp, Kind.of] at hk

/-! ## Marking -/

variable {t : Turn}

/-- What marking a batch does to a row. -/
def mark (c : Config) (t : Turn) (rows : List Row) : Row → Row :=
  Queue.advanceAll t.writeAt (unparseableUpdates (unparseable c t.isoNow rows)) ∘
    Queue.advanceAll t.writeAt (sendingUpdates rows) ∘ prep c.force

theorem restates_mark (rows : List Row) : Restates c.rt (mark c t rows) :=
  (restates_advanceAll _ _ _).comp ((restates_advanceAll _ _ _).comp (restates_prep _ _))

theorem mem_ids_change {f : Row → Row} (hf : ∀ row, (f row).eventId = row.eventId) {id : String} :
    id ∈ (q.change f hf).rows.map (·.eventId) ↔ id ∈ q.rows.map (·.eventId) := by
  simp [List.map_map, Function.comp_def, hf]

theorem pending_mem_ids {row : Row} (h : row ∈ pending c now q) :
    row.eventId ∈ q.rows.map (·.eventId) := by
  obtain ⟨r, hr, rfl, -⟩ := mem_pending h
  rw [prep_eventId]
  exact List.mem_map_of_mem hr

theorem marked_eq : marked c t (pending c now q) q =
    q.change (mark c t (pending c now q)) (restates_mark _).eventId := by
  have hsend : ∀ u ∈ sendingUpdates (pending c now q), u.eventId ∈ q.rows.map (·.eventId) :=
    fun u hu => by
      obtain ⟨row, hrow, rfl⟩ := List.mem_map.1 hu
      exact pending_mem_ids hrow
  have hunp : ∀ u ∈ unparseableUpdates (unparseable c t.isoNow (pending c now q)),
      u.eventId ∈ q.rows.map (·.eventId) := fun u hu => by
    obtain ⟨row, hrow, rfl⟩ := List.mem_map.1 hu
    exact pending_mem_ids (mem_unparseable.1 hrow).1
  unfold marked
  rw [recovered_eq, write_eq fun u hu => mem_ids_change _ |>.2 (hsend u hu),
    write_eq fun u hu => mem_ids_change _ |>.2 (mem_ids_change _ |>.2 (hunp u hu))]
  exact Table.ext (by simp only [Queue.rows_change, List.map_map]; rfl)

theorem status_mark (c : Config) (t : Turn) (now : Instant) {r : Row} (hr : r ∈ q.rows) :
    (mark c t (pending c now q) r).status =
      if entry c.rt r ∈ batch c now q then
        if kind c.rt r.payload = .unparseable then .permanentRejection else .sending
      else (prep c.force r).status := by
  have hkind := (restates_prep c.rt c.force).kind r
  have hbatch := mem_batch c now hr
  split
  · rename_i hin
    rw [hbatch] at hin
    have hsend : (Queue.advanceAll t.writeAt (sendingUpdates (pending c now q))
        (prep c.force r)).status = .sending := by
      refine Queue.advanceAll_status ⟨_, List.mem_map.2 ⟨_, hin, rfl⟩, rfl⟩ fun u hu _ => ?_
      obtain ⟨row, -, rfl⟩ := List.mem_map.1 hu
      rfl
    split
    · rename_i hk
      refine Queue.advanceAll_status ⟨_, List.mem_map.2 ⟨prep c.force r, ?_, rfl⟩, ?_⟩ fun u hu _ => ?_
      · exact mem_unparseable.2 ⟨hin, hkind.trans hk⟩
      · exact (Queue.advanceAll_eventId ..).symm
      · obtain ⟨row, -, rfl⟩ := List.mem_map.1 hu
        rfl
    · rename_i hk
      unfold mark
      rw [Function.comp_apply, Function.comp_apply, Queue.advanceAll_other, hsend]
      intro u hu hid
      obtain ⟨row, hrow, rfl⟩ := List.mem_map.1 hu
      obtain ⟨hrow, hkrow⟩ := mem_unparseable.1 hrow
      rw [Queue.advanceAll_eventId, prep_eventId] at hid
      rw [pending_eventId hr hrow hid] at hkrow
      exact hk (hkind.symm.trans hkrow)
  · rename_i hout
    rw [hbatch] at hout
    have hno : ∀ row ∈ pending c now q, row.eventId ≠ (prep c.force r).eventId :=
      fun row hrow hid => by
        rw [prep_eventId] at hid
        exact hout (pending_eventId hr hrow hid ▸ hrow)
    have hsend : Queue.advanceAll t.writeAt (sendingUpdates (pending c now q)) (prep c.force r) =
        prep c.force r := by
      refine Queue.advanceAll_other fun u hu => ?_
      obtain ⟨row, hrow, rfl⟩ := List.mem_map.1 hu
      exact hno row hrow
    unfold mark
    rw [Function.comp_apply, Function.comp_apply, hsend, Queue.advanceAll_other]
    intro u hu
    obtain ⟨row, hrow, rfl⟩ := List.mem_map.1 hu
    exact hno row (mem_unparseable.1 hrow).1

theorem live_of_batch {r : Row} (hr : r ∈ q.rows) (h : entry c.rt r ∈ batch c now q) :
    live c.force r.status = true := by
  obtain ⟨r', hr', he, hlive⟩ := mem_pending ((mem_batch c now hr).1 h)
  have hid := congrArg QueuedEvent.eventId he
  rw [prep_eventId, prep_eventId] at hid
  rwa [eq_of_eventId hr hr' hid]

/-- **Marking** takes the events that cannot be parsed out of the line, unless the sync is forced. -/
theorem line_marked (c : Config) (t : Turn) (now : Instant) (q : Queue Message) :
    line c (marked c t (pending c now q) q) =
    (line c q).filter fun x => decide (x ∉ batch c now q) || (!x.isUnparseable || c.force) := by
  rw [marked_eq]
  refine line_change_filter (restates_mark _) fun r hr => ?_
  rw [status_mark c t now hr]
  split
  · rename_i hin
    rw [live_of_batch hr hin]
    split
    · rename_i hk
      have hx : (entry c.rt r).isUnparseable = true := by simp [Entry.isUnparseable, entry, hk]
      simp [hin, hx, live]
    · rename_i hk
      have hx : (entry c.rt r).isUnparseable = false := by simp [Entry.isUnparseable, entry, hk]
      simp [hx, live]
  · rename_i hout
    simp [hout, live_prep]

/-! ## Writing outcomes -/

/-- The status that the receipts give the events of a transaction. -/
def settled (js : Js) (receipts : List SyncReceipt) (id : String) : Status :=
  match receiptOf receipts id with
  | none => .retryableError
  | some r => if r.accepted then .synced
    else rejectedStatus js (r.rejectionReason.getD "Server rejected transaction")

/-- Whether an event of a batch is still live after a response. -/
def survives (c : Config) (receipts : List SyncReceipt) (x : Entry) : Bool :=
  match x.kind with
  | .unparseable => c.force
  | .product => false
  | .transaction id => live c.force (settled c.rt.toJs receipts id)

variable {receipts : List SyncReceipt}

theorem itemUpdate_eventId (js : Js) (x : Wire.PushItem × Row) :
    (itemUpdate js receipts x).eventId = x.2.eventId := by
  unfold itemUpdate
  split
  · rfl
  · split <;> rfl

theorem itemUpdate_targetStatus (js : Js) (x : Wire.PushItem × Row) :
    (itemUpdate js receipts x).targetStatus = settled js receipts x.1.transactionId := by
  unfold itemUpdate settled
  cases receiptOf receipts x.1.transactionId with
  | none => rfl
  | some r => cases h : r.accepted <;> simp [h]

/-- The updates of a response are of rows of the batch that were sent. -/
theorem mem_outcomes {rows : List Row} {isoNow : String} {u : StatusUpdate}
    (hu : u ∈ outcomes c.rt.toJs receipts (items c isoNow rows) (productUpdates c isoNow rows)) :
    ∃ row ∈ rows, u.eventId = row.eventId ∧
      (kind c.rt row.payload = .product ∧ u.targetStatus = .synced ∨
        ∃ id, kind c.rt row.payload = .transaction id ∧
          u.targetStatus = settled c.rt.toJs receipts id) := by
  rcases List.mem_append.1 hu with hu | hu
  · obtain ⟨x, hx, rfl⟩ := List.mem_map.1 hu
    obtain ⟨hrow, hk⟩ := mem_items hx
    exact ⟨x.2, hrow, itemUpdate_eventId _ x, .inr ⟨_, hk, itemUpdate_targetStatus _ x⟩⟩
  · obtain ⟨x, hx, rfl⟩ := List.mem_map.1 hu
    obtain ⟨hrow, hk⟩ := mem_productUpdates hx
    exact ⟨x.2, hrow, rfl, .inl ⟨hk, rfl⟩⟩

theorem exists_outcome (receipts : List SyncReceipt) {rows : List Row} (isoNow : String) {row : Row} (hrow : row ∈ rows)
    (hk : kind c.rt row.payload ≠ .unparseable) :
    ∃ u ∈ outcomes c.rt.toJs receipts (items c isoNow rows) (productUpdates c isoNow rows),
      u.eventId = row.eventId := by
  cases hkind : kind c.rt row.payload with
  | unparseable => exact absurd hkind hk
  | product =>
    obtain ⟨p, hp⟩ := exists_productUpdate isoNow hrow hkind
    exact ⟨_, List.mem_append_right _ (List.mem_map.2 ⟨_, hp, rfl⟩), rfl⟩
  | transaction id =>
    obtain ⟨i, hi, -⟩ := exists_item isoNow hrow hkind
    exact ⟨_, List.mem_append_left _ (List.mem_map.2 ⟨_, hi, rfl⟩), itemUpdate_eventId _ _⟩

/-- What a response does to a row. -/
def settle (c : Config) (t : Turn) (receipts : List SyncReceipt) (rows : List Row) : Row → Row :=
  Queue.advanceAll t.writeAt
    (outcomes c.rt.toJs receipts (items c t.isoNow rows) (productUpdates c t.isoNow rows)) ∘
    mark c t rows

theorem restates_settle (rows : List Row) : Restates c.rt (settle c t receipts rows) :=
  (restates_advanceAll _ _ _).comp (restates_mark rows)

theorem settled_eq : write t.writeAt (outcomes c.rt.toJs receipts
      (items c t.isoNow (pending c now q)) (productUpdates c t.isoNow (pending c now q)))
      (marked c t (pending c now q) q) =
    q.change (settle c t receipts (pending c now q)) (restates_settle _).eventId := by
  have hids : ∀ u ∈ outcomes c.rt.toJs receipts (items c t.isoNow (pending c now q))
      (productUpdates c t.isoNow (pending c now q)), u.eventId ∈ q.rows.map (·.eventId) :=
    fun u hu => by
      obtain ⟨row, hrow, hid, -⟩ := mem_outcomes hu
      exact hid ▸ pending_mem_ids hrow
  rw [marked_eq, write_eq fun u hu => mem_ids_change _ |>.2 (hids u hu)]
  exact Table.ext (by simp only [Queue.rows_change, List.map_map]; rfl)

theorem status_settle {r : Row} (hr : r ∈ q.rows) :
    (settle c t receipts (pending c now q) r).status =
      if entry c.rt r ∈ batch c now q then
        match kind c.rt r.payload with
        | .unparseable => .permanentRejection
        | .product => .synced
        | .transaction id => settled c.rt.toJs receipts id
      else (prep c.force r).status := by
  have hmark := status_mark c t now hr
  have hid := (restates_mark (c := c) (t := t) (pending c now q)).eventId r
  have hprep := (restates_prep c.rt c.force).kind r
  -- an update of the row is of its kind
  have hkind : ∀ u ∈ outcomes c.rt.toJs receipts (items c t.isoNow (pending c now q))
      (productUpdates c t.isoNow (pending c now q)),
      u.eventId = (mark c t (pending c now q) r).eventId → entry c.rt r ∈ batch c now q ∧
        (kind c.rt r.payload = .product ∧ u.targetStatus = .synced ∨
          ∃ id, kind c.rt r.payload = .transaction id ∧
            u.targetStatus = settled c.rt.toJs receipts id) := by
    intro u hu huid
    obtain ⟨row, hrow, hid', hk⟩ := mem_outcomes hu
    obtain rfl := pending_eventId hr hrow (hid'.symm.trans (huid.trans hid))
    rw [hprep] at hk
    exact ⟨(mem_batch c now hr).2 hrow, hk⟩
  unfold settle
  rw [Function.comp_apply]
  split
  · rename_i hin
    have hrow := (mem_batch c now hr).1 hin
    cases hk : kind c.rt r.payload with
    | unparseable =>
      rw [Queue.advanceAll_other, hmark, if_pos hin, if_pos hk]
      intro u hu huid
      have := (hkind u hu huid).2
      simp [hk] at this
    | product =>
      obtain ⟨u, hu, huid⟩ := exists_outcome receipts t.isoNow hrow
        (by rw [hprep, hk]; exact Kind.noConfusion)
      refine Queue.advanceAll_status ⟨u, hu, ?_⟩ fun v hv hvid => ?_
      · rw [huid, prep_eventId, hid]
      · simpa [hk] using (hkind v hv hvid).2
    | transaction id =>
      obtain ⟨u, hu, huid⟩ := exists_outcome receipts t.isoNow hrow
        (by rw [hprep, hk]; exact Kind.noConfusion)
      refine Queue.advanceAll_status ⟨u, hu, ?_⟩ fun v hv hvid => ?_
      · rw [huid, prep_eventId, hid]
      · simpa [hk] using (hkind v hv hvid).2
  · rename_i hout
    rw [Queue.advanceAll_other, hmark, if_neg hout]
    exact fun u hu huid => hout (hkind u hu huid).1

/-- **A response** takes the events out of the line that were settled with it. -/
theorem line_settled (c : Config) (t : Turn) (receipts : List SyncReceipt) (now : Instant)
    (q : Queue Message) : line c (write t.writeAt (outcomes c.rt.toJs receipts
      (items c t.isoNow (pending c now q)) (productUpdates c t.isoNow (pending c now q)))
      (marked c t (pending c now q) q)) =
    (line c q).filter fun x => decide (x ∉ batch c now q) || survives c receipts x := by
  rw [settled_eq]
  refine line_change_filter (restates_settle _) fun r hr => ?_
  rw [status_settle hr]
  split
  · rename_i hin
    rw [live_of_batch hr hin, decide_eq_false (not_not.2 hin), Bool.false_or, Bool.true_and]
    unfold survives entry
    cases kind c.rt r.payload <;> simp [live]
  · rename_i hout
    simp [hout, live_prep]

/-! ## Turns -/

theorem batch_eq_nil : batch c now q = [] ↔ pending c now q = [] := List.map_eq_nil_iff

theorem nothing_to_push (isoNow : String) (now : Instant) :
    ((items c isoNow (pending c now q)).isEmpty &&
      (productUpdates c isoNow (pending c now q)).isEmpty) = true ↔
      ∀ x ∈ batch c now q, x.isUnparseable = true := by
  unfold batch
  generalize pending c now q = rows
  rw [Bool.and_eq_true, List.isEmpty_iff, List.isEmpty_iff]
  constructor
  · rintro ⟨hi, hp⟩ x hx
    obtain ⟨row, hrow, rfl⟩ := List.mem_map.1 hx
    cases hk : kind c.rt row.payload with
    | unparseable => simp [Entry.isUnparseable, entry, hk]
    | product =>
      obtain ⟨p, h⟩ := exists_productUpdate isoNow hrow hk
      simp [hp] at h
    | transaction id =>
      obtain ⟨i, h, -⟩ := exists_item isoNow hrow hk
      simp [hi] at h
  · intro h
    constructor
    · refine List.eq_nil_iff_forall_not_mem.2 fun x hx => ?_
      obtain ⟨hrow, hk⟩ := mem_items hx
      have := h _ (List.mem_map_of_mem hrow)
      simp [Entry.isUnparseable, entry, hk] at this
    · refine List.eq_nil_iff_forall_not_mem.2 fun x hx => ?_
      obtain ⟨hrow, hk⟩ := mem_productUpdates hx
      have := h _ (List.mem_map_of_mem hrow)
      simp [Entry.isUnparseable, entry, hk] at this

theorem accepted_outbox (rows : List Row) (s : State) : (accepted c t receipts rows s).outbox =
    write t.writeAt (outcomes c.rt.toJs receipts (items c t.isoNow rows)
      (productUpdates c t.isoNow rows)) s.outbox := rfl

/-- How a turn goes on. -/
inductive Goes (c : Config) (t : Turn) (s s' : State) : Prop
  | skips (hne : batch c t.readAt s.outbox ≠ [])
    (hall : ∀ x ∈ batch c t.readAt s.outbox, x.isUnparseable = true)
    (hcat : c.force = true → s.pushedAnything = true)
    (hline : line c s'.outbox = (line c s.outbox).filter fun x =>
      decide (x ∉ batch c t.readAt s.outbox) || (!x.isUnparseable || c.force))
    (hpushed : s'.pushedAnything = s.pushedAnything) (hretry : s'.retryCount = s.retryCount)
  | responds {receipts : List SyncReceipt} (hreply : t.reply = .ok receipts)
    (hfull : c.batchSize.toInt ≤ (batch c t.readAt s.outbox).length)
    (hline : line c s'.outbox = (line c s.outbox).filter fun x =>
      decide (x ∉ batch c t.readAt s.outbox) || survives c receipts x)
    (hpushed : s'.pushedAnything = true) (hretry : s'.retryCount ≤ c.maxRetries)
  | retries {error : String} (hreply : t.reply = .error error) (hline : line c s'.outbox = (line c s.outbox).filter fun x =>
      decide (x ∉ batch c t.readAt s.outbox) || (!x.isUnparseable || c.force))
    (hpushed : s'.pushedAnything = s.pushedAnything) (hretry : s'.retryCount = s.retryCount + 1)
    (hmax : s'.retryCount ≤ c.maxRetries)

/-- A turn of a loop that is going on. -/
theorem turn_eq {s : State} (hk : s.keepGoing = true) (ha : t.aborted = false) : turn c t s =
    let rows := pending c t.readAt s.outbox
    let pushCatalogue := c.force && !s.pushedAnything
    if rows.isEmpty && !pushCatalogue then
      { s with outbox := recovered c.force s.outbox, keepGoing := false }
    else
      let s := { s with outbox := marked c t rows s.outbox }
      if (items c t.isoNow rows).isEmpty && (productUpdates c t.isoNow rows).isEmpty &&
          !pushCatalogue then s
      else match t.reply with
        | .ok receipts => accepted c t receipts rows s
        | .error error => failed c t error rows s := by
  unfold turn
  rw [hk, ha]
  rfl

theorem turn_stopped {s : State} (hk : s.keepGoing = false) : turn c t s = s := by
  unfold turn
  rw [hk]
  rfl

theorem turn_aborted {s : State} (ha : t.aborted = true) : (turn c t s).keepGoing = false := by
  unfold turn
  cases hk : s.keepGoing with
  | false => exact hk
  | true => rw [ha]; rfl

/-- **A turn** that does not end the loop. -/
theorem turn_goes {s : State} (h : (turn c t s).keepGoing = true) : Goes c t s (turn c t s) := by
  have hk : s.keepGoing = true := by
    by_contra hk
    rw [Bool.not_eq_true] at hk
    rw [turn_stopped hk, hk] at h
    cases h
  have ha : t.aborted = false := by
    by_contra ha
    rw [Bool.not_eq_false] at ha
    rw [turn_aborted ha] at h
    cases h
  have hlen := length_batch c t.readAt s.outbox
  have hnone := nothing_to_push (c := c) (q := s.outbox) t.isoNow t.readAt
  have hmark := line_marked c t t.readAt s.outbox
  have hset := fun receipts => line_settled c t receipts t.readAt s.outbox
  rw [turn_eq hk ha] at h ⊢
  dsimp only at h ⊢
  by_cases hne : ((pending c t.readAt s.outbox).isEmpty && !(c.force && !s.pushedAnything)) = true
  · rw [if_pos hne] at h
    cases h
  rw [if_neg hne] at h ⊢
  by_cases hskip : ((items c t.isoNow (pending c t.readAt s.outbox)).isEmpty &&
      (productUpdates c t.isoNow (pending c t.readAt s.outbox)).isEmpty &&
      !(c.force && !s.pushedAnything)) = true
  · rw [if_pos hskip]
    rw [Bool.and_eq_true, hnone] at hskip
    obtain ⟨hall, hcat⟩ := hskip
    have hbatch : batch c t.readAt s.outbox ≠ [] := by
      rw [Ne, batch_eq_nil]
      intro hnil
      simp [hnil, hcat] at hne
    have hcat' : c.force = true → s.pushedAnything = true := fun hf => by simpa [hf] using hcat
    refine .skips hbatch hall hcat' ?_ rfl rfl
    dsimp only
    exact hmark
  rw [if_neg hskip] at h ⊢
  cases hr : t.reply with
  | ok receipts =>
    rw [hr] at h
    dsimp only at h ⊢
    have hlt : (!decide (((pending c t.readAt s.outbox).length : Int) < c.batchSize.toInt)) = true := h
    have hfull : c.batchSize.toInt ≤ (batch c t.readAt s.outbox).length := by
      rw [hlen]
      simpa using hlt
    refine .responds hr hfull ?_ rfl (min_le_left ..)
    rw [accepted_outbox]
    dsimp only
    exact hset receipts
  | error error =>
    rw [hr] at h
    dsimp only at h ⊢
    unfold failed at h ⊢
    dsimp only at h ⊢
    by_cases hlt : s.retryCount < c.maxRetries
    · rw [if_pos hlt]
      refine .retries hr ?_ rfl rfl hlt
      dsimp only
      exact hmark
    · rw [if_neg hlt] at h
      cases h

/-- A turn goes on if there is nothing to push in its batch, or if its batch is full and is answered. -/
theorem turn_keepGoing {s : State} (hk : s.keepGoing = true) (ha : t.aborted = false)
    (hne : batch c t.readAt s.outbox ≠ [])
    (h : ((∀ x ∈ batch c t.readAt s.outbox, x.isUnparseable = true) ∧
        (c.force = true → s.pushedAnything = true)) ∨
      ((∃ receipts, t.reply = .ok receipts) ∧
        c.batchSize.toInt ≤ (batch c t.readAt s.outbox).length)) :
    (turn c t s).keepGoing = true := by
  have hlen := length_batch c t.readAt s.outbox
  have hnone := nothing_to_push (c := c) (q := s.outbox) t.isoNow t.readAt
  have hpend : (pending c t.readAt s.outbox).isEmpty = false := by
    rw [Ne, batch_eq_nil] at hne
    simpa using hne
  rw [turn_eq hk ha]
  dsimp only
  rw [if_neg (by simp [hpend])]
  rcases h with ⟨hall, hcat⟩ | ⟨⟨receipts, hr⟩, hfull⟩
  · have hno : (!(c.force && !s.pushedAnything)) = true := by
      cases hf : c.force with
      | false => rfl
      | true => simp [hcat hf]
    rw [if_pos (by rw [hnone.2 hall, hno]; rfl)]
    exact hk
  · split
    · exact hk
    · rw [hr]
      have hlt : ¬ ((pending c t.readAt s.outbox).length : Int) < c.batchSize.toInt := by omega
      simpa [accepted] using hlt

end Sync.PushLoop
