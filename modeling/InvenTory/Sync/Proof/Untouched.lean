import InvenTory.Sync.Proof.Edits

/-!
# Who changes a product on the server

Desktops share a server. One with no event of a product left to deliver, and with no request for it
under way (`Quiet`), stays so in runs that are not forced as long as it does not edit the product, and
none of its steps changes the server's row (`untouched`). A forced run sends all products, and the server
takes them (`forced_overwrites`).
-/

namespace Sync.Edits

open Desktop (Instant Queue QueuedEvent Status)
open Desktop.Catalogue
open Latest Relational Runs
open Server (DateTime)

variable {w : Setting} {id : String} {d : Desk} {s : Station} {q : Queue ProductPayload} {st : Stage}
  {k : Nat}

/-- What the run has read, until it is done with it. -/
def Stage.rows : Stage → List Row
  | .fetched rows _ | .marked rows _ | .ready rows _ | .answered rows => rows
  | .idle => []

/-- The run sends the events only, and none is of the product. -/
structure Passes (q : Queue ProductPayload) (id : String) (st : Stage) : Prop where
  plain : st.Plain
  rows : ∀ e ∈ st.rows, e.payload.productId ≠ id
  events : ∀ e ∈ st.rows, ∀ x ∈ q.rows, x.eventId = e.eventId → x.payload.productId ≠ id

/-- No event of the product is deliverable, and no run has read one. -/
structure Quiet (d : Desk) (id : String) : Prop where
  delivered : ∀ e ∈ d.outbox.rows, e.payload.productId = id →
    e.status ∉ [.pending, .sending, .retryableError]
  passes : ∀ k, Passes d.outbox id (d.stage k)

/-- No edit of the product and no forced run. -/
def Leaves (id : String) : Event → Prop
  | .command c => c.productId ≠ id
  | .fetch _ _ _ force catalogue => force = false ∧ catalogue = false
  | .mark .. | .load _ | .post .. | .settle .. | .pull _ => True

variable {rows : List Row} {now : Instant}

/-! ## The outbox -/

theorem Quiet.outbox (h : Quiet d id) (hold : Old id d.outbox q) (t : Tables) :
    Quiet ⟨t, q, d.stage⟩ id where
  delivered e he hid := h.delivered e (hold e he hid) hid
  passes k := by
    obtain ⟨hplain, hrows, hevents⟩ := h.passes k
    exact ⟨hplain, hrows, fun e he x hx hxe hid => hevents e he x (hold x hx hid) hxe hid⟩

theorem Quiet.setStage (h : Quiet d id) (hst : Passes d.outbox id st) : Quiet (d.setStage k st) id where
  delivered := h.delivered
  passes j := by
    by_cases hj : j = k
    · rw [hj, setStage_self]
      exact hst
    · rw [setStage_other _ hj]
      exact h.passes j

theorem passes_idle : Passes q id .idle where
  plain := trivial
  rows _ he := absurd he List.not_mem_nil
  events _ he := absurd he List.not_mem_nil

theorem run_old {c : Command} (hc : c.productId ≠ id) :
    Old id d.outbox ((c.run w).eval d.db).2.outbox := by
  have hkeeps : Sql.Prog.Keeps (fun db : ProductsDb => Old id d.outbox db.outbox) (c.run w) := by
    cases c with
    | create clk earlier input => exact createProduct_keeps hc
    | update clk input => exact updateProduct_keeps hc
    | toggle clk id' isActive => exact toggleProductActive_keeps hc
  exact hkeeps (fun _ => True) _ _ _ (Sql.Prog.yields_eval _ _ _) fun e he _ => he

/-- Only an event that is in the batch changes. -/
theorem update_old {status : Status} (h : Passes d.outbox id st) :
    Old id d.outbox (d.update now (marks status st.rows)).outbox := by
  unfold Desk.update
  split
  · rename_i q hq
    obtain rfl := Queue.updateStatuses_eq hq
    intro e he hid
    obtain ⟨x, hx, rfl⟩ := mem_moved.1 he
    rw [Queue.advanceAll_payload] at hid
    rw [advance_other fun hin => ?_]
    · exact hx
    · obtain ⟨y, hy, hyx⟩ := List.mem_map.1 hin
      exact h.events y hy x hx hyx.symm hid
  · exact fun e he _ => he

theorem update_stage {status : Status} :
    (d.update now (marks status rows)) =
      ⟨d.tables, (d.update now (marks status rows)).outbox, d.stage⟩ := by
  unfold Desk.update
  split <;> rfl

theorem Quiet.update {status : Status} (h : Quiet d id) (hst : Passes d.outbox id st) :
    Quiet (d.update now (marks status st.rows)) id := by
  rw [update_stage]
  exact h.outbox (update_old hst) d.tables

theorem Passes.update (now : Instant) (status : Status) (h : Passes d.outbox id st) :
    Passes (d.update now (marks status st.rows)).outbox id st :=
  ⟨h.plain, h.rows, fun e he x hx hxe hid => h.events e he x (update_old h x hx hid) hxe hid⟩

/-! ## Reading -/

theorem reset_old (h : Quiet d id) : Old id d.outbox (d.outbox.reset false) := by
  intro e he hid
  obtain ⟨x, hx, rfl⟩ := List.mem_map.1 he
  rw [QueuedEvent.recover_payload] at hid
  have hs : x.status ≠ .sending := fun hs => h.delivered x hx hid (by simp [hs])
  have hsame : x.recover false = x := by simp [QueuedEvent.recover, hs]
  rwa [hsame]

/-- What is read is due, so it is not of the product. -/
theorem selectDue_passes (h : Quiet d id) (limit : Nat) :
    Passes (d.outbox.reset false) id
      (.fetched ((d.outbox.reset false).selectDue now limit) false) := by
  have hread : ∀ e ∈ (d.outbox.reset false).selectDue now limit,
      e ∈ (d.outbox.reset false).rows ∧ e.payload.productId ≠ id := by
    intro e he
    have hmem := List.mem_of_mem_take he
    rw [List.mem_insertionSort, List.mem_filter] at hmem
    refine ⟨hmem.1, fun hid => ?_⟩
    have hno := h.delivered e (reset_old h e hmem.1 hid) hid
    have hdue := hmem.2
    unfold QueuedEvent.due at hdue
    rcases Bool.or_eq_true_iff.1 hdue with hs | hs
    · exact hno (by simp [of_decide_eq_true hs])
    · exact hno (by simp [of_decide_eq_true (Bool.and_eq_true_iff.1 hs).1])
  refine ⟨rfl, fun e he => (hread e he).2, fun e he x hx hxe => ?_⟩
  have heq : x = e := eq_of_eventId hx (hread e he).1 hxe
  exact heq ▸ (hread e he).2

theorem Quiet.fetch (h : Quiet d id) (limit : Nat) :
    Quiet (d.fetch k now limit false false) id := by
  have hreset := h.outbox (reset_old h) d.tables
  unfold Desk.fetch
  dsimp only
  split
  · exact hreset.setStage passes_idle
  · exact hreset.setStage (selectDue_passes h limit)

/-! ## Steps -/

theorem post_same (hb : ReadsBool w.py) {r r' : Replica} {jsNow : String} {now : DateTime}
    (h : Passes q id (.ready rows [])) (hpost : pushAll w jsNow now rows [] r = some r') :
    SameProduct id r r' := by
  refine pushAll_other hb hpost fun y hy => ?_
  obtain ⟨e, he, rfl⟩ := List.mem_map.1 hy
  exact h.rows e he

/-- **A step** of such a desktop. -/
theorem Quiet.step (hb : ReadsBool w.py) (h : Quiet s.desk id) {x : Event} (hx : Leaves id x) :
    Quiet (s.step w x).desk id ∧ SameProduct id s.server (s.step w x).server := by
  cases x with
  | command c => exact ⟨h.outbox (run_old hx) _, .refl id _⟩
  | fetch j now limit force catalogue =>
    obtain ⟨rfl, rfl⟩ := hx
    cases hst : s.desk.stage j with
    | idle =>
      simp only [Station.step, hst]
      exact ⟨h.fetch limit, .refl id _⟩
    | fetched _ _ | marked _ _ | ready _ _ | answered _ =>
      simp only [Station.step, hst]
      exact ⟨h, .refl id _⟩
  | mark j now =>
    cases hst : s.desk.stage j with
    | fetched rows catalogue =>
      have hpasses := h.passes j
      rw [hst] at hpasses
      have hmarked := hpasses.update now .sending
      simp only [Station.step, hst, Desk.mark]
      exact ⟨(h.update hpasses).setStage ⟨hmarked.plain, hmarked.rows, hmarked.events⟩, .refl id _⟩
    | idle | marked _ _ | ready _ _ | answered _ =>
      simp only [Station.step, hst]
      exact ⟨h, .refl id _⟩
  | load j =>
    cases hst : s.desk.stage j with
    | marked rows catalogue =>
      have hpasses := h.passes j
      rw [hst] at hpasses
      obtain rfl : catalogue = false := hpasses.plain
      simp only [Station.step, hst, Desk.load]
      exact ⟨h.setStage ⟨rfl, hpasses.rows, hpasses.events⟩, .refl id _⟩
    | idle | fetched _ _ | ready _ _ | answered _ =>
      simp only [Station.step, hst]
      exact ⟨h, .refl id _⟩
  | post j jsNow now =>
    cases hst : s.desk.stage j with
    | ready rows products =>
      have hpasses := h.passes j
      rw [hst] at hpasses
      obtain rfl : products = [] := hpasses.plain
      simp only [Station.step, hst, Station.post]
      cases hpost : pushAll w jsNow now rows [] s.server with
      | none => exact ⟨h.setStage passes_idle, .refl id _⟩
      | some server =>
        exact ⟨h.setStage ⟨trivial, hpasses.rows, hpasses.events⟩, post_same hb hpasses hpost⟩
    | idle | fetched _ _ | marked _ _ | answered _ =>
      simp only [Station.step, hst]
      exact ⟨h, .refl id _⟩
  | settle j now =>
    cases hst : s.desk.stage j with
    | answered rows =>
      have hpasses := h.passes j
      rw [hst] at hpasses
      simp only [Station.step, hst, Desk.settle]
      exact ⟨(h.update hpasses).setStage passes_idle, .refl id _⟩
    | idle | fetched _ _ | marked _ _ | ready _ _ =>
      simp only [Station.step, hst]
      exact ⟨h, .refl id _⟩
  | pull response => exact ⟨h.outbox (fun e he _ => he) _, .refl id _⟩

/-! ## Many desktops -/

section
variable {ι : Type} [DecidableEq ι] {i : ι} {shop : Shop ι}

/-- No step of the desktop `i` changes the product on the server. -/
def Untouched (w : Setting) (i : ι) (id : String) (shop : Shop ι) (x : ι × Event) : Prop :=
  x.1 = i → SameProduct id shop.server (shop.step w x).server

/-- A request that the server takes leaves it with the last snapshot of each product. -/
def Overwrites (w : Setting) (shop : Shop ι) (x : ι × Event) : Prop :=
  ∀ k jsNow now rows products y, x.2 = .post k jsNow now →
    (shop.desks x.1).stage k = .ready rows products →
    (pushAll w jsNow now rows products shop.server).isSome →
    latest ProductPayload.productId y.productId (sent rows products) = some y → Filled y →
      Agrees (shop.step w x).server.central y

theorem untouched_run (hb : ReadsBool w.py) {xs : List (ι × Event)} (h : Quiet (shop.desks i) id)
    (hx : ∀ x ∈ xs, x.1 = i → Leaves id x.2) :
    Along (Shop.step w) (Untouched w i id) shop xs := by
  induction xs generalizing shop with
  | nil => trivial
  | cons x xs ih =>
    rw [List.forall_mem_cons] at hx
    obtain ⟨hx, hxs⟩ := hx
    refine ⟨fun hi => ?_, ih ?_ hxs⟩
    · subst hi
      exact (Quiet.step (s := ⟨shop.desks x.1, shop.server⟩) hb h (hx rfl)).2
    · by_cases hi : x.1 = i
      · subst hi
        have hdesk := (Quiet.step (s := ⟨shop.desks x.1, shop.server⟩) hb h (hx rfl)).1
        simpa [Shop.step] using hdesk
      · simpa [Shop.step, Function.update_of_ne (Ne.symm hi)] using h

theorem overwrites_post (hb : ReadsBool w.py) (shop : Shop ι) (x : ι × Event) :
    Overwrites w shop x := by
  intro k jsNow now rows products y hx hst hpost hlast hf
  obtain ⟨server, hserver⟩ := Option.isSome_iff_exists.1 hpost
  have hends : Ends ProductPayload.productId (Agrees shop.server.central y) y (sent rows products) := by
    unfold Ends
    rw [hlast]
    rfl
  have hagrees := pushAll_agrees hb hserver (fun _ => hf) hends
  simp only [Shop.step, hx, Station.step, hst, Station.post, hserver]
  exact hagrees

/-- **Who reverts a product**: not a desktop that has no event of it left, in runs that are not forced,
as long as it does not edit it. A request with the catalogue overwrites what it carries. -/
theorem untouched_or_forced (hb : ReadsBool w.py) {xs : List (ι × Event)}
    (h : Quiet (shop.desks i) id) (hx : ∀ x ∈ xs, x.1 = i → Leaves id x.2) :
    Along (Shop.step w) (Untouched w i id) shop xs ∧
      ∀ ys, Along (Shop.step w) (Overwrites w) shop ys :=
  ⟨untouched_run hb h hx, along_of_forall (overwrites_post hb) shop⟩

end

def Event.isCommand : Event → Bool
  | .command _ => true
  | _ => false

namespace Sample

/-- The two times of the runs below. -/
def shown (t : Stamp) : String :=
  if t = stamp eight then "2024-05-01T08:00:00Z" else "2024-05-01T08:01:00Z"

def reader : Pydantic := { Sync.Sample.pydantic with
  datetime
    | .str s =>
      if s = "2024-05-01T08:00:00Z" then some ⟨stamp eight, some 0⟩
      else if s = "2024-05-01T08:01:00Z" then some ⟨stamp (eight + 60), some 0⟩
      else none
    | _ => none }

def shared : Setting := { setting with
  py := reader
  text := shown }

/-- Two desktops. -/
def shop : Shop Bool := ⟨fun _ => fresh.desk, fresh.server⟩

def pulled (name : String) (updatedAt : Stamp) : Event := .pull ⟨[{
  Desktop.Catalogue.Sample.product "PROD-1" "BOLT" name with
    createdAt := stamp eight
    updatedAt := updatedAt }], [], []⟩

def cycle : List Event := read :: rest

/-- The first desktop makes a product, the second gets it, and the first renames it. -/
def renamed : List (Bool × Event) :=
  (bolt :: cycle).map (false, ·) ++ [(true, pulled "Bolt" (stamp eight))] ++
    (nut :: cycle).map (false, ·)

def forced : List (Bool × Event) :=
  [.fetch 0 eight 500 true true, .mark 0 eight, .load 0, .post 0 "" Sync.Sample.atOnce].map (true, ·)

/-- The same, but before the product is renamed the second desktop changes it, too; it gets the other name
before it syncs. -/
def crossed : List (Bool × Event) :=
  (bolt :: cycle).map (false, ·) ++ [(true, pulled "Bolt" (stamp eight)),
    (true, .command (.update (Sync.Sample.clock eight 5)
      ⟨"PROD-1", "Screw", none, none, "General", "pcs", none, none, false⟩))] ++
    (nut :: cycle).map (false, ·) ++ [(true, pulled "Nut" (stamp (eight + 60)))]

def names (xs : List (Bool × Event)) : List String :=
  (xs.foldl (Shop.step shared) shop).server.central.db.products.rows.map (·.name)

theorem fresh_quiet (id : String) : Quiet fresh.desk id where
  delivered _ he := absurd he List.not_mem_nil
  passes _ := passes_idle

end Sample

theorem untouched_or_forced_renamed :
    Along (Shop.step Sample.shared) (Untouched Sample.shared true "PROD-1") Sample.shop
        (Sample.renamed ++ Sample.cycle.map (true, ·)) ∧
      ∀ ys, Along (Shop.step Sample.shared) (Overwrites Sample.shared) Sample.shop ys := by
  apply untouched_or_forced (fun _ => rfl) (Sample.fresh_quiet _)
  simp [Sample.renamed, Sample.pulled, Sample.cycle, Sample.read, Sample.rest, Leaves]

/-- A forced run of a desktop that has never edited the product undoes the edit of another; and so does a
normal run that delivers an edit from before its last pull. -/
theorem stale_desktop_reverts :
    (Sample.renamed.all fun x => !(x.1 && x.2.isCommand)) = true ∧
      Sample.names Sample.renamed = ["Nut"] ∧ Sample.names (Sample.renamed ++ Sample.forced) = ["Bolt"] ∧
      Sample.names Sample.crossed = ["Nut"] ∧
      Sample.names (Sample.crossed ++ Sample.cycle.map (true, ·)) = ["Screw"] := by
  decide +kernel

end Sync.Edits
