import InvenTory.Desktop.Commands
import InvenTory.Server.Proof.Products

/-!
# The products of a push

A new product whose SKU is taken gets the first eight characters of its id appended, which the ids of
several weeks share, and nothing checks that this SKU is free. A push goes through exactly if each of its
products finds room at its turn (`Room`, `pushed_all_iff`).
-/

namespace Server

open Relational Py Runs

theorem Product.fits_iff {r : Product} : r.fits = true ↔ Server.fits 36 r.id = true ∧
    Server.fits 100 r.sku = true ∧ Server.fits 255 r.name = true ∧ Server.fits 100 r.category = true ∧
      Server.fits 20 r.unit = true := by
  simp only [Product.fits, Bool.and_eq_true, and_assoc]

namespace CentralDb

variable {c c' : CentralDb} {now : DateTime} {p : ProductSnapshot} {ps : List ProductSnapshot}

/-- The product upsert of `push_events`, where widths are enforced. -/
def upsertAllFitting (now : DateTime) (c : CentralDb) (ps : List ProductSnapshot) :
    Except Exn CentralDb := ps.foldlM (upsertFitting now) c

/-! ## Room -/

/-- The owner of a SKU that the upsert finds. -/
def Owned (c : CentralDb) (sku id : String) : Prop :=
  ∃ q ∈ c.db.products.rows, q.sku = sku ∧ q.id ≠ id ∧ q.id ≠ ""

/-- No product but that with the id has the SKU, which fits its column. -/
def Free (c : CentralDb) (sku id : String) : Prop :=
  (∀ q ∈ c.db.products.rows, q.sku = sku → q.id = id) ∧ Server.fits 100 sku = true

/-- A product finds room: a new one whose SKU has an owner under the longer SKU, and one that is to have
its own SKU under that, and its texts fit. -/
structure Room (c : CentralDb) (p : ProductSnapshot) : Prop where
  renamed : c.db.products.get? p.id = none → c.Owned p.sku p.id →
    c.Free (p.sku ++ "-" ++ takeFirst 8 p.id) p.id
  own : (c.db.products.get? p.id = none ∨ startsWith p.sku "OFFLINE-" = false) → ¬ c.Owned p.sku p.id →
    c.Free p.sku p.id
  id : Server.fits 36 p.id = true
  name : Server.fits 255 p.name = true
  category : Server.fits 100 p.category = true
  unit : Server.fits 20 p.unit = true
  brand : p.brand.all (Server.fits 100) = true
  model : p.model.all (Server.fits 100) = true
  barcode : p.barcode.all (Server.fits 100) = true

/-- The catalogue of a database: unique SKUs, and texts that fit. -/
structure Kept (c : CentralDb) : Prop where
  skus : c.db.products.Unique Product.sku
  fits : ∀ q ∈ c.db.products.rows, q.fits = true

theorem skuOwner_isSome_iff (h : c.db.products.Unique Product.sku) {sku : String} {f : Product → Bool} :
    (c.db.skuOwner sku f).isSome ↔ ∃ q ∈ c.db.products.rows, q.sku = sku ∧ f q = true ∧ q.id ≠ "" := by
  unfold Db.skuOwner
  cases hfind : c.db.products.rows.find? fun q => q.sku = sku ∧ f q with
  | none =>
    refine iff_of_false (by simp) fun ⟨q, hq, hsku, hf, _⟩ => ?_
    have := List.find?_eq_none.1 hfind q hq
    exact this (by simpa using ⟨hsku, hf⟩)
  | some q =>
    have hq := List.mem_of_find?_eq_some hfind
    have hprop := List.find?_some hfind
    simp only [decide_eq_true_eq] at hprop
    constructor
    · intro hs
      have hne : q.id ≠ "" := by
        rintro he
        simp [he] at hs
      exact ⟨q, hq, hprop.1, hprop.2, hne⟩
    · rintro ⟨q', hq', hsku, -, hne⟩
      have heq : q' = q := h q' hq' q hq (hsku.trans hprop.1.symm)
      subst heq
      simp [hne]

theorem orElse_fits {n : Nat} {s t : String} (ht : Server.fits n t = true) :
    Server.fits n (orElse s t) = true ↔ Server.fits n s = true := by
  unfold orElse
  split
  · rename_i hs
    subst hs
    exact iff_of_true ht (by simp [Server.fits])
  · exact Iff.rfl

theorem owned_iff (h : Kept c) {f : Product → Bool}
    (hf : ∀ q ∈ c.db.products.rows, f q = true ↔ q.id ≠ p.id) :
    (c.db.skuOwner p.sku f).isSome ↔ c.Owned p.sku p.id := by
  rw [skuOwner_isSome_iff h.skus]
  exact exists_congr fun q => and_congr_right fun hq => and_congr_right fun _ =>
    and_congr_left fun _ => hf q hq

theorem Kept.old_fits (h : Kept c) {old : Product} (hget : c.db.products.get? p.id = some old) :
    old.fits = true := h.fits old (Table.mem_of_get? hget)

/-- The texts of the row are those of the snapshot, or fit anyway. -/
theorem pushedRow_fits_iff (h : Kept c) : (c.pushedRow p).fits = true ↔ Server.fits 36 p.id = true ∧
    Server.fits 100 (c.pushedRow p).sku = true ∧ Server.fits 255 p.name = true ∧
      Server.fits 100 p.category = true ∧ Server.fits 20 p.unit = true := by
  rw [Product.fits_iff, pushedRow_id]
  unfold pushedRow
  cases hget : c.db.products.get? p.id with
  | none => rw [orElse_fits (s := p.category) rfl, orElse_fits (s := p.unit) rfl]
  | some old =>
    obtain ⟨-, -, -, hcategory, hunit⟩ := Product.fits_iff.1 (h.old_fits hget)
    rw [orElse_fits (s := p.category) hcategory, orElse_fits (s := p.unit) hunit]

/-- The SKU of the row is free exactly if the longer one is where it is needed, and its own where that is
to be had. -/
theorem free_pushedRow_iff (h : Kept c) : c.Free (c.pushedRow p).sku p.id ↔
    (c.db.products.get? p.id = none → c.Owned p.sku p.id →
      c.Free (p.sku ++ "-" ++ takeFirst 8 p.id) p.id) ∧
    ((c.db.products.get? p.id = none ∨ startsWith p.sku "OFFLINE-" = false) → ¬ c.Owned p.sku p.id →
      c.Free p.sku p.id) := by
  unfold pushedRow
  cases hget : c.db.products.get? p.id with
  | none =>
    have hno : ∀ q ∈ c.db.products.rows, q.id ≠ p.id := by
      intro q hq he
      have hq' := Table.get?_of_mem hq
      rw [show key q = p.id from he, hget] at hq'
      cases hq'
    have howned := owned_iff (f := fun _ => true) h fun q hq => iff_of_true rfl (hno q hq)
    by_cases ho : c.Owned p.sku p.id
    · simp only [if_pos (howned.2 ho), ho, not_true_eq_false, true_imp_iff, false_imp_iff, implies_true,
        and_true]
    · simp only [if_neg fun hs => ho (howned.1 hs), ho, not_false_eq_true, true_imp_iff, false_imp_iff,
        implies_true, true_and, true_or]
  | some old =>
    have hid : old.id = p.id := Table.key_of_get? hget
    have hold : c.Free old.sku p.id := by
      refine ⟨fun q hq hsku => ?_, (Product.fits_iff.1 (h.old_fits hget)).2.1⟩
      rw [h.skus q hq old (Table.mem_of_get? hget) hsku, hid]
    have howned := owned_iff (p := p) (f := fun q => q.id ≠ p.id) h fun q _ => decide_eq_true_iff
    cases hoffline : startsWith p.sku "OFFLINE-" with
    | true => simp [hold]
    | false =>
      by_cases ho : c.Owned p.sku p.id
      · simp only [Bool.false_eq_true, if_false, if_pos (howned.2 ho)]
        simp [hold, ho]
      · simp only [Bool.false_eq_true, if_false, if_neg fun hs => ho (howned.1 hs)]
        simp [ho]

/-- **Room** is what the upsert needs. -/
theorem room_iff (now : DateTime) (h : Kept c) : c.Room p ↔
    (∀ q ∈ c.db.products.rows, q.sku = (c.pushedRow p).sku → q.id = p.id) ∧
      (c.pushedRow p).fits = true ∧ (p.columns now).fits = true := by
  have hfree := free_pushedRow_iff (p := p) h
  rw [pushedRow_fits_iff h]
  simp only [ProductColumns.fits, ProductSnapshot.columns, Bool.and_eq_true, and_assoc]
  constructor
  · intro hr
    obtain ⟨h1, h2⟩ := hfree.2 ⟨hr.renamed, hr.own⟩
    exact ⟨h1, hr.id, h2, hr.name, hr.category, hr.unit, hr.brand, hr.model, hr.barcode⟩
  · rintro ⟨h1, hid, h2, hname, hcategory, hunit, hbrand, hmodel, hbarcode⟩
    obtain ⟨hrenamed, hown⟩ := hfree.1 ⟨h1, h2⟩
    exact ⟨hrenamed, hown, hid, hname, hcategory, hunit, hbrand, hmodel, hbarcode⟩

/-! ## The whole push -/

/-- **One product** that finds room keeps the SKUs unique and the texts fitting. -/
theorem Kept.pushed (h : Kept c) (hroom : c.Room p) : Kept (c.pushed now p) := by
  obtain ⟨hsku, hrow, -⟩ := (room_iff now h).1 hroom
  refine ⟨h.skus.put fun q hq he => ?_, fun q hq => ?_⟩
  · exact (hsku q hq he).trans pushedRow_id.symm
  · rcases Table.mem_put.1 hq with rfl | ⟨hq, -⟩
    · exact hrow
    · exact h.fits q hq

theorem upsertAllFitting_ok_iff (h : Kept c) : c.upsertAllFitting now ps = .ok c' ↔
    Along (CentralDb.pushed now) Room c ps ∧ c' = ps.foldl (CentralDb.pushed now) c := by
  have hsteps : Runs.Steps (upsertFitting now) (CentralDb.pushed now) fun c p =>
      (∀ q ∈ c.db.products.rows, q.sku = (c.pushedRow p).sku → q.id = p.id) ∧
        (c.pushedRow p).fits = true ∧ (p.columns now).fits = true := by
    intro c p c'
    rw [upsertFitting_ok_iff]
    simp only [and_assoc]
  unfold upsertAllFitting
  rw [hsteps.foldlM_ok_iff]
  refine and_congr_left fun _ => along_congr (I := Kept) h (fun c p hc hG => ?_) fun c p hc => ?_
  · exact hc.pushed ((room_iff _ hc).2 hG)
  · exact (room_iff _ hc).symm

/-- A product that is there stays, and one that is pushed is there. -/
theorem pushed_present {id : String} (h : (c.db.products.get? id).isSome ∨ id = p.id) :
    ((c.pushed now p).db.products.get? id).isSome := by
  by_cases hid : id = p.id
  · rw [hid, pushed_get?_self]
    rfl
  · rw [pushed_get?_of_ne hid]
    exact h.resolve_right hid

theorem foldl_pushed_present {id : String} (h : (c.db.products.get? id).isSome ∨ ∃ p ∈ ps, id = p.id) :
    ((ps.foldl (CentralDb.pushed now) c).db.products.get? id).isSome := by
  induction ps generalizing c with
  | nil => exact h.resolve_right fun ⟨p, hp, _⟩ => List.not_mem_nil hp
  | cons p ps ih =>
    refine ih ?_
    rcases h with h | ⟨q, hq, hid⟩
    · exact .inl (pushed_present (.inl h))
    · rcases List.mem_cons.1 hq with rfl | hq
      · exact .inl (pushed_present (.inr hid))
      · exact .inr ⟨q, hq, hid⟩

/-- The push goes through: SKUs are unique then, and every pushed id is there. -/
def Succeeds (now : DateTime) (c : CentralDb) (ps : List ProductSnapshot) : Prop :=
  ∃ c', c.upsertAllFitting now ps = .ok c' ∧ c'.db.products.Unique Product.sku ∧
    ∀ p ∈ ps, (c'.db.products.get? p.id).isSome

theorem Kept.run (h : Kept c) (hps : Along (CentralDb.pushed now) Room c ps) :
    Kept (ps.foldl (CentralDb.pushed now) c) :=
  (hps.always h fun _ _ hc hroom => hc.pushed hroom).last

/-- **A push goes through** exactly if each product finds room at its turn. -/
theorem push_succeeds_iff (now : DateTime) (c : CentralDb) (ps : List ProductSnapshot) (h : Kept c) :
    Succeeds now c ps ↔ Along (CentralDb.pushed now) Room c ps := by
  constructor
  · rintro ⟨c', hok, -⟩
    exact ((upsertAllFitting_ok_iff h).1 hok).1
  · intro hps
    refine ⟨_, (upsertAllFitting_ok_iff h).2 ⟨hps, rfl⟩, (h.run hps).skus, fun p hp => ?_⟩
    exact foldl_pushed_present (.inr ⟨p, hp, rfl⟩)

/-! ## Two products of one SKU -/

/-- A product of the desktop. -/
def cableSnapshot (nanos : Nat) : ProductSnapshot :=
  ⟨Desktop.generateId "PROD" nanos, "USB", "Cable", none, none, "General", "pcs", none, none, false, true,
    none⟩

/-- The id of the first one, and what the second has been renamed to. -/
def cableRow (nanos : Nat) (sku : String) : Product :=
  ⟨Desktop.generateId "PROD" nanos, sku, "Cable", "General", "pcs", true⟩

def noColumns : ProductColumns := ⟨none, none, none, none, false, ⟨0, some 0⟩⟩

def oneCable : CentralDb :=
  ⟨{ Db.empty with products := (∅ : Table Product).put (cableRow 0x18A0000000000001 "USB") },
    fun _ => noColumns, fun _ => ⟨none, ⟨0, some 0⟩⟩⟩

def twoCables : CentralDb :=
  ⟨{ Db.empty with products := oneCable.db.products.put (cableRow 0x18A0000000000002 "USB-PROD-18A") },
    fun _ => noColumns, fun _ => ⟨none, ⟨0, some 0⟩⟩⟩

theorem oneCable_kept : Kept oneCable := ⟨by unfold Table.Unique; decide +kernel, by decide +kernel⟩

theorem twoCables_kept : Kept twoCables := ⟨by unfold Table.Unique; decide +kernel, by decide +kernel⟩

/-- The second product of a SKU is renamed. -/
theorem second_cable_pushed : Succeeds ⟨0, some 0⟩ oneCable [cableSnapshot 0x18A0000000000002] := by
  refine (push_succeeds_iff _ _ _ oneCable_kept).2 ⟨⟨fun _ _ => ⟨by decide +kernel, by decide +kernel⟩,
    fun _ hno => ?_, by decide +kernel, by decide +kernel, by decide +kernel, by decide +kernel,
    by decide +kernel, by decide +kernel, by decide +kernel⟩, trivial⟩
  exact absurd ⟨cableRow 0x18A0000000000001 "USB", by decide +kernel, by decide +kernel⟩ hno

/-- The third one gets the SKU of the second. -/
theorem third_cable_fails : ¬ ∀ (now : DateTime) (c : CentralDb) (ps : List ProductSnapshot), Kept c →
    (ps.map (·.id)).Nodup → (∀ p ∈ ps, ∃ nanos, p.id = Desktop.generateId "PROD" nanos) →
    Succeeds now c ps := by
  intro h
  obtain ⟨c', hok, -⟩ := h ⟨0, some 0⟩ twoCables [cableSnapshot 0x18A0000000000003] twoCables_kept
    (List.nodup_singleton _) fun p hp => ⟨_, congrArg ProductSnapshot.id (List.mem_singleton.1 hp)⟩
  obtain ⟨⟨hroom, -⟩, -⟩ := (upsertAllFitting_ok_iff twoCables_kept).1 hok
  have howned : twoCables.Owned "USB" (cableSnapshot 0x18A0000000000003).id :=
    ⟨cableRow 0x18A0000000000001 "USB", by decide +kernel, by decide +kernel⟩
  have hfree := (hroom.renamed (by decide +kernel) howned).1
  exact absurd (hfree (cableRow 0x18A0000000000002 "USB-PROD-18A") (by decide +kernel)
    (by decide +kernel)) (by decide +kernel)

end CentralDb

end Server
