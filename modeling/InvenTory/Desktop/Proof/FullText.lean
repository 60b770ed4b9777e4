import InvenTory.Desktop.FullText
import InvenTory.Desktop.Proof.Search
import InvenTory.Lib.Runs

/-!
# What the index finds

Under each rowid the index has one product's columns: those of the row that is there, or those of a row that
was replaced (`Kept`). As long as such ghosts are gone before the products are deleted, a rowid never comes
back, so that the search finds no product by columns that it does not have (`search_current`). But the ghosts
count for the limit (`hits_counted`), and the start of the app leaves them. Without a replacement there are
none, and the search finds every match if there are at most fifty (`search_complete`).
-/

namespace Desktop.Catalogue

open Relational Runs

variable {db db' : IndexedDb} {docs : FtsDocs} {ghosts : List (Nat × FtsColumns)} {p q : Product} {r : Nat}

namespace IndexedDb

/-! ## Rowids -/

theorem lt_nextRowid : r < db.nextRowid ↔ r = 0 ∨ ∃ p ∈ db.tables.products.rows, r ≤ db.rowid p.id := by
  unfold nextRowid
  induction db.tables.products.rows with
  | nil => simp
  | cons p ps ih =>
    simp only [List.map_cons, List.foldr_cons, List.mem_cons, exists_eq_or_imp]
    rw [or_left_comm, ← ih]
    omega

theorem rowid_lt (hp : p ∈ db.tables.products.rows) : db.rowid p.id < db.nextRowid :=
  lt_nextRowid.2 (.inr ⟨p, hp, le_rfl⟩)

/-! ## What is indexed -/

/-- The index has the rows of the table and the ghosts, each under a rowid of its own. -/
structure Kept (db : IndexedDb) (docs : FtsDocs) (ghosts : List (Nat × FtsColumns)) : Prop where
  there : db.docs = some docs
  triggers : db.triggers = true
  live : ∀ p ∈ db.tables.products.rows, docs (db.rowid p.id) = [p.ftsColumns]
  ghost : ∀ g ∈ ghosts, docs g.1 = [g.2]
  rest : ∀ r, docs r ≠ [] → (∃ p ∈ db.tables.products.rows, db.rowid p.id = r) ∨ ∃ g ∈ ghosts, g.1 = r
  rowids : ∀ p ∈ db.tables.products.rows, ∀ q ∈ db.tables.products.rows,
    db.rowid p.id = db.rowid q.id → p = q
  apart : ∀ p ∈ db.tables.products.rows, ∀ g ∈ ghosts, db.rowid p.id ≠ g.1
  nodup : (ghosts.map Prod.fst).Nodup
  bound : ∀ g ∈ ghosts, g.1 < db.nextRowid

/-- The rows that a statement takes away without telling the index, and what is left of those before. -/
def ghostsAfter (db : IndexedDb) (ghosts : List (Nat × FtsColumns)) :
    ProductStatement → List (Nat × FtsColumns)
  | .replace p => (db.replaced p).map (fun q => (db.rowid q.id, q.ftsColumns)) ++ ghosts
  | .wipe => []
  | _ => ghosts

theorem Kept.new (h : Kept db docs ghosts) : docs db.nextRowid = [] := by
  by_contra hne
  obtain ⟨p, hp, hr⟩ | ⟨g, hg, hr⟩ := h.rest _ hne
  · have := rowid_lt hp
    omega
  · have := h.bound g hg
    omega

theorem nodup_rows (t : Table Product) : t.rows.Nodup := t.nodup.of_map

theorem mem_replaceProduct {x : Product} : x ∈ (db.replaceProduct p).tables.products.rows ↔
    x = p ∨ x ∈ db.tables.products.rows ∧ x.id ≠ p.id ∧ x.sku ≠ p.sku := by
  simp only [replaceProduct, Table.mem_put, Table.mem_filter, decide_eq_true_eq, not_or]
  constructor
  · rintro (rfl | ⟨⟨hx, hid, hsku⟩, -⟩)
    · exact .inl rfl
    · exact .inr ⟨hx, hid, hsku⟩
  · rintro (rfl | ⟨hx, hid, hsku⟩)
    · exact .inl rfl
    · exact .inr ⟨⟨hx, hid, hsku⟩, hid⟩

theorem Kept.replace (h : Kept db docs ghosts) (p : Product) :
    Kept (db.replaceProduct p) (docs.add db.nextRowid p.ftsColumns)
      (db.ghostsAfter ghosts (.replace p)) := by
  have hself : (db.replaceProduct p).rowid p.id = db.nextRowid := Function.update_self ..
  have hother : ∀ {x : Product}, x.id ≠ p.id → (db.replaceProduct p).rowid x.id = db.rowid x.id :=
    fun hx => Function.update_of_ne hx ..
  have hadd : ∀ {r : Nat}, r ≠ db.nextRowid → docs.add db.nextRowid p.ftsColumns r = docs r :=
    fun hr => Function.update_of_ne hr ..
  have hnew : docs.add db.nextRowid p.ftsColumns db.nextRowid = [p.ftsColumns] := by
    rw [FtsDocs.add, Function.update_self, h.new]
  have hghost : ∀ {g : Nat × FtsColumns}, g ∈ db.ghostsAfter ghosts (.replace p) →
      (∃ q ∈ db.tables.products.rows, (q.id = p.id ∨ q.sku = p.sku) ∧ g = (db.rowid q.id, q.ftsColumns)) ∨
        g ∈ ghosts := by
    intro g hg
    simp only [ghostsAfter, replaced, List.mem_append, List.mem_map, List.mem_filter,
      decide_eq_true_eq] at hg
    obtain ⟨q, ⟨hq, hor⟩, rfl⟩ | hg := hg
    · exact .inl ⟨q, hq, hor, rfl⟩
    · exact .inr hg
  have hlt : ∀ {g : Nat × FtsColumns}, g ∈ db.ghostsAfter ghosts (.replace p) → g.1 < db.nextRowid := by
    intro g hg
    obtain ⟨q, hq, -, rfl⟩ | hg := hghost hg
    · exact rowid_lt hq
    · exact h.bound g hg
  refine ⟨?_, h.triggers, fun x hx => ?_, fun g hg => ?_, fun r hr => ?_, fun x hx y hy hxy => ?_,
    fun x hx g hg => ?_, ?_, fun g hg => ?_⟩
  · simp [replaceProduct, fire, h.triggers, h.there]
  · obtain rfl | ⟨hx, hid, -⟩ := mem_replaceProduct.1 hx
    · rw [hself, hnew]
    · rw [hother hid, hadd (Nat.ne_of_lt (rowid_lt hx)), h.live x hx]
  · rw [hadd (Nat.ne_of_lt (hlt hg))]
    obtain ⟨q, hq, -, rfl⟩ | hg := hghost hg
    · exact h.live q hq
    · exact h.ghost g hg
  · by_cases hrn : r = db.nextRowid
    · exact .inl ⟨p, mem_replaceProduct.2 (.inl rfl), hself.trans hrn.symm⟩
    · rw [hadd hrn] at hr
      obtain ⟨x, hx, hxr⟩ | ⟨g, hg, hgr⟩ := h.rest r hr
      · by_cases hor : x.id = p.id ∨ x.sku = p.sku
        · refine .inr ⟨(db.rowid x.id, x.ftsColumns), ?_, hxr⟩
          simp only [ghostsAfter, replaced, List.mem_append, List.mem_map, List.mem_filter,
            decide_eq_true_eq]
          exact .inl ⟨x, ⟨hx, hor⟩, rfl⟩
        · obtain ⟨hid, hsku⟩ := not_or.1 hor
          exact .inl ⟨x, mem_replaceProduct.2 (.inr ⟨hx, hid, hsku⟩), (hother hid).trans hxr⟩
      · exact .inr ⟨g, List.mem_append_right _ hg, hgr⟩
  · obtain rfl | ⟨hxold, hxid, -⟩ := mem_replaceProduct.1 hx
    · obtain rfl | ⟨hyold, hyid, -⟩ := mem_replaceProduct.1 hy
      · rfl
      · rw [hself, hother hyid] at hxy
        have := rowid_lt hyold
        omega
    · obtain rfl | ⟨hyold, hyid, -⟩ := mem_replaceProduct.1 hy
      · rw [hself, hother hxid] at hxy
        have := rowid_lt hxold
        omega
      · rw [hother hxid, hother hyid] at hxy
        exact h.rowids x hxold y hyold hxy
  · obtain rfl | ⟨hx, hid, hsku⟩ := mem_replaceProduct.1 hx
    · rw [hself]
      exact Nat.ne_of_gt (hlt hg)
    · rw [hother hid]
      obtain ⟨q, hq, hor, rfl⟩ | hg := hghost hg
      · intro hxq
        obtain rfl := h.rowids x hx q hq hxq
        exact hor.elim hid hsku
      · exact h.apart x hx g hg
  · simp only [ghostsAfter, List.map_append, List.map_map]
    refine List.Nodup.append ?_ h.nodup ?_
    · refine List.Nodup.map_on ?_ ((nodup_rows db.tables.products).filter _)
      intro x hx y hy hxy
      exact h.rowids x (List.mem_filter.1 hx).1 y (List.mem_filter.1 hy).1 hxy
    · intro r hr hr'
      obtain ⟨x, hx, rfl⟩ := List.mem_map.1 hr
      obtain ⟨g, hg, hgr⟩ := List.mem_map.1 hr'
      exact h.apart x (List.mem_filter.1 hx).1 g hg hgr.symm
  · refine lt_nextRowid.2 (.inr ⟨p, mem_replaceProduct.2 (.inl rfl), ?_⟩)
    rw [hself]
    exact Nat.le_of_lt (hlt hg)

/-- An insertion that goes through replaces nothing. -/
theorem insertRow_eq (hid : db.tables.products.get? p.id = none) (hsku : db.skuTaken p = false) :
    db.insertRow p = db.replaceProduct p ∧ db.replaced p = [] := by
  have hfree : ∀ q ∈ db.tables.products.rows, ¬ (q.id = p.id ∨ q.sku = p.sku) := by
    rintro q hq (hqid | hqsku)
    · have hget := Table.get?_of_mem hq
      rw [show key q = p.id from hqid, hid] at hget
      cases hget
    · have hqid : q.id ≠ p.id := by
        intro hqid
        have hget := Table.get?_of_mem hq
        rw [show key q = p.id from hqid, hid] at hget
        cases hget
      exact absurd (decide_eq_true ⟨hqsku, hqid⟩) (List.any_eq_false.1 hsku q hq)
  have hall : db.tables.products.filter (fun q => ¬ (q.id = p.id ∨ q.sku = p.sku)) =
      db.tables.products :=
    Table.ext (List.filter_eq_self.2 fun q hq => decide_eq_true (hfree q hq))
  constructor
  · unfold insertRow replaceProduct
    rw [hall]
  · exact List.filter_eq_nil_iff.2 fun q hq => by simpa using hfree q hq

theorem Kept.insert (h : Kept db docs ghosts) (p : Product) :
    ∃ docs', Kept (db.insertProduct p) docs' ghosts := by
  unfold insertProduct
  split
  · exact ⟨docs, h⟩
  · rename_i hfree
    simp only [Option.isSome_iff_ne_none, ne_eq, not_or, not_not, Bool.not_eq_true] at hfree
    obtain ⟨heq, hnone⟩ := insertRow_eq hfree.1 hfree.2
    have hkept := h.replace p
    simp only [ghostsAfter, hnone, List.map_nil, List.nil_append] at hkept
    rw [heq]
    exact ⟨_, hkept⟩

theorem mem_updateRow {old x : Product} : x ∈ (db.updateRow old p).tables.products.rows ↔
    x = p ∨ x ∈ db.tables.products.rows ∧ x.id ≠ p.id := Table.mem_put

theorem Kept.updateRow {old : Product} (h : Kept db docs ghosts)
    (hold : db.tables.products.get? p.id = some old) : Kept (db.updateRow old p)
      ((docs.delete (db.rowid old.id) old.ftsColumns).add (db.rowid old.id) p.ftsColumns) ghosts := by
  have hid : old.id = p.id := Table.key_of_get? hold
  have hmem : old ∈ db.tables.products.rows := Table.mem_of_get? hold
  have hself : (docs.delete (db.rowid old.id) old.ftsColumns).add (db.rowid old.id) p.ftsColumns
      (db.rowid old.id) = [p.ftsColumns] := by
    simp [FtsDocs.add, FtsDocs.delete, h.live old hmem]
  have hother : ∀ {r : Nat}, r ≠ db.rowid old.id →
      (docs.delete (db.rowid old.id) old.ftsColumns).add (db.rowid old.id) p.ftsColumns r = docs r := by
    intro r hr
    simp [FtsDocs.add, FtsDocs.delete, hr]
  -- the row that is there has the rowid of the one before
  have hback : ∀ {x : Product}, x ∈ (db.updateRow old p).tables.products.rows →
      x = p ∨ x ∈ db.tables.products.rows ∧ db.rowid x.id ≠ db.rowid old.id := by
    intro x hx
    obtain rfl | ⟨hx, hxid⟩ := mem_updateRow.1 hx
    · exact .inl rfl
    · refine .inr ⟨hx, fun hr => hxid ?_⟩
      rw [h.rowids x hx old hmem hr, hid]
  refine ⟨?_, h.triggers, fun x hx => ?_, fun g hg => ?_, fun r hr => ?_, fun x hx y hy hxy => ?_,
    fun x hx g hg => ?_, h.nodup, fun g hg => ?_⟩
  · simp [IndexedDb.updateRow, fire, h.triggers, h.there]
  · obtain rfl | ⟨hx, hr⟩ := hback hx
    · exact (congrArg _ (congrArg db.rowid hid.symm)).trans hself
    · exact (hother hr).trans (h.live x hx)
  · rw [hother (Ne.symm (h.apart old hmem g hg)), h.ghost g hg]
  · by_cases hro : r = db.rowid old.id
    · refine .inl ⟨p, mem_updateRow.2 (.inl rfl), ?_⟩
      exact (congrArg db.rowid hid.symm).trans hro.symm
    · rw [hother hro] at hr
      obtain ⟨x, hx, hxr⟩ | hg := h.rest r hr
      · refine .inl ⟨x, mem_updateRow.2 (.inr ⟨hx, fun hxid => hro ?_⟩), hxr⟩
        rw [← hxr, hxid, hid]
      · exact .inr hg
  · change db.rowid x.id = db.rowid y.id at hxy
    obtain rfl | ⟨hx, hxr⟩ := hback hx
    · obtain rfl | ⟨hy, hyr⟩ := hback hy
      · rfl
      · rw [hid] at hyr
        exact absurd hxy.symm hyr
    · obtain rfl | ⟨hy, -⟩ := hback hy
      · rw [hid] at hxr
        exact absurd hxy hxr
      · exact h.rowids x hx y hy hxy
  · change db.rowid x.id ≠ g.1
    obtain rfl | ⟨hx, -⟩ := hback hx
    · rw [← hid]
      exact h.apart old hmem g hg
    · exact h.apart x hx g hg
  · obtain hzero | ⟨x, hx, hle⟩ := lt_nextRowid.1 (h.bound g hg)
    · exact lt_nextRowid.2 (.inl hzero)
    · by_cases hxid : x.id = p.id
      · exact lt_nextRowid.2 (.inr ⟨p, mem_updateRow.2 (.inl rfl), hxid ▸ hle⟩)
      · exact lt_nextRowid.2 (.inr ⟨x, mem_updateRow.2 (.inr ⟨hx, hxid⟩), hle⟩)

theorem Kept.update (h : Kept db docs ghosts) (p : Product) :
    ∃ docs', Kept (db.updateProduct p) docs' ghosts := by
  unfold updateProduct
  split
  · rename_i old hold
    split
    · exact ⟨docs, h⟩
    · exact ⟨_, h.updateRow hold⟩
  · exact ⟨docs, h⟩

theorem Kept.upsert (h : Kept db docs ghosts) (p : Product) :
    ∃ docs', Kept (db.upsertProduct p) docs' ghosts := by
  unfold upsertProduct
  split
  · exact h.update p
  · exact h.insert p

/-- Nothing is left under the rowids of the rows. -/
theorem foldl_delete : ∀ {ps : List Product} {docs : FtsDocs},
    (∀ p ∈ ps, docs (db.rowid p.id) = [p.ftsColumns]) → (ps.map fun p => db.rowid p.id).Nodup →
      ∀ r, ps.foldl (fun docs p => docs.delete (db.rowid p.id) p.ftsColumns) docs r ≠ [] →
        docs r ≠ [] ∧ ∀ p ∈ ps, db.rowid p.id ≠ r
  | [], _, _, _, _, hr => ⟨hr, by simp⟩
  | p :: ps, docs, hlive, hnodup, r, hr => by
    obtain ⟨hp, hnodup⟩ := List.nodup_cons.1 hnodup
    have hother : ∀ {r : Nat}, r ≠ db.rowid p.id →
        docs.delete (db.rowid p.id) p.ftsColumns r = docs r := fun hr => Function.update_of_ne hr ..
    have hps : ∀ q ∈ ps, docs.delete (db.rowid p.id) p.ftsColumns (db.rowid q.id) = [q.ftsColumns] := by
      intro q hq
      rw [hother, hlive q (List.mem_cons_of_mem p hq)]
      exact fun he => hp (List.mem_map.2 ⟨q, hq, he⟩)
    obtain ⟨hne, hrest⟩ := foldl_delete hps hnodup r hr
    have hpr : db.rowid p.id ≠ r := by
      rintro rfl
      refine hne ?_
      rw [FtsDocs.delete, Function.update_self, hlive p List.mem_cons_self]
      simp
    rw [hother hpr.symm] at hne
    exact ⟨hne, List.forall_mem_cons.2 ⟨hpr, hrest⟩⟩

theorem Kept.deleteAll (h : Kept db docs []) : ∃ docs', Kept db.deleteAll docs' [] := by
  have hnodup : (db.tables.products.rows.map fun p => db.rowid p.id).Nodup :=
    (nodup_rows db.tables.products).map_on fun x hx y hy hxy => h.rowids x hx y hy hxy
  have hgone : ∀ r, db.tables.products.rows.foldl
      (fun docs p => docs.delete (db.rowid p.id) p.ftsColumns) docs r = [] := by
    intro r
    by_contra hr
    obtain ⟨hne, hfree⟩ := foldl_delete h.live hnodup r hr
    obtain ⟨p, hp, hpr⟩ | ⟨g, hg, -⟩ := h.rest r hne
    · exact hfree p hp hpr
    · cases hg
  refine ⟨_, by simp [IndexedDb.deleteAll, fire, h.triggers, h.there], h.triggers,
    fun p hp => (by cases hp), fun g hg => (by cases hg), fun r hr => absurd (hgone r) hr,
    fun p hp => (by cases hp), fun p hp => (by cases hp), by simp, fun g hg => (by cases hg)⟩

theorem kept_rebuild (htriggers : db'.triggers = true) (htables : db'.tables = db.tables)
    (hrowid : db'.rowid = db.rowid) (hdocs : db'.docs = db.rebuild.docs)
    (hrowids : ∀ p ∈ db.tables.products.rows, ∀ q ∈ db.tables.products.rows,
      db.rowid p.id = db.rowid q.id → p = q) : ∃ docs', Kept db' docs' [] := by
  refine ⟨_, hdocs, htriggers, fun p hp => ?_, fun g hg => (by cases hg), fun r hr => ?_, ?_,
    fun p _ g hg => (by cases hg), by simp, fun g hg => (by cases hg)⟩
  · rw [htables] at hp
    have hone : db.tables.products.rows.filter (fun q => decide (db.rowid q.id = db.rowid p.id)) =
        db.tables.products.rows.filter (· = p) := by
      refine List.filter_congr fun q hq => decide_eq_decide.2 ⟨hrowids q hq p hp, ?_⟩
      rintro rfl
      rfl
    rw [hrowid, hone, List.filter_eq, List.count_eq_one_of_mem (nodup_rows _) hp]
    rfl
  · rw [htables, hrowid]
    obtain ⟨p, hp⟩ := List.exists_mem_of_ne_nil
      (db.tables.products.rows.filter (db.rowid ·.id = r)) fun h => hr (by rw [h]; rfl)
    obtain ⟨hp, hpr⟩ := List.mem_filter.1 hp
    exact .inl ⟨p, hp, of_decide_eq_true hpr⟩
  · rw [htables, hrowid]
    exact hrowids

theorem ensureProductsFts_eq (hthere : db.docs = some docs) (htriggers : db.triggers = true) :
    db.ensureProductsFts = db := by
  unfold ensureProductsFts ftsCount
  rw [hthere]
  simp only [htriggers, if_true]
  exact if_neg fun h => by omega

/-- A step keeps the index, if the ghosts are gone when the products are deleted. -/
theorem Kept.step (h : Kept db docs ghosts) {e : ProductStatement} (he : e = .deleteAll → ghosts = []) :
    ∃ docs', Kept (db.step e) docs' (db.ghostsAfter ghosts e) := by
  cases e with
  | insert p => exact h.insert p
  | update p => exact h.update p
  | upsert p => exact h.upsert p
  | replace p => exact ⟨_, h.replace p⟩
  | deleteAll =>
    obtain rfl := he rfl
    exact h.deleteAll
  | wipe => exact kept_rebuild h.triggers rfl rfl rfl fun p hp => (by cases hp)
  | startup =>
    rw [IndexedDb.step, ensureProductsFts_eq h.there h.triggers]
    exact ⟨docs, h⟩

/-! ## What matches -/

variable {fts : Fts5} {query : String} {hits : List Nat}

theorem Kept.mem_hits (h : Kept db docs ghosts) (ha : db.Answers fts query hits) : r ∈ hits ↔
    (∃ p ∈ db.tables.products.rows, db.rowid p.id = r ∧ fts.finds query [p.ftsColumns] = true) ∨
      ∃ g ∈ ghosts, g.1 = r ∧ fts.finds query [g.2] = true := by
  obtain ⟨-, docs', hthere, hmem⟩ := ha
  rw [h.there] at hthere
  cases hthere
  rw [hmem]
  constructor
  · intro hfinds
    have hne : docs r ≠ [] := by
      intro hnone
      rw [hnone, fts.nothing] at hfinds
      cases hfinds
    obtain ⟨p, hp, rfl⟩ | ⟨g, hg, rfl⟩ := h.rest r hne
    · exact .inl ⟨p, hp, rfl, h.live p hp ▸ hfinds⟩
    · exact .inr ⟨g, hg, rfl, h.ghost g hg ▸ hfinds⟩
  · rintro (⟨p, hp, rfl, hfinds⟩ | ⟨g, hg, rfl, hfinds⟩)
    · rw [h.live p hp, hfinds]
    · rw [h.ghost g hg, hfinds]

theorem Kept.perm_hits (h : Kept db docs ghosts) (ha : db.Answers fts query hits) : hits.Perm
    (((db.tables.products.rows.filter fun p => fts.finds query [p.ftsColumns]).map fun p => db.rowid p.id) ++
      (ghosts.filter fun g => fts.finds query [g.2]).map Prod.fst) := by
  refine (List.perm_ext_iff_of_nodup ha.1 (List.Nodup.append ?_ ?_ ?_)).2 fun r => ?_
  · refine ((nodup_rows db.tables.products).filter _).map_on fun x hx y hy hxy => ?_
    exact h.rowids x (List.mem_filter.1 hx).1 y (List.mem_filter.1 hy).1 hxy
  · exact h.nodup.sublist (List.filter_sublist.map _)
  · intro r hr hr'
    obtain ⟨p, hp, rfl⟩ := List.mem_map.1 hr
    obtain ⟨g, hg, hgr⟩ := List.mem_map.1 hr'
    exact h.apart p (List.mem_filter.1 hp).1 g (List.mem_filter.1 hg).1 hgr.symm
  · rw [h.mem_hits ha]
    simp only [List.mem_append, List.mem_map, List.mem_filter]
    constructor
    · rintro (⟨p, hp, rfl, hf⟩ | ⟨g, hg, rfl, hf⟩)
      · exact .inl ⟨p, ⟨hp, hf⟩, rfl⟩
      · exact .inr ⟨g, ⟨hg, hf⟩, rfl⟩
    · rintro (⟨p, ⟨hp, hf⟩, rfl⟩ | ⟨g, ⟨hg, hf⟩, rfl⟩)
      · exact .inl ⟨p, hp, rfl, hf⟩
      · exact .inr ⟨g, hg, rfl, hf⟩

theorem Kept.productAt (h : Kept db docs ghosts) :
    db.productAt r = some p ↔ p ∈ db.tables.products.rows ∧ db.rowid p.id = r := by
  unfold IndexedDb.productAt
  constructor
  · intro hfind
    exact ⟨List.mem_of_find?_eq_some hfind, of_decide_eq_true (List.find?_some hfind :)⟩
  · rintro ⟨hp, rfl⟩
    cases hfind : db.tables.products.rows.find? fun q => decide (db.rowid q.id = db.rowid p.id) with
    | none => exact absurd (decide_eq_true rfl) (List.find?_eq_none.1 hfind p hp)
    | some q =>
      exact congrArg some (h.rowids q (List.mem_of_find?_eq_some hfind) p hp
        (of_decide_eq_true (List.find?_some hfind :)))

/-- The products of the matches are those that match. -/
theorem Kept.perm_found (h : Kept db docs ghosts) (ha : db.Answers fts query hits) :
    (hits.filterMap db.productAt).Perm
      (db.tables.products.rows.filter fun p => fts.finds query [p.ftsColumns]) := by
  refine (List.perm_ext_iff_of_nodup (ha.1.filterMap fun r r' p hr hr' => ?_)
    ((nodup_rows db.tables.products).filter _)).2 fun p => ?_
  · rw [← (h.productAt.1 hr).2, (h.productAt.1 hr').2]
  · rw [List.mem_filterMap, List.mem_filter]
    constructor
    · rintro ⟨r, hr, hp⟩
      obtain ⟨hp, hpr⟩ := h.productAt.1 hp
      obtain ⟨q, hq, hqr, hf⟩ | ⟨g, hg, hgr, -⟩ := (h.mem_hits ha).1 hr
      · obtain rfl := h.rowids p hp q hq (hpr.trans hqr.symm)
        exact ⟨hp, hf⟩
      · exact absurd (hpr.trans hgr.symm) (h.apart p hp g hg)
    · rintro ⟨hp, hf⟩
      exact ⟨db.rowid p.id, (h.mem_hits ha).2 (.inl ⟨p, hp, rfl, hf⟩), h.productAt.2 ⟨hp, rfl⟩⟩

/-! ## Runs -/

/-- What is indexed is in the table. -/
def Clean (db : IndexedDb) : Prop :=
  ∀ docs, db.docs = some docs → ∀ r, docs r ≠ [] → ∃ p ∈ db.tables.products.rows, db.rowid p.id = r

theorem Kept.no_ghosts (h : Kept db docs ghosts) (hclean : db.Clean) : ghosts = [] := by
  refine List.eq_nil_iff_forall_not_mem.2 fun g hg => ?_
  obtain ⟨p, hp, hpr⟩ := hclean docs h.there g.1 (by rw [h.ghost g hg]; simp)
  exact h.apart p hp g hg hpr

/-- A statement, with the ghosts that it leaves. -/
def stepGhosts (s : IndexedDb × List (Nat × FtsColumns)) (e : ProductStatement) :
    IndexedDb × List (Nat × FtsColumns) :=
  (s.1.step e, s.1.ghostsAfter s.2 e)

/-- The rows have their rowids, and the index is not there. -/
structure Unindexed (db : IndexedDb) : Prop where
  docs : db.docs = none
  rowids : ∀ p ∈ db.tables.products.rows, ∀ q ∈ db.tables.products.rows,
    db.rowid p.id = db.rowid q.id → p = q

theorem Unindexed.kept (h : db.Unindexed) : ∃ docs, Kept db.ensureProductsFts docs [] := by
  unfold ensureProductsFts
  rw [h.docs]
  exact kept_rebuild rfl rfl rfl rfl h.rowids

theorem Kept.of_search {rs : SearchRust} {answer : String → Option (List Nat)} {storeId : Option String}
    {found : List FoundProduct} (h : Kept db docs ghosts)
    (hanswer : ∀ q hits, answer q = some hits → db.Answers fts q hits)
    (hfound : db.searchProductsFts5 rs answer query storeId = .ok found) :
    (∀ f ∈ found, f.product ∈ db.tables.products.rows ∧
      ∃ q, ftsQuery rs query = some q ∧ fts.finds q [f.product.ftsColumns] = true) ∨
      searchProductsLike rs db.tables query storeId none = .ok found := by
  unfold searchProductsFts5 at hfound
  split at hfound
  · cases hfound
    exact .inl (by simp)
  · split at hfound
    · exact .inr hfound
    · rename_i hits hbind
      obtain ⟨q, hq, hhits⟩ := Option.bind_eq_some_iff.1 hbind
      split at hfound
      · rename_i f fs hread
        cases hfound
        refine .inl fun x hx => ?_
        have hmap : (f :: fs).map FoundProduct.product = (hits.take 50).filterMap db.productAt := by
          by_cases hall : ∀ p ∈ (hits.take 50).filterMap db.productAt, db.tables.Readable storeId p
          · obtain ⟨fs', hfs', hmap⟩ := mapM_readFound_ok "Failed to read FTS5 product record" hall
            rw [hread] at hfs'
            cases hfs'
            exact hmap
          · obtain ⟨e, he⟩ := mapM_readFound_error "Failed to read FTS5 product record" hall
            rw [hread] at he
            cases he
        have hmem : x.product ∈ hits.filterMap db.productAt := by
          refine (List.Sublist.filterMap _ (List.take_sublist 50 hits)).subset ?_
          rw [← hmap]
          exact List.mem_map_of_mem hx
        have := (h.perm_found (hanswer q hits hhits)).mem_iff.1 hmem
        exact ⟨(List.mem_filter.1 this).1, q, hq, (List.mem_filter.1 this).2⟩
      · exact .inr hfound

end IndexedDb

open IndexedDb

/-- **The search finds what is there.** In every run of statements and starts in which the products are
deleted only while no replaced row is indexed: a product that the index finds is in the table, and matches
with the columns that it has now. -/
theorem search_current {fts : Fts5} (h : db.Unindexed) (rs : SearchRust) {es : List ProductStatement}
    (hes : Along IndexedDb.step (fun db e => e = .deleteAll → db.Clean) db.ensureProductsFts es) :
    Always IndexedDb.step (fun db => ∀ answer query storeId found,
      (∀ q hits, answer q = some hits → db.Answers fts q hits) →
      db.searchProductsFts5 rs answer query storeId = .ok found →
      (∀ f ∈ found, f.product ∈ db.tables.products.rows ∧
        ∃ q, ftsQuery rs query = some q ∧ fts.finds q [f.product.ftsColumns] = true) ∨
        searchProductsLike rs db.tables query storeId none = .ok found) db.ensureProductsFts es := by
  obtain ⟨docs, hkept⟩ := h.kept
  have hinv : Always IndexedDb.step (fun db => ∃ docs ghosts, IndexedDb.Kept db docs ghosts)
      db.ensureProductsFts es := by
    refine hes.always ⟨docs, [], hkept⟩ ?_
    rintro db e ⟨docs, ghosts, h⟩ he
    obtain ⟨docs', h'⟩ := h.step fun hdel => h.no_ghosts (he hdel)
    exact ⟨docs', _, h'⟩
  refine hinv.mono ?_
  rintro db ⟨docs, ghosts, h⟩ answer query storeId found hanswer hfound
  exact h.of_search hanswer hfound

/-- **Replaced rows count.** In such a run, a query has as many matches as there are products that match and
replaced rows that matched; only an emptied index (`delete_all_data`) is rid of them. -/
theorem hits_counted {fts : Fts5} (h : db.Unindexed) {es : List ProductStatement}
    (hes : Along stepGhosts (fun s e => e = .deleteAll → s.2 = []) (db.ensureProductsFts, []) es) :
    Always stepGhosts (fun s => ∀ query hits, s.1.Answers fts query hits →
      hits.length = s.1.tables.products.rows.countP (fun p => fts.finds query [p.ftsColumns]) +
        s.2.countP fun g => fts.finds query [g.2]) (db.ensureProductsFts, []) es := by
  obtain ⟨docs, hkept⟩ := h.kept
  have hinv : Always stepGhosts (fun s => ∃ docs, IndexedDb.Kept s.1 docs s.2)
      (db.ensureProductsFts, []) es := by
    refine hes.always ⟨docs, hkept⟩ ?_
    rintro s e ⟨docs, h⟩ he
    exact h.step he
  refine hinv.mono ?_
  rintro s ⟨docs, h⟩ query hits ha
  rw [(h.perm_hits ha).length_eq, List.length_append, List.length_map, List.length_map,
    List.countP_eq_length_filter, List.countP_eq_length_filter]

theorem trim_ne_of_ftsQuery {rs : SearchRust} {query q : String} (h : ftsQuery rs query = some q) :
    trim query ≠ "" := by
  intro hempty
  unfold ftsQuery at h
  rw [hempty] at h
  simp at h

/-- **Without replacements nothing is lost.** In every run without `INSERT OR REPLACE`, a search finds all
products that match, by rank, if there are one to fifty of them and their stocks can be read. -/
theorem search_complete {fts : Fts5} (h : db.Unindexed) (rs : SearchRust) {es : List ProductStatement}
    (hes : ∀ p, .replace p ∉ es) :
    Always IndexedDb.step (fun db => ∀ answer query storeId q hits, ftsQuery rs query = some q →
      answer q = some hits → db.Answers fts q hits →
      db.tables.products.rows.filter (fun p => fts.finds q [p.ftsColumns]) ≠ [] →
      (db.tables.products.rows.filter fun p => fts.finds q [p.ftsColumns]).length ≤ 50 →
      (∀ p ∈ db.tables.products.rows, db.tables.Readable storeId p) →
      ∃ found, db.searchProductsFts5 rs answer query storeId = .ok found ∧
        found.map FoundProduct.product = hits.filterMap db.productAt ∧
        (found.map FoundProduct.product).Perm
          (db.tables.products.rows.filter fun p => fts.finds q [p.ftsColumns]))
      db.ensureProductsFts es := by
  obtain ⟨docs, hkept⟩ := h.kept
  have halong : Along IndexedDb.step (fun _ e => ∀ p, e ≠ .replace p) db.ensureProductsFts es :=
    along_of_mem (fun e he _ p => ne_of_mem_of_not_mem he (hes p)) _
  have hinv : Always IndexedDb.step (fun db => ∃ docs, IndexedDb.Kept db docs [])
      db.ensureProductsFts es := by
    refine halong.always ⟨docs, hkept⟩ ?_
    rintro db e ⟨docs, h⟩ he
    have hstep := h.step fun _ : e = .deleteAll => rfl
    have hnone : db.ghostsAfter [] e = [] := by
      cases e with
      | replace p => exact absurd rfl (he p)
      | _ => rfl
    rw [hnone] at hstep
    exact hstep
  refine hinv.mono ?_
  rintro db ⟨docs, h⟩ answer query storeId q hits hq hhits ha hsome hfew hread
  have hlen : hits.length ≤ 50 := by
    have := (h.perm_hits ha).length_eq
    simp only [List.length_append, List.length_map, List.filter_nil, List.length_nil, Nat.add_zero] at this
    omega
  have hperm := h.perm_found ha
  have hreadable : ∀ p ∈ hits.filterMap db.productAt, db.tables.Readable storeId p :=
    fun p hp => hread p (List.mem_filter.1 (hperm.mem_iff.1 hp)).1
  obtain ⟨found, hfound, hmap⟩ := mapM_readFound_ok "Failed to read FTS5 product record" hreadable
  refine ⟨found, ?_, hmap, hmap ▸ hperm⟩
  unfold searchProductsFts5
  rw [if_neg (trim_ne_of_ftsQuery hq), hq, Option.bind_some, hhits]
  simp only [List.take_of_length_le hlen, hfound]
  cases found with
  | nil =>
    rw [List.map_nil] at hmap
    rw [← hmap] at hperm
    exact absurd hperm.nil_eq.symm hsome
  | cons f fs => rfl

/-! ## A catalogue that is restored -/

namespace IndexedDb.Sample

def bolt : Product :=
  ⟨"PROD-1", "BOLT", "Bolt", none, none, "Hardware", "pcs", none, none, false, true, none, 0, 0⟩

def nut : Product :=
  ⟨"PROD-2", "NUT", "Nut", none, none, "Hardware", "pcs", none, none, false, true, none, 0, 0⟩

def unindexed : IndexedDb := ⟨Tables.empty, fun _ => 0, none, false⟩

theorem unindexed_empty : unindexed.Unindexed := ⟨rfl, fun p hp => by cases hp⟩

/-- A query is the name of a product. -/
def byName : Fts5 where
  finds query docs := docs.any (·.name = query)
  nothing _ := rfl

def restore : List ProductStatement := [.insert bolt, .insert nut, .replace bolt, .replace nut, .startup]

def edits : List ProductStatement :=
  [.insert bolt, .upsert { bolt with name := "Hex bolt" }, .deleteAll, .insert nut]

/-- The rowid of a deleted product comes back, and has what was indexed for a replaced one. -/
example : (List.foldl IndexedDb.step unindexed.ensureProductsFts
    [.insert bolt, .replace { bolt with name := "Hex bolt" }, .deleteAll, .insert nut]).docs.map (· 1) =
      some [nut.ftsColumns, bolt.ftsColumns] := by
  decide

end IndexedDb.Sample

open IndexedDb.Sample

theorem restored_current : Always IndexedDb.step (fun db => ∀ answer query storeId found,
    (∀ q hits, answer q = some hits → db.Answers byName q hits) →
    db.searchProductsFts5 Parts.searchRust answer query storeId = .ok found →
    (∀ f ∈ found, f.product ∈ db.tables.products.rows ∧
      ∃ q, ftsQuery Parts.searchRust query = some q ∧ byName.finds q [f.product.ftsColumns] = true) ∨
      searchProductsLike Parts.searchRust db.tables query storeId none = .ok found)
    unindexed.ensureProductsFts restore :=
  search_current unindexed_empty Parts.searchRust (along_of_mem (fun e he _ hdel => by
    subst hdel
    simp [restore] at he) _)

/-- Each product counts twice. -/
theorem restored_twice : Always stepGhosts (fun s => ∀ query hits, s.1.Answers byName query hits →
    hits.length = s.1.tables.products.rows.countP (fun p => byName.finds query [p.ftsColumns]) +
      s.2.countP fun g => byName.finds query [g.2]) (unindexed.ensureProductsFts, []) restore ∧
    ((restore.foldl stepGhosts (unindexed.ensureProductsFts, [])).2.map fun g => g.2.name) = ["Nut", "Bolt"] :=
  ⟨hits_counted unindexed_empty (along_of_mem (fun e he _ hdel => by
    subst hdel
    simp [restore] at he) _), by decide⟩

theorem edits_complete : Always IndexedDb.step (fun db => ∀ answer query storeId q hits,
    ftsQuery Parts.searchRust query = some q → answer q = some hits → db.Answers byName q hits →
    db.tables.products.rows.filter (fun p => byName.finds q [p.ftsColumns]) ≠ [] →
    (db.tables.products.rows.filter fun p => byName.finds q [p.ftsColumns]).length ≤ 50 →
    (∀ p ∈ db.tables.products.rows, db.tables.Readable storeId p) →
    ∃ found, db.searchProductsFts5 Parts.searchRust answer query storeId = .ok found ∧
      found.map FoundProduct.product = hits.filterMap db.productAt ∧
      (found.map FoundProduct.product).Perm
        (db.tables.products.rows.filter fun p => byName.finds q [p.ftsColumns]))
    unindexed.ensureProductsFts edits :=
  search_complete unindexed_empty Parts.searchRust (by simp [edits])

end Desktop.Catalogue
