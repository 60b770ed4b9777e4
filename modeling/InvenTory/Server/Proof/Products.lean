import InvenTory.Lib.Runs
import InvenTory.Server.Proof.Referenced
import InvenTory.Server.Widths

/-!
# A pushed product

`upsertProduct_ok_iff` says what the upsert of a snapshot does: it puts one row (`pushedRow`), unless
another product has the SKU of that row. `upsertFitting_ok_iff` adds the widths.
-/

namespace Server

open Relational Py Runs

variable {c c' : CentralDb} {now : DateTime} {p : ProductSnapshot}

namespace Db

variable {db db' : Db} {r : Product}

theorem updateProduct_ok_iff : db.updateProduct r = .ok db' ↔
    (∀ q ∈ db.products.rows, q.sku = r.sku → q.id = r.id) ∧
      db' = { db with products := db.products.put r } := by
  unfold updateProduct
  split
  · rename_i h
    obtain ⟨q, hq, hc⟩ := List.any_eq_true.1 h
    simp only [decide_eq_true_eq] at hc
    exact ⟨(fun he => by cases he), fun ⟨hall, _⟩ => absurd (hall q hq hc.1) hc.2⟩
  · rename_i h
    refine ⟨fun he => ⟨fun q hq hsku => ?_, (Except.ok.inj he).symm⟩, fun he => by rw [he.2]⟩
    by_contra hne
    exact h (List.any_eq_true.2 ⟨q, hq, by simpa using ⟨hsku, hne⟩⟩)

/-- A new row. -/
theorem insertProduct_ok_iff (hnew : db.products.get? r.id = none) : db.insertProduct r = .ok db' ↔
    (∀ q ∈ db.products.rows, q.sku = r.sku → q.id = r.id) ∧
      db' = { db with products := db.products.put r } := by
  unfold insertProduct
  rw [hnew, if_neg (by simp)]
  split
  · rename_i h
    obtain ⟨q, hq, hsku⟩ := List.any_eq_true.1 h
    refine ⟨(fun he => by cases he), fun ⟨hall, _⟩ => ?_⟩
    have hid : key q = r.id := hall q hq (by simpa using hsku)
    have hget := Table.get?_of_mem hq
    rw [hid, hnew] at hget
    cases hget
  · rename_i h
    refine ⟨fun he => ⟨fun q hq hsku => ?_, (Except.ok.inj he).symm⟩, fun he => by rw [he.2]⟩
    exact absurd (List.any_eq_true.2 ⟨q, hq, by simpa using hsku⟩) h

end Db

namespace CentralDb

/-- The row that a snapshot leaves. -/
def pushedRow (c : CentralDb) (p : ProductSnapshot) : Product :=
  match c.db.products.get? p.id with
  | none =>
    ⟨p.id, if (c.db.skuOwner p.sku fun _ => true).isSome then p.sku ++ "-" ++ takeFirst 8 p.id
      else p.sku, p.name, orElse p.category "General", orElse p.unit "pcs", p.isActive⟩
  | some old =>
    ⟨old.id, if startsWith p.sku "OFFLINE-" then old.sku
      else if (c.db.skuOwner p.sku fun q => q.id ≠ p.id).isSome then old.sku else p.sku,
      p.name, orElse p.category old.category, orElse p.unit old.unit, p.isActive⟩

def pushedStamp (now : DateTime) (c : CentralDb) (p : ProductSnapshot) : DateTime :=
  match c.db.products.get? p.id with
  | none => p.updatedAt.getD now
  | some old =>
    let columns := c.productColumns p.id
    productStamp now columns.updatedAt (flushedName old p)
      (c.pushedRow p ≠ old ∨ p.columns columns.updatedAt ≠ columns) p.updatedAt

/-- The catalogue with that row. -/
def pushed (now : DateTime) (c : CentralDb) (p : ProductSnapshot) : CentralDb :=
  c.putProduct { c.db with products := c.db.products.put (c.pushedRow p) } p.id
    (p.columns (c.pushedStamp now p))

theorem pushedRow_id : (c.pushedRow p).id = p.id := by
  unfold pushedRow
  cases h : c.db.products.get? p.id with
  | none => rfl
  | some old => exact Table.key_of_get? h

theorem upsertProduct_ok_iff : c.upsertProduct now p = .ok c' ↔
    (∀ q ∈ c.db.products.rows, q.sku = (c.pushedRow p).sku → q.id = p.id) ∧
      c' = c.pushed now p := by
  have hid : (c.pushedRow p).id = p.id := pushedRow_id
  have hrow := pushedRow.eq_def c p
  unfold pushed pushedStamp upsertProduct
  cases h : c.db.products.get? p.id with
  | none =>
    simp only [h] at hrow
    dsimp only
    rw [insertProductSnapshot, ← hrow, bind_ok_iff]
    simp only [Db.insertProduct_ok_iff (hid ▸ h), hid]
    constructor
    · rintro ⟨db, ⟨hall, rfl⟩, he⟩
      exact ⟨hall, (Except.ok.inj he).symm⟩
    · rintro ⟨hall, rfl⟩
      exact ⟨_, ⟨hall, rfl⟩, rfl⟩
  | some old =>
    simp only [h] at hrow
    dsimp only
    rw [updateProductSnapshot, ← hrow, bind_ok_iff]
    simp only [Db.updateProduct_ok_iff, hid]
    constructor
    · rintro ⟨db, ⟨hall, rfl⟩, he⟩
      exact ⟨hall, (Except.ok.inj he).symm⟩
    · rintro ⟨hall, rfl⟩
      exact ⟨_, ⟨hall, rfl⟩, rfl⟩

@[simp] theorem pushed_get?_self : (c.pushed now p).db.products.get? p.id = some (c.pushedRow p) := by
  have h := Table.get?_put_self c.db.products (c.pushedRow p)
  rwa [show key (c.pushedRow p) = p.id from pushedRow_id] at h

theorem pushed_get?_of_ne {id : String} (h : id ≠ p.id) :
    (c.pushed now p).db.products.get? id = c.db.products.get? id :=
  Table.get?_put_of_ne _ (by rw [show key (c.pushedRow p) = p.id from pushedRow_id]; exact h.symm)

@[simp] theorem pushed_columns_self :
    (c.pushed now p).productColumns p.id = p.columns (c.pushedStamp now p) := Function.update_self ..

theorem pushed_columns_of_ne {id : String} (h : id ≠ p.id) :
    (c.pushed now p).productColumns id = c.productColumns id := Function.update_of_ne h ..

/-- **A snapshot is written** if its row fits the columns and no other product has its SKU. -/
theorem upsertFitting_ok_iff : c.upsertFitting now p = .ok c' ↔
    (∀ q ∈ c.db.products.rows, q.sku = (c.pushedRow p).sku → q.id = p.id) ∧
      (c.pushedRow p).fits = true ∧ (p.columns now).fits = true ∧ c' = c.pushed now p := by
  unfold upsertFitting
  simp only [bind_ok_iff, upsertProduct_ok_iff]
  constructor
  · rintro ⟨_, ⟨hall, rfl⟩, h⟩
    split at h
    · rename_i hfits
      simp only [pushed_get?_self, pushed_columns_self, Option.all_some, Bool.and_eq_true] at hfits
      exact ⟨hall, hfits.1, hfits.2, (Except.ok.inj h).symm⟩
    · cases h
  · rintro ⟨hall, hrow, hcolumns, rfl⟩
    refine ⟨_, ⟨hall, rfl⟩, if_pos ?_⟩
    simp only [pushed_get?_self, pushed_columns_self, Option.all_some, Bool.and_eq_true]
    exact ⟨hrow, hcolumns⟩

end CentralDb

end Server
