import InvenTory.Desktop.Proof.Projection
import InvenTory.Desktop.Search

/-!
# The search in a category

The first hundred matches are taken before the category is looked at. So a category whose products are
not all among them loses some, unless none is and the columns happen to give the same
(`searchProducts_category_iff`).
-/

namespace Desktop.Catalogue

open Relational

/-! ## Matches and the products they name -/

section
variable {ρ κ : Type} [DecidableEq κ] [Keyed ρ κ] {t : Table ρ} {l : List κ} {r : ρ} {p : ρ → Bool}

theorem mem_filterMap_get? : r ∈ l.filterMap t.get? ↔ key r ∈ l ∧ r ∈ t.rows := by
  rw [List.mem_filterMap]
  constructor
  · rintro ⟨k, hk, hget⟩
    exact ⟨(Table.key_of_get? hget).symm ▸ hk, Table.mem_of_get? hget⟩
  · rintro ⟨hk, hr⟩
    exact ⟨key r, hk, Table.get?_of_mem hr⟩

/-- No product is found twice. -/
theorem nodup_filterMap_get? (h : l.Nodup) : (l.filterMap t.get?).Nodup := by
  refine h.filterMap fun k k' r hk hk' => ?_
  rw [← Table.key_of_get? hk, ← Table.key_of_get? hk']

/-- What is left of a part of the matches. -/
def among (t : Table ρ) (p : ρ → Bool) (l : List κ) : List ρ := (l.filterMap t.get?).filter p

theorem mem_among : r ∈ among t p l ↔ (key r ∈ l ∧ r ∈ t.rows) ∧ p r = true := by
  rw [among, List.mem_filter, mem_filterMap_get?]

theorem among_split (t : Table ρ) (p : ρ → Bool) (l : List κ) (n : Nat) :
    among t p l = among t p (l.take n) ++ among t p (l.drop n) := by
  unfold among
  rw [← List.filter_append, ← List.filterMap_append, List.take_append_drop]

/-- **The limit loses nothing** exactly if all that is to be kept is within it. -/
theorem among_take_eq_iff (hl : l.Nodup) (n : Nat) :
    among t p (l.take n) = among t p l ↔ ∀ r ∈ among t p l, key r ∈ l.take n := by
  constructor
  · intro h r hr
    exact (mem_among.1 (h ▸ hr)).1.1
  · intro h
    have hrest : among t p (l.drop n) = [] := by
      refine List.eq_nil_iff_forall_not_mem.2 fun r hr => ?_
      have hin : key r ∈ l.take n := h r (by
        rw [among_split t p l n]
        exact List.mem_append_right _ hr)
      exact List.disjoint_take_drop hl le_rfl hin (mem_among.1 hr).1.1
    rw [among_split t p l n, hrest, List.append_nil]

theorem among_take_eq_nil_iff (n : Nat) :
    among t p (l.take n) = [] ↔ ∀ r ∈ among t p l, key r ∉ l.take n := by
  rw [List.eq_nil_iff_forall_not_mem]
  constructor
  · intro h r hr hk
    exact h r (mem_among.2 ⟨⟨hk, (mem_among.1 hr).1.2⟩, (mem_among.1 hr).2⟩)
  · intro h r hr
    refine h r ?_ (mem_among.1 hr).1.1
    rw [among_split t p l n]
    exact List.mem_append_left _ hr

end

/-! ## Rows that can be read -/

section
variable {t : Tables} {storeId : Option String} {ps : List Product}

/-- The stock of a product fits an `i32`. -/
def Tables.Readable (t : Tables) (storeId : Option String) (p : Product) : Prop :=
  (Db.readI32 (t.stockQuantity storeId p.id)).isSome

theorem readFound_ok (label : String) {p : Product} (h : t.Readable storeId p) :
    ∃ q, t.readFound storeId label p = .ok ⟨p, q⟩ := by
  obtain ⟨q, hq⟩ := Option.isSome_iff_exists.1 h
  exact ⟨q, by rw [Tables.readFound, hq]⟩

theorem readFound_error (label : String) {p : Product} (h : ¬ t.Readable storeId p) :
    ∃ e, t.readFound storeId label p = .error e := by
  have hnone : Db.readI32 (t.stockQuantity storeId p.id) = none := by
    simpa [Tables.Readable] using h
  exact ⟨_, by rw [Tables.readFound, hnone]⟩

/-- Rows are read if each can be, as they are. -/
theorem mapM_readFound_ok (label : String) (h : ∀ p ∈ ps, t.Readable storeId p) :
    ∃ found, ps.mapM (t.readFound storeId label) = .ok found ∧ found.map FoundProduct.product = ps := by
  induction ps with
  | nil => exact ⟨[], rfl, rfl⟩
  | cons p ps ih =>
    obtain ⟨q, hq⟩ := readFound_ok label (h p List.mem_cons_self)
    obtain ⟨found, hfound, hmap⟩ := ih fun p hp => h p (List.mem_cons_of_mem _ hp)
    refine ⟨⟨p, q⟩ :: found, ?_, congrArg (p :: ·) hmap⟩
    rw [List.mapM_cons, hq, hfound]
    rfl

theorem mapM_readFound_error (label : String) (h : ¬ ∀ p ∈ ps, t.Readable storeId p) :
    ∃ e, ps.mapM (t.readFound storeId label) = .error e := by
  induction ps with
  | nil => exact absurd (List.forall_mem_nil _) h
  | cons p ps ih =>
    rw [List.mapM_cons]
    by_cases hp : t.Readable storeId p
    · obtain ⟨q, hq⟩ := readFound_ok label hp
      obtain ⟨e, he⟩ := ih fun hps => h (List.forall_mem_cons.2 ⟨hp, hps⟩)
      exact ⟨e, by rw [hq, he]; rfl⟩
    · obtain ⟨e, he⟩ := readFound_error label hp
      exact ⟨e, by rw [he]; rfl⟩

end

/-! ## The search -/

section
variable (rs : SearchRust) (db : SearchDb) (query : String) (storeId : Option String) (c : String)

/-- What the index matches, by rank; nothing without words. -/
def SearchDb.hits : List String :=
  match db.fts with
  | none => []
  | some index =>
    if ftsTokens rs query = [] then [] else index.hits (" ".intercalate (ftsTokens rs query))

/-- The products of a category that the index matches, by rank. -/
def SearchDb.hitsIn : List Product :=
  among db.tables.products (Tables.inCategory (some c)) (db.hits rs query)

/-- The search returns these products, and nothing else. -/
def Finds (ps : List Product) : Prop :=
  ∃ found, searchProducts rs db query storeId (some c) = .ok found ∧
    found.map FoundProduct.product = ps

variable {rs db query storeId c}

theorem SearchDb.hits_nodup : (db.hits rs query).Nodup := by
  unfold SearchDb.hits
  split
  · exact List.nodup_nil
  · split
    · exact List.nodup_nil
    · exact FtsIndex.nodup _ _

theorem SearchDb.hitsIn_nodup : (db.hitsIn rs query c).Nodup :=
  (nodup_filterMap_get? db.hits_nodup).filter _

/-- A match needs words, and so a term. -/
theorem searchTerm_ne_empty (h : db.hits rs query ≠ []) : searchTerm rs query ≠ "" := by
  intro hterm
  have htokens : ftsTokens rs query = [] := by
    unfold ftsTokens
    rw [hterm]
    rfl
  unfold SearchDb.hits at h
  split at h
  · exact h rfl
  · exact h (if_pos htokens)

theorem searchFts_eq (h : db.hits rs query ≠ []) : searchFts rs db query storeId (some c) =
    (among db.tables.products (Tables.inCategory (some c)) ((db.hits rs query).take 100)).mapM
      (db.tables.readFound storeId "Failed to read FTS5 product record") := by
  unfold SearchDb.hits searchFts among at *
  cases hfts : db.fts with
  | none =>
    rw [hfts] at h
    exact absurd rfl h
  | some index =>
    rw [hfts] at h
    dsimp only at h ⊢
    by_cases htokens : ftsTokens rs query = []
    · rw [if_pos htokens] at h
      exact absurd rfl h
    · rw [if_neg htokens, if_neg htokens]

/-- What the columns give: the first hundred products by name. -/
def SearchDb.likeIn (rs : SearchRust) (db : SearchDb) (query c : String) : List Product :=
  (db.tables.likeMatches (searchTerm rs query) (some c)).take 100

theorem finds_index {found : List FoundProduct} (h : db.hits rs query ≠ [])
    (hfts : searchFts rs db query storeId (some c) = .ok found) (hne : found ≠ []) :
    searchProducts rs db query storeId (some c) = .ok found := by
  unfold searchProducts
  rw [if_neg (searchTerm_ne_empty h), hfts]
  cases found with
  | nil => exact absurd rfl hne
  | cons p ps => rfl

/-- Without a product of the index the search is that of the columns. -/
theorem finds_columns (h : db.hits rs query ≠ [])
    (hfts : ∀ found, searchFts rs db query storeId (some c) = .ok found → found = []) :
    searchProducts rs db query storeId (some c) =
      (db.likeIn rs query c).mapM (db.tables.readFound storeId "Failed to read product record") := by
  unfold searchProducts searchProductsLike
  rw [if_neg (searchTerm_ne_empty h), if_neg (searchTerm_ne_empty h)]
  cases hr : searchFts rs db query storeId (some c) with
  | error e => rfl
  | ok found =>
    rw [hfts found hr]
    rfl

theorem finds_columns_iff {ps : List Product}
    (hcolumns : searchProducts rs db query storeId (some c) =
      (db.likeIn rs query c).mapM (db.tables.readFound storeId "Failed to read product record")) :
    Finds rs db query storeId c ps ↔
      (∀ p ∈ ps, db.tables.Readable storeId p) ∧ db.likeIn rs query c = ps := by
  unfold Finds
  rw [hcolumns]
  by_cases hread : ∀ p ∈ db.likeIn rs query c, db.tables.Readable storeId p
  · obtain ⟨found, hfound, hmap⟩ := mapM_readFound_ok "Failed to read product record" hread
    constructor
    · rintro ⟨found', hok, rfl⟩
      cases hfound.symm.trans hok
      exact ⟨hmap ▸ hread, hmap.symm⟩
    · rintro ⟨-, rfl⟩
      exact ⟨found, hfound, hmap⟩
  · obtain ⟨e, he⟩ := mapM_readFound_error "Failed to read product record" hread
    refine iff_of_false ?_ fun h => hread (h.2 ▸ h.1)
    rintro ⟨found, hok, -⟩
    cases he.symm.trans hok

/-- **A search in a category** returns its matches exactly if their stocks can be read, and all of them
are among the first hundred matches, or none is and the columns give the same. -/
theorem searchProducts_category_iff (rs : SearchRust) (db : SearchDb) (query : String)
    (storeId : Option String) (c : String) (hpos : db.hitsIn rs query c ≠ []) :
    Finds rs db query storeId c (db.hitsIn rs query c) ↔
      (∀ p ∈ db.hitsIn rs query c, db.tables.Readable storeId p) ∧
        ((∀ p ∈ db.hitsIn rs query c, p.id ∈ (db.hits rs query).take 100) ∨
          (∀ p ∈ db.hitsIn rs query c, p.id ∉ (db.hits rs query).take 100) ∧
            db.likeIn rs query c = db.hitsIn rs query c) := by
  have hhits : db.hits rs query ≠ [] := by
    intro h
    exact hpos (by rw [SearchDb.hitsIn, h]; rfl)
  have hfts : searchFts rs db query storeId (some c) = _ := searchFts_eq hhits
  set leading := among db.tables.products (Tables.inCategory (some c)) ((db.hits rs query).take 100)
    with hleading
  have hnone : leading = [] ↔ ∀ p ∈ db.hitsIn rs query c, p.id ∉ (db.hits rs query).take 100 :=
    among_take_eq_nil_iff 100
  have hall : leading = db.hitsIn rs query c ↔
      ∀ p ∈ db.hitsIn rs query c, p.id ∈ (db.hits rs query).take 100 :=
    among_take_eq_iff db.hits_nodup 100
  rw [← hnone, ← hall]
  by_cases hnil : leading = []
  · -- the columns are searched
    rw [finds_columns_iff (finds_columns hhits fun found hok => ?_)]
    · refine and_congr_right fun _ => ⟨fun h => .inr ⟨hnil, h⟩, ?_⟩
      rintro (h | h)
      · exact absurd (h.symm.trans hnil) hpos
      · exact h.2
    · rw [hfts, hnil] at hok
      cases hok
      rfl
  · have hsub : ∀ p ∈ leading, p ∈ db.hitsIn rs query c := by
      intro p hp
      rw [SearchDb.hitsIn, among_split _ _ _ 100]
      exact List.mem_append_left _ hp
    by_cases hread : ∀ p ∈ leading, db.tables.Readable storeId p
    · obtain ⟨found, hfound, hmap⟩ := mapM_readFound_ok "Failed to read FTS5 product record" hread
      have hne : found ≠ [] := fun h => hnil (by rw [← hmap, h]; rfl)
      have hok := finds_index hhits (hfts.trans hfound) hne
      constructor
      · rintro ⟨found', hok', hmap'⟩
        cases hok.symm.trans hok'
        have heq : leading = db.hitsIn rs query c := hmap.symm.trans hmap'
        exact ⟨heq ▸ hread, .inl heq⟩
      · rintro ⟨-, h | h⟩
        · exact ⟨found, hok, hmap.trans h⟩
        · exact absurd h.1 hnil
    · -- the index cannot be read, and then the columns cannot be either
      obtain ⟨e, he⟩ := mapM_readFound_error "Failed to read FTS5 product record" hread
      rw [finds_columns_iff (finds_columns hhits fun found hok => ?_)]
      · exact iff_of_false (fun h => hread fun p hp => h.1 p (hsub p hp))
          fun h => hread fun p hp => h.1 p (hsub p hp)
      · rw [hfts, he] at hok
        cases hok

end

/-! ## A category that is ranked last -/

namespace Parts

def searchRust : SearchRust where
  toCatalogueRust := Desktop.Sample.catalogueRust
  toLowercase s := String.ofList (s.toList.map Char.toLower)

/-- The `i`-th product: the first and the last are adapters, and the others cables. -/
def part (i : Nat) : Product :=
  ⟨"P-" ++ toString i, "SKU-" ++ toString i, "USB", none, none,
    if i = 0 ∨ i = 100 then "Adapters" else "Cables", "pcs", none, none, false, true, none, 0, 0⟩

theorem part_id_injective : Function.Injective fun i => (part i).id := by
  intro i j h
  have hdigits := congrArg (fun id => Nat.ofDigitChars 10 (id.toList.drop 2) 0) h
  simpa [part, Nat.toString_eq_ofList_toDigits] using hdigits

theorem part_ids_nodup (n : Nat) : (((List.range n).map part).map Product.id).Nodup := by
  rw [List.map_map]
  exact List.nodup_range.map part_id_injective

/-- A catalogue of `n` products, which are ranked in their order. -/
def parts (n : Nat) : SearchDb where
  tables := { Tables.empty with products := ⟨(List.range n).map part, part_ids_nodup n⟩ }
  fts := some ⟨fun _ => ((List.range n).map part).map Product.id, fun _ => part_ids_nodup n⟩

end Parts

open Parts in
/-- A single adapter is found. -/
theorem adapter_found : Finds searchRust (parts 1) "usb" none "Adapters" [part 0] :=
  (searchProducts_category_iff searchRust (parts 1) "usb" none "Adapters" (by decide +kernel)).2
    ⟨by unfold Tables.Readable; decide +kernel, .inl (by decide +kernel)⟩

open Parts in
theorem mem_hitsIn_parts {n i : Nat} (hi : i < n) (hcategory : (part i).category = "Adapters") :
    part i ∈ (parts n).hitsIn searchRust "usb" "Adapters" := by
  have hrow : part i ∈ (List.range n).map part := List.mem_map_of_mem (List.mem_range.2 hi)
  refine mem_among.2 ⟨⟨?_, hrow⟩, by simpa [Tables.inCategory] using hcategory⟩
  rw [show (parts n).hits searchRust "usb" = ((List.range n).map part).map Product.id by rfl]
  exact List.mem_map_of_mem hrow

open Parts in
/-- The second adapter, behind 99 cables, is not. -/
theorem adapter_lost : ¬ ∀ (rs : SearchRust) (db : SearchDb) (query : String) (storeId : Option String)
    (c : String), 0 < (db.hitsIn rs query c).length → (db.hitsIn rs query c).length ≤ 100 →
    Finds rs db query storeId c (db.hitsIn rs query c) := by
  intro h
  have hlength : ((parts 101).hitsIn searchRust "usb" "Adapters").length = 2 := by decide +kernel
  have hfirst : part 0 ∈ (parts 101).hitsIn searchRust "usb" "Adapters" :=
    mem_hitsIn_parts (by decide) rfl
  have hlast : part 100 ∈ (parts 101).hitsIn searchRust "usb" "Adapters" :=
    mem_hitsIn_parts (by decide) rfl
  have hfinds := h searchRust (parts 101) "usb" none "Adapters" (by omega) (by omega)
  have hcond := (searchProducts_category_iff _ _ _ _ _ (List.ne_nil_of_mem hfirst)).1 hfinds
  rcases hcond.2 with hall | ⟨hnone, -⟩
  · exact absurd (hall _ hlast) (by decide +kernel)
  · exact absurd (hnone _ hfirst) (by decide +kernel)

end Desktop.Catalogue
