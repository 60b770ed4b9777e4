import InvenTory.Sync.Deltas
import InvenTory.Sync.Proof.Fits
import InvenTory.Server.Proof.Movements

/-!
# The balances between two pulls

In a careful run every balance that has changed since the device received it last has a stamp after
the device's last pull (`Puller.Caught`), and so the next pull that completes contains it
(`delta_complete`). A session that was open during a pull can commit a balance with an older stamp,
which no later pull sends (`delta_misses`).
-/

namespace Sync

open Sql Sql.Prog Relational
open Server (CentralDb Db DateTime Exn Requests StockKey anyFault)

variable {ι : Type} {cols : Columns} {limit : Nat} {s s' : Puller ι}

namespace Puller

/-- A balance that is not as it was received last has a stamp after the last pull. -/
def Caught (s : Puller ι) : Prop :=
  ∀ k b, s.requests.store.balances.get? k = some b → s.received k ≠ some b.quantity →
    newerThan s.since b

theorem start_caught (y : Requests ι) (clock : Int) : (start y clock).Caught :=
  fun _ _ _ _ => rfl

/-! ## A pull that completes -/

variable {now : DateTime} {resp : PullResponse}

theorem outcome_rows (hs : s.Steady cols) (h : s.outcome cols limit now = .done resp) :
    resp.rows = pulledRows s.since (cols.central s.requests.store) := by
  refine pullAll_rows (fun c now' hc => ?_) (merged_start _) h
  rcases List.mem_append.1 hc with hc | hc
  · exact hs c now' hc
  · cases List.mem_singleton.1 hc
    rfl

/-- The response has the balances with newer stamps. -/
theorem mem_outcome (hs : s.Steady cols) (h : s.outcome cols limit now = .done resp)
    {b : Server.StockBalance} : b ∈ resp.rows.stockBalances ↔
      b ∈ s.requests.store.balances.rows ∧ newerThan s.since b = true := by
  rw [outcome_rows hs h]
  exact mem_pulledBalances (c := cols.central s.requests.store)

theorem Caught.contains (hc : s.Caught) (hs : s.Steady cols)
    (h : s.outcome cols limit now = .done resp) {k : StockKey} {b : Server.StockBalance}
    (hb : s.requests.store.balances.get? k = some b) (hne : s.received k ≠ some b.quantity) :
    b ∈ resp.rows.stockBalances :=
  (mem_outcome hs h).2 ⟨Table.mem_of_get? hb, hc k b hb hne⟩

/-- After a pull the device has received every balance as it is. -/
theorem Caught.received (hc : s.Caught) (hs : s.Steady cols)
    (h : s.outcome cols limit now = .done resp) {k : StockKey} {b : Server.StockBalance}
    (hb : s.requests.store.balances.get? k = some b) :
    receive resp.rows.stockBalances s.received k = some b.quantity := by
  unfold receive
  cases hf : resp.rows.stockBalances.find? (·.stock = k) with
  | none =>
    show s.received k = some b.quantity
    by_contra hne
    have hmem := hc.contains hs h hb hne
    have hkey : b.stock = k := Table.key_of_get? hb
    exact List.find?_eq_none.1 hf b hmem (decide_eq_true hkey)
  | some b' =>
    -- the response has no other row of this key
    have hmem : b' ∈ s.requests.store.balances.rows :=
      ((mem_outcome hs h).1 (List.mem_of_find?_eq_some hf)).1
    have hfound := List.find?_some hf
    have hkey : b'.stock = k := of_decide_eq_true hfound
    have hget : s.requests.store.balances.get? b'.stock = some b' := Table.get?_of_mem hmem
    rw [hkey, hb] at hget
    cases hget
    rfl

/-! ## Runs -/

variable [DecidableEq ι]

theorem Caught.tick (hc : s.Caught) (h : Tick cols limit true s s') : s'.Caught := by
  cases h with
  | @ingest i db thread t ht hm hcare =>
    intro k b hb hne
    change db.balances.get? k = some b at hb
    change s.received k ≠ some b.quantity at hne
    by_cases hsame : s.requests.store.balances.get? k = some b
    · exact hc k b hsame hne
    · exact hcare rfl k b hb hsame
  | ask ht => exact hc
  | fail => exact hc
  | @answer now t ht hn hs =>
    unfold answer
    split
    · rename_i resp hresp
      intro k b hb hne
      exact absurd (hc.received (hs rfl) hresp hb) hne
    · exact hc

theorem caught {y : Requests ι} {clock : Int}
    (hr : Relation.ReflTransGen (Tick cols limit true) (start y clock) s) : s.Caught := by
  induction hr with
  | refl => exact start_caught y clock
  | tail _ ht ih => exact ih.tick ht

/-- Steps of the requests at the time of the clock; before the first pull they are careful. -/
theorem reaches_ticks (careful : Bool) {t : Int} {y' : Requests ι}
    (hr : Pool.Reaches ⟨anyFault, stampedAt t⟩ Db.locks s.requests y') (ht : s.clock = t)
    (hc : careful = true → s.since = none) :
    Relation.ReflTransGen (Tick cols limit careful) s { s with requests := y' } := by
  induction hr with
  | refl => exact .refl
  | tail _ hs ih =>
    cases hs with
    | move hm =>
      refine ih.tail ?_
      subst ht
      refine .ingest (s := { s with requests := _ }) (le_refl _) hm fun h k b _ _ => ?_
      show newerThan s.since b = true
      rw [hc h]
      rfl

/-- The statement changes balances at the time `t` only. -/
def stampCheck (t : Int) (db db' : Db) : Bool :=
  db'.balances.rows.all fun b => db.balances.get? b.stock = some b ∨ b.updatedAt.instant = t

theorem stampedAt_checks (t : Int) :
    (⟨anyFault, stampedAt t⟩ : Rules Exn Db).Checks (stampCheck t) where
  read _ _ _ := trivial
  write f db db' hf hc db'' hf' k b hb hne := by
    cases hf.symm.trans hf'
    have hrow := of_decide_eq_true (List.all_eq_true.1 hc b (Table.mem_of_get? hb))
    have hkey : b.stock = k := Table.key_of_get? hb
    rw [hkey] at hrow
    exact hrow.resolve_left hne

namespace Sample

open Server.Sample

def columns : Columns where
  product _ := ⟨none, none, none, none, false, ⟨0, some 0⟩⟩
  store _ := ⟨none, ⟨0, some 0⟩⟩

/-- Two units are sold at the time 2. -/
def lateSale : Server.Submission :=
  { movement "T-2" "SALE" (-2) 1 with env := { env with now := ⟨2, some 0⟩ } }

def atWork : Requests Bool :=
  Server.requests (fun _ => python) (two lateSale lateSale) fiveUnits

/-- A pull at the time `t` that takes one page. -/
def pull (t : Int) (s : Puller Bool) : Puller Bool :=
  ({ s with now := some ⟨t, some 0⟩, clock := t } : Puller Bool).answer columns 100 ⟨t, some 0⟩ (t + 1)

theorem pull_ticks {s : Puller Bool} {t : Int} (ht : s.clock ≤ t) :
    Relation.ReflTransGen (Tick columns 100 false) s (pull t s) := by
  have hnow : (⟨t, some 0⟩ : DateTime).instant = t := by simp [DateTime.instant]
  have hask : Tick columns 100 false s { s with
      now := some ⟨t, some 0⟩, clock := (⟨t, some 0⟩ : DateTime).instant } :=
    .ask (ht.trans_eq hnow.symm)
  rw [hnow] at hask
  refine .tail (.single hask) (.answer ?_ rfl ?_)
  · show t ≤ t + 1
    omega
  · intro h
    cases h

theorem pull_clock (s : Puller Bool) (t : Int) : (pull t s).clock = t + 1 := by
  unfold pull answer
  split <;> rfl

/-- The requests go on for some steps at the time `t` of the clock. -/
def work (t : Int) (steps : Nat) (s : Puller Bool) : Option (Puller Bool) :=
  (s.requests.turns (stampCheck t) [(false, steps)]).map fun y => { s with requests := y }

theorem work_keeps {s s' : Puller Bool} {t : Int} {steps : Nat} (h : work t steps s = some s') :
    s'.clock = s.clock ∧ s'.pages = s.pages := by
  obtain ⟨y, -, rfl⟩ := Option.map_eq_some_iff.1 h
  exact ⟨rfl, rfl⟩

theorem work_ticks (careful : Bool) {s s' : Puller Bool} {t : Int} {steps : Nat}
    (ht : s.clock = t) (hc : careful = true → s.since = none) (h : work t steps s = some s') :
    Relation.ReflTransGen (Tick columns 100 careful) s s' := by
  obtain ⟨y, hy, rfl⟩ := Option.map_eq_some_iff.1 h
  exact reaches_ticks careful (Pool.turns_reaches (stampedAt_checks t) Db.locks _ hy) ht hc

/-- The sale is committed, and then pulled. -/
def soldFirst : Option (Puller Bool) := work 2 40 (start atWork 2)

/-- Up to the upsert of the sale, then a pull, then the commit. -/
def soldMeanwhile : Option (Puller Bool) :=
  (work 2 16 (pull 1 (start atWork 0))).bind fun s => work 4 40 (pull 3 s)

/-- The pull completes at the time 5 with a response that satisfies `p`, the stock being 3 and no
session being open. -/
def pulls (p : PullResponse → Bool) (s : Puller Bool) : Bool :=
  (match s.outcome columns 100 ⟨5, some 0⟩ with
    | .done resp => p resp
    | _ => false) &&
  s.requests.store.quantity stock = 3 && s.received stock ≠ some 3 && s.clock ≤ 5 &&
  (s.requests.threads false).isIdle && (s.requests.threads true).isIdle

theorem pulls_done {p : PullResponse → Bool} {s : Puller Bool} (h : pulls p s = true) :
    ∃ resp b, s.outcome columns 100 ⟨5, some 0⟩ = .done resp ∧ p resp = true ∧
      s.requests.store.balances.get? stock = some b ∧ b.quantity = 3 ∧ s.received stock ≠ some 3 ∧
      s.clock ≤ 5 ∧ ∀ i, (s.requests.threads i).isIdle = true := by
  simp only [pulls, Bool.and_eq_true, decide_eq_true_eq] at h
  obtain ⟨⟨⟨⟨⟨hp, hq⟩, hr⟩, hc⟩, hf⟩, ht⟩ := h
  cases hout : s.outcome columns 100 ⟨5, some 0⟩ with
  | done resp =>
    rw [hout] at hp
    unfold Db.quantity at hq
    cases hb : s.requests.store.balances.get? stock with
    | none =>
      rw [hb] at hq
      cases hq
    | some b =>
      rw [hb] at hq
      refine ⟨resp, b, rfl, hp, rfl, hq, hr, hc, fun i => ?_⟩
      cases i
      · exact hf
      · exact ht
  | waiting =>
    rw [hout] at hp
    cases hp
  | failed =>
    rw [hout] at hp
    cases hp

end Sample

end Puller

end Sync
