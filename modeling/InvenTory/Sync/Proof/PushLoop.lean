import InvenTory.Sync.Proof.Turn

/-!
# When the push loop ends

* `clears_terminates`: under `Clears` no run goes on for ever. Every turn that goes on takes an event
  out of the line that will not be sent again, or is a retry (`ends_of_rank`).
* `endless_many`, `endless_lasts`: otherwise replies are found with which it does.
* `terminates_iff` puts them together.
-/

namespace Sync.PushLoop

open Relational
open Desktop (Instant Queue QueuedEvent Status StatusUpdate)
open Server (SyncReceipt)
open Wire

variable {c : Config} {q : Queue Message}

/-! ## A measure -/

theorem keepGoing_before {s : State} {t : Turn} (h : (turn c t s).keepGoing = true) :
    s.keepGoing = true := by
  by_contra hk
  rw [Bool.not_eq_true] at hk
  rw [turn_stopped hk, hk] at h
  cases h

/-- **A rank that turns lower**: a turn that goes on makes it less, or uses up a retry. -/
theorem ends_of_rank (I : State → Prop) (rank : State → Nat) (h0 : I (start q))
    (hstep : ∀ s t, I s → Possible c s t → Goes c t s (turn c t s) →
      I (turn c t s) ∧ (rank (turn c t s) < rank s ∨
        rank (turn c t s) ≤ rank s ∧ (turn c t s).retryCount = s.retryCount + 1)) :
    Terminates c q := by
  intro turns hrun
  by_contra hno
  have hgo : ∀ n, (states c turns (start q) n).keepGoing = true := fun n => by
    by_contra h
    exact hno ⟨n, by simpa using h⟩
  have hall : ∀ n, I (states c turns (start q) n) ∧
      (states c turns (start q) n).retryCount ≤ c.maxRetries ∧
      rank (states c turns (start q) n) * (c.maxRetries + 1) +
        (c.maxRetries - (states c turns (start q) n).retryCount) + n ≤
        rank (start q) * (c.maxRetries + 1) + c.maxRetries := by
    intro n
    induction n with
    | zero => exact ⟨h0, Nat.zero_le _, by simp [states, start]⟩
    | succ n ih =>
      obtain ⟨hI, hretry, hμ⟩ := ih
      have hgoes := turn_goes (hgo (n + 1))
      obtain ⟨hI', hrank⟩ := hstep _ (turns n) hI (hrun.possible n) hgoes
      have hmax : (states c turns (start q) (n + 1)).retryCount ≤ c.maxRetries := by
        cases hgoes with
        | skips _ _ _ _ _ h => exact h.trans_le hretry
        | responds _ _ _ _ h => exact h
        | retries _ _ _ _ h => exact h
      refine ⟨hI', hmax, ?_⟩
      change rank (turn c (turns n) (states c turns (start q) n)) * (c.maxRetries + 1) +
        (c.maxRetries - (turn c (turns n) (states c turns (start q) n)).retryCount) + (n + 1) ≤ _
      rcases hrank with hlt | ⟨hle, hinc⟩
      · have := Nat.mul_le_mul_right (c.maxRetries + 1) hlt
        rw [Nat.succ_mul] at this
        omega
      · have := Nat.mul_le_mul_right (c.maxRetries + 1) hle
        have : (turn c (turns n) (states c turns (start q) n)).retryCount ≤ c.maxRetries := hmax
        omega
  have := (hall (rank (start q) * (c.maxRetries + 1) + c.maxRetries + 1)).2.2
  omega

/-! ## Batches -/

theorem one_le_toInt (hb : 1 ≤ c.batchSize) : 1 ≤ c.batchSize.toInt := Int32.le_iff_toInt_le.1 hb

theorem limit_eq (hb : 1 ≤ c.batchSize) : limit c = min c.batchSize.toInt.toNat 500 := by
  have h1 := one_le_toInt hb
  have hmax : max c.batchSize 1 = c.batchSize := by
    change (if c.batchSize ≤ 1 then (1 : Int32) else c.batchSize) = c.batchSize
    split
    · rename_i h
      have h' : c.batchSize.toInt ≤ 1 := Int32.le_iff_toInt_le.1 h
      exact Int32.toInt_inj.1 (le_antisymm h1 h')
    · rfl
  have hmin : (min c.batchSize 500).toInt = min c.batchSize.toInt 500 := by
    change (if c.batchSize ≤ 500 then c.batchSize else (500 : Int32)).toInt = _
    split
    · rename_i h
      exact (min_eq_left (Int32.le_iff_toInt_le.1 h)).symm
    · rename_i h
      rw [Int32.le_iff_toInt_le] at h
      exact (min_eq_right (le_of_lt (not_le.1 h))).symm
  unfold limit Desktop.batchLimit
  rw [Option.getD_some, hmax, hmin]
  omega

theorem length_batch_le (hb : 1 ≤ c.batchSize) (now : Instant) :
    (batch c now q).length ≤ min c.batchSize.toInt.toNat 500 := by
  rw [length_batch, ← limit_eq hb]
  exact length_pending_le

/-- Forced, a batch is the window of the line. -/
theorem batch_forced (hf : c.force = true) (now : Instant) :
    batch c now q = (line c q).take (limit c) := batch_eq_take (.inl hf)

theorem filter_forced {l : List Entry} (hf : c.force = true) (p : Entry → Bool) (r : Entry → Bool) :
    l.filter (fun x => p x || (r x || c.force)) = l :=
  List.filter_eq_self.2 fun x _ => by simp [hf]

/-- What a request contains. -/
theorem Possible.reply {s : State} {t : Turn} (h : Possible c s t) {receipts : List SyncReceipt}
    (hr : t.reply = .ok receipts)
    (hall : ∀ x ∈ batch c t.readAt s.outbox, x.isUnparseable = true) :
    (if c.force && !s.pushedAnything then c.catalogue else []) ≠ [] := by
  intro hcat
  have hnone := (nothing_to_push (c := c) (q := s.outbox) t.isoNow t.readAt).2 hall
  rw [Bool.and_eq_true, List.isEmpty_iff, List.isEmpty_iff] at hnone
  obtain ⟨error, he⟩ := h.nonempty hnone.1 (by
    unfold pushProducts
    rw [hcat, hnone.2]
    rfl)
  rw [hr] at he
  cases he

/-! ## A loop that is not forced -/

theorem countP_filter_lt {p f : Entry → Bool} {l : List Entry}
    (h : ∃ x ∈ l, p x = true ∧ f x = false) : (l.filter f).countP p < l.countP p := by
  obtain ⟨x, hx, hp, hf⟩ := h
  rw [List.countP_eq_length_filter, List.countP_eq_length_filter, List.filter_comm]
  exact List.length_filter_lt_length_iff_exists.2
    ⟨x, List.mem_filter.2 ⟨hx, hp⟩, by simp [hf]⟩

theorem countP_filter_le (p f : Entry → Bool) (l : List Entry) :
    (l.filter f).countP p ≤ l.countP p := List.filter_sublist.countP_le

/-- What is settled in a loop that is not forced: every product and what cannot be parsed. -/
theorem not_survives (hf : c.force = false) {receipts : List SyncReceipt} {x : Entry}
    (h : x.isTransaction = false) : survives c receipts x = false := by
  unfold survives
  cases hk : x.kind with
  | transaction id => simp [Entry.isTransaction, Entry.isProduct, Entry.isUnparseable, hk] at h
  | product => rfl
  | unparseable => exact hf

theorem terminates_unforced (hb : 1 ≤ c.batchSize) (hf : c.force = false)
    (h : 500 < c.batchSize.toInt ∨
      (((line c q).countP Entry.isTransaction : Nat) : Int) < c.batchSize.toInt) :
    Terminates c q := by
  refine ends_of_rank (fun s => 500 < c.batchSize.toInt ∨
      (((line c s.outbox).countP Entry.isTransaction : Nat) : Int) < c.batchSize.toInt)
    (fun s => (line c s.outbox).countP (!Entry.isTransaction ·)) h fun s t hI hp hgoes => ?_
  have hsub := batch_sublist (c := c) t.readAt s.outbox
  -- the line only loses entries
  have hkeep : ∀ f : Entry → Bool, line c (turn c t s).outbox = (line c s.outbox).filter f →
      500 < c.batchSize.toInt ∨ (((line c (turn c t s).outbox).countP Entry.isTransaction : Nat) : Int) <
        c.batchSize.toInt := fun f hline => hI.imp_right fun h => by
    have := countP_filter_le Entry.isTransaction f (line c s.outbox)
    rw [hline]
    omega
  cases hgoes with
  | skips hne hall hcat hline hpushed hretry =>
    refine ⟨hkeep _ hline, .inl ?_⟩
    obtain ⟨x, hx⟩ := List.exists_mem_of_ne_nil _ hne
    rw [hline]
    refine countP_filter_lt ⟨x, hsub.subset hx, ?_, ?_⟩
    · simp [Entry.isTransaction, hall x hx]
    · simp [hx, hall x hx, hf]
  | responds hreply hfull hline hpushed hretry =>
    refine ⟨hkeep _ hline, .inl ?_⟩
    have hle := length_batch_le (q := s.outbox) hb t.readAt
    have hex : ∃ x ∈ batch c t.readAt s.outbox, x.isTransaction = false := by
      by_contra hno
      push Not at hno
      have hcount := List.countP_eq_length.2 fun x hx => by simpa using hno x hx
      have := hsub.countP_le (p := Entry.isTransaction)
      rcases hI with hI | hI <;> omega
    obtain ⟨x, hx, htx⟩ := hex
    rw [hline]
    refine countP_filter_lt ⟨x, hsub.subset hx, by simp [htx], ?_⟩
    simp [hx, not_survives hf htx]
  | retries hreply hline hpushed hretry hmax =>
    refine ⟨hkeep _ hline, .inr ⟨?_, hretry⟩⟩
    rw [hline]
    exact countP_filter_le _ _ _

/-! ## A forced loop -/

theorem not_product_of_unparseable {x : Entry} (h : x.isUnparseable = true) :
    x.isProduct = false := by
  have hk : x.kind = .unparseable := by simpa [Entry.isUnparseable] using h
  simp [Entry.isProduct, hk]

theorem not_unparseable_of_product {x : Entry} (h : x.isProduct = true) :
    x.isUnparseable = false := by
  have hk : x.kind = .product := by simpa [Entry.isProduct] using h
  simp [Entry.isUnparseable, hk]

/-- What a forced turn keeps of a full window, if the server answers. -/
theorem keeps_survives (hf : c.force = true) (receipts : List SyncReceipt) :
    Window.Keeps Entry.isProduct Entry.isUnparseable (survives c receipts) := by
  constructor
  · intro x hx
    have hk : x.kind = .product := by simpa [Entry.isProduct] using hx
    simp [survives, hk]
  · intro x hx
    have hk : x.kind = .unparseable := by simpa [Entry.isUnparseable] using hx
    simp [survives, hk, hf]

/-- A full batch of a forced loop is a window of batch size. -/
theorem batch_full (hb : 1 ≤ c.batchSize) (hf : c.force = true) {now : Instant}
    (hfull : c.batchSize.toInt ≤ (batch c now q).length) :
    batch c now q = (line c q).take c.batchSize.toInt.toNat ∧
      c.batchSize.toInt.toNat ≤ (line c q).length ∧ c.batchSize.toInt ≤ 500 := by
  have hle := length_batch_le (q := q) hb now
  have h1 := one_le_toInt hb
  have hlim := limit_eq hb
  have hlim' : limit c = c.batchSize.toInt.toNat := by omega
  have hbatch := batch_forced (q := q) hf now
  rw [hlim'] at hbatch
  refine ⟨hbatch, ?_, by omega⟩
  have := congrArg List.length hbatch
  rw [List.length_take] at this
  omega

/-- Nothing is ever sent with success. -/
theorem terminates_quiet (hb : 1 ≤ c.batchSize) (hf : c.force = true)
    (h : 500 < c.batchSize.toInt ∨ ((line c q).length : Int) < c.batchSize.toInt ∨
      (c.catalogue = [] ∧
        ∀ x ∈ (line c q).take c.batchSize.toInt.toNat, x.isUnparseable = true)) :
    Terminates c q := by
  refine ends_of_rank (fun s => s.pushedAnything = false ∧ line c s.outbox = line c q)
    (fun s => (line c s.outbox).length) ⟨rfl, rfl⟩ fun s t hI hp hgoes => ?_
  obtain ⟨hpushed, hsame⟩ := hI
  cases hgoes with
  | skips hne hall hcat hline _ _ =>
    rw [hcat hf] at hpushed
    cases hpushed
  | responds hreply hfull hline _ _ =>
    obtain ⟨hbatch, hlen, h500⟩ := batch_full hb hf hfull
    rw [hsame] at hbatch hlen
    rcases h with h | h | ⟨hcat, hall⟩
    · omega
    · omega
    · exact absurd (by simp [hcat]) (hp.reply hreply (hbatch ▸ hall))
  | retries hreply hline hpushed' hretry hmax =>
    rw [filter_forced hf] at hline
    exact ⟨⟨hpushed'.trans hpushed, hline.trans hsame⟩, .inr ⟨by rw [hline], hretry⟩⟩

/-- A line that does not last comes to an end. -/
theorem terminates_forced (hb : 1 ≤ c.batchSize) (h500 : c.batchSize.toInt ≤ 500)
    (hf : c.force = true)
    (h : ¬ Window.Lasts c.batchSize.toInt.toNat Entry.isProduct Entry.isUnparseable (line c q)) :
    Terminates c q := by
  refine ends_of_rank (fun s => ¬ Window.Lasts c.batchSize.toInt.toNat Entry.isProduct
    Entry.isUnparseable (line c s.outbox)) (fun s => (line c s.outbox).length) h
    fun s t hI hp hgoes => ?_
  have h1 := one_le_toInt hb
  have hlim := limit_eq hb
  cases hgoes with
  | skips hne hall hcat hline _ _ =>
    have hlim' : limit c = c.batchSize.toInt.toNat := by omega
    rw [batch_forced hf, hlim'] at hall hne
    refine absurd ?_ hI
    by_cases hlen : c.batchSize.toInt.toNat ≤ (line c s.outbox).length
    · exact .stuck hlen fun x hx => not_product_of_unparseable (hall x hx)
    · rw [List.take_of_length_le (by omega)] at hall hne
      exact .dry hne hall
  | responds hreply hfull hline _ _ =>
    obtain ⟨hbatch, hlen, -⟩ := batch_full hb hf hfull
    rw [hbatch, ← Window.pass_eq_filter nodup_line] at hline
    have hk := keeps_survives hf ‹List SyncReceipt›
    refine ⟨fun hl => hI (.next hlen hk (hline ▸ hl)), .inl ?_⟩
    rw [hline]
    refine Window.length_pass_lt hk ?_
    by_contra hno
    push Not at hno
    exact hI (.stuck hlen fun x hx => by simpa using hno x hx)
  | retries hreply hline _ hretry hmax =>
    rw [filter_forced hf] at hline
    exact ⟨by rwa [hline], .inr ⟨by rw [hline], hretry⟩⟩

/-- **Under the condition** the loop ends. -/
theorem clears_terminates (hb : 1 ≤ c.batchSize) (h : Clears c q) : Terminates c q := by
  cases hf : c.force with
  | false =>
    rw [Clears, hf] at h
    exact terminates_unforced hb hf h
  | true =>
    rw [Clears, hf] at h
    by_cases h500 : 500 < c.batchSize.toInt
    · exact terminates_quiet hb hf (.inl h500)
    rcases h with h | h | h
    · exact absurd h h500
    · exact terminates_quiet hb hf (.inr (.inr h))
    by_cases hlen : ((line c q).length : Int) < c.batchSize.toInt
    · exact terminates_quiet hb hf (.inr (.inl hlen))
    · refine terminates_forced hb (not_lt.1 h500) hf fun hl => ?_
      have hfull : c.batchSize.toInt.toNat ≤ (line c q).length := by omega
      exact (Window.lasts_iff (fun _ => not_unparseable_of_product) nodup_line).1 ⟨hfull, hl⟩ h

/-! ## Runs that go on for ever -/

/-- Turns that keep an invariant make a run. -/
theorem endless (I : State → Prop) (h0 : I (start q))
    (hstep : ∀ s clock, I s → ∃ t, Possible c s t ∧ clock ≤ t.readAt ∧ t.readAt ≤ t.writeAt ∧
      I (turn c t s)) (hgo : ∀ s, I s → s.keepGoing = true) : ¬ Terminates c q := by
  classical
  choose pick hpick using hstep
  -- a state that meets the invariant, and the time
  let next (x : {s // I s} × Instant) : {s // I s} × Instant :=
    (⟨turn c (pick x.1.1 x.2 x.1.2) x.1.1, (hpick x.1.1 x.2 x.1.2).2.2.2⟩,
      (pick x.1.1 x.2 x.1.2).writeAt)
  let seq (n : Nat) : {s // I s} × Instant := next^[n] (⟨start q, h0⟩, 0)
  have hseq : ∀ n, seq (n + 1) = next (seq n) := fun n => Function.iterate_succ_apply' ..
  let turns (n : Nat) : Turn := pick (seq n).1.1 (seq n).2 (seq n).1.2
  have hstates : ∀ n, states c turns (start q) n = (seq n).1.1 := by
    intro n
    induction n with
    | zero => rfl
    | succ n ih =>
      change turn c (turns n) (states c turns (start q) n) = _
      rw [ih, hseq]
  have hrun : Run c (start q) turns := by
    refine ⟨fun n => ?_, fun n => ⟨(hpick _ _ (seq n).1.2).2.2.1, ?_⟩⟩
    · rw [hstates]
      exact (hpick _ _ (seq n).1.2).1
    · have hclock := (hpick _ (seq (n + 1)).2 (seq (n + 1)).1.2).2.1
      have htime : (seq (n + 1)).2 = (turns n).writeAt := by rw [hseq]
      exact htime ▸ hclock
  intro hterm
  obtain ⟨n, hn⟩ := hterm turns hrun
  rw [hstates, hgo _ (seq n).1.2] at hn
  cases hn

/-- A time when every backoff is over. -/
theorem exists_due (q : Queue Message) (clock : Instant) :
    ∃ now, clock ≤ now ∧ ∀ row ∈ q.rows, row.nextAttemptAt.all (· ≤ now) = true := by
  have h : ∀ rows : List Row, ∃ now, clock ≤ now ∧
      ∀ row ∈ rows, row.nextAttemptAt.all (· ≤ now) = true := by
    intro rows
    induction rows with
    | nil => exact ⟨clock, le_rfl, by simp⟩
    | cons row rows ih =>
      obtain ⟨now, hnow, hall⟩ := ih
      refine ⟨max now (row.nextAttemptAt.getD now), hnow.trans (le_max_left ..), ?_⟩
      intro row' hrow'
      rcases List.mem_cons.1 hrow' with rfl | hrow'
      · cases row'.nextAttemptAt <;> simp
      · have := hall row' hrow'
        cases hn : row'.nextAttemptAt with
        | none => rfl
        | some at_ =>
          rw [hn] at this
          simp at this
          simp [this]
  exact h q.rows

/-- The receipt of a transaction, accepted or rejected for no reason. -/
def verdict (accepts : String → Bool) (id : String) : SyncReceipt :=
  ⟨id, accepts id, if accepts id then none else some "", ⟨0, some 0⟩, ⟨0, some 0⟩⟩

def verdicts (accepts : String → Bool) (l : List Entry) : List SyncReceipt :=
  (l.filterMap (·.kind.transactionId?)).map (verdict accepts)

theorem receiptOf_verdicts {accepts : String → Bool} {l : List Entry} {id : String}
    (h : ∃ x ∈ l, x.kind = .transaction id) :
    receiptOf (verdicts accepts l) id = some (verdict accepts id) := by
  obtain ⟨x, hx, hk⟩ := h
  have hmem : verdict accepts id ∈ verdicts accepts l :=
    List.mem_map.2 ⟨id, List.mem_filterMap.2 ⟨x, hx, by rw [hk]; rfl⟩, rfl⟩
  have hsome : (receiptOf (verdicts accepts l) id).isSome = true := by
    unfold receiptOf
    rw [List.find?_isSome]
    exact ⟨_, List.mem_reverse.2 hmem, by simp [verdict]⟩
  obtain ⟨r, hr⟩ := Option.isSome_iff_exists.1 hsome
  rw [hr]
  have hid := List.find?_some hr
  obtain ⟨id', -, rfl⟩ := List.mem_map.1 (List.mem_reverse.1 (List.mem_of_find?_eq_some hr))
  have hid' : id' = id := of_decide_eq_true hid
  rw [hid']

theorem settled_verdicts (hjs : isPermanentRejection c.rt.toJs "" = false)
    {accepts : String → Bool} {l : List Entry} {id : String} (h : ∃ x ∈ l, x.kind = .transaction id) :
    settled c.rt.toJs (verdicts accepts l) id =
      if accepts id then .synced else .retryableError := by
  unfold settled
  rw [receiptOf_verdicts h]
  cases ha : accepts id <;> simp [verdict, ha, rejectedStatus, hjs]

/-- An answer that rejects the transactions of a batch, or accepts them. -/
def answer (accepts : String → Bool) (now : Instant) (l : List Entry) : Turn :=
  ⟨false, now, now, "", .ok (verdicts accepts l)⟩

def noAnswer (now : Instant) : Turn := ⟨false, now, now, "", .error ""⟩

/-- What is left of a window after an answer. -/
def kept (force : Bool) (accepts : String → Bool) (x : Entry) : Bool :=
  match x.kind with
  | .transaction id => !accepts id
  | .product => false
  | .unparseable => force

theorem survives_verdicts (hjs : isPermanentRejection c.rt.toJs "" = false)
    {accepts : String → Bool} {l : List Entry} {x : Entry} (hx : x ∈ l) :
    survives c (verdicts accepts l) x = kept c.force accepts x := by
  unfold survives kept
  cases hk : x.kind with
  | transaction id =>
    simp only [settled_verdicts hjs ⟨x, hx, hk⟩]
    cases accepts id <;> simp [live]
  | product => rfl
  | unparseable => rfl

/-- A turn with nothing to push. -/
theorem quiet_turn {s : State} (hk : s.keepGoing = true) {now : Instant}
    (hne : batch c now s.outbox ≠ [])
    (hall : ∀ x ∈ batch c now s.outbox, x.isUnparseable = true)
    (hcat : c.force = true → s.pushedAnything = true) :
    Possible c s (noAnswer now) ∧ (turn c (noAnswer now) s).keepGoing = true ∧
      line c (turn c (noAnswer now) s).outbox = (line c s.outbox).filter (fun x =>
        decide (x ∉ batch c now s.outbox) || (!x.isUnparseable || c.force)) ∧
      (turn c (noAnswer now) s).pushedAnything = s.pushedAnything := by
  have hgo : (turn c (noAnswer now) s).keepGoing = true :=
    turn_keepGoing hk rfl hne (.inl ⟨hall, hcat⟩)
  refine ⟨⟨fun _ _ => ⟨_, rfl⟩, fun receipts hr => by cases hr⟩, hgo, ?_⟩
  cases turn_goes hgo with
  | skips _ _ _ hline hpushed _ => exact ⟨hline, hpushed⟩
  | responds hreply _ _ _ _ => cases hreply
  | retries _ hline hpushed _ _ => exact ⟨hline, hpushed⟩

/-- A turn with a full batch that is answered. -/
theorem answered_turn (hjs : isPermanentRejection c.rt.toJs "" = false) {s : State}
    (hk : s.keepGoing = true) {now : Instant} (accepts : String → Bool)
    (hne : batch c now s.outbox ≠ [])
    (hfull : c.batchSize.toInt ≤ (batch c now s.outbox).length)
    (hpush : (∀ x ∈ batch c now s.outbox, x.isUnparseable = true) →
      c.force = true ∧ s.pushedAnything = false ∧ c.catalogue ≠ []) :
    Possible c s (answer accepts now (batch c now s.outbox)) ∧
      (turn c (answer accepts now (batch c now s.outbox)) s).keepGoing = true ∧
      line c (turn c (answer accepts now (batch c now s.outbox)) s).outbox =
        (line c s.outbox).filter (fun x =>
          decide (x ∉ batch c now s.outbox) || kept c.force accepts x) ∧
      (turn c (answer accepts now (batch c now s.outbox)) s).pushedAnything = true := by
  have hgo : (turn c (answer accepts now (batch c now s.outbox)) s).keepGoing = true :=
    turn_keepGoing hk rfl hne (.inr ⟨⟨_, rfl⟩, hfull⟩)
  refine ⟨⟨fun hi hp => ?_, fun receipts hr x hx => ?_⟩, hgo, ?_⟩
  · -- a request without events and products is not made
    have hprods : productUpdates c "" (pending c now s.outbox) = [] ∧
        (if c.force && !s.pushedAnything then c.catalogue else []) = [] := by
      have := List.append_eq_nil_iff.1 hp
      exact ⟨List.map_eq_nil_iff.1 this.2, this.1⟩
    have hall := (nothing_to_push (c := c) (q := s.outbox) "" now).1 (by
      rw [show items c "" (pending c now s.outbox) = [] from hi, hprods.1]
      rfl)
    obtain ⟨hf, hpushed, hcat⟩ := hpush hall
    have := hprods.2
    simp [hf, hpushed, hcat] at this
  · obtain rfl : verdicts accepts (batch c now s.outbox) = receipts := Except.ok.inj hr
    obtain ⟨hrow, hkind⟩ := mem_items hx
    have hin : entry c.rt x.2 ∈ batch c now s.outbox := List.mem_map_of_mem hrow
    rw [receiptOf_verdicts ⟨_, hin, hkind⟩]
    rfl
  cases turn_goes hgo with
  | skips _ hall hcat _ _ _ =>
    obtain ⟨hf, hpushed, -⟩ := hpush hall
    rw [hcat hf] at hpushed
    cases hpushed
  | responds hreply _ hline hpushed _ =>
    obtain rfl := Except.ok.inj hreply
    refine ⟨hline.trans (List.filter_congr fun x _ => ?_), hpushed⟩
    by_cases hx : x ∈ batch c now s.outbox
    · rw [survives_verdicts hjs hx]
      rfl
    · have : decide (x ∉ batch c (answer accepts now (batch c now s.outbox)).readAt s.outbox) =
          true := decide_eq_true hx
      simp [this, hx]
  | retries hreply _ _ _ _ => cases hreply

/-- An event that is sent again whatever happens, if the server rejects it. -/
def recurs (force : Bool) (x : Entry) : Bool := x.isTransaction || (force && x.isUnparseable)

theorem kept_rejecting (force : Bool) (x : Entry) : kept force (fun _ => false) x = recurs force x := by
  unfold kept recurs Entry.isTransaction Entry.isProduct Entry.isUnparseable
  cases x.kind <;> simp

theorem countP_filter_eq {p f : Entry → Bool} {l : List Entry} (h : ∀ x ∈ l, p x = true → f x = true) :
    (l.filter f).countP p = l.countP p := by
  rw [List.countP_filter]
  refine List.countP_congr fun x hx => ?_
  constructor
  · exact fun hp => (Bool.and_eq_true_iff.1 hp).1
  · exact fun hp => Bool.and_eq_true_iff.2 ⟨hp, h x hx hp⟩

/-- **A batch of events that come again** goes round for ever, if the server rejects them. -/
theorem endless_many (hjs : isPermanentRejection c.rt.toJs "" = false) (hb : 1 ≤ c.batchSize)
    (h500 : c.batchSize.toInt ≤ 500)
    (hmany : c.batchSize.toInt.toNat ≤ (line c q).countP (recurs c.force))
    (hpush : c.force = true → c.catalogue = [] →
      ∃ x ∈ (line c q).take c.batchSize.toInt.toNat, x.isUnparseable = false) :
    ¬ Terminates c q := by
  have h1 := one_le_toInt hb
  have hlim : limit c = c.batchSize.toInt.toNat := by
    rw [limit_eq hb]
    omega
  refine endless (fun s => s.keepGoing = true ∧
      c.batchSize.toInt.toNat ≤ (line c s.outbox).countP (recurs c.force) ∧
      (c.force = true → s.pushedAnything = false → c.catalogue = [] →
        ∃ x ∈ (line c s.outbox).take c.batchSize.toInt.toNat, x.isUnparseable = false))
    ⟨rfl, hmany, fun hf _ => hpush hf⟩ (fun s clock ⟨hk, hcount, hp⟩ => ?_) fun s h => h.1
  obtain ⟨now, hclock, hdue⟩ := exists_due s.outbox clock
  have hbatch : batch c now s.outbox = (line c s.outbox).take c.batchSize.toInt.toNat :=
    (batch_eq_take (.inr hdue)).trans (by rw [hlim])
  have hlen : (batch c now s.outbox).length = c.batchSize.toInt.toNat := by
    rw [hbatch, List.length_take]
    have := List.countP_le_length (p := recurs c.force) (l := line c s.outbox)
    omega
  have hne : batch c now s.outbox ≠ [] := by
    intro hnil
    rw [hnil, List.length_nil] at hlen
    omega
  by_cases hquiet : (∀ x ∈ batch c now s.outbox, x.isUnparseable = true) ∧
      (c.force = true → s.pushedAnything = true)
  · obtain ⟨hposs, hgo, hline, hpushed⟩ := quiet_turn hk hne hquiet.1 hquiet.2
    refine ⟨noAnswer now, hposs, hclock, le_rfl, hgo, ?_, fun hf hno => ?_⟩
    · rw [hline, countP_filter_eq]
      · exact hcount
      · intro x _ hx
        unfold recurs Entry.isTransaction at hx
        cases hu : x.isUnparseable <;> simp_all
    · rw [hpushed, hquiet.2 hf] at hno
      cases hno
  · have hcat : (∀ x ∈ batch c now s.outbox, x.isUnparseable = true) →
        c.force = true ∧ s.pushedAnything = false ∧ c.catalogue ≠ [] := fun hall => by
      have hno : ¬ (c.force = true → s.pushedAnything = true) := fun h => hquiet ⟨hall, h⟩
      push Not at hno
      refine ⟨hno.1, by simpa using hno.2, fun hcat => ?_⟩
      obtain ⟨x, hx, hu⟩ := hp hno.1 (by simpa using hno.2) hcat
      rw [hall x (hbatch ▸ hx)] at hu
      cases hu
    obtain ⟨hposs, hgo, hline, hpushed⟩ :=
      answered_turn hjs hk (fun _ => false) hne (by omega) hcat
    refine ⟨_, hposs, hclock, le_rfl, hgo, ?_, fun _ hno => ?_⟩
    · rw [hline, countP_filter_eq]
      · exact hcount
      · intro x _ hx
        simp [kept_rejecting, hx]
    · rw [hpushed] at hno
      cases hno

/-! ## The line of a forced loop that lasts -/

/-- The transactions of entries that go are accepted. -/
theorem kept_of_keeps (hf : c.force = true) {keep : Entry → Bool}
    (hk : Window.Keeps Entry.isProduct Entry.isUnparseable keep) {l : List Entry}
    (hn : (l.filterMap (·.kind.transactionId?)).Nodup) :
    ∃ accepts, ∀ x ∈ l, kept c.force accepts x = keep x := by
  classical
  refine ⟨fun id => decide (∃ x ∈ l, x.kind = .transaction id ∧ keep x = false), fun x hx => ?_⟩
  unfold kept
  cases hkind : x.kind with
  | product => exact (hk.out x (by simp [Entry.isProduct, hkind])).symm
  | unparseable => exact hf.trans (hk.on x (by simp [Entry.isUnparseable, hkind])).symm
  | transaction id =>
    have hsame : ∀ y ∈ l, y.kind = .transaction id → y = x := by
      intro y hy hky
      by_contra hne
      have hsymm : Std.Symm fun a a' : Entry => ∀ i, a.kind.transactionId? = some i →
          ∀ i', a'.kind.transactionId? = some i' → i ≠ i' :=
        ⟨fun a a' h i hi i' hi' => (h i' hi' i hi).symm⟩
      have hpair := (List.pairwise_filterMap.1 hn).forall hy hx hne
      exact hpair id (by rw [hky]; rfl) id (by rw [hkind]; rfl) rfl
    cases hkeep : keep x with
    | false => simpa using ⟨x, hx, hkind, hkeep⟩
    | true =>
      simp only [Bool.not_eq_true', decide_eq_false_iff_not]
      rintro ⟨y, hy, hky, hkeep'⟩
      rw [hsame y hy hky, hkeep] at hkeep'
      cases hkeep'

/-- How a line that lasts goes on. -/
theorem lasts_cases {b : Nat} {v : List Entry}
    (h : Window.Lasts b Entry.isProduct Entry.isUnparseable v) :
    (∃ keep, Window.Keeps Entry.isProduct Entry.isUnparseable keep ∧ b ≤ v.length ∧
      Window.Lasts b Entry.isProduct Entry.isUnparseable (Window.pass b keep v)) ∨
      v.length < b ∧ v ≠ [] ∧ ∀ x ∈ v, x.isUnparseable = true := by
  have hstuck : b ≤ v.length → (∀ x ∈ v.take b, x.isProduct = false) →
      ∃ keep, Window.Keeps Entry.isProduct Entry.isUnparseable keep ∧ b ≤ v.length ∧
        Window.Lasts b Entry.isProduct Entry.isUnparseable (Window.pass b keep v) := by
    intro hlen hno
    refine ⟨_, Window.keeps_slow fun _ => not_unparseable_of_product, hlen, ?_⟩
    have hsame : (v.take b).filter (!Entry.isProduct ·) = v.take b :=
      List.filter_eq_self.2 fun x hx => by simp [hno x hx]
    rwa [Window.pass, hsame, List.take_append_drop]
  cases h with
  | stuck hlen hno => exact .inl (hstuck hlen hno)
  | next hlen hk hnext => exact .inl ⟨_, hk, hlen, hnext⟩
  | dry hne hall =>
    by_cases hlen : b ≤ v.length
    · exact .inl (hstuck hlen fun x hx =>
        not_product_of_unparseable (hall x (List.mem_of_mem_take hx)))
    · exact .inr ⟨not_le.1 hlen, hne, hall⟩

theorem endless_lasts (hjs : isPermanentRejection c.rt.toJs "" = false) (hb : 1 ≤ c.batchSize)
    (h500 : c.batchSize.toInt ≤ 500) (hf : c.force = true) (hn : DistinctTransactions c q)
    (hlen : c.batchSize.toInt.toNat ≤ (line c q).length)
    (hlast : Window.Lasts c.batchSize.toInt.toNat Entry.isProduct Entry.isUnparseable (line c q))
    (hpush : c.catalogue = [] →
      ∃ x ∈ (line c q).take c.batchSize.toInt.toNat, x.isUnparseable = false) :
    ¬ Terminates c q := by
  have h1 := one_le_toInt hb
  have hlim : limit c = c.batchSize.toInt.toNat := by
    rw [limit_eq hb]
    omega
  refine endless (fun s => s.keepGoing = true ∧ DistinctTransactions c s.outbox ∧
      Window.Lasts c.batchSize.toInt.toNat Entry.isProduct Entry.isUnparseable (line c s.outbox) ∧
      (s.pushedAnything = false → c.batchSize.toInt.toNat ≤ (line c s.outbox).length ∧
        (c.catalogue = [] → ∃ x ∈ (line c s.outbox).take c.batchSize.toInt.toNat,
          x.isUnparseable = false)))
    ⟨rfl, hn, hlast, fun _ => ⟨hlen, hpush⟩⟩ (fun s clock ⟨hk, hn, hlast, hp⟩ => ?_) fun s h => h.1
  have hbatch : batch c clock s.outbox = (line c s.outbox).take c.batchSize.toInt.toNat :=
    (batch_forced hf clock).trans (by rw [hlim])
  have hne : batch c clock s.outbox ≠ [] := by
    rw [hbatch, Ne, List.take_eq_nil_iff]
    rintro (h | h)
    · omega
    · rcases lasts_cases hlast with ⟨keep, -, hlen, -⟩ | ⟨-, hne, -⟩
      · rw [h, List.length_nil] at hlen
        omega
      · exact hne h
  by_cases hquiet : (∀ x ∈ batch c clock s.outbox, x.isUnparseable = true) ∧
      (c.force = true → s.pushedAnything = true)
  · obtain ⟨hposs, hgo, hline, hpushed⟩ := quiet_turn hk hne hquiet.1 hquiet.2
    rw [filter_forced hf] at hline
    refine ⟨noAnswer clock, hposs, le_rfl, le_rfl, hgo, ?_, by rwa [hline], fun hno => ?_⟩
    · unfold DistinctTransactions
      rwa [hline]
    · rw [hpushed, hquiet.2 hf] at hno
      cases hno
  rcases lasts_cases hlast with ⟨keep, hkeep, hfull, hnext⟩ | ⟨hshort, -, hall⟩
  · obtain ⟨accepts, hacc⟩ := kept_of_keeps hf hkeep (l := batch c clock s.outbox)
      (hn.sublist ((batch_sublist _ _).filterMap _))
    have hcat : (∀ x ∈ batch c clock s.outbox, x.isUnparseable = true) →
        c.force = true ∧ s.pushedAnything = false ∧ c.catalogue ≠ [] := fun hall => by
      have hpushed : s.pushedAnything = false := by
        by_contra h
        exact hquiet ⟨hall, fun _ => by simpa using h⟩
      refine ⟨hf, hpushed, fun hcat => ?_⟩
      obtain ⟨x, hx, hu⟩ := (hp hpushed).2 hcat
      rw [hall x (hbatch ▸ hx)] at hu
      cases hu
    have hlen : c.batchSize.toInt ≤ (batch c clock s.outbox).length := by
      rw [hbatch, List.length_take]
      omega
    obtain ⟨hposs, hgo, hline, hpushed⟩ := answered_turn hjs hk accepts hne hlen hcat
    have hpass : line c (turn c (answer accepts clock (batch c clock s.outbox)) s).outbox =
        Window.pass c.batchSize.toInt.toNat keep (line c s.outbox) := by
      rw [hline, Window.pass_eq_filter nodup_line, ← hbatch]
      refine List.filter_congr fun x _ => ?_
      by_cases hx : x ∈ batch c clock s.outbox
      · rw [hacc x hx]
      · simp [hx]
    refine ⟨_, hposs, le_rfl, le_rfl, hgo, ?_, by rwa [hpass], fun hno => ?_⟩
    · unfold DistinctTransactions
      rw [hline]
      exact hn.sublist (List.filter_sublist.filterMap _)
    · rw [hpushed] at hno
      cases hno
  · -- a short line of events that cannot be parsed is skipped
    refine absurd ⟨fun x hx => hall x (List.mem_of_mem_take (hbatch ▸ hx)), fun _ => ?_⟩ hquiet
    by_contra h
    have := (hp (by simpa using h)).1
    omega

/-! ## Exactly when -/

/-- A line with few events that come again, all of which can be parsed, clears. -/
theorem clears_of_few {b : Nat} {w : List Entry} (hfew : w.countP (!Entry.isProduct ·) < b)
    (hno : ∀ x ∈ w, x.isUnparseable = false) :
    Window.Clears b Entry.isProduct Entry.isUnparseable w := by
  intro j hj
  refine ⟨?_, .inl hno⟩
  have hsum := Window.countP_take_add Entry.isProduct hj
  have hle := (List.take_sublist (Window.readSlow b Entry.isProduct w j) w).countP_le
    (p := (!Entry.isProduct ·))
  rw [Window.readSlow]
  omega

theorem recurs_forced (x : Entry) : recurs true x = !x.isProduct := by
  unfold recurs Entry.isTransaction Entry.isProduct Entry.isUnparseable
  cases x.kind <;> rfl

/-- **The push loop ends**, whatever the server answers, if the outbox clears. If it does not, there are
answers with which the loop never ends; where only some events of one transaction have to be rejected
for that, this is shown for outboxes without two such events. -/
theorem terminates_iff (c : Config) (q : Queue Message) (hb : 1 ≤ c.batchSize)
    (hjs : isPermanentRejection c.rt.toJs "" = false) :
    (Clears c q → Terminates c q) ∧
      ((c.force = true → (∃ x ∈ line c q, x.isUnparseable = true) → DistinctTransactions c q) →
        Terminates c q → Clears c q) := by
  refine ⟨clears_terminates hb, fun hn hterm => ?_⟩
  have h1 := one_le_toInt hb
  by_contra hclear
  unfold Clears at hclear
  rw [not_or, not_lt] at hclear
  obtain ⟨h500, hclear⟩ := hclear
  cases hf : c.force with
  | false =>
    rw [hf, if_neg Bool.false_ne_true, not_lt] at hclear
    refine endless_many hjs hb h500 ?_ (fun h => by rw [hf] at h; cases h) hterm
    have hrec : (line c q).countP (recurs c.force) = (line c q).countP Entry.isTransaction :=
      List.countP_congr fun x _ => by simp [recurs, hf]
    rw [hrec]
    omega
  | true =>
    rw [hf, if_pos rfl, not_or, not_and] at hclear
    obtain ⟨hcat, hclear⟩ := hclear
    have hpush : c.catalogue = [] →
        ∃ x ∈ (line c q).take c.batchSize.toInt.toNat, x.isUnparseable = false := fun h => by
      have := hcat h
      push Not at this
      simpa using this
    by_cases hmany : c.batchSize.toInt.toNat ≤ (line c q).countP (recurs c.force)
    · exact endless_many hjs hb h500 hmany (fun _ => hpush) hterm
    · have hrec : (line c q).countP (recurs c.force) = (line c q).countP (!Entry.isProduct ·) :=
        List.countP_congr fun x _ => by rw [hf, recurs_forced]
      rw [hrec, not_le] at hmany
      have hex : ∃ x ∈ line c q, x.isUnparseable = true := by
        by_contra hno
        push Not at hno
        exact hclear (clears_of_few hmany fun x hx => by simpa using hno x hx)
      obtain ⟨hlen, hlast⟩ :=
        (Window.lasts_iff (fun _ => not_unparseable_of_product) nodup_line).2 hclear
      exact endless_lasts hjs hb h500 hf (hn hf hex) hlen hlast hpush hterm

theorem terminates_iff_sample :
    (Clears Sample.forced (Sample.outbox .pending none) →
      Terminates Sample.forced (Sample.outbox .pending none)) ∧
      ((Sample.forced.force = true →
          (∃ x ∈ line Sample.forced (Sample.outbox .pending none), x.isUnparseable = true) →
          DistinctTransactions Sample.forced (Sample.outbox .pending none)) →
        Terminates Sample.forced (Sample.outbox .pending none) →
        Clears Sample.forced (Sample.outbox .pending none)) :=
  terminates_iff Sample.forced (Sample.outbox .pending none) (by decide) (by decide)

/-- An event that is rejected for good is sent for ever by a forced sync: every read takes it back. -/
theorem rejected_never_ends :
    Run Sample.forced (start (Sample.outbox .pending none)) Sample.rejecting ∧
      ∀ n, (states Sample.forced Sample.rejecting
        (start (Sample.outbox .pending none)) n).keepGoing = true := by
  have hstep : ∀ n k, turn Sample.forced (Sample.rejecting n) (Sample.rejected k) =
      Sample.rejected (k + 1) := fun _ _ => rfl
  have hstates : ∀ n, states Sample.forced Sample.rejecting
      (start (Sample.outbox .pending none)) (n + 1) = Sample.rejected (n + 1) := by
    intro n
    induction n with
    | zero => rfl
    | succ n ih =>
      rw [states, ih]
      exact hstep (n + 1) (n + 1)
  have hitems : ∀ n, (items Sample.forced (Sample.rejecting n).isoNow (pending Sample.forced
      (Sample.rejecting n).readAt (states Sample.forced Sample.rejecting
        (start (Sample.outbox .pending none)) n).outbox)).map (·.1.transactionId) = ["TX-1"] := by
    intro n
    cases n with
    | zero => rfl
    | succ n =>
      rw [hstates]
      rfl
  refine ⟨⟨fun n => ⟨fun hnil _ => ?_, fun receipts hr x hx => ?_⟩, fun n => ⟨le_rfl, ?_⟩⟩, fun n => ?_⟩
  · have := hitems n
    rw [hnil] at this
    cases this
  · have hid := List.mem_map_of_mem (f := fun y : Wire.PushItem × Row => y.1.transactionId) hx
    rw [hitems, List.mem_singleton] at hid
    obtain rfl := Except.ok.inj hr
    rw [hid]
    rfl
  · simp [Sample.rejecting]
  · cases n with
    | zero => rfl
    | succ n =>
      rw [hstates]
      rfl

end Sync.PushLoop
