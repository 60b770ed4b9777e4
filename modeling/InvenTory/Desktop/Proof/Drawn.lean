import InvenTory.Desktop.Proof.Planned

/-!
# The ids of new transactions

A command that creates transactions writes rows and events of ids that it has drawn from its clock, and
changes no other (`Command.fresh`).
-/

namespace Desktop

open Relational Sql Sql.Prog

/-- An id that the clock gives to a new transaction. -/
def Clock.Draws (clk : Clock) (id : String) : Prop :=
  ∃ i, id = generateId "TX" (clk.nanos i) ∨ id = generateId "TX-ADJ" (clk.nanos i)

/-- The statement writes a new transaction, its event, a balance or a transfer. -/
def Statement.Fresh (clk : Clock) : Statement → Prop
  | .insertTransaction r => clk.Draws r.transactionId ∧ r.syncStatus = .pending
  | .insertEvent e =>
    clk.Draws e.payload.transactionId ∧ e.eventId = eventId e.payload.transactionId
  | .addToBalance _ _ | .insertTransfer _ | .setTransferStatus _ _ _ => True
  | _ => False

section
variable {clk : Clock} {m out into : Movement}

theorem Clock.draws (clk : Clock) (i : Nat) : clk.Draws (generateId "TX" (clk.nanos i)) :=
  ⟨i, .inl rfl⟩

theorem Clock.draws_adj (clk : Clock) (i : Nat) : clk.Draws (generateId "TX-ADJ" (clk.nanos i)) :=
  ⟨i, .inr rfl⟩

theorem Clock.Draws.proper {id : String} (h : clk.Draws id) : ∃ rest, id = "TX" ++ rest := by
  obtain ⟨i, rfl | rfl⟩ := h
  · exact generateId_proper _
  · exact generateId_adj_proper _

theorem Movement.steps_fresh (h : clk.Draws m.transactionId) {labels : Labels} {outboxId : String}
    {now : Instant} : ∀ x ∈ m.steps labels outboxId now, x.2.Fresh clk := by
  rw [steps, List.forall_mem_cons, List.forall_mem_cons, List.forall_mem_singleton]
  exact ⟨⟨h, rfl⟩, trivial, ⟨h, rfl⟩⟩

theorem moveSteps_fresh (hout : clk.Draws out.transactionId) (hin : clk.Draws into.transactionId) :
    ∀ x ∈ moveSteps out into clk, x.2.Fresh clk := by
  simp only [moveSteps, List.forall_mem_cons]
  exact ⟨⟨hout, rfl⟩, ⟨hin, rfl⟩, trivial, trivial, ⟨hout, rfl⟩, ⟨hin, rfl⟩, List.forall_mem_nil _⟩

theorem status_fresh {x : Step} (hx : x.2.Fresh clk) (h : clk.Draws m.transactionId)
    {labels : Labels} {outboxId : String} {now : Instant} :
    ∀ y ∈ x :: m.steps labels outboxId now, y.2.Fresh clk :=
  List.forall_mem_cons.2 ⟨hx, m.steps_fresh h⟩

theorem cancel_fresh (p : Prop) [Decidable p] {x : Step} (hx : x.2.Fresh clk)
    (h : clk.Draws m.transactionId) {labels : Labels} {outboxId : String} {now : Instant} :
    ∀ y ∈ (if p then m.steps labels outboxId now else []) ++ [x], y.2.Fresh clk := by
  rw [List.forall_mem_append, List.forall_mem_singleton]
  split
  · exact ⟨m.steps_fresh h, hx⟩
  · exact ⟨List.forall_mem_nil _, hx⟩

end

/-- **A command that creates transactions** only writes what is new. -/
theorem Command.fresh {F : String → Prop} {rs : Rust} {clk : Clock} {d d1 : Db} {cmd : Command}
    {xs : List Step} (hc : cmd.creates = true) (h : (cmd.plan rs clk).Yields F d (.ok xs) d1) :
    ∀ x ∈ xs, x.2.Fresh clk := by
  cases cmd with
  | receiveStock input =>
    refine Staged.Every.of_plan (x := receiveStock.staged clk input) ?_ h
    exact fun _ _ => Movement.steps_fresh (clk.draws 0)
  | sellStock input =>
    refine Staged.Every.of_plan (x := sellStock.staged clk input) ?_ h
    exact fun _ _ _ _ => Movement.steps_fresh (clk.draws 0)
  | returnStock input =>
    refine Staged.Every.of_plan (x := returnStock.staged rs clk input) ?_ h
    exact fun _ _ _ _ _ => Movement.steps_fresh (clk.draws 0)
  | moveStockBucket input =>
    refine Staged.Every.of_plan (x := moveStockBucket.staged rs clk input) ?_ h
    exact fun _ _ _ _ _ _ => moveSteps_fresh (clk.draws 0) (clk.draws 1)
  | adjustStock input =>
    refine Staged.Every.of_plan (x := adjustStock.staged rs clk input) ?_ h
    exact fun _ _ _ => Movement.steps_fresh (clk.draws_adj 0)
  | createTransfer input =>
    refine Staged.Every.of_plan (x := createTransfer.staged clk input) ?_ h
    exact fun _ _ _ _ => List.forall_mem_singleton.2 trivial
  | dispatchTransfer t user device =>
    refine Staged.Every.of_plan (x := dispatchTransfer.staged clk t user device) ?_ h
    exact fun _ _ _ _ =>
      status_fresh (x := statusStep t "DISPATCHED" clk.now) trivial (clk.draws 0)
  | receiveTransfer t user device =>
    refine Staged.Every.of_plan (x := receiveTransfer.staged clk t user device) ?_ h
    exact fun _ _ _ =>
      status_fresh (x := statusStep t "RECEIVED" clk.now) trivial (clk.draws 0)
  | cancelTransfer t user device =>
    refine Staged.Every.of_plan (x := cancelTransfer.staged clk t user device) ?_ h
    exact fun _ _ _ =>
      cancel_fresh _ (x := statusStep t "CANCELLED" clk.now) trivial (clk.draws 0)
  | updateTransaction input => cases hc
  | deleteTransaction t => cases hc

end Desktop
