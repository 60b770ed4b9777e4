import InvenTory.Domain.Ledger

/-!
# The outbox of the domain package

The statuses that an outbox event may go through, as `validate_transition` has them: from `PENDING` through
`SENDING` and `ACCEPTED` to `SYNCED`, and back from every error. `Course` is what becomes of an event that
goes through some of them.
-/

namespace Domain

def SyncStatus.value : SyncStatus → String
  | .pending => "PENDING"
  | .sending => "SENDING"
  | .sent => "SENT"
  | .accepted => "ACCEPTED"
  | .synced => "SYNCED"
  | .rejected => "REJECTED"
  | .retryableError => "RETRYABLE_ERROR"
  | .permanentRejection => "PERMANENT_REJECTION"
  | .exceptionReview => "EXCEPTION_REVIEW"

namespace OutboxStateMachine

def allowedTransitions : SyncStatus → List SyncStatus
  | .pending => [.sending]
  | .sending =>
    [.accepted, .retryableError, .pending, .permanentRejection, .exceptionReview, .rejected]
  | .accepted => [.synced]
  | .synced => []
  | .retryableError => [.pending, .sending]
  | .permanentRejection => [.exceptionReview, .pending]
  | .exceptionReview => [.pending, .rejected]
  -- kept for old rows
  | .sent => [.accepted, .retryableError, .permanentRejection, .exceptionReview]
  | .rejected => [.pending, .exceptionReview]

structure InvalidStateTransitionError where
  message : String
  currentState : SyncStatus
  targetState : SyncStatus
  deriving DecidableEq, Repr

def validateTransition (current target : SyncStatus) :
    Except InvalidStateTransitionError SyncStatus :=
  if target ∉ allowedTransitions current ∧ current ≠ target then
    .error ⟨"Invalid outbox state transition from '" ++ current.value ++ "' to '" ++ target.value ++ "'.",
      current, target⟩
  else .ok target

/-- A change of status that is let through. -/
def Advances (current target : SyncStatus) : Prop :=
  current ≠ target ∧ validateTransition current target = .ok target

theorem advances_iff {current target : SyncStatus} :
    Advances current target ↔ current ≠ target ∧ target ∈ allowedTransitions current := by
  unfold Advances validateTransition
  refine and_congr_right fun hne => ?_
  by_cases h : target ∈ allowedTransitions current <;> simp [h, hne]

instance (current target : SyncStatus) : Decidable (Advances current target) :=
  decidable_of_iff _ advances_iff.symm

/-- The statuses that an event enters, one after another. -/
inductive Course : SyncStatus → List SyncStatus → SyncStatus → Prop
  | stay (s : SyncStatus) : Course s [] s
  | enter {s s' s'' : SyncStatus} {entered : List SyncStatus} (h : Advances s s')
    (rest : Course s' entered s'') : Course s (s' :: entered) s''

namespace Course

variable {s s' s'' : SyncStatus} {entered entered' : List SyncStatus}

theorem one (h : Advances s s') : Course s [s'] s' := .enter h (.stay s')

theorem append (h : Course s entered s') (h' : Course s' entered' s'') :
    Course s (entered ++ entered') s'' := by
  induction h with
  | stay => exact h'
  | enter hadv _ ih => exact .enter hadv (ih h')

/-- Nothing becomes of an event that is synced. -/
theorem of_synced (h : Course .synced entered s) : entered = [] ∧ s = .synced := by
  cases h with
  | stay => exact ⟨rfl, rfl⟩
  | enter hadv _ =>
    rw [advances_iff] at hadv
    simp [allowedTransitions] at hadv

end Course

end OutboxStateMachine

end Domain
