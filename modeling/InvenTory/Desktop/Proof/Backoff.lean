import InvenTory.Desktop.Outbox
import Mathlib.Algebra.Order.Ring.Int
import Mathlib.Tactic.GCongr
import Mathlib.Tactic.Positivity

/-!
# The delay of a retry

`update_outbox_event_statuses` and `update_outbox_event_status` compute the power of two before they cap
it, on `i64`s that wrap around in a release build. From the 65th error on the power is zero, and with it
the delay (`nthDelay_eq_iff`).
-/

namespace Desktop

/-! ## The rule of the domain -/

/-- `OutboxStateMachine.calculate_exponential_backoff` -/
def calculateExponentialBackoff (retryCount baseSeconds maxSeconds : Int) : Int :=
  if retryCount < 0 then baseSeconds else min (baseSeconds * 2 ^ retryCount.toNat) maxSeconds

/-- `transition_event_state` on the `n`-th error: the retry count is `n` by then. -/
def domainDelay (n : Nat) : Int := calculateExponentialBackoff (n - 1) 5 3600

theorem domainDelay_succ (n : Nat) : domainDelay (n + 1) = min (5 * 2 ^ n) 3600 := by
  simp [domainDelay, calculateExponentialBackoff]

theorem domainDelay_pos (n : Nat) : 0 < domainDelay (n + 1) := by
  rw [domainDelay_succ]
  positivity

theorem domainDelay_mono {m n : Nat} (h : m ≤ n) : domainDelay (m + 1) ≤ domainDelay (n + 1) := by
  rw [domainDelay_succ, domainDelay_succ]
  gcongr
  norm_num

/-! ## The delay of the desktop -/

/-- `(5_i64 * 2_i64.pow(exponent)).min(3600)` -/
def delaySecs (exponent : Nat) : Int64 := min (5 * 2 ^ exponent) 3600

/-- `chrono::Duration::from_std`, which holds at most `i64::MAX` milliseconds. -/
def chronoFromStd (secs : UInt64) : Option Int :=
  if secs.toNat ≤ (2 ^ 63 - 1) / 1000 then some secs.toNat else none

/-- The delay in seconds, with the count that is written: `delay_secs as u64` is converted, or an hour
instead. -/
def retryDelay (newRetry : Int32) : Int :=
  (chronoFromStd (delaySecs (max (newRetry - 1) 0).toNatClampNeg).toUInt64).getD 3600

/-- `current_retry + 1` -/
def newRetry (currentRetry : Int32) : Int32 := currentRetry + 1

/-- The delay of the `n`-th error of an event, whose count starts at zero. -/
def nthDelay (n : Nat) : Int := retryDelay (newRetry^[n] 0)

/-! ## Powers -/

theorem two_pow_eq_zero (n : Nat) : (2 : Int64) ^ (n + 64) = 0 := by
  induction n with
  | zero => decide +kernel
  | succ n ih => rw [Nat.succ_add, Int64.pow_succ, ih, Int64.zero_mul]

/-- The delay before it is converted. -/
def convert (d : Int64) : Int := (chronoFromStd d.toUInt64).getD 3600

theorem convert_delaySecs_of_lt {n : Nat} (h : n < 64) :
    convert (delaySecs n) = min (5 * 2 ^ n) 3600 := by
  have hall : ∀ n < 64, convert (delaySecs n) = min (5 * 2 ^ n) 3600 := by decide +kernel
  exact hall n h

theorem delaySecs_of_ge {n : Nat} (h : 64 ≤ n) : delaySecs n = 0 := by
  obtain ⟨k, rfl⟩ := Nat.exists_eq_add_of_le' h
  rw [delaySecs, two_pow_eq_zero, Int64.mul_zero]
  decide

theorem convert_delaySecs_of_ge {n : Nat} (h : 64 ≤ n) : convert (delaySecs n) = 0 := by
  rw [delaySecs_of_ge h]
  decide

/-- The delay as the outbox has it. -/
theorem backoff_eq (n : Nat) : backoff (n + 1) = convert (delaySecs n) := by
  have hback : backoff (n + 1) = if delaySecs n < 0 then 3600 else (delaySecs n).toInt := by
    have hn : (max ((n : Int) + 1 - 1) 0).toNat = n := by omega
    unfold backoff
    rw [hn]
    rfl
  rw [hback]
  by_cases h : n < 64
  · have hall : ∀ n < 64, (if delaySecs n < 0 then 3600 else (delaySecs n).toInt) =
        convert (delaySecs n) := by decide +kernel
    exact hall n h
  · rw [delaySecs_of_ge (not_lt.1 h)]
    decide

theorem iterate_newRetry (n : Nat) : newRetry^[n] 0 = Int32.ofNat n := by
  induction n with
  | zero => rfl
  | succ n ih =>
    rw [Function.iterate_succ_apply', ih, newRetry]
    simp [Int32.ofNat_add]

/-- The exponent of the `n + 1`-st error: the count wraps around, and a negative one counts as none. -/
def exponent (n : Nat) : Nat := (Int.bmod n Int32.size).toNat

theorem toNatClampNeg_max_zero (x : Int32) : (max x 0).toNatClampNeg = x.toNatClampNeg := by
  change (if x ≤ 0 then (0 : Int32) else x).toNatClampNeg = _
  split
  · rename_i h
    exact (Int32.toNatClampNeg_eq_zero_iff.2 h).symm
  · rfl

theorem nthDelay_succ (n : Nat) : nthDelay (n + 1) = convert (delaySecs (exponent n)) := by
  have hcount : Int32.ofNat (n + 1) - 1 = Int32.ofNat n := by
    rw [Int32.ofNat_add]
    exact Int32.add_sub_cancel _ 1
  have hexponent : (Int32.ofNat n).toNatClampNeg = exponent n := congrArg Int.toNat Int32.toInt_ofNat'
  rw [nthDelay, iterate_newRetry, retryDelay, hcount, toNatClampNeg_max_zero, hexponent, convert]

theorem exponent_eq (n : Nat) : exponent n = if n % 2 ^ 32 < 2 ^ 31 then n % 2 ^ 32 else 0 := by
  unfold exponent
  rw [Int.bmod_def]
  simp only [Int32.size]
  split <;> split <;> omega

/-- **What the outbox writes** is the delay of the next error, below the largest count. -/
theorem transition_nextAttemptAt {u : StatusUpdate} {now : Instant} {e : OutboxEvent} {n : Nat}
    (hu : u.targetStatus = .retryableError) (he : e.retryCount = n) (hn : n < 2 ^ 31) :
    (e.transition u now).nextAttemptAt = some (now + nthDelay (n + 1)) := by
  have hexp : exponent n = n := by
    rw [exponent_eq, if_pos (by omega)]
    omega
  rw [nthDelay_succ, hexp, ← backoff_eq, ← he]
  simp only [OutboxEvent.transition, hu]

/-- The cap is reached from the 11th error on. -/
theorem capped_iff (n : Nat) : (3600 : Int) ≤ 5 * 2 ^ n ↔ 10 ≤ n := by
  constructor
  · intro h
    by_contra hn
    have hle : (2 : Int) ^ n ≤ 2 ^ 9 := pow_le_pow_right₀ (by norm_num) (by omega)
    omega
  · intro h
    have hle : (2 : Int) ^ 10 ≤ 2 ^ n := pow_le_pow_right₀ (by norm_num) h
    omega

/-- **The delay of the `n`-th error** is that of the domain exactly as long as the power fits: up to the
64th, and again where the count has wrapped around to between 11 and 64. -/
theorem nthDelay_eq_iff (n : Nat) (hn : 1 ≤ n) :
    nthDelay n = domainDelay n ↔ n ≤ 64 ∨ 11 ≤ n % 2 ^ 32 ∧ n % 2 ^ 32 ≤ 64 := by
  obtain ⟨n, rfl⟩ := Nat.exists_eq_add_of_le' hn
  rw [nthDelay_succ, domainDelay_succ]
  have hexp := exponent_eq n
  have hcap := capped_iff n
  have hcap' := capped_iff (exponent n)
  by_cases hlt : exponent n < 64
  · rw [convert_delaySecs_of_lt hlt]
    by_cases hsmall : n < 64
    · have heq : exponent n = n := by
        rw [hexp, if_pos (by omega)]
        omega
      rw [heq]
      exact iff_of_true rfl (.inl hsmall)
    · split at hexp <;> omega
  · rw [convert_delaySecs_of_ge (not_lt.1 hlt)]
    split at hexp <;> omega

/-- The 64th error is still put off by an hour. -/
theorem nthDelay_sixtyFour : nthDelay 64 = domainDelay 64 :=
  (nthDelay_eq_iff 64 (by decide)).2 (.inl le_rfl)

/-- The 65th is not put off at all. -/
theorem nthDelay_collapses : ¬ ∀ n : Nat, 1 ≤ n → nthDelay n = domainDelay n := by
  intro h
  have h65 := h 65 (by decide)
  rw [nthDelay_succ, convert_delaySecs_of_ge (by decide +kernel)] at h65
  exact absurd h65 (by decide +kernel)

end Desktop
