import InvenTory.Lib.Runs

/-!
# Calls of triggerSync

`triggerSync` and `triggerRestoreSync` of `tauriSyncService.ts`, from one `await` to the next, with the
flag `_syncInProgress` that they share. A call runs without interruption until it waits (`Await`); then
any other call may run. What the awaited promise comes to is part of an `Event`, so that the runs of
`Calls.step` are all interleavings of the calls.
-/

namespace Sync

inductive Mode
  | incremental
  | restore
  deriving DecidableEq, Repr

structure SyncConfig where
  mode : Mode
  /-- There is an `accessToken` in the configuration. -/
  hasToken : Bool
  maxSyncRetries : Nat
  deriving DecidableEq, Repr

/-- What a call waits for. -/
inductive Await
  | lastSyncTimestamp
  | accessToken (attempt : Nat)
  | retryDelay (attempt : Nat)
  /-- `_reconcileStores`, between the line that sets the flag and the `try` block -/
  | reconcileStores
  /-- a promise of the `try` block -/
  | pushAndPull
  | restoreTimestamp
  | restoreToken
  | restoreData
  /-- `getSyncStatus()`, whose result is returned -/
  | syncStatus
  deriving DecidableEq, Repr

inductive Call
  | notMade
  | waiting (config : SyncConfig) (what : Await)
  | settled
  deriving DecidableEq, Repr

/-- How a promise settles, and whether the call then comes to another one of the same block. -/
inductive Outcome
  | rejected
  | resolved
  | token
  | another
  deriving DecidableEq, Repr

/-- Past the line that sets the flag, and before the end of the `finally` block. -/
def Await.inRun : Await → Bool
  | .reconcileStores | .pushAndPull | .restoreTimestamp | .restoreToken | .restoreData => true
  | .lastSyncTimestamp | .accessToken _ | .retryDelay _ | .syncStatus => false

def Call.inRun : Call → Bool
  | .waiting _ what => what.inRun
  | .notMade | .settled => false

/-! ## The code between the awaits

Each function takes the flag, and returns it with where the call gets to. -/

/-- The offline-token-expiry guard, and the line that sets the flag. -/
def resolvedToken (config : SyncConfig) (found syncInProgress : Bool) : Bool × Call :=
  if found then (true, .waiting config .reconcileStores)
  else (syncInProgress, .waiting config .syncStatus)

/-- The head of the loop over the attempts to get a token. -/
def tokenAttempt (config : SyncConfig) (attempt : Nat) (syncInProgress : Bool) : Bool × Call :=
  if attempt < config.maxSyncRetries then (syncInProgress, .waiting config (.accessToken attempt))
  else resolvedToken config false syncInProgress

/-- The delay after an attempt that found no token, unless it was the last one. -/
def tokenMissed (config : SyncConfig) (attempt : Nat) (syncInProgress : Bool) : Bool × Call :=
  if attempt + 1 < config.maxSyncRetries then (syncInProgress, .waiting config (.retryDelay attempt))
  else tokenAttempt config (attempt + 1) syncInProgress

def triggerRestoreSync (config : SyncConfig) (syncInProgress : Bool) : Bool × Call :=
  if syncInProgress then (syncInProgress, .waiting config .syncStatus)
  else (true, .waiting config .restoreTimestamp)

def triggerSync (config : SyncConfig) (syncInProgress : Bool) : Bool × Call :=
  if syncInProgress then (syncInProgress, .waiting config .syncStatus)
  else
    match config.mode with
    | .restore => triggerRestoreSync config syncInProgress
    | .incremental => (syncInProgress, .waiting config .lastSyncTimestamp)

/-- The `finally` block, after which the status is returned. -/
def finish (config : SyncConfig) : Bool × Call := (false, .waiting config .syncStatus)

/-- What a call does when the promise that it waits for has settled. -/
def resume (config : SyncConfig) (syncInProgress : Bool) : Await → Outcome → Bool × Call
  | .lastSyncTimestamp, .rejected => (syncInProgress, .settled)
  | .lastSyncTimestamp, _ =>
    if config.hasToken then resolvedToken config true syncInProgress
    else tokenAttempt config 0 syncInProgress
  | .accessToken _, .token => resolvedToken config true syncInProgress
  | .accessToken attempt, _ => tokenMissed config attempt syncInProgress
  | .retryDelay attempt, _ => tokenAttempt config (attempt + 1) syncInProgress
  -- `_reconcileStores` catches all errors
  | .reconcileStores, .another => (syncInProgress, .waiting config .reconcileStores)
  | .reconcileStores, _ => (syncInProgress, .waiting config .pushAndPull)
  | .pushAndPull, .another => (syncInProgress, .waiting config .pushAndPull)
  | .pushAndPull, .rejected => (false, .settled)
  | .pushAndPull, _ => finish config
  | .restoreTimestamp, .rejected => finish config
  | .restoreTimestamp, _ =>
    (syncInProgress, .waiting config (if config.hasToken then .restoreData else .restoreToken))
  | .restoreToken, .token => (syncInProgress, .waiting config .restoreData)
  -- without a token the flag is cleared by hand, and then by the `finally` block
  | .restoreToken, _ => finish config
  | .restoreData, .another => (syncInProgress, .waiting config .restoreData)
  | .restoreData, _ => finish config
  | .syncStatus, _ => (syncInProgress, .settled)

/-! ## Interleavings -/

variable {ι : Type}

structure Calls (ι : Type) where
  syncInProgress : Bool
  call : ι → Call

/-- A new call, or the end of what a call waits for. -/
inductive Event (ι : Type)
  | call (i : ι) (config : SyncConfig)
  | settle (i : ι) (outcome : Outcome)

namespace Calls

def start : Calls ι := ⟨false, fun _ => .notMade⟩

/-- No two calls are in a run. -/
def AtMostOne (s : Calls ι) : Prop :=
  ∀ i j, (s.call i).inRun = true → (s.call j).inRun = true → i = j

/-- No call is waiting. -/
def AllSettled (s : Calls ι) : Prop := ∀ i, s.call i = .notMade ∨ s.call i = .settled

variable [DecidableEq ι]

def put (s : Calls ι) (i : ι) (r : Bool × Call) : Calls ι :=
  ⟨r.1, Function.update s.call i r.2⟩

/-- What an event makes of the calls; one that cannot happen changes nothing. -/
def step (s : Calls ι) : Event ι → Calls ι
  | .call i config =>
    match s.call i with
    | .notMade => s.put i (triggerSync config s.syncInProgress)
    | _ => s
  | .settle i outcome =>
    match s.call i with
    | .waiting config what => s.put i (resume config s.syncInProgress what outcome)
    | _ => s

def after (events : List (Event ι)) : Calls ι := events.foldl step start

/-- The promise that `e` settles lets its call get to the line of `triggerSync` that sets the flag. -/
def SetsFlag (s : Calls ι) : Event ι → Prop
  | .call _ _ => False
  | .settle i outcome => ∃ config what, s.call i = .waiting config what ∧
    (what = .lastSyncTimestamp ∧ outcome ≠ .rejected ∧ config.hasToken = true ∨
      (∃ attempt, what = .accessToken attempt) ∧ outcome = .token)

/-- A call that gets to that line finds the flag as it was when it tested it. -/
def FindsClear (s : Calls ι) (e : Event ι) : Prop := s.SetsFlag e → s.syncInProgress = false

end Calls

end Sync
