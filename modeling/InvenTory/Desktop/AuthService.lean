import InvenTory.Desktop.Restore

/-!
# The session of the desktop

`tauriAuthService` keeps the session in a variable (`_memSession`) and in a store whose plugin answers
later. `login`, `tryRefreshToken`, `logout` and `getSession` run interleaved at their `await`s: a `Task` is
a call that waits at one, with what it goes on with, and `perform` lets a call start or one of the waiting
ones go on. The answers come from outside, in any order.
-/

namespace Desktop.Auth

inductive UserId
  | text (s : String)
  | number (n : Int)
  deriving DecidableEq, Repr

/-- Times are in milliseconds. -/
structure AuthSession where
  accessToken : String
  refreshToken : String
  userId : UserId
  username : String
  fullName : Option String
  role : String
  assignedStoreId : Option String
  expiresAt : Int
  tokenExpiredOffline : Bool
  deriving DecidableEq, Repr

/-- The reply of `POST /auth/login`. -/
structure TokenResponse where
  accessToken : String
  refreshToken : String
  role : String
  userId : UserId
  username : String
  fullName : Option String
  assignedStoreId : Option String
  deriving DecidableEq, Repr

/-- The reply of `POST /auth/refresh`. -/
structure AccessTokenResponse where
  accessToken : String
  role : String
  deriving DecidableEq, Repr

/-- `_parseTokenExpiry`, which decodes a JWT. -/
structure Jwt where
  parseTokenExpiry : String → Option Int

variable (jwt : Jwt)

/-- `_isTokenExpired` -/
def AuthSession.isExpired (x : AuthSession) (now : Int) : Bool := x.expiresAt < now

def AuthSession.mark (x : AuthSession) (offline : Bool) : AuthSession :=
  { x with tokenExpiredOffline := offline }

/-- The session of a local login; `local_login` gives no store. -/
def offlineSession (r : LocalSession) (now : Int) : AuthSession where
  accessToken := "offline:" ++ r.userId ++ ":" ++ toString now
  refreshToken := ""
  userId := .text r.userId
  username := r.username
  fullName := r.fullName
  role := r.role
  assignedStoreId := none
  expiresAt := now + 8 * 3600000
  tokenExpiredOffline := false

/-- The time in the token, or an hour. -/
def Jwt.expiresAt (token : String) (now : Int) : Int :=
  (jwt.parseTokenExpiry token).getD (now + 3600000)

def serverSession (d : TokenResponse) (now : Int) : AuthSession where
  accessToken := d.accessToken
  refreshToken := d.refreshToken
  userId := d.userId
  username := d.username
  fullName := d.fullName
  role := d.role
  assignedStoreId := d.assignedStoreId
  expiresAt := jwt.expiresAt d.accessToken now
  tokenExpiredOffline := false

/-- `{ ...currentSession, ...upgraded }` -/
def AuthSession.merge (current upgraded : AuthSession) : AuthSession :=
  { current with
    accessToken := upgraded.accessToken
    refreshToken := upgraded.refreshToken
    userId := upgraded.userId
    username := upgraded.username
    fullName := upgraded.fullName
    role := upgraded.role
    assignedStoreId := upgraded.assignedStoreId
    expiresAt := upgraded.expiresAt
    tokenExpiredOffline := upgraded.tokenExpiredOffline }

theorem AuthSession.merge_eq (current upgraded : AuthSession) : current.merge upgraded = upgraded := rfl

def AuthSession.refreshed (x : AuthSession) (d : AccessTokenResponse) (now : Int) : AuthSession :=
  { x with
    accessToken := d.accessToken
    role := d.role
    expiresAt := jwt.expiresAt d.accessToken now
    tokenExpiredOffline := false }

/-- `msg.includes('Offline login not available')` -/
def offlineNotAvailable (msg : String) : Bool :=
  decide ("Offline login not available".toList <:+: msg.toList)

/-! ## The state -/

/-- The variable and the store. The rest is the history that the properties speak of: `epoch` counts the
logins that were accepted and the sessions that were cleared, `diskEpoch` is the epoch of the last write
to the store, `signedIn` is the user since the last of these, `lastLogin` that of the last login, and
`loggedOut` says that a logout has completed and no login has started since. -/
structure Shared where
  mem : Option AuthSession
  disk : Option AuthSession
  epoch : Nat
  diskEpoch : Nat
  signedIn : Option String
  lastLogin : Option String
  loggedOut : Bool
  deriving DecidableEq, Repr

namespace Shared

variable (sh : Shared)

/-- What `getSession` returns. -/
def session : Option AuthSession := sh.mem.or sh.disk

def setMem (x : AuthSession) : Shared := { sh with mem := some x }

def setDisk (x : AuthSession) : Shared :=
  { sh with
    disk := some x
    diskEpoch := sh.epoch }

/-- The credentials of a login are accepted. -/
def accept (u : String) (x : AuthSession) : Shared :=
  { sh with
    mem := some x
    epoch := sh.epoch + 1
    signedIn := some u
    lastLogin := some u }

/-- `_memSession = null` -/
def clear : Shared :=
  { sh with
    mem := none
    epoch := sh.epoch + 1
    signedIn := none }

end Shared

/-- What follows a `_secureWrite`: the upgrade of a local login, the write of the merged session, or
nothing. -/
inductive AfterWrite
  | upgrade (u : String)
  | merged (current : AuthSession)
  | nothing
  deriving DecidableEq, Repr

/-- What follows a `_secureRead`. -/
inductive AfterRead
  | refresh
  | logout
  | nothing
  deriving DecidableEq, Repr

/-- A call at an `await`. The number is the epoch that what it carries is from. -/
inductive Task
  | loggingIn (u : String)
  | loggingInOnline (u : String)
  | setting (x : AuthSession) (k : AfterWrite) (e : Nat)
  | saving (x : AuthSession) (k : AfterWrite) (e : Nat)
  | checkingHealth (u : String) (current : AuthSession) (e : Nat)
  | upgrading (u : String) (current : AuthSession) (e : Nat)
  | reading (k : AfterRead)
  | caching (v : Option AuthSession) (k : AfterRead) (e : Nat)
  | resuming (v : Option AuthSession) (k : AfterRead) (e : Nat)
  | refreshing (x : AuthSession) (e : Nat)
  | deleting (e : Nat)
  | cleared (e : Nat)
  deriving DecidableEq, Repr

inductive RefreshReply
  | ok (d : AccessTokenResponse)
  | refused
  | failed
  deriving DecidableEq, Repr

/-- What an `await` ends with, and the time and `navigator.onLine` that the call goes on with. -/
inductive Answer
  | login (r : Except String LocalSession) (now : Int)
  | api (r : Except String TokenResponse) (now : Int)
  | stored (ok online : Bool)
  | health (ok : Bool)
  | got (ok : Bool)
  | resumed (online : Bool) (now : Int)
  | refresh (r : RefreshReply) (now : Int)

/-! ## Steps -/

/-- `_secureWrite` up to `store.set`. -/
def secureWrite (sh : Shared) (x : AuthSession) (k : AfterWrite) (e : Nat) : Shared × List Task :=
  (sh.setMem x, [.setting x k e])

/-- What comes after the write of `x`, whether the store has taken it or not. -/
def AfterWrite.continue (sh : Shared) (x : AuthSession) (e : Nat) (online : Bool) :
    AfterWrite → Shared × List Task
  | .upgrade u => (sh, if online then [.checkingHealth u x e] else [])
  | .merged current => secureWrite sh (current.merge x) .nothing e
  | .nothing => (sh, [])

/-- A local login that the database accepts, and one at the server. -/
def accepted (sh : Shared) (u : String) (x : AuthSession) (k : AfterWrite) : Shared × List Task :=
  (sh.accept u x, [.setting x k (sh.epoch + 1)])

/-- `_secureRead` up to its first `await`. -/
def secureRead (sh : Shared) (k : AfterRead) : Task :=
  match sh.mem with
  | some x => .resuming (some x) k sh.epoch
  | none => .reading k

/-- `tryRefreshToken` without a network, and where its request fails. -/
def markExpired (sh : Shared) (x : AuthSession) (e : Nat) (now : Int) : Shared × List Task :=
  if x.isExpired now then secureWrite sh (x.mark true) .nothing e else (sh, [])

def AfterRead.continue (sh : Shared) (v : Option AuthSession) (e : Nat) (online : Bool) (now : Int) :
    AfterRead → Shared × List Task
  | .refresh =>
    match v with
    | none => (sh, [])
    | some x => if online then (sh, [.refreshing x e]) else markExpired sh x e now
  | .logout => (sh.clear, [.deleting (sh.epoch + 1)])
  | .nothing => (sh, [])

/-- A call goes on: the state after it, and where it waits next. -/
def Task.step (sh : Shared) : Task → Answer → Option (Shared × List Task)
  | .loggingIn u, .login (.ok r) now => some (accepted sh u (offlineSession r now) (.upgrade u))
  | .loggingIn u, .login (.error msg) _ =>
    some (sh, if offlineNotAvailable msg then [.loggingInOnline u] else [])
  | .loggingInOnline u, .api (.ok d) now => some (accepted sh u (serverSession jwt d now) .nothing)
  | .loggingInOnline _, .api (.error _) _ => some (sh, [])
  | .setting x k e, .stored true _ => some (sh.setDisk x, [.saving x k e])
  | .setting x k e, .stored false online => some (k.continue sh x e online)
  | .saving x k e, .stored _ online => some (k.continue sh x e online)
  | .checkingHealth u current e, .health ok => some (sh, if ok then [.upgrading u current e] else [])
  | .upgrading _ current e, .api (.ok d) now =>
    some (secureWrite sh (serverSession jwt d now) (.merged current) e)
  | .upgrading _ _ _, .api (.error _) _ => some (sh, [])
  | .reading k, .got true => some (sh, [.caching sh.disk k sh.epoch])
  | .reading k, .got false => some (sh, [.resuming sh.mem k sh.epoch])
  | .caching (some x) k e, .resumed _ _ => some (sh.setMem x, [.resuming (some x) k e])
  | .caching none k e, .resumed _ _ => some (sh, [.resuming none k e])
  | .resuming v k e, .resumed online now => some (k.continue sh v e online now)
  | .refreshing x e, .refresh (.ok d) now =>
    some (secureWrite sh (x.refreshed jwt d now) .nothing e)
  | .refreshing x e, .refresh .refused _ => some (secureWrite sh (x.mark false) .nothing e)
  | .refreshing x e, .refresh .failed now => some (markExpired sh x e now)
  | .deleting e, .stored true _ => some ({ sh with disk := none }, [.cleared e])
  | .deleting _, .stored false _ => some ({ sh with loggedOut := true }, [])
  | .cleared _, .stored _ _ => some ({ sh with loggedOut := true }, [])
  | _, _ => none

structure State where
  shared : Shared
  tasks : List Task
  deriving DecidableEq, Repr

inductive Event
  | login (u : String)
  | tryRefreshToken
  | logout
  | getSession
  | reply (i : Nat) (a : Answer)

/-- A call starts, or a waiting one goes on. -/
def perform (s : State) : Event → State
  | .login u => ⟨{ s.shared with loggedOut := false }, s.tasks ++ [.loggingIn u]⟩
  | .tryRefreshToken => ⟨s.shared, s.tasks ++ [secureRead s.shared .refresh]⟩
  | .logout => ⟨s.shared, s.tasks ++ [secureRead s.shared .logout]⟩
  | .getSession => ⟨s.shared, s.tasks ++ [secureRead s.shared .nothing]⟩
  | .reply i a =>
    match (s.tasks[i]?).bind fun t => t.step jwt s.shared a with
    | some (sh, next) => ⟨sh, s.tasks.eraseIdx i ++ next⟩
    | none => s

/-- The desktop starts, with the session of a user in the store or without one. -/
def launched (stored : Option (String × AuthSession)) : State :=
  ⟨⟨none, stored.map (·.2), 0, 0, stored.map (·.1), stored.map (·.1), false⟩, []⟩

/-! ## Whose session -/

/-- What the database and the server answer: to a local login of a user, to one at the server, and to
a refresh token. -/
structure Backend where
  localLogin : String → LocalSession → Prop
  apiLogin : String → TokenResponse → Prop
  refresh : String → AccessTokenResponse → Prop

/-- The session has been made of answers for this user. -/
inductive SessionOf (B : Backend) (u : String) : AuthSession → Prop
  | offline {r : LocalSession} (h : B.localLogin u r) (now : Int) : SessionOf B u (offlineSession r now)
  | server {d : TokenResponse} (h : B.apiLogin u d) (now : Int) : SessionOf B u (serverSession jwt d now)
  | refreshed {x : AuthSession} {d : AccessTokenResponse} (hx : SessionOf B u x)
    (h : B.refresh x.refreshToken d) (now : Int) : SessionOf B u (x.refreshed jwt d now)
  | mark {x : AuthSession} (hx : SessionOf B u x) (offline : Bool) : SessionOf B u (x.mark offline)

/-- The answer is one of the backend's. -/
def Task.Answered (B : Backend) : Task → Answer → Prop
  | .loggingIn u, .login (.ok r) _ => B.localLogin u r
  | .loggingInOnline u, .api (.ok d) _ => B.apiLogin u d
  | .upgrading u _ _, .api (.ok d) _ => B.apiLogin u d
  | .refreshing x _, .refresh (.ok d) _ => B.refresh x.refreshToken d
  | _, _ => True

/-- A property of a reply to the call that waits for it. -/
def State.Reply (P : Task → Answer → Prop) (s : State) : Event → Prop
  | .reply i a => ∀ t, s.tasks[i]? = some t → P t a
  | _ => True

def Admitted (B : Backend) (s : State) (e : Event) : Prop := s.Reply (Task.Answered B) e

end Desktop.Auth
