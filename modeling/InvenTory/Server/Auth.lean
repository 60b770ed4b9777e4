import InvenTory.Server.Schema

/-!
# Logging in

`POST /auth/login`, `/auth/refresh` and `/devices/{id}/revoke`, and the check that every protected
endpoint makes (`get_current_user`). An access token names the device of its login; a refresh token names
none, and what it is exchanged for names the sentinel `noDevice`, for which no device is looked up.
`AuthState` is the server with the tokens that it has signed: no other token is well signed.
-/

namespace Server

open Relational

structure User where
  id : Int
  username : String
  email : String
  hashedPassword : String
  fullName : Option String
  role : String
  assignedStoreId : Option String
  isActive : Bool
  deriving DecidableEq, Repr

/-- A row of `devices` with what a revocation writes. -/
structure DeviceRecord where
  id : String
  storeId : String
  deviceName : String
  isActive : Bool
  revocationReason : Option String
  deriving DecidableEq, Repr

instance : Keyed User Int := ⟨User.id⟩
instance : Keyed DeviceRecord String := ⟨DeviceRecord.id⟩

structure AuthDb where
  users : Table User
  stores : Table Store
  devices : Table DeviceRecord

def AuthDb.putDevice (db : AuthDb) (device : DeviceRecord) : AuthDb :=
  { db with devices := db.devices.put device }

/-! ## Tokens -/

inductive TokenType
  | access
  | refresh
  deriving DecidableEq, Repr

/-- The claims of a token; times are in seconds. -/
structure Token where
  sub : String
  type : TokenType
  exp : Int
  role : Option String
  deviceId : Option String
  deriving DecidableEq, Repr

/-- The settings, and what is not in the repository: `bcrypt` and SQL's `lower`. -/
structure AuthEnv where
  accessTokenExpireMinutes : Nat
  refreshTokenExpireDays : Nat
  verifyPassword : String → String → Bool
  lower : String → String

variable (env : AuthEnv) (now : Int)

def createAccessToken (userId role deviceId : String) : Token :=
  ⟨userId, .access, now + env.accessTokenExpireMinutes * 60, some role, some deviceId⟩

def createRefreshToken (userId : String) : Token :=
  ⟨userId, .refresh, now + env.refreshTokenExpireDays * 86400, none, none⟩

/-- The claims of a well signed token of a type, unless it has expired. -/
def decodeToken (type : TokenType) (t : Token) : Option Token :=
  if t.exp < now then none else if t.type = type then some t else none

/-- `int(s)`, for the decimal numbers that the tokens have. -/
def parseInt (s : String) : Option Int :=
  match Py.matchInt s.toList with
  | some (n, []) => some n
  | _ => none

theorem parseInt_toString (n : Int) : parseInt (toString n) = some n := by
  have h : Py.matchInt ((toString n).toList ++ []) = some (n, []) := Py.matchInt_toString n rfl
  rw [List.append_nil] at h
  unfold parseInt
  rw [h]

/-- The active user with the id in a token. -/
def AuthDb.tokenUser (db : AuthDb) (t : Token) : Option User :=
  ((parseInt t.sub).bind db.users.get?).filter (·.isActive)

/-! ## The check -/

/-- The device id of a token from `/auth/refresh`. -/
def noDevice : String := "REFRESH_NO_DEVICE"

/-- The device that is checked. -/
def Token.checkedDevice (t : Token) : Option String :=
  t.deviceId.filter fun d => d ≠ "" ∧ d ≠ noDevice

def getCurrentUser (db : AuthDb) (t : Token) : Except String User :=
  match (decodeToken now .access t).bind db.tokenUser with
  | none => .error "Could not validate credentials"
  | some user =>
    match t.checkedDevice with
    | none => .ok user
    | some d =>
      if ((db.devices.get? d).filter (·.isActive)).isNone then .error "Device has been revoked"
      else .ok user

/-! ## The endpoints -/

def defaultDevice : String := "SINGLE-USER-DEVICE"

/-- The device of a login, which is registered or reactivated, unless it has been revoked. -/
def resolveDevice (db : AuthDb) (user : User) (deviceId : String) : Except String AuthDb :=
  match db.devices.get? deviceId with
  | none =>
    match user.assignedStoreId.or (db.stores.rows.head?.map (·.id)) with
    | none => .error "No store configured. Run the genesis script or create a store first."
    | some storeId => .ok (db.putDevice
        ⟨deviceId, storeId, "Auto-registered (" ++ Py.takeFirst 24 deviceId ++ ")", true, none⟩)
  | some device =>
    if device.isActive = false ∧ device.revocationReason.getD "" ≠ "" then
      .error "This device has been revoked. Contact your administrator."
    else if device.isActive = false then
      .ok (db.putDevice { device with
        isActive := true
        revocationReason := none })
    else .ok db

structure LoginRequest where
  username : String
  password : String
  deviceId : Option String

def LoginRequest.device (body : LoginRequest) : String :=
  Py.orElse (Py.strip (body.deviceId.getD "")) defaultDevice

/-- `POST /auth/login`: the access token and the refresh token. -/
def login (db : AuthDb) (body : LoginRequest) : Except String ((Token × Token) × AuthDb) :=
  match db.users.rows.find? fun u => env.lower u.username = env.lower body.username with
  | none => .error "Incorrect username or password."
  | some user =>
    if user.isActive = false ∨ env.verifyPassword body.password user.hashedPassword = false then
      .error "Incorrect username or password."
    else (resolveDevice db user body.device).map fun db' =>
      ((createAccessToken env now (toString user.id) user.role body.device,
        createRefreshToken env now (toString user.id)), db')

/-- `POST /auth/refresh` -/
def refresh (db : AuthDb) (t : Token) : Except String Token :=
  match (decodeToken now .refresh t).bind db.tokenUser with
  | none => .error "Invalid or expired refresh token"
  | some user => .ok (createAccessToken env now (toString user.id) user.role noDevice)

/-- `POST /devices/{device_id}/revoke`; the reason has a character. -/
def revokeDevice (db : AuthDb) (deviceId reason : String) : Except String AuthDb :=
  if reason = "" then .error "String should have at least 1 character"
  else match db.devices.get? deviceId with
    | none => .error "Device not found"
    | some device =>
      if device.isActive = false then .error "Device is already revoked"
      else .ok (db.putDevice { device with
        isActive := false
        revocationReason := some reason })

def restoreClient : String := "RESTORE-CLIENT"

def webDashboard : String := "WEB-DASHBOARD-DEVICE"

/-- The user whose credentials `POST /restore/start` accepts. -/
def restoreUser (users : Table User) (verifyPassword : String → String → Bool)
    (username password : String) : Except String User :=
  match users.rows.find? fun u => u.username = Py.strip username with
  | none => .error "Invalid username or password"
  | some u =>
    if u.isActive = false then .error "Invalid username or password"
    else if verifyPassword password u.hashedPassword = false then
      .error "Invalid username or password"
    else .ok u

/-- Its device, which is created at an active store or switched on. -/
def switchOnRestoreClient (db : AuthDb) : AuthDb :=
  match db.devices.get? restoreClient with
  | none =>
    match db.stores.rows.find? (·.isActive) with
    | none => db
    | some store => db.putDevice ⟨restoreClient, store.id, "Restore Client (temporary)", true, none⟩
  | some device => db.putDevice { device with isActive := true }

/-- `POST /restore/start` -/
def startRestore (db : AuthDb) (username password : String) : Except String (Token × AuthDb) :=
  (restoreUser db.users env.verifyPassword username password).map fun u =>
    (createAccessToken env now (toString u.id) u.role restoreClient, switchOnRestoreClient db)

/-- The device of `POST /genesis`. -/
def ensureWebDevice (db : AuthDb) (storeId : String) : AuthDb :=
  match db.devices.get? webDashboard with
  | none => db.putDevice ⟨webDashboard, storeId, "Web Management Dashboard", true, none⟩
  | some device => db.putDevice { device with
      storeId := storeId
      isActive := true
      revocationReason := none }

/-- A device that is not there yet, of `POST /devices/register` or of an ingested transaction. -/
def addDevice (db : AuthDb) (deviceId storeId deviceName : String) : AuthDb :=
  if (db.devices.get? deviceId).isSome then db
  else db.putDevice ⟨deviceId, storeId, deviceName, true, none⟩

/-! ## The server -/

/-- The database and the clock, and the tokens issued so far, each with the device of the login that it
goes back to. -/
structure AuthState where
  db : AuthDb
  now : Int
  issued : List (String × Token)

/-- What is asked of the server. Genesis is its device and a change of users and stores, which `other`
is, and so are the requests that touch no device. -/
inductive AuthRequest
  | login (body : LoginRequest)
  | refresh (device : String) (t : Token)
  | revoke (deviceId reason : String)
  | addDevice (deviceId storeId deviceName : String)
  | restoreStart (username password : String)
  | genesis (storeId : String)
  | wipe
  | other (users : Table User) (stores : Table Store)
  | wait (seconds : Nat)

/-- A request that is refused changes nothing. -/
def AuthState.serve (s : AuthState) : AuthRequest → AuthState
  | .login body =>
    match Server.login env s.now s.db body with
    | .ok (tokens, db) => { s with
        db := db
        issued := (body.device, tokens.1) :: (body.device, tokens.2) :: s.issued }
    | .error _ => s
  | .refresh device t =>
    if (device, t) ∈ s.issued then
      match Server.refresh env s.now s.db t with
      | .ok t' => { s with issued := (device, t') :: s.issued }
      | .error _ => s
    else s
  | .revoke deviceId reason =>
    match revokeDevice s.db deviceId reason with
    | .ok db => { s with db := db }
    | .error _ => s
  | .addDevice deviceId storeId deviceName =>
    { s with db := Server.addDevice s.db deviceId storeId deviceName }
  | .restoreStart username password =>
    match startRestore env s.now s.db username password with
    | .ok (t, db) => { s with
        db := db
        issued := (restoreClient, t) :: s.issued }
    | .error _ => s
  | .genesis storeId => { s with db := ensureWebDevice s.db storeId }
  | .wipe => { s with db := { s.db with devices := ∅ } }
  | .other users stores => { s with db := { s.db with
      users := users
      stores := stores } }
  | .wait seconds => { s with now := s.now + seconds }

def AuthState.serveAll (s : AuthState) (requests : List AuthRequest) : AuthState :=
  requests.foldl (AuthState.serve env) s

end Server
