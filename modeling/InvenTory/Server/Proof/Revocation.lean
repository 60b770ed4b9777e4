import InvenTory.Server.Auth

/-!
# Revoked devices

A revoked device stays revoked while its row does (`Revoked.serve`), and every access token of a login on
it names it, so that none is accepted again. A refresh token names no device, and what it is exchanged
for is accepted on any (`revocation_final`).
-/

namespace Server

open Relational

/-- The row of the device says that it has been revoked. -/
def Revoked (D : String) (db : AuthDb) : Prop :=
  ∃ device, db.devices.get? D = some device ∧ device.isActive = false ∧
    device.revocationReason.getD "" ≠ ""

/-- What the tokens of the server look like. -/
structure WellIssued (D : String) (t : Token) : Prop where
  device : D ≠ ""
  access : t.type = .access → t.deviceId = some D ∨ t.deviceId = some noDevice

/-- Devices that endpoints switch on by themselves. -/
def serviceDevices : List String := [noDevice, restoreClient, webDashboard]

section
variable {D : String} {db db' : AuthDb} {device : DeviceRecord}

/-! ## Logins -/

theorem login_ok {env : AuthEnv} {now : Int} {body : LoginRequest} {tokens : Token × Token}
    (hok : login env now db body = .ok (tokens, db')) : tokens.1.deviceId = some body.device ∧
      tokens.2.type = .refresh ∧ ∃ user, resolveDevice db user body.device = .ok db' := by
  unfold login at hok
  split at hok
  · cases hok
  · rename_i user hfind
    split at hok
    · cases hok
    · cases hdev : resolveDevice db user body.device with
      | error e =>
        rw [hdev] at hok
        cases hok
      | ok db1 =>
        rw [hdev] at hok
        cases hok
        exact ⟨rfl, rfl, user, hdev⟩

theorem startRestore_ok {env : AuthEnv} {now : Int} {username password : String} {t : Token}
    (hok : startRestore env now db username password = .ok (t, db')) :
    t.deviceId = some restoreClient ∧ db' = switchOnRestoreClient db := by
  unfold startRestore at hok
  cases hu : restoreUser db.users env.verifyPassword username password with
  | error e =>
    rw [hu] at hok
    cases hok
  | ok u =>
    rw [hu] at hok
    cases hok
    exact ⟨rfl, rfl⟩

/-! ## A request leaves a revoked device -/

theorem Revoked.putDevice (h : Revoked D db) (hne : device.id ≠ D) : Revoked D (db.putDevice device) := by
  obtain ⟨r, hr, hoff⟩ := h
  exact ⟨r, (Table.get?_put_of_ne db.devices hne).trans hr, hoff⟩

theorem Revoked.congr (h : Revoked D db) (hd : db'.devices = db.devices) : Revoked D db' := by
  unfold Revoked
  rw [hd]
  exact h

theorem Revoked.resolveDevice (h : Revoked D db) {user : User} {d : String}
    (hok : resolveDevice db user d = .ok db') : Revoked D db' := by
  unfold Server.resolveDevice at hok
  obtain ⟨r, hr, hoff, hreason⟩ := h
  split at hok
  · rename_i hnone
    split at hok
    · cases hok
    · cases hok
      refine Revoked.putDevice ⟨r, hr, hoff, hreason⟩ ?_
      rintro rfl
      rw [hr] at hnone
      cases hnone
  · rename_i device hd
    split at hok
    · cases hok
    · rename_i hnot
      split at hok
      · cases hok
        refine Revoked.putDevice ⟨r, hr, hoff, hreason⟩ fun he => ?_
        have hkey : device.id = d := Table.key_of_get? hd
        rw [← hkey, show device.id = D from he, hr] at hd
        cases hd
        exact hnot ⟨hoff, hreason⟩
      · cases hok
        exact ⟨r, hr, hoff, hreason⟩

theorem Revoked.revokeDevice (h : Revoked D db) {d reason : String}
    (hok : revokeDevice db d reason = .ok db') : Revoked D db' := by
  unfold Server.revokeDevice at hok
  split at hok
  · cases hok
  · split at hok
    · cases hok
    · rename_i device hd
      split at hok
      · cases hok
      · rename_i hon
        cases hok
        refine h.putDevice fun he => ?_
        obtain ⟨r, hr, hoff, -⟩ := h
        have hkey : device.id = d := Table.key_of_get? hd
        rw [← hkey, show device.id = D from he, hr] at hd
        cases hd
        exact hon hoff

theorem revokeDevice_revoked {reason : String} (hok : revokeDevice db D reason = .ok db') :
    Revoked D db' := by
  unfold Server.revokeDevice at hok
  split at hok
  · cases hok
  · rename_i hreason
    split at hok
    · cases hok
    · rename_i device hd
      split at hok
      · cases hok
      · cases hok
        have hkey : device.id = D := Table.key_of_get? hd
        refine ⟨{ device with
          isActive := false
          revocationReason := some reason }, ?_, rfl, hreason⟩
        rw [← hkey]
        exact Table.get?_put_self db.devices _

theorem Revoked.addDevice (h : Revoked D db) (d storeId deviceName : String) :
    Revoked D (addDevice db d storeId deviceName) := by
  unfold Server.addDevice
  split
  · exact h
  · rename_i hnew
    refine h.putDevice fun he => ?_
    obtain ⟨r, hr, -⟩ := h
    rw [show d = D from he, hr] at hnew
    exact hnew rfl

theorem Revoked.switchOnRestoreClient (h : Revoked D db) (hD : restoreClient ≠ D) :
    Revoked D (switchOnRestoreClient db) := by
  unfold Server.switchOnRestoreClient
  split
  · split
    · exact h
    · exact h.putDevice hD
  · rename_i device hd
    have hkey : device.id = restoreClient := Table.key_of_get? hd
    exact h.putDevice fun he => hD (hkey.symm.trans he)

theorem Revoked.ensureWebDevice (h : Revoked D db) (hD : webDashboard ≠ D) (storeId : String) :
    Revoked D (ensureWebDevice db storeId) := by
  unfold Server.ensureWebDevice
  split
  · exact h.putDevice hD
  · rename_i device hd
    have hkey : device.id = webDashboard := Table.key_of_get? hd
    exact h.putDevice fun he => hD (hkey.symm.trans he)

/-! ## Runs -/

variable {env : AuthEnv} {s : AuthState} {request : AuthRequest} {requests : List AuthRequest}

/-- **A revoked device stays revoked** while the devices are not wiped. -/
theorem Revoked.serve (h : Revoked D s.db) (hD : D ∉ serviceDevices) (hwipe : request ≠ .wipe) :
    Revoked D (s.serve env request).db := by
  simp only [serviceDevices, List.mem_cons, List.not_mem_nil, or_false, not_or] at hD
  obtain ⟨-, hrestore, hweb⟩ := hD
  cases request with
  | login body =>
    simp only [AuthState.serve]
    split
    · rename_i tokens db' hok
      obtain ⟨-, -, user, hdev⟩ := login_ok hok
      exact h.resolveDevice hdev
    · exact h
  | refresh d t =>
    simp only [AuthState.serve]
    split
    · split <;> exact h
    · exact h
  | revoke d reason =>
    simp only [AuthState.serve]
    split
    · rename_i db' hok
      exact h.revokeDevice hok
    · exact h
  | addDevice d storeId deviceName => exact h.addDevice d storeId deviceName
  | restoreStart username password =>
    simp only [AuthState.serve]
    split
    · rename_i t db' hok
      obtain ⟨-, rfl⟩ := startRestore_ok hok
      exact h.switchOnRestoreClient (Ne.symm hrestore)
    · exact h
  | genesis storeId => exact h.ensureWebDevice (Ne.symm hweb) storeId
  | wipe => exact absurd rfl hwipe
  | other users stores => exact h.congr rfl
  | wait seconds => exact h

theorem Revoked.serveAll (h : Revoked D s.db) (hD : D ∉ serviceDevices)
    (hwipe : .wipe ∉ requests) : Revoked D (s.serveAll env requests).db := by
  induction requests generalizing s with
  | nil => exact h
  | cons request requests ih =>
    rw [List.mem_cons, not_or] at hwipe
    exact ih (h.serve hD (Ne.symm hwipe.1)) hwipe.2

/-- Every token of the server is one of a login, or of a refresh. -/
def AllIssued (s : AuthState) : Prop := ∀ D t, (D, t) ∈ s.issued → WellIssued D t

theorem device_ne_empty (body : LoginRequest) : body.device ≠ "" := by
  unfold LoginRequest.device Py.orElse
  split
  · decide
  · rename_i h
    exact h

theorem AllIssued.serve (h : AllIssued s) (request : AuthRequest) :
    AllIssued (s.serve env request) := by
  cases request with
  | login body =>
    simp only [AuthState.serve]
    split
    · rename_i tokens db' hok
      obtain ⟨hdevice, htype, -⟩ := login_ok hok
      intro D t ht
      rcases List.mem_cons.1 ht with he | ht
      · cases he
        exact ⟨device_ne_empty body, fun _ => .inl hdevice⟩
      rcases List.mem_cons.1 ht with he | ht
      · cases he
        exact ⟨device_ne_empty body, fun ha => by rw [htype] at ha; cases ha⟩
      · exact h D t ht
    · exact h
  | refresh d t =>
    simp only [AuthState.serve]
    split
    · rename_i hmem
      split
      · rename_i t' hok
        intro D t'' ht
        rcases List.mem_cons.1 ht with he | ht
        · cases he
          refine ⟨(h d t hmem).device, fun _ => .inr ?_⟩
          unfold Server.refresh at hok
          split at hok
          · cases hok
          · cases hok
            rfl
        · exact h D t'' ht
      · exact h
    · exact h
  | revoke d reason =>
    simp only [AuthState.serve]
    split <;> exact h
  | restoreStart username password =>
    simp only [AuthState.serve]
    split
    · rename_i t db' hok
      intro D t' ht
      rcases List.mem_cons.1 ht with he | ht
      · cases he
        exact ⟨by decide, fun _ => .inl (startRestore_ok hok).1⟩
      · exact h D t' ht
    · exact h
  | _ => exact h

theorem AllIssued.serveAll (h : AllIssued s) (requests : List AuthRequest) :
    AllIssued (s.serveAll env requests) := by
  induction requests generalizing s with
  | nil => exact h
  | cons request requests ih => exact ih (h.serve request)

/-! ## The check -/

/-- A token that names a revoked device is refused. -/
theorem getCurrentUser_revoked {now : Int} {t : Token} (h : Revoked D db) (hD : D ≠ "")
    (hno : D ≠ noDevice) (ht : t.deviceId = some D) (u : User) : getCurrentUser now db t ≠ .ok u := by
  intro hok
  obtain ⟨r, hr, hoff, -⟩ := h
  have hchecked : t.checkedDevice = some D := by
    unfold Token.checkedDevice
    rw [ht, Option.filter_some, if_pos (decide_eq_true ⟨hD, hno⟩)]
  have hinactive : (db.devices.get? D).filter (·.isActive) = none := by
    rw [hr, Option.filter_some, hoff]
    rfl
  unfold getCurrentUser at hok
  rw [hchecked] at hok
  split at hok
  · cases hok
  · dsimp only at hok
    rw [hinactive] at hok
    cases hok

theorem type_of_getCurrentUser {now : Int} {t : Token} {u : User}
    (h : getCurrentUser now db t = .ok u) : t.type = .access := by
  unfold getCurrentUser decodeToken at h
  by_contra hne
  rw [if_neg hne] at h
  split at h
  · cases h
  · rename_i hbind
    split at hbind <;> cases hbind

/-- What a refresh yields is accepted, whatever became of the device. -/
theorem refresh_accepted {now : Int} {t : Token} {u : User} (htype : t.type = .refresh)
    (hexp : ¬ t.exp < now) (hu : db.tokenUser t = some u) :
    ∃ t', refresh env now db t = .ok t' ∧ getCurrentUser now db t' = .ok u := by
  have hdecode : decodeToken now .refresh t = some t := by
    unfold decodeToken
    rw [if_neg hexp, if_pos htype]
  refine ⟨createAccessToken env now (toString u.id) u.role noDevice, ?_, ?_⟩
  · unfold refresh
    rw [hdecode, Option.bind_some, hu]
  · obtain ⟨hbind, hactive⟩ := Option.filter_eq_some_iff.1 hu
    obtain ⟨n, -, hn⟩ := Option.bind_eq_some_iff.1 hbind
    have hkey : u.id = n := Table.key_of_get? hn
    have huser : db.tokenUser (createAccessToken env now (toString u.id) u.role noDevice) = some u := by
      unfold AuthDb.tokenUser createAccessToken
      rw [parseInt_toString, Option.bind_some, hkey, hn, Option.filter_some, if_pos hactive]
    have hfresh : decodeToken now .access (createAccessToken env now (toString u.id) u.role noDevice) =
        some (createAccessToken env now (toString u.id) u.role noDevice) := by
      unfold decodeToken
      rw [if_neg]
      · rfl
      · show ¬ now + _ < now
        omega
    unfold getCurrentUser
    rw [hfresh, Option.bind_some, huser]
    rfl

/-- **A revocation is final for the access tokens of the device**, in every history in which the devices
are not wiped afterwards. A refresh token of the device is still exchanged for a token that names no
device, and which is accepted. -/
theorem revocation_final {start : AuthState} (hstart : start.issued = []) (before after : List AuthRequest)
    {reason : String} (hD : D ∉ serviceDevices)
    (hrevoke : revokeDevice (start.serveAll env before).db D reason = .ok db)
    (hwipe : .wipe ∉ after) :
    let s := start.serveAll env (before ++ .revoke D reason :: after)
    ∀ t, (D, t) ∈ s.issued →
      (∀ u, getCurrentUser s.now s.db t = .ok u → t.deviceId = some noDevice) ∧
      (t.type = .refresh → ¬ t.exp < s.now → ∀ u, s.db.tokenUser t = some u →
        ∃ t', refresh env s.now s.db t = .ok t' ∧ getCurrentUser s.now s.db t' = .ok u) := by
  intro s t ht
  have hissued : AllIssued s := by
    refine AllIssued.serveAll (fun D t h => ?_) _
    rw [hstart] at h
    cases h
  have hs : s = ((start.serveAll env before).serve env (.revoke D reason)).serveAll env after :=
    List.foldl_append
  have hrevoked : Revoked D s.db := by
    rw [hs]
    refine Revoked.serveAll ?_ hD hwipe
    simp only [AuthState.serve, hrevoke]
    exact revokeDevice_revoked hrevoke
  refine ⟨fun u hok => ?_, fun htype hexp u hu => refresh_accepted htype hexp hu⟩
  have hwell := hissued D t ht
  refine (hwell.access (type_of_getCurrentUser hok)).resolve_left fun hdevice => ?_
  have hno : D ≠ noDevice := fun he => hD (he ▸ List.mem_cons_self)
  exact getCurrentUser_revoked hrevoked hwell.device hno hdevice u hok

end

/-! ## A till that is revoked -/

namespace Sample

def cashier : User := ⟨1, "alice", "a@shop", "secret", none, "CASHIER", none, true⟩

def authEnv : AuthEnv := ⟨60, 30, fun p h => p = h, id⟩

/-- One user and one store, and nobody has logged in. -/
def opening : AuthState where
  db := ⟨(∅ : Table User).put cashier, (∅ : Table Store).put ⟨"shop", "S", "Shop", true⟩, ∅⟩
  now := 0
  issued := []

def tillLogin : AuthRequest := .login ⟨"alice", "secret", some "till"⟩

/-- The refresh token of the login. -/
def tillRefresh : Token := ⟨"1", .refresh, 2592000, none, none⟩

end Sample

open Sample in
/-- The access token of the login is refused after the revocation. -/
theorem till_refused :
    let s := opening.serveAll authEnv [tillLogin, .revoke "till" "stolen", .refresh "till" tillRefresh]
    getCurrentUser s.now s.db ⟨"1", .access, 3600, some "CASHIER", some "till"⟩ ≠ .ok cashier := by
  intro s hok
  obtain ⟨db, hrevoke⟩ : ∃ db, revokeDevice (opening.serveAll authEnv [tillLogin]).db "till" "stolen" =
      .ok db := ⟨_, rfl⟩
  have hfinal := revocation_final rfl [tillLogin] [.refresh "till" tillRefresh] (by decide) hrevoke
    (List.not_mem_cons_of_ne_of_not_mem nofun List.not_mem_nil)
    ⟨"1", .access, 3600, some "CASHIER", some "till"⟩ (by decide +kernel)
  exact absurd (hfinal.1 cashier hok) (by decide)

open Sample in
/-- A cashier logs in on a till, the till is revoked, and the refresh token is exchanged for an access
token with which the cashier is let in. -/
theorem till_returns :
    let s := opening.serveAll authEnv [tillLogin, .revoke "till" "stolen", .refresh "till" tillRefresh]
    ∃ t, ("till", t) ∈ s.issued ∧ (∃ d, s.db.devices.get? "till" = some d ∧ d.isActive = false) ∧
      getCurrentUser s.now s.db t = .ok cashier := by
  refine ⟨⟨"1", .access, 3600, some "CASHIER", some noDevice⟩, by decide +kernel,
    ⟨⟨"till", "shop", "Auto-registered (till)", false, some "stolen"⟩, by decide +kernel, rfl⟩,
    by decide +kernel⟩

end Server
