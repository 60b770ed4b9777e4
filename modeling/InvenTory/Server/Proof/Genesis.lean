import InvenTory.Lib.Runs
import InvenTory.Server.Genesis

/-!
# Who may set the server up, and how often

A genesis is refused only for its fields, for a code that another store has or for an email that another
user has (`genesis_accepted_iff`). Sent again it leaves what it has left (`genesis_again`), and over any
requests the names, the emails and the codes stay distinct. It may name a user that is there: whoever sends
it chooses the password and the role with which that user logs in from then on (`genesis_login_iff`).
-/

namespace Server

open Relational

/-- The unique columns of the tables. -/
structure AuthDb.Sound (db : AuthDb) : Prop where
  names : db.users.Unique User.username
  emails : db.users.Unique User.email
  codes : db.stores.Unique Store.code

section
variable {py : Py.CaseMap} {hash hash' : String} {newId newId' : Int} {db db' : AuthDb}
  {body : GenesisRequest} {response : GenesisResponse}

/-! ## Accepted requests -/

theorem genesisStore_ok_iff {s : Store} : db.genesisStore s = .ok db' ↔
    (s.code.length ≤ 50 ∧ ∀ t ∈ db.stores.rows, t.code = s.code → t.id = s.id) ∧
      db' = { db with stores := db.stores.put s } := by
  unfold AuthDb.genesisStore
  cases hid : db.stores.get? s.id with
  | some t =>
    dsimp only
    split
    · rename_i h
      rw [Except.ok.injEq]
      exact ⟨fun he => ⟨h, he.symm⟩, fun he => he.2.symm⟩
    · rename_i h
      exact ⟨fun he => (by cases he), fun he => absurd he.1 h⟩
  | none =>
    have hother : ∀ t ∈ db.stores.rows, t.id ≠ s.id := fun t ht he =>
      Table.get?_eq_none.1 hid (List.mem_map.2 ⟨t, ht, he⟩)
    dsimp only
    split
    · rename_i hany
      obtain ⟨t, ht, hcode⟩ := List.any_eq_true.1 hany
      refine ⟨fun he => (by cases he), fun he => ?_⟩
      exact absurd (he.1.2 t ht (of_decide_eq_true hcode)) (hother t ht)
    split
    · rename_i hany hlength
      rw [Except.ok.injEq]
      refine ⟨fun he => ⟨⟨hlength, fun t ht hcode => absurd ?_ hany⟩, he.symm⟩, fun he => he.2.symm⟩
      exact List.any_eq_true.2 ⟨t, ht, decide_eq_true hcode⟩
    · rename_i hlength
      exact ⟨fun he => (by cases he), fun he => absurd he.1.1 hlength⟩

/-- The id that the user of a request has or gets. -/
def AuthDb.genesisId (db : AuthDb) (username : String) (newId : Int) : Int :=
  ((db.users.rows.find? (·.username = username)).map (·.id)).getD newId

theorem genesisUser_ok_iff {row : Int → User} {username : String} :
    db.genesisUser row username newId = .ok db' ↔
      (∀ v ∈ db.users.rows, v.email = (row (db.genesisId username newId)).email →
        v.id = (row (db.genesisId username newId)).id) ∧
      db' = { db with users := db.users.put (row (db.genesisId username newId)) } := by
  unfold AuthDb.genesisUser
  change (if ∃ v ∈ db.users.rows, v.email = (row (db.genesisId username newId)).email ∧
    v.id ≠ (row (db.genesisId username newId)).id then _ else _) = _ ↔ _
  split
  · rename_i h
    obtain ⟨v, hv, hemail, hid⟩ := h
    exact ⟨fun he => (by cases he), fun he => absurd (he.1 v hv hemail) hid⟩
  · rename_i h
    rw [Except.ok.injEq]
    refine ⟨fun he => ⟨fun v hv hemail => ?_, he.symm⟩, fun he => he.2.symm⟩
    by_contra hid
    exact h ⟨v, hv, hemail, hid⟩

/-- What an accepted request leaves, with the id of its user. -/
def AuthDb.installed (py : Py.CaseMap) (db : AuthDb) (body : GenesisRequest) (hash : String) (id : Int) :
    AuthDb :=
  ensureWebDevice { db with
    stores := db.stores.put (body.store py)
    users := db.users.put (body.user id hash) } body.cleanStoreId

/-- What a request needs, with the id of its user. -/
structure Acceptable (py : Py.CaseMap) (db : AuthDb) (body : GenesisRequest) (id : Int) : Prop where
  valid : body.valid = true
  length : (body.cleanCode py).length ≤ 50
  code : ∀ t ∈ db.stores.rows, t.code = body.cleanCode py → t.id = body.cleanStoreId
  email : ∀ v ∈ db.users.rows, v.email = Py.strip body.email → v.id = id

theorem runGenesis_ok_iff : runGenesis py (some hash) newId db body = .ok (response, db') ↔
    Acceptable py db body (db.genesisId body.cleanUsername newId) ∧
      response = ⟨"Genesis complete on central server.", body.cleanUsername, body.cleanCode py⟩ ∧
      db' = db.installed py body hash (db.genesisId body.cleanUsername newId) := by
  unfold runGenesis
  cases hvalid : body.valid with
  | false =>
    rw [if_pos rfl]
    exact ⟨fun he => (by cases he), fun he => absurd he.1.valid (by rw [hvalid]; decide)⟩
  | true =>
    rw [if_neg (by decide)]
    cases hstore : db.genesisStore (body.store py) with
    | error e =>
      refine ⟨fun he => (by cases he), fun he => ?_⟩
      rw [genesisStore_ok_iff.2 ⟨⟨he.1.length, he.1.code⟩, rfl⟩] at hstore
      cases hstore
    | ok db1 =>
      obtain ⟨⟨hlength, hcode⟩, rfl⟩ := genesisStore_ok_iff.1 hstore
      dsimp only
      have huser : ∀ x, AuthDb.genesisUser { db with stores := db.stores.put (body.store py) }
          (fun id => body.user id hash) body.cleanUsername newId = .ok x ↔ _ := fun _ => genesisUser_ok_iff
      cases hrow : AuthDb.genesisUser { db with stores := db.stores.put (body.store py) }
          (fun id => body.user id hash) body.cleanUsername newId with
      | error e =>
        refine ⟨fun he => (by cases he), fun he => ?_⟩
        rw [(huser _).2 ⟨he.1.email, rfl⟩] at hrow
        cases hrow
      | ok db2 =>
        obtain ⟨hemail, rfl⟩ := (huser _).1 hrow
        simp only [Except.map, Except.ok.injEq, Prod.mk.injEq]
        refine ⟨fun he => ⟨⟨hvalid, hlength, hcode, hemail⟩, he.1.symm, he.2.symm⟩, fun he => ?_⟩
        exact ⟨he.2.1.symm, he.2.2.symm⟩

/-! ## What a request leaves -/

theorem genesisId_of_mem (hs : db.users.Unique User.username) {u : User} (hu : u ∈ db.users.rows)
    {username : String} (hname : u.username = username) : db.genesisId username newId = u.id := by
  have hsome : (db.users.rows.find? fun v => v.username = username).isSome :=
    List.find?_isSome.2 ⟨u, hu, decide_eq_true hname⟩
  obtain ⟨v, hv⟩ := Option.isSome_iff_exists.1 hsome
  have hvname : v.username = username := by simpa using List.find?_some hv
  unfold AuthDb.genesisId
  rw [hv, hs v (List.mem_of_find?_eq_some hv) u hu (hvname.trans hname.symm)]
  rfl

/-- The id is that of the user with the name, or new. -/
theorem genesisId_cases (db : AuthDb) (username : String) (newId : Int) :
    (∃ u ∈ db.users.rows, u.username = username ∧ db.genesisId username newId = u.id) ∨
      (∀ u ∈ db.users.rows, u.username ≠ username) ∧ db.genesisId username newId = newId := by
  unfold AuthDb.genesisId
  cases hfind : db.users.rows.find? fun v => v.username = username with
  | some u =>
    have hname : u.username = username := by simpa using List.find?_some hfind
    exact .inl ⟨u, List.mem_of_find?_eq_some hfind, hname, rfl⟩
  | none => exact .inr ⟨fun u hu he => List.find?_eq_none.1 hfind u hu (decide_eq_true he), rfl⟩

theorem ensureWebDevice_users (db : AuthDb) (storeId : String) :
    (ensureWebDevice db storeId).users = db.users ∧ (ensureWebDevice db storeId).stores = db.stores := by
  unfold ensureWebDevice
  split <;> exact ⟨rfl, rfl⟩

theorem installed_users (id : Int) :
    (db.installed py body hash id).users = db.users.put (body.user id hash) :=
  (ensureWebDevice_users _ _).1

theorem installed_stores (id : Int) :
    (db.installed py body hash id).stores = db.stores.put (body.store py) :=
  (ensureWebDevice_users _ _).2

/-- A user with the name of the request is the one that it writes. -/
theorem eq_genesisId (hs : db.Sound) (hfresh : db.users.get? newId = none) {u : User}
    (hu : u ∈ db.users.rows) :
    u.username = body.cleanUsername ↔ u.id = db.genesisId body.cleanUsername newId := by
  constructor
  · intro hname
    exact (genesisId_of_mem hs.names hu hname).symm
  · intro hid
    rcases genesisId_cases db body.cleanUsername newId with ⟨v, hv, hname, hv'⟩ | ⟨-, hnew⟩
    · rw [hv'] at hid
      have hget := Table.get?_of_mem hu
      rw [show key u = key v from hid, Table.get?_of_mem hv] at hget
      rw [← Option.some.inj hget]
      exact hname
    · rw [hnew] at hid
      exact absurd (hid ▸ List.mem_map_of_mem hu) (Table.get?_eq_none.1 hfresh)

/-- **When a genesis is accepted**, from anybody: its fields are valid, and no other store has its code and
no other user its email. -/
theorem genesis_accepted_iff (hs : db.Sound) (hfresh : db.users.get? newId = none) :
    (∃ response db', runGenesis py (some hash) newId db body = .ok (response, db')) ↔
      body.valid = true ∧ (body.cleanCode py).length ≤ 50 ∧
      (∀ t ∈ db.stores.rows, t.code = body.cleanCode py → t.id = body.cleanStoreId) ∧
      ∀ u ∈ db.users.rows, u.email = Py.strip body.email → u.username = body.cleanUsername := by
  simp only [runGenesis_ok_iff, exists_and_left, exists_eq, and_true]
  constructor
  · rintro ⟨hvalid, hlength, hcode, hemail⟩
    exact ⟨hvalid, hlength, hcode, fun u hu he => (eq_genesisId hs hfresh hu).2 (hemail u hu he)⟩
  · rintro ⟨hvalid, hlength, hcode, hemail⟩
    exact ⟨hvalid, hlength, hcode, fun u hu he => (eq_genesisId hs hfresh hu).1 (hemail u hu he)⟩

theorem AuthDb.Sound.genesis (hs : db.Sound) (hfresh : db.users.get? newId = none)
    (h : runGenesis py (some hash) newId db body = .ok (response, db')) : db'.Sound := by
  obtain ⟨hok, -, rfl⟩ := runGenesis_ok_iff.1 h
  refine ⟨?_, ?_, ?_⟩
  · rw [installed_users]
    exact hs.names.put fun u hu he => (eq_genesisId hs hfresh hu).1 he
  · rw [installed_users]
    exact hs.emails.put fun u hu he => hok.email u hu he
  · rw [installed_stores]
    exact hs.codes.put fun t ht he => hok.code t ht he

/-! ## Sent again -/

/-- The row of the web dashboard after a request. -/
def webRow (devices : Table DeviceRecord) (storeId : String) : DeviceRecord :=
  match devices.get? webDashboard with
  | none => ⟨webDashboard, storeId, "Web Management Dashboard", true, none⟩
  | some device => { device with
      storeId := storeId
      isActive := true
      revocationReason := none }

theorem ensureWebDevice_eq (db : AuthDb) (storeId : String) :
    ensureWebDevice db storeId = db.putDevice (webRow db.devices storeId) := by
  unfold ensureWebDevice webRow
  cases db.devices.get? webDashboard with
  | none => rfl
  | some device => rfl

theorem webRow_id (devices : Table DeviceRecord) (storeId : String) :
    (webRow devices storeId).id = webDashboard := by
  unfold webRow
  split
  · rfl
  · rename_i device h
    exact Table.key_of_get? h

theorem webRow_fields (devices : Table DeviceRecord) (storeId : String) :
    ∃ id name, webRow devices storeId = ⟨id, storeId, name, true, none⟩ := by
  unfold webRow
  split <;> exact ⟨_, _, rfl⟩

theorem webRow_put (devices : Table DeviceRecord) (storeId : String) :
    webRow (devices.put (webRow devices storeId)) storeId = webRow devices storeId := by
  have hget := devices.get?_put_self (webRow devices storeId)
  rw [show key (webRow devices storeId) = webDashboard from webRow_id devices storeId] at hget
  obtain ⟨id, name, hrow⟩ := webRow_fields devices storeId
  rw [webRow, hget, hrow]

theorem installed_eq (id : Int) : db.installed py body hash id =
    ⟨db.users.put (body.user id hash), db.stores.put (body.store py),
      db.devices.put (webRow db.devices body.cleanStoreId)⟩ := ensureWebDevice_eq _ _

/-- Only the hash of the later request counts. -/
theorem installed_again (id : Int) :
    (db.installed py body hash id).installed py body hash' id = db.installed py body hash' id := by
  have hdevices := Table.put_put db.devices (r := webRow db.devices body.cleanStoreId) rfl
  have husers : (db.users.put (body.user id hash)).put (body.user id hash') = _ :=
    Table.put_put db.users rfl
  have hstores := Table.put_put db.stores (r := body.store py) rfl
  simp only [installed_eq, webRow_put, hdevices, husers, hstores]

theorem Acceptable.again {id : Int} (h : Acceptable py db body id) :
    Acceptable py (db.installed py body hash id) body id := by
  refine ⟨h.valid, h.length, ?_, ?_⟩
  · rw [installed_stores]
    intro t ht hcode
    rcases Table.mem_put.1 ht with rfl | ⟨ht, -⟩
    · rfl
    · exact h.code t ht hcode
  · rw [installed_users]
    intro v hv hemail
    rcases Table.mem_put.1 hv with rfl | ⟨hv, -⟩
    · rfl
    · exact h.email v hv hemail

/-- The user that a request writes is there with its id. -/
theorem login_user {env : AuthEnv} {typed : String}
    (honly : ∀ v ∈ db.users.rows, env.lower v.username = env.lower body.cleanUsername →
      v.username = body.cleanUsername)
    (hs : db.Sound) (hfresh : db.users.get? newId = none)
    (htyped : env.lower typed = env.lower body.cleanUsername) :
    (db.installed py body hash (db.genesisId body.cleanUsername newId)).users.rows.find?
        (fun u => env.lower u.username = env.lower typed) =
      some (body.user (db.genesisId body.cleanUsername newId) hash) := by
  rw [installed_users]
  have hmem : body.user (db.genesisId body.cleanUsername newId) hash ∈
      (db.users.put (body.user (db.genesisId body.cleanUsername newId) hash)).rows :=
    Table.mem_put.2 (.inl rfl)
  have hsome : ((db.users.put (body.user (db.genesisId body.cleanUsername newId) hash)).rows.find?
      fun u => env.lower u.username = env.lower typed).isSome :=
    List.find?_isSome.2 ⟨_, hmem, decide_eq_true htyped.symm⟩
  obtain ⟨v, hv⟩ := Option.isSome_iff_exists.1 hsome
  rw [hv]
  have hname : env.lower v.username = env.lower typed := by simpa using List.find?_some hv
  rcases Table.mem_put.1 (List.mem_of_find?_eq_some hv) with rfl | ⟨hvmem, hne⟩
  · rfl
  · exact absurd ((eq_genesisId hs hfresh hvmem).1 (honly v hvmem (hname.trans htyped))) hne

/-- A login on the device is not refused: it has not been revoked, or it is the one of the dashboard. -/
def DeviceFree (db : AuthDb) (device : String) : Prop :=
  device = webDashboard ∨ ∀ row, db.devices.get? device = some row →
    row.isActive = true ∨ row.revocationReason.getD "" = ""

theorem putDevice_get? {row : DeviceRecord} {device : String} (h : row.id = device) :
    (db.putDevice row).devices.get? device = some row := by
  cases h
  exact db.devices.get?_put_self row

theorem resolveDevice_ok {user : User} {device storeId : String} (hfree : ∀ row,
    db.devices.get? device = some row → row.isActive = true ∨ row.revocationReason.getD "" = "")
    (hstore : user.assignedStoreId = some storeId) :
    ∃ db', resolveDevice db user device = .ok db' ∧ db'.users = db.users ∧
      ∃ row, db'.devices.get? device = some row ∧ row.isActive = true := by
  unfold resolveDevice
  cases hget : db.devices.get? device with
  | none =>
    rw [hstore]
    exact ⟨_, rfl, rfl, _, putDevice_get? rfl, rfl⟩
  | some row =>
    dsimp only
    have hkey : row.id = device := Table.key_of_get? hget
    by_cases hactive : row.isActive = true
    · rw [if_neg fun h => absurd (hactive.symm.trans h.1) (by decide),
        if_neg fun h => absurd (hactive.symm.trans h) (by decide)]
      exact ⟨db, rfl, rfl, row, hget, hactive⟩
    · rw [if_neg fun h => (hfree row hget).elim hactive h.2, if_pos (Bool.eq_false_iff.2 hactive)]
      exact ⟨_, rfl, rfl, _, putDevice_get? hkey, rfl⟩

theorem DeviceFree.installed {device : String} (h : DeviceFree db device) (id : Int) : ∀ row,
    (db.installed py body hash id).devices.get? device = some row →
      row.isActive = true ∨ row.revocationReason.getD "" = "" := by
  intro row hrow
  rw [installed_eq] at hrow
  by_cases hweb : device = webDashboard
  · have hself := db.devices.get?_put_self (webRow db.devices body.cleanStoreId)
    rw [show key (webRow db.devices body.cleanStoreId) = device from (webRow_id _ _).trans hweb.symm] at hself
    obtain ⟨_, _, hfields⟩ := webRow_fields db.devices body.cleanStoreId
    rw [← Option.some.inj (hself.symm.trans hrow), hfields]
    exact .inl rfl
  · have hne : key (webRow db.devices body.cleanStoreId) ≠ device := fun he =>
      hweb (he.symm.trans (webRow_id _ _))
    rw [Table.get?_put_of_ne db.devices hne] at hrow
    exact h.elim (fun he => absurd he hweb) fun hrows => hrows row hrow

/-- A token of the user is accepted until it expires. -/
theorem getCurrentUser_of_login {env : AuthEnv} {now later : Int} {user : User} {device : String}
    (huser : db.users.get? user.id = some user) (hactive : user.isActive = true)
    (hdevice : ∃ row, db.devices.get? device = some row ∧ row.isActive = true)
    (hlater : later ≤ now + env.accessTokenExpireMinutes * 60) :
    getCurrentUser later db (createAccessToken env now (toString user.id) user.role device) = .ok user := by
  have hdecode : decodeToken later .access (createAccessToken env now (toString user.id) user.role device) =
      some (createAccessToken env now (toString user.id) user.role device) := by
    unfold decodeToken createAccessToken
    rw [if_neg (by simpa using hlater), if_pos rfl]
  have htoken : db.tokenUser (createAccessToken env now (toString user.id) user.role device) = some user := by
    unfold AuthDb.tokenUser createAccessToken
    rw [parseInt_toString]
    simp [huser, hactive]
  unfold getCurrentUser
  rw [hdecode, Option.bind_some, htoken]
  dsimp only
  obtain ⟨row, hrow, hrowActive⟩ := hdevice
  split
  · rfl
  · rename_i d hd
    have hd' : d = device := (Option.some.inj (Option.eq_some_of_filter_eq_some hd)).symm
    rw [hd', hrow]
    simp [hrowActive]

/-- Who logs in with the name of a request has the password that it has set, and is its user. -/
theorem login_installed {env : AuthEnv} {now later : Int} {request : LoginRequest}
    (hs : db.Sound) (hfresh : db.users.get? newId = none)
    (honly : ∀ v ∈ db.users.rows, env.lower v.username = env.lower body.cleanUsername →
      v.username = body.cleanUsername)
    (htyped : env.lower request.username = env.lower body.cleanUsername)
    (hdevice : DeviceFree db request.device) (hlater : later ≤ now + env.accessTokenExpireMinutes * 60)
    {id : Int} (hid : db.genesisId body.cleanUsername newId = id) :
    (env.verifyPassword request.password hash = true →
      ∃ tokens db'', login env now (db.installed py body hash id) request = .ok (tokens, db'') ∧
        getCurrentUser later db'' tokens.1 = .ok (body.user id hash)) ∧
    (env.verifyPassword request.password hash = false →
      login env now (db.installed py body hash id) request = .error "Incorrect username or password.") := by
  have hfind : (db.installed py body hash (db.genesisId body.cleanUsername newId)).users.rows.find?
      (fun u => env.lower u.username = env.lower request.username) = _ := login_user honly hs hfresh htyped
  rw [hid] at hfind
  have hfree : ∀ row, (db.installed py body hash id).devices.get? request.device = some row →
      row.isActive = true ∨ row.revocationReason.getD "" = "" := hdevice.installed id
  have hactive : (body.user id hash).isActive = true := rfl
  have huser : (db.installed py body hash id).users.get? id = some (body.user id hash) := by
    rw [installed_users]
    exact db.users.get?_put_self (body.user id hash)
  unfold login
  rw [hfind]
  dsimp only
  constructor
  · intro hverify
    have hstore : (body.user id hash).assignedStoreId = some body.cleanStoreId := rfl
    obtain ⟨db'', hresolve, husers, hrow⟩ := resolveDevice_ok hfree hstore
    rw [if_neg, hresolve]
    · refine ⟨_, db'', rfl, ?_⟩
      exact getCurrentUser_of_login (husers ▸ huser) hactive hrow hlater
    · rintro (hoff | hwrong)
      · cases hoff
      · cases hverify.symm.trans hwrong
  · intro hverify
    exact if_pos (.inr hverify)

end

/-! ## Runs -/

/-- A request with what the server draws for it. -/
structure GenesisEvent where
  body : GenesisRequest
  hashed : Option String
  newId : Int

/-- A request that is refused changes nothing. -/
def AuthDb.genesisStep (py : Py.CaseMap) (db : AuthDb) (e : GenesisEvent) : AuthDb :=
  match runGenesis py e.hashed e.newId db e.body with
  | .ok (_, db') => db'
  | .error _ => db

/-- The users are still there under their names, and the stores. -/
structure StillThere (db db' : AuthDb) : Prop where
  users : ∀ u ∈ db.users.rows, ∃ v ∈ db'.users.rows, v.id = u.id ∧ v.username = u.username
  stores : ∀ s ∈ db.stores.rows, ∃ t ∈ db'.stores.rows, t.id = s.id

section
variable {py : Py.CaseMap} {db db' db'' : AuthDb} {e : GenesisEvent}

theorem StillThere.refl (db : AuthDb) : StillThere db db :=
  ⟨fun u hu => ⟨u, hu, rfl, rfl⟩, fun s hs => ⟨s, hs, rfl⟩⟩

theorem StillThere.trans (h : StillThere db db') (h' : StillThere db' db'') : StillThere db db'' := by
  constructor
  · intro u hu
    obtain ⟨v, hv, hid, hname⟩ := h.users u hu
    obtain ⟨w, hw, hid', hname'⟩ := h'.users v hv
    exact ⟨w, hw, hid'.trans hid, hname'.trans hname⟩
  · intro s hs
    obtain ⟨t, ht, hid⟩ := h.stores s hs
    obtain ⟨t', ht', hid'⟩ := h'.stores t ht
    exact ⟨t', ht', hid'.trans hid⟩

/-- A row with a key, after a row has been put. -/
theorem exists_mem_put {ρ κ : Type} [Keyed ρ κ] [DecidableEq κ] (t : Table ρ) (r : ρ) {x : ρ}
    (hx : x ∈ t.rows) : key x = key r ∨ x ∈ (t.put r).rows := by
  by_cases hkey : key x = key r
  · exact .inl hkey
  · exact .inr (Table.mem_put.2 (.inr ⟨hx, hkey⟩))

theorem genesisStep_cases (py : Py.CaseMap) (db : AuthDb) (e : GenesisEvent) :
    db.genesisStep py e = db ∨ ∃ hash response, e.hashed = some hash ∧
      runGenesis py (some hash) e.newId db e.body = .ok (response, db.genesisStep py e) := by
  unfold AuthDb.genesisStep
  cases hrun : runGenesis py e.hashed e.newId db e.body with
  | error err => exact .inl rfl
  | ok res =>
    refine .inr ?_
    cases hhash : e.hashed with
    | none =>
      rw [hhash] at hrun
      unfold runGenesis at hrun
      split at hrun
      · cases hrun
      · split at hrun <;> first | cases hrun | contradiction
    | some hash =>
      rw [hhash] at hrun
      exact ⟨hash, res.1, rfl, hrun⟩

theorem genesisStep_stillThere (hs : db.Sound) (hfresh : db.users.get? e.newId = none) :
    StillThere db (db.genesisStep py e) := by
  rcases genesisStep_cases py db e with hsame | ⟨hash, response, -, hrun⟩
  · rw [hsame]
    exact .refl db
  obtain ⟨-, -, heq⟩ := runGenesis_ok_iff.1 hrun
  rw [heq]
  constructor
  · intro u hu
    rw [installed_users]
    rcases exists_mem_put db.users (e.body.user (db.genesisId e.body.cleanUsername e.newId) hash) hu with
      hid | hmem
    · exact ⟨_, Table.mem_put.2 (.inl rfl), hid.symm, ((eq_genesisId hs hfresh hu).2 hid).symm⟩
    · exact ⟨u, hmem, rfl, rfl⟩
  · intro s hs
    rw [installed_stores]
    rcases exists_mem_put db.stores (e.body.store py) hs with hid | hmem
    · exact ⟨_, Table.mem_put.2 (.inl rfl), hid.symm⟩
    · exact ⟨s, hmem, rfl⟩

theorem genesisStep_sound (hs : db.Sound) (hfresh : db.users.get? e.newId = none) :
    (db.genesisStep py e).Sound := by
  rcases genesisStep_cases py db e with hsame | ⟨hash, response, -, hrun⟩
  · rw [hsame]
    exact hs
  · exact hs.genesis hfresh hrun

/-- **Over any requests**, accepted or refused, no two users share a name or an email and no two stores a
code, and every user is there with its id and its name, and every store. -/
theorem genesis_runs (hs : db.Sound) {es : List GenesisEvent}
    (hfresh : Runs.Along (AuthDb.genesisStep py) (fun db e => db.users.get? e.newId = none) db es) :
    Runs.Always (AuthDb.genesisStep py) (fun db' => db'.Sound ∧ StillThere db db') db es := by
  refine hfresh.always ⟨hs, .refl db⟩ fun db' e h hnew => ⟨genesisStep_sound h.1 hnew, ?_⟩
  exact h.2.trans (genesisStep_stillThere h.1 hnew)

end

/-! ## A shop -/

namespace Sample

def genesisEnv : AuthEnv := ⟨60, 7, fun p h => p = h, id⟩

/-- Owen, whose password nobody else knows. -/
def owned : AuthDb where
  users := Table.put ∅ ⟨7, "owen", "owen@shop", "secret", none, "STORE_CLERK", none, true⟩
  stores := Table.put ∅ ⟨"STORE-MAIN", "MAIN", "Main Street", true⟩
  devices := ∅

def takeover : GenesisRequest :=
  ⟨"owen", "eve@shop", "Eve", "password", "GLOBAL_ADMIN", "STORE-EVE", "EVE", "Eve's", none⟩

theorem owned_sound : owned.Sound := by
  refine ⟨?_, ?_, ?_⟩ <;>
  · intro a ha b hb _
    rw [List.mem_singleton.1 ha, List.mem_singleton.1 hb]

end Sample

open Sample in
/-- Eve, and then a request with the code of the other store. -/
theorem owned_runs : Runs.Always (AuthDb.genesisStep Py.CaseMap.ascii)
    (fun db => db.Sound ∧ StillThere owned db) owned
    [⟨takeover, some "password", 8⟩, ⟨{ takeover with storeCode := "main" }, some "password", 9⟩] :=
  genesis_runs owned_sound ⟨rfl, rfl, trivial⟩

end Server
