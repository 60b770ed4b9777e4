import InvenTory.Server.Auth

/-!
# Genesis

`POST /genesis` of `admin.py`, which asks for no token: in one transaction it writes a store, a user and the
device of the web dashboard, over the rows that have the id or the name. The columns are the ones that the
logins read, so that a store has no address here.
-/

namespace Server

open Relational

structure GenesisRequest where
  username : String
  email : String
  fullName : String
  password : String
  role : String
  storeId : String
  storeCode : String
  storeName : String
  storeAddress : Option String
  deriving DecidableEq, Repr

/-- The status 422, 409 or 500. -/
inductive GenesisError
  | validation
  | conflict (detail : String)
  | internal
  deriving DecidableEq, Repr

structure GenesisResponse where
  message : String
  username : String
  storeCode : String
  deriving DecidableEq, Repr

/-- `Field(.., min_length=.., max_length=..)` -/
def lengthWithin (least most : Nat) (s : String) : Bool := least ≤ s.length && s.length ≤ most

namespace GenesisRequest

variable (py : Py.CaseMap) (body : GenesisRequest)

def valid : Bool :=
  lengthWithin 1 100 body.username && lengthWithin 1 255 body.email &&
  lengthWithin 1 255 body.fullName && 8 ≤ body.password.length && lengthWithin 0 50 body.role &&
  lengthWithin 1 36 body.storeId && lengthWithin 1 50 body.storeCode &&
  lengthWithin 1 255 body.storeName && body.storeAddress.all (lengthWithin 0 500)

def cleanUsername : String := Py.strip body.username

def cleanRole : String := Py.orElse (Py.strip body.role) "GLOBAL_ADMIN"

def cleanStoreId : String := Py.strip body.storeId

def cleanCode : String := py.upper (Py.strip body.storeCode)

def store : Store := ⟨body.cleanStoreId, body.cleanCode py, Py.strip body.storeName, true⟩

/-- The row of the user with this id. -/
def user (id : Int) (hashed : String) : User where
  id := id
  username := body.cleanUsername
  email := Py.strip body.email
  hashedPassword := hashed
  fullName := some (Py.strip body.fullName)
  role := body.cleanRole
  assignedStoreId := some body.cleanStoreId
  isActive := true

end GenesisRequest

namespace AuthDb

variable (db : AuthDb)

/-- The code has a column of 50 characters, which are counted after the change of case. -/
def genesisStore (s : Store) : Except GenesisError AuthDb :=
  match db.stores.get? s.id with
  | some _ =>
    if s.code.length ≤ 50 ∧ ∀ t ∈ db.stores.rows, t.code = s.code → t.id = s.id then
      .ok { db with stores := db.stores.put s }
    else .error .internal
  | none =>
    if db.stores.rows.any (·.code = s.code) then
      .error (.conflict ("Store code '" ++ s.code ++ "' already exists"))
    else if s.code.length ≤ 50 then .ok { db with stores := db.stores.put s }
    else .error .internal

/-- The row that is written over the user with the name, or added; the emails are unique. -/
def genesisUser (row : Int → User) (username : String) (newId : Int) : Except GenesisError AuthDb :=
  let u := row (((db.users.rows.find? (·.username = username)).map (·.id)).getD newId)
  if ∃ v ∈ db.users.rows, v.email = u.email ∧ v.id ≠ u.id then .error .internal
  else .ok { db with users := db.users.put u }

end AuthDb

/-- `POST /genesis`: `hashed` is what `hash_password` returns, if it does, and `newId` the id that the
sequence has for a new user. -/
def runGenesis (py : Py.CaseMap) (hashed : Option String) (newId : Int) (db : AuthDb)
    (body : GenesisRequest) : Except GenesisError (GenesisResponse × AuthDb) :=
  if body.valid = false then .error .validation
  else match db.genesisStore (body.store py), hashed with
    | .error e, _ => .error e
    | .ok _, none => .error .internal
    | .ok db1, some h => (db1.genesisUser (body.user · h) body.cleanUsername newId).map fun db2 =>
        (⟨"Genesis complete on central server.", body.cleanUsername, body.cleanCode py⟩,
          ensureWebDevice db2 body.cleanStoreId)

end Server
