import InvenTory.Desktop.Restore
import InvenTory.Server.Genesis

/-!
# Setting a desktop up

`run_genesis` writes a store, an account and a device, each by a statement of its own, and sends the
credentials to the server in between; what is written before it fails stays. The wizard that calls it is
shown until `check_genesis_state` says that the database is ready.
-/

namespace Desktop

open Relational Sql Sql.Prog
open Catalogue (sqlUpper)

structure GenesisCall where
  username : String
  email : String
  fullName : String
  password : String
  role : String
  storeCode : String
  storeName : String
  storeAddress : Option String
  apiBaseUrl : Option String
  deriving DecidableEq, Repr

structure GenesisResult where
  success : Bool
  message : String
  username : Option String
  storeCode : Option String
  deriving DecidableEq, Repr

/-- What a call draws, the salt from the system's random numbers, and the reply to its request. -/
structure GenesisDraws where
  clk : Clock
  salt : Except String Nat
  reply : Except String Unit

/-! ## Statements -/

namespace RestoreDb

variable (db : RestoreDb)

/-- `SELECT COUNT(*) FROM stores WHERE UPPER(code) = ..` -/
def hasStoreCode (code : String) : Bool := db.stores.rows.any fun s => sqlUpper s.code = code

def insertStore (s : Store) : Except String RestoreDb :=
  (db.books.stock.insertStore s).map fun stock => db.withStock fun _ => stock

/-- `SELECT COUNT(*) FROM users WHERE LOWER(username) = LOWER(..)` -/
def hasUsername (username : String) : Bool :=
  db.accounts.rows.any fun u => sqlLower u.username = sqlLower username

def insertAccount (u : Account) : Except String RestoreDb :=
  if (db.accounts.get? u.id).isSome then .error (Db.uniqueFailed "users.id")
  else if db.accounts.rows.any (·.username = u.username) then .error (Db.uniqueFailed "users.username")
  else .ok { db with accounts := db.accounts.put u }

def insertDevice (d : Device) : Except String RestoreDb :=
  if (db.books.stock.devices.get? d.id).isSome then .error (Db.uniqueFailed "devices.id")
  else if (db.stores.get? d.storeId).isNone then .error Db.foreignKeyFailed
  else .ok (db.withStock fun stock => { stock with devices := stock.devices.put d })

/-- `SELECT username FROM users WHERE pin_hash IS NOT NULL AND username = ..` -/
def selectVerified (username : String) : Option String :=
  (db.accounts.rows.find? fun u => u.pinHash.isSome && u.username = username).map (·.username)

end RestoreDb

/-! ## The request -/

def normalizeApiUrl (raw : String) : String :=
  let trimmed := String.ofList ((trim raw).toList.reverse.dropWhile (· = '/')).reverse
  if "/api/v1".toList <:+ trimmed.toList then trimmed else trimmed ++ "/api/v1"

namespace GenesisCall

variable (rs : Rust) (c : GenesisCall) (d : GenesisDraws)

def codeClean : String := rs.toUppercase (trim c.storeCode)

def usernameClean : String := trim c.username

def addressClean : Option String := (c.storeAddress.map trim).filter (· ≠ "")

def storeId : String := "STORE-" ++ c.codeClean rs

def store : Store := ⟨c.storeId rs, c.codeClean rs, trim c.storeName, true⟩

def account (userId pinHash : String) : Account where
  id := userId
  username := c.usernameClean
  email := some (trim c.email)
  pinHash := some pinHash
  fullName := some (trim c.fullName)
  role := trim c.role
  isActive := true

/-- The body of `push_genesis_to_server`. -/
def request : Server.GenesisRequest where
  username := c.usernameClean
  email := trim c.email
  fullName := trim c.fullName
  password := c.password
  role := trim c.role
  storeId := c.storeId rs
  storeCode := c.codeClean rs
  storeName := trim c.storeName
  storeAddress := some (c.addressClean.getD "")

/-- The address that the request is sent to, if there is one. -/
def pushUrl : Option String :=
  ((c.apiBaseUrl.map trim).filter (· ≠ "")).map fun url => normalizeApiUrl url ++ "/genesis"

def serverMsg (reply : Except String Unit) : String :=
  match c.pushUrl, reply with
  | none, _ => ""
  | some _, .ok () => "\n[OK] Server credentials pushed."
  | some _, .error e => "\n[WARN] Server push failed: " ++ e ++ ". Local login still works offline."

end GenesisCall

/-! ## The command -/

section
variable (rs : Rust) (bcrypt : Bcrypt) (c : GenesisCall) (d : GenesisDraws)

def hashPin (password : String) : Prog String RestoreDb String :=
  match d.salt with
  | .ok salt => pure (bcrypt.hash salt password)
  | .error e => throw ("bcrypt hash failed: " ++ e)

/-- From the device on. -/
def finishGenesis : Prog String RestoreDb GenesisResult := do
  let _ ← attempt (autocommit (·.insertDevice ⟨generateId "DEV" (d.clk.nanos 1), c.storeId rs⟩))
  let verified ← attempt (query (·.selectVerified c.usernameClean))
  require (verified.toOption.join.getD "" ≠ "") "Write succeeded but verification failed."
  pure ⟨true, " Genesis complete." ++ c.serverMsg d.reply ++ " Log in with username '" ++
    c.usernameClean ++ "' and your chosen password.", some c.usernameClean, some (c.codeClean rs)⟩

/-- From the password on. -/
def createAccount : Prog String RestoreDb GenesisResult := do
  let pinHash ← context "Password hashing failed" (hashPin bcrypt d c.password)
  let taken ← attempt (query (·.hasUsername c.usernameClean))
  require (taken.toOption.getD false = false) ("Username '" ++ c.usernameClean ++ "' already exists.")
  context "Failed to create user"
    (autocommit (·.insertAccount (c.account (generateId "USER" (d.clk.nanos 0)) pinHash)))
  finishGenesis rs c d

/-- The database is opened, with its tables, and the flag of an earlier restore is cleared. -/
def prepare : Prog String RestoreDb Unit := do
  context "Failed to open database" (query fun _ => ())
  context "Schema creation failed" (autocommit .ok)
  let _ ← attempt (autocommit fun db => .ok db.clearCompleted)
  pure ()

/-- `run_genesis`, with an error for each `success: false`. -/
def tryGenesis : Prog String RestoreDb GenesisResult := do
  prepare
  let taken ← attempt (query (·.hasStoreCode (c.codeClean rs)))
  require (taken.toOption.getD false = false) ("Store code '" ++ c.codeClean rs ++ "' already exists.")
  context "Failed to create store" (autocommit (·.insertStore (c.store rs)))
  createAccount rs bcrypt c d

def runGenesis : Prog String RestoreDb GenesisResult := do
  let r ← attempt (tryGenesis rs bcrypt c d)
  match r with
  | .ok result => pure result
  | .error message => pure ⟨false, message, none, none⟩

end

/-! ## The state of the wizard -/

structure GenesisState where
  ready : Bool
  hasUserWithPin : Bool
  hasAnyStore : Bool
  hasTables : Bool
  deriving DecidableEq, Repr

/-- `check_genesis_state`, with the tables of the database if it has any. -/
def checkGenesisState : Option RestoreDb → GenesisState
  | none => ⟨false, false, false, false⟩
  | some db =>
    let hasAnyStore := db.stores.rows.any (·.isActive)
    let hasUserWithPin := db.accounts.rows.any fun u => u.pinHash.isSome && u.isActive
    let hasAnyUser := db.accounts.rows.any (·.isActive)
    ⟨hasUserWithPin || db.restoreCompleted || (hasAnyUser && hasAnyStore), hasUserWithPin || hasAnyUser,
      hasAnyStore, true⟩

end Desktop
