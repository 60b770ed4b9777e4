import InvenTory.Sync.Products

/-!
# Product edits and sync runs

A desktop with its product tables and its outbox, and any number of `triggerSync` runs on it, each with
its own place in the push loop (`Stage`). A run takes its steps one by one, between product commands
and the steps of other runs: it reads the events that are due, marks them, reads the catalogue if it is
forced and this is its first request, posts, and marks the events as synced. `Shop` is any number of such
desktops with one server.

How many product events a read returns depends on what else is in the outbox; here it is any number.
-/

namespace Sync.Edits

open Desktop (Clock Instant Queue QueuedEvent Status StatusUpdate)
open Desktop.Catalogue
open Relational
open Server (DateTime)
open Wire (Runtime)

abbrev Row := QueuedEvent ProductPayload

/-- Where a run stands in the push loop. -/
inductive Stage
  | idle
  /-- The events are read; `catalogue` says whether all local products are pushed, too. -/
  | fetched (rows : List Row) (catalogue : Bool)
  | marked (rows : List Row) (catalogue : Bool)
  | ready (rows : List Row) (products : List Product)
  | answered (rows : List Row)

/-- A desktop, with its runs. -/
structure Desk where
  tables : Tables
  outbox : Queue ProductPayload
  stage : Nat → Stage

/-- A desktop and the server. -/
structure Station where
  desk : Desk
  server : Replica

/-- What the code takes from Rust, JavaScript and Pydantic. -/
structure Setting where
  rs : CatalogueRust
  rt : Runtime
  py : Pydantic
  text : Stamp → String

inductive Command
  | create (clk : Clock) (earlier : Instant) (input : NewProductInput)
  | update (clk : Clock) (input : UpdateProductInput)
  | toggle (clk : Clock) (id : String) (isActive : Bool)

/-- What happens: a product command, a step of the run `k`, or a response that is applied. -/
inductive Event
  | command (c : Command)
  | fetch (k : Nat) (now : Instant) (limit : Nat) (force catalogue : Bool)
  | mark (k : Nat) (now : Instant)
  | load (k : Nat)
  | post (k : Nat) (jsNow : String) (now : DateTime)
  | settle (k : Nat) (now : Instant)
  | pull (response : Response)

variable (w : Setting)

/-! ## Steps -/

def Command.run : Command → Sql.Prog String ProductsDb Product
  | .create clk earlier input => createProduct w.rs clk earlier input
  | .update clk input => updateProduct clk input
  | .toggle clk id isActive => toggleProductActive clk id isActive

namespace Desk

variable (d : Desk)

def db : ProductsDb := ⟨d.tables.products, d.outbox⟩

def withDb (db : ProductsDb) : Desk :=
  { d with tables := { d.tables with products := db.products }, outbox := db.outbox }

def setStage (k : Nat) (s : Stage) : Desk := { d with stage := Function.update d.stage k s }

/-- Status updates; if they fail, the error is dropped. -/
def update (now : Instant) (updates : List StatusUpdate) : Desk :=
  match d.outbox.updateStatuses now updates with
  | .ok q => { d with outbox := q }
  | .error _ => d

/-- `get_products`: the first 1000 by name. -/
def localProducts : List Product :=
  (d.tables.products.rows.insertionSort fun a b => a.name ≤ b.name).take 1000

/-- The run ends when there is nothing to be pushed. -/
def fetch (k : Nat) (now : Instant) (limit : Nat) (force catalogue : Bool) : Desk :=
  let q := d.outbox.reset force
  let rows := q.selectDue now limit
  let stage := if rows = [] ∧ ¬ catalogue then .idle else .fetched rows catalogue
  { d with outbox := q }.setStage k stage

def mark (k : Nat) (now : Instant) (rows : List Row) (catalogue : Bool) : Desk :=
  (d.update now (rows.map fun e => ⟨e.eventId, .sending, none⟩)).setStage k (.marked rows catalogue)

def load (k : Nat) (rows : List Row) (catalogue : Bool) : Desk :=
  d.setStage k (.ready rows (if catalogue then d.localProducts else []))

def settle (k : Nat) (now : Instant) (rows : List Row) : Desk :=
  (d.update now (rows.map fun e => ⟨e.eventId, .synced, none⟩)).setStage k .idle

end Desk

/-- The products of a request as the server reads them, if it accepts the request. -/
def request (jsNow : String) (rows : List Row) (products : List Product) :
    Option (List PushedProduct) := do
  let updates ← rows.mapM fun e => Wire.buildProductUpdate w.rt jsNow (payloadJson w.text e.payload)
  let pushed ← (products.map (localProduct w.text) ++ updates).mapM (validateProduct w.py)
  if pushed = [] then none else some pushed

/-- The server after a request, if it succeeds. -/
def pushAll (jsNow : String) (now : DateTime) (rows : List Row) (products : List Product)
    (r : Replica) : Option Replica := do
  let pushed ← request w jsNow rows products
  (pushed.foldlM (Replica.pushProduct now) r).toOption

namespace Station

variable (s : Station)

/-- The run reads again after a request that fails. -/
def post (k : Nat) (jsNow : String) (now : DateTime) (rows : List Row) (products : List Product) :
    Station :=
  match pushAll w jsNow now rows products s.server with
  | some server => ⟨s.desk.setStage k (.answered rows), server⟩
  | none => ⟨s.desk.setStage k .idle, s.server⟩

/-- A step of a run that stands elsewhere does nothing. -/
def step (s : Station) : Event → Station
  | .command c => ⟨s.desk.withDb ((c.run w).eval s.desk.db).2, s.server⟩
  | .fetch k now limit force catalogue =>
    match s.desk.stage k with
    | .idle => ⟨s.desk.fetch k now limit force catalogue, s.server⟩
    | _ => s
  | .mark k now =>
    match s.desk.stage k with
    | .fetched rows catalogue => ⟨s.desk.mark k now rows catalogue, s.server⟩
    | _ => s
  | .load k =>
    match s.desk.stage k with
    | .marked rows catalogue => ⟨s.desk.load k rows catalogue, s.server⟩
    | _ => s
  | .post k jsNow now =>
    match s.desk.stage k with
    | .ready rows products => s.post w k jsNow now rows products
    | _ => s
  | .settle k now =>
    match s.desk.stage k with
    | .answered rows => ⟨s.desk.settle k now rows, s.server⟩
    | _ => s
  | .pull response => ⟨{ s.desk with tables := (applySyncPull response s.desk.tables).2 }, s.server⟩

end Station

/-! ## Many desktops -/

/-- The desktops that share a server. -/
structure Shop (ι : Type) where
  desks : ι → Desk
  server : Replica

/-- A step of the desktop `i`. -/
def Shop.step {ι : Type} [DecidableEq ι] (s : Shop ι) (x : ι × Event) : Shop ι :=
  let t := Station.step w ⟨s.desks x.1, s.server⟩ x.2
  ⟨Function.update s.desks x.1 t.desk, t.server⟩

end Sync.Edits
