import InvenTory.Lib.Memo

/-!
# The requests of the dashboard

`apiClient.ts` keeps the answer of each request for the TTL of the build from its start, and lets equal
requests that come while one is on its way wait for it. Over it, `dashboardService.ts` does the same with
the answers of the searches and of the stores' inventories, from the time they are there. A request and a
search have their number; what the network does, the time and the user's logins come as events in any
order.
-/

namespace Web

abbrev Millis := Int

/-- The body is JSON as `JSON.stringify` writes it, unless it is falsy. -/
def getCacheKey (method path : String) (body : Option String) : String :=
  method ++ ":" ++ path ++ (body.map (":" ++ ·)).getD ""

/-- Why a request is rejected: `fetch` throws, the session has expired, the status is not ok, or the body
is not JSON. -/
inductive Failure
  | network
  | expired
  | notOk (detail : String)
  | unreadable
  deriving DecidableEq, Repr

inductive Outcome (D : Type)
  | resolved (data : D)
  | rejected (e : Failure)
  deriving DecidableEq, Repr

inductive Phase (D : Type)
  | fetching
  | reading (status : Nat) (statusText : String)
  | settled (o : Outcome D)
  deriving DecidableEq, Repr

/-- A `fetch`. -/
structure Request (D : Type) where
  key : String
  token : Option String
  startedAt : Millis
  phase : Phase D
  deriving DecidableEq, Repr

/-- What `request` returns: the data of the cache, or a promise that is the request's. -/
inductive Reply (D : Type)
  | cached (data : D)
  | promise (number : Nat)
  deriving DecidableEq, Repr

/-- A call of the service that the service's cache did not answer. -/
structure Search (D : Type) where
  path : String
  startedAt : Millis
  reply : Reply D
  /-- When it was done, and how. -/
  finished : Option (Millis × Outcome D)
  deriving DecidableEq, Repr

structure World (D : Type) where
  token : Option String
  /-- `auth_token` in the database of the browser. -/
  stored : Option String
  /-- `cacheMap` and `inFlightRequests`. -/
  client : Memo String D
  requests : List (Request D)
  /-- `responseCache` and `inFlightRequests`. -/
  service : Memo String D
  searches : List (Search D)

/-- What `resp.json()` gives, with the `detail` that the error text is taken from. -/
inductive Json (D : Type)
  | unreadable
  | value (data : D) (detail : Option String)
  deriving DecidableEq, Repr

/-- The `detail` of the body, if there is one. -/
def Json.errorText {D : Type} (statusText : String) : Json D → String
  | .value _ (some detail) => detail
  | _ => statusText

inductive Event (D : Type)
  | request (now : Millis) (method path : String) (body : Option String)
  /-- The headers of a request's response. -/
  | responds (number status : Nat) (statusText : String)
  /-- No response, or the timeout. -/
  | fails (number : Nat)
  | body (number : Nat) (json : Json D)
  /-- `searchProducts`, `searchProductsServer` and `getStoresInventoryBulk`, with the path they ask for. -/
  | search (now : Millis) (path : String)
  /-- A search goes on with its answer. -/
  | wake (number : Nat) (now : Millis)
  | setToken (token : String)
  | clearToken
  | clearCache
  | clearInFlight
  | abortAll
  | clearResponseCache
  | reload
  deriving DecidableEq, Repr

namespace World

variable {D : Type}

/-- The page as it comes up. -/
def opened (stored : Option String) : World D := ⟨stored, stored, .empty, [], .empty, []⟩

def request (w : World D) (now : Millis) (key : String) : World D × Reply D :=
  match w.client.lookup now key with
  | some data => (w, .cached data)
  | none =>
    match w.client.inFlight key with
    | some number => (w, .promise number)
    | none =>
      ({ w with
        client := w.client.join key w.requests.length
        requests := w.requests ++ [⟨key, w.token, now, .fetching⟩] }, .promise w.requests.length)

def setPhase (w : World D) (number : Nat) (phase : Phase D) : World D :=
  { w with requests := w.requests.modify number ({ · with phase }) }

def logOut (w : World D) : World D := { w with token := none, stored := none }

def responds (w : World D) (number status : Nat) (statusText : String) : World D :=
  match w.requests[number]? with
  | some ⟨_, _, _, .fetching⟩ =>
    if status = 401 then (w.setPhase number (.settled (.rejected .expired))).logOut
    else w.setPhase number (.reading status statusText)
  | _ => w

def fails (w : World D) (number : Nat) : World D :=
  match w.requests[number]? with
  | some ⟨key, _, _, .fetching⟩ =>
    { w.setPhase number (.settled (.rejected .network)) with client := w.client.leave key }
  | _ => w

def readBody (ttl : Millis) (w : World D) (number : Nat) (json : Json D) : World D :=
  match w.requests[number]? with
  | some ⟨key, _, startedAt, .reading status statusText⟩ =>
    if 200 ≤ status ∧ status ≤ 299 then
      match json with
      | .unreadable => w.setPhase number (.settled (.rejected .unreadable))
      | .value data _ =>
        { w.setPhase number (.settled (.resolved data)) with
          client := (w.client.store key data (startedAt + ttl)).leave key }
    else
      { w.setPhase number (.settled (.rejected (.notOk (json.errorText statusText)))) with
        client := w.client.leave key }
  | _ => w

/-- `getCache` and what follows it. -/
def search (w : World D) (now : Millis) (path : String) : World D :=
  match w.service.lookup now path with
  | some _ => w
  | none =>
    let w := { w with service := w.service.drop path }
    match w.service.inFlight path with
    | some _ => w
    | none =>
      let (w, reply) := w.request now (getCacheKey "GET" path none)
      { w with
        service := w.service.join path w.searches.length
        searches := w.searches ++ [⟨path, now, reply, none⟩] }

/-- How the promise of a reply is settled. -/
def outcome (w : World D) : Reply D → Option (Outcome D)
  | .cached data => some (.resolved data)
  | .promise number =>
    match w.requests[number]? with
    | some ⟨_, _, _, .settled o⟩ => some o
    | _ => none

def finish (w : World D) (number : Nat) (now : Millis) (o : Outcome D) : World D :=
  { w with searches := w.searches.modify number ({ · with finished := some (now, o) }) }

def wake (ttl : Millis) (w : World D) (number : Nat) (now : Millis) : World D :=
  match w.searches[number]? with
  | some ⟨path, _, reply, none⟩ =>
    match w.outcome reply with
    | some (.resolved data) =>
      { w.finish number now (.resolved data) with
        service := (w.service.store path data (now + ttl)).leave path }
    | some (.rejected e) =>
      { w.finish number now (.rejected e) with service := w.service.leave path }
    | none => w
  | _ => w

def step (ttl : Millis) (w : World D) : Event D → World D
  | .request now method path body => (w.request now (getCacheKey method path body)).1
  | .responds number status statusText => w.responds number status statusText
  | .fails number => w.fails number
  | .body number json => w.readBody ttl number json
  | .search now path => w.search now path
  | .wake number now => w.wake ttl number now
  | .setToken token => { w with token := some token, stored := some token }
  | .clearToken => w.logOut
  | .clearCache => { w with client := w.client.forget }
  | .clearInFlight => { w with client := w.client.abandon }
  | .abortAll => { w with service := w.service.abandon }
  | .clearResponseCache => { w with service := w.service.forget }
  | .reload => opened w.stored

end World

end Web
