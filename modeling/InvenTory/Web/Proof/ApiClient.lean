import InvenTory.Lib.Runs
import InvenTory.Web.ApiClient
import Mathlib.Data.List.Basic

/-!
# How old the dashboard's answers are

A request is kept once it is made, and never changes after it is settled (`Later`). What the client
remembers comes from a request of the same key, and counts for the TTL from its start; what the service
remembers comes from a search, and counts for the TTL from its end (`Dated`). The two add up
(`answers_dated`). A key has one request at a time (`one_fetch_a_key`), and the last one it ever has is one
whose session had expired or whose body could not be read. The key knows nothing of the user: an answer is
everyone's (`answer_for_everyone`).
-/

namespace Web

open Runs World

variable {D : Type} {ttl now : Millis} {w w' : World D} {key path : String} {data : D} {t : Millis} {n : Nat}

/-! ## Requests are kept -/

/-- The requests are there, and those that are settled are as they were. -/
def Later (w w' : World D) : Prop :=
  ∀ (n : Nat) (r : Request D), w.requests[n]? = some r → ∃ r', w'.requests[n]? = some r' ∧ r'.key = r.key ∧
    r'.startedAt = r.startedAt ∧ ∀ o, r.phase = .settled o → r'.phase = .settled o

theorem Later.of_eq (h : w'.requests = w.requests) : Later w w' := by
  intro n r hr
  exact ⟨r, by rw [h, hr], rfl, rfl, fun _ ho => ho⟩

/-- A request with the data has the key, and counts until `t`. -/
def Answered (ttl : Millis) (w : World D) (key : String) (data : D) (t : Millis) : Prop :=
  ∃ r ∈ w.requests, r.key = key ∧ r.phase = .settled (.resolved data) ∧ t = r.startedAt + ttl

theorem Answered.later (h : Answered ttl w key data t) (hl : Later w w') : Answered ttl w' key data t := by
  obtain ⟨r, hr, hkey, hphase, ht⟩ := h
  obtain ⟨n, hn⟩ := List.getElem?_of_mem hr
  obtain ⟨r', hr', hkey', hat, hsettled⟩ := hl n r hn
  exact ⟨r', List.mem_of_getElem? hr', hkey'.trans hkey, hsettled _ hphase, by rw [hat, ht]⟩

theorem outcome_promise {o : Outcome D} :
    w.outcome (.promise n) = some o ↔ ∃ r, w.requests[n]? = some r ∧ r.phase = .settled o := by
  unfold outcome
  constructor
  · intro h
    simp only at h
    split at h
    · rename_i o' hr
      cases h
      exact ⟨_, hr, rfl⟩
    · cases h
  · rintro ⟨⟨k, token, at', phase⟩, hr, rfl⟩
    simp [hr]

theorem Later.outcome (hl : Later w w') {reply : Reply D} {o : Outcome D} (h : w.outcome reply = some o) :
    w'.outcome reply = some o := by
  cases reply with
  | cached data => exact h
  | promise n =>
    obtain ⟨r, hr, hphase⟩ := outcome_promise.1 h
    obtain ⟨r', hr', -, -, hsettled⟩ := hl n r hr
    exact outcome_promise.2 ⟨r', hr', hsettled o hphase⟩

theorem later_append {r : Request D} (h : w'.requests = w.requests ++ [r]) : Later w w' := by
  intro n r hr
  refine ⟨r, ?_, rfl, rfl, fun _ ho => ho⟩
  rw [h, List.getElem?_append_left (List.getElem?_eq_some_iff.1 hr).1, hr]

theorem later_setPhase {r : Request D} {phase : Phase D} (hr : w.requests[n]? = some r)
    (hphase : ∀ o, r.phase ≠ .settled o) (h : w'.requests = (w.setPhase n phase).requests) : Later w w' := by
  intro m s hs
  rw [h]
  unfold setPhase
  by_cases hm : n = m
  · subst hm
    rw [hr] at hs
    cases hs
    refine ⟨{ r with phase }, by simp [hr], rfl, rfl, fun o ho => absurd ho (hphase o)⟩
  · exact ⟨s, by simp [hm, hs], rfl, rfl, fun _ ho => ho⟩

theorem requests_setPhase {r : Request D} {phase : Phase D} (hr : w.requests[n]? = some r) :
    (w.setPhase n phase).requests[n]? = some { r with phase } := by
  simp [setPhase, hr]

/-! ## What the answers come from -/

/-- What a search has, by its reply. -/
structure Asked (ttl : Millis) (w : World D) (s : Search D) : Prop where
  cached : ∀ data, s.reply = .cached data →
    ∃ t, Answered ttl w (getCacheKey "GET" s.path none) data t ∧ s.startedAt < t
  promise : ∀ n, s.reply = .promise n →
    ∃ r, w.requests[n]? = some r ∧ r.key = getCacheKey "GET" s.path none
  finished : ∀ f o, s.finished = some (f, o) → w.outcome s.reply = some o

structure Dated (ttl : Millis) (w : World D) : Prop where
  client : ∀ key data t, w.client.entries key = some (data, t) → Answered ttl w key data t
  waits : ∀ key n, w.client.inFlight key = some n → ∃ r, w.requests[n]? = some r ∧ r.key = key
  searches : ∀ s ∈ w.searches, Asked ttl w s
  service : ∀ path data t, w.service.entries path = some (data, t) →
    ∃ s ∈ w.searches, s.path = path ∧ ∃ f, s.finished = some (f, .resolved data) ∧ t = f + ttl

theorem Asked.later {s : Search D} (h : Asked ttl w s) (hl : Later w w') : Asked ttl w' s where
  cached := by
    intro data hr
    obtain ⟨t, ha, ht⟩ := h.cached data hr
    exact ⟨t, ha.later hl, ht⟩
  promise := by
    intro n hr
    obtain ⟨r, hn, hkey⟩ := h.promise n hr
    obtain ⟨r', hr', hkey', -⟩ := hl n r hn
    exact ⟨r', hr', hkey'.trans hkey⟩
  finished := fun f o hf => hl.outcome (h.finished f o hf)

theorem dated_opened (stored : Option String) : Dated ttl (opened (D := D) stored) where
  client := fun _ _ _ h => by cases h
  waits := fun _ _ h => by cases h
  searches := fun s hs => by cases hs
  service := fun _ _ _ h => by cases h

/-- The requests go on, the answers and the waiting calls stay or go. -/
theorem Dated.later (h : Dated ttl w) (hl : Later w w')
    (hentries : ∀ key data t, w'.client.entries key = some (data, t) → Answered ttl w' key data t)
    (hwaits : ∀ key n, w'.client.inFlight key = some n →
      w.client.inFlight key = some n ∨ ∃ r, w'.requests[n]? = some r ∧ r.key = key)
    (hservice : w'.service.entries = w.service.entries) (hsearches : w'.searches = w.searches) :
    Dated ttl w' where
  client := hentries
  waits := by
    intro key n hn
    obtain hold | hnew := hwaits key n hn
    · obtain ⟨r, hr, hkey⟩ := h.waits key n hold
      obtain ⟨r', hr', hkey', -⟩ := hl n r hr
      exact ⟨r', hr', hkey'.trans hkey⟩
    · exact hnew
  searches := by
    rw [hsearches]
    exact fun s hs => (h.searches s hs).later hl
  service := by
    rw [hservice, hsearches]
    exact h.service

theorem waits_leave {m : Memo String D} :
    ∀ k n, (m.leave key).inFlight k = some n → m.inFlight k = some n := by
  intro k n hn
  rw [Memo.inFlight_leave] at hn
  split at hn
  · cases hn
  · exact hn

/-- What a request does: it finds an answer, joins a request, or is one. -/
theorem request_cases (w : World D) (now : Millis) (key : String) :
    (∃ data t, w.request now key = (w, .cached data) ∧ w.client.entries key = some (data, t) ∧ now < t) ∨
    (∃ n, w.request now key = (w, .promise n) ∧ w.client.inFlight key = some n) ∨
      w.client.inFlight key = none ∧ w.client.lookup now key = none ∧
      w.request now key = ({ w with
        client := w.client.join key w.requests.length
        requests := w.requests ++ [⟨key, w.token, now, .fetching⟩] }, .promise w.requests.length) := by
  unfold World.request
  cases hlook : w.client.lookup now key with
  | some data =>
    obtain ⟨t, he, ht⟩ := Memo.lookup_eq_some.1 hlook
    exact .inl ⟨data, t, rfl, he, ht⟩
  | none =>
    cases hin : w.client.inFlight key with
    | some n => exact .inr (.inl ⟨n, rfl, rfl⟩)
    | none => exact .inr (.inr ⟨rfl, rfl, rfl⟩)

theorem later_request (w : World D) (now : Millis) (key : String) : Later w (w.request now key).1 := by
  obtain ⟨_, _, he, -⟩ | ⟨_, he, -⟩ | ⟨-, -, he⟩ := request_cases w now key
  · rw [he]
    exact .of_eq rfl
  · rw [he]
    exact .of_eq rfl
  · rw [he]
    exact later_append rfl

theorem Dated.request (h : Dated ttl w) (now : Millis) (key : String) :
    Dated ttl (w.request now key).1 := by
  have hl := later_request w now key
  obtain ⟨_, _, he, -⟩ | ⟨_, he, -⟩ | ⟨-, -, he⟩ := request_cases w now key
  · rw [he]
    exact h
  · rw [he]
    exact h
  · rw [he] at hl ⊢
    refine h.later hl (fun k d t hk => (h.client k d t hk).later hl) (fun k n hn => ?_) rfl rfl
    rw [Memo.inFlight_join] at hn
    split at hn
    · rename_i hk
      cases hn
      exact .inr ⟨_, List.getElem?_concat_length, hk.symm⟩
    · exact .inl hn

/-- The reply to a request is of its key. -/
theorem request_reply (h : Dated ttl w) (now : Millis) (key : String) :
    (∀ data, (w.request now key).2 = .cached data →
      ∃ t, Answered ttl (w.request now key).1 key data t ∧ now < t) ∧
    ∀ n, (w.request now key).2 = .promise n →
      ∃ r, (w.request now key).1.requests[n]? = some r ∧ r.key = key := by
  obtain ⟨data, t, he, hent, ht⟩ | ⟨n, he, hin⟩ | ⟨-, -, he⟩ := request_cases w now key
  · rw [he]
    refine ⟨fun d hd => ?_, fun n hn => by cases hn⟩
    cases hd
    exact ⟨t, h.client key data t hent, ht⟩
  · rw [he]
    refine ⟨fun d hd => (by cases hd), fun m hm => ?_⟩
    cases hm
    exact h.waits key n hin
  · rw [he]
    refine ⟨fun d hd => (by cases hd), fun m hm => ?_⟩
    cases hm
    exact ⟨_, List.getElem?_concat_length, rfl⟩

theorem Dated.search (h : Dated ttl w) (now : Millis) (path : String) : Dated ttl (w.search now path) := by
  unfold World.search
  cases w.service.lookup now path with
  | some data => exact h
  | none =>
    have hdrop : Dated ttl { w with service := w.service.drop path } :=
      ⟨h.client, h.waits, fun s hs => (h.searches s hs).later (.of_eq rfl), Memo.forall_drop h.service⟩
    simp only
    split
    · exact hdrop
    · have hreq := hdrop.request now (getCacheKey "GET" path none)
      obtain ⟨hcached, hpromise⟩ := request_reply hdrop now (getCacheKey "GET" path none)
      refine ⟨hreq.client, hreq.waits, fun s hs => ?_, fun p d t hp => ?_⟩
      · simp only [List.mem_append, List.mem_singleton] at hs
        obtain hs | rfl := hs
        · exact (hreq.searches s hs).later (.of_eq rfl)
        · exact ⟨hcached, hpromise, fun f o hf => by cases hf⟩
      · obtain ⟨s, hs, hrest⟩ := hreq.service p d t hp
        exact ⟨s, List.mem_append_left _ hs, hrest⟩

theorem Dated.setPhase (h : Dated ttl w) {r : Request D} {phase : Phase D} (hr : w.requests[n]? = some r)
    (hphase : ∀ o, r.phase ≠ .settled o) : Dated ttl (w.setPhase n phase) := by
  have hl : Later w (w.setPhase n phase) := later_setPhase hr hphase rfl
  exact h.later hl (fun k d t hk => (h.client k d t hk).later hl) (fun k m hm => .inl hm) rfl rfl

theorem Dated.logOut (h : Dated ttl w) : Dated ttl w.logOut :=
  h.later (.of_eq rfl) (fun k d t hk => (h.client k d t hk).later (.of_eq rfl)) (fun _ _ hm => .inl hm) rfl
    rfl

theorem Dated.leave (h : Dated ttl w) (key : String) :
    Dated ttl { w with client := w.client.leave key } :=
  h.later (.of_eq rfl) (fun k d t hk => (h.client k d t hk).later (.of_eq rfl))
    (fun k m hm => .inl (waits_leave k m hm)) rfl rfl

theorem Dated.responds (h : Dated ttl w) (n status : Nat) (statusText : String) :
    Dated ttl (w.responds n status statusText) := by
  unfold World.responds
  split
  · rename_i hr
    split
    · exact (h.setPhase hr fun o ho => by cases ho).logOut
    · exact h.setPhase hr fun o ho => by cases ho
  · exact h

theorem Dated.fails (h : Dated ttl w) (n : Nat) : Dated ttl (w.fails n) := by
  unfold World.fails
  split
  · rename_i key token startedAt hr
    exact (h.setPhase hr fun o ho => by cases ho).leave key
  · exact h

theorem Dated.readBody (h : Dated ttl w) (n : Nat) (json : Json D) :
    Dated ttl (w.readBody ttl n json) := by
  unfold World.readBody
  split
  · rename_i key token startedAt status statusText hr
    split
    · cases json with
      | unreadable => exact h.setPhase hr fun o ho => by cases ho
      | value data detail =>
        have hset : Dated ttl (w.setPhase n (.settled (.resolved data))) :=
          h.setPhase hr fun o ho => by cases ho
        refine hset.later (.of_eq rfl) ?_ (fun k m hm => .inl (waits_leave k m hm)) rfl rfl
        refine Memo.forall_store hset.client ?_
        exact ⟨_, List.mem_of_getElem? (requests_setPhase hr), rfl, rfl, rfl⟩
    · exact (h.setPhase hr fun o ho => by cases ho).leave key
  · exact h

/-- The search `s` is done. -/
theorem Dated.finish (h : Dated ttl w) {s : Search D} {o : Outcome D} (hs : w.searches[n]? = some s)
    (hopen : s.finished = none) (ho : w.outcome s.reply = some o) (hclient : w'.client = w.client)
    (hrequests : w'.requests = w.requests) (hsearches : w'.searches = (w.finish n now o).searches)
    (hservice : ∀ path data t, w'.service.entries path = some (data, t) →
      w.service.entries path = some (data, t) ∨ path = s.path ∧ o = .resolved data ∧ t = now + ttl) :
    Dated ttl w' := by
  have hl : Later w w' := .of_eq hrequests
  have hmem : { s with finished := some (now, o) } ∈ w'.searches := by
    refine List.mem_of_getElem? (i := n) ?_
    rw [hsearches]
    simp [World.finish, hs]
  have hsame : ∀ x ∈ w.searches, x.finished ≠ none → x ∈ w'.searches := by
    intro x hx hdone
    obtain ⟨m, hm⟩ := List.getElem?_of_mem hx
    refine List.mem_of_getElem? (i := m) ?_
    rw [hsearches]
    by_cases hnm : n = m
    · subst hnm
      rw [hs] at hm
      cases hm
      exact absurd hopen hdone
    · simp [World.finish, hnm, hm]
  refine ⟨fun k d t hk => ?_, fun k m hm => ?_, fun x hx => ?_, fun path data t hp => ?_⟩
  · exact (h.client k d t (hclient ▸ hk)).later hl
  · rw [hrequests]
    exact h.waits k m (hclient ▸ hm)
  · obtain ⟨m, hm⟩ := List.getElem?_of_mem hx
    rw [hsearches] at hm
    unfold World.finish at hm
    simp only [List.getElem?_modify] at hm
    obtain ⟨y, hy, hx'⟩ := Option.map_eq_some_iff.1 hm
    have hasked := (h.searches y (List.mem_of_getElem? hy)).later hl
    split at hx'
    · rename_i hnm
      subst hnm
      rw [hs] at hy
      cases hy
      subst hx'
      refine ⟨hasked.cached, hasked.promise, fun f o' hf => ?_⟩
      cases hf
      exact hl.outcome ho
    · exact hx' ▸ hasked
  · obtain hold | ⟨rfl, rfl, rfl⟩ := hservice path data t hp
    · obtain ⟨x, hx, hpath, f, hf, ht⟩ := h.service path data t hold
      exact ⟨x, hsame x hx (by rw [hf]; simp), hpath, f, hf, ht⟩
    · exact ⟨_, hmem, rfl, now, rfl, rfl⟩

theorem Dated.wake (h : Dated ttl w) (n : Nat) (now : Millis) : Dated ttl (w.wake ttl n now) := by
  unfold World.wake
  split
  · rename_i path startedAt reply hs
    split
    · rename_i data ho
      refine h.finish hs rfl ho rfl rfl rfl fun p d t hp => ?_
      simp only [Memo.entries_leave, Memo.entries_store] at hp
      split at hp
      · rename_i hpath
        cases hp
        exact .inr ⟨hpath, rfl, rfl⟩
      · exact .inl hp
    · rename_i e ho
      exact h.finish hs rfl ho rfl rfl rfl fun p d t hp => .inl hp
    · exact h
  · exact h

theorem Dated.step (h : Dated ttl w) (e : Event D) : Dated ttl (w.step ttl e) := by
  have hsame : ∀ {w' : World D}, w'.requests = w.requests → w'.client = w.client →
      w'.service.entries = w.service.entries → w'.searches = w.searches → Dated ttl w' := by
    intro w' hr hc hs hx
    refine h.later (.of_eq hr) (fun k d t hk => ?_) (fun k m hm => .inl (hc ▸ hm)) hs hx
    exact (h.client k d t (hc ▸ hk)).later (.of_eq hr)
  cases e with
  | request now method path body => exact h.request now _
  | responds number status statusText => exact h.responds number status statusText
  | fails number => exact h.fails number
  | body number json => exact h.readBody number json
  | search now path => exact h.search now path
  | wake number now => exact h.wake number now
  | setToken token => exact hsame rfl rfl rfl rfl
  | clearToken => exact hsame rfl rfl rfl rfl
  | clearCache => exact h.later (.of_eq rfl) (fun k d t hk => by cases hk) (fun k m hm => .inl hm) rfl rfl
  | clearInFlight =>
    exact h.later (.of_eq rfl) (fun k d t hk => (h.client k d t hk).later (.of_eq rfl))
      (fun k m hm => by cases hm) rfl rfl
  | abortAll => exact hsame rfl rfl rfl rfl
  | clearResponseCache =>
    refine ⟨h.client, h.waits, fun s hs => (h.searches s hs).later (.of_eq rfl), fun p d t hp => ?_⟩
    cases hp
  | reload => exact dated_opened w.stored

/-- **How old an answer is**: in every run, what the client answers from its cache is the answer of a request
of the same key that began within the TTL. What the service answers from its cache it got from a search that
ended within the TTL, and the search from such a request when it began, or by waiting for one. -/
theorem answers_dated (ttl : Millis) (stored : Option String) (es : List (Event D)) :
    Always (step ttl) (fun w =>
      (∀ now key data, (w.request now key).2 = .cached data →
        ∃ r ∈ w.requests, r.key = key ∧ r.phase = .settled (.resolved data) ∧ now < r.startedAt + ttl) ∧
      ∀ now path data, w.service.lookup now path = some data →
        ∃ s ∈ w.searches, ∃ f, s.path = path ∧ s.finished = some (f, .resolved data) ∧ now < f + ttl ∧
          ∃ (n : Nat) (r : Request D), w.requests[n]? = some r ∧ r.key = getCacheKey "GET" path none ∧
            r.phase = .settled (.resolved data) ∧ (s.startedAt < r.startedAt + ttl ∨ s.reply = .promise n))
      (opened stored) es := by
  have hinv : Always (step ttl) (Dated ttl) (opened stored) es :=
    always_of_step (dated_opened stored) (fun w e h => h.step e) es
  refine hinv.mono fun w h => ⟨fun now key data hreq => ?_, fun now path data hlook => ?_⟩
  · obtain ⟨d, t, he, hent, ht⟩ | ⟨n, he, -⟩ | ⟨-, -, he⟩ := request_cases w now key
    · rw [he] at hreq
      cases hreq
      obtain ⟨r, hr, hkey, hphase, rfl⟩ := h.client key data t hent
      exact ⟨r, hr, hkey, hphase, ht⟩
    · rw [he] at hreq
      cases hreq
    · rw [he] at hreq
      cases hreq
  · obtain ⟨t, hent, ht⟩ := Memo.lookup_eq_some.1 hlook
    obtain ⟨s, hs, rfl, f, hf, rfl⟩ := h.service path data t hent
    have hasked := h.searches s hs
    have hout := hasked.finished f _ hf
    refine ⟨s, hs, f, rfl, hf, ht, ?_⟩
    cases hreply : s.reply with
    | cached d =>
      rw [hreply] at hout
      cases hout
      obtain ⟨t, ⟨r, hr, hkey, hphase, rfl⟩, hstart⟩ := hasked.cached data hreply
      obtain ⟨n, hn⟩ := List.getElem?_of_mem hr
      exact ⟨n, r, hn, hkey, hphase, .inl hstart⟩
    | promise n =>
      rw [hreply] at hout
      obtain ⟨r, hr, hkey⟩ := hasked.promise n hreply
      obtain ⟨r', hr', hphase⟩ := outcome_promise.1 hout
      rw [hr] at hr'
      cases hr'
      exact ⟨n, r, hr, hkey, hphase, .inr rfl⟩

/-- With a TTL of a minute, an answer that is nearly two minutes old. -/
example : (List.foldl (step 60000) (opened (D := Nat) none)
    [.search 0 "/stores", .responds 0 200 "OK", .body 0 (.value 7 none), .wake 0 0, .clearResponseCache,
      .search 59999 "/stores", .wake 1 59999]).service.lookup 119998 "/stores" = some 7 := by
  decide

/-! ## One request for a key -/

/-- The failures after which the request is taken from `inFlightRequests`. -/
def Failure.leaves : Failure → Bool
  | .network | .notOk _ => true
  | .expired | .unreadable => false

/-- The request has been taken from `inFlightRequests`. -/
def Phase.released : Phase D → Bool
  | .fetching => false
  | .reading _ _ => false
  | .settled (.resolved _) => true
  | .settled (.rejected e) => e.leaves

structure OneEach (w : World D) : Prop where
  held : ∀ (n : Nat) (r : Request D), w.requests[n]? = some r → r.phase.released = false →
    w.client.inFlight r.key = some n
  last : ∀ (m n : Nat) (r s : Request D), m < n → w.requests[m]? = some r → w.requests[n]? = some s →
    r.key = s.key → r.phase.released = true

theorem oneEach_opened (stored : Option String) : OneEach (opened (D := D) stored) where
  held := fun _ _ hr => by simp [opened] at hr
  last := fun _ _ _ _ _ hr => by simp [opened] at hr

theorem OneEach.congr (h : OneEach w) (hr : w'.requests = w.requests)
    (hc : w'.client.inFlight = w.client.inFlight) : OneEach w' := by
  obtain ⟨held, last⟩ := h
  constructor
  · rw [hr, hc]
    exact held
  · rw [hr]
    exact last

theorem OneEach.request (h : OneEach w) (now : Millis) (key : String) :
    OneEach (w.request now key).1 := by
  obtain ⟨_, _, he, -⟩ | ⟨_, he, -⟩ | ⟨hin, -, he⟩ := request_cases w now key
  · rw [he]
    exact h
  · rw [he]
    exact h
  · rw [he]
    have hfree : ∀ (n : Nat) (r : Request D), w.requests[n]? = some r → r.key = key →
        r.phase.released = true := by
      intro n r hr hkey
      by_contra hheld
      have := h.held n r hr (by simpa using hheld)
      rw [hkey, hin] at this
      cases this
    have hcases : ∀ (n : Nat) (r : Request D), (w.requests ++ [⟨key, w.token, now, .fetching⟩])[n]? = some r →
        w.requests[n]? = some r ∨ n = w.requests.length ∧ r.key = key := by
      intro n r hr
      rw [List.getElem?_append] at hr
      split at hr
      · exact .inl hr
      · simp only [List.getElem?_singleton] at hr
        split at hr
        · cases hr
          exact .inr ⟨by omega, rfl⟩
        · cases hr
    refine ⟨fun n r hr hphase => ?_, fun m n r s hmn hr hs hkey => ?_⟩
    · rw [Memo.inFlight_join]
      obtain hold | ⟨rfl, hkey⟩ := hcases n r hr
      · rw [if_neg]
        · exact h.held n r hold hphase
        · intro hkey
          rw [hfree n r hold hkey] at hphase
          cases hphase
      · rw [if_pos hkey]
    · obtain hm | ⟨rfl, -⟩ := hcases m r hr
      · obtain hn | ⟨-, hs'⟩ := hcases n s hs
        · exact h.last m n r s hmn hm hn hkey
        · exact hfree m r hm (hkey.trans hs')
      · have hlt := (List.getElem?_eq_some_iff.1 hs).1
        simp only [List.length_append, List.length_singleton] at hlt
        omega

/-- A request goes on, and is taken from `inFlightRequests` if it is released. -/
theorem OneEach.setPhase (h : OneEach w) {r : Request D} (phase : Phase D) (hr : w.requests[n]? = some r)
    (hphase : r.phase.released = false) (hw : w'.requests = (w.setPhase n phase).requests)
    (hin : ∀ k, w'.client.inFlight k =
      if phase.released = true ∧ k = r.key then none else w.client.inFlight k) : OneEach w' := by
  have hcases : ∀ (m : Nat) (s : Request D), w'.requests[m]? = some s →
      m = n ∧ s = { r with phase } ∨ m ≠ n ∧ w.requests[m]? = some s := by
    intro m s hs
    rw [hw] at hs
    by_cases hmn : m = n
    · subst hmn
      rw [requests_setPhase hr] at hs
      cases hs
      exact .inl ⟨rfl, rfl⟩
    · refine .inr ⟨hmn, ?_⟩
      simpa [World.setPhase, Ne.symm hmn] using hs
  refine ⟨fun m s hs hheld => ?_, fun m k s u hmk hs hu hkey => ?_⟩
  · rw [hin]
    obtain ⟨rfl, rfl⟩ | ⟨hmn, hs⟩ := hcases m s hs
    · rw [if_neg fun hrel => by rw [show phase.released = false from hheld] at hrel; cases hrel.1]
      exact h.held m r hr hphase
    · have hm := h.held m s hs hheld
      rw [if_neg]
      · exact hm
      · rintro ⟨-, hkey⟩
        rw [hkey, h.held n r hr hphase] at hm
        cases hm
        exact hmn rfl
  · obtain ⟨rfl, rfl⟩ | ⟨hmn, hs⟩ := hcases m s hs
    · obtain ⟨rfl, -⟩ | ⟨-, hu⟩ := hcases k u hu
      · omega
      · rw [h.last m k r u hmk hr hu hkey] at hphase
        cases hphase
    · obtain ⟨rfl, rfl⟩ | ⟨-, hu⟩ := hcases k u hu
      · exact h.last m k s r hmk hs hr hkey
      · exact h.last m k s u hmk hs hu hkey

theorem OneEach.step (h : OneEach w) {e : Event D} (he : e ≠ .clearInFlight) : OneEach (w.step ttl e) := by
  cases e with
  | request now method path body => exact h.request now _
  | responds number status statusText =>
    simp only [World.step, responds]
    split
    · rename_i hr
      split
      · exact h.setPhase (.settled (.rejected .expired)) hr rfl rfl fun k => by
          simp [Phase.released, Failure.leaves, logOut, World.setPhase]
      · exact h.setPhase (.reading status statusText) hr rfl rfl fun k => by
          simp [Phase.released, World.setPhase]
    · exact h
  | fails number =>
    simp only [World.step, fails]
    split
    · rename_i hr
      exact h.setPhase (.settled (.rejected .network)) hr rfl rfl fun k => by
        simp [Phase.released, Failure.leaves]
    · exact h
  | body number json =>
    simp only [World.step, readBody]
    split
    · rename_i hr
      split
      · cases json with
        | unreadable =>
          exact h.setPhase (.settled (.rejected .unreadable)) hr rfl rfl fun k => by
            simp [Phase.released, Failure.leaves, World.setPhase]
        | value data detail =>
          exact h.setPhase (.settled (.resolved data)) hr rfl rfl fun k => by
            simp [Phase.released]
      · exact h.setPhase (.settled (.rejected (.notOk _))) hr rfl rfl fun k => by
          simp [Phase.released, Failure.leaves]
    · exact h
  | search now path =>
    simp only [World.step, search]
    split
    · exact h
    · have hdrop : OneEach { w with service := w.service.drop path } := h.congr rfl rfl
      split
      · exact hdrop
      · exact (hdrop.request now (getCacheKey "GET" path none)).congr rfl rfl
  | wake number now =>
    simp only [World.step, wake]
    split
    · split
      · exact h.congr rfl rfl
      · exact h.congr rfl rfl
      · exact h
    · exact h
  | setToken token => exact h.congr rfl rfl
  | clearToken => exact h.congr rfl rfl
  | clearCache => exact h.congr rfl rfl
  | clearInFlight => exact absurd rfl he
  | abortAll => exact h.congr rfl rfl
  | clearResponseCache => exact h.congr rfl rfl
  | reload => exact oneEach_opened w.stored

/-- **One request for a key at a time**: in every run without `clearInFlight`, a request is made only when
the earlier ones of its key were answered, or failed in the network or with an error status. -/
theorem one_fetch_a_key (ttl : Millis) (stored : Option String) {es : List (Event D)}
    (hes : .clearInFlight ∉ es) :
    Always (step ttl) (fun w => ∀ (m n : Nat) (r s : Request D), m < n → w.requests[m]? = some r →
      w.requests[n]? = some s → r.key = s.key → (∃ data, r.phase = .settled (.resolved data)) ∨
        r.phase = .settled (.rejected .network) ∨ ∃ detail, r.phase = .settled (.rejected (.notOk detail)))
      (opened stored) es := by
  have halong : Along (step ttl) (fun _ e => e ≠ .clearInFlight) (opened stored) es :=
    along_of_mem (fun e he _ => ne_of_mem_of_not_mem he hes) _
  refine (halong.always (oneEach_opened stored) fun w e h he => h.step he).mono ?_
  intro w h m n r s hmn hr hs hkey
  have hrel := h.last m n r s hmn hr hs hkey
  cases hphase : r.phase with
  | fetching => simp [hphase, Phase.released] at hrel
  | reading status text => simp [hphase, Phase.released] at hrel
  | settled o =>
    cases o with
    | resolved data => exact .inl ⟨data, rfl⟩
    | rejected e =>
      cases e with
      | network => exact .inr (.inl rfl)
      | expired => simp [hphase, Phase.released, Failure.leaves] at hrel
      | notOk detail => exact .inr (.inr ⟨detail, rfl⟩)
      | unreadable => simp [hphase, Phase.released, Failure.leaves] at hrel

theorem later_step {e : Event D} (he : e ≠ .reload) : Later w (w.step ttl e) := by
  cases e with
  | request now method path body => exact later_request w now _
  | responds number status statusText =>
    simp only [World.step, responds]
    split
    · rename_i hr
      split
      · exact later_setPhase hr (fun o ho => by cases ho) rfl
      · exact later_setPhase hr (fun o ho => by cases ho) rfl
    · exact .of_eq rfl
  | fails number =>
    simp only [World.step, fails]
    split
    · rename_i hr
      exact later_setPhase hr (fun o ho => by cases ho) rfl
    · exact .of_eq rfl
  | body number json =>
    simp only [World.step, readBody]
    split
    · rename_i hr
      split
      · cases json with
        | unreadable => exact later_setPhase hr (fun o ho => by cases ho) rfl
        | value data detail => exact later_setPhase hr (fun o ho => by cases ho) rfl
      · exact later_setPhase hr (fun o ho => by cases ho) rfl
    · exact .of_eq rfl
  | search now path =>
    simp only [World.step, search]
    split
    · exact .of_eq rfl
    · split
      · exact .of_eq rfl
      · exact later_request { w with service := w.service.drop path } now (getCacheKey "GET" path none)
  | wake number now =>
    simp only [World.step, wake]
    split
    · split
      · exact .of_eq rfl
      · exact .of_eq rfl
      · exact .of_eq rfl
    · exact .of_eq rfl
  | setToken token => exact .of_eq rfl
  | clearToken => exact .of_eq rfl
  | clearCache => exact .of_eq rfl
  | clearInFlight => exact .of_eq rfl
  | abortAll => exact .of_eq rfl
  | clearResponseCache => exact .of_eq rfl
  | reload => exact absurd rfl he

/-- **A key can be lost**: after an expired session or an unreadable body, and until the page is loaded again,
no request of the key is made, and a call that the cache does not answer is rejected as the old one was. -/
theorem stuck_until_reload {stored : Option String} {es es' : List (Event D)} {r : Request D} {e : Failure}
    (hes : .clearInFlight ∉ es ++ es') (hreload : .reload ∉ es')
    (hr : (es.foldl (step ttl) (opened stored)).requests[n]? = some r)
    (hphase : r.phase = .settled (.rejected e)) (he : e = .expired ∨ e = .unreadable) :
    Always (step ttl) (fun w => w.outcome (.promise n) = some (.rejected e) ∧
        ∀ now, (w.request now r.key).1 = w ∧ ∀ m, (w.request now r.key).2 = .promise m → m = n)
      (es.foldl (step ttl) (opened stored)) es' := by
  have hfree : ∀ x ∈ es ++ es', x ≠ .clearInFlight := fun x hx => ne_of_mem_of_not_mem hx hes
  have hbefore : Along (step ttl) (fun _ e => e ≠ .clearInFlight) (opened stored) es :=
    along_of_mem (fun x hx _ => hfree x (List.mem_append_left _ hx)) _
  have hone : OneEach (es.foldl (step ttl) (opened stored)) :=
    (hbefore.always (oneEach_opened stored) fun w e h he => h.step he).last
  have hafter : Along (step ttl) (fun _ e => e ≠ .clearInFlight ∧ e ≠ .reload)
      (es.foldl (step ttl) (opened stored)) es' :=
    along_of_mem (fun x hx _ =>
      ⟨hfree x (List.mem_append_right _ hx), ne_of_mem_of_not_mem hx hreload⟩) _
  have hstuck : Always (step ttl) (fun w => OneEach w ∧
      ∃ r', w.requests[n]? = some r' ∧ r'.key = r.key ∧ r'.phase = .settled (.rejected e))
      (es.foldl (step ttl) (opened stored)) es' := by
    refine hafter.always ⟨hone, r, hr, rfl, hphase⟩ ?_
    rintro w x ⟨h, r', hr', hkey, hphase'⟩ ⟨hx, hx'⟩
    have hl : Later w (w.step ttl x) := later_step hx'
    obtain ⟨r'', hr'', hkey', -, hsettled⟩ := hl n r' hr'
    exact ⟨h.step hx, r'', hr'', hkey'.trans hkey, hsettled _ hphase'⟩
  refine hstuck.mono ?_
  rintro w ⟨h, r', hr', hkey, hphase'⟩
  have hin : w.client.inFlight r.key = some n := by
    rw [← hkey]
    refine h.held n r' hr' ?_
    obtain rfl | rfl := he
    · simp [hphase', Phase.released, Failure.leaves]
    · simp [hphase', Phase.released, Failure.leaves]
  refine ⟨outcome_promise.2 ⟨r', hr', hphase'⟩, fun now => ?_⟩
  obtain ⟨d, t, hreq, -⟩ | ⟨k, hreq, hk⟩ | ⟨hnone, -⟩ := request_cases w now r.key
  · rw [hreq]
    exact ⟨rfl, fun m hm => by cases hm⟩
  · rw [hreq]
    refine ⟨rfl, fun m hm => ?_⟩
    cases hm
    rw [hin] at hk
    cases hk
    rfl
  · rw [hin] at hnone
    cases hnone

/-! ## Whose answer it is -/

/-- The answer of the key is there, and no request of the key is on its way. -/
structure Remembered (key : String) (data : D) (t : Millis) (w : World D) : Prop where
  entry : w.client.entries key = some (data, t)
  settled : ∀ r ∈ w.requests, r.key = key → ∃ o, r.phase = .settled o

/-- The event is no call for the key after `t`, and does not clear the cache. -/
def Spares (key : String) (t : Millis) : Event D → Prop
  | .request now method path body => getCacheKey method path body = key → now < t
  | .search now path => getCacheKey "GET" path none = key → now < t
  | .clearCache => False
  | .reload => False
  | _ => True

theorem Remembered.request (h : Remembered key data t w) {now : Millis} {key' : String}
    (hnow : key' = key → now < t) : Remembered key data t (w.request now key').1 := by
  obtain ⟨_, _, he, -⟩ | ⟨_, he, -⟩ | ⟨-, hlook, he⟩ := request_cases w now key'
  · rw [he]
    exact h
  · rw [he]
    exact h
  · have hne : key' ≠ key := by
      rintro rfl
      rw [Memo.lookup_eq_some.2 ⟨t, h.entry, hnow rfl⟩] at hlook
      cases hlook
    rw [he]
    refine ⟨h.entry, fun r hr hkey => ?_⟩
    simp only [List.mem_append, List.mem_singleton] at hr
    obtain hr | rfl := hr
    · exact h.settled r hr hkey
    · exact absurd hkey hne

theorem Remembered.setPhase (h : Remembered key data t w) {r : Request D} {phase : Phase D}
    (hr : w.requests[n]? = some r) (hphase : ∀ o, r.phase ≠ .settled o)
    (hw : w'.requests = (w.setPhase n phase).requests)
    (hentry : key ≠ r.key → w'.client.entries key = w.client.entries key) : Remembered key data t w' := by
  have hne : r.key ≠ key := by
    intro hkey
    obtain ⟨o, ho⟩ := h.settled r (List.mem_of_getElem? hr) hkey
    exact hphase o ho
  refine ⟨(hentry hne.symm).trans h.entry, fun s hs hkey => ?_⟩
  obtain ⟨m, hm⟩ := List.getElem?_of_mem hs
  rw [hw] at hm
  by_cases hmn : n = m
  · subst hmn
    rw [requests_setPhase hr] at hm
    cases hm
    exact absurd hkey hne
  · have hm' : w.requests[m]? = some s := by simpa [World.setPhase, hmn] using hm
    exact h.settled s (List.mem_of_getElem? hm') hkey

theorem Remembered.congr (h : Remembered key data t w) (hr : w'.requests = w.requests)
    (hc : w'.client.entries = w.client.entries) : Remembered key data t w' := by
  obtain ⟨entry, settled⟩ := h
  constructor
  · rw [hc]
    exact entry
  · rw [hr]
    exact settled

theorem Remembered.step (h : Remembered key data t w) {e : Event D} (he : Spares key t e) :
    Remembered key data t (w.step ttl e) := by
  cases e with
  | request now method path body => exact h.request he
  | responds number status statusText =>
    simp only [World.step, responds]
    split
    · rename_i hr
      split
      · exact h.setPhase hr (fun o ho => by cases ho) rfl fun _ => rfl
      · exact h.setPhase hr (fun o ho => by cases ho) rfl fun _ => rfl
    · exact h
  | fails number =>
    simp only [World.step, fails]
    split
    · rename_i hr
      exact h.setPhase hr (fun o ho => by cases ho) rfl fun _ => rfl
    · exact h
  | body number json =>
    simp only [World.step, readBody]
    split
    · rename_i hr
      split
      · cases json with
        | unreadable => exact h.setPhase hr (fun o ho => by cases ho) rfl fun _ => rfl
        | value data detail =>
          exact h.setPhase hr (fun o ho => by cases ho) rfl fun hne => by simp [hne]
      · exact h.setPhase hr (fun o ho => by cases ho) rfl fun _ => rfl
    · exact h
  | search now path =>
    simp only [World.step, search]
    split
    · exact h
    · have hdrop : Remembered key data t { w with service := w.service.drop path } := h.congr rfl rfl
      split
      · exact hdrop
      · exact (hdrop.request he).congr rfl rfl
  | wake number now =>
    simp only [World.step, wake]
    split
    · split
      · exact h.congr rfl rfl
      · exact h.congr rfl rfl
      · exact h
    · exact h
  | setToken token => exact h.congr rfl rfl
  | clearToken => exact h.congr rfl rfl
  | clearCache => exact he.elim
  | clearInFlight => exact h.congr rfl rfl
  | abortAll => exact h.congr rfl rfl
  | clearResponseCache => exact h.congr rfl rfl
  | reload => exact he.elim

/-- **An answer is everyone's**: until it expires, a call for its key gets it, whoever has logged out and in
since, and with whatever token. -/
theorem answer_for_everyone {es : List (Event D)} (hentry : w.client.entries key = some (data, t))
    (hsettled : ∀ r ∈ w.requests, r.key = key → ∃ o, r.phase = .settled o)
    (hes : ∀ e ∈ es, Spares key t e) :
    Always (step ttl) (fun w => ∀ now < t, (w.request now key).2 = .cached data) w es := by
  have halong : Along (step ttl) (fun _ e => Spares key t e) w es := along_of_mem (fun e he _ => hes e he) _
  have hinv : Always (step ttl) (Remembered key data t) w es :=
    halong.always ⟨hentry, hsettled⟩ fun w e h he => h.step he
  refine hinv.mono fun w h now hnow => ?_
  unfold World.request
  rw [Memo.lookup_eq_some.2 ⟨t, h.entry, hnow⟩]

/-! ## A session that expires, and a user after another -/

namespace Sample

def me : List (Event Nat) :=
  [.setToken "A", .request 0 "GET" "/auth/me" none, .responds 0 200 "OK", .body 0 (.value 1 none)]

def meTwice : List (Event Nat) := me ++ [.request 40000 "GET" "/auth/me" none]

/-- The session of A expires, and B logs in before the page is loaded again. -/
def expiry : List (Event Nat) := [.setToken "A", .request 0 "GET" "/stores" none, .responds 0 401 ""]

def relogin : List (Event Nat) := [.clearToken, .setToken "B", .request 5 "GET" "/auth/me" none]

end Sample

open Web.Sample

theorem me_asked_once : Always (step 30000) (fun w => ∀ (m n : Nat) (r s : Request Nat), m < n →
    w.requests[m]? = some r → w.requests[n]? = some s → r.key = s.key →
      (∃ data, r.phase = .settled (.resolved data)) ∨ r.phase = .settled (.rejected .network) ∨
        ∃ detail, r.phase = .settled (.rejected (.notOk detail)))
    (opened none) meTwice ∧ (meTwice.foldl (step 30000) (opened none)).requests.length = 2 :=
  ⟨one_fetch_a_key 30000 none (by decide), by decide⟩

theorem stores_lost : Always (step 30000) (fun w =>
    w.outcome (.promise 0) = some (.rejected .expired) ∧
      ∀ now, (w.request now "GET:/stores").1 = w ∧
        ∀ m, (w.request now "GET:/stores").2 = .promise m → m = 0)
    (expiry.foldl (step 30000) (opened none)) relogin :=
  stuck_until_reload (r := ⟨"GET:/stores", some "A", 0, .settled (.rejected .expired)⟩) (by decide)
    (by decide) (by decide) rfl (.inl rfl)

/-- B is shown the user A. -/
theorem shown_to_other : Always (step 30000) (fun w => ∀ now < 30000,
    (w.request now "GET:/auth/me").2 = .cached 1) (me.foldl (step 30000) (opened none)) relogin :=
  answer_for_everyone (by decide) (fun r hr _ => by cases List.mem_singleton.1 hr; exact ⟨_, rfl⟩) (by
    simp only [relogin, List.forall_mem_cons]
    exact ⟨trivial, trivial, fun _ => by decide, by simp⟩)

end Web
