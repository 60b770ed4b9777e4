import InvenTory.Desktop.Genesis
import InvenTory.Desktop.Proof.Effect

/-!
# What a call of the wizard leaves

Any statement of `run_genesis` may fail. A call is refused before it has written anything, is stranded with
a store and no account, or writes both (`genesis_outcome`). The code of a store that is there is refused, so
that a stranded call cannot be made good (`spent_for_good`). A call that succeeds without a failure is one
that logs in ever after, with its password and no other (`founder_logs_in`), and the wizard is done with
exactly when there is an account (`ready_iff_account`).
-/

namespace Desktop

open Relational Sql Sql.Prog
open Catalogue (sqlUpper)

/-! ## Statements -/

section
variable {F : String → Prop} {σ β : Type} {s s' : σ}

/-- A check that is given up if its query fails. -/
theorem yields_check {f : σ → Bool} {m : String} {k : Unit → Prog String σ β} {r : Except String β}
    (h : (attempt (query f) >>= fun x =>
      require (x.toOption.getD false = false) m >>= k).Yields F s r s') :
    ((∃ e, r = .error e) ∧ s' = s) ∨ (f s = false ∨ ∃ e, F e) ∧ (k ()).Yields F s r s' := by
  obtain ⟨x, s1, hx, hrest⟩ := yields_attempt_bind h
  obtain ⟨rfl, hx⟩ := yields_query hx
  unfold require at hrest
  split at hrest
  · rename_i hfalse
    refine .inr ⟨?_, ?_⟩
    · rcases hx with rfl | ⟨e, he, -⟩
      · exact .inl hfalse
      · exact .inr ⟨e, he⟩
    · rcases yields_bind hrest with ⟨e, h1, -⟩ | ⟨u, s2, h1, h2⟩
      · cases (yields_pure h1).1
      · obtain ⟨-, rfl⟩ := yields_pure h1
        exact h2
  · rcases yields_bind hrest with ⟨e, h1, rfl⟩ | ⟨u, s2, h1, -⟩
    · exact .inl ⟨⟨e, rfl⟩, (yields_throw h1).2⟩
    · cases (yields_throw h1).1

end

/-! ## The account -/

/-- The stores and the accounts are as they were. -/
structure SameRows (db db' : RestoreDb) : Prop where
  stores : db'.stores = db.stores
  accounts : db'.accounts = db.accounts

section
variable {F : String → Prop} {rs : Rust} {b : Bcrypt} {c : GenesisCall} {d : GenesisDraws}
  {db db' : RestoreDb} {r : Except String GenesisResult}

theorem SameRows.refl (db : RestoreDb) : SameRows db db := ⟨rfl, rfl⟩

theorem yields_hashPin {m password : String} {r : Except String String}
    (h : (context m (hashPin b d password)).Yields F db r db') :
    db' = db ∧ ((∃ e, r = .error e) ∨ ∃ salt, d.salt = .ok salt ∧ r = .ok (b.hash salt password)) := by
  obtain ⟨r', hpin, rfl⟩ := yields_mapError h
  unfold hashPin at hpin
  split at hpin
  · rename_i salt hsalt
    obtain ⟨rfl, rfl⟩ := yields_pure hpin
    exact ⟨rfl, .inr ⟨salt, hsalt, rfl⟩⟩
  · obtain ⟨rfl, rfl⟩ := yields_throw hpin
    exact ⟨rfl, .inl ⟨_, rfl⟩⟩

theorem insertAccount_ok {u : Account} (h : db.insertAccount u = .ok db') :
    db'.stores = db.stores ∧ db'.accounts.rows = db.accounts.rows ++ [u] ∧
      ∀ v ∈ db.accounts.rows, v.username ≠ u.username := by
  unfold RestoreDb.insertAccount at h
  split at h
  · cases h
  split at h
  · cases h
  rename_i hid hname
  cases h
  refine ⟨rfl, Table.rows_put_new (Option.not_isSome_iff_eq_none.1 hid), fun v hv heq => hname ?_⟩
  exact List.any_eq_true.2 ⟨v, hv, decide_eq_true heq⟩

theorem insertDevice_ok {x : Device} (h : db.insertDevice x = .ok db') : SameRows db db' := by
  unfold RestoreDb.insertDevice at h
  split at h
  · cases h
  split at h
  · cases h
  cases h
  exact ⟨rfl, rfl⟩

/-- The account that a call writes. -/
def GenesisCall.founder (b : Bcrypt) (c : GenesisCall) (d : GenesisDraws) (salt : Nat) : Account :=
  c.account (generateId "USER" (d.clk.nanos 0)) (b.hash salt c.password)

/-- The account has been added. -/
structure Founded (F : String → Prop) (b : Bcrypt) (c : GenesisCall) (d : GenesisDraws)
    (db db' : RestoreDb) (salt : Nat) : Prop where
  drawn : d.salt = .ok salt
  accounts : db'.accounts.rows = db.accounts.rows ++ [c.founder b d salt]
  fresh : ∀ u ∈ db.accounts.rows, u.username ≠ c.usernameClean
  checked : db.hasUsername c.usernameClean = false ∨ ∃ e, F e

theorem finishGenesis_cases (h : (finishGenesis rs c d).Yields F db r db') : SameRows db db' ∧
    ∀ result, r = .ok result → result.success = true ∧ result.username = some c.usernameClean := by
  unfold finishGenesis at h
  obtain ⟨x, s1, h1, h2⟩ := yields_attempt_bind h
  have hsame : SameRows db s1 := by
    rcases yields_autocommit h1 with ⟨-, h1⟩ | ⟨-, rfl⟩
    · exact insertDevice_ok h1
    · exact .refl _
  obtain ⟨y, s2, h3, h4⟩ := yields_attempt_bind h2
  obtain ⟨rfl, -⟩ := yields_query h3
  rcases yields_bind h4 with ⟨e, h5, rfl⟩ | ⟨u, s3, h5, h6⟩
  · refine ⟨?_, fun _ he => by cases he⟩
    unfold require at h5
    split at h5
    · cases (yields_pure h5).1
    · rw [(yields_throw h5).2]
      exact hsame
  · obtain ⟨-, rfl⟩ := yields_require_ok h5
    obtain ⟨rfl, rfl⟩ := yields_pure h6
    refine ⟨hsame, fun result hresult => ?_⟩
    cases hresult
    exact ⟨rfl, rfl⟩

theorem createAccount_cases (h : (createAccount rs b c d).Yields F db r db') :
    db'.stores = db.stores ∧
      ((∃ e, r = .error e) ∧ db'.accounts = db.accounts ∨
        (∀ result, r = .ok result → result.success = true ∧ result.username = some c.usernameClean) ∧
          ∃ salt, Founded F b c d db db' salt) := by
  unfold createAccount at h
  rcases yields_bind h with ⟨e, h1, rfl⟩ | ⟨pin, s1, h1, h2⟩
  · obtain ⟨rfl, -⟩ := yields_hashPin h1
    exact ⟨rfl, .inl ⟨⟨e, rfl⟩, rfl⟩⟩
  obtain ⟨rfl, ⟨e, he⟩ | ⟨salt, hsalt, hpin⟩⟩ := yields_hashPin h1
  · cases he
  cases hpin
  rcases yields_check h2 with ⟨he, rfl⟩ | ⟨hchecked, h3⟩
  · exact ⟨rfl, .inl ⟨he, rfl⟩⟩
  rcases yields_bind h3 with ⟨e, h4, rfl⟩ | ⟨u, s2, h4, h5⟩
  · obtain ⟨r', h6, hr'⟩ := yields_mapError h4
    rcases yields_autocommit h6 with ⟨rfl, -⟩ | ⟨-, rfl⟩
    · cases hr'
    · exact ⟨rfl, .inl ⟨⟨e, rfl⟩, rfl⟩⟩
  obtain ⟨hstores, haccounts, hfresh⟩ := insertAccount_ok (yields_autocommit_ok (yields_context_ok h4))
  obtain ⟨hsame, hresult⟩ := finishGenesis_cases h5
  refine ⟨hsame.stores.trans hstores, .inr ⟨hresult, salt, hsalt, ?_, hfresh, hchecked⟩⟩
  rw [hsame.accounts]
  exact haccounts

/-! ## The call -/

theorem insertStore_ok {x : Store} (h : db.insertStore x = .ok db') :
    db'.stores.rows = db.stores.rows ++ [x] ∧ db'.accounts = db.accounts ∧
      ∀ t ∈ db.stores.rows, t.code ≠ x.code := by
  unfold RestoreDb.insertStore Db.insertStore at h
  split at h
  · cases h
  split at h
  · cases h
  rename_i hid hcode
  cases h
  refine ⟨Table.rows_put_new (Option.not_isSome_iff_eq_none.1 hid), rfl, fun t ht heq => hcode ?_⟩
  exact List.any_eq_true.2 ⟨t, ht, decide_eq_true heq⟩

/-- A call is refused, or writes its store and then an account or none. -/
inductive GenesisOutcome (F : String → Prop) (rs : Rust) (b : Bcrypt) (c : GenesisCall) (d : GenesisDraws)
    (db db' : RestoreDb) (result : GenesisResult) : Prop
  | refused (hsame : SameRows db db') (hfailed : result.success = false)
  | stranded (hstores : db'.stores.rows = db.stores.rows ++ [c.store rs])
    (hfree : ∀ t ∈ db.stores.rows, t.code ≠ c.codeClean rs) (haccounts : db'.accounts = db.accounts)
    (hfailed : result.success = false)
  | founded (salt : Nat) (hstores : db'.stores.rows = db.stores.rows ++ [c.store rs])
    (hfree : ∀ t ∈ db.stores.rows, t.code ≠ c.codeClean rs) (h : Founded F b c d db db' salt)
    (hname : result.success = true → result.username = some c.usernameClean)

theorem within_prepare : Within SameRows prepare := by
  have htrans : ∀ x y z, SameRows x y → SameRows y z → SameRows x z := fun _ _ _ hxy hyz =>
    ⟨hyz.stores.trans hxy.stores, hyz.accounts.trans hxy.accounts⟩
  refine .seq htrans (.mapError _ (.query .refl _)) fun _ => ?_
  refine .seq htrans (.mapError _ (.autocommit .refl ?_)) fun _ => ?_
  · intro x y h
    cases h
    exact .refl _
  refine .seq htrans (.attempt (.autocommit .refl ?_)) fun _ => .ret .refl ()
  intro x y h
  cases h
  exact ⟨rfl, rfl⟩

theorem tryGenesis_outcome (h : (tryGenesis rs b c d).Yields F db r db') (result : GenesisResult)
    (hr : r = .ok result ∨ (∃ e, r = .error e) ∧ result.success = false) :
    GenesisOutcome F rs b c d db db' result := by
  have hrefuse : (∃ e, r = .error e) → result.success = false := by
    rintro ⟨e, rfl⟩
    exact hr.elim (fun he => by cases he) (·.2)
  unfold tryGenesis at h
  rcases yields_bind h with ⟨e, h1, rfl⟩ | ⟨_, s1, h1, h2⟩
  · exact .refused (within_prepare _ _ _ _ h1) (hrefuse ⟨e, rfl⟩)
  have hsame := within_prepare _ _ _ _ h1
  rcases yields_check h2 with ⟨he, rfl⟩ | ⟨-, h7⟩
  · exact .refused hsame (hrefuse he)
  rcases yields_bind h7 with ⟨e, h8, rfl⟩ | ⟨_, s4, h8, h9⟩
  · obtain ⟨r', h10, hr'⟩ := yields_mapError h8
    rcases yields_autocommit h10 with ⟨rfl, -⟩ | ⟨-, rfl⟩
    · cases hr'
    · exact .refused hsame (hrefuse ⟨e, rfl⟩)
  obtain ⟨hstores, haccounts, hfree⟩ := insertStore_ok (yields_autocommit_ok (yields_context_ok h8))
  rw [hsame.stores] at hstores hfree
  rw [hsame.accounts] at haccounts
  obtain ⟨hkept, ⟨he, hnone⟩ | ⟨hok, salt, hfounded⟩⟩ := createAccount_cases h9
  · refine .stranded ?_ hfree (hnone.trans haccounts) (hrefuse he)
    rw [hkept]
    exact hstores
  · refine .founded salt ?_ hfree ⟨hfounded.drawn, ?_, ?_, ?_⟩ fun hsuccess => ?_
    · rw [hkept]
      exact hstores
    · rw [← haccounts]
      exact hfounded.accounts
    · rw [← haccounts]
      exact hfounded.fresh
    · have hchecked := hfounded.checked
      unfold RestoreDb.hasUsername at hchecked ⊢
      rwa [haccounts] at hchecked
    · rcases hr with hr | ⟨-, hfailed⟩
      · exact (hok result hr).2
      · rw [hfailed] at hsuccess
        cases hsuccess

/-- **What a call leaves**, whichever of its statements fail. -/
theorem genesis_outcome {r : Except String GenesisResult}
    (h : (runGenesis rs b c d).Yields F db r db') :
    ∃ result, r = .ok result ∧ GenesisOutcome F rs b c d db db' result := by
  unfold runGenesis at h
  obtain ⟨x, s1, h1, h2⟩ := yields_attempt_bind h
  cases x with
  | ok result =>
    obtain ⟨rfl, rfl⟩ := yields_pure h2
    exact ⟨_, rfl, tryGenesis_outcome h1 _ (.inl rfl)⟩
  | error e =>
    obtain ⟨rfl, rfl⟩ := yields_pure h2
    exact ⟨_, rfl, tryGenesis_outcome h1 _ (.inr ⟨⟨e, rfl⟩, rfl⟩)⟩

end

/-! ## Runs -/

/-- A run of calls with their results. Any of their statements may fail. -/
inductive GenesisCalls (rs : Rust) (b : Bcrypt) :
    RestoreDb → List (GenesisCall × GenesisResult) → RestoreDb → Prop
  | nil (db : RestoreDb) : GenesisCalls rs b db [] db
  | cons {db db₁ db' : RestoreDb} {c : GenesisCall} {d : GenesisDraws} {result : GenesisResult}
    {l : List (GenesisCall × GenesisResult)}
    (h : (runGenesis rs b c d).Yields (fun _ => True) db (.ok result) db₁) (hl : GenesisCalls rs b db₁ l db') :
    GenesisCalls rs b db ((c, result) :: l) db'

namespace Sample

def wizardRust : Rust := ⟨fun s => String.ofList (s.toList.map Char.toUpper), fun _ => ""⟩

/-- A hash that is the password. -/
def wizardBcrypt : Bcrypt := ⟨fun _ p => p, fun p h => p = h⟩

def wizard (username storeCode : String) : GenesisCall :=
  ⟨username, "a@shop", "Ann", "password", "GLOBAL_ADMIN", storeCode, "Shop", none, none⟩

def wizardDraws (nanos : Nat) : GenesisDraws := ⟨⟨0, fun i => nanos + i⟩, .ok 0, .ok ()⟩

/-- What a call none of whose statements fail leaves. -/
def ran (c : GenesisCall) (nanos : Nat) (db : RestoreDb) : RestoreDb :=
  ((runGenesis wizardRust wizardBcrypt c (wizardDraws nanos)).eval db).2

theorem ran_yields (c : GenesisCall) (nanos : Nat) (db : RestoreDb) : ∃ result,
    (runGenesis wizardRust wizardBcrypt c (wizardDraws nanos)).Yields (fun _ => True) db (.ok result)
      (ran c nanos db) := by
  have h := yields_eval (fun _ => True) (runGenesis wizardRust wizardBcrypt c (wizardDraws nanos)) db
  obtain ⟨result, hr, -⟩ := genesis_outcome h
  exact ⟨result, hr ▸ h⟩

/-- Ann was here before. -/
def annHere : RestoreDb :=
  { RestoreDb.empty with accounts := Table.put ∅ ⟨"U1", "ann", none, none, none, "STORE_CLERK", false⟩ }

def annTried : RestoreDb := ran (wizard "ANN" "main") 10 annHere

def sideOpened : RestoreDb := ran (wizard "bob" "side") 20 annTried

end Sample

section
variable {F : String → Prop} {rs : Rust} {b : Bcrypt} {c c₁ c₂ : GenesisCall} {d d₁ d₂ : GenesisDraws}
  {db db' db₀ db₁ db₂ db₃ : RestoreDb} {result r₁ r₂ : GenesisResult}
  {l : List (GenesisCall × GenesisResult)}

theorem outcome_of_yields (h : (runGenesis rs b c d).Yields F db (.ok result) db') :
    GenesisOutcome F rs b c d db db' result := by
  obtain ⟨_, hr, houtcome⟩ := genesis_outcome h
  cases hr
  exact houtcome

theorem GenesisOutcome.stores_grow (h : GenesisOutcome F rs b c d db db' result) :
    ∃ ss, db'.stores.rows = db.stores.rows ++ ss := by
  cases h with
  | refused hsame _ => exact ⟨[], by rw [hsame.stores, List.append_nil]⟩
  | stranded hstores _ _ _ => exact ⟨_, hstores⟩
  | founded _ hstores _ _ _ => exact ⟨_, hstores⟩

theorem GenesisOutcome.accounts_grow (h : GenesisOutcome F rs b c d db db' result) :
    ∃ us, db'.accounts.rows = db.accounts.rows ++ us := by
  cases h with
  | refused hsame _ => exact ⟨[], by rw [hsame.accounts, List.append_nil]⟩
  | stranded _ _ haccounts _ => exact ⟨[], by rw [haccounts, List.append_nil]⟩
  | founded _ _ _ hfounded _ => exact ⟨_, hfounded.accounts⟩

/-- No call deletes a store or an account, or moves one. -/
theorem GenesisCalls.grow (h : GenesisCalls rs b db l db') : (∃ ss, db'.stores.rows = db.stores.rows ++ ss) ∧
    ∃ us, db'.accounts.rows = db.accounts.rows ++ us := by
  induction h with
  | nil => exact ⟨⟨[], (List.append_nil _).symm⟩, ⟨[], (List.append_nil _).symm⟩⟩
  | cons h _ ih =>
    have houtcome := outcome_of_yields h
    obtain ⟨ss, hss⟩ := houtcome.stores_grow
    obtain ⟨us, hus⟩ := houtcome.accounts_grow
    obtain ⟨⟨ss', hss'⟩, us', hus'⟩ := ih
    refine ⟨⟨ss ++ ss', ?_⟩, us ++ us', ?_⟩
    · rw [hss', hss, List.append_assoc]
    · rw [hus', hus, List.append_assoc]

/-- A call whose code a store has is refused. -/
theorem GenesisOutcome.of_taken (h : GenesisOutcome F rs b c d db db' result)
    (htaken : ∃ t ∈ db.stores.rows, t.code = c.codeClean rs) :
    result.success = false ∧ SameRows db db' := by
  obtain ⟨t, ht, hcode⟩ := htaken
  cases h with
  | refused hsame hfailed => exact ⟨hfailed, hsame⟩
  | stranded _ hfree _ _ => exact absurd hcode (hfree t ht)
  | founded _ _ hfree _ _ => exact absurd hcode (hfree t ht)

/-- **A code is spent by the first call that writes its store**, whether that call succeeds or not: after
any other calls, one with the same code fails and writes nothing. -/
theorem spent_for_good (hfirst : (runGenesis rs b c₁ d₁).Yields (fun _ => True) db₀ (.ok r₁) db₁)
    (hwrote : db₁.stores ≠ db₀.stores) (hrun : GenesisCalls rs b db₁ l db₂)
    (hcode : c₂.codeClean rs = c₁.codeClean rs)
    (hlast : (runGenesis rs b c₂ d₂).Yields (fun _ => True) db₂ (.ok r₂) db₃) :
    r₂.success = false ∧ SameRows db₂ db₃ := by
  have hmem : c₁.store rs ∈ db₁.stores.rows := by
    cases outcome_of_yields hfirst with
    | refused hsame _ => exact absurd hsame.stores hwrote
    | stranded hstores _ _ _ => exact hstores ▸ List.mem_append_right _ List.mem_cons_self
    | founded _ hstores _ _ _ => exact hstores ▸ List.mem_append_right _ List.mem_cons_self
  obtain ⟨⟨ss, hss⟩, -⟩ := hrun.grow
  refine (outcome_of_yields hlast).of_taken ⟨c₁.store rs, ?_, hcode.symm⟩
  rw [hss]
  exact List.mem_append_left _ hmem

open Sample in
/-- The name of the first call is taken, and its code is spent all the same. -/
theorem main_spent : SameRows sideOpened (ran (wizard "bob" " Main ") 30 sideOpened) := by
  obtain ⟨_, hfirst⟩ := ran_yields (wizard "ANN" "main") 10 annHere
  obtain ⟨_, hsecond⟩ := ran_yields (wizard "bob" "side") 20 annTried
  obtain ⟨_, hlast⟩ := ran_yields (wizard "bob" " Main ") 30 sideOpened
  have hwrote : annTried.stores ≠ annHere.stores := fun h => absurd (congrArg (·.rows.length) h) (by decide)
  have hcode : (wizard "bob" " Main ").codeClean wizardRust = (wizard "ANN" "main").codeClean wizardRust := by
    decide
  exact (spent_for_good hfirst hwrote (.cons hsecond (.nil _)) hcode hlast).2

/-! ## Logging in -/

/-- The account that a name finds is the first one with it. -/
theorem localLogin_first {pre post : List Account} {u : Account} {v q : String}
    (hrows : db.accounts.rows = pre ++ u :: post)
    (hpre : ∀ w ∈ pre, sqlLower w.username ≠ sqlLower u.username)
    (hname : sqlLower (trim v) = sqlLower u.username) : localLogin b db v q = u.login b q := by
  have hfind : db.accounts.rows.find? (fun w => sqlLower w.username = sqlLower (trim v)) = some u := by
    rw [hrows, hname]
    refine List.find?_eq_some_iff_append.2 ⟨decide_eq_true rfl, pre, post, rfl, fun w hw => ?_⟩
    simpa using hpre w hw
  unfold localLogin
  rw [hfind]

theorem founder_login (salt : Nat) (q : String) :
    (c.founder b d salt).login b q =
      if b.verify q (b.hash salt c.password) then .ok ⟨generateId "USER" (d.clk.nanos 0), c.usernameClean,
        some (trim c.fullName), trim c.role⟩
      else .error "Invalid username or password." := by
  have hactive : ¬ (c.founder b d salt).isActive = false := by
    unfold GenesisCall.founder GenesisCall.account
    simp
  have hhash : (c.founder b d salt).pinHash = some (b.hash salt c.password) := rfl
  unfold Account.login
  rw [if_neg hactive, hhash]
  rfl

/-- After a call that succeeds, none of its statements failing, its account is the first with its name. -/
theorem founder_first (h : (runGenesis rs b c d).Yields (fun _ => False) db (.ok result) db₁)
    (hok : result.success = true) (hrun : GenesisCalls rs b db₁ l db') : ∃ salt pre post,
    d.salt = .ok salt ∧ db'.accounts.rows = pre ++ c.founder b d salt :: post ∧
      ∀ w ∈ pre, sqlLower w.username ≠ sqlLower c.usernameClean := by
  cases outcome_of_yields h with
  | refused _ hfailed => exact absurd (hok.symm.trans hfailed) (by decide)
  | stranded _ _ _ hfailed => exact absurd (hok.symm.trans hfailed) (by decide)
  | founded salt _ _ hfounded _ =>
    obtain ⟨-, us, hus⟩ := hrun.grow
    rw [hfounded.accounts, List.append_assoc] at hus
    refine ⟨salt, db.accounts.rows, us, hfounded.drawn, hus, fun w hw heq => ?_⟩
    rcases hfounded.checked with hfalse | ⟨_, hF⟩
    · exact List.any_eq_false.1 hfalse w hw (decide_eq_true heq)
    · exact hF

/-- **A call that succeeds, none of its statements failing, logs in ever after**: whatever calls come
next, the name in any case opens the account with what `bcrypt` takes for the password of the call, and
with nothing else. -/
theorem founder_logs_in (h : (runGenesis rs b c d).Yields (fun _ => False) db (.ok result) db₁)
    (hok : result.success = true) (hrun : GenesisCalls rs b db₁ l db') {v : String}
    (hv : sqlLower (trim v) = sqlLower (trim c.username)) :
    ∃ salt, d.salt = .ok salt ∧ ∀ q, localLogin b db' v q =
      if b.verify q (b.hash salt c.password) then .ok ⟨generateId "USER" (d.clk.nanos 0), c.usernameClean,
        some (trim c.fullName), trim c.role⟩
      else .error "Invalid username or password." := by
  obtain ⟨salt, pre, post, hsalt, hrows, hpre⟩ := founder_first h hok hrun
  refine ⟨salt, hsalt, fun q => ?_⟩
  rw [localLogin_first hrows hpre hv]
  exact founder_login salt q

open Sample in
/-- Bob logs in, whatever is tried afterwards. -/
theorem bob_logs_in : localLogin wizardBcrypt
    (ran (wizard "bob" "spare") 20 (ran (wizard "bob" "main") 10 annHere)) " BOB " "password" =
      .ok ⟨generateId "USER" 10, "bob", some "Ann", "GLOBAL_ADMIN"⟩ := by
  have hfirst := yields_eval (fun _ => False)
    (runGenesis wizardRust wizardBcrypt (wizard "bob" "main") (wizardDraws 10)) annHere
  obtain ⟨result, hr, -⟩ := genesis_outcome hfirst
  have hsuccess : ((runGenesis wizardRust wizardBcrypt (wizard "bob" "main") (wizardDraws 10)).eval
      annHere).1.toOption.map (·.success) = some true := by decide +kernel
  rw [hr] at hfirst hsuccess
  obtain ⟨_, hagain⟩ := ran_yields (wizard "bob" "spare") 20 (ran (wizard "bob" "main") 10 annHere)
  have hname : sqlLower (trim " BOB ") = sqlLower (trim (wizard "bob" "main").username) := by decide
  obtain ⟨salt, -, hlogin⟩ :=
    founder_logs_in hfirst (Option.some.inj hsuccess) (.cons hagain (.nil _)) hname
  have hverify : wizardBcrypt.verify "password" (wizardBcrypt.hash salt (wizard "bob" "main").password) = true := by
    show decide ("password" = "password") = true
    decide
  rw [hlogin "password", if_pos hverify]
  rfl

/-! ## The wizard -/

/-- A call does not raise the flag of a restore. -/
def NotRestored (db db' : RestoreDb) : Prop := db.restoreCompleted = false → db'.restoreCompleted = false

theorem NotRestored.refl (db : RestoreDb) : NotRestored db db := id

theorem within_write {label : String} {f : RestoreDb → Except String RestoreDb}
    (hf : ∀ x y, f x = .ok y → NotRestored x y) : Within NotRestored (context label (autocommit f)) :=
  .mapError _ (.autocommit .refl hf)

theorem within_createAccount : Within NotRestored (createAccount rs b c d) := by
  have htrans : ∀ x y z, NotRestored x y → NotRestored y z → NotRestored x z := fun _ _ _ hxy hyz =>
    hyz ∘ hxy
  have hpin : Within NotRestored (hashPin b d c.password) := by
    unfold hashPin
    split
    · exact .ret .refl _
    · exact .raise .refl _
  refine .seq htrans (.mapError _ hpin) fun _ => ?_
  refine .seq htrans (.attempt (.query .refl _)) fun _ => ?_
  refine .seq htrans (within_require_of .refl _ _) fun _ => ?_
  refine .seq htrans (within_write fun x y h => ?_) fun _ => ?_
  · unfold RestoreDb.insertAccount at h
    split at h
    · cases h
    split at h <;> cases h
    exact id
  refine .seq htrans (.attempt (.autocommit .refl fun x y h => ?_)) fun _ => ?_
  · unfold RestoreDb.insertDevice at h
    split at h
    · cases h
    split at h <;> cases h
    exact id
  refine .seq htrans (.attempt (.query .refl _)) fun _ => ?_
  exact .seq htrans (within_require_of .refl _ _) fun _ => .ret .refl _

theorem within_genesis : Within NotRestored (runGenesis rs b c d) := by
  have htrans : ∀ x y z, NotRestored x y → NotRestored y z → NotRestored x z := fun _ _ _ hxy hyz =>
    hyz ∘ hxy
  have hprepare : Within NotRestored prepare := by
    refine .seq htrans (.mapError _ (.query .refl _)) fun _ => ?_
    refine .seq htrans (within_write fun x y h => ?_) fun _ => ?_
    · cases h
      exact id
    refine .seq htrans (.attempt (.autocommit .refl fun x y h => ?_)) fun _ => .ret .refl ()
    cases h
    exact fun _ => rfl
  refine .seq htrans (.attempt (.seq htrans hprepare fun _ => ?_)) fun r => ?_
  · refine .seq htrans (.attempt (.query .refl _)) fun _ => ?_
    refine .seq htrans (within_require_of .refl _ _) fun _ => ?_
    refine .seq htrans (within_write fun x y h => ?_) fun _ => within_createAccount
    unfold RestoreDb.insertStore at h
    cases hstock : x.books.stock.insertStore (c.store rs) with
    | error e =>
      rw [hstock] at h
      cases h
    | ok stock =>
      rw [hstock] at h
      cases h
      exact id
  · cases r with
    | ok result => exact .ret .refl _
    | error e => exact .ret .refl _

/-- The accounts are those of calls, and there is no restored database. -/
structure SetUp (db : RestoreDb) : Prop where
  accounts : ∀ u ∈ db.accounts.rows, (u.pinHash.isSome && u.isActive) = true
  flag : db.restoreCompleted = false

theorem SetUp.step (hs : SetUp db) (h : (runGenesis rs b c d).Yields F db (.ok result) db') : SetUp db' := by
  refine ⟨?_, within_genesis F db _ db' h hs.flag⟩
  cases outcome_of_yields h with
  | refused hsame _ =>
    rw [hsame.accounts]
    exact hs.accounts
  | stranded _ _ haccounts _ =>
    rw [haccounts]
    exact hs.accounts
  | founded salt _ _ hfounded _ =>
    rw [hfounded.accounts]
    intro u hu
    rcases List.mem_append.1 hu with hu | hu
    · exact hs.accounts u hu
    · rw [List.mem_singleton.1 hu]
      rfl

theorem SetUp.ready_iff (hs : SetUp db) :
    (checkGenesisState (some db)).ready = true ↔ db.accounts.rows ≠ [] := by
  unfold checkGenesisState
  simp only [hs.flag, Bool.or_false, Bool.or_eq_true, Bool.and_eq_true, List.any_eq_true]
  constructor
  · rintro (⟨u, hu, -⟩ | ⟨⟨u, hu, -⟩, -⟩)
    · exact List.ne_nil_of_mem hu
    · exact List.ne_nil_of_mem hu
  · intro hne
    obtain ⟨u, hu⟩ := List.exists_mem_of_ne_nil _ hne
    exact .inl ⟨u, hu, by simpa using hs.accounts u hu⟩

theorem GenesisCalls.setUp (h : GenesisCalls rs b db l db') (hs : SetUp db) : SetUp db' := by
  induction h with
  | nil => exact hs
  | cons h _ ih => exact ih (hs.step h)

/-- A call that says that it has succeeded has written its account. -/
theorem GenesisCalls.named (h : GenesisCalls rs b db l db') :
    ∀ x ∈ l, x.2.success = true → ∃ u ∈ db'.accounts.rows, x.2.username = some u.username := by
  induction h with
  | nil => exact fun x hx => absurd hx List.not_mem_nil
  | @cons db db₁ db' c d result l h hl ih =>
    intro x hx hok
    rcases List.mem_cons.1 hx with rfl | hx
    · obtain ⟨-, us, hus⟩ := hl.grow
      cases outcome_of_yields h with
      | refused _ hfailed => exact absurd (hok.symm.trans hfailed) (by decide)
      | stranded _ _ _ hfailed => exact absurd (hok.symm.trans hfailed) (by decide)
      | founded salt _ _ hfounded hname =>
        refine ⟨c.founder b d salt, ?_, hname hok⟩
        rw [hus, hfounded.accounts]
        simp
    · exact ih x hx hok

/-- Each account has come with a store of its own. -/
theorem GenesisCalls.counted (h : GenesisCalls rs b db l db') :
    db'.accounts.rows.length + db.stores.rows.length ≤ db'.stores.rows.length + db.accounts.rows.length := by
  induction h with
  | nil => omega
  | cons h _ ih =>
    cases outcome_of_yields h with
    | refused hsame _ =>
      rw [hsame.stores, hsame.accounts] at ih
      exact ih
    | stranded hstores _ haccounts _ =>
      rw [hstores, haccounts, List.length_append] at ih
      omega
    | founded _ hstores _ hfounded _ =>
      rw [hstores, hfounded.accounts, List.length_append, List.length_append] at ih
      simp only [List.length_singleton] at ih
      omega

/-- **When the wizard is done with.** After any calls on a database without accounts it is shown unless
there is an account; each success has left one, and each account has a store of its own. -/
theorem wizard_done (h : GenesisCalls rs b db l db') (hnone : db.accounts.rows = [])
    (hflag : db.restoreCompleted = false) :
    ((checkGenesisState (some db')).ready = true ↔ db'.accounts.rows ≠ []) ∧
      (∀ x ∈ l, x.2.success = true → ∃ u ∈ db'.accounts.rows, x.2.username = some u.username) ∧
      db'.accounts.rows.length + db.stores.rows.length ≤ db'.stores.rows.length := by
  have hs : SetUp db := ⟨fun u hu => absurd (hnone ▸ hu) List.not_mem_nil, hflag⟩
  refine ⟨(h.setUp hs).ready_iff, h.named, ?_⟩
  have hcount := h.counted
  rw [hnone] at hcount
  simpa using hcount

open Sample in
/-- After one call on an empty database the wizard is done with. -/
theorem shop_ready : (checkGenesisState (some (ran (wizard "bob" "main") 10 .empty))).ready = true := by
  obtain ⟨_, h⟩ := ran_yields (wizard "bob" "main") 10 .empty
  exact (wizard_done (.cons h (.nil _)) rfl rfl).1.2 (by decide)

/-! ## Without failures -/

theorem eval_check {α σ : Type} {f : σ → Bool} {m : String} {k : Unit → Prog String σ α} {s : σ} :
    (attempt (query f) >>= fun x => require (x.toOption.getD false = false) m >>= k).eval s =
      if f s = false then (k ()).eval s else (.error m, s) := by
  have hquery : (attempt (query f) : Prog String σ _).eval s = (.ok (.ok (f s)), s) := rfl
  rw [eval_bind_ok hquery]
  change (require (f s = false) m >>= k).eval s = _
  unfold require
  by_cases hf : f s = false
  · rw [if_pos hf, if_pos hf]
    exact eval_bind_ok rfl
  · rw [if_neg hf, if_neg hf]
    exact eval_bind_error rfl

theorem eval_write {α σ : Type} {f : σ → Except String σ} {label : String} {s : σ}
    {k : Unit → Prog String σ α} :
    (context label (autocommit f) >>= k).eval s = match f s with
      | .ok s' => (k ()).eval s'
      | .error e => (.error (label ++ ": " ++ e), s) := by
  have hwrite : (context label (autocommit f)).eval s =
      (((autocommit f).eval s).1.mapError (label ++ ": " ++ ·), ((autocommit f).eval s).2) := rfl
  cases hf : f s with
  | ok s' =>
    refine eval_bind_ok (hwrite.trans ?_)
    simp [eval, autocommit, stmt, hf, Except.map, Except.mapError]
  | error e =>
    refine eval_bind_error (hwrite.trans ?_)
    simp [eval, autocommit, stmt, hf, Except.map, Except.mapError]

/-- What a call needs of the database and of its draws. -/
structure GenesisAdmitted (rs : Rust) (c : GenesisCall) (d : GenesisDraws) (db : RestoreDb) : Prop where
  code : ∀ t ∈ db.stores.rows, t.code ≠ c.codeClean rs ∧ sqlUpper t.code ≠ c.codeClean rs
  store : db.stores.get? (c.storeId rs) = none
  salt : ∃ salt, d.salt = .ok salt
  name : db.hasUsername c.usernameClean = false
  id : db.accounts.get? (generateId "USER" (d.clk.nanos 0)) = none
  typed : c.usernameClean ≠ ""

theorem insertAccount_eq {u : Account} (hname : db.hasUsername u.username = false) :
    db.insertAccount u = if (db.accounts.get? u.id).isSome then .error (Db.uniqueFailed "users.id")
      else .ok { db with accounts := db.accounts.put u } := by
  have hfresh : ¬ db.accounts.rows.any (·.username = u.username) = true := by
    intro hany
    obtain ⟨v, hv, heq⟩ := List.any_eq_true.1 hany
    refine List.any_eq_false.1 hname v hv (decide_eq_true ?_)
    rw [of_decide_eq_true heq]
  unfold RestoreDb.insertAccount
  rw [if_neg hfresh]

/-- The account that has just been written is found, and its name is not empty. -/
theorem selectVerified_founder {u : Account} (hrows : db.accounts.rows = db₀.accounts.rows ++ [u])
    (hpin : u.pinHash.isSome = true) : (db.selectVerified u.username).getD "" = u.username := by
  have hfound : ((db.accounts.rows.find? fun v => v.pinHash.isSome && v.username = u.username)).isSome := by
    refine List.find?_isSome.2 ⟨u, ?_, by simp [hpin]⟩
    rw [hrows]
    exact List.mem_append_right _ List.mem_cons_self
  obtain ⟨v, hv⟩ := Option.isSome_iff_exists.1 hfound
  have hname := List.find?_some hv
  unfold RestoreDb.selectVerified
  rw [hv]
  simp only [Bool.and_eq_true, decide_eq_true_eq] at hname
  exact hname.2

theorem finishGenesis_ok_iff {u : Account} (hname : u.username = c.usernameClean)
    (hrows : db.accounts.rows = db₀.accounts.rows ++ [u]) (hpin : u.pinHash.isSome = true) :
    (∃ result db', (finishGenesis rs c d).eval db = (.ok result, db')) ↔ c.usernameClean ≠ "" := by
  have hdevice := yields_eval (fun _ : String => False) (autocommit fun x : RestoreDb =>
    x.insertDevice ⟨generateId "DEV" (d.clk.nanos 1), c.storeId rs⟩) db
  unfold finishGenesis
  rw [eval_bind_ok (eval_attempt _ _)]
  revert hdevice
  generalize (autocommit fun x : RestoreDb =>
    x.insertDevice ⟨generateId "DEV" (d.clk.nanos 1), c.storeId rs⟩).eval db = x
  intro hdevice
  have hsame : SameRows db x.2 := by
    rcases yields_autocommit hdevice with ⟨-, h⟩ | ⟨-, h⟩
    · exact insertDevice_ok h
    · rw [h]
      exact .refl _
  have hfound : (x.2.selectVerified c.usernameClean).getD "" = c.usernameClean := by
    rw [← hname]
    exact selectVerified_founder (hsame.accounts ▸ hrows) hpin
  have hquery : (attempt (query (·.selectVerified c.usernameClean)) : Prog String RestoreDb _).eval x.2 =
      (.ok (.ok (x.2.selectVerified c.usernameClean)), x.2) := rfl
  rw [eval_bind_ok hquery]
  simp only [Except.toOption, Option.join_some, hfound]
  unfold require
  by_cases htyped : c.usernameClean = ""
  · rw [if_neg (not_not_intro htyped), eval_bind_error rfl]
    refine ⟨?_, fun h => absurd htyped h⟩
    rintro ⟨_, _, h⟩
    cases h
  · rw [if_pos htyped, eval_bind_ok rfl]
    exact ⟨fun _ => htyped, fun _ => ⟨_, _, rfl⟩⟩

theorem createAccount_ok_iff : (∃ result db', (createAccount rs b c d).eval db = (.ok result, db')) ↔
    (∃ salt, d.salt = .ok salt) ∧ db.hasUsername c.usernameClean = false ∧
      db.accounts.get? (generateId "USER" (d.clk.nanos 0)) = none ∧ c.usernameClean ≠ "" := by
  have hno : ∀ (e : String) (s : RestoreDb), ¬ ∃ (result : GenesisResult) (db' : RestoreDb),
      ((.error e, s) : Except String GenesisResult × RestoreDb) = (.ok result, db') := by
    rintro e s ⟨_, _, h⟩
    cases h
  unfold createAccount
  cases hsalt : d.salt with
  | error e =>
    have hpin : (context "Password hashing failed" (hashPin b d c.password)).eval db =
        (.error ("Password hashing failed: " ++ ("bcrypt hash failed: " ++ e)), db) := by
      unfold hashPin
      rw [hsalt]
      rfl
    rw [eval_bind_error hpin]
    refine ⟨fun h => absurd h (hno _ _), ?_⟩
    rintro ⟨⟨salt, h⟩, -⟩
    cases h
  | ok salt =>
    have hpin : (context "Password hashing failed" (hashPin b d c.password)).eval db =
        (.ok (b.hash salt c.password), db) := by
      unfold hashPin
      rw [hsalt]
      rfl
    rw [eval_bind_ok hpin, eval_check]
    by_cases hname : db.hasUsername c.usernameClean = false
    swap
    · rw [if_neg hname]
      exact ⟨fun h => absurd h (hno _ _), fun h => absurd h.2.1 hname⟩
    rw [if_pos hname, eval_write]
    have hinsert : db.insertAccount (c.account (generateId "USER" (d.clk.nanos 0)) (b.hash salt c.password)) =
        _ := insertAccount_eq (u := c.founder b d salt) hname
    rw [hinsert]
    by_cases hid : db.accounts.get? (c.founder b d salt).id = none
    swap
    · rw [if_pos (Option.isSome_iff_ne_none.2 hid)]
      exact ⟨fun h => absurd h (hno _ _), fun h => absurd h.2.2.1 hid⟩
    rw [if_neg (by rw [hid]; exact Bool.false_ne_true)]
    have hrows := Table.rows_put_new (r := c.founder b d salt) hid
    refine (finishGenesis_ok_iff (u := c.founder b d salt) rfl hrows rfl).trans ?_
    exact ⟨fun htyped => ⟨⟨salt, rfl⟩, hname, hid, htyped⟩, fun h => h.2.2.2⟩

theorem insertStore_cases (db : RestoreDb) (x : Store) :
    (db.stores.get? x.id = none ∧ ∀ t ∈ db.stores.rows, t.code ≠ x.code) ∧
      db.insertStore x = .ok (db.withStock fun stock => { stock with stores := stock.stores.put x }) ∨
    ¬ (db.stores.get? x.id = none ∧ ∀ t ∈ db.stores.rows, t.code ≠ x.code) ∧
      ∃ e, db.insertStore x = .error e := by
  unfold RestoreDb.insertStore Db.insertStore
  split
  · rename_i hid
    exact .inr ⟨fun h => Option.isSome_iff_ne_none.1 hid h.1, _, rfl⟩
  split
  · rename_i hcode
    obtain ⟨t, ht, heq⟩ := List.any_eq_true.1 hcode
    exact .inr ⟨fun h => h.2 t ht (of_decide_eq_true heq), _, rfl⟩
  · rename_i hid hcode
    refine .inl ⟨⟨Option.not_isSome_iff_eq_none.1 hid, fun t ht heq => hcode ?_⟩, rfl⟩
    exact List.any_eq_true.2 ⟨t, ht, decide_eq_true heq⟩

/-- What is returned is a success. -/
theorem tryGenesis_success (h : (tryGenesis rs b c d).Yields F db (.ok result) db') :
    result.success = true := by
  unfold tryGenesis at h
  obtain ⟨_, s1, -, h1⟩ := yields_bind_ok h
  rcases yields_check h1 with ⟨⟨e, he⟩, -⟩ | ⟨-, h2⟩
  · cases he
  obtain ⟨_, s2, -, h3⟩ := yields_bind_ok h2
  obtain ⟨-, ⟨⟨e, he⟩, -⟩ | ⟨hok, -⟩⟩ := createAccount_cases h3
  · cases he
  · exact (hok result rfl).1

theorem tryGenesis_ok_iff :
    (∃ result db', (tryGenesis rs b c d).eval db = (.ok result, db')) ↔ GenesisAdmitted rs c d db := by
  have hno : ∀ (e : String) (s : RestoreDb), ¬ ∃ (result : GenesisResult) (db' : RestoreDb),
      ((.error e, s) : Except String GenesisResult × RestoreDb) = (.ok result, db') := by
    rintro e s ⟨_, _, h⟩
    cases h
  have hprepare : prepare.eval db = (.ok (), db.clearCompleted) := rfl
  have hupper : db.hasStoreCode (c.codeClean rs) = false ↔
      ∀ t ∈ db.stores.rows, sqlUpper t.code ≠ c.codeClean rs := by
    simp [RestoreDb.hasStoreCode]
  unfold tryGenesis
  rw [eval_bind_ok hprepare, eval_check]
  change (∃ result db', (if db.hasStoreCode (c.codeClean rs) = false then _ else _) = _) ↔ _
  by_cases hcode : db.hasStoreCode (c.codeClean rs) = false
  swap
  · rw [if_neg hcode]
    exact ⟨fun h => absurd h (hno _ _), fun h => absurd (hupper.2 fun t ht => (h.code t ht).2) hcode⟩
  rw [if_pos hcode, eval_write]
  rcases insertStore_cases db.clearCompleted (c.store rs) with ⟨⟨hid, hfree⟩, hok⟩ | ⟨hclash, e, herror⟩
  · rw [hok]
    refine createAccount_ok_iff.trans ⟨fun ⟨hsalt, hname, huser, htyped⟩ => ?_, fun h => ?_⟩
    · exact ⟨fun t ht => ⟨hfree t ht, hupper.1 hcode t ht⟩, hid, hsalt, hname, huser, htyped⟩
    · exact ⟨h.salt, h.name, h.id, h.typed⟩
  · rw [herror]
    exact ⟨fun h => absurd h (hno _ _), fun h => absurd ⟨h.store, fun t ht => (h.code t ht).1⟩ hclash⟩

/-- **When a call succeeds**, none of its statements failing. -/
theorem genesis_succeeds_iff :
    (∃ result db', (runGenesis rs b c d).eval db = (.ok result, db') ∧ result.success = true) ↔
      GenesisAdmitted rs c d db := by
  rw [← tryGenesis_ok_iff (b := b)]
  unfold runGenesis
  rw [eval_bind_ok (eval_attempt _ _)]
  cases htry : (tryGenesis rs b c d).eval db with
  | mk r db₁ =>
    cases r with
    | ok result =>
      have hyields := yields_of_eval (F := fun _ => False) htry
      exact ⟨fun _ => ⟨_, _, rfl⟩, fun _ => ⟨_, _, rfl, tryGenesis_success hyields⟩⟩
    | error e =>
      constructor
      · rintro ⟨_, _, h, hok⟩
        cases h
        cases hok
      · rintro ⟨_, _, h⟩
        cases h

end

end Desktop
