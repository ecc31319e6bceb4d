/-
  File:      OpenBras/UserMgr/SessionManager.lean
  Subject:   THE USER MANAGER'S TABLE OF SUBSCRIBERS: `CSessionManager` of
             src/UserMgr/CSessionManagerTest.cpp and `CUser::DateFrom` of src/UserMgr/CUser.cpp.

  THE QUESTION. Users are added with their session id and their address, and deleted by the
  session id alone. Does the table hold the users that were added and not deleted?

  The table is keyed by the ADDRESS. Adding a user under an address that is taken replaces the
  user who had it. Deleting looks for the session first (`FindUserIp`) and then erases the address
  it found (`DeleteUser`). Both are to return a value and end without a `return` when they find
  nothing: from there on the behaviour of the program is undefined (`UserFault`), and nothing is
  said of the table any more. So the table is right along a history exactly if no address is given
  out twice at a time and no session is deleted that nobody has (`users_kept_iff`).

  The order in which an `unordered_map` is walked is not fixed; `Buckets` is any order.
-/
import OpenBras.Lib.Run
import OpenBras.Lib.Table
import OpenBras.PPP.State

namespace OpenBras

/-! ## 1. The records -/

def SESSION_MGR_MAX_USERNAME_SIZE : Nat := 32
def SESSION_MGR_MAX_DOMAIN_SIZE : Nat := 32

/-- The whole record that `addUserRequest` is given. -/
structure Session_User_Ex where
  session : UInt16
  mac : Bytes := []
  user_type : UInt8 := 0
  access_type : UInt8 := 0
  auth_type : UInt8 := 0
  auth_state : UInt8 := 0
  user_name : Bytes := []
  domain : Bytes := []
  vrf : UInt32 := 0
  user_ip : UInt32
  primary_dns : UInt32 := 0
  secondary_dns : UInt32 := 0
  pool_id : UInt32 := 0
  intern_vlan : UInt32 := 0
  extern_vlan : UInt32 := 0
  deriving DecidableEq, Repr

structure Session_Offline where
  user_type : UInt16 := 0
  session : UInt16
  mac : Bytes := []
  deriving DecidableEq, Repr

structure CUser where
  session : UInt16 := 0
  mac : Bytes := []
  usertype : UInt8 := 0
  accesstype : UInt8 := 0
  authtype : UInt8 := 0
  authstate : UInt8 := 0
  username : Bytes := []
  domain : Bytes := []
  vrf : UInt32 := 0
  userip : UInt32 := 0
  primarydns : UInt32 := 0
  secondarydns : UInt32 := 0
  poolid : UInt32 := 0
  internvlan : UInt32 := 0
  externvlan : UInt32 := 0
  deriving DecidableEq, Repr

/-- `DateFrom`, on a new user. -/
def CUser.dateFrom (sInfo : Session_User_Ex) : CUser where
  session := sInfo.session
  mac := sInfo.mac
  usertype := sInfo.user_type
  accesstype := sInfo.access_type
  authtype := sInfo.auth_type
  authstate := sInfo.auth_state
  username := strncpy (SESSION_MGR_MAX_USERNAME_SIZE - 1) sInfo.user_name
  domain := strncpy (SESSION_MGR_MAX_DOMAIN_SIZE - 1) sInfo.domain
  vrf := sInfo.vrf
  userip := sInfo.user_ip
  primarydns := sInfo.primary_dns
  secondarydns := sInfo.secondary_dns
  poolid := sInfo.pool_id
  internvlan := sInfo.intern_vlan
  externvlan := sInfo.extern_vlan

/-! ## 2. The table -/

/-- `USERMAP`: one entry a key. -/
abbrev USERMAP := AList fun _ : UInt32 => CUser

/-- An order in which the entries of a table are walked. -/
structure Buckets where
  walk : USERMAP → List (Sigma fun _ : UInt32 => CUser)
  perm : ∀ t, (walk t).Perm t.entries

/-- The end of a function that has to return a value was reached without a `return`. -/
inductive UserFault where
  | noReturn
  deriving DecidableEq, Repr

namespace CSessionManager

def addUser (user : CUser) (t : USERMAP) : USERMAP := t.insert user.userip user

def deleteUser (ip : UInt32) (t : USERMAP) : Except UserFault (Int × USERMAP) :=
  match t.lookup ip with
  | some _ => .ok (0, t.erase ip)
  | none => .error .noReturn

def findUserIp (b : Buckets) (sessionid : UInt16) (t : USERMAP) : Except UserFault UInt32 :=
  match (b.walk t).find? fun e => e.2.session == sessionid with
  | some e => .ok e.2.userip
  | none => .error .noReturn

/-- `addUserRequest`: its result and the table. -/
def addUserRequest (sInfo : Option Session_User_Ex) (t : USERMAP) : Int × USERMAP :=
  match sInfo with
  | some sInfo => (0, addUser (.dateFrom sInfo) t)
  | none => (-1, t)

/-- `deleteUserRequest`: its result and the table. -/
def deleteUserRequest (b : Buckets) (sInfo : Option Session_Offline) (t : USERMAP) :
    Except UserFault (Int × USERMAP) :=
  match sInfo with
  | some sInfo => do
    let ip ← findUserIp b sInfo.session t
    let r ← deleteUser ip t
    return (0, r.2)
  | none => .ok (-1, t)

inductive Event where
  | addUserRequest (sInfo : Option Session_User_Ex)
  | deleteUserRequest (sInfo : Option Session_Offline)

/-- What a call returns and leaves. -/
def call (b : Buckets) (t : USERMAP) : Event → Except UserFault (Int × USERMAP)
  | .addUserRequest sInfo => .ok (addUserRequest sInfo t)
  | .deleteUserRequest sInfo => deleteUserRequest b sInfo t

/-- The table, and beside it the users that were added and not yet deleted. -/
structure Watched where
  table : USERMAP := ∅
  live : List Session_User_Ex := []
  fault : Option UserFault := none

/-- The users that are live after a call. -/
def liveAfter (live : List Session_User_Ex) : Event → List Session_User_Ex
  | .addUserRequest (some sInfo) => sInfo :: live
  | .deleteUserRequest (some sInfo) => live.filter fun u => u.session ≠ sInfo.session
  | _ => live

/-- A call; after a fault nothing is defined. -/
def step (b : Buckets) (w : Watched) (e : Event) : Watched :=
  if w.fault.isSome then w
  else match call b w.table e with
    | .ok r => { w with table := r.2, live := liveAfter w.live e }
    | .error f => { w with fault := some f }

/-! ## 3. The users the table holds -/

def users (t : USERMAP) : List CUser := t.entries.map Sigma.snd

/-- The table holds exactly the live users. -/
def Exact (w : Watched) : Prop :=
  w.fault = none ∧ (users w.table).Perm (w.live.map CUser.dateFrom)

/-- A user that is added has a session of its own. -/
def Distinct (w : Watched) : Event → Prop
  | .addUserRequest (some sInfo) => ∀ u ∈ w.live, u.session ≠ sInfo.session
  | _ => True

/-- A user that is added has an address of its own, and a session that is deleted is that of a
    live user. -/
def Clear (w : Watched) : Event → Prop
  | .addUserRequest (some sInfo) => ∀ u ∈ w.live, u.user_ip ≠ sInfo.user_ip
  | .deleteUserRequest (some sInfo) => ∃ u ∈ w.live, u.session = sInfo.session
  | _ => True

instance (w : Watched) : Decidable (Exact w) := inferInstanceAs (Decidable (_ ∧ _))

instance (w : Watched) : (e : Event) → Decidable (Distinct w e)
  | .addUserRequest (some sInfo) =>
    inferInstanceAs (Decidable (∀ u ∈ w.live, u.session ≠ sInfo.session))
  | .addUserRequest none => isTrue trivial
  | .deleteUserRequest _ => isTrue trivial

instance (w : Watched) : (e : Event) → Decidable (Clear w e)
  | .addUserRequest (some sInfo) =>
    inferInstanceAs (Decidable (∀ u ∈ w.live, u.user_ip ≠ sInfo.user_ip))
  | .deleteUserRequest (some sInfo) =>
    inferInstanceAs (Decidable (∃ u ∈ w.live, u.session = sInfo.session))
  | .addUserRequest none => isTrue trivial
  | .deleteUserRequest none => isTrue trivial

/-- What holds as long as the table is right: it is keyed by the users' addresses, and the live
    users have sessions of their own. -/
structure Kept (w : Watched) : Prop where
  sound : w.fault = none
  same : (users w.table).Perm (w.live.map CUser.dateFrom)
  keyed : ∀ e ∈ w.table.entries, e.1 = e.2.userip
  distinct : (w.live.map Session_User_Ex.session).Nodup

section

variable {b : Buckets} {w : Watched}

theorem length_users (t : USERMAP) : (users t).length = t.entries.length := List.length_map _

theorem mem_users {t : USERMAP} {e : Sigma fun _ : UInt32 => CUser} (he : e ∈ t.entries) :
    e.2 ∈ users t := List.mem_map_of_mem he

theorem Kept.mem_iff (h : Kept w) (ip : UInt32) :
    ip ∈ w.table ↔ ∃ u ∈ w.live, u.user_ip = ip := by
  constructor
  · intro hip
    obtain ⟨user, he⟩ := List.exists_of_mem_keys hip
    obtain ⟨u, hu, hfrom⟩ := List.mem_map.mp (h.same.subset (mem_users he))
    have hkey : ip = user.userip := h.keyed _ he
    exact ⟨u, hu, (congrArg CUser.userip hfrom).trans hkey.symm⟩
  · rintro ⟨u, hu, rfl⟩
    obtain ⟨e, he, hfrom⟩ := List.mem_map.mp
      (h.same.symm.subset (List.mem_map_of_mem (f := CUser.dateFrom) hu))
    have hkey : e.1 = u.user_ip := by rw [h.keyed e he, hfrom]; rfl
    rw [← hkey]
    exact List.mem_keys_of_mem he

/-! ## 4. One call -/

theorem Kept.step_ok (h : Kept w) {e : Event} {r : Int × USERMAP} (hr : call b w.table e = .ok r) :
    step b w e = { w with table := r.2, live := liveAfter w.live e } := by
  rw [step, h.sound, if_neg (by decide), hr]

theorem Kept.add (h : Kept w) {sInfo : Session_User_Ex}
    (hsession : ∀ u ∈ w.live, u.session ≠ sInfo.session)
    (hip : ∀ u ∈ w.live, u.user_ip ≠ sInfo.user_ip) :
    Kept (step b w (.addUserRequest (some sInfo))) := by
  have hnew : (CUser.dateFrom sInfo).userip ∉ w.table := fun hmem => by
    obtain ⟨u, hu, heq⟩ := (h.mem_iff _).mp hmem
    exact hip u hu heq
  have hentries : (addUser (.dateFrom sInfo) w.table).entries =
      ⟨_, .dateFrom sInfo⟩ :: w.table.entries := AList.entries_insert_of_notMem hnew
  rw [h.step_ok rfl]
  refine ⟨h.sound, ?_, ?_, ?_⟩
  · change ((addUser (.dateFrom sInfo) w.table).entries.map Sigma.snd).Perm _
    rw [hentries]
    exact h.same.cons _
  · change ∀ e ∈ (addUser (.dateFrom sInfo) w.table).entries, e.1 = e.2.userip
    rw [hentries]
    exact List.forall_mem_cons.mpr ⟨rfl, h.keyed⟩
  · refine List.nodup_cons.mpr ⟨fun hmem => ?_, h.distinct⟩
    obtain ⟨u, hu, heq⟩ := List.mem_map.mp hmem
    exact hsession u hu heq

/-- A second user under an address replaces the first. -/
theorem Kept.not_exact_add (h : Kept w) {sInfo : Session_User_Ex} {u : Session_User_Ex}
    (hu : u ∈ w.live) (hip : u.user_ip = sInfo.user_ip) :
    ¬ Exact (step b w (.addUserRequest (some sInfo))) := by
  rw [h.step_ok rfl]
  intro hexact
  have hold := h.same.length_eq
  have hnew := hexact.2.length_eq
  have hmem : (CUser.dateFrom sInfo).userip ∈ w.table := (h.mem_iff _).mpr ⟨u, hu, hip⟩
  have herase := length_erase hmem
  have hinsert : (addUser (.dateFrom sInfo) w.table).entries.length =
      (w.table.erase (CUser.dateFrom sInfo).userip).entries.length + 1 := by
    rw [addUser, AList.entries_insert]
    rfl
  change (users (addUser (.dateFrom sInfo) w.table)).length =
    ((sInfo :: w.live).map CUser.dateFrom).length at hnew
  rw [length_users, List.length_map] at hold hnew
  rw [List.length_cons] at hnew
  omega

theorem Kept.found (h : Kept w) {s : UInt16} (hs : ∃ u ∈ w.live, u.session = s) :
    ∃ e ∈ w.table.entries, e.2.session = s ∧ findUserIp b s w.table = .ok e.1 := by
  obtain ⟨u, hu, hsession⟩ := hs
  obtain ⟨e, he, hfrom⟩ := List.mem_map.mp
    (h.same.symm.subset (List.mem_map_of_mem (f := CUser.dateFrom) hu))
  have hhit : ((b.walk w.table).find? fun e => e.2.session == s).isSome := by
    rw [List.find?_isSome]
    refine ⟨e, (b.perm w.table).symm.subset he, ?_⟩
    rw [hfrom, ← hsession]
    exact beq_self_eq_true _
  obtain ⟨x, hx⟩ := Option.isSome_iff_exists.mp hhit
  have hxt : x ∈ w.table.entries := (b.perm w.table).subset (List.mem_of_find?_eq_some hx)
  have hxs := List.find?_some hx
  refine ⟨x, hxt, beq_iff_eq.mp hxs, ?_⟩
  rw [findUserIp, hx, h.keyed x hxt]

theorem Kept.not_found (h : Kept w) {s : UInt16} (hs : ¬ ∃ u ∈ w.live, u.session = s) :
    findUserIp b s w.table = .error .noReturn := by
  have hnone : ((b.walk w.table).find? fun e => e.2.session == s) = none := by
    rw [List.find?_eq_none]
    intro e he hbeq
    obtain ⟨u, hu, hfrom⟩ := List.mem_map.mp
      (h.same.subset (mem_users ((b.perm w.table).subset he)))
    exact hs ⟨u, hu, (congrArg CUser.session hfrom).trans (beq_iff_eq.mp hbeq)⟩
  rw [findUserIp, hnone]

theorem deleteUser_of_mem {ip : UInt32} {t : USERMAP} (h : ip ∈ t) :
    deleteUser ip t = .ok (0, t.erase ip) := by
  obtain ⟨user, huser⟩ := Option.isSome_iff_exists.mp (AList.lookup_isSome.mpr h)
  rw [deleteUser, huser]

theorem Kept.users_erase (h : Kept w) {e : Sigma fun _ : UInt32 => CUser}
    (he : e ∈ w.table.entries) :
    (users (w.table.erase e.1)).Perm
      ((w.live.filter fun u => u.session ≠ e.2.session).map CUser.dateFrom) := by
  let others : CUser → Bool := fun user => user.session ≠ e.2.session
  have hsplit : (e.2 :: users (w.table.erase e.1)).Perm (w.live.map CUser.dateFrom) :=
    ((entries_perm_erase he).map _).symm.trans h.same
  -- the sessions of the table are those of the live users, each once
  have hnodup : ((e.2 :: users (w.table.erase e.1)).map CUser.session).Nodup := by
    rw [(hsplit.map CUser.session).nodup_iff, List.map_map]
    exact h.distinct
  have hothers : (users (w.table.erase e.1)).filter others = users (w.table.erase e.1) := by
    rw [List.filter_eq_self]
    intro user huser
    refine decide_eq_true fun heq => (List.nodup_cons.mp hnodup).1 ?_
    rw [← heq]
    exact List.mem_map_of_mem huser
  have hfilter := hsplit.filter others
  rw [List.filter_cons_of_neg (by simp [others]), hothers, List.filter_map] at hfilter
  exact hfilter

theorem Kept.delete_found (h : Kept w) {sInfo : Session_Offline}
    (hs : ∃ u ∈ w.live, u.session = sInfo.session) :
    Kept (step b w (.deleteUserRequest (some sInfo))) := by
  obtain ⟨e, he, hsession, hfind⟩ := h.found (b := b) hs
  have hcall : call b w.table (.deleteUserRequest (some sInfo)) = .ok (0, w.table.erase e.1) := by
    rw [call, deleteUserRequest, hfind]
    change (deleteUser e.1 w.table >>= fun r => Except.ok ((0 : Int), r.2)) = _
    rw [deleteUser_of_mem (List.mem_keys_of_mem he)]
    rfl
  rw [h.step_ok hcall]
  refine ⟨h.sound, ?_, fun x hx => h.keyed x ((List.kerase_sublist _ _).subset hx), ?_⟩
  · change (users (w.table.erase e.1)).Perm
      ((w.live.filter fun u => u.session ≠ sInfo.session).map CUser.dateFrom)
    rw [← hsession]
    exact h.users_erase he
  · exact h.distinct.sublist (List.filter_sublist.map _)

/-- A session that nobody has: `FindUserIp` runs off its end. -/
theorem Kept.not_exact_delete (h : Kept w) {sInfo : Session_Offline}
    (hs : ¬ ∃ u ∈ w.live, u.session = sInfo.session) :
    ¬ Exact (CSessionManager.step b w (.deleteUserRequest (some sInfo))) := by
  have hcall : call b w.table (.deleteUserRequest (some sInfo)) = .error .noReturn := by
    rw [call, deleteUserRequest, h.not_found hs]
    rfl
  rw [CSessionManager.step, h.sound, if_neg (by decide), hcall]
  exact fun hexact => Option.some_ne_none _ hexact.1

theorem Kept.step (h : Kept w) {e : Event} (hd : Distinct w e) (hc : Clear w e) :
    Kept (step b w e) := by
  cases e with
  | addUserRequest sInfo =>
    cases sInfo with
    | none => exact h.step_ok (e := .addUserRequest none) rfl ▸ h
    | some sInfo => exact h.add hd hc
  | deleteUserRequest sInfo =>
    cases sInfo with
    | none => exact h.step_ok (e := .deleteUserRequest none) rfl ▸ h
    | some sInfo => exact h.delete_found hc

theorem Kept.clear_of_exact (h : Kept w) {e : Event}
    (hexact : Exact (CSessionManager.step b w e)) : Clear w e := by
  cases e with
  | addUserRequest sInfo =>
    cases sInfo with
    | none => exact trivial
    | some sInfo => exact fun u hu hip => h.not_exact_add hu hip hexact
  | deleteUserRequest sInfo =>
    cases sInfo with
    | none => exact trivial
    | some sInfo => exact by_contra fun hs => h.not_exact_delete hs hexact

end

/-! ## 5. Histories -/

/-- Along every history in which live users have sessions of their own, the table holds the users
    added and not yet deleted exactly if every call is clear. -/
theorem users_kept_iff (b : Buckets) (es : List Event) (h : Along (step b) Distinct {} es) :
    Throughout (step b) Exact {} es ↔ Along (step b) Clear {} es := by
  have hstart : Kept {} :=
    ⟨rfl, List.Perm.refl [], fun _ he => absurd he List.not_mem_nil, List.nodup_nil⟩
  refine throughout_iff_along_given (I := Kept) (fun w e hw hd hc => ?_) (fun w hw => ?_)
    (fun w e hw _ hexact => ?_) hstart h
  · exact hw.step hd hc
  · exact ⟨hw.sound, hw.same⟩
  · exact hw.clear_of_exact hexact

/-- The entries walked as they stand. -/
def inOrder : Buckets := ⟨AList.entries, fun _ => .refl _⟩

/-- Two users come, the first goes and comes again under another address. -/
theorem users_kept_two :
    Throughout (step inOrder) Exact {}
      [.addUserRequest (some { session := 1, user_ip := 10 }),
       .addUserRequest (some { session := 2, user_ip := 11 }),
       .deleteUserRequest (some { session := 1 }),
       .addUserRequest (some { session := 1, user_ip := 12 })] :=
  (users_kept_iff inOrder _ (by decide)).mpr (by decide)

/-- A second user under one address: the first is gone though nobody deleted it. And the deletion
    of a session that nobody has does not return. -/
theorem users_lost :
    (Along (step inOrder) Distinct {}
        [.addUserRequest (some { session := 1, user_ip := 10 }),
         .addUserRequest (some { session := 2, user_ip := 10 })] ∧
      (users (run (step inOrder) {}
        [.addUserRequest (some { session := 1, user_ip := 10 }),
         .addUserRequest (some { session := 2, user_ip := 10 })]).table).map CUser.session = [2]) ∧
    Along (step inOrder) Distinct {}
        [.addUserRequest (some { session := 1, user_ip := 10 }),
         .deleteUserRequest (some { session := 5 })] ∧
      (run (step inOrder) {}
        [.addUserRequest (some { session := 1, user_ip := 10 }),
         .deleteUserRequest (some { session := 5 })]).fault = some .noReturn := by
  decide

end CSessionManager

end OpenBras
