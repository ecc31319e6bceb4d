/-
  File:      OpenBras/Portal/Extraction.lean
  Subject:   WHAT `HandleAuthenRequest` MAKES OF A REQUEST: the request to the authentication manager,
             and the record it leaves behind.

  * The loop over the attributes takes each from `sendsize`, and moves `length` instead: only the
    first attribute counts. The request carries the user's name and password exactly if that one
    attribute says it all (`request_carries_iff`).
  * The record of the user is made before the attributes are looked at. A request that is turned down
    after that leaves it there (`table_kept_iff`), and all that follow are told to wait.
-/
import OpenBras.Portal.Walk

namespace OpenBras

open Wire

namespace CPortalServerChannel

/-! ## 1. The fields of the request -/

/-- The value of the last attribute of a type; empty if there is none. -/
def lastValue (type : UInt8) (es : List (UInt8 × Bytes)) : Bytes :=
  ((es.filter fun x => x.1 = type).getLast?.map Prod.snd).getD []

/-- The name and the credentials of the request are those of the attributes. `authInfo` is a union:
    for PAP the password has its first 32 bytes; for CHAP the password its first 20, the challenge
    16 bytes from 24 on. -/
structure CarriesLast (authType : UInt8) (es : List (UInt8 × Bytes)) (r : PortalAuthRequest) :
    Prop where
  username : r.username = field 32 (lastValue PORTAL_USER_NAME es)
  pap : authType = PORTAL_PAP_AUTH →
    r.authInfo.take 32 = field 32 (lastValue PORTAL_PASSWORD es)
  chap : authType = PORTAL_CHAP_AUTH →
    (r.authInfo.drop 24).take 16 = field 16 (lastValue PORTAL_CHAP_CHALLENGE es) ∧
      r.authInfo.take 20 = field 20 (lastValue PORTAL_CHAP_PASSWORD es)

/-- What the attribute `x` by itself leaves in each field. -/
def nameBytes (x : UInt8 × Bytes) : Bytes :=
  if x.1 = PORTAL_USER_NAME then field 32 x.2 else field 32 []

def papBytes (x : UInt8 × Bytes) : Bytes :=
  if x.1 = PORTAL_PASSWORD then field 32 x.2
  else if x.1 = PORTAL_CHAP_CHALLENGE then List.replicate 24 0 ++ (field 16 x.2).take 8
  else if x.1 = PORTAL_CHAP_PASSWORD then field 20 x.2 ++ List.replicate 12 0
  else field 32 []

def challengeBytes (x : UInt8 × Bytes) : Bytes :=
  if x.1 = PORTAL_PASSWORD then (field 32 x.2).drop 24 ++ List.replicate 8 0
  else if x.1 = PORTAL_CHAP_CHALLENGE then field 16 x.2
  else field 16 []

def chapPwdBytes (x : UInt8 × Bytes) : Bytes :=
  if x.1 = PORTAL_PASSWORD then (field 32 x.2).take 20
  else if x.1 = PORTAL_CHAP_PASSWORD then field 20 x.2
  else field 20 []

theorem length_field {n : Nat} {v : Bytes} (h : v.length ≤ n) : (field n v).length = n := by
  rw [field, List.length_append, List.length_replicate]
  omega

theorem memcpy_zero {i : Nat} (hi : i ≤ 100) (q : Bytes) :
    memcpy (List.replicate 100 0) i q =
      List.replicate i 0 ++ q ++ List.replicate (100 - (i + q.length)) 0 := by
  rw [memcpy_eq (by rw [List.length_replicate]; exact hi), List.take_replicate, List.drop_replicate,
    Nat.min_eq_left hi]

theorem written_username (x : UInt8 × Bytes) (q : OpenportalHeader) :
    (written x (authBase q)).username = nameBytes x := by
  unfold written nameBytes
  split
  · rfl
  split
  · rfl
  split
  · rfl
  split <;> rfl

theorem union_password {v : Bytes} (hv : v.length ≤ 32) :
    let m := memcpy (List.replicate 100 0) 0 (field 32 v)
    m.take 32 = field 32 v ∧ (m.drop 24).take 16 = (field 32 v).drop 24 ++ List.replicate 8 0 ∧
      m.take 20 = (field 32 v).take 20 := by
  have hlen := length_field hv
  rw [memcpy_zero (by decide), hlen]
  generalize field 32 v = f at hlen
  have hdrop : (f.drop 24).take 16 = f.drop 24 :=
    List.take_of_length_le (by rw [List.length_drop]; omega)
  simp [List.take_append, List.drop_append, hlen, hdrop]

theorem union_challenge {v : Bytes} (hv : v.length ≤ 16) :
    let m := memcpy (List.replicate 100 0) 24 (field 16 v)
    m.take 32 = List.replicate 24 0 ++ (field 16 v).take 8 ∧ (m.drop 24).take 16 = field 16 v ∧
      m.take 20 = field 20 [] := by
  have hlen := length_field hv
  rw [memcpy_zero (by decide), hlen]
  generalize field 16 v = f at hlen
  simp [List.take_append, List.drop_append, hlen, field]

theorem union_chapPwd {v : Bytes} (hv : v.length ≤ 20) :
    let m := memcpy (List.replicate 100 0) 0 (field 20 v)
    m.take 32 = field 20 v ++ List.replicate 12 0 ∧ (m.drop 24).take 16 = field 16 [] ∧
      m.take 20 = field 20 v := by
  have hlen := length_field hv
  rw [memcpy_zero (by decide), hlen]
  generalize field 20 v = f at hlen
  have htake : f.take 32 = f := List.take_of_length_le (by omega)
  simp [List.take_append, List.drop_append, hlen, htake, field]

theorem written_authInfo {x : UInt8 × Bytes} (hx : ¬ Overlong x) (q : OpenportalHeader) :
    (written x (authBase q)).authInfo.take 32 = papBytes x ∧
    ((written x (authBase q)).authInfo.drop 24).take 16 = challengeBytes x ∧
    (written x (authBase q)).authInfo.take 20 = chapPwdBytes x := by
  obtain ⟨type, value⟩ := x
  unfold written papBytes challengeBytes chapPwdBytes
  dsimp only
  by_cases hname : type = PORTAL_USER_NAME
  · subst hname
    exact ⟨rfl, rfl, rfl⟩
  rw [if_neg hname]
  by_cases hpassword : type = PORTAL_PASSWORD
  · subst hpassword
    exact union_password (Nat.not_lt.mp fun h => hx (.inr (.inl ⟨rfl, Nat.lt_of_succ_lt h⟩)))
  rw [if_neg hpassword, if_neg hpassword, if_neg hpassword, if_neg hpassword]
  by_cases hchallenge : type = PORTAL_CHAP_CHALLENGE
  · subst hchallenge
    exact union_challenge (Nat.not_lt.mp fun h => hx (.inr (.inr (.inl ⟨rfl, h⟩))))
  rw [if_neg hchallenge, if_neg hchallenge, if_neg hchallenge]
  by_cases hchap : type = PORTAL_CHAP_PASSWORD
  · subst hchap
    exact union_chapPwd (Nat.not_lt.mp fun h => hx (.inr (.inr (.inr ⟨rfl, h⟩))))
  rw [if_neg hchap, if_neg hchap, if_neg hchap]
  exact ⟨rfl, rfl, rfl⟩

/-! ## 2. Which requests are passed on whole -/

/-- The first attribute `x` leaves in the fields what the last ones are to leave there. -/
structure FirstSuffices (authType : UInt8) (es : List (UInt8 × Bytes)) (x : UInt8 × Bytes) : Prop where
  username : field 32 (lastValue PORTAL_USER_NAME es) = nameBytes x
  pap : authType = PORTAL_PAP_AUTH → field 32 (lastValue PORTAL_PASSWORD es) = papBytes x
  chap : authType = PORTAL_CHAP_AUTH →
    field 16 (lastValue PORTAL_CHAP_CHALLENGE es) = challengeBytes x ∧
      field 20 (lastValue PORTAL_CHAP_PASSWORD es) = chapPwdBytes x

theorem carriesLast_written_iff {authType : UInt8} {es : List (UInt8 × Bytes)} {x : UInt8 × Bytes}
    (hx : ¬ Overlong x) (q : OpenportalHeader) :
    CarriesLast authType es (written x (authBase q)) ↔ FirstSuffices authType es x := by
  obtain ⟨hpap, hchallenge, hchap⟩ := written_authInfo hx q
  constructor
  · rintro ⟨hname, hp, hc⟩
    rw [written_username] at hname
    rw [hpap] at hp
    rw [hchallenge, hchap] at hc
    exact ⟨hname.symm, fun h => (hp h).symm, fun h => ⟨(hc h).1.symm, (hc h).2.symm⟩⟩
  · rintro ⟨hname, hp, hc⟩
    refine ⟨?_, fun h => ?_, fun h => ?_⟩
    · rw [written_username, hname]
    · rw [hpap, hp h]
    · rw [hchallenge, hchap, (hc h).1, (hc h).2]
      exact ⟨rfl, rfl⟩

theorem carriesLast_authBase (authType : UInt8) (q : OpenportalHeader) :
    CarriesLast authType [] (authBase q) :=
  ⟨rfl, fun _ => rfl, fun _ => ⟨rfl, rfl⟩⟩

variable {msg : Bytes} {msgsize : Nat}

theorem handleAuthenRequest_new {H : Md5} {am : Bool} {c : CPortalServerChannel}
    {u : CPortalUserMgr} (hsize : msgsize ≠ 0) (hcheck : checkAuthenticator H c.cfg.key msg = true)
    (hnew : u.findUser (header msg).ipAddress 0 = none) :
    c.handleAuthenRequest H am msg msgsize u =
      (makeAuthRequest msg).elim
        (-1, u.putUser (header msg).ipAddress 0
          { packet := bytesAt msg 0 msgsize, portalServerAddr := c.remoteAddr }, [])
        fun r => (if am then 0 else -1,
          { u.putUser (header msg).ipAddress 0
              { packet := bytesAt msg 0 msgsize, portalServerAddr := c.remoteAddr,
                request := some u.attempts } with attempts := u.attempts + 1 },
          [.authRequest r]) := by
  unfold handleAuthenRequest
  dsimp only
  rw [if_neg hsize, hcheck, hnew]
  cases makeAuthRequest msg <;> rfl

theorem accepted_size {cfg : PortalServerCfg} (hmsg : msgsize ≤ msg.length)
    (hacc : accepts cfg msg msgsize = true) : msgsize ≠ 0 := by
  have h16 := ((accepts_iff hmsg).mp hacc).1.header_le.1
  omega

theorem handleAuthenRequest_forged {H : Md5} (am : Bool) {c : CPortalServerChannel}
    (u : CPortalUserMgr) (hsize : msgsize ≠ 0)
    (hcheck : ¬ checkAuthenticator H c.cfg.key msg = true) :
    c.handleAuthenRequest H am msg msgsize u = (-1, u, []) := by
  unfold handleAuthenRequest
  dsimp only
  rw [if_neg hsize, if_pos (by simpa using hcheck)]

/-- **A request for authentication that `RcvData` lets through, of a user without a record, is passed
    on with the name and the credentials of its last attributes exactly if the authenticator is right
    and the first attribute says it all.** -/
theorem request_carries_iff (H : Md5) (am : Bool) (c : CPortalServerChannel) (u : CPortalUserMgr)
    {msg : Bytes} {msgsize j : Nat} {es : List (UInt8 × Bytes)} (hmsg : msgsize ≤ msg.length)
    (hacc : accepts c.cfg msg msgsize = true)
    (hcode : byteAt msg 1 = PORTAL_REQ_AUTHEN) (hes : es.length = (byteAt msg 15).toNat)
    (hchain : Tlv.Chain msg (headerSize (byteAt msg 0)) es j) (hj : j ≤ msgsize)
    (hfits : ∀ x ∈ es, ¬ Overlong x) (hnew : u.findUser (header msg).ipAddress 0 = none) :
    (∃ r, (c.rcvData H am msg msgsize u).2.2 = [.authRequest r] ∧
      CarriesLast (byteAt msg 2) es r) ↔
    checkAuthenticator H c.cfg.key msg = true ∧
      ∀ x ∈ es.head?, FirstSuffices (byteAt msg 2) es x := by
  have hhandler : handlerOf c.cfg msg msgsize = some .authenRequest := by
    rw [handlerOf, if_pos hacc, hcode]
    rfl
  rw [rcvData_eq, hhandler]
  show (∃ r, (c.handleAuthenRequest H am msg msgsize u).2.2 = [.authRequest r] ∧ _) ↔ _
  have hsize := accepted_size hmsg hacc
  by_cases hcheck : checkAuthenticator H c.cfg.key msg = true
  · rw [handleAuthenRequest_new hsize hcheck hnew, makeAuthRequest_chain hes hchain (by omega)]
    simp only [hcheck, true_and]
    cases es with
    | nil =>
      refine iff_of_true ⟨authBase (header msg), rfl, carriesLast_authBase _ _⟩ ?_
      exact fun x hx => absurd hx (Option.not_mem_none x)
    | cons x es =>
      have hx := hfits x List.mem_cons_self
      have hpassed : ((if Overlong x then none else some (written x (authBase (header msg)))) :
          Option PortalAuthRequest) = some (written x (authBase (header msg))) := if_neg hx
      rw [List.head?_cons, Option.elim_some, hpassed]
      constructor
      · rintro ⟨r, hr, hcarries⟩ y hy
        cases hr
        cases hy
        exact (carriesLast_written_iff hx _).mp hcarries
      · intro h
        exact ⟨_, rfl, (carriesLast_written_iff hx _).mpr (h x rfl)⟩
  · rw [handleAuthenRequest_forged am u hsize hcheck]
    refine iff_of_false ?_ fun h => hcheck h.1
    rintro ⟨r, hr, -⟩
    cases hr

/-- A channel of version 1, whose requests carry no authenticator. -/
def plainChannel : CPortalServerChannel :=
  { remoteAddr := (0, 0), cfg := { version := PORTAL_VERSION_ONE, key := [] } }

/-- A request for authentication by PAP, from the address 10.0.0.9. -/
def papRequest (es : List (UInt8 × Bytes)) : Bytes :=
  [PORTAL_VERSION_ONE, PORTAL_REQ_AUTHEN, PORTAL_PAP_AUTH, 0, 0, 0, 0, 0, 10, 0, 0, 9, 0, 0, 0,
    UInt8.ofNat es.length] ++ Tlv.body es

theorem papRequest_chain (es : List (UInt8 × Bytes)) (hes : ∀ x ∈ es, Tlv.Short x) :
    Tlv.Chain (papRequest es) 16 es (16 + (Tlv.body es).length) := by
  have hchain := Tlv.chain_body hes [PORTAL_VERSION_ONE, PORTAL_REQ_AUTHEN, PORTAL_PAP_AUTH, 0, 0, 0,
    0, 0, 10, 0, 0, 9, 0, 0, 0, UInt8.ofNat es.length] []
  rwa [List.append_nil] at hchain

theorem password_passed_on :
    ∃ r, (plainChannel.rcvData Md5.utils true (papRequest [(PORTAL_PASSWORD, ascii "pw")]) 20
        {}).2.2 = [.authRequest r] ∧
      CarriesLast PORTAL_PAP_AUTH [(PORTAL_PASSWORD, ascii "pw")] r := by
  have hchain := papRequest_chain [(PORTAL_PASSWORD, ascii "pw")] (by decide)
  refine (request_carries_iff Md5.utils true plainChannel {} (by decide) (by decide) rfl
    (by decide) hchain (by decide) (by decide) rfl).mpr ⟨by decide, ?_⟩
  intro x hx
  cases hx
  exact ⟨rfl, fun _ => rfl, fun h => absurd h (by decide)⟩

/-- Of a name and a password the password is lost. -/
theorem password_lost :
    accepts plainChannel.cfg
        (papRequest [(PORTAL_USER_NAME, ascii "bob"), (PORTAL_PASSWORD, ascii "pw")]) 25 = true ∧
      ∃ r, (plainChannel.rcvData Md5.utils true
          (papRequest [(PORTAL_USER_NAME, ascii "bob"), (PORTAL_PASSWORD, ascii "pw")]) 25 {}).2.2 =
            [.authRequest r] ∧
        r.authInfo.take 32 = List.replicate 32 0 ∧ ¬ CarriesLast PORTAL_PAP_AUTH
          [(PORTAL_USER_NAME, ascii "bob"), (PORTAL_PASSWORD, ascii "pw")] r :=
  ⟨by decide, _, rfl, rfl, fun h => absurd (h.pap rfl) (by decide)⟩

/-! ## 3. The record that is left -/

/-- The first attribute of the request, if there is one, fits into its field. -/
def FirstFits (msg : Bytes) : Prop :=
  byteAt msg 15 = 0 ∨ ¬ Overlong (Tlv.entryAt msg (headerSize (byteAt msg 0)))

instance (msg : Bytes) : Decidable (FirstFits msg) := inferInstanceAs (Decidable (_ ∨ _))

theorem makeAuthRequest_isSome_iff (hmsg : msgsize ≤ msg.length) (hc : Complete msg msgsize) :
    (makeAuthRequest msg).isSome = true ↔ FirstFits msg := by
  obtain ⟨es, j, hes, hchain, hj⟩ := hc.entries
  rw [makeAuthRequest_chain hes hchain (by omega)]
  unfold FirstFits
  cases hchain with
  | nil => exact iff_of_true rfl (.inl (UInt8.toNat_inj.mp hes.symm))
  | @cons _ _ x es head rest =>
    have hnum : byteAt msg 15 ≠ 0 := by
      intro h
      rw [h] at hes
      cases hes
    rw [← head.eq_entryAt, List.head?_cons, Option.elim_some]
    by_cases hlong : Overlong x
    · rw [if_pos hlong]
      exact iff_of_false Bool.false_ne_true fun h => h.elim hnum (absurd hlong)
    · rw [if_neg hlong]
      exact iff_of_true rfl (.inr hlong)

/-- **`HandleAuthenRequest` leaves the table of users alone when it returns -1 exactly if the
    authenticator is wrong, or there is a record already, or the first attribute fits and the manager
    takes the request.** -/
theorem table_kept_iff (H : Md5) (am : Bool) (c : CPortalServerChannel) (u : CPortalUserMgr)
    {msg : Bytes} {msgsize : Nat} (hmsg : msgsize ≤ msg.length)
    (hacc : accepts c.cfg msg msgsize = true) :
    ((c.handleAuthenRequest H am msg msgsize u).1 = -1 →
      (c.handleAuthenRequest H am msg msgsize u).2.1.users = u.users) ↔
    checkAuthenticator H c.cfg.key msg = false ∨ u.findUser (header msg).ipAddress 0 ≠ none ∨
      (FirstFits msg ∧ am = true) := by
  have hsize := accepted_size hmsg hacc
  have hmade := makeAuthRequest_isSome_iff hmsg ((accepts_iff hmsg).mp hacc).1
  by_cases hcheck : checkAuthenticator H c.cfg.key msg = true
  swap
  · rw [handleAuthenRequest_forged am u hsize hcheck]
    exact iff_of_true (fun _ => rfl) (.inl (Bool.eq_false_of_not_eq_true hcheck))
  cases hnew : u.findUser (header msg).ipAddress 0 with
  | some user =>
    have hanswer : (c.handleAuthenRequest H am msg msgsize u).2.1 = u := by
      unfold handleAuthenRequest
      dsimp only
      rw [if_neg hsize, hcheck, hnew]
      rfl
    rw [hanswer]
    exact iff_of_true (fun _ => rfl) (.inr (.inl (Option.some_ne_none user)))
  | none =>
    have hchanged : ∀ user, (u.putUser (header msg).ipAddress 0 user).users ≠ u.users := by
      intro user h
      have hat := congrFun h ((header msg).ipAddress, 0)
      rw [show u.users ((header msg).ipAddress, 0) = none from hnew] at hat
      exact absurd ((Function.update_self ..).symm.trans hat) (Option.some_ne_none user)
    rw [handleAuthenRequest_new hsize hcheck hnew]
    cases hr : makeAuthRequest msg with
    | none =>
      rw [hr] at hmade
      refine iff_of_false (fun h => hchanged _ (h rfl)) ?_
      rintro (h | h | ⟨hfits, -⟩)
      · exact absurd (hcheck.symm.trans h) (by decide)
      · exact h rfl
      · exact absurd (hmade.mpr hfits) (by decide)
    | some r =>
      rw [hr] at hmade
      have hfits : FirstFits msg := hmade.mp rfl
      cases am with
      | true =>
        have hzero : (0 : Int) ≠ -1 := by decide
        exact iff_of_true (fun h => absurd h hzero) (.inr (.inr ⟨hfits, rfl⟩))
      | false =>
        refine iff_of_false (fun h => hchanged _ (h rfl)) ?_
        rintro (h | h | ⟨-, h⟩)
        · exact absurd (hcheck.symm.trans h) (by decide)
        · exact h rfl
        · exact absurd h (by decide)

/-- A request that the manager takes leaves no trace of a failure. -/
theorem taken_request_kept :
    20 ≤ (papRequest [(PORTAL_PASSWORD, ascii "pw")]).length ∧
      ((plainChannel.handleAuthenRequest Md5.utils true
          (papRequest [(PORTAL_PASSWORD, ascii "pw")]) 20 {}).1 = -1 →
        (plainChannel.handleAuthenRequest Md5.utils true
          (papRequest [(PORTAL_PASSWORD, ascii "pw")]) 20 {}).2.1.users =
            ({} : CPortalUserMgr).users) := by
  have hlen : 20 ≤ (papRequest [(PORTAL_PASSWORD, ascii "pw")]).length := by decide
  refine ⟨hlen, ?_⟩
  exact (table_kept_iff Md5.utils true plainChannel {} hlen (by decide)).mpr
    (.inr (.inr ⟨by decide, rfl⟩))

/-- A request with a name of 32 bytes, and one that the manager does not take. -/
def overlongRequest : Int × CPortalUserMgr × List PortalAct :=
  plainChannel.handleAuthenRequest Md5.utils true
    (papRequest [(PORTAL_USER_NAME, List.replicate 32 97)]) 50 {}

def refusedRequest : Int × CPortalUserMgr × List PortalAct :=
  plainChannel.handleAuthenRequest Md5.utils false
    (papRequest [(PORTAL_USER_NAME, ascii "bob")]) 21 {}

/-- Both fail and leave a record; the request that comes after is told to wait. -/
theorem failed_request_blocks :
    overlongRequest.1 = -1 ∧ (overlongRequest.2.1.findUser 0x0a000009 0).isSome = true ∧
    refusedRequest.1 = -1 ∧ (refusedRequest.2.1.findUser 0x0a000009 0).isSome = true ∧
    (plainChannel.handleAuthenRequest Md5.utils true
      (papRequest [(PORTAL_USER_NAME, ascii "bob")]) 21 overlongRequest.2.1).2.2 =
        [.sendData (authenAnswer Md5.utils []
          (header (papRequest [(PORTAL_USER_NAME, ascii "bob")])) PORTAL_AUTH_ACK_WAITING)] := by
  refine ⟨?_, ?_, ?_, ?_, ?_⟩ <;> decide +kernel

end CPortalServerChannel

end OpenBras
