/-
  File:      OpenBras/Portal/Answers.lean
  Subject:   THE ANSWERS OF A PORTAL CHANNEL and their authenticators.

  * `challengeAnswer_two`, `authenAnswer_two`, `logoutAnswer_two` -- each answer of version 2 is
    a head of 16 bytes, an authenticator and attributes; what stands in the authenticator field;
  * `Authentic` -- the rule of the protocol: the digest is taken with the request's authenticator
    in place. The answer to a logout is digested with zeros there.
-/
import OpenBras.Portal.Walk

namespace OpenBras

open Wire

namespace CPortalServerChannel

variable {auth head mem msg : Bytes} {c : CPortalServerChannel} {u : CPortalUserMgr}

/-! ## 1. The answers of version 2 -/

/-- The first 16 bytes of an answer. -/
def answerHead (q : OpenportalHeader) (code errorCode attrNum : UInt8) : Bytes :=
  [q.version, code, q.authType, 0] ++ putShort q.serialNo ++ putShort 0 ++ putLong q.ipAddress ++
    putShort 0 ++ [errorCode, attrNum]

theorem length_answerHead (q : OpenportalHeader) (code errorCode attrNum : UInt8) :
    (answerHead q code errorCode attrNum).length = 16 := rfl

theorem response_bytes (q : OpenportalHeader) (code errorCode attrNum : UInt8) :
    (response q code errorCode attrNum).bytes =
      answerHead q code errorCode attrNum ++ noAuthenticator := rfl

/-- The attribute of a challenge. -/
def challengeAttr (key : Bytes) : Bytes := [PORTAL_CHAP_CHALLENGE, 18] ++ bytesAt key 0 16

theorem length_challengeAttr (key : Bytes) : (challengeAttr key).length = 18 := by
  simp [challengeAttr]

variable (H : Md5) (key : Bytes) {q : OpenportalHeader}

theorem authenAnswer_two (hv : q.version = PORTAL_VERSION_TWO)
    (hauth : q.authenticator.length = MAX_AUTHENTICATOR_LEN) (errorCode : UInt8) :
    authenAnswer H key q errorCode =
      answerHead q PORTAL_ACK_AUTHEN errorCode 0 ++
        digest H key (answerHead q PORTAL_ACK_AUTHEN errorCode 0) q.authenticator [] := by
  have hcopy : memcpy (response q PORTAL_ACK_AUTHEN errorCode 0).bytes 16 q.authenticator =
      answerHead q PORTAL_ACK_AUTHEN errorCode 0 ++ q.authenticator := by
    have h := memcpy_middle (p := answerHead q PORTAL_ACK_AUTHEN errorCode 0)
      (q := noAuthenticator) (r := []) hauth
    simpa only [List.append_nil, response_bytes, length_answerHead] using h
  rw [authenAnswer, authenticated, if_pos hv, hcopy, hv]
  exact addAuthentication_bare (length_answerHead ..) hauth H key rfl

theorem logoutAnswer_two (hv : q.version = PORTAL_VERSION_TWO) :
    logoutAnswer H key q =
      answerHead q PORTAL_ACK_LOGOUT PORTAL_LOGOUT_ACK_OK 0 ++
        digest H key (answerHead q PORTAL_ACK_LOGOUT PORTAL_LOGOUT_ACK_OK 0)
          noAuthenticator [] := by
  simp only [logoutAnswer, if_pos hv]
  rw [response_bytes, hv]
  exact addAuthentication_bare (length_answerHead ..) rfl H key rfl

theorem addAttribute_end (mem : Bytes) (type length : UInt8) (value : Bytes) :
    addAttribute mem mem.length type length value =
      mem ++ ([type, length] ++ bytesAt value 0 (length.toNat - 2)) := by
  rw [addAttribute, memcpy, Nat.sub_self, List.replicate_zero, List.append_nil, List.take_length,
    List.drop_eq_nil_of_le (Nat.le_add_right _ _), List.append_nil]

theorem challengeAttr_eq (key : Bytes) :
    challengeAttr key = Tlv.body [(PORTAL_CHAP_CHALLENGE, bytesAt key 0 16)] := by
  rw [Tlv.body_cons, Tlv.body_nil, List.append_nil, Tlv.bytes, length_bytesAt]
  rfl

theorem challengeAnswer_two (hv : q.version = PORTAL_VERSION_TWO)
    (hauth : q.authenticator.length = MAX_AUTHENTICATOR_LEN) :
    challengeAnswer H key q =
      answerHead q PORTAL_ACK_CHALLENGE PORTAL_CHALLENGE_REQUEST_OK 1 ++
        digest H key (answerHead q PORTAL_ACK_CHALLENGE PORTAL_CHALLENGE_REQUEST_OK 1)
          q.authenticator (challengeAttr key) ++ challengeAttr key := by
  have hl := length_answerHead q PORTAL_ACK_CHALLENGE PORTAL_CHALLENGE_REQUEST_OK 1
  have hnum : byteAt (answerHead q PORTAL_ACK_CHALLENGE PORTAL_CHALLENGE_REQUEST_OK 1) 15 = 1 := rfl
  have hbytes := response_bytes q PORTAL_ACK_CHALLENGE PORTAL_CHALLENGE_REQUEST_OK 1
  have hsize : headerSize q.version = OPENPORTAL_HEADER := by rw [hv]; rfl
  rw [challengeAnswer]
  simp only [hsize]
  rw [hbytes]
  generalize answerHead q PORTAL_ACK_CHALLENGE PORTAL_CHALLENGE_REQUEST_OK 1 = head at hl hnum ⊢
  have hln : OPENPORTAL_HEADER = (head ++ noAuthenticator).length := by
    rw [List.length_append, hl]
    rfl
  have hattr : addAttribute (head ++ noAuthenticator) OPENPORTAL_HEADER PORTAL_CHAP_CHALLENGE 18
      key = packet head noAuthenticator [(PORTAL_CHAP_CHALLENGE, bytesAt key 0 16)] [] := by
    rw [hln, addAttribute_end, packet, List.append_nil, ← challengeAttr_eq]
    rfl
  have hshort : ∀ e ∈ [(PORTAL_CHAP_CHALLENGE, bytesAt key 0 16)], Tlv.Short e := by
    intro e he
    rw [List.mem_singleton.mp he, Tlv.Short, length_bytesAt]
    decide
  rw [hattr, authenticated, if_pos hv, memcpy_packet hl rfl hauth,
    addAuthentication_packet hl hauth H key hshort (by rw [hnum]; rfl), packet, List.append_nil,
    ← challengeAttr_eq]
  apply List.take_of_length_le
  rw [List.length_append, List.length_append, hl, length_challengeAttr,
    length_digest H _ _ _ hauth]
  decide

/-! ## 2. What the channel sends -/

/-- What can happen to a channel. Other channels and the kicking of a user change the table of
    users too: that is the last event. -/
inductive Event where
  | rcvData (am : Bool) (msg : Bytes) (msgsize : Nat)
  | onAuthResponse (r : PortalAuthResponse)
  | notifyLogoutRequest (userid : UInt32)
  | users (u : CPortalUserMgr)

/-- One event of a channel and the table of users. -/
def step (H : Md5) (s : CPortalServerChannel × CPortalUserMgr) :
    Event → (CPortalServerChannel × CPortalUserMgr) × List PortalAct
  | .rcvData am msg msgsize =>
    let r := s.1.rcvData H am msg msgsize s.2
    ((s.1, r.2.1), r.2.2)
  | .onAuthResponse r =>
    let r := s.1.onAuthResponse H r s.2
    ((s.1, r.2.1), r.2.2)
  | .notifyLogoutRequest userid =>
    let r := s.1.notifyLogoutRequest H userid
    ((r.1, s.2), r.2)
  | .users u => ((s.1, u), [])

/-- The datagrams among the acts. -/
def sent (acts : List PortalAct) : List Bytes :=
  acts.filterMap fun
    | .sendData d => some d
    | .authRequest _ => none

/-- The request an event brings or, for a response of the authentication manager, the one that
    is stored with the user. -/
def requestOf (u : CPortalUserMgr) : Event → Option Bytes
  | .rcvData _ msg _ => some msg
  | .onAuthResponse r => (u.findUser r.userIp r.vrf).map (·.packet)
  | _ => none

/-- **What is sent for a request that arrives**, by its code. -/
theorem rcvData_sent {H : Md5} {am : Bool} {msgsize : Nat} {d : Bytes}
    (h : d ∈ sent (c.rcvData H am msg msgsize u).2.2) :
    accepts c.cfg msg msgsize = true ∧ checkAuthenticator H c.cfg.key msg = true ∧
      ((byteAt msg 1 = PORTAL_REQ_CHALLENGE ∧ d = challengeAnswer H c.cfg.key (header msg)) ∨
        (byteAt msg 1 = PORTAL_REQ_AUTHEN ∧
          ∃ errorCode, d = authenAnswer H c.cfg.key (header msg) errorCode) ∨
        (byteAt msg 1 = PORTAL_REQ_LOGOUT ∧ d = logoutAnswer H c.cfg.key (header msg))) := by
  unfold rcvData at h
  dsimp only at h
  split at h
  · cases h
  next hacc =>
  refine ⟨by simpa using hacc, ?_⟩
  split at h
  · next hcode =>
      unfold handleChallengeRequest at h
      split at h
      · next hcheck =>
          exact ⟨hcheck, .inl ⟨hcode, List.mem_singleton.mp h⟩⟩
      · cases h
  split at h
  · next hcode =>
      unfold handleAuthenRequest at h
      dsimp only at h
      split at h
      · cases h
      split at h
      · cases h
      next hcheck =>
      refine ⟨by simpa using hcheck, .inr (.inl ⟨hcode, ?_⟩)⟩
      split at h
      · exact ⟨_, List.mem_singleton.mp h⟩
      · split at h <;> cases h
  split at h
  · next hcode =>
      unfold handleLogoutRequest at h
      dsimp only at h
      split at h
      · next hcheck =>
          exact ⟨hcheck, .inr (.inr ⟨hcode, List.mem_singleton.mp h⟩)⟩
      · cases h
  · split at h <;> cases h

/-! ## 3. Authenticators -/

/-- **The rule of the protocol** for the answer `d` to the request `q`: the digest is that of the
    answer with the request's authenticator in its place, and of the key. -/
def Authentic (H : Md5) (key q d : Bytes) : Prop :=
  bytesAt d 16 MAX_AUTHENTICATOR_LEN =
    H.run (d.take 16 ++ bytesAt q 16 MAX_AUTHENTICATOR_LEN ++ d.drop OPENPORTAL_HEADER ++
      cText key)

/-- The event is a request for a challenge, or for a logout. -/
def Event.IsRequest (code : UInt8) : Event → Prop
  | .rcvData _ msg _ => byteAt msg 1 = code
  | _ => False

instance (code : UInt8) (e : Event) : Decidable (e.IsRequest code) := by
  unfold Event.IsRequest
  split <;> exact inferInstance

/-- The attributes of the answer. -/
def answerAttrs (key : Bytes) (e : Event) : Bytes :=
  if e.IsRequest PORTAL_REQ_CHALLENGE then challengeAttr key else []

/-- What stands in the authenticator field when the digest is taken. -/
def staged (e : Event) (q : Bytes) : Bytes :=
  if e.IsRequest PORTAL_REQ_LOGOUT then noAuthenticator else bytesAt q 16 MAX_AUTHENTICATOR_LEN

/-- The check of the request, where there is one. -/
def passes (H : Md5) (key : Bytes) : Event → Bool
  | .rcvData _ msg _ => checkAuthenticator H key msg
  | _ => true

/-- The answer with the given head. -/
def answer (H : Md5) (key head q : Bytes) (e : Event) : Bytes :=
  head ++ digest H key head (staged e q) (answerAttrs key e) ++ answerAttrs key e

theorem length_staged (e : Event) (q : Bytes) : (staged e q).length = MAX_AUTHENTICATOR_LEN := by
  unfold staged
  split
  · rfl
  · exact length_bytesAt ..

theorem authentic_answer_iff {H : Md5} {key q : Bytes} {e : Event} (hhead : head.length = 16) :
    Authentic H key q (answer H key head q e) ↔
      digest H key head (staged e q) (answerAttrs key e) =
        H.run (head ++ bytesAt q 16 MAX_AUTHENTICATOR_LEN ++ answerAttrs key e ++ cText key) := by
  have hd := length_digest H key head (answerAttrs key e) (length_staged e q)
  unfold Authentic answer
  have hfield := bytesAt_append head (digest H key head (staged e q) (answerAttrs key e))
    (answerAttrs key e)
  rw [hhead, hd] at hfield
  have hdrop : OPENPORTAL_HEADER =
      (head ++ digest H key head (staged e q) (answerAttrs key e)).length := by
    rw [List.length_append, hhead, hd]
    rfl
  rw [hfield, hdrop, List.drop_left, ← hhead, List.append_assoc head, List.take_left]

section Handlers

variable {H : Md5} {am : Bool} {n : Nat} (hacc : accepts c.cfg msg n = true)
include hacc

theorem rcvData_challenge (hcode : byteAt msg 1 = PORTAL_REQ_CHALLENGE) :
    c.rcvData H am msg n u = c.handleChallengeRequest H msg u := by
  rw [rcvData_eq, handlerOf, if_pos hacc, hcode]
  rfl

theorem rcvData_authen (hcode : byteAt msg 1 = PORTAL_REQ_AUTHEN) :
    c.rcvData H am msg n u = c.handleAuthenRequest H am msg n u := by
  rw [rcvData_eq, handlerOf, if_pos hacc, hcode]
  rfl

theorem rcvData_logout (hcode : byteAt msg 1 = PORTAL_REQ_LOGOUT) :
    c.rcvData H am msg n u = c.handleLogoutRequest H msg u := by
  rw [rcvData_eq, handlerOf, if_pos hacc, hcode]
  rfl

end Handlers

section Forms

variable {c : CPortalServerChannel} {u : CPortalUserMgr} {e : Event} {q : Bytes}

/-- The datagrams sent for the event are the answer with this head, provided the check is
    passed. -/
def AnswersWith (c : CPortalServerChannel) (u : CPortalUserMgr) (e : Event) (q head : Bytes) :
    Prop :=
  head.length = 16 ∧ ¬ e.IsRequest (byteAt head 1) ∧
    ∀ H, sent (step H (c, u) e).2 =
      if passes H c.cfg.key e then [answer H c.cfg.key head q e] else []

theorem length_authenticator (q : Bytes) :
    (header q).authenticator.length = MAX_AUTHENTICATOR_LEN := length_bytesAt ..

theorem passes_rcvData (H : Md5) (key : Bytes) (am : Bool) (n : Nat) :
    passes H key (.rcvData am q n) = checkAuthenticator H key q := rfl

variable {am : Bool} {n : Nat} (hv : byteAt q 0 = PORTAL_VERSION_TWO)
  (hacc : accepts c.cfg q n = true)
include hv hacc

theorem answersWith_challenge (hcode : byteAt q 1 = PORTAL_REQ_CHALLENGE) :
    AnswersWith c u (.rcvData am q n) q
      (answerHead (header q) PORTAL_ACK_CHALLENGE PORTAL_CHALLENGE_REQUEST_OK 1) := by
  refine ⟨rfl, fun h => ?_, fun H => ?_⟩
  · have hne : byteAt q 1 = PORTAL_ACK_CHALLENGE := h
    exact absurd (hcode.symm.trans hne) (by decide)
  have hattrs : answerAttrs c.cfg.key (.rcvData am q n) = challengeAttr c.cfg.key := if_pos hcode
  have hstage : staged (.rcvData am q n) q = (header q).authenticator :=
    if_neg fun h => absurd (hcode.symm.trans h) (by decide)
  rw [answer, hattrs, hstage]
  simp only [step, rcvData_challenge hacc hcode, handleChallengeRequest]
  rw [passes_rcvData]
  by_cases hc : checkAuthenticator H c.cfg.key q = true
  · rw [if_pos hc, if_pos hc, challengeAnswer_two H c.cfg.key hv (length_authenticator q)]
    rfl
  · rw [if_neg hc, if_neg hc]
    rfl

theorem answersWith_authen (hcode : byteAt q 1 = PORTAL_REQ_AUTHEN) (hn : n ≠ 0)
    {user : CPortalUser} (huser : u.findUser (header q).ipAddress 0 = some user) :
    AnswersWith c u (.rcvData am q n) q
      (answerHead (header q) PORTAL_ACK_AUTHEN
        (if user.isAuthOk then PORTAL_AUTH_ACK_ONLINE else PORTAL_AUTH_ACK_WAITING) 0) := by
  refine ⟨rfl, fun h => ?_, fun H => ?_⟩
  · have hne : byteAt q 1 = PORTAL_ACK_AUTHEN := h
    exact absurd (hcode.symm.trans hne) (by decide)
  have hattrs : answerAttrs c.cfg.key (.rcvData am q n) = [] :=
    if_neg fun h => absurd (hcode.symm.trans h) (by decide)
  have hstage : staged (.rcvData am q n) q = (header q).authenticator :=
    if_neg fun h => absurd (hcode.symm.trans h) (by decide)
  rw [answer, hattrs, hstage, List.append_nil]
  simp only [step, rcvData_authen hacc hcode, handleAuthenRequest, if_neg hn, huser]
  rw [passes_rcvData]
  by_cases hc : checkAuthenticator H c.cfg.key q = true
  · rw [if_neg (by simp [hc]), if_pos hc,
      authenAnswer_two H c.cfg.key hv (length_authenticator q)]
    rfl
  · rw [if_pos (by simp [hc]), if_neg hc]
    rfl

theorem answersWith_logout (hcode : byteAt q 1 = PORTAL_REQ_LOGOUT) :
    AnswersWith c u (.rcvData am q n) q
      (answerHead (header q) PORTAL_ACK_LOGOUT PORTAL_LOGOUT_ACK_OK 0) := by
  refine ⟨rfl, fun h => ?_, fun H => ?_⟩
  · have hne : byteAt q 1 = PORTAL_ACK_LOGOUT := h
    exact absurd (hcode.symm.trans hne) (by decide)
  have hattrs : answerAttrs c.cfg.key (.rcvData am q n) = [] :=
    if_neg fun h => absurd (hcode.symm.trans h) (by decide)
  have hstage : staged (.rcvData am q n) q = noAuthenticator := if_pos hcode
  rw [answer, hattrs, hstage, List.append_nil]
  simp only [step, rcvData_logout hacc hcode, handleLogoutRequest]
  rw [passes_rcvData]
  by_cases hc : checkAuthenticator H c.cfg.key q = true
  · rw [if_pos hc, if_pos hc, logoutAnswer_two H c.cfg.key hv]
    rfl
  · rw [if_neg hc, if_neg hc]
    rfl

omit hacc

theorem answersWith_response {r : PortalAuthResponse} {user : CPortalUser}
    (huser : u.findUser r.userIp r.vrf = some user) (hq : user.packet = q) (hsize : q ≠ []) :
    AnswersWith c u (.onAuthResponse r) q
      (answerHead (header q) PORTAL_ACK_AUTHEN
        (if r.authResult = 0 then PORTAL_AUTH_ACK_OK else PORTAL_AUTH_ACK_FAIL) 0) := by
  refine ⟨rfl, id, fun H => ?_⟩
  have hlen : ¬ q.length = 0 := fun h => hsize (List.length_eq_zero_iff.mp h)
  have hstage : staged (.onAuthResponse r) q = (header q).authenticator := rfl
  have hattrs : answerAttrs c.cfg.key (.onAuthResponse r) = [] := rfl
  rw [answer, hattrs, hstage, List.append_nil]
  simp only [step, onAuthResponse, huser, hq, if_neg hlen, passes, if_true]
  split <;>
  · rw [authenAnswer_two H c.cfg.key hv (length_authenticator q)]
    rfl

/-- **Every answer has this form**, and its code is not that of the request. -/
theorem exists_answersWith (hq : requestOf u e = some q)
    (hans : ∃ H, sent (step H (c, u) e).2 ≠ []) : ∃ head, AnswersWith c u e q head := by
  obtain ⟨H₀, hans⟩ := hans
  cases e with
  | rcvData am msg n =>
    cases hq
    obtain ⟨d, hd⟩ := List.exists_mem_of_ne_nil _ hans
    obtain ⟨hacc, -, ⟨hcode, -⟩ | ⟨hcode, -⟩ | ⟨hcode, -⟩⟩ := rcvData_sent hd
    · exact ⟨_, answersWith_challenge hv hacc hcode⟩
    · simp only [step, rcvData_authen hacc hcode, handleAuthenRequest] at hans
      have hn : n ≠ 0 := fun h => by simp [h, sent] at hans
      cases huser : u.findUser (header q).ipAddress 0 with
      | some user => exact ⟨_, answersWith_authen hv hacc hcode hn huser⟩
      | none =>
        -- a user without a record is passed on to the manager, and nothing is sent
        rw [if_neg hn, huser] at hans
        split at hans
        · exact absurd rfl hans
        · cases hr : makeAuthRequest q with
          | none => simp [hr, sent] at hans
          | some r => simp [hr, sent] at hans
    · exact ⟨_, answersWith_logout hv hacc hcode⟩
  | onAuthResponse r =>
    simp only [requestOf, Option.map_eq_some_iff] at hq
    obtain ⟨user, huser, hq⟩ := hq
    simp only [step, onAuthResponse, huser, hq] at hans
    have hsize : q ≠ [] := fun h => by simp [h, sent] at hans
    exact ⟨_, answersWith_response hv huser hq hsize⟩
  | notifyLogoutRequest userid => cases hq
  | users u => cases hq

end Forms

/-- The answer is staged as the protocol asks: its digest fits into `auth_str`, and it is not that
    to a logout, unless the request's authenticator is zero. -/
def Staged (key q : Bytes) (e : Event) : Prop :=
  Fits (answerAttrs key e) key ∧
    (e.IsRequest PORTAL_REQ_LOGOUT → bytesAt q 16 MAX_AUTHENTICATOR_LEN = noAuthenticator)

theorem attribBytes_head {n pos : Nat} {s r : Bytes} (h : attribBytes mem n pos s = some r) :
    ∃ t, r = s ++ t := by
  induction n generalizing pos s with
  | zero =>
    cases h
    exact ⟨[], by simp⟩
  | succ n ih =>
    rw [attribBytes] at h
    split at h
    · cases h
    · obtain ⟨t, ht⟩ := ih h
      exact ⟨bytesAt mem pos (byteAt mem (pos + 1)).toNat ++ t, by rw [ht, List.append_assoc]⟩

theorem authStr_head {key s : Bytes} (h : authStr head mem key = some s) : ∃ t, s = head ++ t := by
  unfold authStr at h
  cases hr : attribBytes mem (byteAt mem 15).toNat OPENPORTAL_HEADER head with
  | none =>
    rw [hr] at h
    cases h
  | some r =>
    simp only [hr] at h
    split at h
    · cases h
    · obtain ⟨t, ht⟩ := attribBytes_head hr
      cases h
      exact ⟨t ++ cText key, by rw [ht, List.append_assoc]⟩

theorem fits_of_authStr {key s : Bytes} (hlen : head.length = OPENPORTAL_HEADER)
    (h : authStr head mem key = some s) : Fits [] key := by
  unfold authStr at h
  cases hr : attribBytes mem (byteAt mem 15).toNat OPENPORTAL_HEADER head with
  | none =>
    rw [hr] at h
    cases h
  | some r =>
    simp only [hr] at h
    split at h
    · cases h
    next hsize =>
      obtain ⟨t, ht⟩ := attribBytes_head hr
      have hr' : r.length = OPENPORTAL_HEADER + t.length := by rw [ht, List.length_append, hlen]
      simp only [Fits, List.length_nil, OPENPORTAL_HEADER, MAX_PORTAL_AUTH_STR_LEN] at *
      omega

/-- What `CheckAuthenticator` compares, in version 2. -/
theorem checkAuthenticator_two {H : Md5} {key q : Bytes} (hv : byteAt q 0 = PORTAL_VERSION_TWO) :
    checkAuthenticator H key q = true ↔
      ∃ s, authStr (bytesAt q 0 16 ++ List.replicate MAX_AUTHENTICATOR_LEN 0) q key = some s ∧
        H.run s = bytesAt q 16 MAX_AUTHENTICATOR_LEN := by
  unfold checkAuthenticator
  rw [if_neg (by rw [hv]; decide)]
  cases authStr (bytesAt q 0 16 ++ List.replicate MAX_AUTHENTICATOR_LEN 0) q key with
  | none => simp
  | some s => simp

/-- A digest that is `auth` everywhere but at `x`. -/
def Md5.except (x auth : Bytes) (h : auth.length = MAX_AUTHENTICATOR_LEN) : Md5 where
  run s := if s = x then auth.map (· + 1) else auth
  length_run s := by
    split
    · rw [List.length_map, h]
    · exact h

theorem map_succ_ne (h : auth.length = MAX_AUTHENTICATOR_LEN) : auth.map (· + 1) ≠ auth := by
  cases auth with
  | nil => cases h
  | cons a as =>
    intro hmap
    have ha := (List.cons.inj hmap).1
    rw [UInt8.add_eq_left] at ha
    exact absurd ha (by decide)

/-- A request that is answered for one MD5 is answered for the one that tells the text `x` of the
    answer from every other: the texts of the two digests differ in the code. -/
theorem passes_except {H : Md5} {key t q : Bytes} {e : Event} (hq : requestOf u e = some q)
    (hv : byteAt q 0 = PORTAL_VERSION_TWO) (hlen : head.length = 16)
    (hcode : ¬ e.IsRequest (byteAt head 1)) (hpass : passes H key e = true) :
    passes (Md5.except (head ++ t) (bytesAt q 16 MAX_AUTHENTICATOR_LEN) (length_bytesAt ..))
      key e = true := by
  cases e with
  | rcvData am msg n =>
    cases hq
    obtain ⟨s, hs, -⟩ := (checkAuthenticator_two hv).mp hpass
    refine (checkAuthenticator_two hv).mpr ⟨s, hs, if_neg fun hsx => hcode ?_⟩
    obtain ⟨t', ht⟩ := authStr_head hs
    have h1 : byteAt s 1 = byteAt q 1 := by rw [ht]; rfl
    have h2 : byteAt (head ++ t) 1 = byteAt head 1 := by
      simp only [byteAt, List.getD_eq_getElem?_getD]
      rw [List.getElem?_append_left (by omega)]
    exact h1.symm.trans (hsx ▸ h2)
  | _ => rfl

theorem fits_of_passes {H : Md5} {key q : Bytes} {e : Event} (hq : requestOf u e = some q)
    (hv : byteAt q 0 = PORTAL_VERSION_TWO) (hpass : passes H key e = true)
    (hlogout : e.IsRequest PORTAL_REQ_LOGOUT) : Fits (answerAttrs key e) key := by
  cases e with
  | rcvData am msg n =>
    cases hq
    obtain ⟨s, hs, -⟩ := (checkAuthenticator_two hv).mp hpass
    have hattrs : answerAttrs key (.rcvData am q n) = [] :=
      if_neg fun h => absurd (hlogout.symm.trans h) (by decide)
    rw [hattrs]
    exact fits_of_authStr (by simp [OPENPORTAL_HEADER, MAX_AUTHENTICATOR_LEN]) hs
  | _ => cases hlogout

/-- **The answers to a request of version 2 are authentic, whatever MD5 is, exactly if they are
    staged as the protocol asks**; for every channel, every table of users and every request that
    is answered. -/
theorem answers_authentic_iff (c : CPortalServerChannel) (u : CPortalUserMgr) (e : Event)
    (q : Bytes) (hq : requestOf u e = some q) (hv : byteAt q 0 = PORTAL_VERSION_TWO)
    (hans : ∃ H, sent (step H (c, u) e).2 ≠ []) :
    (∀ H, ∀ d ∈ sent (step H (c, u) e).2, Authentic H c.cfg.key q d) ↔ Staged c.cfg.key q e := by
  obtain ⟨head, hlen, hcode, hsent⟩ := exists_answersWith hv hq hans
  constructor
  · intro hall
    obtain ⟨H₀, hne⟩ := hans
    have hpass : passes H₀ c.cfg.key e = true := by
      by_contra hp
      exact hne (by rw [hsent H₀, if_neg hp])
    -- MD5 may tell the text the protocol asks for from every other
    obtain ⟨auth, hauth⟩ : ∃ auth, auth = bytesAt q 16 MAX_AUTHENTICATOR_LEN := ⟨_, rfl⟩
    have hla : auth.length = MAX_AUTHENTICATOR_LEN := by rw [hauth, length_bytesAt]
    obtain ⟨t, ht⟩ : ∃ t, t = auth ++ (answerAttrs c.cfg.key e ++ cText c.cfg.key) := ⟨_, rfl⟩
    have hpass' : passes (Md5.except (head ++ t) auth hla) c.cfg.key e = true := by
      subst hauth
      exact passes_except hq hv hlen hcode hpass
    have hd := hall (Md5.except (head ++ t) auth hla)
      (answer (Md5.except (head ++ t) auth hla) c.cfg.key head q e)
      (by rw [hsent, if_pos hpass']; exact List.mem_singleton_self _)
    have hrun : (Md5.except (head ++ t) auth hla).run (head ++ t) = auth.map (· + 1) := if_pos rfl
    rw [authentic_answer_iff hlen, ← hauth, List.append_assoc, List.append_assoc, ← ht, hrun] at hd
    refine ⟨by_contra fun hfit => ?_, fun hlogout => by_contra fun hzero => ?_⟩
    · rw [digest, if_neg hfit, staged, if_neg fun h => hfit (fits_of_passes hq hv hpass h),
        ← hauth] at hd
      exact map_succ_ne hla hd.symm
    · have hother : head ++ noAuthenticator ++ answerAttrs c.cfg.key e ++ cText c.cfg.key ≠
          head ++ t := by
        intro h
        rw [ht, List.append_assoc, List.append_assoc] at h
        have h' := List.append_cancel_right (List.append_cancel_left h)
        exact hzero (hauth ▸ h'.symm)
      rw [digest, if_pos (fits_of_passes hq hv hpass hlogout), staged, if_pos hlogout] at hd
      exact map_succ_ne hla (hd.symm.trans (if_neg hother))
  · rintro ⟨hfit, hzero⟩ H d hd
    rw [hsent H] at hd
    split at hd
    · rw [List.mem_singleton.mp hd, authentic_answer_iff hlen, digest, if_pos hfit]
      have hstaged : staged e q = bytesAt q 16 MAX_AUTHENTICATOR_LEN := by
        unfold staged
        split
        · next hlogout => exact (hzero hlogout).symm
        · rfl
      rw [hstaged]
    · cases hd

instance (key q : Bytes) (e : Event) : Decidable (Staged key q e) :=
  inferInstanceAs (Decidable (_ ∧ _))

instance (H : Md5) (key q d : Bytes) : Decidable (Authentic H key q d) :=
  inferInstanceAs (Decidable (_ = _))

/-- A channel of version 2 with the key "secret". -/
def exampleChannel : CPortalServerChannel where
  remoteAddr := (0x0a000002, 50100)
  cfg := { version := PORTAL_VERSION_TWO, key := ascii "secret" ++ List.replicate 11 0 }

/-- A request of version 2 for the user 10.0.0.1, without attributes, from one who has the key. -/
def exampleRequest (code : UInt8) : Bytes :=
  let head : Bytes := [2, code, 0, 0, 0, 1, 0, 0, 10, 0, 0, 1, 0, 0, 0, 0]
  head ++ md5 (head ++ noAuthenticator ++ ascii "secret")

/-- The challenge is answered as the protocol asks. -/
theorem challenge_answer_authentic :
    sent (step .utils (exampleChannel, {})
        (.rcvData true (exampleRequest PORTAL_REQ_CHALLENGE) 32)).2 ≠ [] ∧
      ∀ H, ∀ d ∈ sent (step H (exampleChannel, {})
          (.rcvData true (exampleRequest PORTAL_REQ_CHALLENGE) 32)).2,
        Authentic H exampleChannel.cfg.key (exampleRequest PORTAL_REQ_CHALLENGE) d :=
  ⟨by decide +kernel,
    (answers_authentic_iff _ _ _ _ rfl rfl ⟨.utils, by decide +kernel⟩).mpr (by decide +kernel)⟩

/-- **The answer to a logout is not what the portal server expects.** -/
theorem logout_answer_not_authentic :
    ¬ ∀ H, ∀ d ∈ sent (step H (exampleChannel, {})
        (.rcvData true (exampleRequest PORTAL_REQ_LOGOUT) 32)).2,
      Authentic H exampleChannel.cfg.key (exampleRequest PORTAL_REQ_LOGOUT) d := by
  intro h
  have hall := h .utils
  revert hall
  decide +kernel

end CPortalServerChannel

end OpenBras
