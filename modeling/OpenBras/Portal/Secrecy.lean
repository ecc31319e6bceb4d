/-
  File:      OpenBras/Portal/Secrecy.lean
  Subject:   WHAT A PORTAL CHANNEL TELLS OF ITS KEY: two runs that differ in the key alone.

  * `outlook d` -- a datagram without its authenticator field (which version 1 does not have);
  * `seen` -- what the network sees of a run, event by event;
  * `step_withKey` -- where both keys let the request pass, the two channels do the same, and
    every answer but that to a challenge has the same outlook;
  * `outlook_challengeAnswer` -- the challenge shows the first 16 bytes of the key's memory.
-/
import OpenBras.Portal.Answers

namespace OpenBras

open Wire

namespace CPortalServerChannel

/-! ## 1. Outlooks -/

/-- A datagram without its authenticator field. -/
def outlook (d : Bytes) : Bytes :=
  if byteAt d 0 = PORTAL_VERSION_TWO then d.take 16 ++ d.drop OPENPORTAL_HEADER else d

theorem outlook_two {head auth attrs : Bytes} (hv : byteAt head 0 = PORTAL_VERSION_TWO)
    (hhead : head.length = 16) (hauth : auth.length = MAX_AUTHENTICATOR_LEN) :
    outlook (head ++ auth ++ attrs) = head ++ attrs := by
  have hfirst : byteAt (head ++ auth ++ attrs) 0 = byteAt head 0 := by
    simp only [byteAt, List.append_assoc, List.getD_eq_getElem?_getD]
    rw [List.getElem?_append_left (by omega)]
  have hdrop : OPENPORTAL_HEADER = (head ++ auth).length := by
    rw [List.length_append, hhead, hauth]
    rfl
  rw [outlook, if_pos (hfirst.trans hv), hdrop, List.drop_left, List.append_assoc, ← hhead,
    List.take_left]

theorem outlook_bare {head auth : Bytes} (hv : byteAt head 0 = PORTAL_VERSION_TWO)
    (hhead : head.length = 16) (hauth : auth.length = MAX_AUTHENTICATOR_LEN) :
    outlook (head ++ auth) = head := by
  have ho : outlook (head ++ auth ++ []) = head ++ [] := outlook_two hv hhead hauth
  rwa [List.append_nil, List.append_nil] at ho

section Keys

variable (H : Md5) (k₁ k₂ : Bytes) {q : OpenportalHeader}
  (hauth : q.authenticator.length = MAX_AUTHENTICATOR_LEN)
include hauth

theorem outlook_authenAnswer (errorCode : UInt8) :
    outlook (authenAnswer H k₁ q errorCode) = outlook (authenAnswer H k₂ q errorCode) := by
  by_cases hv : q.version = PORTAL_VERSION_TWO
  · have h (key : Bytes) : outlook (authenAnswer H key q errorCode) =
        answerHead q PORTAL_ACK_AUTHEN errorCode 0 := by
      rw [authenAnswer_two H key hv hauth]
      exact outlook_bare hv rfl (length_digest H _ _ _ hauth)
    rw [h, h]
  · simp only [authenAnswer, authenticated, if_neg hv]

omit hauth in
theorem outlook_logoutAnswer : outlook (logoutAnswer H k₁ q) = outlook (logoutAnswer H k₂ q) := by
  by_cases hv : q.version = PORTAL_VERSION_TWO
  · have h (key : Bytes) : outlook (logoutAnswer H key q) =
        answerHead q PORTAL_ACK_LOGOUT PORTAL_LOGOUT_ACK_OK 0 := by
      rw [logoutAnswer_two H key hv]
      exact outlook_bare hv rfl (length_digest H _ _ _ rfl)
    rw [h, h]
  · simp only [logoutAnswer, if_neg hv]

/-- **The challenge shows the key**, in version 1 and in version 2. -/
theorem outlook_challengeAnswer (key : Bytes)
    (hv : q.version = PORTAL_VERSION_ONE ∨ q.version = PORTAL_VERSION_TWO) :
    outlook (challengeAnswer H key q) =
      answerHead q PORTAL_ACK_CHALLENGE PORTAL_CHALLENGE_REQUEST_OK 1 ++ challengeAttr key := by
  rcases hv with hv | hv
  · have hne : ¬ q.version = PORTAL_VERSION_TWO := by rw [hv]; decide
    -- in version 1 the attribute lies where version 2 has its authenticator
    have hd : challengeAnswer H key q =
        answerHead q PORTAL_ACK_CHALLENGE PORTAL_CHALLENGE_REQUEST_OK 1 ++ challengeAttr key := by
      simp only [challengeAnswer, authenticated, if_neg hne]
      rw [hv]
      rfl
    rw [hd, outlook, if_neg]
    exact hne
  · rw [challengeAnswer_two H key hv hauth]
    exact outlook_two hv rfl (length_digest H _ _ _ hauth)

end Keys

/-! ## 2. Two channels -/

/-- The channel with another key. -/
def withKey (key : Bytes) (c : CPortalServerChannel) : CPortalServerChannel :=
  { c with cfg := { c.cfg with key } }

/-- A request for a challenge that reaches its handler. -/
def Event.Challenged (cfg : PortalServerCfg) : Event → Prop
  | .rcvData _ msg n => accepts cfg msg n = true ∧ byteAt msg 1 = PORTAL_REQ_CHALLENGE
  | _ => False

/-- The outlooks of what is sent. -/
def outlooks (acts : List PortalAct) : List Bytes := (sent acts).map outlook

section Step

variable {H : Md5} {k₁ k₂ : Bytes} {c : CPortalServerChannel} {u : CPortalUserMgr}

/-- The head of a logout notification. -/
def notifyHead (userid : UInt32) (c : CPortalServerChannel) : Bytes :=
  [c.cfg.version, PORTAL_NTF_LOGOUT, PORTAL_CHAP_AUTH, 0] ++ putShort 0 ++
    putShort (swapShort (c.reqidbase + 1)) ++ putLong (swapLong userid) ++ putShort 0 ++ [0, 0]

theorem outlook_notifyLogoutRequest (userid : UInt32) :
    outlooks ((c.withKey k₁).notifyLogoutRequest H userid).2 =
      outlooks ((c.withKey k₂).notifyLogoutRequest H userid).2 := by
  by_cases hv : c.cfg.version = PORTAL_VERSION_TWO
  · have hnone : noAuthenticator.length = MAX_AUTHENTICATOR_LEN := rfl
    have h (key : Bytes) : outlooks ((c.withKey key).notifyLogoutRequest H userid).2 =
        [notifyHead userid c] := by
      have hv' : (c.withKey key).cfg.version = PORTAL_VERSION_TWO := hv
      have hlook := outlook_bare (show byteAt (notifyHead userid c) 0 = PORTAL_VERSION_TWO from hv)
        rfl (length_digest H key (notifyHead userid c) [] hnone)
      simp only [notifyLogoutRequest, if_pos hv']
      change [outlook ((addAuthentication H key (notifyHead userid c ++ noAuthenticator)).take
        OPENPORTAL_HEADER)] = _
      rw [addAuthentication_bare rfl hnone H key rfl, hlook]
    rw [h, h]
  · have hv' (key : Bytes) : ¬ (c.withKey key).cfg.version = PORTAL_VERSION_TWO := hv
    simp only [notifyLogoutRequest, if_neg (hv' _)]
    rfl

theorem handleAuthenRequest_withKey {am : Bool} {msg : Bytes} {n : Nat}
    (h₁ : checkAuthenticator H k₁ msg = true) (h₂ : checkAuthenticator H k₂ msg = true) :
    ((c.withKey k₁).handleAuthenRequest H am msg n u).2.1 =
        ((c.withKey k₂).handleAuthenRequest H am msg n u).2.1 ∧
      outlooks ((c.withKey k₁).handleAuthenRequest H am msg n u).2.2 =
        outlooks ((c.withKey k₂).handleAuthenRequest H am msg n u).2.2 := by
  have hk (key : Bytes) : (c.withKey key).cfg.key = key := rfl
  have ha (key : Bytes) : (c.withKey key).remoteAddr = c.remoteAddr := rfl
  simp only [handleAuthenRequest, hk, ha, h₁, h₂, Bool.not_true, Bool.false_eq_true, if_false]
  split
  · exact ⟨rfl, rfl⟩
  cases u.findUser (header msg).ipAddress 0 with
  | some user =>
    exact ⟨rfl, congrArg (fun d => [d])
      (outlook_authenAnswer H k₁ k₂ (length_authenticator msg) _)⟩
  | none =>
    cases makeAuthRequest msg with
    | none => exact ⟨rfl, rfl⟩
    | some r => exact ⟨rfl, rfl⟩

theorem rcvData_withKey {am : Bool} {msg : Bytes} {n : Nat}
    (h₁ : checkAuthenticator H k₁ msg = true) (h₂ : checkAuthenticator H k₂ msg = true) :
    ((c.withKey k₁).rcvData H am msg n u).2.1 = ((c.withKey k₂).rcvData H am msg n u).2.1 ∧
      (¬ (Event.rcvData am msg n).Challenged c.cfg →
        outlooks ((c.withKey k₁).rcvData H am msg n u).2.2 =
          outlooks ((c.withKey k₂).rcvData H am msg n u).2.2) := by
  have hk (key : Bytes) : (c.withKey key).cfg.key = key := rfl
  have ha (key : Bytes) : accepts (c.withKey key).cfg msg n = accepts c.cfg msg n := rfl
  simp only [rcvData, ha]
  cases hacc : accepts c.cfg msg n with
  | false => exact ⟨rfl, fun _ => rfl⟩
  | true =>
    simp only [Bool.not_true, Bool.false_eq_true, if_false]
    by_cases hch : (header msg).code = PORTAL_REQ_CHALLENGE
    · simp only [if_pos hch, handleChallengeRequest, hk, h₁, h₂, if_true]
      exact ⟨trivial, fun h => absurd ⟨hacc, hch⟩ h⟩
    simp only [if_neg hch]
    by_cases hau : (header msg).code = PORTAL_REQ_AUTHEN
    · simp only [if_pos hau]
      obtain ⟨hu, ho⟩ := @handleAuthenRequest_withKey H k₁ k₂ c u am msg n h₁ h₂
      exact ⟨hu, fun _ => ho⟩
    simp only [if_neg hau]
    by_cases hlo : (header msg).code = PORTAL_REQ_LOGOUT
    · simp only [if_pos hlo, handleLogoutRequest, hk, h₁, h₂, if_true]
      exact ⟨trivial, fun _ => congrArg (fun d => [d]) (outlook_logoutAnswer H k₁ k₂)⟩
    simp only [if_neg hlo]
    exact ⟨trivial, fun _ => trivial⟩

theorem onAuthResponse_withKey {r : PortalAuthResponse} :
    ((c.withKey k₁).onAuthResponse H r u).2.1 = ((c.withKey k₂).onAuthResponse H r u).2.1 ∧
      outlooks ((c.withKey k₁).onAuthResponse H r u).2.2 =
        outlooks ((c.withKey k₂).onAuthResponse H r u).2.2 := by
  have hk (key : Bytes) : (c.withKey key).cfg.key = key := rfl
  simp only [onAuthResponse, hk]
  cases u.findUser r.userIp r.vrf with
  | none => exact ⟨rfl, rfl⟩
  | some user =>
    dsimp only
    split
    · exact ⟨rfl, rfl⟩
    split
    · exact ⟨rfl, congrArg (fun d => [d])
        (outlook_authenAnswer H k₁ k₂ (length_authenticator user.packet) _)⟩
    · exact ⟨rfl, congrArg (fun d => [d])
        (outlook_authenAnswer H k₁ k₂ (length_authenticator user.packet) _)⟩

/-- **One step under two keys** that both let the request pass: the channels do the same, and
    unless a challenge is asked for, the network sees the same. -/
theorem step_withKey {e : Event} (h₁ : passes H k₁ e = true) (h₂ : passes H k₂ e = true) :
    ∃ (c' : CPortalServerChannel) (u' : CPortalUserMgr), c'.cfg = c.cfg ∧
      (step H (c.withKey k₁, u) e).1 = (c'.withKey k₁, u') ∧
      (step H (c.withKey k₂, u) e).1 = (c'.withKey k₂, u') ∧
      (¬ e.Challenged c.cfg →
        outlooks (step H (c.withKey k₁, u) e).2 = outlooks (step H (c.withKey k₂, u) e).2) := by
  cases e with
  | rcvData am msg n =>
    obtain ⟨hu, ho⟩ := @rcvData_withKey H k₁ k₂ c u am msg n h₁ h₂
    exact ⟨c, _, rfl, rfl, by rw [hu]; rfl, ho⟩
  | onAuthResponse r =>
    obtain ⟨hu, ho⟩ := @onAuthResponse_withKey H k₁ k₂ c u r
    exact ⟨c, _, rfl, rfl, by rw [hu]; rfl, fun _ => ho⟩
  | notifyLogoutRequest userid =>
    exact ⟨{ c with reqidbase := c.reqidbase + 1 }, u, rfl, rfl, rfl,
      fun _ => outlook_notifyLogoutRequest userid⟩
  | users u' => exact ⟨c, u', rfl, rfl, rfl, fun _ => rfl⟩

/-- A challenge that is asked for tells the keys apart, if their first 16 bytes differ. -/
theorem outlooks_challenged {e : Event} (h₁ : passes H k₁ e = true) (h₂ : passes H k₂ e = true)
    (he : e.Challenged c.cfg) :
    outlooks (step H (c.withKey k₁, u) e).2 = outlooks (step H (c.withKey k₂, u) e).2 ↔
      bytesAt k₁ 0 16 = bytesAt k₂ 0 16 := by
  cases e with
  | rcvData am msg n =>
    obtain ⟨hacc, hcode⟩ := he
    have hv : (header msg).version = PORTAL_VERSION_ONE ∨
        (header msg).version = PORTAL_VERSION_TWO := by
      simp only [accepts, Bool.and_eq_true, Bool.or_eq_true, decide_eq_true_eq] at hacc
      exact hacc.1.1.1.1
    have hseen {key : Bytes} (hk : passes H key (.rcvData am msg n) = true) :
        outlooks (step H (c.withKey key, u) (.rcvData am msg n)).2 =
          [answerHead (header msg) PORTAL_ACK_CHALLENGE PORTAL_CHALLENGE_REQUEST_OK 1 ++
            challengeAttr key] := by
      have hacc' : accepts (c.withKey key).cfg msg n = true := hacc
      have hk' : checkAuthenticator H (c.withKey key).cfg.key msg = true := hk
      simp only [step, rcvData_challenge hacc' hcode, handleChallengeRequest, if_pos hk']
      change [outlook (challengeAnswer H key (header msg))] = _
      rw [outlook_challengeAnswer H (length_authenticator msg) key hv]
    rw [hseen h₁, hseen h₂, List.singleton_inj, List.append_cancel_left_eq, challengeAttr,
      challengeAttr, List.append_cancel_left_eq]
  | _ => cases he

end Step

/-! ## 3. Two runs -/

/-- What the network sees of a run, event by event. -/
def seen (H : Md5) : CPortalServerChannel × CPortalUserMgr → List Event → List (List Bytes)
  | _, [] => []
  | s, e :: es => outlooks (step H s e).2 :: seen H (step H s e).1 es

/-- **Two runs that differ in the key alone, each request passing the check under both keys, look
    the same exactly if no challenge was asked for or the keys agree in their first 16 bytes.** -/
theorem key_hidden_iff (H : Md5) (k₁ k₂ : Bytes) (c : CPortalServerChannel) (u : CPortalUserMgr)
    (es : List Event) (hpass : ∀ e ∈ es, passes H k₁ e = true ∧ passes H k₂ e = true) :
    seen H (c.withKey k₁, u) es = seen H (c.withKey k₂, u) es ↔
      ((∃ e ∈ es, e.Challenged c.cfg) → bytesAt k₁ 0 16 = bytesAt k₂ 0 16) := by
  induction es generalizing c u with
  | nil => simp [seen]
  | cons e es ih =>
    obtain ⟨h₁, h₂⟩ := hpass e (by simp)
    obtain ⟨c', u', hcfg, hs₁, hs₂, ho⟩ := step_withKey (c := c) (u := u) h₁ h₂
    have hrest := ih c' u' fun e' he' => hpass e' (List.mem_cons_of_mem _ he')
    rw [hcfg] at hrest
    simp only [seen, hs₁, hs₂, List.cons.injEq, hrest]
    constructor
    · rintro ⟨hhead, htail⟩ ⟨e', he', hc⟩
      rcases List.mem_cons.mp he' with rfl | he'
      · exact (outlooks_challenged h₁ h₂ hc).mp hhead
      · exact htail ⟨e', he', hc⟩
    · intro hkeys
      refine ⟨?_, fun ⟨e', he', hc⟩ => hkeys ⟨e', List.mem_cons_of_mem _ he', hc⟩⟩
      by_cases hc : e.Challenged c.cfg
      · exact (outlooks_challenged h₁ h₂ hc).mpr (hkeys ⟨e, by simp, hc⟩)
      · exact ho hc

/-- A request of the given version. -/
def exampleArrival (version code : UInt8) : Event :=
  .rcvData true (version :: (exampleRequest code).tail) 32

/-- A channel of the given version and key. -/
def channelOf (version : UInt8) (key : Bytes) : CPortalServerChannel :=
  { exampleChannel with cfg := { version, key } }

/-- In version 1 a logout and a refused authentication look the same under both keys. -/
theorem logout_hides_key :
    seen .utils (channelOf PORTAL_VERSION_ONE (ascii "secret"), {})
        [exampleArrival PORTAL_VERSION_ONE PORTAL_REQ_LOGOUT,
          .onAuthResponse { userIp := 0x0a000001, authResult := 1 }] =
      seen .utils (channelOf PORTAL_VERSION_ONE (ascii "hidden"), {})
        [exampleArrival PORTAL_VERSION_ONE PORTAL_REQ_LOGOUT,
          .onAuthResponse { userIp := 0x0a000001, authResult := 1 }] := by
  refine (key_hidden_iff .utils (ascii "secret") (ascii "hidden")
    (channelOf PORTAL_VERSION_ONE []) {} _ (by decide +kernel)).mpr ?_
  rintro ⟨e, he, hc⟩
  rcases List.mem_cons.mp he with rfl | he
  · exact absurd hc.2 (by decide +kernel)
  · rw [List.mem_singleton.mp he] at hc
    cases hc

/-- A digest under which one request of version 2 passes under two keys. -/
def Md5.colliding : Md5 where
  run _ := bytesAt (exampleRequest PORTAL_REQ_CHALLENGE) 16 MAX_AUTHENTICATOR_LEN
  length_run _ := length_bytesAt ..

/-- **The key goes out in the clear**, in version 1, where nothing is checked, as in version 2. -/
theorem challenge_shows_key :
    ¬ ∃ x ∈ [(PORTAL_VERSION_ONE, Md5.utils), (PORTAL_VERSION_TWO, Md5.colliding)],
      (passes x.2 (ascii "secret") (exampleArrival x.1 PORTAL_REQ_CHALLENGE) = true ∧
          passes x.2 (ascii "hidden") (exampleArrival x.1 PORTAL_REQ_CHALLENGE) = true →
        seen x.2 (channelOf x.1 (ascii "secret"), {}) [exampleArrival x.1 PORTAL_REQ_CHALLENGE] =
          seen x.2 (channelOf x.1 (ascii "hidden"), {})
            [exampleArrival x.1 PORTAL_REQ_CHALLENGE]) := by
  decide +kernel

end CPortalServerChannel

end OpenBras
