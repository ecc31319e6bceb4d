/-
  File:      OpenBras/PPP/Authen.lean
  Subject:   THE AUTHENTICATION SERVERS: PAP (src/PPP/CPapProtocol.cpp) and CHAP
             (src/PPP/CChapProtocol.cpp), and what `CPPP` does with their results
             (`CPPP::OnAuthenResult`).

  Neither server checks a password. A request of the peer is passed to the authentication
  manager (`sendAuthRequest2AM`), which answers later or never; the answer reaches
  `ResponseAuthenResult` of the configured server (`papResponseAuthenResult`,
  `chapResponseAuthenResult`), without saying which request it answers.
-/
import OpenBras.PPP.Lcp

namespace OpenBras

open Wire

def UPAP_AUTHREQ : UInt8 := 1
def UPAP_AUTHACK : UInt8 := 2
def UPAP_AUTHNAK : UInt8 := 3
def UPAP_DEFREQTIME : Nat := 30

def CHAP_HDRLEN : Nat := 4
def CHAP_CHALLENGE : UInt8 := 1
def CHAP_RESPONSE : UInt8 := 2
def CHAP_SUCCESS : UInt8 := 3
def CHAP_FAILURE : UInt8 := 4

namespace Exec

/-! ## 1. Requests and results -/

/-- `CPPP::SendAuthRequest2AM`, through the session, which adds its id and the client's
    address. -/
def sendAuthRequest2AM (server : UInt16) (authReq : AuthRequest) (s : Exec) : Exec :=
  { s with
    hist := { s.hist with
      requests := s.hist.requests ++
        [{ server := server, request := { authReq with session := s.sessionid, mac := s.clientEth } }] } }

def noteResult (ok : Bool) (protocol : UInt16) (s : Exec) : Exec :=
  { s with
    hist := { s.hist with
      results := { ok := ok, protocol := protocol, accepted := s.hist.accepted,
                   challenge := s.chap.challenge } :: s.hist.results } }

def authProtocolName (protocol : UInt16) : String :=
  if protocol = PPP_PAP then "Pap " else if protocol = PPP_CHAP then "Chap "
  else "Unkown Protocol "

/-- `OnAuthenResult(1, ..)`. -/
def authenSuccess (protocol : UInt16) (s : Exec) : Exec :=
  let s := noteResult true protocol s
  ipcpOpen (newPhase .network
    { s with hist := { s.hist with authorised := s.hist.answering } })

/-- `OnAuthenResult(0, ..)`. -/
def authenFailure (protocol : UInt16) (s : Exec) : Exec :=
  lcpCloseFsm (authProtocolName protocol ++ "authentication failed")
    (newPhase .terminate (noteResult false protocol s))

/-! ## 2. PAP -/

/-- User name and password of an Authenticate-Request with a body of `len` bytes. -/
def papCredentials (inp : Bytes) (len : Nat) : Option (Bytes × Bytes) :=
  let ruserlen := (byteAt inp 0).toNat
  let rpasswdlen := (byteAt inp (1 + ruserlen)).toNat
  if len < 1 then none
  else if len < 1 + ruserlen + 1 then none
  else if len - (1 + ruserlen + 1) < rpasswdlen then none
  else some ((inp.drop 1).take ruserlen, (inp.drop (2 + ruserlen)).take rpasswdlen)

/-- The end of `upap_rauthreq`: the name is stored and the request goes out. -/
def papRequest (id : UInt8) (ruser rpasswd : Bytes) (s : Exec) : Exec :=
  sendAuthRequest2AM PPP_PAP
    { authtype := PPP_PAP.toUInt8, username := nameField ruser,
      userpasswd := strncpy (AUTHMGR_MAX_PASSWD_SIZE - 1) rpasswd,
      challenge := List.replicate AUTHMGR_MAX_CHALLENGE_SIZE 0 }
    { s with pap := { s.pap with username := ruser, usrReqId := id } }

/-- `upap_rauthreq`. -/
def papRauthreq (id : UInt8) (inp : Bytes) (len : Nat) (s : Exec) : Exec :=
  match papCredentials inp len with
  | none => s
  | some (ruser, rpasswd) => papRequest id ruser rpasswd s

def papInput (pkt : Bytes) (pktlen : Nat) (s : Exec) : Exec :=
  match CPPPFsm.header pkt pktlen with
  | none => s
  | some (code, id, len) =>
    if code = UPAP_AUTHREQ then papRauthreq id (pkt.drop HEADERLEN) len s else s

def papLowerUp (s : Exec) : Exec :=
  if s.pap.reqtimeout > 0 then { s with pap := { s.pap with timer := true } } else s

def papCancelTimer (s : Exec) : Exec := { s with pap := { s.pap with timer := false } }

def papHandleTimeout (s : Exec) : Exec := papCancelTimer (authenFailure PPP_PAP s)

def papSresp (code id : UInt8) (msg : Bytes) (s : Exec) : Exec :=
  onPPPOutput ([PPP_ALLSTATIONS, PPP_UI] ++ putShort PPP_PAP ++ [code, id] ++
    putShort (HEADERLEN + 1 + msg.length).toUInt16 ++ [UInt8.ofNat msg.length] ++ msg) s

def papResult (ok : Bool) (s : Exec) : Exec :=
  if ok then authenSuccess PPP_PAP s else authenFailure PPP_PAP s

def papStopTimer (s : Exec) : Exec := if s.pap.reqtimeout > 0 then papCancelTimer s else s

/-- `CPapProtocolSvr::ResponseAuthenResult`: any answer is final. -/
def papResponseAuthenResult (result : UInt32) (reason : Bytes) (s : Exec) : Exec :=
  let ok := result == 0
  papStopTimer (papResult ok
    (papSresp (if ok then UPAP_AUTHACK else UPAP_AUTHNAK) s.pap.usrReqId (reason.take 255) s))

/-! ## 3. CHAP -/

def setChapFlags (g : ChapFlags → ChapFlags) (s : Exec) : Exec :=
  { s with chap := { s.chap with flags := g s.chap.flags } }

/-- The challenge packet: header, identifier, 16 random bytes and our name. -/
def challengePacket (id : UInt8) (value name : Bytes) : Bytes :=
  [PPP_ALLSTATIONS, PPP_UI] ++ putShort PPP_CHAP ++ [CHAP_CHALLENGE, id] ++
    putShort (CHAP_HDRLEN + 1 + value.length + name.length).toUInt16 ++
    [UInt8.ofNat value.length] ++ value ++ name

/-- `chap_generate_challenge`. -/
def chapGenerateChallenge (s : Exec) : Exec :=
  let value := (List.range AUTHMGR_MAX_CHALLENGE_SIZE).map fun i =>
    (s.rand (s.draws + i) >>> 24).toUInt8
  { s with
    draws := s.draws + AUTHMGR_MAX_CHALLENGE_SIZE,
    chap := { s.chap with
      id := s.chap.id + 1, challenge := challengePacket (s.chap.id + 1) value s.chap.name } }

/-- The end of `handle_timeout`: the challenge goes out. -/
def chapSendChallenge (s : Exec) : Exec :=
  let s := onPPPOutput s.chap.challenge s
  setChapFlags (fun f => { f with timeoutPending := true })
    { s with chap := { s.chap with challengeXmits := s.chap.challengeXmits + 1 } }

/-- `CChapProtocolSvr::handle_timeout`: a first or a repeated challenge, or no more. -/
def chapHandleTimeout (s : Exec) : Exec :=
  let s := setChapFlags (fun f => { f with timeoutPending := false }) s
  if !s.chap.flags.challengeValid then
    let s := chapGenerateChallenge { s with chap := { s.chap with challengeXmits := 0 } }
    chapSendChallenge (setChapFlags (fun f => { f with challengeValid := true }) s)
  else if s.chap.challengeXmits ≥ s.chap.maxTransmits then
    authenFailure PPP_CHAP (setChapFlags
      (fun f => { f with challengeValid := false, authDone := true, authFailed := true }) s)
  else chapSendChallenge s

def chapLowerUp (s : Exec) : Exec :=
  let s := setChapFlags (fun f => { f with lowerup := true }) s
  if s.chap.flags.authStarted then chapHandleTimeout s else s

/-- `chap_auth_peer`: start with a random identifier. -/
def chapAuthPeer (ourName : Bytes) (s : Exec) : Exec :=
  if s.chap.flags.authStarted then s
  else
    let s := setChapFlags (fun f => { f with authStarted := true })
      { s with
        draws := s.draws + 1,
        chap := { s.chap with
          name := strncpy 255 ourName,
          id := UInt8.ofNat ((s.rand s.draws).toNat * 256 / 0x7fffffff) } }
    if s.chap.flags.lowerup then chapHandleTimeout s else s

/-- The identifier of a challenge packet. -/
def challengeId (challenge : Bytes) : UInt8 := byteAt challenge (PPP_HDRLEN + 1)

/-- The challenge value a request carries. -/
def challengeValue (challenge : Bytes) : Bytes :=
  (challenge.drop (PPP_HDRLEN + CHAP_HDRLEN + 1)).take AUTHMGR_MAX_CHALLENGE_SIZE

/-- Value and name of a Response with a body of `len` bytes. -/
def chapCredentials (pkt : Bytes) (len : Nat) : Option (Bytes × Bytes) :=
  let responseLen := (byteAt pkt 0).toNat
  if len < 2 then none
  else if len < responseLen + 1 then none
  else some ((pkt.drop 1).take responseLen, (pkt.drop (1 + responseLen)).take (len - (responseLen + 1)))

/-- `chap_handle_response`: the response to the challenge in force. -/
def chapHandleResponse (id : UInt8) (pkt : Bytes) (len : Nat) (s : Exec) : Exec :=
  if !s.chap.flags.lowerup then s
  else if id ≠ challengeId s.chap.challenge then s
  else if !s.chap.flags.challengeValid then s
  else
    match chapCredentials pkt len with
    | none => s
    | some (response, name) =>
      let s :=
        if s.chap.flags.timeoutPending then
          setChapFlags (fun f => { f with timeoutPending := false })
            { s with chap := { s.chap with timer := false } }
        else s
      let s := { s with chap := { s.chap with username := name } }
      if (byteAt s.chap.challenge (PPP_HDRLEN + CHAP_HDRLEN)).toNat ≠ AUTHMGR_MAX_CHALLENGE_SIZE
      then s
      else
        sendAuthRequest2AM PPP_CHAP
          { authtype := PPP_CHAP.toUInt8, chapid := id, username := nameField name,
            userpasswd := response.take AUTHMGR_MAX_PASSWD_SIZE,
            challenge := challengeValue s.chap.challenge } s

def chapInput (packet : Bytes) (size : Nat) (s : Exec) : Exec :=
  match CPPPFsm.header packet size with
  | none => s
  | some (code, id, len) =>
    if code = CHAP_RESPONSE then chapHandleResponse id (packet.drop CHAP_HDRLEN) len s else s

def chapSresp (code id : UInt8) (msg : Bytes) (s : Exec) : Exec :=
  onPPPOutput ([PPP_ALLSTATIONS, PPP_UI] ++ putShort PPP_CHAP ++ [code, id] ++
    putShort (CHAP_HDRLEN + msg.length).toUInt16 ++ msg) s

/-- The reply: a failure once anything has failed. -/
def chapReply (reason : Bytes) (s : Exec) : Exec :=
  chapSresp (if s.chap.flags.authFailed then CHAP_FAILURE else CHAP_SUCCESS)
    (challengeId s.chap.challenge) (reason.take (PPP_MRU - CHAP_HDRLEN)) s

/-- The periodic new challenge; `m_rechallenge_time` is 0. -/
def chapRechallenge (s : Exec) : Exec :=
  if s.chap.rechallengeTime ≠ 0 then
    setChapFlags (fun f => { f with timeoutPending := true })
      { s with chap := { s.chap with timer := true } }
  else s

/-- The result for the challenge that was outstanding; a positive one counts once. -/
def chapResult (s : Exec) : Exec :=
  if s.chap.flags.authFailed then authenFailure PPP_CHAP s
  else chapRechallenge (if s.chap.flags.authDone then s else authenSuccess PPP_CHAP s)

/-- A negative result is noted. -/
def chapFail (result : UInt32) (s : Exec) : Exec :=
  if result ≠ 0 then setChapFlags (fun f => { f with authFailed := true }) s else s

/-- `CChapProtocolSvr::ResponseAuthenResult`. The reply goes out in any case; the result counts
    while a challenge is outstanding. -/
def chapResponseAuthenResult (result : UInt32) (reason : Bytes) (s : Exec) : Exec :=
  let s := chapReply reason (chapFail result s)
  if s.chap.flags.challengeValid then
    setChapFlags (fun f => { f with authDone := true })
      (chapResult (setChapFlags (fun f => { f with challengeValid := false }) s))
  else s

/-! ## 4. What a packet makes the servers do -/

/-- Identifier, name and password of a PAP packet that is an Authenticate-Request. -/
def papRead (pkt : Bytes) (pktlen : Nat) : Option (UInt8 × Bytes × Bytes) :=
  match CPPPFsm.header pkt pktlen with
  | none => none
  | some (code, id, len) =>
    if code = UPAP_AUTHREQ then
      (papCredentials (pkt.drop HEADERLEN) len).map fun c => (id, c.1, c.2)
    else none

/-- **A PAP packet stores the name and issues a request, or does nothing.** -/
theorem papInput_eq (pkt : Bytes) (pktlen : Nat) (s : Exec) :
    papInput pkt pktlen s = match papRead pkt pktlen with
      | none => s
      | some (id, ruser, rpasswd) => papRequest id ruser rpasswd s := by
  unfold papInput papRead papRauthreq
  cases CPPPFsm.header pkt pktlen with
  | none => rfl
  | some h =>
    obtain ⟨code, id, len⟩ := h
    dsimp only
    split
    · cases papCredentials (pkt.drop HEADERLEN) len <;> rfl
    · rfl

/-- Value and name of a CHAP packet that answers the challenge in force. -/
def chapRead (pkt : Bytes) (size : Nat) (s : Exec) : Option (Bytes × Bytes) :=
  match CPPPFsm.header pkt size with
  | none => none
  | some (code, id, len) =>
    if code = CHAP_RESPONSE ∧ s.chap.flags.lowerup ∧ id = challengeId s.chap.challenge ∧
        s.chap.flags.challengeValid then
      chapCredentials (pkt.drop CHAP_HDRLEN) len
    else none

/-- The CHAP server once it has stored a name. -/
def chapNamed (name : Bytes) (c : CChapProtocolSvr) : CChapProtocolSvr :=
  { c with
    username := name,
    timer := if c.flags.timeoutPending then false else c.timer,
    flags := { c.flags with timeoutPending := false } }

/-- The request CHAP issues. -/
def chapRequest (response name : Bytes) (s : Exec) : Exec :=
  sendAuthRequest2AM PPP_CHAP
    { authtype := PPP_CHAP.toUInt8, chapid := challengeId s.chap.challenge,
      username := nameField name, userpasswd := response.take AUTHMGR_MAX_PASSWD_SIZE,
      challenge := challengeValue s.chap.challenge }
    { s with chap := chapNamed name s.chap }

/-- **A CHAP packet stores the name and issues a request for the challenge in force**, unless
    that challenge has a length of its own; or it does nothing. -/
theorem chapInput_eq (pkt : Bytes) (size : Nat) (s : Exec) :
    chapInput pkt size s = match chapRead pkt size s with
      | none => s
      | some (response, name) =>
        if (byteAt s.chap.challenge (PPP_HDRLEN + CHAP_HDRLEN)).toNat ≠
          AUTHMGR_MAX_CHALLENGE_SIZE then { s with chap := chapNamed name s.chap }
        else chapRequest response name s := by
  unfold chapInput chapRead chapHandleResponse
  cases CPPPFsm.header pkt size with
  | none => rfl
  | some h =>
    obtain ⟨code, id, len⟩ := h
    dsimp only
    by_cases hcode : code = CHAP_RESPONSE
    · rw [if_pos hcode]
      by_cases hl : s.chap.flags.lowerup
      · by_cases hid : id = challengeId s.chap.challenge
        · by_cases hv : s.chap.flags.challengeValid
          · subst hid
            simp only [hl, hv, hcode, Bool.not_true, Bool.false_eq_true, if_false, if_true,
              ne_eq, not_true_eq_false, and_self]
            cases chapCredentials (pkt.drop CHAP_HDRLEN) len with
            | none => rfl
            | some c =>
              unfold chapRequest chapNamed
              cases hp : s.chap.flags.timeoutPending with
              | true => rfl
              | false =>
                have hf : ({ s.chap.flags with timeoutPending := false } : ChapFlags) =
                    s.chap.flags := by
                  rw [← hp]
                simp only [Bool.false_eq_true, if_false, hf]
          · simp [hl, hid, hv]
        · simp [hl, hid]
      · simp [hl]
    · simp [hcode]

end Exec

end OpenBras
