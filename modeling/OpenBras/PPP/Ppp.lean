/-
  File:      OpenBras/PPP/Ppp.lean
  Subject:   THE PROTOCOL ENGINE OF A SESSION (`CPPP`, src/PPP/CPPP.cpp): the rest of LCP's sink,
             the dispatch of received packets, the timers and the answers of the authentication
             manager, as one step function `Exec.step`.

  A run is a list of events from `Exec.start`. A timer expires only while it is
  registered. A response comes with the number of the request it answers; the code does not
  see that number, and a number not issued stands for an answer to none of our requests.
-/
import OpenBras.PPP.Authen

namespace OpenBras

open Wire

namespace Exec

/-! ## 1. The rest of LCP's sink -/

/-- The history of an LCP Up. -/
def markUp (s : Exec) : Exec :=
  { s with hist := { s.hist with upMark := s.hist.requests.length } }

/-- The first half of `CPPP::OnLCPUp`: the configured server learns that the link is up. -/
def authLowerUp (s : Exec) : Exec :=
  if s.lcp.authType = PPP_CHAP then chapLowerUp s
  else if s.lcp.authType = PPP_PAP then papLowerUp s
  else s

/-- The second half: the peer must have agreed to authenticate itself. -/
def authenticatePeer (s : Exec) : Exec :=
  if !(s.lcp.go.negUpap || s.lcp.go.negChap) then lcpCloseFsm "peer refused to authenticate" s
  else
    let s := newPhase .authenticate s
    if s.lcp.go.negChap then chapAuthPeer s.hostName s else s

/-- `CPPP::OnLCPUp`. -/
def onLCPUp (s : Exec) : Exec := authenticatePeer (authLowerUp (markUp s))

/-- What `CPPPLCP::Up` takes over from the negotiation. -/
def settle (s : Exec) : Exec :=
  let l := s.lcp
  { s with
    lcp := { l with
      go := l.go.settled, ho := l.ho.settled,
      peerMru := if l.ho.negMru then l.ho.mru else l.peerMru } }

/-- `CPPPLCP::Up`. -/
def lcpUp (s : Exec) : Exec := onLCPUp (echoLowerUp (settle s))

/-- `CPPPLCP::Nakci`: four Naks in a row that show our own magic number close the link. -/
def lcpNakci (p : Bytes) (len : Nat) (treatAsReject : Bool) (s : Exec) : Int × Exec :=
  let (scan, draws) := LcpOptions.nakScan s.lcp.go s.lcp.wo s.rand s.draws p len treatAsReject
  let s := { s with draws := draws }
  match scan with
  | none => (0, s)
  | some (tryop, loopedBack) =>
    if s.lcp.fsm.state = .opened then (1, s)
    else
      let tryop := { tryop with numloops := if loopedBack then tryop.numloops + 1 else 0 }
      let s :=
        if loopedBack && decide (tryop.numloops ≥ 4) then lcpCloseFsm "Loopback detected" s else s
      (1, { s with lcp := { s.lcp with go := tryop } })

def lcpRejci (p : Bytes) (len : Nat) (s : Exec) : Int × Exec :=
  match LcpOptions.rejScan s.lcp.go p len with
  | none => (0, s)
  | some tryop =>
    (1, if s.lcp.fsm.state = .opened then s else { s with lcp := { s.lcp with go := tryop } })

def lcpReqci (inp : Bytes) (len : Nat) (rejectIfDisagree : Bool) (s : Exec) :
    (Int × Bytes) × Exec :=
  let a := LcpOptions.reqciRun s.lcp.ao s.lcp.go s.rand rejectIfDisagree s.draws inp len
  ((a.rc.code, LcpOptions.reqciOut a inp len),
    { s with draws := a.draws, lcp := { s.lcp with ho := a.ho } })

/-- `CPPPLCP::ExtCode`. A Protocol-Reject is read and otherwise ignored. -/
def lcpExtCode (code id : UInt8) (inp : Bytes) (len : Nat) (s : Exec) : Bool × Exec :=
  if code = PROTREJ then (true, s)
  else if code = ECHOREQ then
    (true,
      if s.lcp.fsm.state = .opened then
        CPPPFsm.sendData lcpFsm lcpCi ECHOREP id (putLong s.lcp.magicnumber ++ inp.drop 4) len s
      else s)
  else if code = ECHOREP then
    (true,
      if len < 4 ∨ getLong inp 0 = s.lcp.magicnumber then s
      else { s with lcp := { s.lcp with echosPending := 0 } })
  else (code == DISCREQ || code == IDENTIF || code == TIMEREM, s)

def lcpSink : IFsmSink Exec where
  toCloseSink := lcpClose
  ackci p len s := (LcpOptions.ackci s.lcp.go p len, s)
  nakci := lcpNakci
  rejci := lcpRejci
  reqci := lcpReqci
  up := lcpUp
  retransmit s := s
  extCode := lcpExtCode

/-! ## 2. Starting -/

/-- `CPPPLCP::Init`. -/
def lcpInit (s : Exec) : Exec :=
  { s with
    lcp := { s.lcp with
      fsm := CPPPFsm.init s.lcp.fsm,
      wo := LcpOptions.want s.lcp.authType, ao := LcpOptions.allow s.lcp.authType } }

/-- `CPPPLCP::Open`. -/
def lcpOpen (s : Exec) : Exec :=
  CPPPFsm.fsmOpen lcpFsm lcpLayer (lcpFsm.upd (fun f => { f with
    flags := { f.flags with passive := s.lcp.wo.passive, silent := s.lcp.wo.silent } }) s)

/-- `CPPP::Init`. -/
def pppInit (s : Exec) : Exec :=
  let s := lcpInit s
  let s :=
    if s.lcp.authType = PPP_PAP then { s with pap := { s.pap with reqtimeout := UPAP_DEFREQTIME } }
    else s
  ipcpInit s

/-- What `CreateSession` and the environment fix for a session. -/
structure Config where
  authType : UInt16
  hostName : Bytes := ascii "WFNEX"
  sessionid : UInt16
  clientEth : Bytes := []
  rand : Nat → UInt32
  intfIp : UInt32
  intfMac : Bytes := []

/-- A configuration for sample runs: the random numbers count up. -/
def Config.sample (authType : UInt16) : Config where
  authType := authType
  sessionid := 1
  clientEth := [2, 0, 0, 0, 0, 1]
  rand n := n.toUInt32
  intfIp := 0x0100007f
  intfMac := [2, 0, 0, 0, 0, 9]

/-- A session as it is constructed, with its client set. -/
def create (c : Config) : Exec :=
  { lcp := { authType := c.authType }, hostName := c.hostName, sessionid := c.sessionid,
    clientEth := c.clientEth, rand := c.rand, intfIp := c.intfIp, intfMac := c.intfMac }

/-- A session after `CSession::Init`. -/
def start (c : Config) : Exec := lcpOpen (pppInit (create c))

/-! ## 3. Events -/

/-- The protocol of a packet, the rest behind the protocol field and its length. -/
def protocolOf (packet : Bytes) (len : Nat) : UInt16 × Bytes × Nat :=
  if byteAt packet 0 = PPP_ALLSTATIONS ∧ byteAt packet 1 = PPP_UI then
    (getShort packet 2, packet.drop 4, len - PPP_HDRLEN)
  else (getShort packet 0, packet.drop 2, len - 2)

/-- The protocols allowed before the peer is authenticated. -/
def beforeNetwork (protocol : UInt16) : Bool :=
  protocol == PPP_LCP || protocol == PPP_LQR || protocol == PPP_PAP || protocol == PPP_CHAP ||
    protocol == PPP_EAP

/-- The dispatch of `CPPP::Input`. -/
def dispatch (protocol : UInt16) (p : Bytes) (len : Nat) (s : Exec) : Exec :=
  if protocol = PPP_LCP then CPPPFsm.input lcpFsm lcpSink p len s
  else if protocol = PPP_IPCP then ipcpInput p len s
  else if protocol = PPP_PAP then papInput p len s
  else if protocol = PPP_CHAP then chapInput p len s
  else if protocol = PPP_IP then s
  else sendProtRej (putShort protocol ++ p) (len + 2) s

/-- `CPPP::Input`. -/
def input (packet : Bytes) (len : Nat) (s : Exec) : Exec :=
  if len < PPP_HDRLEN then s
  else
    let (protocol, p, n) := protocolOf packet len
    if protocol ≠ PPP_LCP ∧ s.lcp.fsm.state ≠ .opened then s
    else if s.phase.toNat ≤ PPPPhase.authenticate.toNat ∧ !beforeNetwork protocol then s
    else dispatch protocol p n s

/-- `CPPP::OnAuthResponse`: by the configured type. -/
def onAuthResponse (result : UInt32) (reason : Bytes) (s : Exec) : Exec :=
  if s.lcp.authType = PPP_CHAP then chapResponseAuthenResult result reason s
  else if s.lcp.authType = PPP_PAP then papResponseAuthenResult result reason s
  else s

/-- The answer becomes a positive result: any accepting one under PAP; under CHAP the first,
    while a challenge is outstanding and nothing has failed. -/
def delivers (result : UInt32) (s : Exec) : Bool :=
  result == 0 &&
    if s.lcp.authType = PPP_CHAP then
      s.chap.flags.challengeValid && !s.chap.flags.authFailed && !s.chap.flags.authDone
    else s.lcp.authType == PPP_PAP

/-- The four setters `CPPPOE::HandleAuthResponse` calls before it looks at the result. -/
def setAddresses (r : AuthResponse) (s : Exec) : Exec :=
  { s with
    ipcp := { s.ipcp with
      wo := { s.ipcp.wo with ouraddr := s.intfIp, hisaddr := swapLong r.subscriberIP },
      ao := { s.ipcp.ao with
        dnsaddr0 := swapLong r.primaryDNS, dnsaddr1 := swapLong r.secondaryDNS } } }

/-- The history of a response that answers request `k`. -/
def noteResponse (k : Nat) (r : AuthResponse) (s : Exec) : Exec :=
  { s with
    hist := { s.hist with
      answering := some r,
      answered := k :: s.hist.answered,
      accepted :=
        if r.authResult = 0 ∧ k < s.hist.requests.length then k :: s.hist.accepted
        else s.hist.accepted } }

/-- The session with the response noted and its addresses stored. -/
def addressed (k : Nat) (r : AuthResponse) (s : Exec) : Exec := setAddresses r (noteResponse k r s)

/-- `CPPPOE::HandleAuthResponse`, once the session is found. -/
def response (k : Nat) (r : AuthResponse) (s : Exec) : Exec :=
  onAuthResponse r.authResult r.authResultDesc (addressed k r s)

/-- The timers of the protocols. -/
inductive Timer where
  | lcp | echo | ipcp | pap | chap
  deriving DecidableEq, Repr

/-- A timer expires, if it is registered. -/
def expire (s : Exec) : Timer → Exec
  | .lcp => if s.lcp.fsm.timer then CPPPFsm.timeout lcpFsm lcpSink s else s
  | .echo => if s.lcp.echoTimer then sendEchoRequest s else s
  | .ipcp => if s.ipcp.fsm.timer then ipcpTimeout s else s
  | .pap => if s.pap.timer then papHandleTimeout s else s
  | .chap => if s.chap.timer then chapHandleTimeout s else s

inductive Event where
  | input (packet : Bytes) (len : Nat)
  | timer (t : Timer)
  | response (k : Nat) (r : AuthResponse)
  deriving DecidableEq, Repr

/-- A control packet as the peer sends it. -/
def Event.control (protocol : UInt16) (code id : UInt8) (body : Bytes) : Event :=
  .input ([PPP_ALLSTATIONS, PPP_UI] ++ putShort protocol ++ [code, id] ++
    putShort (HEADERLEN + body.length).toUInt16 ++ body) (PPP_HDRLEN + HEADERLEN + body.length)

/-- LCP comes up with PAP and the peer names itself `a`: the beginning of sample runs. -/
def Event.papRequested : List Event :=
  [.control PPP_LCP CONFACK 1 [1, 4, 5, 212, 3, 4, 192, 35, 5, 6, 0, 0, 0, 0],
   .control PPP_LCP CONFREQ 1 [], .control PPP_PAP UPAP_AUTHREQ 1 [1, 97, 1, 98]]

/-- The acceptance of the first request, with the address 10.0.0.1. -/
def Event.accept : Event :=
  .response 0 { session := 1, mac := [2, 0, 0, 0, 0, 1], authResult := 0,
                subscriberIP := 0x0a000001 }

/-- IPCP comes up with our address 127.0.0.1 and the peer's 10.0.0.1. -/
def Event.ipcpOpened : List Event :=
  [.control PPP_IPCP CONFACK 1 [3, 6, 127, 0, 0, 1],
   .control PPP_IPCP CONFREQ 1 [3, 6, 10, 0, 0, 1]]

/-- One event. -/
def step (s : Exec) : Event → Exec
  | .input packet len => input packet len s
  | .timer t => expire s t
  | .response k r => response k r s

end Exec

end OpenBras
