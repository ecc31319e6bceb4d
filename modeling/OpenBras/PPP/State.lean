/-
  File:      OpenBras/PPP/State.lean
  Subject:   THE STATE OF ONE SESSION: the protocol engine `CPPP` (src/PPP/CPPP.cpp) with LCP, IPCP
             and the two authentication servers, inside its PPPoE session `CSession`
             (src/PPPOE/CSession.cpp).

  `Exec` is a session in its environment. What the environment decides is an oracle with a
  counter (the random numbers) or comes with an event. What the session tells the environment is
  written down in `History`, one log for each kind of message, newest first; the code never reads
  it.

  A timer is a Boolean: registered with the reactor or not.
-/
import OpenBras.PPP.IpcpOptions
import OpenBras.PPP.LcpRequest

namespace OpenBras

open Wire

def PPP_IP : UInt16 := 0x0021

/-! ## 1. Messages to and from the managers (src/include/aim_ex.h) -/

structure AuthRequest where
  authtype : UInt8
  chapid : UInt8 := 0
  session : UInt16 := 0
  mac : Bytes := []
  username : Bytes
  userpasswd : Bytes
  challenge : Bytes := []
  deriving DecidableEq, Repr

structure AuthResponse where
  session : UInt16
  mac : Bytes
  /-- 0 accepts -/
  authResult : UInt32
  authResultDesc : Bytes := []
  subscriberIP : UInt32 := 0
  primaryDNS : UInt32 := 0
  secondaryDNS : UInt32 := 0
  deriving DecidableEq, Repr

/-- The subscriber reported to the session manager. -/
structure SessionUserEx where
  session : UInt16
  mac : Bytes
  authType : UInt8
  userName : Bytes
  userIp : UInt32
  primaryDns : UInt32
  secondaryDns : UInt32
  deriving DecidableEq, Repr

def AUTHMGR_MAX_USERNAME_SIZE : Nat := 32
def AUTHMGR_MAX_PASSWD_SIZE : Nat := 32
def AUTHMGR_MAX_CHALLENGE_SIZE : Nat := 16

/-- `strncpy` of at most `n` bytes into a zeroed field: it ends at the first zero byte. -/
def strncpy (n : Nat) (b : Bytes) : Bytes := (b.take n).takeWhile (· ≠ 0)

/-- A name as the request to the authentication manager and the subscriber record carry it. -/
def nameField (name : Bytes) : Bytes := strncpy (AUTHMGR_MAX_USERNAME_SIZE - 1) name

/-! ## 2. The protocols -/

structure CPPPLCP where
  fsm : CPPPFsm := { protocol := PPP_LCP }
  echosPending : Nat := 0
  echoNumber : Nat := 0
  echoTimerRunning : Bool := false
  /-- the echo timer is registered -/
  echoTimer : Bool := false
  magicnumber : UInt32 := 0
  echoFails : Nat := 5
  echoInterval : Nat := 20
  wo : LcpOptions := {}
  go : LcpOptions := {}
  ao : LcpOptions := {}
  ho : LcpOptions := {}
  peerMru : UInt16 := 1500
  authType : UInt16 := PPP_PAP
  deriving DecidableEq, Repr

/-- `EchoLowerUp` starts the count of the echo requests over. -/
def CPPPLCP.echoReset (l : CPPPLCP) : CPPPLCP :=
  { l with echosPending := 0, echoNumber := 0, echoTimerRunning := false }

structure CPPPIPCP where
  fsm : CPPPFsm := { protocol := PPP_IPCP }
  usepeerdns : Bool := false
  askForLocal : Bool := true
  noremoteip : Bool := false
  isOpen : Bool := false
  wo : IpcpOptions := {}
  go : IpcpOptions := {}
  ao : IpcpOptions := {}
  ho : IpcpOptions := {}
  deriving DecidableEq, Repr

structure CPapProtocolSvr where
  reqtimeout : Nat := 0
  username : Bytes := []
  usrReqId : UInt8 := 0
  timer : Bool := false
  deriving DecidableEq, Repr

structure ChapFlags where
  lowerup : Bool := false
  authStarted : Bool := false
  authDone : Bool := false
  authFailed : Bool := false
  timeoutPending : Bool := false
  challengeValid : Bool := false
  deriving DecidableEq, Repr

structure CChapProtocolSvr where
  maxTransmits : Nat := 10
  rechallengeTime : Nat := 0
  flags : ChapFlags := {}
  id : UInt8 := 0
  name : Bytes := []
  challengeXmits : Nat := 0
  /-- the challenge packet; an array of zeroes before the first one -/
  challenge : Bytes := []
  username : Bytes := []
  timer : Bool := false
  deriving DecidableEq, Repr

inductive PPPPhase where
  | dead | init | establish | authenticate | network | terminate
  deriving DecidableEq, Repr

def PPPPhase.toNat : PPPPhase → Nat
  | .dead => 0
  | .init => 1
  | .establish => 2
  | .authenticate => 3
  | .network => 4
  | .terminate => 5

structure CPPP where
  lcp : CPPPLCP := {}
  ipcp : CPPPIPCP := {}
  pap : CPapProtocolSvr := {}
  chap : CChapProtocolSvr := {}
  phase : PPPPhase := .dead
  hostName : Bytes := ascii "WFNEX"
  deriving DecidableEq, Repr

structure CSession extends CPPP where
  sessionid : UInt16
  clientEth : Bytes := []
  sessionToBeDeleted : Bool := false
  /-- the one-off removal timer is registered -/
  oneOffTimer : Bool := false
  deriving DecidableEq, Repr

/-! ## 3. What the session told its environment -/

/-- A request handed to the authentication manager, with the server that issued it
    (`PPP_PAP` or `PPP_CHAP`; both write 0x23 into the one-byte `authtype`). -/
structure Issued where
  server : UInt16
  request : AuthRequest
  deriving DecidableEq, Repr

/-- A delivery of `OnAuthenResult`, with the requests accepted by then and the challenge packet
    in force. -/
structure ResultNote where
  ok : Bool
  protocol : UInt16
  accepted : List Nat
  challenge : Bytes
  deriving DecidableEq, Repr

/-- A subscriber handed to the session manager, with the response that authorised the
    session. -/
structure AddNote where
  user : SessionUserEx
  authorised : Option AuthResponse
  deriving DecidableEq, Repr

structure History where
  /-- packets sent to the client, newest first -/
  output : List Bytes := []
  /-- reasons of the PADTs sent, newest first -/
  padts : List String := []
  /-- the requests handed to the authentication manager, in order: request `k` is entry `k` -/
  requests : List Issued := []
  /-- how many there were at the latest LCP Up -/
  upMark : Nat := 0
  /-- the requests answered by now -/
  answered : List Nat := []
  /-- the requests the authentication manager accepted -/
  accepted : List Nat := []
  results : List ResultNote := []
  /-- for every `IPCP Open` and every packet passed to IPCP: was the peer authenticated? -/
  ncp : List Bool := []
  /-- the response being handled, or the last one handled -/
  answering : Option AuthResponse := none
  /-- the response that delivered the last positive result -/
  authorised : Option AuthResponse := none
  /-- subscribers added (`some`) and deleted (`none`), newest first -/
  subscribers : List (Option AddNote) := []
  /-- the peer's address in the last IPCP request we acknowledged: that of its option, or the
      one assigned to the peer if it had none -/
  acked : Option UInt32 := none
  /-- LCP has delivered `Finished` -/
  finished : Bool := false
  /-- the session has left the table -/
  removed : Bool := false
  deriving DecidableEq, Repr

structure Exec extends CSession where
  rand : Nat → UInt32
  draws : Nat := 0
  /-- the address of our interface, in network byte order -/
  intfIp : UInt32
  intfMac : Bytes := []
  hist : History := {}

namespace Exec

/-- The peer is authenticated in the current LCP incarnation: LCP is open and a request issued
    since its latest Up was accepted. -/
def authenticated (s : Exec) : Bool :=
  s.lcp.fsm.state == .opened && s.hist.accepted.any fun k => decide (s.hist.upMark ≤ k)

/-- The place of LCP's automaton. -/
def lcpFsm : Lens Exec CPPPFsm where
  get s := s.lcp.fsm
  set f s := { s with lcp := { s.lcp with fsm := f } }
  get_set _ _ := rfl
  set_set _ _ _ := rfl
  set_get _ := rfl

/-- The place of IPCP's automaton. -/
def ipcpFsm : Lens Exec CPPPFsm where
  get s := s.ipcp.fsm
  set f s := { s with ipcp := { s.ipcp with fsm := f } }
  get_set _ _ := rfl
  set_set _ _ _ := rfl
  set_get _ := rfl

end Exec

end OpenBras
