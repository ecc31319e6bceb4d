/-
  File:      OpenBras/PPP/Lcp.lean
  Subject:   LCP INSIDE A SESSION, up to closing it (`CPPPLCP`, src/PPP/CPPPLCP.cpp): the first
             three stages of the sink of its automaton, and what `CPPP` does when LCP goes down
             or has terminated (src/PPP/CPPP.cpp).

  `Down` takes IPCP down and asks the session for a PADT; `Finished` calls `LowerDown`, which
  may start LCP anew. The remaining callbacks authenticate the peer and stand behind the
  authentication servers, in `Ppp.lean`.
-/
import OpenBras.PPP.Ipcp

namespace OpenBras

open Wire

def PROTREJ : UInt8 := 8
def ECHOREQ : UInt8 := 9
def ECHOREP : UInt8 := 10
def DISCREQ : UInt8 := 11
def IDENTIF : UInt8 := 12
def TIMEREM : UInt8 := 13

namespace Exec

def newPhase (phase : PPPPhase) (s : Exec) : Exec := { s with phase := phase }

/-! ## 1. The sink, up to `Finished` -/

/-- `CPPPLCP::Resetci`: a new magic number, which the echo packets carry too. -/
def lcpReset (s : Exec) : Exec :=
  let magic := s.rand s.draws
  let wo := { s.lcp.wo with magicnumber := magic, numloops := 0 }
  { s with
    draws := s.draws + 1,
    lcp := { s.lcp with
      wo := wo, magicnumber := magic, peerMru := 1500,
      go := { wo with negMrru := false, negSsnhf := false, negEndpoint := false } } }

def lcpCi : CiSink Exec where
  resetci := lcpReset
  cilen s := (s.lcp.go.cilen, s)
  addci len s := ((s.lcp.go.addci, len), s)
  outputPacket := onPPPOutput

def echoLowerDown (s : Exec) : Exec :=
  if s.lcp.echoTimerRunning then
    { s with lcp := { s.lcp with echoTimer := false, echoTimerRunning := false } }
  else s

/-- `CPPP::OnLCPDown`: the upper protocols are closed; the authentication servers are not. -/
def onLCPDown (s : Exec) : Exec :=
  let s := ipcpCloseFsm "LCP down" (ipcpLowerDown s)
  let s := if s.phase ≠ .dead then newPhase .establish s else s
  sendPADT "LCP Down" s

/-- `CPPPLCP::Down`. -/
def lcpDown (s : Exec) : Exec :=
  let s := onLCPDown (echoLowerDown s)
  { s with lcp := { s.lcp with peerMru := 1500 } }

def lcpLayer : LayerSink Exec where
  toCiSink := lcpCi
  starting := CPPPFsm.lowerUp lcpFsm lcpCi
  down := lcpDown

/-- `CPPP::OnLCPTerminate`: nothing in the Dead phase. -/
def onLCPTerminate (s : Exec) : Exec :=
  if s.phase = .dead then s
  else sendPADT "LCP Terminate" (newPhase .dead (CPPPFsm.lowerDown lcpFsm lcpLayer s))

def noteFinished (s : Exec) : Exec := { s with hist := { s.hist with finished := true } }

def lcpClose : CloseSink Exec where
  toLayerSink := lcpLayer
  finished s := noteFinished (onLCPTerminate s)

/-! ## 2. Closing and the echo requests -/

def lcpCloseFsm (reason : String) : Exec → Exec := CPPPFsm.close lcpFsm lcpClose reason

def lcpLinkFailure (s : Exec) : Exec :=
  if s.lcp.fsm.state = .opened then lcpCloseFsm "Peer not responding" s else s

/-- `CPPPLCP::SendEchoRequest`: too many unanswered requests close the link. -/
def sendEchoRequest (s : Exec) : Exec :=
  let s :=
    if s.lcp.echoFails ≠ 0 ∧ s.lcp.echosPending ≥ s.lcp.echoFails then
      let s := lcpLinkFailure s
      { s with lcp := { s.lcp with echosPending := 0 } }
    else s
  if s.lcp.fsm.state = .opened then
    let s := CPPPFsm.sendData lcpFsm lcpCi ECHOREQ (UInt8.ofNat s.lcp.echoNumber)
      (putLong s.lcp.magicnumber) 4 s
    { s with
      lcp := { s.lcp with
        echoNumber := s.lcp.echoNumber + 1, echosPending := s.lcp.echosPending + 1 } }
  else s

/-- `CPPPLCP::EchoLowerUp` with `LcpEchoCheck`: the first request, then the periodic timer. -/
def echoLowerUp (s : Exec) : Exec :=
  let s := { s with lcp := s.lcp.echoReset }
  if s.lcp.echoInterval ≠ 0 then
    let s := sendEchoRequest s
    if s.lcp.fsm.state = .opened then
      { s with lcp := { s.lcp with echoTimer := true, echoTimerRunning := true } }
    else s
  else s

/-- `CPPPLCP::SendProtRej`; `field` is the rejected packet from its protocol field on. -/
def sendProtRej (field : Bytes) (len : Nat) (s : Exec) : Exec :=
  let s := lcpFsm.upd (fun f => { f with id := f.id + 1 }) s
  CPPPFsm.sendData lcpFsm lcpCi PROTREJ s.lcp.fsm.id field len s

end Exec

end OpenBras
