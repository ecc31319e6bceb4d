/-
  File:      OpenBras/PPP/Ipcp.lean
  Subject:   IPCP INSIDE A SESSION: what the session does for its protocols (`CSession`,
             src/PPPOE/CSession.cpp), the subscriber notifications of `CPPP` and the sink of
             IPCP's automaton (`CPPPIPCP`, src/PPP/CPPPIPCP.cpp).

  The sink follows the stages of `IFsmSink`: `ipcpCi`, `ipcpLayer`, `ipcpClose`, `ipcpSink`.
  `Starting` calls `LowerUp` and needs the first stage only; `Up` may call `Close` and needs
  the third.
-/
import OpenBras.PPP.State

namespace OpenBras

open Wire

def PPP_ADDR_CTRL_LEN : Nat := 2
def ETH_JUMBO_LEN : Nat := 1508

/-- The protocols a session marked for deletion no longer speaks. -/
def isControl (protocol : UInt16) : Bool :=
  protocol == PPP_LCP || protocol == PPP_IPCP || protocol == PPP_PAP || protocol == PPP_CHAP

namespace Exec

/-! ## 1. What the session does for its protocols -/

/-- `CSession::OnPPPOutput`: `packet` starts with FF 03; the client gets what follows. -/
def onPPPOutput (packet : Bytes) (s : Exec) : Exec :=
  if packet.length < PPP_HDRLEN then s
  else if s.sessionToBeDeleted && isControl (getShort packet PPP_ADDR_CTRL_LEN) then s
  else if packet.length - PPP_ADDR_CTRL_LEN > ETH_JUMBO_LEN then s
  else
    { s with hist := { s.hist with output := packet.drop PPP_ADDR_CTRL_LEN :: s.hist.output } }

/-- `CPPPOEDiscoveryHandler::sendPADT`: once per session; it marks the session and arms the
    removal timer. -/
def sendPADT (reason : String) (s : Exec) : Exec :=
  if s.sessionToBeDeleted then s
  else
    { s with
      sessionToBeDeleted := true, oneOffTimer := true,
      hist := { s.hist with padts := reason :: s.hist.padts } }

/-- `CPPPOE::GetIp`. The text `AllocIp` hands out has no colon, and `ACE_INET_Addr` made from such
    a text alone takes it for a port: the address is 0 whatever the text
    (`CAuthManager.stringToAddr_pool`). -/
def getIp : UInt32 := 0

/-- `CSession::OnAddSubscriber`. The address is that of `GetIp`, whatever the record carried. -/
def onAddSubscriber (sInfo : SessionUserEx) (s : Exec) : Exec :=
  let sInfo := { sInfo with userIp := getIp, session := s.sessionid, mac := s.clientEth }
  { s with
    hist := { s.hist with
      subscribers := some { user := sInfo, authorised := s.hist.authorised } ::
        s.hist.subscribers } }

/-- `CSession::OnDelSubscriber`. -/
def onDelSubscriber (s : Exec) : Exec :=
  { s with hist := { s.hist with subscribers := none :: s.hist.subscribers } }

/-- The subscriber as `CPPP::OnIPCPUp` describes it. -/
def subscriberInfo (username : Bytes) (s : Exec) : SessionUserEx where
  session := 0
  mac := []
  authType := s.lcp.authType.toUInt8
  userName := nameField username
  userIp := swapLong s.ipcp.wo.hisaddr
  primaryDns := swapLong s.ipcp.ao.dnsaddr0
  secondaryDns := swapLong s.ipcp.ao.dnsaddr1

/-- `CPPP::OnIPCPUp`: nothing is reported for an authentication type other than PAP and
    CHAP. -/
def onIPCPUp (s : Exec) : Exec :=
  if s.lcp.authType = PPP_PAP then onAddSubscriber (subscriberInfo s.pap.username s) s
  else if s.lcp.authType = PPP_CHAP then onAddSubscriber (subscriberInfo s.chap.username s) s
  else s

/-- `CPPP::OnIPCPDown`. -/
def onIPCPDown (s : Exec) : Exec := sendPADT "IPCP Down" (onDelSubscriber s)

/-! ## 2. The sink of IPCP's automaton -/

def ipcpReset (i : CPPPIPCP) : CPPPIPCP :=
  let wo := IpcpOptions.resetWant i.wo i.ao i.usepeerdns
  { i with wo := wo, go := if i.askForLocal then wo else { wo with ouraddr := 0 }, ho := {} }

def ipcpCi : CiSink Exec where
  resetci s := { s with ipcp := ipcpReset s.ipcp }
  cilen s :=
    let go := IpcpOptions.oldForms s.ipcp.wo s.ipcp.go s.ipcp.ho
    (go.cilen, { s with ipcp := { s.ipcp with go := go } })
  addci len s :=
    let a := IpcpOptions.addci s.ipcp.go len
    ((a.out, a.out.length), { s with ipcp := { s.ipcp with go := a.go } })
  outputPacket := onPPPOutput

def ipcpLayer : LayerSink Exec where
  toCiSink := ipcpCi
  starting := CPPPFsm.lowerUp ipcpFsm ipcpCi
  down := onIPCPDown

def ipcpClose : CloseSink Exec where
  toLayerSink := ipcpLayer
  finished s := { s with ipcp := { s.ipcp with isOpen := false } }

/-- The address option of a request, if it has one; the last one if there are several. -/
def addrOf (inp : Bytes) (len : Nat) : Option UInt32 :=
  ((options inp len).filter fun ci => ci.sound && ci.citype == CI_ADDR).getLast?.map fun ci =>
    IpcpOptions.addrAt ci.cip 2

/-- The history of acknowledging a request: the peer's address is that of its option, or the
    one we assigned. -/
def noteAcked (inp : Bytes) (len : Nat) (s : Exec) : Exec :=
  { s with hist := { s.hist with acked := some ((addrOf inp len).getD s.ipcp.wo.hisaddr) } }

/-- The peer's request against the options of IPCP. -/
def reqciRun (rejectIfDisagree : Bool) (inp : Bytes) (len : Nat) (i : CPPPIPCP) :
    IpcpOptions.ReqAcc :=
  IpcpOptions.reqciRun i.wo i.ao rejectIfDisagree i.noremoteip inp len

/-- `CPPPIPCP::Reqci`. -/
def ipcpReqci (inp : Bytes) (len : Nat) (rejectIfDisagree : Bool) (s : Exec) :
    (Int × Bytes) × Exec :=
  let a := reqciRun rejectIfDisagree inp len s.ipcp
  let t := if a.rc = .ack then noteAcked inp len s else s
  ((a.rc.code, a.out), { t with ipcp := { s.ipcp with wo := a.wo, ho := a.ho } })

/-- The peer gave us no address to use, or kept us from having one: `Up` gives up. -/
def refusal (i : CPPPIPCP) : Option String :=
  if !(i.go.negAddr || i.go.oldAddrs) && (i.wo.negAddr || i.wo.oldAddrs) && i.wo.ouraddr != 0 then
    some "Refused our IP address"
  else if i.go.ouraddr = 0 then some "Could not determine local IP address"
  else none

/-- An address the peer did not send is the one we assigned. -/
def assumeHisaddr (s : Exec) : Exec :=
  if !s.ipcp.ho.negAddr && !s.ipcp.ho.oldAddrs then
    { s with ipcp := { s.ipcp with ho := { s.ipcp.ho with hisaddr := s.ipcp.wo.hisaddr } } }
  else s

/-- `CPPPIPCP::Up`. -/
def ipcpUp (s : Exec) : Exec :=
  let s := assumeHisaddr s
  match refusal s.ipcp with
  | some reason => CPPPFsm.close ipcpFsm ipcpClose reason s
  | none => onIPCPUp s

/-- The options we go on with after a Nak or Reject; outside `OPENED` only. -/
def ipcpGot (tryop : Option IpcpOptions) (s : Exec) : Int × Exec :=
  match tryop with
  | none => (0, s)
  | some go =>
    (1, if s.ipcp.fsm.state = .opened then s else { s with ipcp := { s.ipcp with go := go } })

def ipcpSink : IFsmSink Exec where
  toCloseSink := ipcpClose
  ackci p len s := (IpcpOptions.ackci s.ipcp.go p len, s)
  nakci p len treatAsReject s := ipcpGot (IpcpOptions.nakScan s.ipcp.go p len treatAsReject) s
  rejci p len s := ipcpGot (IpcpOptions.rejScan s.ipcp.go p len) s
  reqci := ipcpReqci
  up := ipcpUp
  retransmit s := s
  extCode _ _ _ _ s := (false, s)

/-! ## 3. IPCP's own methods -/

/-- `CPPPIPCP::Init`. -/
def ipcpInit (s : Exec) : Exec :=
  { s with
    ipcp := { s.ipcp with
      fsm := { CPPPFsm.init s.ipcp.fsm with maxnakloops := 100 },
      wo := .initial, ao := .initial } }

def ipcpLowerDown : Exec → Exec := CPPPFsm.lowerDown ipcpFsm ipcpLayer

def ipcpCloseFsm (reason : String) : Exec → Exec := CPPPFsm.close ipcpFsm ipcpClose reason

/-- `CPPPIPCP::Open`; the history notes whether the peer is authenticated. -/
def ipcpOpen (s : Exec) : Exec :=
  CPPPFsm.fsmOpen ipcpFsm ipcpLayer
    { s with
      ipcp := { s.ipcp with isOpen := true },
      hist := { s.hist with ncp := s.authenticated :: s.hist.ncp } }

/-- `CPPPIPCP::Input`, noted likewise. -/
def ipcpInput (packet : Bytes) (len : Nat) (s : Exec) : Exec :=
  CPPPFsm.input ipcpFsm ipcpSink packet len
    { s with hist := { s.hist with ncp := s.authenticated :: s.hist.ncp } }

def ipcpTimeout : Exec → Exec := CPPPFsm.timeout ipcpFsm ipcpSink

end Exec

end OpenBras
