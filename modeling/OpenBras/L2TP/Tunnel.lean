/-
  File:      OpenBras/L2TP/Tunnel.lean
  Subject:   A TUNNEL OF THE L2TP ACCESS CONCENTRATOR AND ITS SESSIONS: `CL2TPTunnel` and
             `CL2TPSession` (src/l2tp/CL2TPTunnel.cpp, src/l2tp/CL2TPSession.cpp), with
             `OnTunnelResult` and `RemoveChannel` of src/l2tp/CL2TPLAC.cpp.

  Each function answers with the tunnel it leaves and the list of what it did towards the
  outside, oldest first: datagrams sent and calls of the sinks. A sink that calls back into the
  tunnel does so by an event of its own. `RemoveChannel` drops the last reference, so nothing
  reaches the tunnel afterwards; its destructor cancels the timer.

  The check of the sequence number in `CheckControlMessage` is compiled out: what is left takes
  the number of whatever arrives.

  A datagram can keep `Decode` in its loop for ever, or make it write past the end of an array.
  Nothing is said of the process after such a fault.
-/
import OpenBras.L2TP.Payload
import Mathlib.Logic.Function.Basic

namespace OpenBras

open Wire CL2TPControllMessage

/-! ## 1. Message types and state -/

def SCCRQ : UInt16 := 1
def SCCRP : UInt16 := 2
def SCCCN : UInt16 := 3
def StopCCN : UInt16 := 4
def Hello : UInt16 := 6
def OCRQ : UInt16 := 7
def OCRP : UInt16 := 8
def OCCN : UInt16 := 9
def ICRQ : UInt16 := 10
def ICRP : UInt16 := 11
def ICCN : UInt16 := 12
def CDN : UInt16 := 14

def MAX_RECV_SIZE : Nat := 4096
def OUR_L2TP_VERSION : UInt16 := 0x100
def FIRMWARE_REV : UInt16 := 0x0690
def ASYNC_FRAMING : UInt16 := 2
def SYNC_FRAMING : UInt16 := 1
def RESULT_ERROR : UInt16 := 2

/-- What a tunnel does towards the outside. -/
inductive L2tpAct where
  | sendData (data : Bytes)
  /-- `IL2TPTunnelIndication::OnTunnelIndication`, with the tunnel or with `NULL`. -/
  | onTunnelIndication (result : Int) (tunnel : Bool)
  | onCallIndication (result : Int) (cid : UInt16)
  | onDataRecv (cid : UInt16) (data : Bytes) (datasize : Nat)
  | onSessionDisconnect (reason : Int) (cid : UInt16)
  deriving DecidableEq, Repr

/-- What a datagram can do to the process: keep it in the walk over the AVPs, or make it read or
    write past the end of an array. -/
inductive L2tpFault where
  | endless
  | overrun
  deriving DecidableEq, Repr

structure CL2TPSession where
  localcid : UInt16
  peercid : UInt16 := 0
  proxy : L2tpSessionProxy := {}
  bisProxy : Bool := false
  /-- `m_psink` is not `NULL`. -/
  psink : Bool := false
  deriving DecidableEq, Repr

/-- The tunnel; `timer` is its retry timer in the reactor, `indication` says whether the
    concentrator's `m_psink` is set, `removed` whether `RemoveChannel` has been called, `fault`
    what has become of the process. -/
structure CL2TPTunnel where
  ourtid : UInt16
  peertid : UInt16 := 0
  controlSeqNum : UInt16 := 0
  controlRecSeqNum : UInt16 := 0
  ourfc : UInt16 := ASYNC_FRAMING ||| SYNC_FRAMING
  sessions : UInt16 → Option CL2TPSession := fun _ => none
  sessionidbase : UInt16 := 1
  isconnected : Bool := false
  helltimeoutcount : UInt16 := 4
  pTunnelSink : Bool := false
  requestcount : Int := 0
  timer : Bool := true
  indication : Bool := true
  removed : Bool := false
  fault : Option L2tpFault := none

namespace CL2TPTunnel

/-! ## 2. Sending -/

/-- `add_control_hdr` with `GetIncreaseNS()` and `GetControlRecSeqNum()`, and `SendData`. -/
def sendControl (avps : Bytes) (tid cid : UInt16) (t : CL2TPTunnel) : CL2TPTunnel × L2tpAct :=
  ({ t with controlSeqNum := t.controlSeqNum + 1 },
    .sendData (add_control_hdr avps tid cid t.controlSeqNum t.controlRecSeqNum))

/-- `ControlZLB`: the header alone, and the sequence number stays. -/
def controlZLB (cid : UInt16) (t : CL2TPTunnel) : L2tpAct :=
  .sendData (add_control_hdr [] t.peertid cid t.controlSeqNum t.controlRecSeqNum)

def startConnectRequest (t : CL2TPTunnel) : CL2TPTunnel × List L2tpAct :=
  let avps := add_message_type_avp SCCRQ ++ add_protocol_avp OUR_L2TP_VERSION ++
    add_frame_caps_avp t.ourfc ++ add_bearer_caps_avp 0 ++ add_firmware_avp FIRMWARE_REV ++
    add_hostname_avp (ascii "wfnex") ++ add_vendor_avp (ascii "wfnex.com") ++
    add_tunnelid_avp t.ourtid ++ add_avp_rws 8
  let (t, a) := t.sendControl avps 0 0
  ({ t with requestcount := t.requestcount + 1 }, [a])

/-- `Disconnect` of the tunnel. -/
def disconnect (t : CL2TPTunnel) : CL2TPTunnel × List L2tpAct :=
  let avps := add_message_type_avp StopCCN ++ add_tunnelid_avp t.ourtid ++
    add_result_code_avp RESULT_ERROR 0 (ascii "disconnect") 10
  let (t, a) := t.sendControl avps t.peertid 0
  (t, [a])

/-- `m_smgr.OnTunnelResult`. -/
def onTunnelResult (result : Int) (tunnel : Bool) (t : CL2TPTunnel) : List L2tpAct :=
  if t.indication then [.onTunnelIndication result tunnel] else []

/-- `m_smgr.RemoveChannel`, with the destructor. -/
def removeChannel (t : CL2TPTunnel) : CL2TPTunnel := { t with timer := false, removed := true }

def handleTimeout (t : CL2TPTunnel) : CL2TPTunnel × List L2tpAct :=
  if t.requestcount > 10 then
    (removeChannel { t with requestcount := 0 }, t.onTunnelResult (-1) false)
  else t.startConnectRequest

/-! ## 3. Sessions -/

/-- `AddSession`: an entry that is there stays. -/
def addSession (callid : UInt16) (session : CL2TPSession) (t : CL2TPTunnel) : CL2TPTunnel :=
  match t.sessions callid with
  | some _ => t
  | none => { t with sessions := Function.update t.sessions callid (some session) }

def removeSession (callid : UInt16) (t : CL2TPTunnel) : CL2TPTunnel :=
  { t with sessions := Function.update t.sessions callid none }

/-- `CL2TPSession::StartCall`. -/
def startCall (s : CL2TPSession) (t : CL2TPTunnel) : CL2TPTunnel × List L2tpAct :=
  let avps := add_message_type_avp ICRQ ++ add_callid_avp s.localcid ++ add_serno_avp 0 ++
    add_bearer_avp 0
  let proxy :=
    if s.bisProxy then
      add_init_lcp_req_avp s.proxy.initRcvLcpConf s.proxy.initRcvLcpConfLen ++
        add_last_lcp_send_avp s.proxy.lastSendLcpConf s.proxy.lastSendLcpConfLen ++
        add_last_lcp_recv_avp s.proxy.lastRcvLcpConf s.proxy.lastRcvLcpConfLen ++
        add_proxy_auth_type_avp s.proxy.authenType ++
        add_proxy_auth_name_avp s.proxy.authenName s.proxy.authenNameLen ++
        add_proxy_auth_challenge_avp s.proxy.authenChallenge s.proxy.authenChallengeLen ++
        add_proxy_auth_id_avp s.proxy.authenID
    else []
  let (t, a) := t.sendControl (avps ++ proxy) t.peertid 0
  (t, [a])

def makeIncomingCall (proxy : L2tpSessionProxy) (bUserProxy : Bool) (t : CL2TPTunnel) :
    CL2TPTunnel × List L2tpAct :=
  let localcid := t.sessionidbase
  let session : CL2TPSession := { localcid, proxy, bisProxy := bUserProxy }
  let t := { t with sessionidbase := t.sessionidbase + 1 }
  (t.addSession localcid session).startCall session

/-- `OpenWithSink` of the session filed under `cid`. -/
def openWithSink (cid : UInt16) (sink : Bool) (t : CL2TPTunnel) : CL2TPTunnel :=
  match t.sessions cid with
  | some s =>
    { t with sessions := Function.update t.sessions cid (some { s with psink := sink }) }
  | none => t

/-- `CL2TPSession::SendData` of the session filed under `cid`. -/
def sessionSendData (cid : UInt16) (data : Bytes) (t : CL2TPTunnel) : List L2tpAct :=
  match t.sessions cid with
  | some s =>
    let totalsize := 8 + data.length
    if totalsize > MAX_RECV_SIZE then []
    else
      [.sendData (putShort (LBIT ||| VER_L2TP) ++ putShort totalsize.toUInt16 ++
        putShort t.peertid ++ putShort s.peercid ++ data)]
  | none => []

/-! ## 4. Control messages -/

/-- `CheckControlMessage` as it is compiled; it never refuses. -/
def checkControlMessage (msg : CL2TPControllMessage) (t : CL2TPTunnel) : CL2TPTunnel :=
  { t with controlRecSeqNum := if msg.bzlb then msg.Ns else msg.Ns + 1 }

/-- `OnSessionCallBack`. -/
def onSessionCallBack (result : Int) (cid : UInt16) (t : CL2TPTunnel) : List L2tpAct :=
  if t.pTunnelSink then [.onCallIndication result cid] else []

/-- `CL2TPSession::HandleIncomingCallReply` of the session `s` filed under `cid`. -/
def handleIncomingCallReply (msg : CL2TPControllMessage) (cid : UInt16) (s : CL2TPSession)
    (t : CL2TPTunnel) : CL2TPTunnel × List L2tpAct :=
  let s := { s with peercid := msg.assigcallid }
  let t := { t with sessions := Function.update t.sessions cid (some s) }
  let (t, a) := t.sendControl (add_message_type_avp ICCN ++ add_txspeed_avp 1000000000)
    t.peertid s.peercid
  (t, a :: t.onSessionCallBack 0 s.localcid)

/-- `CL2TPSession::HandleCallDisconnectNotify`. -/
def handleCallDisconnectNotify (msg : CL2TPControllMessage) (s : CL2TPSession)
    (t : CL2TPTunnel) : CL2TPTunnel × List L2tpAct :=
  (t.removeSession msg.cid,
    t.controlZLB s.peercid :: if s.psink then [.onSessionDisconnect 0 s.localcid] else [])

/-- `CL2TPSession::HandleControllMessage`. The handlers of `OCRQ`, `OCRP`, `OCCN`, `ICRQ` and
    `ICCN` return at once. -/
def sessionControllMessage (msg : CL2TPControllMessage) (s : CL2TPSession) (t : CL2TPTunnel) :
    CL2TPTunnel × List L2tpAct :=
  if msg.messatetype = ICRP then t.handleIncomingCallReply msg msg.cid s
  else if msg.messatetype = CDN then t.handleCallDisconnectNotify msg s
  else (t, [])

/-- `HandleSessionControllMessage`: the tunnel id is not looked at. -/
def handleSessionControllMessage (msg : CL2TPControllMessage) (t : CL2TPTunnel) :
    CL2TPTunnel × List L2tpAct :=
  let t := t.checkControlMessage msg
  match t.sessions msg.cid with
  | some s => t.sessionControllMessage msg s
  | none => (t, [])

/-- `HandleZLB`. -/
def handleZLB (t : CL2TPTunnel) : CL2TPTunnel := { t with helltimeoutcount := 0 }

/-- `HandleStartControlConnectionReply`: the timer is cancelled before the tunnel id is
    compared. -/
def handleStartControlConnectionReply (msg : CL2TPControllMessage) (t : CL2TPTunnel) :
    CL2TPTunnel × List L2tpAct :=
  let t := { t with timer := false, requestcount := 0 }
  if msg.tid ≠ t.ourtid then (t, [])
  else
    let t := { t.checkControlMessage msg with peertid := msg.assigtunenid }
    let (t, a) := t.sendControl (add_message_type_avp SCCCN) t.peertid 0
    ({ t with isconnected := true }, a :: t.onTunnelResult 0 true)

/-- `HandleStopControlConnectionNotification`. -/
def handleStopControlConnectionNotification (msg : CL2TPControllMessage) (t : CL2TPTunnel) :
    CL2TPTunnel × List L2tpAct :=
  if msg.tid ≠ t.ourtid then (t, [])
  else if t.peertid ≠ msg.assigtunenid then (t, [])
  else
    let t := t.checkControlMessage msg
    (t.removeChannel, [t.controlZLB 0])

def handleHello (msg : CL2TPControllMessage) (t : CL2TPTunnel) : CL2TPTunnel × List L2tpAct :=
  if msg.tid ≠ t.ourtid then (t, [])
  else
    let t := t.checkControlMessage msg
    (t, [t.controlZLB 0])

/-- The types `HandleControllMessage` passes to the sessions. -/
def sessionTypes : List UInt16 := [OCRQ, OCRP, OCCN, ICRQ, ICRP, ICCN, CDN]

/-- `HandleControllMessage`. The handlers of `SCCRQ` and `SCCCN` do nothing, as does a type the
    switch does not name. -/
def handleControllMessage (msg : CL2TPControllMessage) (t : CL2TPTunnel) :
    CL2TPTunnel × List L2tpAct :=
  if msg.bzlb then (t.handleZLB, [])
  else if msg.messatetype = SCCRP then t.handleStartControlConnectionReply msg
  else if msg.messatetype = StopCCN then t.handleStopControlConnectionNotification msg
  else if msg.messatetype = Hello then t.handleHello msg
  else if msg.messatetype ∈ sessionTypes then t.handleSessionControllMessage msg
  else (t, [])

/-! ## 5. What arrives -/

/-- `HandlePayLoadMessage` and `CL2TPSession::HandlePayLoad`. -/
def handlePayLoadMessage (msg : CL2TPDataMessage) (t : CL2TPTunnel) : List L2tpAct :=
  if msg.tid ≠ t.ourtid then []
  else
    match t.sessions msg.cid with
    | some s =>
      if s.psink then [.onDataRecv s.localcid msg.payload msg.payloadsize] else []
    | none => []

/-- What `Decode` makes of a datagram of `n` bytes at the start of the receive buffer: a control
    message, or none if it is a data message or refused; or a fault, if the walk over the AVPs has
    not ended after `fuel` turns, or has left the buffer or an array of the message. -/
def received (fuel : Nat) (buffer : Bytes) (n : Nat) :
    Except L2tpFault (Option CL2TPControllMessage) :=
  if n = 0 ∨ ¬ CTBIT (getShort buffer 0) then .ok none
  else
    match decode fuel buffer n {} with
    | none => .error .endless
    | some (r, msg, reads) =>
      if msg.overrun ∨ ∃ read ∈ reads, MAX_RECV_SIZE < read.1 + read.2 then .error .overrun
      else .ok (if r = 0 then some msg else none)

/-- The control message of a datagram, if there is one. -/
def controlMessage (fuel : Nat) (buffer : Bytes) (n : Nat) : Option CL2TPControllMessage :=
  match received fuel buffer n with
  | .ok msg => msg
  | .error _ => none

/-- What becomes of the process over a datagram. -/
def faultOf (fuel : Nat) (buffer : Bytes) (n : Nat) : Option L2tpFault :=
  match received fuel buffer n with
  | .ok _ => none
  | .error fault => some fault

/-- `handle_input`: `n` bytes were received; behind them the buffer holds what it held. -/
def handleInput (fuel : Nat) (buffer : Bytes) (n : Nat) (t : CL2TPTunnel) :
    Except L2tpFault (CL2TPTunnel × List L2tpAct) :=
  if n = 0 then .ok (t, [])
  else if CTBIT (getShort buffer 0) then
    match received fuel buffer n with
    | .error fault => .error fault
    | .ok (some msg) => .ok (t.handleControllMessage msg)
    | .ok none => .ok (t, [])
  else
    match CL2TPDataMessage.decode buffer n {} with
    | (0, msg) => .ok (t, t.handlePayLoadMessage msg)
    | _ => .ok (t, [])

/-- The tunnel after it. -/
def input (fuel : Nat) (buffer : Bytes) (n : Nat) (t : CL2TPTunnel) :
    CL2TPTunnel × List L2tpAct :=
  match t.handleInput fuel buffer n with
  | .ok r => r
  | .error fault => ({ t with fault := some fault }, [])

/-- What can happen to a tunnel. -/
inductive Event where
  | input (buffer : Bytes) (n : Nat)
  | timeout
  | startConnectRequest
  | openSink (sink : Bool)
  | openWithSink (cid : UInt16) (sink : Bool)
  | makeIncomingCall (proxy : L2tpSessionProxy) (bUserProxy : Bool)
  | sessionSendData (cid : UInt16) (data : Bytes)
  | disconnect

/-- The tunnel is gone, or the process. -/
def halted (t : CL2TPTunnel) : Bool := t.removed || t.fault.isSome

/-- One event. The timer fires only while it is armed. -/
def step (fuel : Nat) (t : CL2TPTunnel) (e : Event) : CL2TPTunnel × List L2tpAct :=
  if t.halted then (t, [])
  else
    match e with
    | .input buffer n => t.input fuel buffer n
    | .timeout => if t.timer then t.handleTimeout else (t, [])
    | .startConnectRequest => t.startConnectRequest
    | .openSink sink => ({ t with pTunnelSink := sink }, [])
    | .openWithSink cid sink => (t.openWithSink cid sink, [])
    | .makeIncomingCall proxy bUserProxy => t.makeIncomingCall proxy bUserProxy
    | .sessionSendData cid data => (t, t.sessionSendData cid data)
    | .disconnect => t.disconnect

/-- The tunnel after an event. -/
def next (fuel : Nat) (t : CL2TPTunnel) (e : Event) : CL2TPTunnel := (t.step fuel e).1

end CL2TPTunnel

end OpenBras
