/-
  File:      OpenBras/PPP/Fsm.lean
  Subject:   THE OPTION NEGOTIATION AUTOMATON (`CPPPFsm`, src/PPP/CPPPFsm.cpp).

  LCP and IPCP each own one automaton; it lives at a place `L` of a larger state and talks to
  its owner through the callbacks of `IFsmSink`. The owners re-enter the automaton from inside
  a callback (`Starting` calls `LowerUp`, `Finished` calls `LowerDown`, `Up` and `Nakci` call
  `Close`), so the sink is given in stages, each a record that extends the one before:

  * `CiSink`: what sending a Configure-Request asks for, and the packet output;
  * `LayerSink`: `Starting` and `Down` as well -- enough for `LowerDown`;
  * `CloseSink`: `Finished` as well -- enough for `Close`;
  * `IFsmSink`: everything, needed to receive a packet.

  A callback of one stage may be written with the automaton's methods of the stages below it.
  The restart timer is the field `timer`: `StartTime` schedules it periodically, so it stays
  registered until `CancelTimer`.
-/
import OpenBras.Lib.Lens
import OpenBras.Lib.Wire

namespace OpenBras

open Wire

/-! ## 1. Constants (src/PPP/pppdef.h) -/

def PPP_HDRLEN : Nat := 4
def PPP_MRU : Nat := 1500
def HEADERLEN : Nat := 4

def PPP_ALLSTATIONS : UInt8 := 0xff
def PPP_UI : UInt8 := 0x03

def CONFREQ : UInt8 := 1
def CONFACK : UInt8 := 2
def CONFNAK : UInt8 := 3
def CONFREJ : UInt8 := 4
def TERMREQ : UInt8 := 5
def TERMACK : UInt8 := 6
def CODEREJ : UInt8 := 7

/-- The verdicts of `Reqci`, an `int`: the codes of the packets that carry them. -/
def confAck : Int := 2
def confNak : Int := 3
def confRej : Int := 4

def DEFTIMEOUT : Nat := 3
def DEFMAXTERMREQS : Int := 2
def DEFMAXCONFREQS : Int := 10
def DEFMAXNAKLOOPS : Nat := 5

/-! ## 2. The automaton's record -/

/-- The link states. -/
inductive FsmState where
  | initial | starting | closed | stopped | closing | stopping
  | reqSent | ackRcvd | ackSent | opened
  deriving DecidableEq, Repr

/-- A Configure-Request of ours is on its way: `REQSENT`, `ACKRCVD` or `ACKSENT`. -/
def FsmState.negotiating : FsmState → Bool
  | .reqSent | .ackRcvd | .ackSent => true
  | _ => false

/-- A Terminate-Request of ours is on its way: `CLOSING` or `STOPPING`. -/
def FsmState.terminating : FsmState → Bool
  | .closing | .stopping => true
  | _ => false

/-- The option bits `OPT_PASSIVE`, `OPT_RESTART` and `OPT_SILENT`. -/
structure FsmFlags where
  passive : Bool := false
  restart : Bool := false
  silent : Bool := false
  deriving DecidableEq, Repr

structure CPPPFsm where
  protocol : UInt16
  state : FsmState := .initial
  flags : FsmFlags := {}
  id : UInt8 := 0
  reqid : UInt8 := 0
  /-- a valid Ack, Nak or Reject of the current request has been received -/
  seenAck : Bool := false
  timeouttime : Nat := DEFTIMEOUT
  maxconfreqtransmits : Int := DEFMAXCONFREQS
  retransmits : Int := 0
  maxtermtransmits : Int := DEFMAXTERMREQS
  nakloops : Nat := 0
  rnakloops : Nat := 0
  maxnakloops : Nat := DEFMAXNAKLOOPS
  termReason : String := ""
  termReasonLen : Nat := 0
  /-- the restart timer is registered with the reactor -/
  timer : Bool := false
  deriving DecidableEq, Repr

/-! ## 3. The sink, in stages -/

structure CiSink (σ : Type) where
  resetci : σ → σ
  cilen : σ → Nat × σ
  /-- the bytes written and the length left in `*lenp` -/
  addci : Nat → σ → (Bytes × Nat) × σ
  outputPacket : Bytes → σ → σ

structure LayerSink (σ : Type) extends CiSink σ where
  starting : σ → σ
  down : σ → σ

structure CloseSink (σ : Type) extends LayerSink σ where
  finished : σ → σ

structure IFsmSink (σ : Type) extends CloseSink σ where
  ackci : Bytes → Nat → σ → Bool × σ
  nakci : Bytes → Nat → Bool → σ → Int × σ
  rejci : Bytes → Nat → σ → Int × σ
  /-- the verdict, and the buffer `inp` up to the new `*len` -/
  reqci : Bytes → Nat → Bool → σ → (Int × Bytes) × σ
  up : σ → σ
  retransmit : σ → σ
  extCode : UInt8 → UInt8 → Bytes → Nat → σ → Bool × σ

namespace CPPPFsm

variable {σ : Type} (L : Lens σ CPPPFsm)

/-- `Init`: the fields it resets; the others keep their value. -/
def init (f : CPPPFsm) : CPPPFsm :=
  { f with
    state := .initial, flags := {}, id := 0, timeouttime := DEFTIMEOUT,
    maxconfreqtransmits := DEFMAXCONFREQS, maxtermtransmits := DEFMAXTERMREQS,
    maxnakloops := DEFMAXNAKLOOPS, termReasonLen := 0 }

def setState (q : FsmState) (s : σ) : σ := L.upd (fun f => { f with state := q }) s

def cancelTimer (s : σ) : σ := L.upd (fun f => { f with timer := false }) s

def startTime (s : σ) : σ := L.upd (fun f => { f with timer := true }) s

/-! ## 4. Sending -/

/-- `SendData`: the packet, cut to the MRU. -/
def sendData (K : CiSink σ) (code id : UInt8) (data : Bytes) (datalen : Nat) (s : σ) : σ :=
  let n := min datalen (PPP_MRU - HEADERLEN)
  K.outputPacket
    ([PPP_ALLSTATIONS, PPP_UI] ++ putShort (L.get s).protocol ++ [code, id] ++
      putShort (n + HEADERLEN).toUInt16 ++ data.take n) s

/-- `++m_id`, stored as the id of the current request. -/
def nextReqid (s : σ) : σ := L.upd (fun f => { f with id := f.id + 1, reqid := f.id + 1 }) s

/-- The first half of `SendConfReq`: the options are reset unless we are negotiating already, a
    fresh request has a new id, and the options are written. -/
def confReq (K : CiSink σ) (retransmit : Bool) (s : σ) : (Bytes × Nat) × σ :=
  let s :=
    if (L.get s).state.negotiating then s
    else L.upd (fun f => { f with nakloops := 0, rnakloops := 0 }) (K.resetci s)
  let s :=
    if retransmit then s
    else nextReqid L (L.upd (fun f => { f with retransmits := f.maxconfreqtransmits }) s)
  let s := L.upd (fun f => { f with seenAck := false }) s
  let (cilen, s) := K.cilen s
  K.addci (min cilen (PPP_MRU - HEADERLEN)) s

def sendConfReq (K : CiSink σ) (retransmit : Bool) (s : σ) : σ :=
  let ((ci, cilen), s) := confReq L K retransmit s
  let s := sendData L K CONFREQ (L.get s).reqid ci cilen s
  startTime L (L.upd (fun f => { f with retransmits := f.retransmits - 1 }) s)

/-! ## 5. The lower layer, opening and closing -/

def lowerUp (K : CiSink σ) (s : σ) : σ :=
  match (L.get s).state with
  | .initial => setState L .closed s
  | .starting =>
    if (L.get s).flags.silent then setState L .stopped s
    else setState L .reqSent (sendConfReq L K false s)
  | _ => s

def lowerDown (K : LayerSink σ) (s : σ) : σ :=
  match (L.get s).state with
  | .closed => setState L .initial s
  | .stopped => K.starting (setState L .starting s)
  | .closing => cancelTimer L (setState L .initial s)
  | .stopping | .reqSent | .ackRcvd | .ackSent => cancelTimer L (setState L .starting s)
  | .opened => setState L .starting (K.down s)
  | _ => s

/-- `Open`. `CLOSING` becomes `STOPPING` and falls through to the restart test. -/
def fsmOpen (K : LayerSink σ) (s : σ) : σ :=
  let restart (s : σ) : σ :=
    if (L.get s).flags.restart then lowerUp L K.toCiSink (lowerDown L K s) else s
  match (L.get s).state with
  | .initial => K.starting (setState L .starting s)
  | .closed =>
    if (L.get s).flags.silent then setState L .stopped s
    else setState L .reqSent (sendConfReq L K.toCiSink false s)
  | .closing => restart (setState L .stopping s)
  | .stopped | .opened => restart s
  | _ => s

/-- The timer runs everywhere but in `OPENED`. -/
def stopTimer (s : σ) : σ := if (L.get s).state ≠ .opened then cancelTimer L s else s

/-- `TerminateLayer`: `Down` is delivered whatever state the automaton leaves. -/
def terminateLayer (K : CloseSink σ) (nextstate : FsmState) (s : σ) : σ :=
  let s := K.down (stopTimer L s)
  let s := L.upd (fun f => { f with retransmits := f.maxtermtransmits }) s
  let s := nextReqid L s
  let reason := ascii (L.get s).termReason
  let s := sendData L K.toCiSink TERMREQ (L.get s).reqid reason reason.length s
  if (L.get s).retransmits = 0 then
    K.finished (setState L (if nextstate = .closing then .closed else .stopped) s)
  else
    let s := L.upd (fun f => { f with retransmits := f.retransmits - 1 }) (startTime L s)
    setState L nextstate s

def reasoned (reason : String) (f : CPPPFsm) : CPPPFsm :=
  { f with termReason := reason, termReasonLen := (ascii reason).length }

def close (K : CloseSink σ) (reason : String) (s : σ) : σ :=
  let s := L.upd (reasoned reason) s
  match (L.get s).state with
  | .starting => setState L .initial s
  | .stopped => setState L .closed s
  | .stopping => setState L .closing s
  | .reqSent | .ackRcvd | .ackSent | .opened => terminateLayer L K .closing s
  | _ => s

/-! ## 6. The restart timer -/

/-- The Configure-Request once more; an Ack of the earlier copy counts no longer. -/
def resend (K : IFsmSink σ) (s : σ) : σ :=
  let s := sendConfReq L K.toCiSink true (K.retransmit s)
  if (L.get s).state = .ackRcvd then setState L .reqSent s else s

def timeout (K : IFsmSink σ) (s : σ) : σ :=
  match (L.get s).state with
  | .closing | .stopping =>
    if (L.get s).retransmits ≤ 0 then
      K.finished (setState L (if (L.get s).state = .closing then .closed else .stopped) s)
    else
      let s := nextReqid L s
      let s := sendData L K.toCiSink TERMREQ (L.get s).reqid (ascii (L.get s).termReason)
        (L.get s).termReasonLen s
      L.upd (fun f => { f with retransmits := f.retransmits - 1 }) (startTime L s)
  | .reqSent | .ackRcvd | .ackSent =>
    if (L.get s).retransmits ≤ 0 then
      let s := setState L .stopped s
      if (L.get s).flags.passive then s else K.finished s
    else resend L K s
  | _ => s

/-! ## 7. Received packets -/

/-- As many Naks were sent as there may be: disagreement is refused. -/
def refusing (f : CPPPFsm) : Bool := decide (f.nakloops ≥ f.maxnakloops)

/-- The answer to the peer's Configure-Request, and what it does to the state. -/
def answerConfReq (K : IFsmSink σ) (id : UInt8) (inp : Bytes) (len : Nat) (s : σ) : σ :=
  let rejectIfDisagree := (L.get s).refusing
  let ((verdict, out), s) := K.reqci inp len rejectIfDisagree s
  let code : Int :=
    if verdict = -1 then (if out.length ≠ 0 then confRej else confAck) else verdict
  let s := sendData L K.toCiSink (UInt8.ofNat (code.emod 256).toNat) id out out.length s
  if code = confAck then
    let s :=
      if (L.get s).state = .ackRcvd then K.up (setState L .opened (cancelTimer L s))
      else setState L .ackSent s
    L.upd (fun f => { f with nakloops := 0 }) s
  else
    let s := if (L.get s).state ≠ .ackRcvd then setState L .reqSent s else s
    if code = confNak then L.upd (fun f => { f with nakloops := f.nakloops + 1 }) s else s

def rcvConfReq (K : IFsmSink σ) (id : UInt8) (inp : Bytes) (len : Nat) (s : σ) : σ :=
  match (L.get s).state with
  | .closed => sendData L K.toCiSink TERMACK id [] 0 s
  | .closing | .stopping => s
  | .stopped =>
    answerConfReq L K id inp len (setState L .reqSent (sendConfReq L K.toCiSink false s))
  | .opened =>
    answerConfReq L K id inp len
      (setState L .reqSent (sendConfReq L K.toCiSink false (K.down s)))
  | _ => answerConfReq L K id inp len s

def rcvConfAck (K : IFsmSink σ) (id : UInt8) (inp : Bytes) (len : Nat) (s : σ) : σ :=
  if id ≠ (L.get s).reqid ∨ (L.get s).seenAck then s
  else
    let (ok, s) := K.ackci inp len s
    if !ok then s
    else
      let s := L.upd (fun f => { f with seenAck := true, rnakloops := 0 }) s
      match (L.get s).state with
      | .closed | .stopped => sendData L K.toCiSink TERMACK id [] 0 s
      | .reqSent =>
        L.upd (fun f => { f with state := .ackRcvd, retransmits := f.maxconfreqtransmits }) s
      | .ackRcvd => setState L .reqSent (sendConfReq L K.toCiSink false (cancelTimer L s))
      | .ackSent =>
        K.up (L.upd (fun f => { f with
          state := .opened, retransmits := f.maxconfreqtransmits }) (cancelTimer L s))
      | .opened => setState L .reqSent (sendConfReq L K.toCiSink false (K.down s))
      | _ => s

/-- What a good Nak or Reject does (`ret` is the callback's verdict). -/
def afterNakRej (K : IFsmSink σ) (id : UInt8) (ret : Int) (s : σ) : σ :=
  let s := L.upd (fun f => { f with seenAck := true }) s
  match (L.get s).state with
  | .closed | .stopped => sendData L K.toCiSink TERMACK id [] 0 s
  | .reqSent | .ackSent =>
    let s := cancelTimer L s
    if ret < 0 then setState L .stopped s else sendConfReq L K.toCiSink false s
  | .ackRcvd => setState L .reqSent (sendConfReq L K.toCiSink false (cancelTimer L s))
  | .opened => setState L .reqSent (sendConfReq L K.toCiSink false (K.down s))
  | _ => s

def rcvConfNakRej (K : IFsmSink σ) (code id : UInt8) (inp : Bytes) (len : Nat) (s : σ) : σ :=
  if id ≠ (L.get s).reqid ∨ (L.get s).seenAck then s
  else if code = CONFNAK then
    let s := L.upd (fun f => { f with rnakloops := f.rnakloops + 1 }) s
    let treatAsReject := decide ((L.get s).rnakloops ≥ (L.get s).maxnakloops)
    let (ret, s) := K.nakci inp len treatAsReject s
    if ret = 0 then s else afterNakRej L K id ret s
  else
    let s := L.upd (fun f => { f with rnakloops := 0 }) s
    let (ret, s) := K.rejci inp len s
    if ret = 0 then s else afterNakRej L K id ret s

def rcvTermReq (K : IFsmSink σ) (id : UInt8) (s : σ) : σ :=
  match (L.get s).state with
  | .ackRcvd | .ackSent => sendData L K.toCiSink TERMACK id [] 0 (setState L .reqSent s)
  | .opened =>
    let s := L.upd (fun f => { f with retransmits := 0, state := .stopping }) s
    startTime L (K.down (sendData L K.toCiSink TERMACK id [] 0 s))
  | _ => sendData L K.toCiSink TERMACK id [] 0 s

def rcvTermack (K : IFsmSink σ) (s : σ) : σ :=
  match (L.get s).state with
  | .closing => K.finished (setState L .closed (cancelTimer L s))
  | .stopping => K.finished (setState L .stopped (cancelTimer L s))
  | .ackRcvd => setState L .reqSent s
  | .opened => setState L .reqSent (sendConfReq L K.toCiSink false (K.down s))
  | _ => s

def rcvCodeReject (len : Nat) (s : σ) : σ :=
  if len < HEADERLEN then s
  else if (L.get s).state = .ackRcvd then setState L .reqSent s else s

/-- `ProtReject`: the peer does not speak this protocol. -/
def protReject (K : IFsmSink σ) (s : σ) : σ :=
  match (L.get s).state with
  | .closing => K.finished (setState L .closed (cancelTimer L s))
  | .closed => K.finished (setState L .closed s)
  | .stopping | .reqSent | .ackRcvd | .ackSent =>
    K.finished (setState L .stopped (cancelTimer L s))
  | .stopped => K.finished (setState L .stopped s)
  | .opened => terminateLayer L K.toCloseSink .stopping s
  | _ => s

/-- The header of a packet given with `l` bytes: code, id and the length of the body; `none`
    where `Input` drops the packet. -/
def header (inpacket : Bytes) (l : Nat) : Option (UInt8 × UInt8 × Nat) :=
  if l < HEADERLEN then none
  else
    let len := (getShort inpacket 2).toNat
    if len < HEADERLEN ∨ len > l then none
    else some (byteAt inpacket 0, byteAt inpacket 1, len - HEADERLEN)

/-- The action on a packet with a sound header. -/
def dispatch (K : IFsmSink σ) (inpacket : Bytes) (code id : UInt8) (len : Nat) (s : σ) : σ :=
  let inp := inpacket.drop HEADERLEN
  if code = CONFREQ then rcvConfReq L K id inp len s
  else if code = CONFACK then rcvConfAck L K id inp len s
  else if code = CONFNAK ∨ code = CONFREJ then rcvConfNakRej L K code id inp len s
  else if code = TERMREQ then rcvTermReq L K id s
  else if code = TERMACK then rcvTermack L K s
  else if code = CODEREJ then rcvCodeReject L len s
  else
    let (known, s) := K.extCode code id inp len s
    if known then s
    else
      let s := L.upd (fun f => { f with id := f.id + 1 }) s
      sendData L K.toCiSink CODEREJ (L.get s).id inpacket (len + HEADERLEN) s

def input (K : IFsmSink σ) (inpacket : Bytes) (l : Nat) (s : σ) : σ :=
  match header inpacket l with
  | none => s
  | some (code, id, len) =>
    if (L.get s).state = .initial ∨ (L.get s).state = .starting then s
    else dispatch L K inpacket code id len s

end CPPPFsm

end OpenBras
