/-
  File:      OpenBras/PPP/LcpView.lean
  Subject:   LCP AS A MACHINE OF ITS OWN: its record, the packets it has sent and the deletion mark
             of the session, and the things that can happen to these.

  `LcpView` is a session with everything else left out. The peer's options (`ho`) and its MRU are
  left out too: nothing here depends on them. A `Deed` is one thing LCP does as a whole -- a fresh
  Configure-Request is the reset of the options, the next identifier, the packet and the new state
  -- or one thing that happens to it: the session is marked, or LCP goes down (`Fallen`), after
  which it sends nothing more.

  Not among the deeds are the four things the results about LCP are about: a retransmission,
  coming up, and the echo packets of either side.

  * `Exec.lcpView` -- the view of a session;
  * `sendData_control`, `protocolLog_onPPPOutput` -- what a packet adds to what was sent;
  * `Deeds` -- a sequence of deeds.
-/
import Mathlib.Logic.Relation
import OpenBras.PPP.FsmCourse
import OpenBras.PPP.SessionRules

namespace OpenBras

open Wire

/-! ## 1. Packets by their protocol -/

/-- A packet of an automaton as the client gets it. -/
def controlPacket (protocol : UInt16) (code id : UInt8) (data : Bytes) (n : Nat) : Bytes :=
  putShort protocol ++ [code, id] ++
    putShort (min n (PPP_MRU - HEADERLEN) + HEADERLEN).toUInt16 ++
    data.take (min n (PPP_MRU - HEADERLEN))

/-- The code of a packet of an automaton. -/
def packetCode (p : Bytes) : UInt8 := byteAt p 2

/-- What stands behind the length. -/
def packetBody (p : Bytes) : Bytes := p.drop 6

@[simp] theorem packetCode_controlPacket (protocol : UInt16) (code id : UInt8) (data : Bytes)
    (n : Nat) : packetCode (controlPacket protocol code id data n) = code := rfl

@[simp] theorem packetBody_controlPacket (protocol : UInt16) (code id : UInt8) (data : Bytes)
    (n : Nat) : packetBody (controlPacket protocol code id data n) =
      data.take (min n (PPP_MRU - HEADERLEN)) := rfl

namespace Exec

open CPPPFsm

/-- The packets sent of one protocol, newest first. -/
def protocolLog (protocol : UInt16) (s : Exec) : List Bytes :=
  s.hist.output.filter fun p => getShort p 0 == protocol

theorem protocolLog_onPPPOutput {protocol : UInt16} {p : Bytes}
    (hp : getShort p PPP_ADDR_CTRL_LEN ≠ protocol) (s : Exec) :
    (onPPPOutput p s).protocolLog protocol = s.protocolLog protocol := by
  have hdrop : (getShort (p.drop PPP_ADDR_CTRL_LEN) 0 == protocol) = false := by
    rw [getShort_drop]
    exact beq_false_of_ne hp
  unfold onPPPOutput
  split
  · rfl
  split
  · rfl
  split
  · rfl
  · exact List.filter_cons_of_neg (by rw [hdrop]; decide)

/-- What `sendData` puts out: nothing once the session is marked. -/
theorem sendData_control {L : Lens Exec CPPPFsm} {K : CiSink Exec}
    (hK : K.outputPacket = onPPPOutput) {protocol : UInt16} (hc : isControl protocol = true)
    {s : Exec} (hp : (L.get s).protocol = protocol) (code id : UInt8) (data : Bytes) (n : Nat) :
    sendData L K code id data n s =
      if s.sessionToBeDeleted then s
      else { s with
        hist := { s.hist with output := controlPacket protocol code id data n :: s.hist.output } } := by
  have hpacket : [PPP_ALLSTATIONS, PPP_UI] ++ putShort protocol ++ [code, id] ++
      putShort (min n (PPP_MRU - HEADERLEN) + HEADERLEN).toUInt16 ++
        data.take (min n (PPP_MRU - HEADERLEN)) =
      [PPP_ALLSTATIONS, PPP_UI] ++ controlPacket protocol code id data n := by
    simp only [controlPacket, List.append_assoc]
  have hget : getShort ([PPP_ALLSTATIONS, PPP_UI] ++ controlPacket protocol code id data n)
      PPP_ADDR_CTRL_LEN = protocol := by
    have hd := getShort_drop ([PPP_ALLSTATIONS, PPP_UI] ++ controlPacket protocol code id data n) 2 0
    rw [show PPP_ADDR_CTRL_LEN = 2 + 0 from rfl, ← hd]
    show getShort (controlPacket protocol code id data n) 0 = protocol
    simp only [controlPacket, List.append_assoc]
    exact getShort_putShort _ _
  have hlen : (controlPacket protocol code id data n).length ≤ 1502 ∧
      6 ≤ (controlPacket protocol code id data n).length := by
    have hmin : min n (PPP_MRU - HEADERLEN) ≤ 1496 := Nat.min_le_right _ _
    simp only [controlPacket, putShort, List.length_append, List.length_cons, List.length_nil,
      List.length_take]
    omega
  unfold sendData
  dsimp only
  rw [hK, hp, hpacket]
  unfold onPPPOutput
  rw [hget, hc, Bool.and_true, if_neg (by
    rw [List.length_append, show PPP_HDRLEN = 4 from rfl]
    simp only [List.length_cons, List.length_nil]
    omega)]
  split
  · rfl
  rw [if_neg]
  · rfl
  rw [List.length_append, show PPP_ADDR_CTRL_LEN = 2 from rfl,
    show ETH_JUMBO_LEN = 1508 from rfl]
  simp only [List.length_cons, List.length_nil]
  omega

end Exec

/-! ## 2. The view -/

/-- LCP with its surroundings left out. -/
@[ext]
structure LcpView where
  lcp : CPPPLCP
  /-- the LCP packets sent, newest first -/
  log : List Bytes
  /-- the session is marked for deletion -/
  marked : Bool

def Exec.lcpView (s : Exec) : LcpView where
  lcp := { s.lcp with ho := {}, peerMru := 0 }
  log := s.protocolLog PPP_LCP
  marked := s.sessionToBeDeleted

namespace LcpView

open CPPPFsm

def state (v : LcpView) : FsmState := v.lcp.fsm.state

def withFsm (f : CPPPFsm) (v : LcpView) : LcpView := { v with lcp := { v.lcp with fsm := f } }

def goto (q : FsmState) (v : LcpView) : LcpView := v.withFsm { v.lcp.fsm with state := q }

/-- A marked session sends no LCP packet. -/
def send (code id : UInt8) (data : Bytes) (n : Nat) (v : LcpView) : LcpView :=
  if v.marked then v else { v with log := controlPacket PPP_LCP code id data n :: v.log }

/-- `Resetci` with the number drawn. -/
def resetLcp (magic : UInt32) (l : CPPPLCP) : CPPPLCP :=
  let wo := { l.wo with magicnumber := magic, numloops := 0 }
  { l with
    wo := wo, magicnumber := magic,
    go := { wo with negMrru := false, negSsnhf := false, negEndpoint := false } }

def withGo (go : LcpOptions) (v : LcpView) : LcpView := { v with lcp := { v.lcp with go := go } }

/-- A Configure-Request with the next identifier. -/
def request (v : LcpView) : LcpView :=
  (v.withFsm { v.lcp.fsm with id := v.lcp.fsm.id + 1, reqid := v.lcp.fsm.id + 1 }).send CONFREQ
    (v.lcp.fsm.id + 1) v.lcp.go.addci (min v.lcp.go.cilen (PPP_MRU - HEADERLEN))

/-- `EchoLowerDown`. -/
def echoOff (l : CPPPLCP) : CPPPLCP :=
  if l.echoTimerRunning then { l with echoTimer := false, echoTimerRunning := false } else l

/-- `Down`: the echo timer is off and the session is marked. -/
def down (v : LcpView) : LcpView := { v with lcp := echoOff v.lcp, marked := true }

/-- An Echo-Request. -/
def ping (v : LcpView) : LcpView :=
  let w := v.send ECHOREQ (UInt8.ofNat v.lcp.echoNumber) (putLong v.lcp.magicnumber) 4
  { w with
    lcp := { w.lcp with
      echoNumber := w.lcp.echoNumber + 1, echosPending := w.lcp.echosPending + 1 } }

/-- `Up`, as far as it is LCP's own: the first Echo-Request, and the timer for more. -/
def risen (v : LcpView) : LcpView :=
  let l := v.lcp
  let v := { v with
    lcp := { l.echoReset with fsm := { l.fsm with state := .opened }, go := l.go.settled } }
  if l.echoInterval ≠ 0 then
    { v.ping with lcp := { v.ping.lcp with echoTimer := true, echoTimerRunning := true } }
  else v

/-- A Configure-Request once more, with the identifier it had. -/
def resend (v : LcpView) : LcpView :=
  let f := { v.lcp.fsm with seenAck := false, retransmits := v.lcp.fsm.retransmits - 1, timer := true }
  ((v.send CONFREQ v.lcp.fsm.reqid v.lcp.go.addci
    (min v.lcp.go.cilen (PPP_MRU - HEADERLEN))).withFsm f).goto
      (if v.state = .ackRcvd then .reqSent else v.state)

/-- No Echo-Request is pending. -/
def answered (v : LcpView) : LcpView := { v with lcp := { v.lcp with echosPending := 0 } }

variable (code id : UInt8) (data : Bytes) (n : Nat) (v : LcpView)

@[simp] theorem send_marked : (v.send code id data n).marked = v.marked := by
  unfold send
  split <;> rfl

@[simp] theorem send_lcp : (v.send code id data n).lcp = v.lcp := by
  unfold send
  split <;> rfl

@[simp] theorem lcp_ping : v.ping.lcp = { v.lcp with
    echoNumber := v.lcp.echoNumber + 1, echosPending := v.lcp.echosPending + 1 } := by
  unfold ping
  dsimp only
  rw [send_lcp]

theorem marked_ping : v.ping.marked = v.marked := send_marked _ _ _ _ v

/-- Coming up leaves the options alone, but for a magic number that was not agreed on. -/
theorem risen_keeps : v.risen.lcp.go = v.lcp.go.settled ∧ v.risen.lcp.wo = v.lcp.wo ∧
    v.risen.lcp.magicnumber = v.lcp.magicnumber ∧ v.risen.marked = v.marked := by
  unfold risen
  dsimp only
  split
  · rw [lcp_ping, marked_ping]
    exact ⟨rfl, rfl, rfl, rfl⟩
  · exact ⟨rfl, rfl, rfl, rfl⟩

theorem log_send {v : LcpView} (hm : v.marked = false) :
    (v.send code id data n).log = controlPacket PPP_LCP code id data n :: v.log := by
  unfold send
  rw [hm]
  rfl

theorem log_suffix_send {u v : LcpView} (h : u.log = v.log) (code id : UInt8) (data : Bytes)
    (n : Nat) : v.log <:+ (u.send code id data n).log := by
  unfold send
  rw [← h]
  split
  · exact List.suffix_refl _
  · exact List.suffix_cons _ _

theorem log_suffix_request {u v : LcpView} (h : u.log = v.log) : v.log <:+ u.request.log := by
  unfold request
  refine log_suffix_send ?_ _ _ _ _
  exact h

@[simp] theorem state_withFsm (f : CPPPFsm) (v : LcpView) : (v.withFsm f).state = f.state := rfl

@[simp] theorem state_goto (q : FsmState) (v : LcpView) : (v.goto q).state = q := rfl

@[simp] theorem state_send :
    (v.send code id data n).state = v.state := congrArg (·.fsm.state) (send_lcp code id data n v)

@[simp] theorem lcp_request :
    v.request.lcp = { v.lcp with
      fsm := { v.lcp.fsm with id := v.lcp.fsm.id + 1, reqid := v.lcp.fsm.id + 1 } } :=
  send_lcp _ _ _ _ _

@[simp] theorem state_request : v.request.state = v.state := state_send _ _ _ _ _

@[simp] theorem marked_request : v.request.marked = v.marked := send_marked _ _ _ _ _

theorem withFsm_send (f : CPPPFsm) (code id : UInt8) (data : Bytes) (n : Nat) (v : LcpView) :
    (v.send code id data n).withFsm f = (v.withFsm f).send code id data n := by
  unfold send withFsm
  dsimp only
  split <;> rfl

end LcpView

/-! ## 3. Deeds -/

/-- The records agree in the state, the identifiers and the protocol. -/
structure CPPPFsm.Alike (f g : CPPPFsm) : Prop where
  state : g.state = f.state
  id : g.id = f.id
  reqid : g.reqid = f.reqid
  protocol : g.protocol = f.protocol

/-- The options LCP goes on with: as they were, or with a Nak or Reject of the peer taken in. -/
inductive Takes (l : CPPPLCP) : LcpOptions → Prop
  | same : Takes l l.go
  | nak {rand : Nat → UInt32} {draws draws' : Nat} {p : Bytes} {n : Nat} {treatAsReject : Bool}
      {tryop : LcpOptions} {loopedBack : Bool} (numloops : Nat)
      (h : LcpOptions.nakScan l.go l.wo rand draws p n treatAsReject =
        (some (tryop, loopedBack), draws')) : Takes l { tryop with numloops := numloops }
  | rej {p : Bytes} {n : Nat} {tryop : LcpOptions}
      (h : LcpOptions.rejScan l.go p n = some tryop) : Takes l tryop

theorem Takes.congr {l l' : CPPPLCP} {go : LcpOptions} (h : Takes l go) (hgo : l'.go = l.go)
    (hwo : l'.wo = l.wo) : Takes l' go := by
  cases h with
  | same => exact hgo ▸ .same
  | nak k h => exact .nak k (by rw [hgo, hwo]; exact h)
  | rej h => exact .rej (by rw [hgo]; exact h)

/-- LCP has gone down: the session is marked, the echo timer is off and nothing has been sent
    since. The options may have been reset by a request that was not sent. -/
structure Fallen (v w : LcpView) : Prop where
  lcp : ∃ l, ((∃ go, Takes v.lcp go ∧ l = { v.lcp with go := go }) ∨
      ∃ magic, l = LcpView.resetLcp magic v.lcp) ∧
    w.lcp = { LcpView.echoOff l with fsm := w.lcp.fsm }
  protocol : w.lcp.fsm.protocol = v.lcp.fsm.protocol
  log : w.log = v.log
  marked : w.marked = true

namespace Fallen

variable {v w : LcpView}

theorem withFsm (h : Fallen v w) {f : CPPPFsm} (hf : f.protocol = w.lcp.fsm.protocol) :
    Fallen v (w.withFsm f) := by
  obtain ⟨l, hl, hlcp⟩ := h.lcp
  refine ⟨⟨l, hl, ?_⟩, hf.trans h.protocol, h.log, h.marked⟩
  show { w.lcp with fsm := f } = _
  rw [hlcp]
  rfl

theorem of_down {go : LcpOptions} (hgo : Takes v.lcp go) {f : CPPPFsm}
    (hf : f.protocol = v.lcp.fsm.protocol) : Fallen v ((v.withGo go).withFsm f).down := by
  have hlcp : ((v.withGo go).withFsm f).down.lcp =
      { LcpView.echoOff { v.lcp with go := go } with fsm := f } := by
    unfold LcpView.down LcpView.echoOff LcpView.withFsm LcpView.withGo
    dsimp only
    split <;> rfl
  have hfsm : ((v.withGo go).withFsm f).down.lcp.fsm = f := congrArg (·.fsm) hlcp
  refine ⟨⟨_, Or.inl ⟨go, hgo, rfl⟩, ?_⟩, ?_, rfl, rfl⟩
  · rw [hfsm]
    exact hlcp
  · rw [hfsm]
    exact hf

theorem send (h : Fallen v w) (code id : UInt8) (data : Bytes) (n : Nat) :
    Fallen v (w.send code id data n) := by
  unfold LcpView.send
  rwa [if_pos h.marked]

theorem request (h : Fallen v w) : Fallen v w.request := by
  unfold LcpView.request
  refine Fallen.send ?_ _ _ _ _
  exact h.withFsm rfl

theorem reset (h : Fallen v w) (magic : UInt32) :
    Fallen v { w with lcp := LcpView.resetLcp magic w.lcp } := by
  obtain ⟨l, hl, hlcp⟩ := h.lcp
  refine ⟨⟨LcpView.resetLcp magic v.lcp, Or.inr ⟨magic, rfl⟩, ?_⟩, h.protocol, h.log, h.marked⟩
  show LcpView.resetLcp magic w.lcp = _
  rw [hlcp]
  rcases hl with ⟨go, _, rfl⟩ | ⟨magic', rfl⟩
  · unfold LcpView.echoOff LcpView.resetLcp
    dsimp only
    split <;> rfl
  · unfold LcpView.echoOff LcpView.resetLcp
    dsimp only
    split <;> rfl

end Fallen

/-- One thing LCP does, or that happens to it. -/
inductive Deed : LcpView → LcpView → Prop
  /-- the timer, the counters and the like -/
  | calm {v : LcpView} {f : CPPPFsm} (h : v.lcp.fsm.Alike f) : Deed v (v.withFsm f)
  /-- negotiation is left, or was not going on -/
  | rest {v : LcpView} {q : FsmState} (hq : q.resting = true) (hv : v.state ≠ .opened) :
      Deed v (v.goto q)
  /-- from one state of negotiation to another -/
  | shift {v : LcpView} {q : FsmState} (hq : q.negotiating = true)
      (hv : v.state.negotiating = true) : Deed v (v.goto q)
  /-- a packet of the peer is answered, with its identifier -/
  | answer {v : LcpView} {code : UInt8} (id : UInt8) (data : Bytes) (n : Nat)
      (h : CPPPFsm.isAnswer code = true) : Deed v (v.send code id data n)
  /-- a Code-Reject or Protocol-Reject -/
  | reject {v : LcpView} {code : UInt8} (data : Bytes) (n : Nat)
      (h : code = CODEREJ ∨ code = PROTREJ) :
      Deed v ((v.withFsm { v.lcp.fsm with id := v.lcp.fsm.id + 1 }).send code
        (v.lcp.fsm.id + 1) data n)
  /-- another Terminate-Request -/
  | termReq {v : LcpView} (data : Bytes) (n : Nat) (h : v.state.terminating = true) :
      Deed v ((v.withFsm { v.lcp.fsm with
        id := v.lcp.fsm.id + 1, reqid := v.lcp.fsm.id + 1 }).send TERMREQ (v.lcp.fsm.id + 1) data n)
  /-- the first request of a negotiation -/
  | fresh {v : LcpView} (magic : UInt32) (h : v.state.resting = true) :
      Deed v (({ v with lcp := LcpView.resetLcp magic v.lcp }).request.goto .reqSent)
  /-- a new request, after a Nak or Reject or for want of an answer to the point -/
  | renew {v : LcpView} {go : LcpOptions} (hgo : Takes v.lcp go)
      (h : v.state.negotiating = true) : Deed v ((v.withGo go).request)
  /-- a Nak or Reject that comes too late -/
  | take {v : LcpView} {go : LcpOptions} (hgo : Takes v.lcp go) (h : v.state.resting = true) :
      Deed v (v.withGo go)
  | fall {v w : LcpView} (h : Fallen v w) (hw : w.state ≠ .opened) : Deed v w
  | mark (v : LcpView) : Deed v { v with marked := true }

/-- **Nothing is taken back**: the log grows at its newest end. -/
theorem Deed.log_suffix {v w : LcpView} (h : Deed v w) : v.log <:+ w.log := by
  cases h with
  | answer id data n hc => exact LcpView.log_suffix_send rfl _ _ _ _
  | reject | termReq =>
    refine LcpView.log_suffix_send ?_ _ _ _ _
    rfl
  | fresh magic hs =>
    exact LcpView.log_suffix_request (u := { v with lcp := LcpView.resetLcp magic v.lcp }) rfl
  | renew hgo hs =>
    refine LcpView.log_suffix_request ?_
    rfl
  | fall h hw => exact h.log ▸ List.suffix_refl _
  | calm | rest | shift | take | mark => exact List.suffix_refl _

/-- From one view to another in deeds. -/
def Deeds : LcpView → LcpView → Prop := Relation.ReflTransGen Deed

namespace Deeds

theorem refl (v : LcpView) : Deeds v v := Relation.ReflTransGen.refl

theorem snoc {u v w : LcpView} (h : Deeds u v) (hd : Deed v w) : Deeds u w :=
  Relation.ReflTransGen.tail h hd

/-- **The invariant rule**: what every deed keeps, a sequence of deeds keeps. -/
theorem keeps {I : LcpView → Prop} (hI : ∀ {v w}, Deed v w → I v → I w) {v w : LcpView}
    (h : Deeds v w) (hv : I v) : I w := by
  induction h with
  | refl => exact hv
  | tail _ hd ih => exact hI hd ih

theorem log_suffix {v w : LcpView} (h : Deeds v w) : v.log <:+ w.log :=
  h.keeps (I := fun u => v.log <:+ u.log) (fun hd hu => hu.trans hd.log_suffix)
    (List.suffix_refl _)

end Deeds

end OpenBras
