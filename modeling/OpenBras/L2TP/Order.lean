/-
  File:      OpenBras/L2TP/Order.lean
  Subject:   WHICH CONTROL MESSAGES A TUNNEL LEAVES ALONE: duplicates, messages out of order,
             messages whose AVPs are refused and messages of another tunnel.

  * `Inert t m` -- read off the tunnel and the message: handling `m` changes nothing and does
    nothing (`handleControllMessage_eq_iff`);
  * `Offending` -- the datagram's AVPs are refused by `HandleAVPs`, or its tunnel id is not the
    tunnel's own. `Decode` throws the result of `HandleAVPs` away and four handlers do not
    compare the tunnel id first, so such a datagram is ignored exactly if the walk over its AVPs
    ends, stays in the buffer and the arrays, and leaves an inert message;
  * `InOrder` -- a step acts on a message only under the number that is expected, and the number
    announced does not move backwards. Nothing compares the numbers, so a run is in order
    exactly if everything that arrives under another number is inert, or the repetition of the
    Hello just answered.
-/
import OpenBras.L2TP.Tunnel
import OpenBras.Lib.Run

namespace OpenBras

open Wire CL2TPControllMessage

/-! ## 1. Fields of a datagram -/

theorem getShort_nr (avps : Bytes) (tid cid ns nr : UInt16) :
    getShort (add_control_hdr avps tid cid ns nr) 10 = nr := by
  exact getShort_putShort nr avps

namespace CL2TPTunnel

/-! ## 2. What a control message does -/

/-- **What a control message does**, by its type and by what its handler compares. -/
inductive Handled (t : CL2TPTunnel) (m : CL2TPControllMessage) :
    CL2TPTunnel × List L2tpAct → Prop where
  | zlb (hz : m.bzlb = true) : Handled t m (t.handleZLB, [])
  | foreignReply (hz : m.bzlb = false) (hm : m.messatetype = SCCRP) (htid : m.tid ≠ t.ourtid) :
      Handled t m ({ t with timer := false, requestcount := 0 }, [])
  | reply (hz : m.bzlb = false) (hm : m.messatetype = SCCRP) (htid : m.tid = t.ourtid) :
      Handled t m
        ({ t.checkControlMessage m with
            timer := false, requestcount := 0, peertid := m.assigtunenid
            controlSeqNum := t.controlSeqNum + 1, isconnected := true },
          .sendData (add_control_hdr (add_message_type_avp SCCCN) m.assigtunenid 0
            t.controlSeqNum (t.checkControlMessage m).controlRecSeqNum) :: t.onTunnelResult 0 true)
  | stop (hz : m.bzlb = false) (hm : m.messatetype = StopCCN) (htid : m.tid = t.ourtid)
      (hpeer : t.peertid = m.assigtunenid) :
      Handled t m ((t.checkControlMessage m).removeChannel,
        [(t.checkControlMessage m).controlZLB 0])
  | hello (hz : m.bzlb = false) (hm : m.messatetype = Hello) (htid : m.tid = t.ourtid) :
      Handled t m (t.checkControlMessage m, [(t.checkControlMessage m).controlZLB 0])
  | callReply (s : CL2TPSession) (hz : m.bzlb = false) (hm : m.messatetype = ICRP)
      (hs : t.sessions m.cid = some s) :
      Handled t m ((t.checkControlMessage m).handleIncomingCallReply m m.cid s)
  | callDown (s : CL2TPSession) (hz : m.bzlb = false) (hm : m.messatetype = CDN)
      (hs : t.sessions m.cid = some s) :
      Handled t m ((t.checkControlMessage m).handleCallDisconnectNotify m s)
  /-- Nothing but its number is taken. -/
  | noted (hz : m.bzlb = false) (hm : m.messatetype ∈ sessionTypes)
      (hs : t.sessions m.cid = none ∨ m.messatetype ∉ [ICRP, CDN]) :
      Handled t m (t.checkControlMessage m, [])
  | passed (hz : m.bzlb = false) (hreply : m.messatetype ≠ SCCRP)
      (hstop : m.messatetype = StopCCN → ¬ (m.tid = t.ourtid ∧ t.peertid = m.assigtunenid))
      (hhello : m.messatetype = Hello → m.tid ≠ t.ourtid)
      (hm : m.messatetype ∉ sessionTypes) : Handled t m (t, [])

variable {t : CL2TPTunnel} {m : CL2TPControllMessage}

theorem handled_session (hz : m.bzlb = false) (hm : m.messatetype ∈ sessionTypes) :
    Handled t m (t.handleSessionControllMessage m) := by
  cases hs : t.sessions m.cid with
  | none =>
    have hnone : (t.checkControlMessage m).sessions m.cid = none := hs
    simp only [handleSessionControllMessage, hnone]
    exact .noted hz hm (.inl hs)
  | some s =>
    have hsome : (t.checkControlMessage m).sessions m.cid = some s := hs
    simp only [handleSessionControllMessage, hsome, sessionControllMessage]
    split
    · next hreply => exact .callReply s hz hreply hs
    split
    · next hdown => exact .callDown s hz hdown hs
    · next hreply hdown => exact .noted hz hm (.inr (by simp [hreply, hdown]))

theorem handled (t : CL2TPTunnel) (m : CL2TPControllMessage) :
    Handled t m (t.handleControllMessage m) := by
  unfold handleControllMessage
  split
  · next hz => exact .zlb hz
  next hz =>
  have hz := eq_false_of_ne_true hz
  split
  · next hm =>
      simp only [handleStartControlConnectionReply]
      split
      · next htid => exact .foreignReply hz hm htid
      · next htid => exact .reply hz hm (not_not.mp htid)
  next hreply =>
  split
  · next hm =>
      have hpassed : ¬ (m.tid = t.ourtid ∧ t.peertid = m.assigtunenid) → Handled t m (t, []) :=
        fun h => .passed hz hreply (fun _ => h) (fun h => absurd (hm.symm.trans h) (by decide))
          (by rw [hm]; decide)
      simp only [handleStopControlConnectionNotification]
      split
      · next htid => exact hpassed fun h => htid h.1
      split
      · next hpeer => exact hpassed fun h => hpeer h.2
      · next htid hpeer => exact .stop hz hm (not_not.mp htid) (not_not.mp hpeer)
  next hstop =>
  split
  · next hm =>
      simp only [handleHello]
      split
      · next htid =>
          exact .passed hz hreply (fun h => absurd h hstop) (fun _ => htid) (by rw [hm]; decide)
      · next htid => exact .hello hz hm (not_not.mp htid)
  next hhello =>
  split
  · next hm => exact handled_session hz hm
  · next hm => exact .passed hz hreply (fun h => absurd h hstop) (fun h => absurd h hhello) hm

/-! ## 3. Messages that do nothing -/

/-- Handling the message leaves the tunnel as it is and does nothing. -/
def Inert (t : CL2TPTunnel) (m : CL2TPControllMessage) : Prop :=
  if m.bzlb then t.helltimeoutcount = 0
  else if m.messatetype = SCCRP then
    m.tid ≠ t.ourtid ∧ t.timer = false ∧ t.requestcount = 0
  else if m.messatetype = StopCCN then m.tid ≠ t.ourtid ∨ t.peertid ≠ m.assigtunenid
  else if m.messatetype = Hello then m.tid ≠ t.ourtid
  else if m.messatetype ∈ sessionTypes then
    m.Ns + 1 = t.controlRecSeqNum ∧
      (t.sessions m.cid = none ∨ m.messatetype ∉ [ICRP, CDN])
  else True

theorem handleZLB_eq_iff : t.handleZLB = t ↔ t.helltimeoutcount = 0 := by
  cases t
  simp [handleZLB, eq_comm]

theorem checkControlMessage_eq_iff (hz : m.bzlb = false) :
    t.checkControlMessage m = t ↔ m.Ns + 1 = t.controlRecSeqNum := by
  cases t
  simp [checkControlMessage, hz]

theorem seqNum_ne (x : UInt16) : x + 1 ≠ x := by
  rw [ne_eq, UInt16.add_eq_left]
  decide

variable {s : CL2TPSession} {types : List UInt16} {as : List L2tpAct} {cid : UInt16}

/-- **A message is ignored exactly if it is inert.** -/
theorem handleControllMessage_eq_iff : t.handleControllMessage m = (t, []) ↔ Inert t m := by
  have h := handled t m
  generalize t.handleControllMessage m = r at h ⊢
  unfold Inert
  cases h with
  | zlb hz => simp [hz, handleZLB_eq_iff]
  | foreignReply hz hm htid =>
    cases t
    simp [hz, hm, htid, eq_comm, and_comm]
  | reply hz hm htid => simp [hz, hm, htid]
  | stop hz hm htid hpeer => simp [hz, hm, htid, hpeer, StopCCN, SCCRP]
  | hello hz hm htid => simp [hz, hm, htid, Hello, StopCCN, SCCRP]
  | callReply s hz hm hs =>
    simp [hz, hm, hs, handleIncomingCallReply, ICRP, Hello, StopCCN, SCCRP, sessionTypes]
  | callDown s hz hm hs =>
    simp [hz, hm, hs, handleCallDisconnectNotify, CDN, Hello, StopCCN, SCCRP, sessionTypes]
  | noted hz hm hs =>
    have hne : ∀ k ∉ sessionTypes, m.messatetype ≠ k := fun k hk h => hk (h ▸ hm)
    rw [if_neg (ne_true_of_eq_false hz), if_neg (hne SCCRP (by decide)),
      if_neg (hne StopCCN (by decide)), if_neg (hne Hello (by decide)), if_pos hm]
    simp only [Prod.mk.injEq, and_true, checkControlMessage_eq_iff hz, and_iff_left hs]
  | passed hz hreply hstop hhello hm =>
    rw [if_neg (ne_true_of_eq_false hz), if_neg hreply, if_neg hm]
    refine iff_of_true rfl ?_
    split
    · next h => exact not_and_or.mp (hstop h)
    split
    · next h => exact hhello h
    · trivial

/-! ## 4. Datagrams that ought to be ignored -/

/-- What `HandleAVPs` returns for the datagram; `Decode` does not look at it. -/
def avpsResult (fuel : Nat) (buffer : Bytes) (n : Nat) : Option Int :=
  (loop avpTurn fuel (avpStart buffer n { controlHdr buffer {} with bzlb := false }
    [(0, CONTROL_HDR)])).map (·.1)

/-- A control datagram whose AVPs are refused, or one of another tunnel. -/
def Offending (fuel : Nat) (buffer : Bytes) (n : Nat) (t : CL2TPTunnel) : Prop :=
  CTBIT (getShort buffer 0) ∧ CONTROL_HDR ≤ n ∧
    ((CONTROL_HDR < n ∧ avpsResult fuel buffer n = some (-1)) ∨ getShort buffer 4 ≠ t.ourtid)

section Input

variable {fuel : Nat} {buffer : Bytes} {n : Nat}

theorem handleInput_control {o : Option CL2TPControllMessage} (hc : n ≠ 0)
    (hv : CTBIT (getShort buffer 0)) (h : received fuel buffer n = .ok o) :
    t.handleInput fuel buffer n = .ok (o.elim (t, []) t.handleControllMessage) := by
  rw [handleInput, if_neg hc, if_pos hv, h]
  cases o <;> rfl

theorem handleInput_fault {fault : L2tpFault} (h : received fuel buffer n = .error fault) :
    t.handleInput fuel buffer n = .error fault := by
  have hc := h
  unfold received at hc
  split at hc
  · cases hc
  next hn =>
  rw [not_or, not_not] at hn
  rw [handleInput, if_neg hn.1, if_pos hn.2, h]

theorem faultOf_or_controlMessage (fuel : Nat) (buffer : Bytes) (n : Nat) :
    faultOf fuel buffer n = none ∨ controlMessage fuel buffer n = none := by
  unfold faultOf controlMessage
  cases received fuel buffer n with
  | ok o => exact .inl rfl
  | error fault => exact .inr rfl

/-- **What a datagram does**: it brings a control message, or data, or nothing, or it ends the
    process. -/
theorem input_cases {P : CL2TPTunnel × List L2tpAct → Prop}
    (hcontrol : ∀ m, controlMessage fuel buffer n = some m → P (t.handleControllMessage m))
    (hdata : ∀ msg, controlMessage fuel buffer n = none → faultOf fuel buffer n = none →
      P (t, t.handlePayLoadMessage msg))
    (hnone : controlMessage fuel buffer n = none → faultOf fuel buffer n = none → P (t, []))
    (hfault : ∀ fault, controlMessage fuel buffer n = none →
      faultOf fuel buffer n = some fault → P ({ t with fault := some fault }, [])) :
    P (t.input fuel buffer n) := by
  unfold controlMessage faultOf at *
  unfold input
  cases h : received fuel buffer n with
  | error fault =>
    rw [handleInput_fault h]
    rw [h] at hfault
    exact hfault fault rfl rfl
  | ok o =>
    rw [h] at hcontrol hdata hnone
    by_cases hn : n = 0
    · rw [handleInput, if_pos hn]
      rw [received, if_pos (.inl hn)] at h
      cases h
      exact hnone rfl rfl
    by_cases hv : CTBIT (getShort buffer 0)
    · rw [handleInput_control hn hv h]
      cases o with
      | none => exact hnone rfl rfl
      | some m => exact hcontrol m rfl
    · rw [received, if_pos (.inr hv)] at h
      cases h
      rw [handleInput, if_neg hn, if_neg hv]
      cases CL2TPDataMessage.decode buffer n {} with
      | mk r msg =>
        by_cases hr : r = 0
        · subst hr
          exact hdata msg rfl rfl
        · simpa [hr] using hnone rfl rfl

theorem input_control (h : controlMessage fuel buffer n = some m) :
    t.input fuel buffer n = t.handleControllMessage m := by
  refine input_cases (P := (· = t.handleControllMessage m)) (fun m' hm => ?_) (fun _ hm _ => ?_)
    (fun hm _ => ?_) fun _ hm _ => ?_
  · cases h.symm.trans hm
    rfl
  all_goals exact absurd (h.symm.trans hm) nofun

end Input

/-- **An offending datagram is ignored exactly if it does the process no harm and its message is
    inert**, for every tunnel and everything the receive buffer may hold. -/
theorem offending_ignored_iff (fuel : Nat) (buffer : Bytes) (n : Nat) (t : CL2TPTunnel) :
    (Offending fuel buffer n t → t.handleInput fuel buffer n = .ok (t, [])) ↔
      (Offending fuel buffer n t → faultOf fuel buffer n = none ∧
        ∀ m, controlMessage fuel buffer n = some m → Inert t m) := by
  refine forall_congr' fun hoff => ?_
  unfold faultOf controlMessage
  cases h : received fuel buffer n with
  | error fault => simp [handleInput_fault h]
  | ok o =>
    have hn : n ≠ 0 := fun hn => absurd (hn ▸ hoff.2.1) (by decide)
    rw [handleInput_control hn hoff.1 h]
    cases o with
    | none => simp
    | some m => simp [handleControllMessage_eq_iff]

instance (fuel : Nat) (buffer : Bytes) (n : Nat) (t : CL2TPTunnel) :
    Decidable (Offending fuel buffer n t) :=
  inferInstanceAs (Decidable (_ ∧ _ ∧ _))

/-- A Start-Control-Connection-Reply to tunnel 2. -/
def foreignReply : Bytes :=
  add_control_hdr (add_message_type_avp SCCRP ++ add_tunnelid_avp 7) 2 0 0 1

/-- A Start-Control-Connection-Reply to tunnel 1, with a mandatory AVP nobody knows behind it. -/
def refusedReply : Bytes :=
  add_control_hdr (add_message_type_avp SCCRP ++ add_tunnelid_avp 7 ++ add_header 6 99) 1 0 0 1

/-- A reply to another tunnel stops the retries of this one, and a reply whose AVPs are refused
    connects it. -/
theorem offending_acted_on :
    ¬ (Offending 4 foreignReply 28 { ourtid := 1 } →
        handleInput 4 foreignReply 28 { ourtid := 1 } = .ok ({ ourtid := 1 }, [])) ∧
      ¬ (Offending 4 refusedReply 34 { ourtid := 1 } →
        handleInput 4 refusedReply 34 { ourtid := 1 } = .ok ({ ourtid := 1 }, [])) := by
  constructor
  · intro h
    have ht := congrArg (·.map (·.1.timer)) (h (by decide +kernel))
    revert ht
    decide +kernel
  · intro h
    have ht := congrArg (·.map (·.1.isconnected)) (h (by decide +kernel))
    revert ht
    decide +kernel

/-! ## 5. What a step sends -/

/-- A datagram that a tunnel sends, with the type of the message if it is one of the control
    connection and not a mere acknowledgement; `nr` is the number that the tunnel expects. -/
inductive Datagram (nr : UInt16) : Option UInt16 → Bytes → Prop where
  | control (type : UInt16) (avps : Bytes) (tid cid ns : UInt16) :
      Datagram nr (some type) (add_control_hdr (add_message_type_avp type ++ avps) tid cid ns nr)
  | zlb (tid cid ns : UInt16) : Datagram nr none (add_control_hdr [] tid cid ns nr)
  | data (length tid cid : UInt16) (payload : Bytes) :
      Datagram nr none (putShort (LBIT ||| VER_L2TP) ++ putShort length ++ putShort tid ++
        putShort cid ++ payload)

/-- What is sent are such datagrams, and the messages are of the given types. -/
def Sends (types : List UInt16) (r : CL2TPTunnel × List L2tpAct) : Prop :=
  ∀ d, L2tpAct.sendData d ∈ r.2 →
    ∃ type, Datagram r.1.controlRecSeqNum type d ∧ ∀ k, type = some k → k ∈ types

theorem sends_nil : Sends types (t, []) := fun _ h => by cases h

theorem Sends.mono {types' : List UInt16} {r : CL2TPTunnel × List L2tpAct} (h : Sends types r)
    (hsub : types ⊆ types') : Sends types' r := by
  intro d hd
  obtain ⟨type, hdatagram, htype⟩ := h d hd
  exact ⟨type, hdatagram, fun k hk => hsub (htype k hk)⟩

theorem sends_cons {type : Option UInt16} {d : Bytes} (hd : Datagram t.controlRecSeqNum type d)
    (htype : ∀ k, type = some k → k ∈ types) (has : ∀ d, L2tpAct.sendData d ∉ as) :
    Sends types (t, .sendData d :: as) := by
  intro d' h
  cases h with
  | head => exact ⟨type, hd, htype⟩
  | tail _ h => exact absurd h (has d')

theorem sends_control {type : UInt16} {avps : Bytes} {tid ns : UInt16}
    (has : ∀ d, L2tpAct.sendData d ∉ as) :
    Sends [type] (t, .sendData (add_control_hdr (add_message_type_avp type ++ avps) tid cid ns
      t.controlRecSeqNum) :: as) :=
  sends_cons (.control ..) (fun k hk => by simpa using hk.symm) has

theorem sends_controlZLB (has : ∀ d, L2tpAct.sendData d ∉ as) :
    Sends types (t, t.controlZLB cid :: as) :=
  sends_cons (.zlb ..) (fun k hk => by cases hk) has

theorem onTunnelResult_sends {r : Int} {b : Bool} (d : Bytes) :
    L2tpAct.sendData d ∉ t.onTunnelResult r b := by
  unfold onTunnelResult
  split <;> simp

theorem onSessionCallBack_sends {r : Int} (d : Bytes) :
    L2tpAct.sendData d ∉ t.onSessionCallBack r cid := by
  unfold onSessionCallBack
  split <;> simp

theorem startConnectRequest_sends : Sends [SCCRQ] t.startConnectRequest := by
  simp only [startConnectRequest, sendControl, List.append_assoc]
  exact sends_control fun _ h => by cases h

theorem startCall_sends : Sends [ICRQ] (t.startCall s) := by
  simp only [startCall, sendControl, List.append_assoc]
  exact sends_control fun _ h => by cases h

theorem disconnect_sends : Sends [StopCCN] t.disconnect := by
  simp only [disconnect, sendControl, List.append_assoc]
  exact sends_control fun _ h => by cases h

theorem handleTimeout_sends : Sends [SCCRQ] t.handleTimeout := by
  unfold handleTimeout
  split
  · exact fun d h => absurd h (onTunnelResult_sends d)
  · exact startConnectRequest_sends

theorem sessionSendData_sends {data : Bytes} : Sends [] (t, t.sessionSendData cid data) := by
  unfold sessionSendData
  split
  · dsimp only
    split
    · exact sends_nil
    · exact sends_cons (.data ..) (fun k hk => by cases hk) fun _ h => by cases h
  · exact sends_nil

theorem handlePayLoadMessage_sends {msg : CL2TPDataMessage} :
    Sends [] (t, t.handlePayLoadMessage msg) := by
  intro d h
  unfold handlePayLoadMessage at h
  split at h
  · cases h
  split at h
  · split at h
    · simp at h
    · cases h
  · cases h

theorem handleControllMessage_sends : Sends [SCCCN, ICCN] (t.handleControllMessage m) := by
  have h := handled t m
  generalize t.handleControllMessage m = r at h ⊢
  cases h with
  | reply =>
    have hsub : [SCCCN] ⊆ [SCCCN, ICCN] := by decide
    rw [← List.append_nil (add_message_type_avp SCCCN)]
    exact (sends_control onTunnelResult_sends).mono hsub
  | stop => exact sends_controlZLB (t := (t.checkControlMessage m).removeChannel) (by simp)
  | hello => exact sends_controlZLB (by simp)
  | callReply s =>
    have hsub : [ICCN] ⊆ [SCCCN, ICCN] := by decide
    exact (sends_control (t := ((t.checkControlMessage m).handleIncomingCallReply m m.cid s).1)
      onSessionCallBack_sends).mono hsub
  | callDown s =>
    refine sends_controlZLB (t := (t.checkControlMessage m).removeSession m.cid) fun d h => ?_
    split at h <;> simp at h
  | _ => exact sends_nil

/-- The types of message that an event can make a tunnel send. -/
def sentTypes : Event → List UInt16
  | .makeIncomingCall _ _ => [ICRQ]
  | _ => [SCCRQ, StopCCN, SCCCN, ICCN]

/-- **What a step sends.** -/
theorem step_sends (fuel : Nat) (t : CL2TPTunnel) (e : Event) :
    Sends (sentTypes e) (t.step fuel e) := by
  unfold step
  split
  · exact sends_nil
  cases e with
  | input buffer n =>
    have hsub : [SCCCN, ICCN] ⊆ [SCCRQ, StopCCN, SCCCN, ICCN] := by decide
    exact input_cases (fun _ _ => handleControllMessage_sends.mono hsub)
      (fun _ _ _ => handlePayLoadMessage_sends.mono (List.nil_subset _)) (fun _ _ => sends_nil)
      fun _ _ _ => sends_nil
  | timeout =>
    simp only
    split
    · exact handleTimeout_sends.mono (by decide)
    · exact sends_nil
  | startConnectRequest => exact startConnectRequest_sends.mono (by decide)
  | openSink sink => exact sends_nil
  | openWithSink cid sink => exact sends_nil
  | makeIncomingCall proxy bUserProxy => exact startCall_sends
  | sessionSendData cid data => exact sessionSendData_sends.mono (List.nil_subset _)
  | disconnect => exact disconnect_sends.mono (by decide)

/-- Every control message among the acts announces the number the tunnel expects. -/
def Announces (r : CL2TPTunnel × List L2tpAct) : Prop :=
  ∀ d, L2tpAct.sendData d ∈ r.2 → CTBIT (getShort d 0) → getShort d 10 = r.1.controlRecSeqNum

/-- **Whatever happens, a control message announces the number the tunnel then expects.** -/
theorem step_announces (fuel : Nat) (t : CL2TPTunnel) (e : Event) :
    Announces (t.step fuel e) := by
  intro d hd hc
  obtain ⟨type, hdatagram, -⟩ := step_sends fuel t e d hd
  cases hdatagram with
  | control type avps tid cid ns => exact getShort_nr ..
  | zlb tid cid ns => exact getShort_nr ..
  | data length tid cid payload =>
    -- a data message is no control message
    rw [List.append_assoc, List.append_assoc, List.append_assoc, getShort_putShort] at hc
    exact absurd hc (by decide)

/-! ## 6. Order -/

/-- The control message an event brings. -/
def arriving (fuel : Nat) (t : CL2TPTunnel) : Event → Option CL2TPControllMessage
  | .input buffer n => if t.halted then none else controlMessage fuel buffer n
  | _ => none

/-- The type of a control message we send. -/
def sentType (d : Bytes) : Option UInt16 :=
  if CTBIT (getShort d 0) ∧ CONTROL_HDR < d.length then some (getShort d (CONTROL_HDR + AVP_HDR))
  else none

/-- Neither an SCCCN nor an ICCN, and no call of a sink. -/
def Harmless : L2tpAct → Prop
  | .sendData d => sentType d ≠ some SCCCN ∧ sentType d ≠ some ICCN
  | _ => False

/-- **One step in order**: a message that is not the next one changes nothing, makes us send no
    SCCCN or ICCN and calls no sink; the number we announce is that of the tunnel, and it moves
    forwards (by less than half of the numbers) or not at all. -/
structure InOrder (fuel : Nat) (t : CL2TPTunnel) (e : Event) : Prop where
  once : ∀ m, t.arriving fuel e = some m → m.bzlb = false → m.Ns ≠ t.controlRecSeqNum →
    t.next fuel e = t ∧ ∀ a ∈ (t.step fuel e).2, Harmless a
  forwards : (t.next fuel e).controlRecSeqNum - t.controlRecSeqNum < 0x8000
  announced : Announces (t.step fuel e)

/-- What arrives is the next message, or one that makes no difference: an inert one, or the
    Hello that was answered last. -/
def Expected (fuel : Nat) (t : CL2TPTunnel) (e : Event) : Prop :=
  ∀ m, t.arriving fuel e = some m → m.bzlb = false →
    m.Ns = t.controlRecSeqNum ∨ Inert t m ∨
      (m.messatetype = Hello ∧ m.Ns + 1 = t.controlRecSeqNum)

theorem step_arriving {fuel : Nat} {e : Event} (h : t.arriving fuel e = some m) :
    t.halted = false ∧ t.step fuel e = t.handleControllMessage m := by
  cases e with
  | input buffer n =>
    simp only [arriving] at h
    split at h
    · cases h
    · next hr =>
        rw [step, if_neg hr]
        exact ⟨by simpa using hr, input_control h⟩
  | _ => cases h

theorem step_rec {fuel : Nat} {e : Event} (h : t.arriving fuel e = none) :
    (t.next fuel e).controlRecSeqNum = t.controlRecSeqNum := by
  unfold next step
  split
  · rfl
  next hr =>
  cases e with
  | input buffer n =>
    rw [arriving, if_neg hr] at h
    exact input_cases (P := fun r => r.1.controlRecSeqNum = t.controlRecSeqNum)
      (fun m hm => absurd (h.symm.trans hm) nofun) (fun _ _ _ => rfl) (fun _ _ => rfl)
      fun _ _ _ => rfl
  | timeout =>
    simp only
    split
    · unfold handleTimeout
      split <;> rfl
    · rfl
  | openWithSink cid sink =>
    simp only [openWithSink]
    split <;> rfl
  | makeIncomingCall proxy bUserProxy =>
    simp only [makeIncomingCall, addSession]
    split <;> rfl
  | _ => rfl

/-- A message moves the number to the one behind its own, or not at all. -/
theorem handleControllMessage_rec (hz : m.bzlb = false) :
    (t.handleControllMessage m).1.controlRecSeqNum = t.controlRecSeqNum ∨
      (t.handleControllMessage m).1.controlRecSeqNum = m.Ns + 1 := by
  have hc : (t.checkControlMessage m).controlRecSeqNum = m.Ns + 1 := by
    simp [checkControlMessage, hz]
  have h := handled t m
  generalize t.handleControllMessage m = r at h ⊢
  cases h with
  | zlb | foreignReply | passed => exact .inl rfl
  | _ => exact .inr hc

/-- **The messages that leave the tunnel as it is**: the inert ones, and the Hello that was
    answered last, which is answered again. -/
theorem handleControllMessage_kept (hr : t.halted = false) (hz : m.bzlb = false)
    (h : (t.handleControllMessage m).1 = t) :
    Inert t m ∨ (m.messatetype = Hello ∧ m.Ns + 1 = t.controlRecSeqNum) := by
  by_cases has : (t.handleControllMessage m).2 = []
  · exact .inl (handleControllMessage_eq_iff.mp (Prod.ext h has))
  have h' := handled t m
  generalize t.handleControllMessage m = r at h h' has
  cases h' with
  | reply | callReply => exact absurd (congrArg controlSeqNum h) (seqNum_ne _)
  | stop => exact absurd ((congrArg halted h).trans hr) (by simp [halted, removeChannel])
  | hello _ hm => exact .inr ⟨hm, (checkControlMessage_eq_iff hz).mp h⟩
  | callDown s _ _ hs =>
    have hu : Function.update t.sessions m.cid none m.cid = t.sessions m.cid :=
      congrFun (congrArg sessions h) m.cid
    rw [Function.update_self, hs] at hu
    cases hu
  | _ => exact absurd rfl has

/-- The repetition of a Hello is answered, and that is all. -/
theorem handleHello_again (hz : m.bzlb = false) (hm : m.messatetype = Hello)
    (hn : m.Ns + 1 = t.controlRecSeqNum) :
    (t.handleControllMessage m).1 = t ∧ ∀ a ∈ (t.handleControllMessage m).2, Harmless a := by
  have hcheck := (checkControlMessage_eq_iff (t := t) hz).mpr hn
  rw [handleControllMessage, if_neg (by simp [hz]), if_neg (by rw [hm]; decide),
    if_neg (by rw [hm]; decide), if_pos hm, handleHello, hcheck]
  split
  · exact ⟨rfl, fun a ha => by cases ha⟩
  refine ⟨rfl, fun a ha => ?_⟩
  rw [List.mem_singleton.mp ha]
  -- a ZLB is a header alone
  exact ⟨by simp [sentType, add_control_hdr, putShort, CONTROL_HDR],
    by simp [sentType, add_control_hdr, putShort, CONTROL_HDR]⟩

theorem inOrder_iff (fuel : Nat) (t : CL2TPTunnel) (e : Event) :
    InOrder fuel t e ↔ Expected fuel t e := by
  constructor
  · intro h m hm hz
    obtain ⟨hr, hstep⟩ := step_arriving hm
    by_cases hn : m.Ns = t.controlRecSeqNum
    · exact .inl hn
    · have hkept := (h.once m hm hz hn).1
      rw [next, hstep] at hkept
      exact .inr (handleControllMessage_kept hr hz hkept)
  · intro h
    refine ⟨fun m hm hz hn => ?_, ?_, step_announces fuel t e⟩
    · obtain ⟨hr, hstep⟩ := step_arriving hm
      rw [next, hstep]
      rcases (h m hm hz).resolve_left hn with hi | ⟨hh, hn⟩
      · rw [handleControllMessage_eq_iff.mpr hi]
        exact ⟨rfl, fun a ha => by cases ha⟩
      · exact handleHello_again hz hh hn
    · cases hm : t.arriving fuel e with
      | none =>
        rw [step_rec hm, UInt16.sub_self]
        decide
      | some m =>
        obtain ⟨hr, hstep⟩ := step_arriving hm
        rw [next, hstep]
        by_cases hz : m.bzlb = true
        · rw [handleControllMessage, if_pos hz]
          simp [handleZLB]
        rw [Bool.not_eq_true] at hz
        rcases h m hm hz with hn | hi | ⟨hh, hn⟩
        · rcases handleControllMessage_rec (t := t) hz with hrec | hrec
          · simp [hrec]
          · rw [hrec, hn, UInt16.add_comm, UInt16.add_sub_cancel]
            decide
        · simp [handleControllMessage_eq_iff.mpr hi]
        · simp [(handleHello_again hz hh hn).1]

/-- **A run is in order, step by step, exactly if only expected messages arrive.** -/
theorem inOrder_iff_expected (fuel : Nat) (t : CL2TPTunnel) (es : List Event) :
    Along (next fuel) (InOrder fuel) t es ↔ Along (next fuel) (Expected fuel) t es :=
  along_congr (inOrder_iff fuel) t es

instance (t : CL2TPTunnel) (m : CL2TPControllMessage) : Decidable (Inert t m) := by
  unfold Inert
  exact inferInstance

instance (fuel : Nat) (t : CL2TPTunnel) (e : Event) : Decidable (Expected fuel t e) :=
  decidable_of_iff
    (∀ m ∈ (t.arriving fuel e).toList, m.bzlb = false →
      m.Ns = t.controlRecSeqNum ∨ Inert t m ∨
        (m.messatetype = Hello ∧ m.Ns + 1 = t.controlRecSeqNum))
    (by simp only [Option.mem_toList]; rfl)

/-- A Start-Control-Connection-Reply to tunnel 1. -/
def ownReply : Bytes :=
  add_control_hdr (add_message_type_avp SCCRP ++ add_tunnelid_avp 7) 1 0 0 1

def hello (ns : UInt16) : Bytes := add_control_hdr (add_message_type_avp Hello) 1 0 ns 1

/-- A reply that arrives twice connects twice, and a Hello that arrives once more behind a later
    one takes the number back. -/
theorem duplicate_and_late_acted_on :
    ¬ Along (next 4) (InOrder 4) { ourtid := 1 }
        [.startConnectRequest, .input ownReply 28, .input ownReply 28] ∧
      ¬ Along (next 4) (InOrder 4) { ourtid := 1 }
        [.input (hello 0) 20, .input (hello 1) 20, .input (hello 0) 20] :=
  ⟨fun h => absurd ((along_congr (inOrder_iff 4) _ _).mp h) (by decide +kernel),
    fun h => absurd ((along_congr (inOrder_iff 4) _ _).mp h) (by decide +kernel)⟩

end CL2TPTunnel

end OpenBras
