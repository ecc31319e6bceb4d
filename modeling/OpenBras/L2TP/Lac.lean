/-
  File:      OpenBras/L2TP/Lac.lean
  Subject:   THE ACCESS CONCENTRATOR AND ITS TUNNELS: `CL2TPLAC` (src/l2tp/CL2TPLAC.cpp), and how
             a tunnel that is not connected goes on asking.

  The table has one tunnel for a server. `MakeTunnel` makes it and sends the first SCCRQ; the
  retry timer sends the others, and gives up. The pointer to a tunnel is handed out with
  `OnTunnelIndication(0, ..)` only, so that calls reach connected tunnels only; datagrams and the
  timer reach all of them. The tunnels share `m_psink`, which the last `MakeTunnel` has set.

  * `step`                 -- one event of the concentrator;
  * `sccrqNs`, `failures`  -- what a tunnel has sent and reported;
  * `handleControllMessage_other`, `step_connected` -- what an event does to a tunnel, as far as
    asking goes.
-/
import OpenBras.L2TP.Order

namespace OpenBras

open Wire CL2TPControllMessage CL2TPTunnel

/-! ## 1. `CL2TPLAC` -/

/-- `psink` says whether `m_psink` is set, `fault` what a datagram has done to the process; `α` is
    the type of the servers' addresses. -/
structure CL2TPLAC (α : Type) where
  psink : Bool := false
  tunnelidbase : UInt16 := 1
  l2tpServers : α → Option CL2TPTunnel := fun _ => none
  fault : Option L2tpFault := none

namespace CL2TPLAC

variable {α : Type} [DecidableEq α]

inductive Event (α : Type) where
  | makeTunnel (psink : Bool) (serveraddr : α)
  /-- A datagram, the timer or a call of the tunnel to a server. -/
  | tunnel (serveraddr : α) (e : CL2TPTunnel.Event)

/-- `MakeTunnel`. -/
def makeTunnel (psink : Bool) (serveraddr : α) (s : CL2TPLAC α) : CL2TPLAC α × List L2tpAct :=
  let s := { s with psink }
  match s.l2tpServers serveraddr with
  | none =>
    let tunnel : CL2TPTunnel := { ourtid := s.tunnelidbase, indication := psink }
    let (tunnel, as) := tunnel.startConnectRequest
    ({ s with
        tunnelidbase := s.tunnelidbase + 1
        l2tpServers := Function.update s.l2tpServers serveraddr (some tunnel) }, as)
  | some tunnel => (s, if tunnel.isconnected then [.onTunnelIndication 0 true] else [])

/-- Whether an event can reach the tunnel: a call needs the pointer. -/
def reaches (t : CL2TPTunnel) : CL2TPTunnel.Event → Bool
  | .input _ _ => true
  | .timeout => true
  | .startConnectRequest => false
  | .openSink _ => t.isconnected
  | .openWithSink _ _ => t.isconnected
  | .makeIncomingCall _ _ => t.isconnected
  | .sessionSendData _ _ => t.isconnected
  | .disconnect => t.isconnected

/-- What an event of a tunnel does; a tunnel that `RemoveChannel` was called for is gone. -/
def tunnelStep (fuel : Nat) (serveraddr : α) (e : CL2TPTunnel.Event) (s : CL2TPLAC α) :
    CL2TPLAC α × List L2tpAct :=
  match s.l2tpServers serveraddr with
  | none => (s, [])
  | some t =>
    if reaches t e then
      let (t, as) := CL2TPTunnel.step fuel { t with indication := s.psink } e
      if t.fault.isSome then ({ s with fault := t.fault }, as)
      else
        ({ s with l2tpServers :=
            Function.update s.l2tpServers serveraddr (if t.removed then none else some t) }, as)
    else (s, [])

/-- One event. The tunnels share the process, which does nothing more after a fault. -/
def step (fuel : Nat) (s : CL2TPLAC α) (ev : Event α) : CL2TPLAC α × List L2tpAct :=
  if s.fault.isSome then (s, [])
  else
    match ev with
    | .makeTunnel psink serveraddr => s.makeTunnel psink serveraddr
    | .tunnel serveraddr e => s.tunnelStep fuel serveraddr e

end CL2TPLAC

/-! ## 2. What is sent and reported -/

namespace CL2TPTunnel

/-- The `Ns` of the SCCRQs among the acts. -/
def sccrqNs (as : List L2tpAct) : List UInt16 :=
  as.filterMap fun
    | .sendData d => if sentType d = some SCCRQ then some (getShort d 8) else none
    | _ => none

/-- How often a failure is reported through `OnTunnelIndication`. -/
def failures (as : List L2tpAct) : Nat :=
  as.countP fun
    | .onTunnelIndication r _ => r == -1
    | _ => false

/-- No SCCRQ is sent and no failure reported. -/
def Mute (as : List L2tpAct) : Prop := sccrqNs as = [] ∧ failures as = 0

theorem mute_nil : Mute [] := ⟨rfl, rfl⟩

theorem Mute.append {as bs : List L2tpAct} (ha : Mute as) (hb : Mute bs) : Mute (as ++ bs) := by
  unfold Mute sccrqNs failures at *
  rw [List.filterMap_append, List.countP_append, ha.1, hb.1, ha.2, hb.2]
  exact ⟨rfl, rfl⟩

theorem mute_send {d : Bytes} (h : sentType d ≠ some SCCRQ) : Mute [.sendData d] := by
  refine ⟨?_, rfl⟩
  simp only [sccrqNs, List.filterMap_cons, if_neg h, List.filterMap_nil]

theorem sentType_control (type : UInt16) (avps : Bytes) (tid cid ns nr : UInt16) :
    sentType (add_control_hdr (add_message_type_avp type ++ avps) tid cid ns nr) = some type := by
  have hver : CTBIT (getShort (add_control_hdr (add_message_type_avp type ++ avps) tid cid ns nr) 0)
      = true := by
    have h0 : getShort (add_control_hdr (add_message_type_avp type ++ avps) tid cid ns nr) 0 =
        TBIT ||| LBIT ||| FBIT ||| VER_L2TP := getShort_putShort _ _
    rw [h0]
    decide
  have hlen : CONTROL_HDR <
      (add_control_hdr (add_message_type_avp type ++ avps) tid cid ns nr).length := by
    simp only [add_control_hdr, add_message_type_avp, add_header, add_nonmandatory_header,
      putShort, List.length_append, List.length_cons, List.length_nil, CONTROL_HDR]
    omega
  rw [sentType, if_pos ⟨hver, hlen⟩]
  exact congrArg some (getShort_putShort type avps)

theorem getShort_ns (avps : Bytes) (tid cid ns nr : UInt16) :
    getShort (add_control_hdr avps tid cid ns nr) 8 = ns :=
  getShort_putShort ns (putShort nr ++ avps)

theorem sentType_zlb (tid cid ns nr : UInt16) :
    sentType (add_control_hdr [] tid cid ns nr) = none := by
  simp [sentType, add_control_hdr, putShort, CONTROL_HDR]

theorem mute_control (type : UInt16) (h : type ≠ SCCRQ) (avps : Bytes) (tid cid ns nr : UInt16) :
    Mute [.sendData (add_control_hdr (add_message_type_avp type ++ avps) tid cid ns nr)] :=
  mute_send fun he => h (Option.some.inj ((sentType_control ..).symm.trans he))

variable {t : CL2TPTunnel} {m : CL2TPControllMessage}

theorem mute_controlZLB (cid : UInt16) : Mute [t.controlZLB cid] :=
  mute_send (by rw [sentType_zlb]; exact nofun)

theorem mute_onTunnelResult (tunnel : Bool) : Mute (t.onTunnelResult 0 tunnel) := by
  unfold onTunnelResult
  split
  · exact ⟨rfl, rfl⟩
  · exact mute_nil

theorem mute_onSessionCallBack (result : Int) (cid : UInt16) :
    Mute (t.onSessionCallBack result cid) := by
  unfold onSessionCallBack
  split
  · exact ⟨rfl, rfl⟩
  · exact mute_nil

theorem mute_sessionSendData (cid : UInt16) (data : Bytes) : Mute (t.sessionSendData cid data) := by
  unfold sessionSendData
  split
  · dsimp only
    split
    · exact mute_nil
    refine mute_send ?_
    have h0 : ∀ q : Bytes, sentType (putShort (LBIT ||| VER_L2TP) ++ q) = none := fun q => by
      rw [sentType, getShort_putShort, if_neg (by rintro ⟨h, -⟩; exact absurd h (by decide))]
    rw [List.append_assoc, List.append_assoc, List.append_assoc, h0]
    exact fun h => by cases h
  · exact mute_nil

/-! ## 3. Control messages -/

/-- An SCCRP to this tunnel. -/
def OwnReply (t : CL2TPTunnel) (m : CL2TPControllMessage) : Prop :=
  m.bzlb = false ∧ m.messatetype = SCCRP ∧ m.tid = t.ourtid

/-- An SCCRP that names another tunnel. -/
def ForeignReply (t : CL2TPTunnel) (m : CL2TPControllMessage) : Prop :=
  m.bzlb = false ∧ m.messatetype = SCCRP ∧ m.tid ≠ t.ourtid

/-- A StopCCN to this tunnel, from the one it takes for its peer. -/
def OwnStop (t : CL2TPTunnel) (m : CL2TPControllMessage) : Prop :=
  m.bzlb = false ∧ m.messatetype = StopCCN ∧ m.tid = t.ourtid ∧ t.peertid = m.assigtunenid

instance (t : CL2TPTunnel) (m : CL2TPControllMessage) : Decidable (OwnReply t m) :=
  inferInstanceAs (Decidable (_ ∧ _))

instance (t : CL2TPTunnel) (m : CL2TPControllMessage) : Decidable (ForeignReply t m) :=
  inferInstanceAs (Decidable (_ ∧ _))

instance (t : CL2TPTunnel) (m : CL2TPControllMessage) : Decidable (OwnStop t m) :=
  inferInstanceAs (Decidable (_ ∧ _))

/-- What asking depends on. -/
def trial (t : CL2TPTunnel) :
    Bool × Int × Bool × UInt16 × Bool × UInt16 × UInt16 × (UInt16 → Option CL2TPSession) :=
  (t.timer, t.requestcount, t.isconnected, t.controlSeqNum, t.halted, t.ourtid, t.peertid,
    t.sessions)

/-- **No control message makes a tunnel send an SCCRQ or report a failure.** -/
theorem mute_handleControllMessage : Mute (t.handleControllMessage m).2 := by
  have h := handled t m
  generalize t.handleControllMessage m = r at h ⊢
  cases h with
  | reply =>
    have hsend := mute_control SCCCN (by decide) [] m.assigtunenid 0 t.controlSeqNum
      (t.checkControlMessage m).controlRecSeqNum
    rw [List.append_nil] at hsend
    exact hsend.append (mute_onTunnelResult true)
  | stop | hello => exact mute_controlZLB 0
  | callReply s =>
    exact (mute_control ICCN (by decide) (add_txspeed_avp 1000000000) ..).append
      (mute_onSessionCallBack ..)
  | callDown s =>
    have hdown : Mute (if s.psink then [L2tpAct.onSessionDisconnect 0 s.localcid] else []) := by
      cases s.psink <;> exact ⟨rfl, rfl⟩
    exact (mute_controlZLB s.peercid).append hdown
  | _ => exact mute_nil

theorem handleControllMessage_connected (hc : t.isconnected = true) (ht : t.timer = false) :
    (t.handleControllMessage m).1.isconnected = true ∧
      (t.handleControllMessage m).1.timer = false := by
  have h := handled t m
  generalize t.handleControllMessage m = r at h ⊢
  cases h with
  | reply => exact ⟨rfl, rfl⟩
  | foreignReply | stop => exact ⟨hc, rfl⟩
  | _ => exact ⟨hc, ht⟩

theorem handleControllMessage_foreign (h : ForeignReply t m) :
    t.handleControllMessage m = ({ t with timer := false, requestcount := 0 }, []) := by
  obtain ⟨hz, hm, htid⟩ := h
  rw [handleControllMessage, if_neg (by rw [hz]; decide), if_pos hm]
  unfold handleStartControlConnectionReply
  dsimp only
  rw [if_pos htid]

theorem handleControllMessage_own (h : OwnReply t m) :
    (t.handleControllMessage m).1.isconnected = true ∧
      (t.handleControllMessage m).1.timer = false ∧
      (t.handleControllMessage m).1.halted = t.halted := by
  obtain ⟨hz, hm, htid⟩ := h
  rw [handleControllMessage, if_neg (by rw [hz]; decide), if_pos hm]
  unfold handleStartControlConnectionReply
  dsimp only
  rw [if_neg (not_not.mpr htid)]
  exact ⟨rfl, rfl, rfl⟩

theorem handleControllMessage_stop (h : OwnStop t m) :
    (t.handleControllMessage m).1.removed = true := by
  obtain ⟨hz, hm, htid, hpeer⟩ := h
  rw [handleControllMessage, if_neg (by rw [hz]; decide), if_neg (by rw [hm]; decide), if_pos hm]
  unfold handleStopControlConnectionNotification
  rw [if_neg (not_not.mpr htid), if_neg (not_not.mpr hpeer)]
  rfl

/-- Every other message leaves a tunnel without sessions as it was. -/
theorem handleControllMessage_other (hs : ∀ c, t.sessions c = none) (hf : ¬ ForeignReply t m)
    (ho : ¬ OwnReply t m) (hstop : ¬ OwnStop t m) :
    trial (t.handleControllMessage m).1 = trial t := by
  have h := handled t m
  generalize t.handleControllMessage m = r at h ⊢
  cases h with
  | foreignReply hz hm htid => exact absurd ⟨hz, hm, htid⟩ hf
  | reply hz hm htid => exact absurd ⟨hz, hm, htid⟩ ho
  | stop hz hm htid hpeer => exact absurd ⟨hz, hm, htid, hpeer⟩ hstop
  | callReply s _ _ hsome => exact absurd ((hs m.cid).symm.trans hsome) (by simp)
  | callDown s _ _ hsome => exact absurd ((hs m.cid).symm.trans hsome) (by simp)
  | _ => rfl

/-! ## 4. Events of a tunnel -/

theorem mute_handlePayLoadMessage (msg : CL2TPDataMessage) :
    Mute (t.handlePayLoadMessage msg) := by
  unfold handlePayLoadMessage
  split
  · exact mute_nil
  split
  · split
    · exact ⟨rfl, rfl⟩
    · exact mute_nil
  · exact mute_nil

theorem input_quiet {fuel : Nat} {buffer : Bytes} {n : Nat}
    (h : controlMessage fuel buffer n = none) (hf : faultOf fuel buffer n = none) :
    (t.input fuel buffer n).1 = t ∧ Mute (t.input fuel buffer n).2 :=
  input_cases (P := fun r => r.1 = t ∧ Mute r.2) (fun _ hm => absurd (h.symm.trans hm) nofun)
    (fun msg _ _ => ⟨rfl, mute_handlePayLoadMessage msg⟩) (fun _ _ => ⟨rfl, mute_nil⟩)
    fun _ _ hs => absurd (hf.symm.trans hs) nofun

theorem startConnectRequest_acts :
    sccrqNs t.startConnectRequest.2 = [t.controlSeqNum] ∧ failures t.startConnectRequest.2 = 0 := by
  refine ⟨?_, rfl⟩
  simp only [startConnectRequest, sendControl, sccrqNs, List.filterMap_cons, List.append_assoc,
    sentType_control, if_true, List.filterMap_nil, getShort_ns]

/-- **A connected tunnel** asks no more, whatever happens to it. -/
theorem step_connected (fuel : Nat) {e : Event} (hc : t.isconnected = true) (ht : t.timer = false)
    (hr : CL2TPLAC.reaches t e) :
    (t.step fuel e).1.isconnected = true ∧ (t.step fuel e).1.timer = false ∧
      Mute (t.step fuel e).2 := by
  unfold CL2TPTunnel.step
  split
  · exact ⟨hc, ht, mute_nil⟩
  cases e with
  | input buffer n =>
    refine input_cases (P := fun r => r.1.isconnected = true ∧ r.1.timer = false ∧ Mute r.2)
      (fun m _ => ?_) (fun msg _ _ => ⟨hc, ht, mute_handlePayLoadMessage msg⟩)
      (fun _ _ => ⟨hc, ht, mute_nil⟩) fun _ _ _ => ⟨hc, ht, mute_nil⟩
    obtain ⟨hc', ht'⟩ := handleControllMessage_connected (m := m) hc ht
    exact ⟨hc', ht', mute_handleControllMessage⟩
  | timeout =>
    dsimp only
    rw [ht, if_neg Bool.false_ne_true]
    exact ⟨hc, ht, mute_nil⟩
  | startConnectRequest => cases hr
  | openSink sink => exact ⟨hc, ht, mute_nil⟩
  | openWithSink cid sink =>
    dsimp only [openWithSink]
    split
    · exact ⟨hc, ht, mute_nil⟩
    · exact ⟨hc, ht, mute_nil⟩
  | makeIncomingCall proxy bUserProxy =>
    have hsend : ∀ (s : CL2TPSession) (u : CL2TPTunnel), Mute (u.startCall s).2 := fun s u => by
      simp only [startCall, sendControl, List.append_assoc]
      exact mute_control _ (by decide) ..
    refine ⟨?_, ?_, hsend _ _⟩
    · simp only [makeIncomingCall, startCall, sendControl, addSession]
      split <;> exact hc
    · simp only [makeIncomingCall, startCall, sendControl, addSession]
      split <;> exact ht
  | sessionSendData cid data => exact ⟨hc, ht, mute_sessionSendData cid data⟩
  | disconnect =>
    refine ⟨hc, ht, ?_⟩
    simp only [disconnect, sendControl, List.append_assoc]
    exact mute_control _ (by decide) ..

theorem halted_eq_false : t.halted = false ↔ t.removed = false ∧ t.fault = none := by
  simp [halted]

/-- What an event does to the process. -/
def faults (fuel : Nat) : Event → Option L2tpFault
  | .input buffer n => faultOf fuel buffer n
  | _ => none

theorem fault_step (fuel : Nat) (h : t.halted = false) (e : Event) :
    (t.step fuel e).1.fault = faults fuel e := by
  have hf : t.fault = none := (halted_eq_false.mp h).2
  rw [CL2TPTunnel.step.eq_def, if_neg (by rw [h]; nofun)]
  cases e with
  | input buffer n =>
    refine input_cases (P := fun r => r.1.fault = faultOf fuel buffer n) (fun m hm => ?_)
      (fun _ _ hs => hf.trans hs.symm) (fun _ hs => hf.trans hs.symm) fun _ _ hs => hs.symm
    have hnone : faultOf fuel buffer n = none :=
      (faultOf_or_controlMessage fuel buffer n).resolve_right (by rw [hm]; nofun)
    have h := handled t m
    generalize t.handleControllMessage m = r at h ⊢
    cases h <;> exact hf.trans hnone.symm
  | timeout =>
    dsimp only
    split
    · unfold handleTimeout
      split <;> exact hf
    · exact hf
  | openWithSink cid sink =>
    dsimp only [openWithSink]
    split <;> exact hf
  | makeIncomingCall proxy bUserProxy =>
    simp only [makeIncomingCall, startCall, sendControl, addSession]
    split <;> exact hf
  | _ => exact hf

end CL2TPTunnel

end OpenBras
