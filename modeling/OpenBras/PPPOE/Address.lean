/-
  File:      OpenBras/PPPOE/Address.lean
  Subject:   THE ADDRESSES OF A SUBSCRIBER: what the session manager is told, what the
             authentication manager assigned and what IPCP acknowledged, over every run.

  `HandleAuthResponse` stores the addresses of a response in IPCP's records, IPCP agrees on the
  client's address with the client, and `OnAddSubscriber` reports a subscriber. The three come
  apart in two places:
  * `CSession::OnAddSubscriber` overwrites the address with that of `GetIp`, which is 0 whatever
    was assigned and acknowledged;
  * a response stores its addresses before anybody looks at its result, so that a response
    that is not delivered changes them too.

  **`addresses_agree`**: in a run in which IPCP comes up only for clients that were assigned no
  address and got none acknowledged, and no response that is not delivered changes the
  addresses, the address and the servers of every subscriber are those of the response that
  authorised the session, and while IPCP is open the address is the one acknowledged.
  `subscriber_address_replaced` is a run of the first kind: an ordinary session.
-/
import OpenBras.Lib.Run
import OpenBras.PPPOE.Session

namespace OpenBras

open Wire

namespace Exec

open CPPPFsm

/-! ## 1. The property -/

/-- The address and the servers reported are those of the accepting response. -/
def Authorised (n : AddNote) : Prop :=
  ∃ a ∈ n.authorised, a.authResult = 0 ∧ n.user.userIp = a.subscriberIP ∧
    n.user.primaryDns = a.primaryDNS ∧ n.user.secondaryDns = a.secondaryDNS

instance (n : AddNote) : Decidable (Authorised n) :=
  inferInstanceAs (Decidable (∃ a ∈ n.authorised, _ ∧ _ ∧ _ ∧ _))

/-- The subscribers reported have the addresses of their responses, and while IPCP is open the
    last one has the address acknowledged to the client. -/
def AddressesAgree (s : Exec) : Prop :=
  (∀ o ∈ s.hist.subscribers, ∀ n ∈ o, Authorised n) ∧
    (s.ipcp.fsm.state = .opened →
      ∀ o ∈ s.hist.subscribers.head?, ∀ n ∈ o, s.hist.acked = some (swapLong n.user.userIp))

instance (s : Exec) : Decidable (AddressesAgree s) :=
  inferInstanceAs (Decidable ((∀ o ∈ s.hist.subscribers, ∀ n ∈ o, Authorised n) ∧
    (_ → ∀ o ∈ s.hist.subscribers.head?, ∀ n ∈ o, _ = some (swapLong n.user.userIp))))

/-- A packet that may bring IPCP up finds the client assigned no address, and none acknowledged:
    by the request it is, or by the last one before it. -/
def PacketFirm (packet : Bytes) (len : Nat) (s : Exec) : Prop :=
  (protocolOf packet len).1 = PPP_IPCP →
    ∀ h ∈ header (protocolOf packet len).2.1 (protocolOf packet len).2.2,
      Agreeing h.1 s.ipcp.fsm.state → s.ipcp.wo.hisaddr = 0 ∧
        if h.1 = CONFREQ then
          (addrOf ((protocolOf packet len).2.1.drop HEADERLEN) h.2.2).getD 0 = 0
        else s.hist.acked = some 0

instance (packet : Bytes) (len : Nat) (s : Exec) : Decidable (PacketFirm packet len s) :=
  inferInstanceAs (Decidable (_ → ∀ h ∈ header (protocolOf packet len).2.1
    (protocolOf packet len).2.2, Agreeing h.1 s.ipcp.fsm.state → s.ipcp.wo.hisaddr = 0 ∧
      if h.1 = CONFREQ then _ else _))

/-- The response carries the addresses in force. -/
def SameAddresses (r : AuthResponse) (i : CPPPIPCP) : Prop :=
  i.wo.hisaddr = swapLong r.subscriberIP ∧ i.ao.dnsaddr0 = swapLong r.primaryDNS ∧
    i.ao.dnsaddr1 = swapLong r.secondaryDNS

instance (r : AuthResponse) (i : CPPPIPCP) : Decidable (SameAddresses r i) :=
  inferInstanceAs (Decidable (_ ∧ _ ∧ _))

/-- A response that is not delivered changes nothing in the Network phase, unless it ends the
    session. -/
def AnswerFirm (s : Exec) (r : AuthResponse) : Prop :=
  delivers r.authResult s = false → s.phase = .network →
    s.lcp.authType = PPP_PAP ∨ SameAddresses r s.ipcp

instance (s : Exec) (r : AuthResponse) : Decidable (AnswerFirm s r) :=
  inferInstanceAs (Decidable (_ → _ → _ ∨ _))

/-- The condition on a step. -/
def KeepsAddresses (s : Exec) : SessEvent → Prop
  | .sessData f => PacketFirm ([PPP_ALLSTATIONS, PPP_UI] ++ f.payload) (f.length.toNat + 2) s
  | .response _ r => AnswerFirm s r
  | _ => True

instance (s : Exec) : ∀ e, Decidable (KeepsAddresses s e)
  | .sessData _ => inferInstanceAs (Decidable (PacketFirm _ _ s))
  | .response _ r => inferInstanceAs (Decidable (AnswerFirm s r))
  | .timer _ => isTrue trivial
  | .padt _ _ => isTrue trivial
  | .kick _ => isTrue trivial
  | .oneOff => isTrue trivial

/-! ## 2. IPCP -/

/-- The addresses in force are those of the response that authorised the session. -/
def InForce (s : Exec) : Prop :=
  ∃ a ∈ s.hist.authorised, a.authResult = 0 ∧ SameAddresses a s.ipcp

/-- The property, by IPCP's standing. -/
def Noted (c : Stand) (s : Exec) : Prop :=
  (∀ o ∈ s.hist.subscribers, ∀ n ∈ o, Authorised n) ∧
    (c = .up → ∀ o ∈ s.hist.subscribers.head?, ∀ n ∈ o,
      s.hist.acked = some (swapLong n.user.userIp))

/-- The invariant: only in the Network phase are the addresses known to be in force. -/
def Recorded (c : Stand) (s : Exec) : Prop := Noted c s ∧ (s.phase = .network → InForce s)

variable {c : Stand} {s : Exec} {r : AuthResponse}

theorem InForce.terms {i : CPPPIPCP} (ht : SameTerms s.ipcp i) (h : InForce s) :
    InForce { s with ipcp := i } := by
  obtain ⟨a, ha, h0, h1, h2, h3⟩ := h
  refine ⟨a, ha, h0, ht.hisaddr.trans h1, ?_, ?_⟩
  · exact (congrArg (·.dnsaddr0) ht.ao).trans h2
  · exact (congrArg (·.dnsaddr1) ht.ao).trans h3

theorem Recorded.low {c' : Stand} (h : Recorded c s) (hu : c' ≠ .up) : Recorded c' s :=
  ⟨⟨h.1.1, fun hc => absurd hc hu⟩, h.2⟩

theorem recorded_sendPADT (reason : String) (h : Recorded c s) :
    Recorded c (sendPADT reason s) := by
  unfold sendPADT
  split <;> exact h

/-- A deleted subscriber is the newest notification, and has no address. -/
theorem recorded_onIPCPDown (h : Recorded c s) {c' : Stand} (hu : c' ≠ .up) :
    Recorded c' (onIPCPDown s) := by
  refine recorded_sendPADT _ (Recorded.low (c := .idle) ⟨⟨fun o ho n hn => ?_, nofun⟩, h.2⟩ hu)
  rcases List.mem_cons.mp ho with rfl | ho
  · cases hn
  · exact h.1.1 o ho n hn

theorem recorded_owner : IpcpOwner Recorded where
  terms ht h := ⟨h.1, fun hn => (h.2 hn).terms ht⟩
  output p h := of_erased Exec.bare (fun _ => Iff.rfl) (bare_onPPPOutput p _) h
  acked h := h.low nofun
  ending h := h.low nofun
  down h := ⟨recorded_onIPCPDown h nofun, recorded_onIPCPDown h nofun⟩

theorem recorded_downIdle : DownIdle ipcpLayer Recorded :=
  fun _ h => ⟨recorded_onIPCPDown h nofun, recorded_onIPCPDown h nofun⟩

/-- The client was assigned no address, and none was acknowledged. -/
def Unaddressed (s : Exec) : Prop := s.ipcp.wo.hisaddr = 0 ∧ s.hist.acked = some 0

instance (s : Exec) : Decidable (Unaddressed s) := inferInstanceAs (Decidable (_ ∧ _))

/-- The invariant while a packet for IPCP is handled. -/
def Handling (c : Stand) (s : Exec) : Prop := Recorded c s ∧ s.phase = .network ∧ Reported s

theorem blind_networkReported : Blind fun s => s.phase = .network ∧ Reported s :=
  .of_outsideIpcp fun _ => Iff.rfl

theorem handling_owner : IpcpOwner Handling := recorded_owner.and blind_networkReported

theorem handling_onIPCPDown (h : Handling c s) {c' : Stand} (hu : c' ≠ .up) :
    Handling c' (onIPCPDown s) :=
  ⟨recorded_onIPCPDown h.1 hu, blind_networkReported.down h.2⟩

/-- **The subscriber is reported with the addresses in force**, if the address is none. -/
theorem recorded_onIPCPUp (hr : Reported s) (hn : s.phase = .network) (hu : Unaddressed s)
    (h : Recorded .acked s) : Recorded .up (onIPCPUp s) := by
  obtain ⟨a, ha, h0, h1, h2, h3⟩ := h.2 hn
  obtain ⟨username, hup⟩ := onIPCPUp_reported hr
  have hip : getIp = a.subscriberIP := by
    rw [← swapLong_swapLong a.subscriberIP, ← h1, hu.1]
    decide
  rw [hup]
  refine ⟨⟨fun o ho n hmem => ?_, fun _ o ho n hmem => ?_⟩, fun _ => ⟨a, ha, h0, h1, h2, h3⟩⟩
  · rcases List.mem_cons.mp ho with rfl | ho
    · cases hmem
      refine ⟨a, ha, h0, hip, ?_, ?_⟩
      · exact (congrArg swapLong h2).trans (swapLong_swapLong _)
      · exact (congrArg swapLong h3).trans (swapLong_swapLong _)
    · exact h.1.1 o ho n hmem
  · cases ho
    cases hmem
    have hz : (0 : UInt32) = swapLong getIp := by decide
    exact hu.2.trans (congrArg some hz)

/-- `Up` where there is no address; the other case is never reached. -/
def unaddressedUp (s : Exec) : Exec := if Unaddressed s then ipcpUp s else setState ipcpFsm .closed s

theorem unaddressed_assumeHisaddr (h : Unaddressed s) : Unaddressed (assumeHisaddr s) := by
  unfold assumeHisaddr
  split <;> exact h

theorem handling_unaddressedUp (hs : s.ipcp.fsm.state = .opened) (h : Handling .acked s) :
    Inv ipcpFsm Handling (unaddressedUp s) := by
  unfold unaddressedUp
  split
  · rename_i hg
    refine handling_owner.up_keeps hs (fun _ => ?_) (fun ht _ => handling_onIPCPDown ht nofun) h
    obtain ⟨hr, hn, ht⟩ := (handling_owner.assumeHisaddr h).2
    exact ⟨recorded_onIPCPUp ht hn (unaddressed_assumeHisaddr hg) hr,
      of_erased outsideIpcp (A := fun s => s.phase = .network ∧ Reported s)
        (fun _ => Iff.rfl) (outsideIpcp_onIPCPUp _) ⟨hn, ht⟩⟩
  · exact handling_owner.acked (s := setState ipcpFsm .closed s)
      (handling_owner.ciRules.fsm _ _ _ h)

/-- A request that is acknowledged and names no address leaves the client without one. -/
theorem unaddressed_ipcpReqci {inp : Bytes} {len : Nat} {r : Bool} (hip : s.ipcp.wo.hisaddr = 0)
    (ha : (addrOf inp len).getD 0 = 0) (hc : replyCode (ipcpReqci inp len r s).1 = confAck) :
    Unaddressed (ipcpReqci inp len r s).2 := by
  refine ⟨(sameTerms_reqci inp len r s).hisaddr.trans hip, ?_⟩
  unfold ipcpReqci at hc ⊢
  dsimp only at hc ⊢
  have hack : (reqciRun r inp len s.ipcp).rc = .ack := by
    cases hrc : (reqciRun r inp len s.ipcp).rc with
    | ack => rfl
    | _ => simp [hrc, replyCode, Conf.code, confAck, confNak, confRej] at hc
  rw [if_pos hack]
  show some ((addrOf inp len).getD s.ipcp.wo.hisaddr) = some 0
  rw [hip, ha]

/-- **A packet for IPCP keeps the addresses.** -/
theorem recorded_ipcpInput (p : Bytes) (n : Nat) (hn : s.phase = .network) (hr : Reported s)
    (hfirm : ∀ h ∈ header p n, Agreeing h.1 s.ipcp.fsm.state → s.ipcp.wo.hisaddr = 0 ∧
      if h.1 = CONFREQ then (addrOf (p.drop HEADERLEN) h.2.2).getD 0 = 0
      else s.hist.acked = some 0)
    (h : Inv ipcpFsm Recorded s) : Inv ipcpFsm Recorded (ipcpInput p n s) := by
  have rules : FsmRules ipcpFsm { ipcpSink with up := unaddressedUp } Handling :=
    handling_owner.rulesWith (fun _ _ _ h _ => ⟨⟨⟨h.1.1.1, nofun⟩, h.1.2⟩, h.2⟩)
      fun _ hs h => handling_unaddressedUp hs h
  show Inv ipcpFsm Recorded (CPPPFsm.input ipcpFsm ipcpSink p n (noteNcp s))
  rw [input_congr_called (s := noteNcp s) rules p n (P := Unaddressed) (fun _ _ h => h)
    (fun p t h => of_erased Exec.bare (fun _ => Iff.rfl) (bare_onPPPOutput p t) h)
    (fun _ h => (if_pos h).symm)
    (fun id len hh hq r hc => unaddressed_ipcpReqci (hfirm _ hh (Or.inl ⟨rfl, hq⟩)).1
      (hfirm _ hh (Or.inl ⟨rfl, hq⟩)).2 hc)
    (fun id len hh hq => hfirm _ hh (Or.inr ⟨rfl, hq⟩))]
  exact (handling_owner.inputWith rules p n (s := noteNcp s) ⟨h, hn, hr⟩).1

theorem recorded_ipcpTimeout (h : Inv ipcpFsm Recorded s) :
    Inv ipcpFsm Recorded (ipcpTimeout s) :=
  timeout_keeps recorded_owner.timerRules (fun _ _ _ => (h.low nofun : Recorded .idle s)) h

/-! ## 3. LCP and the authentication servers -/

theorem recorded_onLCPDown (h : Inv ipcpFsm Recorded s) :
    Inv ipcpFsm Recorded (onLCPDown s) := by
  have hc : Inv ipcpFsm Recorded (ipcpCloseFsm "LCP down" (ipcpLowerDown s)) :=
    close_keeps recorded_owner.closeRules _ (fun _ => recorded_downIdle)
      (lowerDown_keeps recorded_owner.layerRules h)
  unfold onLCPDown
  dsimp only
  show Recorded (sendPADT _ _).ipcp.fsm.state.stand _
  rw [ipcp_sendPADT]
  refine recorded_sendPADT _ ?_
  split
  · exact ⟨hc.1, nofun⟩
  · exact hc

theorem recorded_lcpOwner : Owner fun _ s => Inv ipcpFsm Recorded s where
  bare {_ s t} h hb := of_erased Exec.bare (A := fun s => Inv ipcpFsm Recorded s)
    (fun _ => Iff.rfl) hb h
  down h := ⟨recorded_onLCPDown h, recorded_onLCPDown h⟩
  padt {_ s} reason h := by
    show Recorded (sendPADT reason s).ipcp.fsm.state.stand _
    rw [ipcp_sendPADT]
    exact recorded_sendPADT reason h
  phase _ hph h := ⟨h.1, fun hn => absurd hn hph⟩

/-- `t` is `s` with the addresses of `r` stored and `r` still to be delivered. -/
def Storing (r : AuthResponse) (s t : Exec) : Prop :=
  Noted s.ipcp.fsm.state.stand t ∧ t.ipcp = (setAddresses r s).ipcp ∧ t.phase = s.phase ∧
    t.hist.answering = some r ∧ t.hist.authorised = s.hist.authorised

theorem storing_answered {k : Nat} {t : Exec} (h : Noted s.ipcp.fsm.state.stand s)
    (ht : Answered (addressed k r s) t) : Storing r s t :=
  ht.keeps (A := fun t => Storing r s t) (fun _ => Iff.rfl) (fun _ h => h)
    ⟨h, rfl, rfl, rfl, rfl⟩

theorem Storing.quiet {t : Exec} (ht : Storing r s t)
    (hsame : s.phase = .network → SameAddresses r s.ipcp) (h : Inv ipcpFsm Recorded s) :
    Inv ipcpFsm Recorded t := by
  obtain ⟨hnoted, hipcp, hphase, -, hauth⟩ := ht
  show Recorded t.ipcp.fsm.state.stand t
  rw [hipcp]
  refine ⟨hnoted, fun hn => ?_⟩
  rw [hphase] at hn
  obtain ⟨a, hmem, h0, h1, h2, h3⟩ := h.2 hn
  obtain ⟨e1, e2, e3⟩ := hsame hn
  unfold InForce SameAddresses
  rw [hipcp, hauth]
  exact ⟨a, hmem, h0, e1.symm.trans h1, e2.symm.trans h2, e3.symm.trans h3⟩

theorem Storing.success {t : Exec} (ht : Storing r s t) (protocol : UInt16)
    (h0 : r.authResult = 0) : Inv ipcpFsm Recorded (authenSuccess protocol t) := by
  obtain ⟨hnoted, hipcp, -, hanswering, -⟩ := ht
  refine fsmOpen_keeps recorded_owner.layerRules ?_
  show Recorded t.ipcp.fsm.state.stand _
  rw [hipcp]
  refine ⟨hnoted, fun _ => ⟨r, hanswering, h0, ?_⟩⟩
  show SameAddresses r t.ipcp
  rw [hipcp]
  exact ⟨rfl, rfl, rfl⟩

/-- A negative result leaves the Network phase before it closes LCP. -/
theorem Storing.failure {t : Exec} (ht : Storing r s t) (protocol : UInt16) :
    Inv ipcpFsm Recorded (authenFailure protocol t) := by
  refine recorded_lcpOwner.close _ ?_
  show Recorded t.ipcp.fsm.state.stand _
  rw [ht.2.1]
  exact ⟨ht.1, nofun⟩

/-- **A response keeps the addresses.** -/
theorem recorded_response (k : Nat) (r : AuthResponse) (hok : AnswerFirm s r)
    (h : Inv ipcpFsm Recorded s) : Inv ipcpFsm Recorded (response k r s) := by
  cases onAuthResponse_outcome r.authResult r.authResultDesc
    (addressed k r s) with
  | quiet ha hn hp _ =>
    exact (storing_answered h.1 ha).quiet (fun hph => (hok hn hph).resolve_left hp) h
  | success protocol t ha hd hu _ =>
    exact hu.keeps (fun _ _ h => h)
      ((storing_answered h.1 ha).success protocol (delivers_accepting hd))
  | failure protocol t ha _ hu _ =>
    exact hu.keeps (fun _ _ h => h) ((storing_answered h.1 ha).failure protocol)

/-! ## 4. Runs -/

theorem recorded_input (packet : Bytes) (len : Nat) (ho : OpenPhase s) (ht : TypedNetwork s)
    (hok : PacketFirm packet len s) (h : Inv ipcpFsm Recorded s) :
    Inv ipcpFsm Recorded (input packet len s) := by
  refine recorded_lcpOwner.input packet len (fun hp hs hph => ?_) (fun _ _ => ?_) (fun _ _ => ?_) h
  · have hn := network_of_packet ho hs hph
    rw [PacketFirm, hp] at hok
    exact recorded_ipcpInput _ _ hn (ht hn) (hok rfl) h
  · rw [papInput_eq]
    split <;> exact h
  · rw [chapInput_eq]
    repeat' split
    all_goals exact h

/-- **Every step that meets the condition keeps the addresses.** -/
theorem recorded_step (e : SessEvent) (ho : OpenPhase s) (ht : TypedNetwork s)
    (hok : KeepsAddresses s e) (h : Inv ipcpFsm Recorded s) :
    Inv ipcpFsm Recorded (sessStep s e) := by
  refine recorded_lcpOwner.sessStep e (fun f he => ?_) (fun _ _ _ => h) (recorded_ipcpTimeout h)
    (fun k r he => ?_) (fun _ => h) h
  · subst he
    exact recorded_input _ _ ho ht hok h
  · subst he
    exact recorded_response k r hok h

theorem recorded_start (c : Config) : Inv ipcpFsm Recorded (start c) := by
  refine fsmOpen_keeps (J := fun _ s => Inv ipcpFsm Recorded s)
    recorded_lcpOwner.layerRules ?_
  unfold pppInit
  dsimp only
  split <;> exact ⟨⟨nofun, nofun⟩, nofun⟩

/-- **The addresses of every subscriber are those of the response that authorised the session,
    and while IPCP is open the one acknowledged to the client**, in every run in which IPCP comes
    up only for a client that has no address, assigned or acknowledged, and no response that is
    not delivered changes the addresses. -/
theorem addresses_agree (c : Config) {es : List SessEvent}
    (h : Along sessStep KeepsAddresses (start c) es) :
    Throughout sessStep AddressesAgree (start c) es := by
  refine throughout_of_along
    (I := fun s => Inv ipcpFsm Recorded s ∧ OpenPhase s ∧ TypedNetwork s)
    (fun s e hI hok => ?_) (fun s hI => ?_)
    ⟨recorded_start c, openPhase_start c, typedNetwork_start c⟩ h
  · obtain ⟨hr, ho, ht⟩ := hI
    exact ⟨recorded_step e ho ht hok hr, openPhase_sessStep e ho, typedNetwork_sessStep e ht⟩
  · refine ⟨hI.1.1.1, fun hs => hI.1.1.2 ?_⟩
    rw [ipcpFsm_get, hs]
    rfl

/-- The request is accepted without an address for the client, which asks for 0.0.0.0, is
    refused, and comes up with a request that names none. -/
def withoutAddress : List SessEvent :=
  (Event.papRequested ++
    [Event.response 0 { session := 1, mac := [2, 0, 0, 0, 0, 1], authResult := 0 },
     Event.control PPP_IPCP CONFACK 1 [3, 6, 127, 0, 0, 1],
     Event.control PPP_IPCP CONFREQ 1 [3, 6, 0, 0, 0, 0],
     Event.control PPP_IPCP CONFREQ 2 []]).map Event.onWire

/-- A session without an address: the subscriber is reported with 0, as assigned. -/
theorem addresses_agree_session :
    Along sessStep KeepsAddresses (start (.sample PPP_PAP)) withoutAddress ∧
      Throughout sessStep AddressesAgree (start (.sample PPP_PAP)) withoutAddress ∧
      (run sessStep (start (.sample PPP_PAP)) withoutAddress).ipcp.fsm.state = .opened :=
  have h := by decide +kernel
  ⟨h, addresses_agree _ h, by decide +kernel⟩

/-- An ordinary session: the response assigns 10.0.0.1, IPCP acknowledges it, and the subscriber
    is reported with 0.0.0.0. -/
theorem subscriber_address_replaced :
    ¬ Throughout sessStep AddressesAgree (start (.sample PPP_PAP)) SessEvent.sessionUp :=
  fun h => absurd (throughout_last h) (by decide +kernel)

end Exec

end OpenBras
