/-
  File:      OpenBras/PPPOE/Subscriber.lean
  Subject:   THE SUBSCRIBER NOTIFICATIONS OF A SESSION: `OnAddSubscriber` and `OnDelSubscriber`
             over every run, up to the removal of the session.

  The notifications follow IPCP: `Up` adds, `Down` deletes. They come apart in three places:
  * a session is removed while IPCP is open, after a PADT of the client or a kick: neither
    closes IPCP, and the destructor deletes no subscriber;
  * LCP goes down while IPCP is `STOPPED`: `LowerDown` starts IPCP anew, and the `Close` after
    it finds it negotiating, where `TerminateLayer` delivers a `Down` without an `Up`;
  * IPCP comes up without an address of ours: `Up` closes it again without adding anybody, and
    closing it delivers `Down`.

  **`subscribers_paired`**: in a run without these three the notifications alternate, starting
  with an add, and a removed session has no unmatched one. `padt_leaves_subscriber` is a run of
  the first kind.
-/
import OpenBras.Lib.Alternation
import OpenBras.Lib.Run
import OpenBras.PPPOE.Session

namespace OpenBras

open Wire

namespace Exec

open CPPPFsm

/-! ## 1. The property -/

/-- The subscriber notifications, newest first: `true` adds, `false` deletes. -/
def notices (s : Exec) : List Bool := s.hist.subscribers.map Option.isSome

/-- The notifications alternate, and a removed session has no unmatched add. -/
def SubscribersPaired (s : Exec) : Prop :=
  Alternates s.notices ∧ (s.hist.removed = true → ¬ Pending s.notices)

instance (s : Exec) : Decidable (SubscribersPaired s) :=
  inferInstanceAs (Decidable (Alternates s.notices ∧ (s.hist.removed = true → ¬ Pending s.notices)))

/-- We still ask for an address of ours, and know it. -/
def OwnAddress (i : CPPPIPCP) : Prop :=
  (i.go.negAddr || i.go.oldAddrs) = true ∧ i.go.ouraddr ≠ 0

instance (i : CPPPIPCP) : Decidable (OwnAddress i) := inferInstanceAs (Decidable (_ ∧ _))

/-- A frame's packet, for LCP: IPCP has not stopped; for IPCP and about to bring it up: we have
    an address of ours. -/
def PacketPaired (packet : Bytes) (len : Nat) (s : Exec) : Prop :=
  ((protocolOf packet len).1 = PPP_LCP → s.ipcp.fsm.state ≠ .stopped) ∧
    ((protocolOf packet len).1 = PPP_IPCP →
      ∀ h ∈ header (protocolOf packet len).2.1 (protocolOf packet len).2.2,
        Agreeing h.1 s.ipcp.fsm.state → OwnAddress s.ipcp)

instance (packet : Bytes) (len : Nat) (s : Exec) : Decidable (PacketPaired packet len s) :=
  inferInstanceAs (Decidable (_ ∧ (_ → ∀ h ∈ header (protocolOf packet len).2.1
    (protocolOf packet len).2.2, Agreeing h.1 s.ipcp.fsm.state → OwnAddress s.ipcp)))

/-- The condition on a step: what may take LCP down does not meet IPCP in `STOPPED`, IPCP comes
    up with an address of ours, and the session is not removed while IPCP is open. -/
def KeepsPaired (s : Exec) : SessEvent → Prop
  | .sessData f => PacketPaired ([PPP_ALLSTATIONS, PPP_UI] ++ f.payload) (f.length.toNat + 2) s
  | .timer t => t ≠ .ipcp → s.ipcp.fsm.state ≠ .stopped
  | .response _ r => delivers r.authResult s = false → s.ipcp.fsm.state ≠ .stopped
  | .padt dest source => Removes s (.padt dest source) → s.ipcp.fsm.state ≠ .opened
  | .kick _ => True
  | .oneOff => Removes s .oneOff → s.ipcp.fsm.state ≠ .opened

instance (s : Exec) : ∀ e, Decidable (KeepsPaired s e)
  | .sessData _ => inferInstanceAs (Decidable (PacketPaired _ _ s))
  | .timer t => inferInstanceAs (Decidable (t ≠ .ipcp → s.ipcp.fsm.state ≠ .stopped))
  | .response _ r => inferInstanceAs (Decidable (delivers r.authResult s = false →
      s.ipcp.fsm.state ≠ .stopped))
  | .padt dest source => inferInstanceAs (Decidable
      (Removes s (.padt dest source) → s.ipcp.fsm.state ≠ .opened))
  | .kick _ => isTrue trivial
  | .oneOff => inferInstanceAs (Decidable (Removes s .oneOff → s.ipcp.fsm.state ≠ .opened))

/-! ## 2. IPCP -/

/-- The last add is unmatched exactly while IPCP is up. -/
def Matched (c : Stand) (s : Exec) : Prop :=
  Alternates s.notices ∧ (Pending s.notices ↔ c = .up)

variable {s : Exec}

theorem Matched.low {c c' : Stand} (h : Matched c s) (hc : c ≠ .up) (hc' : c' ≠ .up) :
    Matched c' s :=
  ⟨h.1, fun hp => absurd (h.2.mp hp) hc, fun hu => absurd hu hc'⟩

theorem notices_sendPADT (reason : String) (s : Exec) :
    (sendPADT reason s).notices = s.notices := by
  unfold sendPADT
  split <;> rfl

theorem notices_onPPPOutput (p : Bytes) (s : Exec) :
    (onPPPOutput p s).notices = s.notices := by
  show (onPPPOutput p s).bare.notices = s.bare.notices
  rw [bare_onPPPOutput]

theorem matched_onIPCPDown (h : Matched .up s) {c : Stand} (hc : c ≠ .up) :
    Matched c (onIPCPDown s) := by
  unfold Matched onIPCPDown
  rw [notices_sendPADT]
  exact ⟨h.1.finish (h.2.mpr rfl), fun hp => absurd hp (not_pending_false _),
    fun hu => absurd hu hc⟩

theorem matched_owner : IpcpOwner Matched where
  terms _ h := h
  output p h := by
    unfold Matched
    rw [notices_onPPPOutput]
    exact h
  acked h := h.low (by decide) (by decide)
  ending h := h.low (by decide) (by decide)
  down h := ⟨matched_onIPCPDown h (by decide), matched_onIPCPDown h (by decide)⟩

/-- `Up` where we have an address of ours: it reports the subscriber. -/
def plainUp (s : Exec) : Exec := onIPCPUp (assumeHisaddr s)

theorem ipcpUp_eq (h : OwnAddress s.ipcp) : ipcpUp s = plainUp s := by
  have hr : refusal (assumeHisaddr s).ipcp = none := by
    have hgo : (assumeHisaddr s).ipcp.go = s.ipcp.go := by
      unfold assumeHisaddr
      split <;> rfl
    unfold refusal
    rw [hgo, h.1]
    simp [h.2]
  unfold ipcpUp plainUp
  dsimp only
  rw [hr]

theorem matched_onIPCPUp (hr : Reported s) (h : Matched .acked s) : Matched .up (onIPCPUp s) := by
  obtain ⟨name, hname⟩ := onIPCPUp_reported hr
  rw [hname]
  exact ⟨h.1.begin fun hp => absurd (h.2.mp hp) (by decide), fun _ => rfl, fun _ => rfl⟩

/-- **A packet for IPCP keeps the notifications paired**, if IPCP comes up with an address of
    ours. -/
theorem matched_ipcpInput (p : Bytes) (n : Nat) (hr : Reported s)
    (hown : ∀ h ∈ header p n, Agreeing h.1 s.ipcp.fsm.state → OwnAddress s.ipcp)
    (h : Inv ipcpFsm Matched s) : Inv ipcpFsm Matched (ipcpInput p n s) := by
  have reported : Blind Reported := .of_outsideIpcp fun _ => Iff.rfl
  have owner : IpcpOwner fun c s => Matched c s ∧ Reported s := matched_owner.and reported
  have rules : FsmRules ipcpFsm { ipcpSink with up := plainUp }
      fun c s => Matched c s ∧ Reported s := by
    refine owner.rulesWith (fun _ _ _ h _ => ⟨h.1.low (by decide) (by decide), h.2⟩)
      fun t ht h => ?_
    obtain ⟨hfsm, ha⟩ := owner.assumeHisaddr h
    show Matched (plainUp t).ipcp.fsm.state.stand _ ∧ _
    unfold plainUp
    rw [ipcp_onIPCPUp, hfsm, ht]
    exact ⟨matched_onIPCPUp ha.2 ha.1,
      of_erased outsideIpcp (fun _ => Iff.rfl) (outsideIpcp_onIPCPUp _) ha.2⟩
  show Inv ipcpFsm Matched (CPPPFsm.input ipcpFsm ipcpSink p n (noteNcp s))
  rw [input_congr_up (s := noteNcp s) rules p n (P := fun t : Exec => OwnAddress t.ipcp)
    (fun _ _ h => h)
    (fun p t h => by
      rw [show (ipcpSink.outputPacket p t).ipcp = t.ipcp from ipcp_onPPPOutput p t]
      exact h)
    (fun _ _ _ _ h => h) (fun _ _ _ h => h) (fun _ h => ipcpUp_eq h)
    (fun code id len hh ha => hown _ hh ha)]
  exact (owner.inputWith rules p n (s := noteNcp s) ⟨h, hr⟩).1

/-! ## 3. LCP takes IPCP down -/

/-- `LowerDown` leaves IPCP below negotiation, unless it has stopped. -/
theorem state_ipcpLowerDown (h : s.ipcp.fsm.state ≠ .stopped) :
    (ipcpLowerDown s).ipcp.fsm.state = .initial ∨ (ipcpLowerDown s).ipcp.fsm.state = .starting := by
  unfold ipcpLowerDown lowerDown
  cases hq : s.ipcp.fsm.state <;> simp only [ipcpFsm_get, hq]
  case stopped => exact absurd hq h
  all_goals first
    | exact Or.inl rfl
    | exact Or.inr rfl
    | simp

/-- The notifications are paired and IPCP has not stopped: the states LCP may go down in. -/
def PairedRunning (s : Exec) : Prop :=
  Inv ipcpFsm Matched s ∧ s.ipcp.fsm.state ≠ .stopped

theorem pairedRunning_sendPADT (reason : String) (h : PairedRunning s) :
    PairedRunning (sendPADT reason s) := by
  unfold sendPADT
  split <;> exact h

theorem pairedRunning_onLCPDown (h : PairedRunning s) : PairedRunning (onLCPDown s) := by
  have hl : Inv ipcpFsm Matched (ipcpLowerDown s) :=
    lowerDown_keeps matched_owner.layerRules h.1
  have low := state_ipcpLowerDown h.2
  -- so the `Close` that follows delivers no `Down`
  have hc : PairedRunning (ipcpCloseFsm "LCP down" (ipcpLowerDown s)) := by
    refine ⟨close_keeps matched_owner.closeRules _ (fun hn => ?_) hl, fun hs => ?_⟩
    · rw [ipcpFsm_get] at hn
      rcases low with hq | hq <;> rw [hq] at hn <;> cases hn
    · have := state_close_low (L := ipcpFsm) (K := ipcpClose) "LCP down" low
      exact absurd (this.symm.trans hs) (by decide)
  unfold onLCPDown
  refine pairedRunning_sendPADT _ ?_
  split <;> exact hc

theorem pairedRunning_owner : Owner fun _ => PairedRunning where
  bare h hb := of_erased Exec.bare (fun _ => Iff.rfl) hb h
  down h := ⟨pairedRunning_onLCPDown h, pairedRunning_onLCPDown h⟩
  padt reason h := pairedRunning_sendPADT reason h

/-! ## 4. Every step keeps the pairing -/

theorem matched_input (packet : Bytes) (len : Nat) (ho : OpenPhase s) (ht : TypedNetwork s)
    (hok : PacketPaired packet len s) (h : Inv ipcpFsm Matched s) :
    Inv ipcpFsm Matched (input packet len s) := by
  refine input_cases packet len (fun hp => ?_) (fun hp hs hph => ?_) (fun _ _ => ?_)
    (fun _ _ => ?_) (fun field n => ?_) h
  · exact (pairedRunning_owner.lcpInput _ _ ⟨h, hok.1 (by rw [hp])⟩).1
  · rw [PacketPaired, hp] at hok
    exact matched_ipcpInput _ _ (ht (network_of_packet ho hs hph)) (hok.2 rfl) h
  · rw [papInput_eq]
    split <;> exact h
  · rw [chapInput_eq]
    repeat' split
    all_goals exact h
  · exact of_erased Exec.bare (fun _ => Iff.rfl) (bare_sendProtRej field n s) h

theorem matched_expire (t : Timer) (hok : t ≠ .ipcp → s.ipcp.fsm.state ≠ .stopped)
    (h : Inv ipcpFsm Matched s) : Inv ipcpFsm Matched (expire s t) := by
  by_cases hi : t = .ipcp
  · subst hi
    simp only [expire]
    split
    · refine timeout_keeps matched_owner.timerRules (fun hn _ _ => ?_) h
      -- giving up changes no notification
      exact Matched.low (s := s) h (FsmState.stand_negotiating hn) nofun
    · exact h
  · -- `expire` never fires IPCP's timer here, so its own rule is not needed
    have hr : PairedRunning s := ⟨h, hok hi⟩
    exact (expire_cases t (fun _ _ => pairedRunning_owner.lcpTimeout (fun _ => hr) hr)
      (pairedRunning_owner.link.sendEchoRequest hr) (fun ht => absurd ht hi)
      (pairedRunning_owner.papHandleTimeout hr)
      (pairedRunning_owner.challenger.chapHandleTimeout hr) hr).1

theorem matched_response (k : Nat) (r : AuthResponse)
    (hok : delivers r.authResult s = false → s.ipcp.fsm.state ≠ .stopped)
    (h : Inv ipcpFsm Matched s) : Inv ipcpFsm Matched (response k r s) := by
  have hn : Inv ipcpFsm Matched (addressed k r s) := h
  have answered : ∀ {t : Exec}, Answered (addressed k r s) t →
      Inv ipcpFsm Matched t := fun ha => ha.keeps (fun _ => Iff.rfl) (fun _ h => h) hn
  cases onAuthResponse_outcome r.authResult r.authResultDesc
    (addressed k r s) with
  | quiet ha _ _ _ => exact answered ha
  | success protocol t ha _ hu _ =>
    have ht := answered ha
    refine hu.keeps (fun _ _ h => h) (fsmOpen_keeps matched_owner.layerRules ?_)
    exact ht
  | failure protocol t ha hd hu _ =>
    have ht : PairedRunning t := by
      refine ⟨answered ha, ?_⟩
      have hi : t.ipcp = (addressed k r s).ipcp := congrArg (·.ipcp) ha.bare
      rw [hi]
      exact hok hd
    have hf : PairedRunning (authenFailure protocol t) :=
      pairedRunning_owner.authenFailure protocol ht
    exact hu.keeps (fun _ _ h => h) hf.1

/-- **Every step that meets the condition keeps the pairing.** -/
theorem matched_step (e : SessEvent) (ho : OpenPhase s) (ht : TypedNetwork s)
    (hok : KeepsPaired s e) (h : Inv ipcpFsm Matched s) :
    Inv ipcpFsm Matched (sessStep s e) := by
  refine sessStep_cases e (fun f he => ?_) (fun t he => ?_) (fun k r he => ?_) (fun reason => ?_)
    (fun _ => h) h
  · subst he
    exact matched_input _ _ ho ht hok h
  · subst he
    exact matched_expire t hok h
  · subst he
    exact matched_response k r hok h
  · show Matched (sendPADT reason s).ipcp.fsm.state.stand _
    unfold Matched
    rw [ipcp_sendPADT, notices_sendPADT]
    exact h

theorem removed_step (e : SessEvent) (hok : KeepsPaired s e) (h : Inv ipcpFsm Matched s)
    (hr : s.hist.removed = true → ¬ Pending s.notices) :
    (sessStep s e).hist.removed = true → ¬ Pending (sessStep s e).notices := by
  have same : ∀ {t : Exec}, fixed t = fixed s → t.hist.removed = s.hist.removed :=
    fun ht => congrArg (·.2.2.2.2.2) ht
  cases hrem : s.hist.removed with
  | true =>
    unfold sessStep
    rw [if_pos hrem]
    exact fun _ => hr hrem
  | false =>
    refine sessStep_cases (P := fun t => t.hist.removed = true → ¬ Pending t.notices) e
      (fun f _ ht => ?_) (fun t _ ht => ?_) (fun k r _ ht => ?_) (fun reason ht => ?_)
      (fun hre _ hp => ?_) hr
    · rw [same (fixed_input _ _ s), hrem] at ht
      cases ht
    · rw [same (fixed_expire t s), hrem] at ht
      cases ht
    · rw [same (fixed_response k r s), hrem] at ht
      cases ht
    · rw [show (sendPADT reason s).hist.removed = s.hist.removed from
        congrArg (·.hist.removed) (outsideIpcp_sendPADT reason s), hrem] at ht
      cases ht
    · have hup : s.ipcp.fsm.state.stand = .up := h.2.mp hp
      have hne : s.ipcp.fsm.state ≠ .opened := by
        cases e with
        | padt dest source => exact hok hre
        | oneOff => exact hok hre
        | _ => exact absurd hre id
      exact stand_ne_up.mpr hne hup

/-! ## 5. Runs -/

theorem matched_start (c : Config) : Inv ipcpFsm Matched (start c) := by
  have h : PairedRunning (start c) := by
    refine fsmOpen_keeps (J := fun _ => PairedRunning) pairedRunning_owner.layerRules ?_
    unfold pppInit
    dsimp only
    split <;> exact ⟨⟨trivial, nofun, nofun⟩, nofun⟩
  exact h.1

theorem removed_start (c : Config) : (start c).hist.removed = false := by
  have h : fixed (start c) = (c.authType, c.sessionid, c.clientEth, c.intfIp, c.intfMac, false) := by
    refine fsmOpen_keeps (J := fun _ s => fixed s = _) (fixed_owner _).layerRules ?_
    unfold pppInit
    dsimp only
    split <;> rfl
  exact congrArg (·.2.2.2.2.2) h

/-- **Adds and deletes alternate, starting with an add, and a removed session has no unmatched
    add**, in every run that removes no session with IPCP open, does not take LCP down on a
    stopped IPCP, and brings IPCP up only with an address of ours. -/
theorem subscribers_paired (c : Config) {es : List SessEvent}
    (h : Along sessStep KeepsPaired (start c) es) :
    Throughout sessStep SubscribersPaired (start c) es := by
  refine throughout_of_along
    (I := fun s => Inv ipcpFsm Matched s ∧ OpenPhase s ∧ TypedNetwork s ∧
      (s.hist.removed = true → ¬ Pending s.notices))
    (fun s e hI hok => ?_) (fun s hI => ⟨hI.1.1, hI.2.2.2⟩) ?_ h
  · obtain ⟨hm, ho, ht, hr⟩ := hI
    exact ⟨matched_step e ho ht hok hm, openPhase_sessStep e ho, typedNetwork_sessStep e ht,
      removed_step e hok hm hr⟩
  · refine ⟨matched_start c, openPhase_start c, typedNetwork_start c, fun hr => ?_⟩
    rw [removed_start] at hr
    cases hr

/-- A session comes up, the client terminates IPCP, and the session is removed. -/
theorem subscribers_paired_session :
    Along sessStep KeepsPaired (start (.sample PPP_PAP))
        (SessEvent.sessionUp ++ [(Event.control PPP_IPCP TERMREQ 2 []).onWire, .oneOff]) ∧
      Throughout sessStep SubscribersPaired (start (.sample PPP_PAP))
        (SessEvent.sessionUp ++ [(Event.control PPP_IPCP TERMREQ 2 []).onWire, .oneOff]) :=
  have h := by decide +kernel
  ⟨h, subscribers_paired _ h⟩

/-- A session comes up, the client ends it with a PADT, and the removal timer expires: the
    subscriber is never deleted. -/
theorem padt_leaves_subscriber :
    ¬ Throughout sessStep SubscribersPaired (start (.sample PPP_PAP))
      (SessEvent.sessionUp ++ [.padt [2, 0, 0, 0, 0, 9] [2, 0, 0, 0, 0, 1], .oneOff]) :=
  fun h => absurd (throughout_last h) (by decide +kernel)

end Exec

end OpenBras
