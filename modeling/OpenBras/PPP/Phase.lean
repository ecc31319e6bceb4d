/-
  File:      OpenBras/PPP/Phase.lean
  Subject:   THE PHASE WHILE LCP IS OPEN: in every state a run reaches, an open LCP means the
             Authenticate or the Network phase.

  `CPPP::Input` lets packets of the network protocols through in every phase after
  Authenticate, so also in Terminate; that it does not do so for an open link whose
  authentication has failed rests on `Close` leaving `OPENED` at once (`close_not_opened`).
-/
import OpenBras.PPP.SessionRules

namespace OpenBras

namespace Exec

open CPPPFsm

theorem stand_ne_up {q : FsmState} : q.stand ≠ .up ↔ q ≠ .opened := by
  cases q <;> decide

variable (p : Bytes) {s : Exec}

@[simp] theorem phase_onPPPOutput (s : Exec) : (onPPPOutput p s).phase = s.phase := by
  unfold onPPPOutput
  repeat' split
  all_goals rfl

/-! ## 1. Closing leaves `OPENED` -/

section Low

variable {Q : Stand → PPPPhase → Prop} (hlow : ∀ c ph, c ≠ .up → Q c ph)

include hlow

theorem phaseCi : CiRules lcpFsm lcpCi fun c s => Q c s.phase where
  fsm _ _ _ h := h
  acked _ _ := hlow _ _ nofun
  resetci _ := ⟨rfl, fun _ h => h⟩
  cilen _ := ⟨rfl, fun _ h => h⟩
  addci _ _ := ⟨rfl, fun _ h => h⟩
  outputPacket p s := ⟨congrArg (·.fsm) (lcp_onPPPOutput p s), fun c h => by
    show Q c (onPPPOutput p s).phase
    rwa [phase_onPPPOutput]⟩

theorem phaseLayer : LayerRules lcpFsm lcpLayer fun c s => Q c s.phase where
  toCiRules := phaseCi hlow
  ending _ _ := hlow _ _ nofun
  starting s hs h := by
    refine lowerUp_keeps (phaseCi hlow) ?_
    show Q (lcpFsm.get s).state.stand _
    rw [hs]
    exact h
  down_fsm s := by
    show (lcpDown s).lcp.fsm = s.lcp.fsm
    simp [lcpDown]
  down _ _ := ⟨hlow _ _ nofun, hlow _ _ nofun⟩

end Low

theorem lowerDown_not_opened (hs : s.lcp.fsm.state ≠ .opened) :
    (lowerDown lcpFsm lcpLayer s).lcp.fsm.state ≠ .opened :=
  stand_ne_up.mp (lowerDown_keeps (phaseLayer (Q := fun c _ => c ≠ .up) fun _ _ h => h)
    (stand_ne_up.mpr hs))

section Low

variable {Q : Stand → PPPPhase → Prop} (hlow : ∀ c ph, c ≠ .up → Q c ph)

include hlow

theorem phaseClose : CloseRules lcpFsm lcpClose fun c s => Q c s.phase where
  toLayerRules := phaseLayer hlow
  finished s hs _ := by
    have hn : s.lcp.fsm.state ≠ .opened := by
      rw [lcpFsm_get] at hs
      rcases hs with hs | hs <;> rw [hs] <;> decide
    refine hlow _ _ (stand_ne_up.mpr ?_)
    show (onLCPTerminate s).lcp.fsm.state ≠ .opened
    unfold onLCPTerminate
    split
    · exact hn
    · rw [lcp_sendPADT]
      exact lowerDown_not_opened hn

end Low

/-- **After `Close` LCP is not open**, whatever the state before. -/
theorem close_not_opened (reason : String) (s : Exec) :
    (lcpCloseFsm reason s).lcp.fsm.state ≠ .opened :=
  stand_ne_up.mp (close_ends (phaseClose (Q := fun c _ => c ≠ .up) fun _ _ h => h) reason
    (fun _ _ => nofun) fun hn _ => stand_ne_up.mpr hn)

/-! ## 2. Coming up enters Authenticate -/

/-- An open LCP means the Authenticate or the Network phase. -/
def OpenPhase (s : Exec) : Prop :=
  s.lcp.fsm.state = .opened → s.phase = .authenticate ∨ s.phase = .network

theorem openPhase_close (reason : String) (s : Exec) : OpenPhase (lcpCloseFsm reason s) :=
  fun h => absurd h (close_not_opened reason s)

theorem openPhase_authenFailure (protocol : UInt16) (s : Exec) :
    OpenPhase (authenFailure protocol s) := openPhase_close _ _

theorem openPhase_of_same {t : Exec} (h : OpenPhase s) (hp : t.phase = s.phase)
    (hl : t.lcp.fsm.state = s.lcp.fsm.state) : OpenPhase t := by
  intro ht
  rw [hp]
  exact h (hl ▸ ht)

/-- Packets reach IPCP in the Network phase only. -/
theorem network_of_packet (ho : OpenPhase s) (hs : s.lcp.fsm.state = .opened)
    (hph : PPPPhase.authenticate.toNat < s.phase.toNat) : s.phase = .network := by
  rcases ho hs with ha | hn
  · rw [ha] at hph
    exact absurd hph (Nat.lt_irrefl _)
  · exact hn

theorem openPhase_challenger : Challenger OpenPhase where
  asked h ht := by
    rw [ht]
    exact h
  fresh _ h := h
  send h := openPhase_of_same h (phase_onPPPOutput _ _) (by simp)
  fails _ := openPhase_authenFailure _ _
  papTimer h := h

theorem openPhase_authenticatePeer (s : Exec) : OpenPhase (authenticatePeer s) :=
  openPhase_challenger.authenticatePeer (openPhase_close _ _) fun _ => Or.inl rfl

/-! ## 3. Every step keeps it -/

/-- `OpenPhase` as an invariant of LCP's automaton. -/
def UpPhase (c : Stand) (s : Exec) : Prop := c = .up → s.phase = .authenticate ∨ s.phase = .network

theorem upPhase_iff : CPPPFsm.Inv lcpFsm UpPhase s ↔ OpenPhase s := by
  show (s.lcp.fsm.state.stand = .up → _) ↔ (s.lcp.fsm.state = .opened → _)
  have : s.lcp.fsm.state.stand = .up ↔ s.lcp.fsm.state = .opened := by
    cases s.lcp.fsm.state <;> decide
  rw [this]

theorem upPhase_rules : FsmRules lcpFsm lcpSink UpPhase := by
  refine lcpRules ?_ (fun _ _ _ _ h => h) (fun _ => nofun) fun _ _ _ =>
    upPhase_iff.mpr (openPhase_authenticatePeer _)
  exact phaseClose (Q := fun c ph => c = .up → ph = .authenticate ∨ ph = .network)
    fun _ _ hc h => absurd h hc

theorem openPhase_nakci (n : Nat) (r : Bool) (h : OpenPhase s) : OpenPhase (lcpNakci p n r s).2 :=
  lcpNakci_keeps (fun _ _ h => h) (fun _ _ => openPhase_close "Loopback detected" _)
    (fun _ _ h => h) p n r h

theorem openPhase_lcpInput (n : Nat) (h : OpenPhase s) :
    OpenPhase (CPPPFsm.input lcpFsm lcpSink p n s) := by
  refine upPhase_iff.mp (input_keeps upPhase_rules p n (fun _ _ _ _ t _ ht => ?_)
    (upPhase_iff.mpr h))
  exact upPhase_iff.mpr (openPhase_nakci _ _ _ (upPhase_iff.mp ht))

/-- A packet for an authentication server moves neither LCP nor the phase. -/
theorem papInput_same (n : Nat) (s : Exec) :
    (papInput p n s).lcp = s.lcp ∧ (papInput p n s).phase = s.phase := by
  rw [papInput_eq]
  split <;> exact ⟨rfl, rfl⟩

theorem chapInput_same (n : Nat) (s : Exec) :
    (chapInput p n s).lcp = s.lcp ∧ (chapInput p n s).phase = s.phase := by
  rw [chapInput_eq]
  repeat' split
  all_goals exact ⟨rfl, rfl⟩

theorem openPhase_input (packet : Bytes) (len : Nat) (h : OpenPhase s) :
    OpenPhase (input packet len s) := by
  refine input_cases packet len (fun _ => openPhase_lcpInput _ _ h) (fun _ _ _ => ?_)
    (fun _ _ => ?_) (fun _ _ => ?_) (fun field n => ?_) h
  · exact openPhase_of_same h (by simp) (by simp)
  · exact openPhase_of_same h (papInput_same ..).2 (by rw [(papInput_same ..).1])
  · exact openPhase_of_same h (chapInput_same ..).2 (by rw [(chapInput_same ..).1])
  · exact openPhase_of_same h (phase_onPPPOutput _ _) (by simp)

theorem openPhase_authenSuccess (protocol : UInt16) (s : Exec) :
    OpenPhase (authenSuccess protocol s) := by
  intro _
  refine Or.inr ?_
  unfold authenSuccess
  rw [phase_ipcpOpen]
  rfl

theorem openPhase_onAuthResponse (result : UInt32) (reason : Bytes) (h : OpenPhase s) :
    OpenPhase (onAuthResponse result reason s) := by
  cases onAuthResponse_outcome result reason s with
  | quiet ha _ _ _ => exact openPhase_of_same h (congrArg (·.phase) ha.bare) (by rw [ha.lcp])
  | success protocol t _ _ hu _ =>
    exact hu.keeps (fun _ _ h => h) (openPhase_authenSuccess protocol t)
  | failure protocol t _ _ hu _ =>
    exact hu.keeps (fun _ _ h => h) (openPhase_authenFailure protocol t)

theorem openPhase_sendEchoRequest (h : OpenPhase s) : OpenPhase (sendEchoRequest s) := by
  exact sendEchoRequest_cases (openPhase_close _ _) (fun t _ _ ht => ht)
    (fun t ht => openPhase_of_same ht (phase_onPPPOutput _ _) (by simp)) h

theorem openPhase_expire (t : Timer) (h : OpenPhase s) : OpenPhase (expire s t) := by
  refine expire_cases t (fun _ _ => ?_) (openPhase_sendEchoRequest h)
    (fun _ => openPhase_of_same h (by simp) (by simp)) (openPhase_authenFailure PPP_PAP s)
    (openPhase_challenger.chapHandleTimeout h) h
  refine upPhase_iff.mp (timeout_keeps upPhase_rules.toTimerRules (fun hn _ _ => ?_)
    (upPhase_iff.mpr h))
  have := (phaseClose (Q := fun c _ => c ≠ .up) fun _ _ h => h).finished
    (setState lcpFsm .stopped s) (Or.inr (by rw [get_setState])) nofun
  exact fun hc => absurd hc this

/-- **Every event keeps it.** -/
theorem openPhase_step (e : Event) (h : OpenPhase s) : OpenPhase (step s e) := by
  cases e with
  | input packet len => exact openPhase_input packet len h
  | timer t => exact openPhase_expire t h
  | response k r => exact openPhase_onAuthResponse _ _ h

theorem start_not_opened (c : Config) : (start c).lcp.fsm.state ≠ .opened := by
  refine stand_ne_up.mp (fsmOpen_keeps (phaseLayer (Q := fun c _ => c ≠ .up) fun _ _ h => h) ?_)
  refine stand_ne_up.mpr ?_
  rw [Lens.get_upd]
  show (pppInit _).lcp.fsm.state ≠ .opened
  unfold pppInit
  dsimp only
  split <;> exact nofun

theorem openPhase_start (c : Config) : OpenPhase (start c) :=
  fun h => absurd h (start_not_opened c)

end Exec

end OpenBras
