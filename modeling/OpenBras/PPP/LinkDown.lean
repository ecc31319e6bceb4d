/-
  File:      OpenBras/PPP/LinkDown.lean
  Subject:   TAKING THE LOWER LAYER DOWN: what `LowerDown` of LCP and of IPCP leaves behind.

  `LowerDown` should leave an automaton in `INITIAL` or `STARTING`, send nothing and leave no
  restart timer. Two things keep it from that:

  * in `STOPPED` it calls `Starting`, and the `Starting` of both owners calls `LowerUp`: a new
    negotiation begins;
  * a timer that outlived its negotiation (OpenBras/PPP/FsmTimer.lean) is cancelled in none of
    the states it can be left in.

  **`lowerDown_quiet_iff`** says that these are all, for every state of a session; LCP in
  `OPENED` also takes IPCP down, and must not find it in `STOPPED`. After a termination LCP is
  taken down in `STOPPED` (`terminated_link_starts_anew`).
-/
import OpenBras.PPP.FsmClock
import OpenBras.PPP.FsmRun
import OpenBras.PPP.Outlet

namespace OpenBras

open Wire

namespace Exec

open CPPPFsm

/-! ## 1. The property -/

/-- What `LowerDown` should make of `s`, for the automaton at `L`. -/
structure QuietDown (L : Lens Exec CPPPFsm) (s t : Exec) : Prop where
  state : (L.get t).state = .initial ∨ (L.get t).state = .starting
  output : t.hist.output = s.hist.output
  timer : (L.get t).timer = false

theorem quietDown_iff {L : Lens Exec CPPPFsm} {s t : Exec} : QuietDown L s t ↔
    ((L.get t).state = .initial ∨ (L.get t).state = .starting) ∧
      t.hist.output = s.hist.output ∧ (L.get t).timer = false :=
  ⟨fun h => ⟨h.state, h.output, h.timer⟩, fun h => ⟨h.1, h.2.1, h.2.2⟩⟩

instance (L : Lens Exec CPPPFsm) (s t : Exec) : Decidable (QuietDown L s t) :=
  decidable_of_iff _ quietDown_iff.symm

/-- The automaton is not in `STOPPED`, and no timer is left over from an earlier negotiation. -/
def CanGoDown (f : CPPPFsm) : Prop :=
  f.state ≠ .stopped ∧ (f.timer = true → f.state.awaiting = true)

/-- The packets of this automaton no longer leave the session. -/
def Muted (L : Lens Exec CPPPFsm) (s : Exec) : Prop :=
  s.sessionToBeDeleted = true ∧ isControl (L.get s).protocol = true

/-- IPCP does not send a new Configure-Request when it is taken down. -/
def IpcpStays (s : Exec) : Prop :=
  s.ipcp.fsm.state = .stopped → s.ipcp.fsm.flags.silent = true ∨ Muted ipcpFsm s

/-! ## 2. What is sent -/

theorem output_sendData (L : Lens Exec CPPPFsm) (K : CiSink Exec)
    (hK : K.outputPacket = onPPPOutput) (code id : UInt8) (data : Bytes) (n : Nat) (s : Exec) :
    (Muted L s → sendData L K code id data n s = s) ∧
      (¬ Muted L s → ∃ p, (sendData L K code id data n s).hist.output = p :: s.hist.output) := by
  unfold sendData
  rw [hK]
  dsimp only
  generalize hp : [PPP_ALLSTATIONS, PPP_UI] ++ putShort (L.get s).protocol ++ [code, id] ++
    putShort (min n (PPP_MRU - HEADERLEN) + HEADERLEN).toUInt16 ++
    data.take (min n (PPP_MRU - HEADERLEN)) = p
  have hproto : getShort p PPP_ADDR_CTRL_LEN = (L.get s).protocol := by
    rw [← hp]
    exact getShort_putShort (L.get s).protocol []
  have hlen : p.length = 8 + min (min n (PPP_MRU - HEADERLEN)) data.length := by
    rw [← hp]
    simp [putShort]
    omega
  have hlow : ¬ p.length < PPP_HDRLEN := by
    unfold PPP_HDRLEN
    omega
  have hhigh : ¬ p.length - PPP_ADDR_CTRL_LEN > ETH_JUMBO_LEN := by
    unfold PPP_ADDR_CTRL_LEN ETH_JUMBO_LEN PPP_MRU HEADERLEN at *
    omega
  unfold onPPPOutput
  rw [if_neg hlow, hproto, if_neg hhigh]
  constructor
  · intro hm
    rw [if_pos (by simp [hm.1, hm.2])]
  · intro hm
    rw [if_neg (by simpa [Muted] using hm)]
    exact ⟨_, rfl⟩

/-- Nothing was sent, and packets go out or not as before. -/
def SameOutlet (s t : Exec) : Prop :=
  t.hist.output = s.hist.output ∧ (Muted ipcpFsm t ↔ Muted ipcpFsm s)

theorem SameOutlet.trans {s t u : Exec} (h : SameOutlet s t) (h' : SameOutlet t u) :
    SameOutlet s u := ⟨h'.1.trans h.1, h'.2.trans h.2⟩

theorem sameOutlet_confReq (r : Bool) (s : Exec) : SameOutlet s (confReq ipcpFsm ipcpCi r s).2 := by
  unfold confReq
  dsimp only
  have hreset : SameOutlet s (if (ipcpFsm.get s).state.negotiating = true then s
      else ipcpFsm.upd (fun f => { f with nakloops := 0, rnakloops := 0 }) (ipcpCi.resetci s)) := by
    split <;> exact ⟨rfl, Iff.rfl⟩
  refine hreset.trans ?_
  generalize (if (ipcpFsm.get s).state.negotiating = true then s
    else ipcpFsm.upd (fun f => { f with nakloops := 0, rnakloops := 0 }) (ipcpCi.resetci s)) = t
  split <;> exact ⟨rfl, Iff.rfl⟩

theorem output_sendConfReq (r : Bool) (s : Exec) :
    (Muted ipcpFsm s → (sendConfReq ipcpFsm ipcpCi r s).hist.output = s.hist.output ∧
      Muted ipcpFsm (sendConfReq ipcpFsm ipcpCi r s)) ∧
    (¬ Muted ipcpFsm s →
      ∃ p, (sendConfReq ipcpFsm ipcpCi r s).hist.output = p :: s.hist.output) := by
  -- the options change nothing the packet's way out depends on
  have hsame := sameOutlet_confReq r s
  rw [sendConfReq_eq]
  generalize confReq ipcpFsm ipcpCi r s = x at hsame ⊢
  obtain ⟨ho, hm⟩ := hsame
  obtain ⟨hmute, hloud⟩ := output_sendData ipcpFsm ipcpCi rfl CONFREQ
    (ipcpFsm.get x.2).reqid x.1.1 x.1.2 x.2
  constructor
  · intro h
    rw [hmute (hm.mpr h)]
    exact ⟨ho, hm.mpr h⟩
  · intro h
    obtain ⟨p, hp⟩ := hloud (mt hm.mp h)
    exact ⟨p, hp.trans (congrArg (p :: ·) ho)⟩

/-! ## 3. One automaton -/

section Lower

variable {L : Lens Exec CPPPFsm} {K : LayerSink Exec} {J : Stand → Exec → Prop}

/-- In `STOPPED` the new negotiation begins inside the call. -/
theorem state_lowerDown_stopped (hstart : K.starting = lowerUp L K.toCiSink) {s : Exec}
    (hq : (L.get s).state = .stopped) :
    (L.get (lowerDown L K s)).state = .stopped ∨ (L.get (lowerDown L K s)).state = .reqSent := by
  have hd : lowerDown L K s = lowerUp L K.toCiSink (setState L .starting s) := by
    unfold lowerDown
    rw [hq, ← hstart]
  rw [hd]
  unfold lowerUp
  rw [get_setState]
  dsimp only
  split
  · exact Or.inl (by rw [get_setState])
  · exact Or.inr (by rw [get_setState])

/-- **One automaton goes down quietly exactly if it can**, and `Down` sends nothing where the
    link was up. -/
theorem quietDown_iff_canGoDown (R : LayerRules L K J)
    (hset : ∀ f s, (L.set f s).hist.output = s.hist.output)
    (hstart : K.starting = lowerUp L K.toCiSink) (s : Exec) :
    QuietDown L s (lowerDown L K s) ↔
      CanGoDown (L.get s) ∧
        ((L.get s).state = .opened → (K.down s).hist.output = s.hist.output) := by
  have hstop := state_lowerDown_stopped hstart (s := s)
  -- where the timer is not cancelled, it must not have been registered
  have kept : ∀ q : FsmState, (q = .initial ∨ q = .starting) →
      (QuietDown L s (setState L q s) ↔ (L.get s).timer = false) := by
    intro q hq
    rw [quietDown_iff, get_setState]
    exact ⟨fun h => h.2.2, fun h => ⟨hq, hset _ s, h⟩⟩
  have cancelled : ∀ q : FsmState, (q = .initial ∨ q = .starting) →
      QuietDown L s (cancelTimer L (setState L q s)) := by
    intro q hq
    rw [quietDown_iff, get_cancelTimer, get_setState]
    exact ⟨hq, (hset _ _).trans (hset _ s), rfl⟩
  unfold CanGoDown
  unfold lowerDown at hstop ⊢
  cases hq : (L.get s).state <;> simp only [hq] at hstop ⊢
  case stopped =>
    refine iff_of_false (fun h => ?_) fun h => h.1.1 rfl
    rcases hstop trivial with h' | h' <;> rcases h.state with e | e <;> rw [h'] at e <;> cases e
  case initial | starting =>
    rw [quietDown_iff]
    simp [hq, FsmState.awaiting, FsmState.negotiating, FsmState.terminating]
  case closed =>
    rw [kept _ (Or.inl rfl)]
    simp [FsmState.awaiting, FsmState.negotiating, FsmState.terminating]
  case opened =>
    rw [quietDown_iff, get_setState, R.down_fsm,
      show (setState L .starting (K.down s)).hist.output = (K.down s).hist.output from hset _ _]
    simp [FsmState.awaiting, FsmState.negotiating, FsmState.terminating, and_comm]
  case closing =>
    exact iff_of_true (cancelled _ (Or.inl rfl)) ⟨⟨by decide, fun _ => rfl⟩, fun h => by cases h⟩
  all_goals
    exact iff_of_true (cancelled _ (Or.inr rfl)) ⟨⟨by decide, fun _ => rfl⟩, fun h => by cases h⟩

end Lower

/-! ## 4. LCP takes IPCP along -/

theorem output_sendPADT (reason : String) (s : Exec) :
    (sendPADT reason s).hist.output = s.hist.output := by
  unfold sendPADT
  split <;> rfl

theorem blind_output (o : List Bytes) : Blind fun s => o <:+ s.hist.output where
  ipcp _ h := h
  output p h := by
    unfold onPPPOutput
    repeat' split
    all_goals first | exact h | exact h.trans (List.suffix_cons _ _)
  down h := by
    show o <:+ (sendPADT _ _).hist.output
    rw [output_sendPADT]
    exact h

theorem ipcpLowerDown_stopped {s : Exec} (hq : s.ipcp.fsm.state = .stopped)
    (hs : s.ipcp.fsm.flags.silent = false) :
    ipcpLowerDown s = setState ipcpFsm .reqSent
      (sendConfReq ipcpFsm ipcpCi false (setState ipcpFsm .starting s)) := by
  have hd : ipcpLowerDown s = lowerUp ipcpFsm ipcpCi (setState ipcpFsm .starting s) := by
    unfold ipcpLowerDown lowerDown
    rw [ipcpFsm_get, hq]
    rfl
  rw [hd]
  unfold lowerUp
  rw [get_setState]
  dsimp only
  rw [ipcpFsm_get, if_neg (by simp [hs])]

/-- Otherwise nothing is sent, and IPCP is neither negotiating nor up. -/
theorem ipcpLowerDown_settled {s : Exec}
    (hs : s.ipcp.fsm.state = .stopped → s.ipcp.fsm.flags.silent = true) :
    (ipcpLowerDown s).hist.output = s.hist.output ∧
      (ipcpLowerDown s).ipcp.fsm.state.resting = true := by
  unfold ipcpLowerDown lowerDown
  cases hq : (ipcpFsm.get s).state <;> dsimp only
  case stopped =>
    have hu : ipcpLayer.starting (setState ipcpFsm .starting s) =
        setState ipcpFsm .stopped (setState ipcpFsm .starting s) := by
      show lowerUp ipcpFsm ipcpCi (setState ipcpFsm .starting s) = _
      unfold lowerUp
      rw [get_setState]
      dsimp only
      rw [ipcpFsm_get, if_pos (hs hq)]
    rw [hu]
    exact ⟨rfl, rfl⟩
  case opened => exact ⟨output_sendPADT _ _, rfl⟩
  case initial | starting =>
    rw [ipcpFsm_get] at hq
    rw [hq]
    exact ⟨rfl, rfl⟩
  all_goals exact ⟨rfl, rfl⟩

theorem output_ipcpClose (reason : String) {s : Exec} (h : s.ipcp.fsm.state.resting = false →
      ∀ f : CPPPFsm, f.protocol = s.ipcp.fsm.protocol →
        (terminateLayer ipcpFsm ipcpClose .closing (ipcpFsm.set f s)).hist.output =
          s.hist.output) :
    (ipcpCloseFsm reason s).hist.output = s.hist.output := by
  have hst : (ipcpFsm.get (ipcpFsm.upd (reasoned reason) s)).state = s.ipcp.fsm.state := rfl
  unfold ipcpCloseFsm close
  dsimp only
  rw [hst]
  cases hq : s.ipcp.fsm.state <;> rw [hq] at h
  case reqSent | ackRcvd | ackSent | opened => exact h rfl _ rfl
  all_goals rfl

theorem output_ipcpClose_muted (reason : String) {s : Exec} (h : Muted ipcpFsm s) :
    (ipcpCloseFsm reason s).hist.output = s.hist.output := by
  have terminate : ∀ t : Exec, Muted ipcpFsm t →
      (terminateLayer ipcpFsm ipcpClose .closing t).hist.output = t.hist.output := by
    intro t ht
    have hcancel : Muted ipcpFsm (stopTimer ipcpFsm t) ∧
        (stopTimer ipcpFsm t).hist.output = t.hist.output := by
      unfold stopTimer
      split
      · exact ⟨ht, rfl⟩
      · exact ⟨ht, rfl⟩
    unfold terminateLayer
    dsimp only
    generalize stopTimer ipcpFsm t = v at hcancel ⊢
    obtain ⟨hm, ho⟩ := hcancel
    have hdown : ipcpClose.down v = onDelSubscriber v := by
      show sendPADT _ (onDelSubscriber v) = _
      unfold sendPADT
      exact if_pos hm.1
    rw [hdown]
    generalize hw : nextReqid ipcpFsm (ipcpFsm.upd
      (fun f => { f with retransmits := f.maxtermtransmits }) (onDelSubscriber v)) = w
    have hmw : Muted ipcpFsm w := by rw [← hw]; exact hm
    have how : w.hist.output = t.hist.output := by rw [← hw]; exact ho
    rw [(output_sendData ipcpFsm ipcpClose.toCiSink rfl _ _ _ _ w).1 hmw]
    split <;> exact how
  refine output_ipcpClose reason fun _ f hf => terminate _ ⟨h.1, ?_⟩
  rw [Lens.get_set, hf]
  exact h.2

/-- **LCP's `Down` sends nothing exactly if IPCP stays where it is.** -/
theorem output_onLCPDown_iff (s : Exec) :
    (onLCPDown s).hist.output = s.hist.output ↔ IpcpStays s := by
  have hout : (onLCPDown s).hist.output =
      (ipcpCloseFsm "LCP down" (ipcpLowerDown s)).hist.output := by
    unfold onLCPDown
    dsimp only
    rw [output_sendPADT]
    split <;> rfl
  rw [hout]
  by_cases hq : s.ipcp.fsm.state = .stopped ∧ s.ipcp.fsm.flags.silent = false
  · have hd := ipcpLowerDown_stopped hq.1 hq.2
    obtain ⟨hmute, hloud⟩ := output_sendConfReq false (setState ipcpFsm .starting s)
    generalize sendConfReq ipcpFsm ipcpCi false (setState ipcpFsm .starting s) = v
      at hd hmute hloud
    rw [hd]
    by_cases hm : Muted ipcpFsm s
    · refine iff_of_true ?_ fun _ => Or.inr hm
      obtain ⟨ho, hm'⟩ := hmute hm
      have hm2 : Muted ipcpFsm (setState ipcpFsm .reqSent v) := hm'
      exact (output_ipcpClose_muted _ hm2).trans ho
    · refine iff_of_false (fun he => ?_) fun h => ?_
      · obtain ⟨p, hp⟩ := hloud hm
        have hsuf : p :: s.hist.output <:+ (setState ipcpFsm .reqSent v).hist.output := by
          show _ <:+ v.hist.output
          rw [hp]
          exact List.suffix_refl _
        have hlen := ((blind_output _).close "LCP down" hsuf).length_le
        rw [he, List.length_cons] at hlen
        omega
      · rcases h hq.1 with hs | hm'
        · exact absurd (hs.symm.trans hq.2) (by decide)
        · exact hm hm'
  · have hs : s.ipcp.fsm.state = .stopped → s.ipcp.fsm.flags.silent = true := by
      intro h
      by_contra hsil
      exact hq ⟨h, by simpa using hsil⟩
    obtain ⟨ho, hst⟩ := ipcpLowerDown_settled hs
    refine iff_of_true ((output_ipcpClose _ fun hn => ?_).trans ho) fun h => Or.inl (hs h)
    exact absurd (hst.symm.trans hn) (by decide)

/-! ## 5. Both automata -/

/-- **`LowerDown` of LCP and of IPCP is quiet in exactly these states**: the automaton is not in
    `STOPPED`, no timer is left over from a negotiation that gave up, and LCP, where it is open,
    finds no IPCP that starts anew. -/
theorem lowerDown_quiet_iff (s : Exec) :
    (QuietDown lcpFsm s (lowerDown lcpFsm lcpLayer s) ↔
      CanGoDown s.lcp.fsm ∧ (s.lcp.fsm.state = .opened → IpcpStays s)) ∧
    (QuietDown ipcpFsm s (ipcpLowerDown s) ↔ CanGoDown s.ipcp.fsm) := by
  have hall : Outlet fun _ => True := ⟨fun _ _ => trivial, fun _ _ => trivial, fun _ _ => trivial⟩
  constructor
  · refine (quietDown_iff_canGoDown hall.closing.link.layerRules (fun _ _ => rfl) rfl s).trans ?_
    have hdown : (lcpDown s).hist.output = s.hist.output ↔ IpcpStays s := by
      have he : (echoLowerDown s).hist.output = s.hist.output ∧
          (IpcpStays (echoLowerDown s) ↔ IpcpStays s) := by
        unfold echoLowerDown
        split
        · exact ⟨rfl, Iff.rfl⟩
        · exact ⟨rfl, Iff.rfl⟩
      rw [← he.2, ← output_onLCPDown_iff, he.1]
      rfl
    exact and_congr_right fun _ => imp_congr_right fun _ => hdown
  · refine (quietDown_iff_canGoDown hall.closing.blind.owner.layerRules (fun _ _ => rfl) rfl s).trans ?_
    exact and_iff_left fun _ => output_sendPADT _ _

/-- The peer terminates the link, and a timeout later LCP is taken down in `STOPPED`: it is
    negotiating again, with its timer registered. IPCP whose requests went unanswered sends a new
    one when it is taken down. -/
theorem terminated_link_starts_anew :
    let s := run step (start (.sample PPP_PAP))
      (Event.papRequested ++ [.control PPP_LCP TERMREQ 9 []])
    let t := setState lcpFsm .stopped s
    let u := run step (start (.sample PPP_PAP))
      (Event.papRequested ++ .accept :: List.replicate 10 (.timer .ipcp))
    s.lcp.fsm.state = .stopping ∧ (s.step (.timer .lcp)).lcp.fsm.state = .reqSent ∧
      (s.step (.timer .lcp)).lcp.fsm.timer = true ∧
      ¬ QuietDown lcpFsm t (lowerDown lcpFsm lcpLayer t) ∧
      u.ipcp.fsm.state = .stopped ∧ ¬ QuietDown ipcpFsm u (ipcpLowerDown u) := by
  decide +kernel

end Exec

end OpenBras
