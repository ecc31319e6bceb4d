/-
  File:      OpenBras/PPP/FsmActs.lean
  Subject:   THE METHODS OF THE AUTOMATON, ACT BY ACT: what is to be shown of a predicate so that
             every method of `CPPPFsm` keeps it.

  The ten states and the packets give some sixty branches, but few things happen in them: the
  automaton goes to another state, a request is sent and `REQSENT` entered, the timer is
  cancelled, `Down` is delivered and the negotiation starts over. Each of these is one field of
  `CiActs`, `LayerActs`, `FsmActs` or `NegotiationActs`, with the states in which it happens; the
  branches are looked at here and nowhere else.

  * `A` is the predicate; it may read the automaton, its owner and what has been sent;
  * `T` is what is left of it when a Nak or Reject has been taken into the options and no request
    says so yet.

  OpenBras/PPP/FsmRules.lean, FsmCourse.lean, FsmClock.lean and FsmRun.lean show the acts for
  their predicates.
-/
import OpenBras.PPP.Fsm

namespace OpenBras

/-- An answer of the peer is awaited: `CLOSING`, `STOPPING`, `REQSENT`, `ACKRCVD`, `ACKSENT`. -/
def FsmState.awaiting (q : FsmState) : Bool := q.negotiating || q.terminating

/-- Nothing is awaited, and the link is not up. -/
def FsmState.quiet : FsmState → Bool
  | .initial | .starting | .closed | .stopped => true
  | _ => false

/-- Both states are quiet, or a Terminate-Request is on its way in both. -/
def FsmState.kin (p q : FsmState) : Bool := p.quiet && q.quiet || p.terminating && q.terminating

/-- Neither negotiating nor open. -/
def FsmState.resting : FsmState → Bool
  | .reqSent | .ackRcvd | .ackSent | .opened => false
  | _ => true

theorem FsmState.negotiating_of_resting {q : FsmState} (h : q.resting = true) :
    q.negotiating = false := by
  cases q <;> first | rfl | cases h

theorem FsmState.resting_of_terminating {q : FsmState} (h : q.terminating = true) :
    q.resting = true := by
  cases q <;> first | rfl | cases h

theorem FsmState.resting_of_quiet {q : FsmState} (h : q.quiet = true) : q.resting = true := by
  cases q <;> first | rfl | cases h

theorem FsmState.resting_of_kin {p q : FsmState} (h : p.kin q = true) :
    p.resting = true ∧ q.resting = true := by
  rcases Bool.or_eq_true_iff.mp h with h | h <;> obtain ⟨hp, hq⟩ := Bool.and_eq_true_iff.mp h
  · exact ⟨resting_of_quiet hp, resting_of_quiet hq⟩
  · exact ⟨resting_of_terminating hp, resting_of_terminating hq⟩

theorem FsmState.ne_opened_of_resting {q : FsmState} (h : q.resting = true) : q ≠ .opened := by
  rintro rfl
  cases h

theorem FsmState.ne_opened_of_awaiting {q : FsmState} (h : q.awaiting = true) : q ≠ .opened := by
  rintro rfl
  cases h

namespace CPPPFsm

variable {σ : Type}

/-- The update counts the loops, notes the reason, or that an answer to the request was seen. -/
structure Still (g : CPPPFsm → CPPPFsm) : Prop where
  seen : ∀ f, f.seenAck = true → (g f).seenAck = true
  rest : ∀ f, { g f with
    seenAck := f.seenAck, nakloops := f.nakloops, rnakloops := f.rnakloops,
    termReason := f.termReason, termReasonLen := f.termReasonLen } = f

theorem Still.state {g : CPPPFsm → CPPPFsm} (hg : Still g) (f : CPPPFsm) :
    (g f).state = f.state := (congrArg CPPPFsm.state (hg.rest f) :)

/-! ## 1. Field updates -/

section Get

variable {L : Lens σ CPPPFsm}

@[simp] theorem get_setState (q : FsmState) (s : σ) :
    L.get (setState L q s) = { L.get s with state := q } := L.get_upd _ _

@[simp] theorem get_cancelTimer (s : σ) :
    L.get (cancelTimer L s) = { L.get s with timer := false } := L.get_upd _ _

@[simp] theorem get_startTime (s : σ) :
    L.get (startTime L s) = { L.get s with timer := true } := L.get_upd _ _

@[simp] theorem get_nextReqid (s : σ) :
    L.get (nextReqid L s) = { L.get s with id := (L.get s).id + 1, reqid := (L.get s).id + 1 } :=
  L.get_upd _ _

theorem cancelTimer_setState (q : FsmState) (s : σ) :
    cancelTimer L (setState L q s) = setState L q (cancelTimer L s) := by
  unfold cancelTimer setState
  rw [Lens.upd_upd, Lens.upd_upd]
  rfl

end Get

/-! ## 2. The acts -/

structure CiActs (L : Lens σ CPPPFsm) (K : CiSink σ) (A : σ → Prop) : Prop where
  still : ∀ {s g}, Still g → A s → A (L.upd g s)
  goto : ∀ {s} {q : FsmState}, (L.get s).state.kin q = true → A s → A (setState L q s)
  fresh : ∀ {s}, (L.get s).state.quiet = true → A s →
    A (setState L .reqSent (sendConfReq L K false s))

structure LayerActs (L : Lens σ CPPPFsm) (K : LayerSink σ) (A : σ → Prop) : Prop
    extends CiActs L K.toCiSink A where
  starts : ∀ {s}, (L.get s).state = .starting → A s → A (K.starting s)
  halt : ∀ {s} {q : FsmState}, (L.get s).state.awaiting = true → q.quiet = true → A s →
    A (setState L q (cancelTimer L s))
  falls : ∀ {s}, (L.get s).state = .opened → A s → A (setState L .starting (K.down s))

structure FsmActs (L : Lens σ CPPPFsm) (K : IFsmSink σ) (A T : σ → Prop) : Prop
    extends LayerActs L K.toLayerSink A where
  takenStill : ∀ {s g}, Still g → T s → T (L.upd g s)
  back : ∀ {s}, (L.get s).state.negotiating = true → A s → A (setState L .reqSent s)
  again : ∀ {s}, (L.get s).state = .reqSent ∨ (L.get s).state = .ackSent → T s →
    A (sendConfReq L K.toCiSink false (cancelTimer L s))
  renew : ∀ {s}, (L.get s).state = .ackRcvd → T s →
    A (setState L .reqSent (sendConfReq L K.toCiSink false (cancelTimer L s)))
  renegotiate : ∀ {s}, (L.get s).state = .opened → T s →
    A (setState L .reqSent (sendConfReq L K.toCiSink false (K.down s)))
  termAck : ∀ {s} id, A s → A (sendData L K.toCiSink TERMACK id [] 0 s)
  quits : ∀ {s} id, (L.get s).state = .opened → A s →
    A (startTime L (K.down (sendData L K.toCiSink TERMACK id [] 0
      (L.upd (fun f => { f with retransmits := 0, state := .stopping }) s))))
  ends : ∀ {s} {q : FsmState}, (L.get s).state.terminating = true → q = .closed ∨ q = .stopped →
    A s → A (K.finished (setState L q (cancelTimer L s)))

/-- A Nak or Reject has been taken with the given verdict. -/
structure Takes (L : Lens σ CPPPFsm) (A T : σ → Prop) (x : Int × σ) : Prop where
  taken : T x.2
  refused : x.1 ≤ 0 → A x.2
  unused : (L.get x.2).state.kin (L.get x.2).state = true → A x.2

structure NegotiationActs (L : Lens σ CPPPFsm) (K : IFsmSink σ) (A T : σ → Prop) : Prop
    extends FsmActs L K A T where
  taken : ∀ {s}, A s → T s
  rejci : ∀ {s} p n, A s → Takes L A T (K.rejci p n s)
  ackci : ∀ {s} p n, A s → A (K.ackci p n s).2
  acked : ∀ {s}, (L.get s).state = .reqSent → A s →
    A (L.upd (fun f => { f with state := .ackRcvd, retransmits := f.maxconfreqtransmits }) s)
  up : ∀ {s}, (L.get s).state = .ackSent → A s →
    A (K.up (L.upd (fun f => { f with
      state := .opened, retransmits := f.maxconfreqtransmits }) (cancelTimer L s)))
  answers : ∀ {s} id inp len, (L.get s).state.negotiating = true → A s →
    A (answerConfReq L K id inp len s)
  codeRej : ∀ {s} data n, A s → A (sendData L K.toCiSink CODEREJ
    (L.get (L.upd (fun f => { f with id := f.id + 1 }) s)).id data n
    (L.upd (fun f => { f with id := f.id + 1 }) s))

/-! ## 3. The lower layer, opening and closing -/

variable {L : Lens σ CPPPFsm} {A T : σ → Prop} {s : σ}

theorem CiActs.lowerUp {K : CiSink σ} (R : CiActs L K A) (h : A s) : A (lowerUp L K s) := by
  unfold CPPPFsm.lowerUp
  cases hq : (L.get s).state <;> dsimp only
  case initial => exact R.goto (by rw [hq]; rfl) h
  case starting =>
    split
    · exact R.goto (by rw [hq]; rfl) h
    · exact R.fresh (by rw [hq]; rfl) h
  all_goals exact h

/-- `Close` outside of a negotiation, with what `TerminateLayer` makes of the others. -/
theorem CiActs.close {K : CloseSink σ} (R : CiActs L K.toCiSink A) (reason : String)
    (ends : (L.get s).state = .opened ∨ (L.get s).state.negotiating = true →
      A (terminateLayer L K .closing (L.upd (reasoned reason) s)))
    (h : (L.get s).state ≠ .opened → (L.get s).state.negotiating = false → A s) :
    A (close L K reason s) := by
  have noted : (L.get s).state ≠ .opened → (L.get s).state.negotiating = false →
      A (L.upd (reasoned reason) s) :=
    fun h1 h2 => R.still ⟨fun _ h => h, fun _ => rfl⟩ (h h1 h2)
  have hst : (L.get (L.upd (reasoned reason) s)).state = (L.get s).state := by
    rw [L.get_upd]
    rfl
  unfold CPPPFsm.close
  dsimp only
  generalize L.upd (reasoned reason) s = t at ends noted hst ⊢
  rw [← hst] at ends noted
  cases hq : (L.get t).state <;> rw [hq] at ends noted <;> dsimp only
  case starting | stopped | stopping => exact R.goto (by rw [hq]; rfl) (noted (by decide) rfl)
  case reqSent | ackRcvd | ackSent => exact ends (Or.inr rfl)
  case opened => exact ends (Or.inl rfl)
  all_goals exact noted (by decide) rfl

namespace LayerActs

variable {K : LayerSink σ}

theorem lowerDown (R : LayerActs L K A) (h : A s) : A (lowerDown L K s) := by
  have stop : ∀ q : FsmState, q.quiet = true → (L.get s).state.awaiting = true →
      A (cancelTimer L (setState L q s)) := by
    intro q hq hs
    rw [cancelTimer_setState]
    exact R.halt hs hq h
  unfold CPPPFsm.lowerDown
  cases hq : (L.get s).state <;> rw [hq] at stop <;> dsimp only
  case closed => exact R.goto (by rw [hq]; rfl) h
  case stopped => exact R.starts (by rw [get_setState]) (R.goto (by rw [hq]; rfl) h)
  case opened => exact R.falls hq h
  case initial | starting => exact h
  all_goals exact stop _ rfl rfl

theorem fsmOpen (R : LayerActs L K A) (h : A s) : A (fsmOpen L K s) := by
  have restart : ∀ t, A t → A (if (L.get t).flags.restart then
      CPPPFsm.lowerUp L K.toCiSink (CPPPFsm.lowerDown L K t) else t) := by
    intro t ht
    split
    · exact R.lowerUp (R.lowerDown ht)
    · exact ht
  unfold CPPPFsm.fsmOpen
  cases hq : (L.get s).state <;> dsimp only
  case initial => exact R.starts (by rw [get_setState]) (R.goto (by rw [hq]; rfl) h)
  case closed =>
    split
    · exact R.goto (by rw [hq]; rfl) h
    · exact R.fresh (by rw [hq]; rfl) h
  case closing => exact restart _ (R.goto (by rw [hq]; rfl) h)
  case stopped | opened => exact restart s h
  all_goals exact h

theorem protReject {K : IFsmSink σ} (R : LayerActs L K.toLayerSink A)
    (finished : ∀ t, (L.get t).state = .closed ∨ (L.get t).state = .stopped → A t →
      A (K.finished t))
    (ends : (L.get s).state = .opened → A (terminateLayer L K.toCloseSink .stopping s))
    (h : A s) : A (protReject L K s) := by
  have stop : ∀ q : FsmState, q = .closed ∨ q = .stopped → (L.get s).state.awaiting = true →
      A (K.finished (setState L q (cancelTimer L s))) := by
    intro q hq hs
    refine finished _ (by rw [get_setState]; exact hq) (R.halt hs ?_ h)
    rcases hq with rfl | rfl <;> rfl
  unfold CPPPFsm.protReject
  cases hq : (L.get s).state <;> rw [hq] at stop <;> dsimp only
  case closing => exact stop _ (Or.inl rfl) rfl
  case closed =>
    exact finished _ (Or.inl (by rw [get_setState])) (R.goto (by rw [hq]; rfl) h)
  case stopped =>
    exact finished _ (Or.inr (by rw [get_setState])) (R.goto (by rw [hq]; rfl) h)
  case opened => exact ends hq
  case initial | starting => exact h
  all_goals exact stop _ (Or.inr rfl) rfl

end LayerActs

/-! ## 4. The timer -/

/-- **`Timeout`**, by what is left of the transmissions. -/
theorem timeout_acts {K : IFsmSink σ}
    (last : (L.get s).state.terminating = true → (L.get s).retransmits ≤ 0 →
      ∀ q : FsmState, q = .closed ∨ q = .stopped → A (K.finished (setState L q s)))
    (repeats : (L.get s).state.terminating = true → 0 < (L.get s).retransmits → ∀ data n,
      A (L.upd (fun f => { f with retransmits := f.retransmits - 1 }) (startTime L
        (sendData L K.toCiSink TERMREQ (L.get (nextReqid L s)).reqid data n (nextReqid L s)))))
    (gives : (L.get s).state.negotiating = true → (L.get s).retransmits ≤ 0 →
      A (setState L .stopped s) ∧
        ((L.get s).flags.passive = false → A (K.finished (setState L .stopped s))))
    (resends : (L.get s).state.negotiating = true → 0 < (L.get s).retransmits →
      A (resend L K s)) (h : A s) : A (timeout L K s) := by
  have request : (L.get s).state.negotiating = true → A (if (L.get s).retransmits ≤ 0 then
      if (L.get (setState L .stopped s)).flags.passive then setState L .stopped s
      else K.finished (setState L .stopped s)
    else resend L K s) := by
    intro hn
    split
    · rename_i hr
      rw [get_setState]
      split
      · exact (gives hn hr).1
      · rename_i hp
        exact (gives hn hr).2 (Bool.not_eq_true _ ▸ hp)
    · rename_i hr
      exact resends hn (not_le.mp hr)
  unfold timeout
  cases hq : (L.get s).state <;> rw [hq] at last repeats request <;> dsimp only
  case closing | stopping =>
    split
    · rename_i hr
      exact last rfl hr _ (by simp)
    · rename_i hr
      exact repeats rfl (not_le.mp hr) _ _
  case reqSent | ackRcvd | ackSent => exact request rfl
  all_goals exact h

/-! ## 5. Received packets -/

/-- **The answer to a Configure-Request**: `Acked` and `Refused` say what holds when it has been
    sent, as a Configure-Ack or as something else. -/
theorem CiActs.answerConfReq {K : IFsmSink σ} (R : CiActs L K.toCiSink A) (Acked Refused : σ → Prop)
    (id : UInt8) (inp : Bytes) (len : Nat)
    (sent : ∀ r code, code = (if (K.reqci inp len r s).1.1 = -1 then
        (if (K.reqci inp len r s).1.2.length ≠ 0 then confRej else confAck)
        else (K.reqci inp len r s).1.1) → ∀ u, u = sendData L K.toCiSink
          (UInt8.ofNat (code.emod 256).toNat) id (K.reqci inp len r s).1.2
          (K.reqci inp len r s).1.2.length (K.reqci inp len r s).2 →
        (code = confAck → Acked u) ∧ (code ≠ confAck → Refused u))
    (up : ∀ u, (L.get u).state = .ackRcvd → Acked u →
      A (K.up (setState L .opened (cancelTimer L u))))
    (ackSent : ∀ u, (L.get u).state ≠ .ackRcvd → Acked u → A (setState L .ackSent u))
    (reqSent : ∀ u, (L.get u).state ≠ .ackRcvd → Refused u → A (setState L .reqSent u))
    (stays : ∀ u, (L.get u).state = .ackRcvd → Refused u → A u) :
    A (answerConfReq L K id inp len s) := by
  unfold CPPPFsm.answerConfReq
  generalize (L.get s).refusing = r
  obtain ⟨hack, hrefuse⟩ := sent r _ rfl _ rfl
  dsimp only
  generalize (if (K.reqci inp len r s).1.1 = -1 then _ else (K.reqci inp len r s).1.1) = code
    at hack hrefuse ⊢
  generalize sendData L K.toCiSink (UInt8.ofNat (code.emod 256).toNat) id _ _ _ = u
    at hack hrefuse ⊢
  split
  · rename_i hc
    refine R.still ⟨fun _ h => h, fun _ => rfl⟩ ?_
    split
    · rename_i hq
      exact up u hq (hack hc)
    · rename_i hq
      exact ackSent u hq (hack hc)
  · rename_i hc
    have told : A (if (L.get u).state ≠ .ackRcvd then setState L .reqSent u else u) := by
      split
      · rename_i hq
        exact reqSent u hq (hrefuse hc)
      · rename_i hq
        exact stays u (not_ne_iff.mp hq) (hrefuse hc)
    split
    · exact R.still ⟨fun _ h => h, fun _ => rfl⟩ told
    · exact told

namespace FsmActs

variable {K : IFsmSink σ}

theorem afterNakRej (R : FsmActs L K A T) (id : UInt8) {x : Int × σ} (hx : Takes L A T x) :
    A (afterNakRej L K id x.1 x.2) := by
  obtain ⟨ret, s⟩ := x
  obtain ⟨htaken, hrefused, hunused⟩ := hx
  have seen : Still fun f => { f with seenAck := true } := ⟨fun _ _ => rfl, fun _ => rfl⟩
  have hst : (L.get (L.upd (fun f => { f with seenAck := true }) s)).state = (L.get s).state := by
    rw [L.get_upd]
  have taken := R.takenStill seen htaken
  have refused := fun h => R.still seen (hrefused h)
  have unused := fun h => R.still seen (hunused h)
  unfold CPPPFsm.afterNakRej
  dsimp only at *
  generalize L.upd (fun f => { f with seenAck := true }) s = u at hst taken refused unused ⊢
  rw [← hst] at unused
  have retry : (L.get u).state = .reqSent ∨ (L.get u).state = .ackSent →
      A (if ret < 0 then setState L .stopped (cancelTimer L u)
        else sendConfReq L K.toCiSink false (cancelTimer L u)) := by
    intro hq
    split
    · rename_i hneg
      refine R.halt ?_ rfl (refused hneg.le)
      rcases hq with hq | hq <;> rw [hq] <;> rfl
    · exact R.again hq taken
  cases hq : (L.get u).state <;> rw [hq] at unused <;> dsimp only
  case closed | stopped => exact R.termAck id (unused rfl)
  case reqSent => exact retry (Or.inl hq)
  case ackSent => exact retry (Or.inr hq)
  case ackRcvd => exact R.renew hq taken
  case opened => exact R.renegotiate hq taken
  all_goals exact unused rfl

theorem rcvConfNakRej (R : FsmActs L K A T) (code id : UInt8) (inp : Bytes) (len : Nat)
    (nak : code = CONFNAK → id = (L.get s).reqid → (L.get s).seenAck = false → ∀ r,
      Takes L A T (K.nakci inp len r (L.upd (fun f => { f with rnakloops := f.rnakloops + 1 }) s)))
    (rej : Takes L A T (K.rejci inp len (L.upd (fun f => { f with rnakloops := 0 }) s)))
    (h : A s) : A (rcvConfNakRej L K code id inp len s) := by
  have after : ∀ x : Int × σ, Takes L A T x →
      A (if x.1 = 0 then x.2 else CPPPFsm.afterNakRej L K id x.1 x.2) := by
    intro x hx
    split
    · rename_i h0
      exact hx.refused h0.le
    · exact R.afterNakRej id hx
  unfold CPPPFsm.rcvConfNakRej
  split
  · exact h
  rename_i heard
  rw [not_or, not_ne_iff, Bool.not_eq_true] at heard
  split
  · rename_i hc
    exact after _ (nak hc heard.1 heard.2 _)
  · exact after _ rej

theorem rcvTermReq (R : FsmActs L K A T) (id : UInt8) (h : A s) : A (rcvTermReq L K id s) := by
  unfold CPPPFsm.rcvTermReq
  cases hq : (L.get s).state <;> dsimp only
  case ackRcvd | ackSent => exact R.termAck id (R.back (by rw [hq]; rfl) h)
  case opened => exact R.quits id hq h
  all_goals exact R.termAck id h

theorem rcvTermack (R : FsmActs L K A T) (taken : A s → T s) (h : A s) : A (rcvTermack L K s) := by
  unfold CPPPFsm.rcvTermack
  cases hq : (L.get s).state <;> dsimp only
  case closing => exact R.ends (by rw [hq]; rfl) (Or.inl rfl) h
  case stopping => exact R.ends (by rw [hq]; rfl) (Or.inr rfl) h
  case ackRcvd => exact R.back (by rw [hq]; rfl) h
  case opened => exact R.renegotiate hq (taken h)
  all_goals exact h

theorem rcvCodeReject (R : FsmActs L K A T) (len : Nat) (h : A s) : A (rcvCodeReject L len s) := by
  unfold CPPPFsm.rcvCodeReject
  split
  · exact h
  split
  · rename_i hq
    exact R.back (by rw [hq]; rfl) h
  · exact h

end FsmActs

namespace NegotiationActs

variable {K : IFsmSink σ}

theorem rcvConfReq (R : NegotiationActs L K A T) (id : UInt8) (inp : Bytes) (len : Nat)
    (hs : (L.get s).state ≠ .initial ∧ (L.get s).state ≠ .starting) (h : A s) :
    A (rcvConfReq L K id inp len s) := by
  have restarted : ∀ t, A (setState L .reqSent t) →
      A (answerConfReq L K id inp len (setState L .reqSent t)) := fun t =>
    R.answers id inp len (by rw [get_setState]; rfl)
  unfold CPPPFsm.rcvConfReq
  cases hq : (L.get s).state <;> dsimp only
  case initial => exact absurd hq hs.1
  case starting => exact absurd hq hs.2
  case closed => exact R.termAck id h
  case closing | stopping => exact h
  case stopped => exact restarted _ (R.fresh (by rw [hq]; rfl) h)
  case opened => exact restarted _ (R.renegotiate hq (R.taken h))
  all_goals exact R.answers id inp len (by rw [hq]; rfl) h

theorem rcvConfAck (R : NegotiationActs L K A T) (id : UInt8) (inp : Bytes) (len : Nat)
    (h : A s) : A (rcvConfAck L K id inp len s) := by
  unfold CPPPFsm.rcvConfAck
  split
  · exact h
  have ht := R.ackci inp len h
  generalize K.ackci inp len s = x at ht ⊢
  obtain ⟨ok, t⟩ := x
  dsimp only at ht ⊢
  split
  · exact ht
  have hu : A (L.upd (fun f => { f with seenAck := true, rnakloops := 0 }) t) :=
    R.still ⟨fun _ _ => rfl, fun _ => rfl⟩ ht
  generalize L.upd (fun f => { f with seenAck := true, rnakloops := 0 }) t = u at hu ⊢
  cases hq : (L.get u).state <;> dsimp only
  case closed | stopped => exact R.termAck id hu
  case reqSent => exact R.acked hq hu
  case ackRcvd => exact R.renew hq (R.taken hu)
  case ackSent => exact R.up hq hu
  case opened => exact R.renegotiate hq (R.taken hu)
  all_goals exact hu

/-- **`Input`**, with what `Nakci` makes of a Nak that it hears, and the owner of a code the
    automaton does not know. -/
theorem input (R : NegotiationActs L K A T) (inpacket : Bytes) (l : Nat)
    (nak : ∀ len, header inpacket l = some (CONFNAK, (L.get s).reqid, len) →
      (L.get s).seenAck = false → ∀ r, Takes L A T (K.nakci (inpacket.drop HEADERLEN) len r
        (L.upd (fun f => { f with rnakloops := f.rnakloops + 1 }) s)))
    (ext : ∀ code id len, header inpacket l = some (code, id, len) →
      A (K.extCode code id (inpacket.drop HEADERLEN) len s).2)
    (h : A s) : A (input L K inpacket l s) := by
  unfold CPPPFsm.input
  split
  · exact h
  rename_i code id len hhead
  split
  · exact h
  rename_i hs
  unfold dispatch
  dsimp only
  repeat' split
  · exact R.rcvConfReq id _ len (not_or.mp hs) h
  · exact R.rcvConfAck id _ len h
  · refine R.rcvConfNakRej code id _ len (fun hc hid hseen => nak len ?_ hseen)
      (R.rejci _ _ (R.still ⟨fun _ h => h, fun _ => rfl⟩ h)) h
    rw [hhead, hc, hid]
  · exact R.rcvTermReq id h
  · exact R.rcvTermack R.taken h
  · exact R.rcvCodeReject len h
  · exact ext _ _ _ hhead
  · exact R.codeRej _ _ (ext _ _ _ hhead)

end NegotiationActs

end CPPPFsm

end OpenBras
