/-
  File:      OpenBras/PPP/FsmClock.lean
  Subject:   THE RESTART TIMER AS A MACHINE OF ITS OWN: what the methods of `CPPPFsm` do to the
             state, the timer and the counter `m_retransmits`, whatever the owner answers.

  `Clock` is the automaton with everything else left out, `Tick` one thing that can happen to it:
  a fresh Configure-Request, a Terminate-Request, a cancelled timer, a retransmission. Every
  method is a sequence of ticks (`lowerUp_ticks` .. `input_ticks`), and so is every method an
  owner calls from inside a callback. The one thing that is no tick is a `Timeout` that finds no
  transmissions left: it changes the state and leaves the timer registered (`GivesUp`).

  An invariant of the automaton that speaks about the clock alone is thereby shown by looking at
  the ticks:

  * `Clock.Timed` -- the timer is registered exactly while an answer of the peer is awaited;
  * `Clock.Bounded` -- the transmissions left are neither negative nor more than configured.
-/
import Mathlib.Logic.Relation
import OpenBras.PPP.FsmRules

namespace OpenBras

open FsmState (awaiting)

/-! ## 1. The clock -/

/-- Both states await the same kind of answer, or none. -/
def FsmState.alike (p q : FsmState) : Bool :=
  p.negotiating == q.negotiating && p.terminating == q.terminating

structure Clock where
  state : FsmState
  /-- the timer is registered -/
  armed : Bool
  /-- `m_retransmits` -/
  left : Int
  /-- `m_maxconfreqtransmits` -/
  conf : Int
  /-- `m_maxtermtransmits` -/
  term : Int
  deriving DecidableEq, Repr

def CPPPFsm.clock (f : CPPPFsm) : Clock where
  state := f.state
  armed := f.timer
  left := f.retransmits
  conf := f.maxconfreqtransmits
  term := f.maxtermtransmits

/-- One thing that happens to the clock. -/
inductive Tick : Clock → Clock → Prop
  /-- a state change that awaits what was awaited before -/
  | within (c : Clock) (q : FsmState) (h : c.state.alike q = true) : Tick c { c with state := q }
  /-- a fresh Configure-Request -/
  | request (c : Clock) (q : FsmState) (h : q.negotiating = true) :
      Tick c { c with state := q, armed := true, left := c.conf - 1 }
  /-- our request is acknowledged, the counter starts over -/
  | acked (c : Clock) (h : c.state.terminating = false) : Tick c { c with left := c.conf }
  /-- the timer is cancelled and nothing is awaited any more -/
  | cancel (c : Clock) (q : FsmState) (h : q.awaiting = false) :
      Tick c { c with state := q, armed := false }
  /-- a first Terminate-Request -/
  | terminate (c : Clock) (q : FsmState) (h : q.terminating = true) (ht : c.term ≠ 0) :
      Tick c { c with state := q, armed := true, left := c.term - 1 }
  /-- a Terminate-Request that will not be repeated -/
  | farewell (c : Clock) (h : c.state.awaiting = false) (ht : c.term = 0) :
      Tick c { c with left := c.term }
  /-- the peer's Terminate-Request is acknowledged, and one timeout waited for -/
  | ending (c : Clock) (q : FsmState) (h : q.terminating = true) :
      Tick c { c with state := q, armed := true, left := 0 }
  /-- a retransmission -/
  | resend (c : Clock) (q : FsmState) (h : c.state.alike q = true) (ha : q.awaiting = true)
      (hl : 0 < c.left) : Tick c { c with state := q, armed := true, left := c.left - 1 }

namespace Clock

/-- The timer is registered exactly while an answer is awaited. -/
def Timed (c : Clock) : Prop := c.armed = true ↔ c.state.awaiting = true

instance (c : Clock) : Decidable c.Timed := inferInstanceAs (Decidable (_ ↔ _))

/-- With the limits `n` and `m`, the transmissions left are neither negative nor more than
    configured. -/
structure Bounded (n m : Int) (c : Clock) : Prop where
  conf : c.conf = n
  term : c.term = m
  nonneg : 0 ≤ c.left
  requests : c.state.negotiating = true → c.left ≤ n
  terminates : c.state.terminating = true → c.left ≤ m

end Clock

theorem FsmState.alike_awaiting {p q : FsmState} (h : p.alike q = true) :
    p.awaiting = q.awaiting := by
  simp only [FsmState.alike, Bool.and_eq_true, beq_iff_eq] at h
  simp only [awaiting, h.1, h.2]

theorem FsmState.negotiating_terminating {q : FsmState} (h : q.terminating = true) :
    q.negotiating = false := by
  cases q <;> first | rfl | cases h

theorem FsmState.not_awaiting {q : FsmState} (h : q.awaiting = false) :
    q.negotiating = false ∧ q.terminating = false := by
  simpa [awaiting] using h

theorem FsmState.alike_of_idle {p q : FsmState} (hp : p.awaiting = false)
    (hq : q.awaiting = false) : p.alike q = true := by
  simp [FsmState.alike, FsmState.not_awaiting hp, FsmState.not_awaiting hq]

theorem FsmState.quiet_awaiting {q : FsmState} (h : q.quiet = true) : q.awaiting = false := by
  cases q <;> first | rfl | cases h

theorem FsmState.alike_of_kin {p q : FsmState} (h : p.kin q = true) : p.alike q = true := by
  rcases Bool.or_eq_true_iff.mp h with h | h <;> obtain ⟨hp, hq⟩ := Bool.and_eq_true_iff.mp h
  · exact alike_of_idle (quiet_awaiting hp) (quiet_awaiting hq)
  · simp [alike, hp, hq, negotiating_terminating hp, negotiating_terminating hq]

theorem FsmState.alike_negotiating {p q : FsmState} (hp : p.negotiating = true)
    (hq : q.negotiating = true) : p.alike q = true := by
  cases p <;> cases hp <;> cases q <;> cases hq <;> rfl

namespace Tick

variable {c d : Clock}

/-- **Every tick keeps the timer in step with the state.** -/
theorem timed (h : Tick c d) (hc : c.Timed) : d.Timed := by
  unfold Clock.Timed at hc ⊢
  cases h with
  | within q h => rw [← FsmState.alike_awaiting h]; exact hc
  | request q h => simp [awaiting, h]
  | acked => exact hc
  | cancel q h => simp [h]
  | terminate q h => simp [awaiting, h]
  | farewell => exact hc
  | ending q h => simp [awaiting, h]
  | resend q h ha => simp [ha]

/-- **Every tick keeps the counter within its bounds.** -/
theorem bounded {n m : Int} (hn : 0 < n) (hm : 0 ≤ m) (h : Tick c d) (hc : c.Bounded n m) :
    d.Bounded n m := by
  obtain ⟨h1, h2, h3, h4, h5⟩ := hc
  cases h with
  | within q h =>
    simp only [FsmState.alike, Bool.and_eq_true, beq_iff_eq] at h
    exact ⟨h1, h2, h3, fun hq => h4 (h.1.trans hq), fun hq => h5 (h.2.trans hq)⟩
  | request q h =>
    refine ⟨h1, h2, ?_, fun _ => ?_, fun hq => ?_⟩ <;> dsimp only at *
    · omega
    · omega
    · rw [FsmState.negotiating_terminating hq] at h
      cases h
  | acked h =>
    refine ⟨h1, h2, ?_, fun _ => le_of_eq h1, fun hq => ?_⟩
    · exact h1 ▸ le_of_lt hn
    · exact absurd (h.symm.trans hq) (by decide)
  | cancel q h =>
    obtain ⟨hn', ht'⟩ := FsmState.not_awaiting h
    exact ⟨h1, h2, h3, fun hq => absurd (hn'.symm.trans hq) (by decide),
      fun hq => absurd (ht'.symm.trans hq) (by decide)⟩
  | terminate q h ht =>
    refine ⟨h1, h2, ?_, fun hq => ?_, fun _ => ?_⟩ <;> dsimp only at *
    · omega
    · rw [FsmState.negotiating_terminating h] at hq
      cases hq
    · omega
  | farewell h ht =>
    obtain ⟨hn', -⟩ := FsmState.not_awaiting h
    exact ⟨h1, h2, h2 ▸ hm, fun hq => absurd (hn'.symm.trans hq) (by decide),
      fun _ => le_of_eq h2⟩
  | ending q h =>
    refine ⟨h1, h2, le_refl 0, fun hq => ?_, fun _ => hm⟩
    rw [FsmState.negotiating_terminating h] at hq
    cases hq
  | resend q h ha hl =>
    simp only [FsmState.alike, Bool.and_eq_true, beq_iff_eq] at h
    refine ⟨h1, h2, ?_, fun hq => ?_, fun hq => ?_⟩ <;> dsimp only at *
    · omega
    · have := h4 (h.1.trans hq)
      omega
    · have := h5 (h.2.trans hq)
      omega

end Tick

/-! ## 2. The methods tick -/

namespace CPPPFsm

open Relation

/-- From `f` to `g` in ticks. -/
def Ticks (f g : CPPPFsm) : Prop := ReflTransGen Tick f.clock g.clock

namespace Ticks

variable {f g h : CPPPFsm}

theorem refl (f : CPPPFsm) : Ticks f f := ReflTransGen.refl

theorem trans (hfg : Ticks f g) (hgh : Ticks g h) : Ticks f h := ReflTransGen.trans hfg hgh

theorem one {d : Clock} (ht : Tick f.clock d) (hg : g.clock = d) : Ticks f g := by
  unfold Ticks
  rw [hg]
  exact .single ht

/-- What the clock does not see is no tick at all. -/
theorem of_clock (hg : g.clock = f.clock) : Ticks f g := by
  unfold Ticks
  rw [hg]

theorem timed (ht : Ticks f g) (hf : f.clock.Timed) : g.clock.Timed := by
  unfold Ticks at ht
  generalize g.clock = d at ht ⊢
  induction ht with
  | refl => exact hf
  | tail _ hs ih => exact hs.timed ih

theorem bounded {n m : Int} (hn : 0 < n) (hm : 0 ≤ m) (ht : Ticks f g)
    (hf : f.clock.Bounded n m) : g.clock.Bounded n m := by
  unfold Ticks at ht
  generalize g.clock = d at ht ⊢
  induction ht with
  | refl => exact hf
  | tail _ hs ih => exact hs.bounded hn hm ih

end Ticks

variable {σ : Type} {L : Lens σ CPPPFsm} {J : Stand → σ → Prop}

section Ci

variable {K : CiSink σ}

theorem clock_sendConfReq (R : CiRules L K J) (r : Bool) (s : σ) :
    (L.get (sendConfReq L K r s)).clock =
      { (L.get s).clock with
        armed := true,
        left := (if r then (L.get s).retransmits else (L.get s).maxconfreqtransmits) - 1 } := by
  unfold sendConfReq confReq
  simp only [get_startTime, Lens.get_upd, get_sendData R]
  rw [(R.addci _ _).1, (R.cilen _).1]
  cases r <;> cases (L.get s).state.negotiating <;>
    simp [nextReqid, (R.resetci s).1, clock]

theorem request_ticks (R : CiRules L K J) {q : FsmState} (hq : q.negotiating = true) (s : σ) :
    Ticks (L.get s) (L.get (setState L q (sendConfReq L K false s))) := by
  refine .one (.request _ q hq) ?_
  rw [get_setState]
  exact congrArg (fun c : Clock => { c with state := q }) (clock_sendConfReq R false s)

/-- Cancelling the timer first makes no difference to a fresh Configure-Request. -/
theorem request_ticks_cancel (R : CiRules L K J) {q : FsmState} (hq : q.negotiating = true)
    (s : σ) : Ticks (L.get s) (L.get (setState L q (sendConfReq L K false (cancelTimer L s)))) := by
  refine .one (.request _ q hq) ?_
  have hc := clock_sendConfReq R false (cancelTimer L s)
  rw [get_cancelTimer] at hc
  rw [get_setState]
  exact congrArg (fun c : Clock => { c with state := q }) hc

theorem goto_ticks {q : FsmState} {s : σ} (hq : (L.get s).state.alike q = true) :
    Ticks (L.get s) (L.get (setState L q s)) :=
  .one (.within _ q hq) (by rw [get_setState]; rfl)

theorem cancel_ticks {q : FsmState} (hq : q.awaiting = false) (s : σ) :
    Ticks (L.get s) (L.get (setState L q (cancelTimer L s))) :=
  .one (.cancel _ q hq) (by rw [get_setState, get_cancelTimer]; rfl)

theorem still_ticks {g : CPPPFsm → CPPPFsm} (hg : Still g) (s : σ) :
    Ticks (L.get s) (L.get (L.upd g s)) := by
  refine .of_clock ?_
  have h := congrArg clock (hg.rest (L.get s))
  rw [L.get_upd]
  exact h

theorem CiRules.ticks (R : CiRules L K J) (f : CPPPFsm) :
    CiActs L K fun s => Ticks f (L.get s) where
  still hg h := h.trans (still_ticks hg _)
  goto hq h := h.trans (goto_ticks (FsmState.alike_of_kin hq))
  fresh _ h := h.trans (request_ticks R rfl _)

theorem lowerUp_ticks (R : CiRules L K J) (s : σ) :
    Ticks (L.get s) (L.get (lowerUp L K s)) := (R.ticks _).lowerUp (.refl _)

end Ci

section Layer

variable {K : LayerSink σ}

theorem LayerRules.ticks (R : LayerRules L K J)
    (hs : ∀ s, Ticks (L.get s) (L.get (K.starting s))) (f : CPPPFsm) :
    LayerActs L K fun s => Ticks f (L.get s) where
  toCiActs := R.toCiRules.ticks f
  starts _ h := h.trans (hs _)
  halt _ hq h := h.trans (cancel_ticks (FsmState.quiet_awaiting hq) _)
  falls {s} hq h := by
    have hd := R.down_fsm s
    refine h.trans (hd ▸ goto_ticks ?_)
    rw [hd, hq]
    rfl

theorem lowerDown_ticks (R : LayerRules L K J)
    (hs : ∀ s, Ticks (L.get s) (L.get (K.starting s))) (s : σ) :
    Ticks (L.get s) (L.get (lowerDown L K s)) := (R.ticks hs _).lowerDown (.refl _)

theorem fsmOpen_ticks (R : LayerRules L K J)
    (hs : ∀ s, Ticks (L.get s) (L.get (K.starting s))) (s : σ) :
    Ticks (L.get s) (L.get (fsmOpen L K s)) := (R.ticks hs _).fsmOpen (.refl _)

end Layer

section Close

variable {K : CloseSink σ}

/-- `TerminateLayer` sends the first Terminate-Request; if it is to be the only one, the link is
    closed at once. -/
theorem terminateLayer_ticks (R : CloseRules L K J)
    (hf : ∀ s, Ticks (L.get s) (L.get (K.finished s))) {next : FsmState}
    (hn : next.terminating = true) {s : σ} :
    Ticks (L.get s) (L.get (terminateLayer L K next s)) := by
  have hd := R.down_fsm (stopTimer L s)
  unfold terminateLayer
  dsimp only
  generalize K.down (stopTimer L s) = d at hd ⊢
  unfold stopTimer at hd
  simp only [get_sendData R.toCiRules, get_nextReqid, Lens.get_upd]
  have hl : (L.get d).maxtermtransmits = (L.get s).maxtermtransmits := by
    rw [hd]
    split
    · rw [get_cancelTimer]
    · rfl
  split
  · rename_i hz
    refine Ticks.trans ?_ (hf _)
    have hq : (if next = FsmState.closing then FsmState.closed else .stopped).awaiting = false := by
      split <;> rfl
    generalize (if next = FsmState.closing then FsmState.closed else .stopped) = q at hq ⊢
    -- nothing is awaited any more, then the counter is set to the limit, which is zero
    have first : Ticks (L.get s) { (L.get d) with state := q } := by
      rw [hd]
      split
      · exact .one (.cancel _ q hq) (by rw [get_cancelTimer]; rfl)
      rename_i ho
      refine .one (.within _ q ?_) rfl
      show (L.get s).state.alike q = true
      rw [not_ne_iff.mp ho]
      exact FsmState.alike_of_idle rfl hq
    refine first.trans (.one (.farewell _ hq hz) ?_)
    simp only [get_setState, get_sendData R.toCiRules, get_nextReqid, Lens.get_upd]
    rfl
  · rename_i hz
    rw [hl] at hz
    refine .one (.terminate _ next hn hz) ?_
    simp only [get_setState, get_startTime, get_sendData R.toCiRules, get_nextReqid, Lens.get_upd]
    rw [hd]
    split
    · rw [get_cancelTimer]
      rfl
    · rfl

theorem close_ticks (R : CloseRules L K J)
    (hf : ∀ s, Ticks (L.get s) (L.get (K.finished s))) (reason : String) (s : σ) :
    Ticks (L.get s) (L.get (close L K reason s)) := by
  refine (R.toCiRules.ticks _).close reason (fun _ => ?_) fun _ _ => .refl _
  exact Ticks.trans (.of_clock (by rw [Lens.get_upd]; rfl)) (terminateLayer_ticks R hf rfl)

end Close

section Fsm

variable {K : IFsmSink σ}

/-- `Timeout` finds no transmissions left. -/
def GivesUp (f : CPPPFsm) : Prop := f.state.awaiting = true ∧ f.retransmits ≤ 0

instance (f : CPPPFsm) : Decidable f.GivesUp := inferInstanceAs (Decidable (_ ∧ _))

/-- **A `Timeout` that has transmissions left repeats the request.** -/
theorem timeout_ticks (R : TimerRules L K J) {s : σ} (hg : ¬ (L.get s).GivesUp) :
    Ticks (L.get s) (L.get (timeout L K s)) := by
  have hpos : (L.get s).state.awaiting = true → 0 < (L.get s).retransmits := by
    intro ha
    by_contra hle
    exact hg ⟨ha, not_lt.mp hle⟩
  refine timeout_acts (A := fun t => Ticks (L.get s) (L.get t)) (fun ht hr => ?_)
    (fun ht hr data n => ?_) (fun hn hr => ?_) (fun hn hr => ?_) (.refl _)
  · exact absurd (hpos (by simp [awaiting, ht])) (not_lt.mpr hr)
  · refine .one (.resend _ (L.get s).state (by simp [FsmState.alike, clock])
      (by simp [awaiting, ht]) hr) ?_
    simp only [Lens.get_upd, get_startTime, get_sendData R.toCiRules, get_nextReqid]
    rfl
  · exact absurd (hpos (by simp [awaiting, hn])) (not_lt.mpr hr)
  · have hc := clock_sendConfReq R.toCiRules true (K.retransmit s)
    rw [(R.retransmit s).1] at hc
    have same : Ticks (L.get s) (L.get (sendConfReq L K.toCiSink true (K.retransmit s))) :=
      .one (.resend _ (L.get s).state (by simp [FsmState.alike, clock])
        (by simp [awaiting, hn]) hr) hc
    unfold resend
    dsimp only
    split
    · rename_i hq
      exact same.trans (goto_ticks (by rw [hq]; rfl))
    · exact same

/-- What the owner may do to the automaton from inside a callback: tick. -/
structure ClockRules (L : Lens σ CPPPFsm) (K : IFsmSink σ) (J : Stand → σ → Prop) : Prop
    extends FsmRules L K J where
  starts : ∀ s, Ticks (L.get s) (L.get (K.starting s))
  finishes : ∀ s, Ticks (L.get s) (L.get (K.finished s))
  rises : ∀ s, Ticks (L.get s) (L.get (K.up s))
  naks : ∀ p n r s, Ticks (L.get s) (L.get (K.nakci p n r s).2)

theorem answerConfReq_ticks (R : ClockRules L K J) (id : UInt8) (inp : Bytes) (len : Nat) {s : σ}
    (hn : (L.get s).state.negotiating = true) :
    Ticks (L.get s) (L.get (answerConfReq L K id inp len s)) := by
  refine (R.toCiRules.ticks (L.get s)).answerConfReq (fun u => L.get u = L.get s)
    (fun u => L.get u = L.get s) id inp len ?_ (fun u _ hu => ?_) (fun u _ hu => ?_)
    (fun u _ hu => ?_) (fun u _ hu => ?_)
  · rintro r code - u rfl
    constructor <;> intro _ <;>
      exact (get_sendData R.toCiRules _ id _ _ _).trans (R.reqci_fsm inp len r s)
  · exact hu ▸ (cancel_ticks rfl u).trans (R.rises _)
  · exact hu ▸ goto_ticks (FsmState.alike_negotiating (hu ▸ hn) rfl)
  · exact hu ▸ goto_ticks (FsmState.alike_negotiating (hu ▸ hn) rfl)
  · exact hu ▸ .refl _

theorem sendData_ticks (R : CiRules L K.toCiSink J) {f : CPPPFsm} (code id : UInt8) (data : Bytes)
    (n : Nat) {s : σ} (h : Ticks f (L.get s)) :
    Ticks f (L.get (sendData L K.toCiSink code id data n s)) := by
  rw [get_sendData R]
  exact h

theorem takes_ticks {f : CPPPFsm} {x : Int × σ} (h : Ticks f (L.get x.2)) :
    Takes L (fun s => Ticks f (L.get s)) (fun s => Ticks f (L.get s)) x :=
  ⟨h, fun _ => h, fun _ => h⟩

theorem ClockRules.acts (R : ClockRules L K J) (f : CPPPFsm) :
    NegotiationActs L K (fun s => Ticks f (L.get s)) fun s => Ticks f (L.get s) where
  toLayerActs := R.toLayerRules.ticks R.starts f
  takenStill hg h := h.trans (still_ticks hg _)
  back hq h := h.trans (goto_ticks (FsmState.alike_negotiating hq rfl))
  again {s} hq h := by
    have hc := clock_sendConfReq R.toCiRules false (cancelTimer L s)
    rw [get_cancelTimer] at hc
    refine h.trans (.one (.request _ (L.get s).state ?_) hc)
    rcases hq with hq | hq <;> rw [hq] <;> rfl
  renew _ h := h.trans (request_ticks_cancel R.toCiRules rfl _)
  renegotiate {s} _ h := by
    rw [← R.down_fsm s] at h
    exact h.trans (request_ticks R.toCiRules rfl (K.down s))
  termAck id h := sendData_ticks R.toCiRules _ _ _ _ h
  quits id hq h := by
    refine h.trans (.one (.ending _ .stopping rfl) ?_)
    rw [get_startTime, R.down_fsm, get_sendData R.toCiRules, Lens.get_upd]
    rfl
  ends _ hq h := by
    refine (h.trans (cancel_ticks ?_ _)).trans (R.finishes _)
    rcases hq with rfl | rfl <;> rfl
  taken h := h
  rejci {s} p n h := takes_ticks (h.trans (.of_clock (by rw [(R.rejci p n s).1])))
  ackci {s} p n h := h.trans (.of_clock (by rw [(R.ackci p n s).1]))
  acked {s} hq h := by
    have ht : (L.get s).state.terminating = false := by rw [hq]; rfl
    have hl : (L.get s).state.alike .ackRcvd = true := by rw [hq]; rfl
    refine h.trans ((Ticks.one (g := { (L.get s) with
      retransmits := (L.get s).maxconfreqtransmits }) (.acked _ ht) rfl).trans ?_)
    exact .one (.within _ .ackRcvd hl) (by rw [Lens.get_upd]; rfl)
  up {s} hq h := by
    refine (h.trans (Ticks.trans (g := { (L.get s) with state := .opened, timer := false })
      (.one (.cancel _ .opened rfl) rfl) (.one (.acked _ rfl) ?_))).trans (R.rises _)
    rw [Lens.get_upd, get_cancelTimer]
    rfl
  answers id inp len hq h := h.trans (answerConfReq_ticks R id inp len hq)
  codeRej data n h := sendData_ticks R.toCiRules _ _ _ _
    (h.trans (.of_clock (by rw [Lens.get_upd]; rfl)))

theorem protReject_ticks (R : ClockRules L K J) (s : σ) :
    Ticks (L.get s) (L.get (protReject L K s)) :=
  (R.acts _).toLayerActs.protReject (fun t _ h => h.trans (R.finishes t))
    (fun _ => terminateLayer_ticks R.toCloseRules R.finishes rfl) (.refl _)

/-- **A received packet is a sequence of ticks.** -/
theorem input_ticks (R : ClockRules L K J) (inpacket : Bytes) (l : Nat) (s : σ) :
    Ticks (L.get s) (L.get (input L K inpacket l s)) := by
  refine (R.acts _).input inpacket l (fun _ _ _ r => takes_ticks ?_) (fun code id len _ => ?_)
    (.refl _)
  · exact Ticks.trans (.of_clock (by rw [Lens.get_upd]; rfl)) (R.naks _ _ r _)
  · exact .of_clock (by rw [(R.extCode code id _ len s).1])

end Fsm

end CPPPFsm

end OpenBras
