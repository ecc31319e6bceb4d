/-
  File:      OpenBras/PPP/FsmTimer.lean
  Subject:   THE RESTART TIMER OVER WHOLE RUNS of the automaton: when it is registered, and how
             long an unanswered request is repeated.

  **Registered while awaited.** `timer_awaits_iff`: along a run the timer is registered exactly
  in `CLOSING`, `STOPPING`, `REQSENT`, `ACKRCVD` and `ACKSENT` if and only if no `Timeout` gives
  up, unless the owner starts over at once. `Timeout` leaves those states without `CancelTimer`
  (`given_up_timer_stays`), and the periodic timer goes on firing in `CLOSED` or `STOPPED`.

  **Repeated a bounded number of times.** `retransmissions_bounded`: over every run with an owner
  that calls nothing back, the counter is never negative, and timeouts alone repeat a request no
  more often than configured and then end in `CLOSED` or `STOPPED` with one `Finished`.
-/
import OpenBras.PPP.FsmClock
import OpenBras.PPP.FsmRun

namespace OpenBras

open Wire

/-! ## 1. The timer and the state -/

namespace Answers

open FsmWorld CPPPFsm

variable (a : Answers)

theorem starting_ticks (w : FsmWorld) :
    Ticks (lens.get w) (lens.get (a.layerSink.starting w)) := by
  show Ticks (lens.get w) (lens.get (if a.startingLowerUp then lowerUp lens a.ciSink w else w))
  split
  · exact lowerUp_ticks a.ciRules w
  · exact .refl _

theorem finished_ticks (w : FsmWorld) :
    Ticks (lens.get w) (lens.get (a.closeSink.finished w)) := by
  show Ticks (lens.get w)
    (lens.get (if a.finishedLowerDown then lowerDown lens a.layerSink w else w))
  split
  · exact lowerDown_ticks a.layerRules a.starting_ticks w
  · exact .refl _

theorem callClose_ticks (r : Option String) (w : FsmWorld) :
    Ticks (lens.get w) (lens.get (a.callClose r w)) := by
  cases r with
  | none => exact .refl _
  | some r => exact close_ticks a.closeRules a.finished_ticks r w

/-- Whatever an owner of this program calls back, the automaton ticks. -/
theorem clockRules : ClockRules lens a.sink Told where
  toFsmRules := a.rules
  starts := a.starting_ticks
  finishes := a.finished_ticks
  rises w := a.callClose_ticks a.upClose (w.note .up)
  naks _ _ _ w := a.callClose_ticks a.nakClose w

end Answers

namespace FsmWorld

open CPPPFsm

/-- The timer is registered exactly while an answer of the peer is awaited. -/
def TimerAwaits (w : FsmWorld) : Prop := w.fsm.timer = true ↔ w.fsm.state.awaiting = true

instance (w : FsmWorld) : Decidable w.TimerAwaits := inferInstanceAs (Decidable (_ ↔ _))

/-- Giving up starts a new negotiation at once: `Finished` takes the lower layer down and
    `Starting` brings it up again. -/
def StartsOver (w : FsmWorld) (a : Answers) : Prop :=
  w.fsm.state ≠ .closing ∧ (w.fsm.state = .stopping ∨ w.fsm.flags.passive = false) ∧
    a.finishedLowerDown = true ∧ a.startingLowerUp = true ∧ w.fsm.flags.silent = false

instance (w : FsmWorld) (a : Answers) : Decidable (w.StartsOver a) :=
  inferInstanceAs (Decidable (_ ∧ _ ∧ _ ∧ _ ∧ _))

/-- The condition on a step: a `Timeout` has transmissions left, or the owner starts over. -/
def KeepsTrying (w : FsmWorld) : FsmEvent × Answers → Prop
  | (.timeout, a) => w.fsm.GivesUp → w.StartsOver a
  | _ => True

instance (w : FsmWorld) : ∀ e, Decidable (w.KeepsTrying e)
  | (.timeout, a) => inferInstanceAs (Decidable (w.fsm.GivesUp → w.StartsOver a))
  | (.openLink, _) | (.close _, _) | (.lowerUp, _) | (.lowerDown, _) | (.protReject, _)
  | (.input .., _) => isTrue trivial

/-- **Every step is a sequence of ticks**, but for a `Timeout` that gives up. -/
theorem step_ticks (w : FsmWorld) (e : FsmEvent × Answers)
    (h : e.1 = .timeout → ¬ w.fsm.GivesUp) : Ticks w.fsm (w.step e).fsm := by
  obtain ⟨e, a⟩ := e
  have R := a.clockRules
  cases e with
  | openLink => exact fsmOpen_ticks R.toLayerRules R.starts w
  | close reason => exact close_ticks R.toCloseRules R.finishes reason w
  | lowerUp => exact lowerUp_ticks R.toCiRules w
  | lowerDown => exact lowerDown_ticks R.toLayerRules R.starts w
  | timeout => exact timeout_ticks R.toTimerRules (h rfl)
  | protReject => exact protReject_ticks R w
  | input inpacket l =>
    have hi := input_ticks R inpacket l (receive inpacket l w)
    rw [lens_get, fsm_receive] at hi
    exact hi

theorem not_timerAwaits {w : FsmWorld} (ht : w.fsm.timer = true)
    (hs : w.fsm.state.awaiting = false) : ¬ w.TimerAwaits := by
  intro h
  exact absurd (hs.symm.trans (h.mp ht)) (by decide)

theorem timerAwaits_finished (a : Answers) {w : FsmWorld} (hq : w.fsm.state = .stopped)
    (ht : w.fsm.timer = true) :
    (a.closeSink.finished w).TimerAwaits ↔
      a.finishedLowerDown = true ∧ a.startingLowerUp = true ∧ w.fsm.flags.silent = false := by
  show (if a.finishedLowerDown then lowerDown lens a.layerSink w else w).TimerAwaits ↔ _
  cases hf : a.finishedLowerDown with
  | false => simpa using not_timerAwaits ht (by rw [hq]; rfl)
  | true =>
    have hd : lowerDown lens a.layerSink w =
        a.layerSink.starting (setState lens .starting w) := by
      unfold lowerDown
      rw [lens_get, hq]
    rw [if_pos rfl, hd]
    show (if a.startingLowerUp then lowerUp lens a.ciSink (setState lens .starting w)
      else setState lens .starting w).TimerAwaits ↔ _
    cases hs : a.startingLowerUp with
    | false => simpa using not_timerAwaits (w := setState lens .starting w) ht rfl
    | true =>
      have hu : lowerUp lens a.ciSink (setState lens .starting w) =
          if w.fsm.flags.silent then setState lens .stopped (setState lens .starting w)
          else setState lens .reqSent
            (sendConfReq lens a.ciSink false (setState lens .starting w)) := rfl
      rw [if_pos rfl, hu]
      cases hl : w.fsm.flags.silent with
      | true =>
        simpa using not_timerAwaits (w := setState lens .stopped (setState lens .starting w))
          ht rfl
      | false =>
        have hc := congrArg Clock.armed
          (clock_sendConfReq a.ciRules false (setState lens .starting w))
        simp only [if_false, Bool.false_eq_true, and_self, iff_true]
        exact ⟨fun _ => rfl, fun _ => hc⟩

/-- **Giving up leaves the timer registered**: it fits the state again only if the owner starts
    over. -/
theorem timerAwaits_givesUp (a : Answers) {w : FsmWorld} (hg : w.fsm.GivesUp)
    (ht : w.fsm.timer = true) : (w.step (.timeout, a)).TimerAwaits ↔ w.StartsOver a := by
  obtain ⟨ha, hr⟩ := hg
  have stopped : (a.sink.finished (setState lens .stopped w)).TimerAwaits ↔
      a.finishedLowerDown = true ∧ a.startingLowerUp = true ∧ w.fsm.flags.silent = false :=
    timerAwaits_finished a (w := setState lens .stopped w) rfl ht
  have closed : ¬ (a.sink.finished (setState lens .closed w)).TimerAwaits := by
    show ¬ (if a.finishedLowerDown then lowerDown lens a.layerSink (setState lens .closed w)
      else setState lens .closed w).TimerAwaits
    cases a.finishedLowerDown with
    | false => exact not_timerAwaits ht rfl
    | true => exact not_timerAwaits ht rfl
  have passive : w.fsm.flags.passive = true → ¬ (setState lens .stopped w).TimerAwaits :=
    fun _ => not_timerAwaits ht rfl
  show (timeout lens a.sink w).TimerAwaits ↔ _
  unfold timeout StartsOver
  rw [lens_get]
  cases hq : w.fsm.state <;> rw [hq] at ha <;> dsimp only
  case closing =>
    rw [if_pos hr]
    exact iff_of_false closed fun h => h.1 rfl
  case stopping =>
    rw [if_pos hr]
    simpa using stopped
  case reqSent | ackRcvd | ackSent =>
    rw [if_pos hr]
    show (if w.fsm.flags.passive then setState lens .stopped w
      else a.sink.finished (setState lens .stopped w)).TimerAwaits ↔ _
    cases hp : w.fsm.flags.passive with
    | true => simpa using passive hp
    | false => simpa using stopped
  all_goals cases ha

/-- **Along a run the timer is registered exactly while an answer of the peer is awaited, if and
    only if no `Timeout` gives up for good**, for every event, packet and answer of the owner,
    from every automaton in `INITIAL` whose timer is not registered. -/
theorem timer_awaits_iff (f : CPPPFsm) (hf : f.state = .initial) (ht : f.timer = false)
    (es : List (FsmEvent × Answers)) :
    Throughout step TimerAwaits { fsm := f } es ↔ Along step KeepsTrying { fsm := f } es := by
  refine throughout_iff_along (I := TimerAwaits) (fun w e hI hok => ?_) (fun _ h => h)
    (fun w e hI hP => ?_) ?_ es
  · by_cases hg : e.1 = .timeout ∧ w.fsm.GivesUp
    · obtain ⟨e, a⟩ := e
      obtain ⟨rfl, hg⟩ := hg
      exact (timerAwaits_givesUp a hg (hI.mpr hg.1)).mpr (hok hg)
    · exact (step_ticks w e fun he hg' => hg ⟨he, hg'⟩).timed hI
  · obtain ⟨e, a⟩ := e
    cases e with
    | timeout => exact fun hg => (timerAwaits_givesUp a hg (hI.mpr hg.1)).mp hP
    | _ => trivial
  · unfold TimerAwaits
    rw [hf, ht]
    decide

/-- A link that is opened, resends its request, comes up and goes down again. -/
theorem timer_awaits_exchange :
    Throughout step TimerAwaits { fsm := { protocol := 0xc021 } }
      [(.openLink, {}), (.lowerUp, {}), (.timeout, {}), (.input [1, 7, 0, 4] 4, {}),
        (.input [2, 1, 0, 4] 4, {}), (.close "done", {}), (.input [6, 2, 0, 4] 4, {})] :=
  (timer_awaits_iff { protocol := 0xc021 } rfl rfl _).mpr (by decide +kernel)

/-- **The timer outlives the negotiation**: the peer never answers, ten requests go unanswered,
    and in `STOPPED` the timer is still registered. -/
theorem given_up_timer_stays :
    let es : List (FsmEvent × Answers) :=
      (.openLink, {}) :: (.lowerUp, {}) :: List.replicate 10 (.timeout, {})
    let w := run step { fsm := { protocol := 0xc021 } } es
    w.fsm.state = .stopped ∧ w.fsm.timer = true ∧
      ¬ Throughout step TimerAwaits { fsm := { protocol := 0xc021 } } es :=
  ⟨by decide +kernel, by decide +kernel, fun h => absurd (throughout_last h) (by decide +kernel)⟩

end FsmWorld

/-! ## 2. The counter -/

/-- The automaton and what an owner that calls nothing back has counted. -/
structure Tally where
  fsm : CPPPFsm
  /-- Configure-Requests sent -/
  requests : Nat := 0
  /-- Terminate-Requests sent -/
  terminates : Nat := 0
  /-- deliveries of `Finished` -/
  finished : Nat := 0
  deriving DecidableEq, Repr

namespace Tally

/-- The place of the automaton. -/
def lens : Lens Tally CPPPFsm where
  get t := t.fsm
  set f t := { t with fsm := f }
  get_set _ _ := rfl
  set_set _ _ _ := rfl
  set_get _ := rfl

/-- A packet sent, counted by its code. -/
def count (code : UInt8) (t : Tally) : Tally :=
  if code = CONFREQ then { t with requests := t.requests + 1 }
  else if code = TERMREQ then { t with terminates := t.terminates + 1 }
  else t

end Tally

/-- The answers of an owner that calls nothing back. -/
def Answers.tally (a : Answers) : IFsmSink Tally where
  resetci t := t
  cilen t := (a.cilen, t)
  addci _ t := (a.addci, t)
  outputPacket p t := t.count (byteAt p 4)
  starting t := t
  down t := t
  finished t := { t with finished := t.finished + 1 }
  ackci _ _ t := (a.ackci, t)
  nakci _ _ _ t := (a.nakci, t)
  rejci _ _ t := (a.rejci, t)
  reqci _ _ _ t := ((a.reqci.1.code, a.reqci.2), t)
  up t := t
  retransmit t := t
  extCode _ _ _ _ t := (a.extCode, t)

namespace Tally

open CPPPFsm

def step (t : Tally) : FsmEvent × Answers → Tally
  | (.openLink, a) => fsmOpen lens a.tally.toLayerSink t
  | (.close reason, a) => close lens a.tally.toCloseSink reason t
  | (.lowerUp, a) => lowerUp lens a.tally.toCiSink t
  | (.lowerDown, a) => lowerDown lens a.tally.toLayerSink t
  | (.timeout, a) => timeout lens a.tally t
  | (.protReject, a) => protReject lens a.tally t
  | (.input inpacket l, a) => input lens a.tally inpacket l t

theorem fsm_count (code : UInt8) (t : Tally) : (t.count code).fsm = t.fsm := by
  unfold count
  split
  · rfl
  · split <;> rfl

variable (a : Answers) {t : Tally}

theorem clockRules : ClockRules lens a.tally fun _ _ => True where
  fsm _ _ _ h := h
  acked _ h := h
  resetci _ := ⟨rfl, fun _ h => h⟩
  cilen _ := ⟨rfl, fun _ h => h⟩
  addci _ _ := ⟨rfl, fun _ h => h⟩
  outputPacket _ t := ⟨fsm_count _ t, fun _ h => h⟩
  ending _ h := h
  starting _ _ _ := trivial
  down_fsm _ := rfl
  down _ _ := ⟨trivial, trivial⟩
  finished _ _ _ := trivial
  retransmit _ := ⟨rfl, fun _ h => h⟩
  ackci _ _ _ := ⟨rfl, fun _ h => h⟩
  rejci _ _ _ := ⟨rfl, fun _ h => h⟩
  extCode _ _ _ _ _ := ⟨rfl, fun _ h => h⟩
  reqci_fsm _ _ _ _ := rfl
  reqci _ _ _ _ h := h
  reqci_ack _ _ _ _ _ _ := trivial
  up _ _ _ := trivial
  starts _ := .refl _
  finishes _ := .refl _
  rises _ := .refl _
  naks _ _ _ _ := .refl _

theorem resendConfReq_eq (hn : t.fsm.state.negotiating = true) :
    sendConfReq lens a.tally.toCiSink true (a.tally.retransmit t) =
      { t with
        requests := t.requests + 1,
        fsm := { t.fsm with
          seenAck := false, retransmits := t.fsm.retransmits - 1, timer := true } } := by
  have hn' : (lens.get t).state.negotiating = true := hn
  show sendConfReq lens a.tally.toCiSink true t = _
  unfold sendConfReq confReq
  rw [if_pos hn']
  rfl

/-- **A `Timeout` with transmissions left sends one request of the awaited kind.** -/
theorem timeout_resends (ha : t.fsm.state.awaiting = true) (hr : 0 < t.fsm.retransmits) :
    ∃ f : CPPPFsm, t.fsm.state.alike f.state = true ∧ f.retransmits = t.fsm.retransmits - 1 ∧
      f.flags = t.fsm.flags ∧
      t.step (.timeout, a) =
        { t with
          fsm := f,
          requests := t.requests + if t.fsm.state.negotiating then 1 else 0,
          terminates := t.terminates + if t.fsm.state.terminating then 1 else 0 } := by
  have request : t.fsm.state.negotiating = true → ∃ f : CPPPFsm,
      t.fsm.state.alike f.state = true ∧ f.retransmits = t.fsm.retransmits - 1 ∧
      f.flags = t.fsm.flags ∧
      resend lens a.tally t = { t with fsm := f, requests := t.requests + 1 } := by
    intro hn
    rw [resend, resendConfReq_eq a hn]
    by_cases hq : t.fsm.state = .ackRcvd
    · exact ⟨{ t.fsm with
        state := .reqSent, seenAck := false, retransmits := t.fsm.retransmits - 1, timer := true },
        by rw [hq]; rfl, rfl, rfl, if_pos hq⟩
    · exact ⟨{ t.fsm with
        seenAck := false, retransmits := t.fsm.retransmits - 1, timer := true },
        by simp [FsmState.alike], rfl, rfl, if_neg hq⟩
  have hne : ¬ t.fsm.retransmits ≤ 0 := not_le.mpr hr
  show ∃ f : CPPPFsm, _ ∧ _ ∧ _ ∧ timeout lens a.tally t = _
  unfold timeout
  simp only [show lens.get t = t.fsm from rfl]
  cases hq : t.fsm.state <;> rw [hq] at ha request <;> dsimp only
  case closing | stopping =>
    rw [if_neg hne]
    refine ⟨{ t.fsm with
      id := t.fsm.id + 1, reqid := t.fsm.id + 1, timer := true,
      retransmits := t.fsm.retransmits - 1 }, ?_, rfl, rfl, rfl⟩
    rw [hq]
    rfl
  case reqSent | ackRcvd | ackSent =>
    rw [if_neg hne]
    exact request rfl
  all_goals cases ha

/-- **A `Timeout` without any ends the attempt**, with `Finished` unless the negotiation is
    passive. -/
theorem timeout_givesUp (ha : t.fsm.state.awaiting = true) (hr : t.fsm.retransmits ≤ 0) :
    ∃ q : FsmState, (q = .closed ∨ q = .stopped) ∧
      t.step (.timeout, a) =
        { t with
          fsm := { t.fsm with state := q },
          finished := t.finished +
            if t.fsm.state.negotiating && t.fsm.flags.passive then 0 else 1 } := by
  show ∃ q : FsmState, _ ∧ timeout lens a.tally t = _
  unfold timeout
  simp only [show lens.get t = t.fsm from rfl]
  cases hq : t.fsm.state <;> rw [hq] at ha <;> dsimp only
  case closing =>
    rw [if_pos hr]
    exact ⟨.closed, Or.inl rfl, rfl⟩
  case stopping =>
    rw [if_pos hr]
    exact ⟨.stopped, Or.inr rfl, rfl⟩
  case reqSent | ackRcvd | ackSent =>
    rw [if_pos hr]
    refine ⟨.stopped, Or.inr rfl, ?_⟩
    show (if t.fsm.flags.passive then _ else _) = _
    cases hp : t.fsm.flags.passive <;> rfl
  all_goals cases ha

/-- In `CLOSED` and `STOPPED` the timer fires to no effect. -/
theorem timeouts_idle (as : List Answers) (hq : t.fsm.state = .closed ∨ t.fsm.state = .stopped) :
    run step t (as.map fun a => (.timeout, a)) = t := by
  induction as with
  | nil => rfl
  | cons a as ih =>
    have hs : t.step (.timeout, a) = t := by
      show timeout lens a.tally t = t
      unfold timeout
      rcases hq with hq | hq <;> simp only [show lens.get t = t.fsm from rfl, hq]
    rw [List.map_cons, run_cons, hs]
    exact ih

/-- What `n` timeouts in a row make of `t` if `k` transmissions are left: the first `k` send a
    request of the awaited kind each, the next one ends the attempt, the others do nothing. -/
structure Exhausted (t : Tally) (k n : Nat) (u : Tally) : Prop where
  requests : u.requests = t.requests + if t.fsm.state.negotiating then min n k else 0
  terminates : u.terminates = t.terminates + if t.fsm.state.terminating then min n k else 0
  ends : k < n → u.fsm.state = .closed ∨ u.fsm.state = .stopped
  finished : u.finished = t.finished +
    if k < n ∧ (t.fsm.state.negotiating && t.fsm.flags.passive) = false then 1 else 0

/-- **Timeouts alone**, by induction on how many there are. -/
theorem timeouts_exhaust (as : List Answers) {k : Nat} (ha : t.fsm.state.awaiting = true)
    (hk : t.fsm.retransmits = k) :
    Exhausted t k as.length (run step t (as.map fun a => (.timeout, a))) := by
  induction as generalizing t k with
  | nil =>
    refine ⟨?_, ?_, fun h => absurd h (Nat.not_lt_zero k), ?_⟩ <;> simp
  | cons a as ih =>
    rw [List.map_cons, run_cons, List.length_cons]
    cases k with
    | zero =>
      obtain ⟨q, hq, he⟩ := timeout_givesUp a ha (by omega)
      rw [timeouts_idle as (by rw [he]; exact hq), he]
      refine ⟨by simp, by simp, fun _ => hq, ?_⟩
      cases hp : t.fsm.state.negotiating && t.fsm.flags.passive <;> simp
    | succ k =>
      obtain ⟨f, hl, hf, hfl, he⟩ := timeout_resends a ha (by omega)
      have hl' : t.fsm.state.negotiating = f.state.negotiating ∧
          t.fsm.state.terminating = f.state.terminating := by
        simpa [FsmState.alike] using hl
      have hi := ih (t := t.step (.timeout, a)) (k := k)
        (by rw [he]; exact (FsmState.alike_awaiting hl).symm.trans ha)
        (by rw [he]; show f.retransmits = _; omega)
      rw [he] at hi ⊢
      obtain ⟨h1, h2, h3, h4⟩ := hi
      dsimp only at h1 h2 h4
      rw [← hl'.1] at h1 h4
      rw [← hl'.2] at h2
      rw [hfl] at h4
      refine ⟨?_, ?_, fun h => h3 (by omega), ?_⟩
      · rw [h1]
        split <;> omega
      · rw [h2]
        split <;> omega
      · rw [h4]
        simp only [Nat.add_lt_add_iff_right]

/-! ### Runs -/

/-- **Every step keeps the counter within its bounds**; giving up leaves it as it is. -/
theorem step_bounded {n m : Int} (hn : 0 < n) (hm : 0 ≤ m) (t : Tally) (e : FsmEvent × Answers)
    (h : t.fsm.clock.Bounded n m) : (t.step e).fsm.clock.Bounded n m := by
  obtain ⟨e, a⟩ := e
  have R := clockRules a
  cases e with
  | openLink => exact (fsmOpen_ticks R.toLayerRules R.starts t).bounded hn hm h
  | close reason => exact (close_ticks R.toCloseRules R.finishes reason t).bounded hn hm h
  | lowerUp => exact (lowerUp_ticks R.toCiRules t).bounded hn hm h
  | lowerDown => exact (lowerDown_ticks R.toLayerRules R.starts t).bounded hn hm h
  | timeout =>
    by_cases hg : t.fsm.GivesUp
    · obtain ⟨q, hq, he⟩ := timeout_givesUp a hg.1 hg.2
      rw [he]
      refine ⟨h.conf, h.term, h.nonneg, fun hq' => ?_, fun hq' => ?_⟩ <;>
        rcases hq with rfl | rfl <;> cases hq'
    · exact (timeout_ticks R.toTimerRules hg).bounded hn hm h
  | protReject => exact (protReject_ticks R t).bounded hn hm h
  | input inpacket l => exact (input_ticks R inpacket l t).bounded hn hm h

/-- An automaton as constructed, with its limits. -/
def constructed (protocol : UInt16) (flags : FsmFlags) (n m : Int) : Tally where
  fsm := {
    protocol := protocol, flags := flags, maxconfreqtransmits := n, maxtermtransmits := m }

/-- **Requests are repeated no more often than configured.** Over every run of an automaton as
    constructed, with any positive number of Configure-Requests and any number of
    Terminate-Requests configured, the counter is never negative; where an answer of the peer is
    awaited, timeouts alone send at most that many requests, the next one reaches `CLOSED` or
    `STOPPED`, and `Finished` is delivered once, or not at all for a passive negotiation. -/
theorem retransmissions_bounded (protocol : UInt16) (flags : FsmFlags) (n : Int) (hn : 0 < n)
    (m : Nat) (es : List (FsmEvent × Answers)) :
    let t := run step (constructed protocol flags n m) es
    0 ≤ t.fsm.retransmits ∧
      (t.fsm.state.awaiting = true → ∃ k : Nat,
        (t.fsm.state.negotiating = true → (k : Int) ≤ n) ∧
        (t.fsm.state.terminating = true → k ≤ m) ∧
        ∀ as : List Answers,
          Exhausted t k as.length (run step t (as.map fun a => (.timeout, a)))) := by
  intro t
  have h : t.fsm.clock.Bounded n m := by
    refine run_keeps (I := fun t : Tally => t.fsm.clock.Bounded n m)
      (step_bounded hn (Int.natCast_nonneg m)) ?_ es
    exact ⟨rfl, rfl, le_refl 0, (fun h => by cases h), (fun h => by cases h)⟩
  refine ⟨h.nonneg, fun ha => ?_⟩
  obtain ⟨k, hk⟩ := Int.eq_ofNat_of_zero_le h.nonneg
  have hk' : t.fsm.retransmits = k := hk
  refine ⟨k, fun hq => ?_, fun hq => ?_, fun as => timeouts_exhaust as ha hk'⟩
  · rw [← hk]
    exact h.requests hq
  · have := h.terminates hq
    omega

/-- Ten Configure-Requests and two Terminate-Requests, as `CPPPFsm` is constructed: an opened
    automaton whose lower layer is up. -/
theorem retransmissions_bounded_defaults :
    let t := run step (constructed 0xc021 {} DEFMAXCONFREQS (2 : Nat))
      [(.openLink, {}), (.lowerUp, {})]
    t.fsm.state = .reqSent ∧ ∃ k : Nat, (k : Int) ≤ DEFMAXCONFREQS ∧
      ∀ as : List Answers,
        Exhausted t k as.length (run step t (as.map fun a => (.timeout, a))) := by
  refine ⟨by decide +kernel, ?_⟩
  obtain ⟨k, hk, -, h⟩ := (retransmissions_bounded 0xc021 {} DEFMAXCONFREQS (by decide) 2
    [(.openLink, {}), (.lowerUp, {})]).2 (by decide +kernel)
  exact ⟨k, hk (by decide +kernel), h⟩

end Tally

end OpenBras
