/-
  File:      OpenBras/PPP/FsmRules.lean
  Subject:   RULES FOR THE AUTOMATON: what an owner's invariant must satisfy so that every
             method of `CPPPFsm` keeps it, whatever the sink answers.

  An owner's invariant speaks about its own state and about where the automaton stands. `Stand`
  keeps of the ten states what owners need: the link is up, a Configure-Ack of ours stands for
  the peer's last request, a Terminate-Request is on its way, or none of these. `J c s` is the
  invariant when the automaton stands at `c`; it must not read the automaton's record itself
  (`CiRules.fsm`), so that between a callback and the following state change it can be said
  with the standing that is about to come.

  * `CiRules`, `LayerRules`, `CloseRules`, `TimerRules`, `FsmRules` -- one rule per callback,
    staged as the sink is;
  * `lowerUp_keeps`, `lowerDown_keeps`, `fsmOpen_keeps`, `close_keeps`, `timeout_keeps`,
    `input_keeps` -- the methods keep `Inv`.

  Three rules are hypotheses of the methods and not fields: that `Down` is harmless where the
  automaton was not up (`close_keeps`), that `Finished` is when the Configure-Requests run
  out (`timeout_keeps`), and that `Nakci`, which may close, keeps the invariant (`input_keeps`,
  where a packet reaches it). The code delivers all three; an owner whose invariant needs more
  says so at the call.
-/
import OpenBras.PPP.FsmActs

namespace OpenBras

/-- Where the automaton stands, as its owner sees it. -/
inductive Stand where
  | idle | acked | up | ending
  deriving DecidableEq, Repr

def FsmState.stand : FsmState → Stand
  | .opened => .up
  | .ackSent => .acked
  | .closing | .stopping => .ending
  | _ => .idle

theorem FsmState.stand_quiet {q : FsmState} (h : q.quiet = true) : q.stand = .idle := by
  cases q <;> first | rfl | cases h

theorem FsmState.stand_terminating {q : FsmState} (h : q.terminating = true) :
    q.stand = .ending := by
  cases q <;> first | rfl | cases h

theorem FsmState.stand_kin {p q : FsmState} (h : p.kin q = true) : p.stand = q.stand := by
  rcases Bool.or_eq_true_iff.mp h with h | h <;> obtain ⟨hp, hq⟩ := Bool.and_eq_true_iff.mp h
  · rw [stand_quiet hp, stand_quiet hq]
  · rw [stand_terminating hp, stand_terminating hq]

theorem FsmState.stand_negotiating {q : FsmState} (h : q.negotiating = true) : q.stand ≠ .up := by
  revert h
  cases q <;> decide

namespace CPPPFsm

variable {σ : Type}

/-- A callback that leaves the automaton alone and keeps `J` at every standing. -/
def Leaf (L : Lens σ CPPPFsm) (J : Stand → σ → Prop) (f : σ → σ) : Prop :=
  ∀ s, L.get (f s) = L.get s ∧ ∀ c, J c s → J c (f s)

/-- The invariant at the automaton's own standing. -/
def Inv (L : Lens σ CPPPFsm) (J : Stand → σ → Prop) (s : σ) : Prop :=
  J (L.get s).state.stand s

structure CiRules (L : Lens σ CPPPFsm) (K : CiSink σ) (J : Stand → σ → Prop) : Prop where
  fsm : ∀ c s f, J c s → J c (L.set f s)
  acked : ∀ s, J .acked s → J .idle s
  resetci : Leaf L J K.resetci
  cilen : Leaf L J fun s => (K.cilen s).2
  addci : ∀ n, Leaf L J fun s => (K.addci n s).2
  outputPacket : ∀ p, Leaf L J (K.outputPacket p)

structure LayerRules (L : Lens σ CPPPFsm) (K : LayerSink σ) (J : Stand → σ → Prop) : Prop
    extends CiRules L K.toCiSink J where
  ending : ∀ s, J .ending s → J .idle s
  starting : ∀ s, (L.get s).state = .starting → J .idle s → Inv L J (K.starting s)
  down_fsm : ∀ s, L.get (K.down s) = L.get s
  down : ∀ s, J .up s → J .idle (K.down s) ∧ J .ending (K.down s)

structure CloseRules (L : Lens σ CPPPFsm) (K : CloseSink σ) (J : Stand → σ → Prop) : Prop
    extends LayerRules L K.toLayerSink J where
  finished : ∀ s, (L.get s).state = .closed ∨ (L.get s).state = .stopped → J .ending s →
    Inv L J (K.finished s)

structure TimerRules (L : Lens σ CPPPFsm) (K : IFsmSink σ) (J : Stand → σ → Prop) : Prop
    extends CloseRules L K.toCloseSink J where
  retransmit : Leaf L J K.retransmit

structure FsmRules (L : Lens σ CPPPFsm) (K : IFsmSink σ) (J : Stand → σ → Prop) : Prop
    extends TimerRules L K J where
  ackci : ∀ p n, Leaf L J fun s => (K.ackci p n s).2
  rejci : ∀ p n, Leaf L J fun s => (K.rejci p n s).2
  extCode : ∀ c i p n, Leaf L J fun s => (K.extCode c i p n s).2
  reqci_fsm : ∀ p n r s, L.get (K.reqci p n r s).2 = L.get s
  reqci : ∀ p n r s, J .idle s → J .idle (K.reqci p n r s).2
  reqci_ack : ∀ p n r s, J .idle s →
    (K.reqci p n r s).1.1 = confAck ∨ (K.reqci p n r s).1 = (-1, []) → J .acked (K.reqci p n r s).2
  up : ∀ s, (L.get s).state = .opened → J .acked s → Inv L J (K.up s)

/-- `Nakci` keeps the invariant in the automaton state of `s`. -/
def NakKeeps (L : Lens σ CPPPFsm) (K : IFsmSink σ) (J : Stand → σ → Prop) (s : σ) : Prop :=
  ∀ p n r t, (L.get t).state = (L.get s).state → Inv L J t → Inv L J (K.nakci p n r t).2

/-- The packet is a Configure-Nak that `RcvConfNakRej` passes on to `Nakci`. -/
def NakHeard (L : Lens σ CPPPFsm) (inpacket : Bytes) (l : Nat) (s : σ) : Prop :=
  (∃ len, header inpacket l = some (CONFNAK, (L.get s).reqid, len)) ∧ (L.get s).seenAck = false

/-- `Down` keeps `J` also where the automaton was not up. -/
def DownIdle (K : LayerSink σ) (J : Stand → σ → Prop) : Prop :=
  ∀ s, J .idle s → J .idle (K.down s) ∧ J .ending (K.down s)

/-! ## 1. Field updates and sending -/

section Ci

variable {L : Lens σ CPPPFsm} {K : CiSink σ} {J : Stand → σ → Prop}

theorem Inv.stand {s : σ} {c : Stand} (h : Inv L J s) (hc : (L.get s).state.stand = c) : J c s :=
  hc ▸ h

theorem CiRules.upd (R : CiRules L K J) {c : Stand} {s : σ} (g : CPPPFsm → CPPPFsm)
    (h : J c s) : J c (L.upd g s) := R.fsm c s _ h

theorem CiRules.goto (R : CiRules L K J) {s : σ} (q : FsmState) (h : J q.stand s) :
    Inv L J (setState L q s) := by
  unfold Inv
  rw [get_setState]
  exact R.upd _ h

theorem get_sendData (R : CiRules L K J) (code id : UInt8) (data : Bytes) (n : Nat) (s : σ) :
    L.get (sendData L K code id data n s) = L.get s :=
  (R.outputPacket _ s).1

theorem sendData_keeps (R : CiRules L K J) {c : Stand} {s : σ} (code id : UInt8) (data : Bytes)
    (n : Nat) (h : J c s) : J c (sendData L K code id data n s) :=
  (R.outputPacket _ s).2 c h

theorem inv_sendData (R : CiRules L K J) {s : σ} (code id : UInt8) (data : Bytes) (n : Nat)
    (h : Inv L J s) : Inv L J (sendData L K code id data n s) := by
  unfold Inv
  rw [get_sendData R]
  exact sendData_keeps R code id data n h

theorem sendConfReq_eq (r : Bool) (s : σ) :
    sendConfReq L K r s =
      startTime L (L.upd (fun f => { f with retransmits := f.retransmits - 1 })
        (sendData L K CONFREQ (L.get (confReq L K r s).2).reqid (confReq L K r s).1.1
          (confReq L K r s).1.2 (confReq L K r s).2)) := rfl

theorem sendConfReq_keeps (R : CiRules L K J) {c : Stand} {s : σ} (r : Bool) (h : J c s) :
    J c (sendConfReq L K r s) := by
  unfold sendConfReq confReq startTime
  refine R.upd _ (R.upd _ (sendData_keeps R _ _ _ _ ((R.addci _ _).2 c ((R.cilen _).2 c ?_))))
  refine R.upd _ ?_
  -- the options are reset first, unless we are negotiating already
  have reset : J c (if (L.get s).state.negotiating then s
      else L.upd (fun f => { f with nakloops := 0, rnakloops := 0 }) (K.resetci s)) := by
    split
    · exact h
    · exact R.upd _ ((R.resetci s).2 c h)
  split
  · exact reset
  · exact R.upd _ (R.upd _ reset)

theorem state_sendConfReq (R : CiRules L K J) (r : Bool) (s : σ) :
    (L.get (sendConfReq L K r s)).state = (L.get s).state := by
  unfold sendConfReq confReq
  simp only [get_startTime, Lens.get_upd, get_sendData R]
  rw [(R.addci _ _).1, (R.cilen _).1]
  split <;> split <;> simp [nextReqid, (R.resetci s).1]

/-- While negotiating, what held at the standing `acked` holds at `idle`. -/
theorem CiRules.going (R : CiRules L K J) {s : σ} (hn : (L.get s).state.negotiating = true)
    (h : Inv L J s) : J .idle s := by
  unfold Inv at h
  cases hq : (L.get s).state <;> rw [hq] at h hn
  case reqSent | ackRcvd => exact h
  case ackSent => exact R.acked s h
  all_goals cases hn

theorem CiRules.still (R : CiRules L K J) {s : σ} {g : CPPPFsm → CPPPFsm} (hg : Still g)
    (h : Inv L J s) : Inv L J (L.upd g s) := by
  unfold Inv
  rw [L.get_upd, hg.state]
  exact R.upd _ h

theorem CiRules.acts (R : CiRules L K J) : CiActs L K (Inv L J) where
  still := R.still
  goto hq h := R.goto _ (h.stand (FsmState.stand_kin hq))
  fresh hq h := R.goto .reqSent (sendConfReq_keeps R false (h.stand (FsmState.stand_quiet hq)))

/-- **`LowerUp` keeps the invariant.** -/
theorem lowerUp_keeps (R : CiRules L K J) {s : σ} (h : Inv L J s) : Inv L J (lowerUp L K s) :=
  R.acts.lowerUp h

end Ci

/-! ## 2. Lower layer down, opening, closing -/

section Layer

variable {L : Lens σ CPPPFsm} {K : LayerSink σ} {J : Stand → σ → Prop}

theorem LayerRules.acts (R : LayerRules L K J) : LayerActs L K (Inv L J) where
  toCiActs := R.toCiRules.acts
  starts hq h := R.starting _ hq (h.stand (congrArg FsmState.stand hq))
  halt {s _} hs hq h := by
    refine R.goto _ (FsmState.stand_quiet hq ▸ R.upd _ ?_)
    rcases Bool.or_eq_true_iff.mp hs with hn | ht
    · exact R.going hn h
    · exact R.ending s (h.stand (FsmState.stand_terminating ht))
  falls hq h := R.goto .starting (R.down _ (h.stand (congrArg FsmState.stand hq))).1

/-- **`LowerDown` keeps the invariant.** -/
theorem lowerDown_keeps (R : LayerRules L K J) {s : σ} (h : Inv L J s) :
    Inv L J (lowerDown L K s) := R.acts.lowerDown h

/-- **`Open` keeps the invariant.** -/
theorem fsmOpen_keeps (R : LayerRules L K J) {s : σ} (h : Inv L J s) :
    Inv L J (fsmOpen L K s) := R.acts.fsmOpen h

end Layer

section Close

variable {L : Lens σ CPPPFsm} {K : CloseSink σ} {J : Stand → σ → Prop}

/-- **`TerminateLayer` establishes the invariant** once `Down` has. -/
theorem terminateLayer_ends (R : CloseRules L K J) {s : σ} {next : FsmState}
    (hn : next.stand = .ending)
    (hd : ∀ f, J .ending (K.down (L.set f s))) : Inv L J (terminateLayer L K next s) := by
  have down : J .ending (K.down (stopTimer L s)) := by
    unfold stopTimer
    split
    · exact hd _
    · have := hd (L.get s)
      rwa [L.set_get] at this
  unfold terminateLayer
  dsimp only
  generalize K.down (stopTimer L s) = d at down ⊢
  split
  · refine R.finished _ ?_ (R.upd _ (sendData_keeps R.toCiRules _ _ _ _ (R.upd _ (R.upd _ down))))
    rw [get_setState]
    split
    · exact Or.inl rfl
    · exact Or.inr rfl
  · refine R.goto next ?_
    rw [hn]
    exact R.upd _ (R.upd _ (sendData_keeps R.toCiRules _ _ _ _ (R.upd _ (R.upd _ down))))

/-- **`Close` establishes the invariant**: through `Down` where the automaton is up or
    negotiating, and elsewhere because it held. -/
theorem close_ends (R : CloseRules L K J) {s : σ} (reason : String)
    (hd : (L.get s).state = .opened ∨ (L.get s).state.negotiating = true →
      ∀ f, J .ending (K.down (L.set f s)))
    (h : (L.get s).state ≠ .opened → (L.get s).state.negotiating = false → Inv L J s) :
    Inv L J (close L K reason s) :=
  R.toCiRules.acts.close reason
    (fun hs => terminateLayer_ends R rfl fun f => (L.set_set _ _ s).symm ▸ hd hs f) h

/-- **`Close` keeps the invariant**, if `Down` does where the automaton is negotiating. -/
theorem close_keeps (R : CloseRules L K J) {s : σ} (reason : String)
    (hd : (L.get s).state.negotiating = true → DownIdle K.toLayerSink J) (h : Inv L J s) :
    Inv L J (close L K reason s) := by
  refine close_ends R reason (fun hs f => ?_) fun _ _ => h
  unfold Inv at h
  rcases hs with hs | hs
  · rw [hs] at h
    exact (R.down _ (R.fsm _ _ f h)).2
  exact (hd hs _ (R.fsm _ _ f (R.going hs h))).2

end Close

/-! ## 3. The timer and the received packets -/

section Fsm

variable {L : Lens σ CPPPFsm} {K : IFsmSink σ} {J : Stand → σ → Prop}

variable {s : σ}

/-- Below negotiation `Close` ends in `INITIAL`. -/
theorem state_close_low {K : CloseSink σ} (reason : String)
    (hs : (L.get s).state = .initial ∨ (L.get s).state = .starting) :
    (L.get (close L K reason s)).state = .initial := by
  unfold close reasoned
  rcases hs with hs | hs
  · simp only [Lens.get_upd, hs]
  · simp only [Lens.get_upd, hs, get_setState]

/-- Out of retransmissions, a negotiating automaton that is not passive finishes. -/
theorem timeout_giveUp (hn : (L.get s).state.negotiating = true) (hr : (L.get s).retransmits ≤ 0)
    (hp : (L.get s).flags.passive = false) :
    timeout L K s = K.finished (setState L .stopped s) := by
  unfold timeout
  cases hq : (L.get s).state <;>
    simp only [hq, FsmState.negotiating, Bool.false_eq_true] at hn ⊢
  all_goals simp [hr, get_setState, hp]

theorem resend_keeps (R : TimerRules L K J) {q : FsmState} (hq : (L.get s).state = q)
    (hs : J q.stand s) : Inv L J (resend L K s) := by
  unfold resend
  dsimp only
  have hst : (L.get (sendConfReq L K.toCiSink true (K.retransmit s))).state = q := by
    rw [state_sendConfReq R.toCiRules, (R.retransmit s).1, hq]
  have hk := sendConfReq_keeps R.toCiRules (c := q.stand) true ((R.retransmit s).2 _ hs)
  split
  · rename_i e
    rw [hst] at e
    subst e
    exact R.goto .reqSent hk
  · unfold Inv
    rw [hst]
    exact hk

/-- **`Timeout` keeps the invariant**, if `Finished` does when the Configure-Requests run out. -/
theorem timeout_keeps (R : TimerRules L K J)
    (hg : (L.get s).state.negotiating = true → (L.get s).retransmits ≤ 0 →
      (L.get s).flags.passive = false → Inv L J (K.finished (setState L .stopped s)))
    (h : Inv L J s) : Inv L J (timeout L K s) := by
  refine timeout_acts (fun ht _ q hq => ?_) (fun ht _ data n => ?_) (fun hn hr => ⟨?_, hg hn hr⟩)
    (fun _ _ => resend_keeps R rfl h) h
  · exact R.finished _ (by rw [get_setState]; exact hq)
      (R.upd _ (h.stand (FsmState.stand_terminating ht)))
  · unfold Inv
    rw [Lens.get_upd, get_startTime, get_sendData R.toCiRules, get_nextReqid]
    exact R.upd _ (R.upd _ (sendData_keeps R.toCiRules _ _ _ _ (R.upd _ h)))
  · exact R.goto .stopped (R.going hn h)

/-- The code of the answer is that of an Ack: the verdict is, or all options were refused and
    there were none. -/
theorem ack_of_code {verdict : Int} {out : Bytes}
    (h : (if verdict = -1 then (if out.length ≠ 0 then confRej else confAck) else verdict) =
      confAck) : verdict = confAck ∨ (verdict, out) = (-1, []) := by
  split at h
  · rename_i hv
    split at h
    · cases h
    · rename_i hl
      refine Or.inr ?_
      rw [hv, List.length_eq_zero_iff.mp (not_ne_iff.mp hl)]
  · exact Or.inl h

theorem answerConfReq_keeps (R : FsmRules L K J) (id : UInt8) (inp : Bytes) (len : Nat)
    (h : J .idle s) : Inv L J (answerConfReq L K id inp len s) := by
  refine R.acts.answerConfReq (J .acked) (J .idle) id inp len ?_ ?_ ?_ ?_ ?_
  · rintro r code hc u rfl
    refine ⟨fun e => ?_, fun _ => ?_⟩
    · exact sendData_keeps R.toCiRules _ _ _ _
        (R.reqci_ack inp len r s h (ack_of_code (hc.symm.trans e)))
    · exact sendData_keeps R.toCiRules _ _ _ _ (R.reqci inp len r s h)
  · -- the peer's request is acknowledged and so was ours: the link comes up
    exact fun u _ hu => R.up _ (by rw [get_setState]) (R.upd _ (R.upd _ hu))
  · exact fun u _ hu => R.goto .ackSent hu
  · exact fun u _ hu => R.goto .reqSent hu
  · intro u hq hu
    unfold Inv
    rw [hq]
    exact hu

theorem Leaf.keeps {f : σ → σ} (hf : Leaf L J f) (h : Inv L J s) : Inv L J (f s) := by
  unfold Inv
  rw [(hf s).1]
  exact (hf s).2 _ h

/-- A Nak or Reject that keeps the invariant is taken with any verdict. -/
theorem takes_inv {x : Int × σ} (h : Inv L J x.2) : Takes L (Inv L J) (Inv L J) x :=
  ⟨h, fun _ => h, fun _ => h⟩

theorem FsmRules.acts (R : FsmRules L K J) : NegotiationActs L K (Inv L J) (Inv L J) where
  toLayerActs := R.toLayerRules.acts
  takenStill := R.still
  back hq h := R.goto .reqSent (R.going hq h)
  again {s} _ h := by
    unfold Inv
    rw [state_sendConfReq R.toCiRules, get_cancelTimer]
    exact sendConfReq_keeps R.toCiRules false (R.upd _ h)
  renew hq h := R.goto .reqSent (sendConfReq_keeps R.toCiRules false
    (R.upd _ (R.going (by rw [hq]; rfl) h)))
  renegotiate hq h := R.goto .reqSent (sendConfReq_keeps R.toCiRules false
    (R.down _ (h.stand (congrArg FsmState.stand hq))).1)
  termAck _ h := inv_sendData R.toCiRules _ _ _ _ h
  quits id hq h := by
    -- the state is STOPPING before `Down` runs
    unfold Inv
    rw [get_startTime, R.down_fsm, get_sendData R.toCiRules, Lens.get_upd]
    exact R.upd _ (R.down _ (sendData_keeps R.toCiRules _ _ _ _
      (R.upd _ (h.stand (congrArg FsmState.stand hq))))).2
  ends ht hq h := R.finished _ (by rw [get_setState]; exact hq)
    (R.upd _ (R.upd _ (h.stand (FsmState.stand_terminating ht))))
  taken h := h
  rejci p n h := takes_inv ((R.rejci p n).keeps h)
  ackci p n h := (R.ackci p n).keeps h
  acked {s} hq h := by
    unfold Inv
    rw [Lens.get_upd]
    exact R.upd _ (R.going (by rw [hq]; rfl) h)
  up hq h := R.up _ (by rw [Lens.get_upd])
    (R.upd _ (R.upd _ (h.stand (congrArg FsmState.stand hq))))
  answers id inp len hq h := answerConfReq_keeps R id inp len (R.going hq h)
  codeRej {s} data n h := by
    unfold Inv
    rw [get_sendData R.toCiRules, Lens.get_upd]
    exact sendData_keeps R.toCiRules _ _ _ _ (R.upd _ h)

/-- **`ProtReject` keeps the invariant**, if `Finished` does from every standing but `up`. -/
theorem protReject_keeps (R : FsmRules L K J)
    (hf : ∀ t, (L.get t).state = .closed ∨ (L.get t).state = .stopped → J .idle t →
      Inv L J (K.finished t)) (h : Inv L J s) : Inv L J (protReject L K s) := by
  refine R.acts.toLayerActs.protReject (fun t ht h => hf t ht (h.stand ?_)) (fun hq => ?_) h
  · rcases ht with ht | ht <;> rw [ht] <;> rfl
  · refine terminateLayer_ends R.toCloseRules rfl fun f => (R.down _ (R.fsm _ _ f ?_)).2
    exact h.stand (congrArg FsmState.stand hq)

/-- **`Input` keeps the invariant**, whatever the packet. -/
theorem input_keeps (R : FsmRules L K J) (inpacket : Bytes) (l : Nat)
    (hnak : NakHeard L inpacket l s → NakKeeps L K J s) (h : Inv L J s) :
    Inv L J (input L K inpacket l s) :=
  R.acts.input inpacket l
    (fun len hh hs r => takes_inv (hnak ⟨⟨len, hh⟩, hs⟩ _ _ r _ (by rw [Lens.get_upd])
      (R.still ⟨fun _ h => h, fun _ => rfl⟩ h)))
    (fun code id len _ => (R.extCode code id _ len).keeps h) h

/-! ## Where `Up` is called -/

/-- The packets that can bring the automaton up. -/
def Agreeing (code : UInt8) (q : FsmState) : Prop :=
  code = CONFREQ ∧ q = .ackRcvd ∨ code = CONFACK ∧ q = .ackSent

instance (code : UInt8) (q : FsmState) : Decidable (Agreeing code q) :=
  inferInstanceAs (Decidable (_ ∧ _ ∨ _ ∧ _))

/-- The code of the answer to a Configure-Request, by what the callback says. -/
def replyCode (a : Int × Bytes) : Int :=
  if a.1 = -1 then (if a.2.length ≠ 0 then confRej else confAck) else a.1

section Up

variable {u : σ → σ} {P : σ → Prop}

/-- Where a Configure-Request is acknowledged and `Up` called, `u` does the same. -/
def UpAtRequest (L : Lens σ CPPPFsm) (K : IFsmSink σ) (u : σ → σ) (id : UInt8) (inp : Bytes)
    (len : Nat) (s : σ) : Prop :=
  (L.get s).state = .ackRcvd → ∀ r code out n, replyCode (K.reqci inp len r s).1 = confAck →
    ∀ t, t = setState L .opened (cancelTimer L (sendData L K.toCiSink code id out n
      (K.reqci inp len r s).2)) → K.up t = u t

theorem answerConfReq_congr_up (R : FsmRules L { K with up := u } J) {s : σ} (id : UInt8)
    (inp : Bytes) (len : Nat) (hu : UpAtRequest L K u id inp len s) :
    answerConfReq L K id inp len s = answerConfReq L { K with up := u } id inp len s := by
  have hst : ∀ r code out n, (L.get (sendData L K.toCiSink code id out n
      (K.reqci inp len r s).2)).state = (L.get s).state := by
    intro r code out n
    rw [show L.get (sendData L K.toCiSink code id out n (K.reqci inp len r s).2) =
      L.get (K.reqci inp len r s).2 from get_sendData R.toCiRules _ _ _ _ _]
    exact congrArg CPPPFsm.state (R.reqci_fsm inp len r s)
  by_cases hq : (L.get s).state = .ackRcvd
  · have hup := hu hq (L.get s).refusing
    have hk : ({ K with up := u } : IFsmSink σ).reqci inp len
        (L.get s).refusing s =
        K.reqci inp len (L.get s).refusing s := rfl
    rw [answerConfReq, answerConfReq, hk]
    generalize K.reqci inp len (L.get s).refusing s = a at hup ⊢
    by_cases hc : replyCode a.1 = confAck
    · simp only [hup _ _ _ hc _ rfl]
    · unfold replyCode at hc
      simp only [hc, if_false]
  unfold answerConfReq
  simp only [hst, hq, if_false]

theorem rcvConfReq_congr_up (R : FsmRules L { K with up := u } J) {s : σ} (id : UInt8)
    (inp : Bytes) (len : Nat) (hu : UpAtRequest L K u id inp len s) :
    rcvConfReq L K id inp len s = rcvConfReq L { K with up := u } id inp len s := by
  -- a renegotiation answers in `REQSENT`
  have restarted : ∀ t, answerConfReq L K id inp len (setState L .reqSent t) =
      answerConfReq L { K with up := u } id inp len (setState L .reqSent t) := by
    intro t
    refine answerConfReq_congr_up R id inp len fun hq => ?_
    rw [get_setState] at hq
    cases hq
  unfold rcvConfReq
  split
  · rfl
  · rfl
  · rfl
  · exact restarted _
  · exact restarted _
  · exact answerConfReq_congr_up R id inp len hu

theorem rcvConfAck_congr_up {s : σ} (id : UInt8) (inp : Bytes) (len : Nat)
    (hfsm : L.get (K.ackci inp len s).2 = L.get s)
    (hu : (L.get s).state = .ackSent → ∀ f g,
      K.up (L.upd f (cancelTimer L (L.upd g (K.ackci inp len s).2))) =
      u (L.upd f (cancelTimer L (L.upd g (K.ackci inp len s).2)))) :
    rcvConfAck L K id inp len s = rcvConfAck L { K with up := u } id inp len s := by
  unfold rcvConfAck
  split
  · rfl
  rcases hk : K.ackci inp len s with ⟨ok, t⟩
  rw [hk] at hfsm hu
  dsimp only at hfsm hu ⊢
  split
  · rfl
  rw [Lens.get_upd, hfsm]
  split
  · rfl
  · rfl
  · rfl
  · rfl
  · rename_i hq
    exact hu hq _ _
  · rfl
  · rfl

/-- **`Up` may be replaced by what it is where it is called**: behind a request that is
    acknowledged or an Ack that is taken. -/
theorem input_congr_called (R : FsmRules L { K with up := u } J) {s : σ} (inpacket : Bytes) (l : Nat)
    (hupd : ∀ f t, P t → P (L.upd f t)) (hout : ∀ p t, P t → P (K.outputPacket p t))
    (hu : ∀ t, P t → K.up t = u t)
    (hreq : ∀ id len, header inpacket l = some (CONFREQ, id, len) → (L.get s).state = .ackRcvd →
      ∀ r, replyCode (K.reqci (inpacket.drop HEADERLEN) len r s).1 = confAck →
        P (K.reqci (inpacket.drop HEADERLEN) len r s).2)
    (hack : ∀ id len, header inpacket l = some (CONFACK, id, len) → (L.get s).state = .ackSent →
      P (K.ackci (inpacket.drop HEADERLEN) len s).2) :
    input L K inpacket l s = input L { K with up := u } inpacket l s := by
  unfold input
  split
  · rfl
  rename_i code id len hhead
  split
  · rfl
  unfold dispatch
  by_cases hc : code = CONFREQ
  · subst hc
    simp only [if_true]
    refine rcvConfReq_congr_up R _ _ _ fun hq r c out n ha t ht => hu t (ht ▸ ?_)
    exact hupd _ _ (hupd _ _ (hout _ _ (hreq _ _ hhead hq r ha)))
  · simp only [hc, if_false]
    by_cases ha : code = CONFACK
    · subst ha
      simp only [if_true]
      refine rcvConfAck_congr_up _ _ _ (R.ackci _ _ s).1 fun hq f g => hu _ ?_
      exact hupd _ _ (hupd _ _ (hupd _ _ (hack _ _ hhead hq)))
    · simp only [ha, if_false]
      rfl

/-- **A packet that does not find the automaton about to come up does not call `Up`**, and where
    it does, `Up` may be replaced by what it is there. -/
theorem input_congr_up (R : FsmRules L { K with up := u } J) {s : σ} (inpacket : Bytes) (l : Nat)
    (hupd : ∀ f t, P t → P (L.upd f t)) (hout : ∀ p t, P t → P (K.outputPacket p t))
    (hreq : ∀ inp len r t, P t → P (K.reqci inp len r t).2)
    (hack : ∀ inp len t, P t → P (K.ackci inp len t).2) (hu : ∀ t, P t → K.up t = u t)
    (hP : ∀ code id len, header inpacket l = some (code, id, len) →
      Agreeing code (L.get s).state → P s) :
    input L K inpacket l s = input L { K with up := u } inpacket l s :=
  input_congr_called R inpacket l hupd hout hu
    (fun _ _ hh hq _ _ => hreq _ _ _ _ (hP _ _ _ hh (Or.inl ⟨rfl, hq⟩)))
    (fun _ _ hh hq => hack _ _ _ (hP _ _ _ hh (Or.inr ⟨rfl, hq⟩)))

end Up

/-! ## Where `Open` and `Close` do nothing -/

/-- The automata `Open` leaves as they are. A stopped one that is silent is restarted to where
    it stands. -/
def OpenIdle (f : CPPPFsm) : Prop :=
  match f.state with
  | .initial | .closed | .closing => False
  | .stopped => f.flags.restart = true → f.flags.silent = true
  | .opened => f.flags.restart = false
  | _ => True

/-- The states `Close` ends in. -/
def Ended (q : FsmState) : Prop := q = .initial ∨ q = .closed ∨ q = .closing

/-- The automata `Close` leaves as they are. -/
def CloseIdle (reason : String) (f : CPPPFsm) : Prop :=
  f.termReason = reason ∧ f.termReasonLen = (Wire.ascii reason).length ∧ Ended f.state

section Idle

variable {L : Lens σ CPPPFsm}

theorem setState_setState (q q' : FsmState) (s : σ) :
    setState L q (setState L q' s) = setState L q s := L.upd_upd _ _ s

variable {s : σ}

theorem setState_eq_self {q : FsmState} (h : (L.get s).state = q) : setState L q s = s := by
  refine L.upd_eq_self ?_
  rw [← h]

/-- `LowerUp` leaves `STARTING`: for `STOPPED` if the automaton is silent. -/
theorem state_lowerUp {K : CiSink σ} (h : (L.get s).state = .starting) :
    (L.get (lowerUp L K s)).state = if (L.get s).flags.silent then .stopped else .reqSent := by
  unfold lowerUp
  simp only [h]
  split
  · rw [get_setState]
  · rw [get_setState]

theorem lowerUp_ne {K : CiSink σ} {q : FsmState} (h : (L.get s).state = .starting)
    (hs : q ≠ .stopped) (hr : q ≠ .reqSent) : (L.get (lowerUp L K s)).state ≠ q := by
  rw [state_lowerUp h]
  split
  · exact hs.symm
  · exact hr.symm

theorem fsmOpen_idle {K : LayerSink σ} (hst : K.starting = lowerUp L K.toCiSink)
    (h : OpenIdle (L.get s)) : fsmOpen L K s = s := by
  unfold OpenIdle at h
  unfold fsmOpen
  cases hq : (L.get s).state <;> simp only [hq] at h ⊢
  case stopped =>
    split
    · rename_i hr
      -- restarted, and silent: back to `STOPPED` at once
      have hd : lowerDown L K s = s := by
        unfold lowerDown
        simp only [hq, hst]
        unfold lowerUp
        simp only [get_setState, h hr, if_true]
        rw [setState_setState, setState_eq_self hq]
      rw [hd]
      unfold lowerUp
      simp only [hq]
    · rfl
  case opened =>
    rw [h]
    rfl

theorem fsmOpen_moves {K : LayerSink σ} (hst : K.starting = lowerUp L K.toCiSink)
    (h : ¬ OpenIdle (L.get s)) : (L.get (fsmOpen L K s)).state ≠ (L.get s).state := by
  unfold OpenIdle at h
  unfold fsmOpen
  cases hq : (L.get s).state <;> simp only [hq, not_true_eq_false] at h ⊢
  case initial =>
    rw [hst]
    exact lowerUp_ne (by rw [get_setState]) nofun nofun
  case closed => split <;> rw [get_setState] <;> nofun
  case closing =>
    split
    · refine lowerUp_ne ?_ nofun nofun
      unfold lowerDown
      simp only [get_setState, get_cancelTimer]
    · rw [get_setState]
      nofun
  case stopped =>
    obtain ⟨hr, hsilent⟩ := Classical.not_imp.mp h
    rw [if_pos hr]
    have hd : (L.get (lowerDown L K s)).state = .reqSent := by
      unfold lowerDown
      simp only [hq, hst]
      rw [state_lowerUp (by rw [get_setState]), get_setState, if_neg hsilent]
    unfold lowerUp
    simp only [hd]
    nofun
  case opened =>
    rw [Bool.not_eq_false] at h
    rw [if_pos h]
    refine lowerUp_ne ?_ nofun nofun
    unfold lowerDown
    simp only [hq, get_setState]

theorem close_idle {K : CloseSink σ} {reason : String} (h : CloseIdle reason (L.get s)) :
    close L K reason s = s := by
  obtain ⟨hr, hl, hs⟩ := h
  unfold close reasoned
  rw [L.upd_eq_self (by rw [← hl, ← hr])]
  rcases hs with hs | hs | hs <;> simp only [hs]

theorem ended_close {K : CloseSink σ}
    (hfin : ∀ t, (L.get t).state = .closed → Ended (L.get (K.finished t)).state)
    (reason : String) (s : σ) : Ended (L.get (close L K reason s)).state := by
  have hterm : ∀ t, Ended (L.get (terminateLayer L K .closing t)).state := by
    intro t
    have last : ∀ w : σ, Ended (L.get (if (L.get w).retransmits = 0 then
        K.finished (setState L (if FsmState.closing = .closing then .closed else .stopped) w)
        else setState L .closing
          (L.upd (fun f => { f with retransmits := f.retransmits - 1 }) (startTime L w)))).state := by
      intro w
      split
      · exact hfin _ (by rw [get_setState, if_pos rfl])
      · rw [get_setState]
        exact Or.inr (Or.inr rfl)
    exact last _
  unfold close reasoned
  cases hq : (L.get s).state <;> simp only [Lens.get_upd, hq, get_setState, hterm]
  all_goals simp [Ended]

/-- `Close` writes its reason, and ends where it would do nothing. -/
theorem close_moves {K : CloseSink σ} {reason : String}
    (hfin : ∀ t, (L.get t).state = .closed → Ended (L.get (K.finished t)).state)
    (h : ¬ CloseIdle reason (L.get s)) : L.get (close L K reason s) ≠ L.get s := by
  intro he
  have hend := ended_close hfin reason s
  rw [he] at hend
  refine h ⟨?_, ?_, hend⟩
  all_goals
    rw [← he]
    unfold close reasoned
    rcases hend with hq | hq | hq <;> simp only [Lens.get_upd, hq]

end Idle

end Fsm

end CPPPFsm

end OpenBras
