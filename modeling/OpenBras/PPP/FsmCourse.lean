/-
  File:      OpenBras/PPP/FsmCourse.lean
  Subject:   RULES FOR INVARIANTS THAT READ THE AUTOMATON: what `A` must satisfy so that every
             method of `CPPPFsm` keeps it, when `A` may depend on the automaton's record, on the
             options of its owner and on what has been sent.

  The rules of OpenBras/PPP/FsmRules.lean are for invariants that see the automaton's standing
  only. Here a rule is one thing a method does as a whole: a fresh Configure-Request is the reset of the
  options, the next identifier, the packet and the new state. Between two such things a method
  passes through states in which `A` need not hold; there are two kinds:

  * `D` -- `Down` has been delivered and the automaton has not left `OPENED` yet;
  * `T` -- a Nak or Reject has been taken into the options and no request says so yet.

  What becomes of a retransmission is left to the caller of `timeout_course`.
-/
import OpenBras.PPP.FsmRules

namespace OpenBras

namespace CPPPFsm

variable {σ : Type}

/-- The update leaves the state, the identifiers and the protocol as they are. -/
def Calm (g : CPPPFsm → CPPPFsm) : Prop :=
  ∀ f, (g f).state = f.state ∧ (g f).id = f.id ∧ (g f).reqid = f.reqid ∧
    (g f).protocol = f.protocol

theorem Still.calm {g : CPPPFsm → CPPPFsm} (hg : Still g) : Calm g := fun f =>
  ⟨hg.state f, (congrArg CPPPFsm.id (hg.rest f) :), (congrArg CPPPFsm.reqid (hg.rest f) :),
    (congrArg CPPPFsm.protocol (hg.rest f) :)⟩

/-- The codes of the packets that answer one of the peer's, with its identifier. -/
def isAnswer (code : UInt8) : Bool :=
  code == CONFACK || code == CONFNAK || code == CONFREJ || code == TERMACK

/-! ## 1. The rules -/

structure CiCourse (L : Lens σ CPPPFsm) (K : CiSink σ) (A D T : σ → Prop) : Prop where
  ci : CiRules L K fun _ _ => True
  taken : ∀ {s}, A s → T s
  fallen : ∀ {s}, (L.get s).state ≠ .opened → D s → A s
  calm : ∀ {s g}, Calm g → A s → A (L.upd g s)
  rest : ∀ {s} {q : FsmState}, q.resting = true → (L.get s).state ≠ .opened → A s →
    A (setState L q s)
  shift : ∀ {s} {q : FsmState}, (L.get s).state.negotiating = true → q.negotiating = true → A s →
    A (setState L q s)
  answer : ∀ {s code} id data n, isAnswer code = true → A s → A (sendData L K code id data n s)
  codeRej : ∀ {s} data n, A s → A (sendData L K CODEREJ
    (L.get (L.upd (fun f => { f with id := f.id + 1 }) s)).id data n
    (L.upd (fun f => { f with id := f.id + 1 }) s))
  termReq : ∀ {s} data n, (L.get s).state.terminating = true → A s →
    A (sendData L K TERMREQ (L.get (nextReqid L s)).reqid data n (nextReqid L s))
  fresh : ∀ {s}, (L.get s).state.resting = true → A s →
    A (setState L .reqSent (sendConfReq L K false s))
  renew : ∀ {s}, (L.get s).state.negotiating = true → T s → A (sendConfReq L K false s)
  takenCalm : ∀ {s g}, Calm g → T s → T (L.upd g s)
  fallenUpd : ∀ {s g}, (∀ f, (g f).protocol = f.protocol) → D s → D (L.upd g s)
  fallenSend : ∀ {s} code id data n, D s → D (sendData L K code id data n s)
  fallenReq : ∀ {s}, D s → D (sendConfReq L K false s)

structure LayerCourse (L : Lens σ CPPPFsm) (K : LayerSink σ) (A D T : σ → Prop) : Prop
    extends CiCourse L K.toCiSink A D T where
  layer : LayerRules L K fun _ _ => True
  starting : K.starting = lowerUp L K.toCiSink
  down : ∀ {s}, T s → D (K.down s)

structure CloseCourse (L : Lens σ CPPPFsm) (K : CloseSink σ) (A D T : σ → Prop) : Prop
    extends LayerCourse L K.toLayerSink A D T where
  finished : ∀ {s}, (L.get s).state = .closed ∨ (L.get s).state = .stopped → A s →
    A (K.finished s)

structure FsmCourse (L : Lens σ CPPPFsm) (K : IFsmSink σ) (A D T : σ → Prop) : Prop
    extends CloseCourse L K.toCloseSink A D T where
  fsm : FsmRules L K fun _ _ => True
  ackci : ∀ {s} p n, A s → A (K.ackci p n s).2
  nakci : ∀ {s} p n r, A s → T (K.nakci p n r s).2 ∧ 0 ≤ (K.nakci p n r s).1 ∧
    ((K.nakci p n r s).1 = 0 ∨ (L.get (K.nakci p n r s).2).state.resting = true →
      A (K.nakci p n r s).2)
  rejci : ∀ {s} p n, A s → T (K.rejci p n s).2 ∧ 0 ≤ (K.rejci p n s).1 ∧
    ((K.rejci p n s).1 = 0 ∨ (L.get (K.rejci p n s).2).state.resting = true →
      A (K.rejci p n s).2)
  reqci : ∀ {s} p n r, A s → A (K.reqci p n r s).2
  verdict : ∀ p n r s, (K.reqci p n r s).1.1 = confAck ∨ (K.reqci p n r s).1.1 = confNak ∨
    (K.reqci p n r s).1.1 = confRej
  termAck : ∀ {s} id, (L.get s).state = .opened → A s →
    D (K.down (sendData L K.toCiSink TERMACK id [] 0
      (L.upd (fun f => { f with retransmits := 0, state := .stopping }) s)))
  up : ∀ {s}, (L.get s).state.negotiating = true → A s → A (K.up (setState L .opened s))

/-! ## 2. Invariants everything keeps -/

section Closed

variable {L : Lens σ CPPPFsm} {K : CiSink σ} {P : σ → Prop}

/-- `P` is kept by every update that leaves the protocol and by every packet. -/
structure ClosedCi (L : Lens σ CPPPFsm) (K : CiSink σ) (P : σ → Prop) : Prop where
  ci : CiRules L K fun _ _ => True
  upd : ∀ {s g}, (∀ f, (g f).protocol = f.protocol) → P s → P (L.upd g s)
  resetci : ∀ {s}, P s → P (K.resetci s)
  cilen : ∀ {s}, P s → P (K.cilen s).2
  addci : ∀ {s} n, P s → P (K.addci n s).2
  send : ∀ {s} code id data n, P s → P (sendData L K code id data n s)

theorem ClosedCi.confReq (R : ClosedCi L K P) (r : Bool) {s : σ} (h : P s) :
    P (confReq L K r s).2 := by
  unfold CPPPFsm.confReq
  refine R.addci _ (R.cilen (R.upd (fun _ => rfl) ?_))
  have reset : P (if (L.get s).state.negotiating then s
      else L.upd (fun f => { f with nakloops := 0, rnakloops := 0 }) (K.resetci s)) := by
    split
    · exact h
    · exact R.upd (fun _ => rfl) (R.resetci h)
  split
  · exact reset
  · exact R.upd (fun _ => rfl) (R.upd (fun _ => rfl) reset)

theorem ClosedCi.sendConfReq (R : ClosedCi L K P) (r : Bool) {s : σ} (h : P s) :
    P (sendConfReq L K r s) := by
  rw [sendConfReq_eq]
  exact R.upd (fun _ => rfl) (R.upd (fun _ => rfl) (R.send _ _ _ _ (R.confReq r h)))

theorem ClosedCi.course (R : ClosedCi L K P) : CiCourse L K P P P where
  ci := R.ci
  taken h := h
  fallen _ h := h
  calm hg h := R.upd (fun f => (hg f).2.2.2) h
  rest _ _ h := R.upd (fun _ => rfl) h
  shift _ _ h := R.upd (fun _ => rfl) h
  answer _ _ _ _ h := R.send _ _ _ _ h
  codeRej _ _ h := R.send _ _ _ _ (R.upd (fun _ => rfl) h)
  termReq _ _ _ h := R.send _ _ _ _ (R.upd (fun _ => rfl) h)
  fresh _ h := R.upd (fun _ => rfl) (R.sendConfReq false h)
  renew _ h := R.sendConfReq false h
  takenCalm hg h := R.upd (fun f => (hg f).2.2.2) h
  fallenUpd hg h := R.upd hg h
  fallenSend _ _ _ _ h := R.send _ _ _ _ h
  fallenReq h := R.sendConfReq false h

end Closed

/-! ## 3. The lower layer, opening and closing -/

section Ci

variable {L : Lens σ CPPPFsm} {K : CiSink σ} {A D T : σ → Prop}

theorem CiCourse.acts (R : CiCourse L K A D T) : CiActs L K A where
  still hg h := R.calm hg.calm h
  goto hq h := R.rest (FsmState.resting_of_kin hq).2
    (FsmState.ne_opened_of_resting (FsmState.resting_of_kin hq).1) h
  fresh hq h := R.fresh (FsmState.resting_of_quiet hq) h

end Ci

section Layer

variable {L : Lens σ CPPPFsm} {K : LayerSink σ} {A D T : σ → Prop}

theorem LayerCourse.fall (R : LayerCourse L K A D T) {s : σ} {q : FsmState} (hq : q ≠ .opened)
    (h : D s) : A (setState L q s) :=
  R.fallen (by rw [get_setState]; exact hq) (R.fallenUpd (fun _ => rfl) h)

theorem LayerCourse.acts (R : LayerCourse L K A D T) : LayerActs L K A where
  toCiActs := R.toCiCourse.acts
  starts _ h := by
    rw [R.starting]
    exact R.toCiCourse.acts.lowerUp h
  halt hs hq h := by
    refine R.rest (FsmState.resting_of_quiet hq) ?_ (R.calm (fun _ => ⟨rfl, rfl, rfl, rfl⟩) h)
    rw [get_cancelTimer]
    exact FsmState.ne_opened_of_awaiting hs
  falls _ h := R.fall (by decide) (R.down (R.taken h))

theorem lowerDown_course (R : LayerCourse L K A D T) {s : σ} (h : A s) : A (lowerDown L K s) :=
  R.acts.lowerDown h

theorem fsmOpen_course (R : LayerCourse L K A D T) {s : σ} (h : A s) : A (fsmOpen L K s) :=
  R.acts.fsmOpen h

end Layer

section Close

variable {L : Lens σ CPPPFsm} {K : CloseSink σ} {A D T : σ → Prop}

theorem terminateLayer_course (R : CloseCourse L K A D T) {s : σ} {next : FsmState}
    (hn : next ≠ .opened) (h : T s) : A (terminateLayer L K next s) := by
  have down : D (K.down (stopTimer L s)) := by
    unfold stopTimer
    split
    · exact R.down (R.takenCalm (fun _ => ⟨rfl, rfl, rfl, rfl⟩) h)
    · exact R.down h
  unfold terminateLayer
  dsimp only
  generalize K.down (stopTimer L s) = d at down ⊢
  have sent : ∀ id data n, D (sendData L K.toCiSink TERMREQ id data n
      (nextReqid L (L.upd (fun f => { f with retransmits := f.maxtermtransmits }) d))) :=
    fun id data n => R.fallenSend _ _ _ _
      (R.fallenUpd (fun _ => rfl) (R.fallenUpd (fun _ => rfl) down))
  split
  · refine R.finished ?_ (R.fall ?_ (sent _ _ _))
    · rw [get_setState]
      split
      · exact Or.inl rfl
      · exact Or.inr rfl
    · split <;> decide
  · exact R.fall hn (R.fallenUpd (fun _ => rfl) (R.fallenUpd (fun _ => rfl) (sent _ _ _)))

theorem close_course (R : CloseCourse L K A D T) {s : σ} (reason : String) (h : A s) :
    A (close L K reason s) := by
  refine R.toCiCourse.acts.close reason (fun _ => ?_) fun _ _ => h
  exact terminateLayer_course R (by decide) (R.takenCalm (fun _ => ⟨rfl, rfl, rfl, rfl⟩)
    (R.taken h))

end Close

/-! ## 4. The timer and the received packets -/

section Fsm

variable {L : Lens σ CPPPFsm} {K : IFsmSink σ} {A D T : σ → Prop}

variable {s : σ}

/-- **`Timeout` keeps the invariant**, if a retransmission does. -/
theorem timeout_course (R : FsmCourse L K A D T)
    (hres : (L.get s).state.negotiating = true → 0 < (L.get s).retransmits →
      A (sendConfReq L K.toCiSink true (K.retransmit s))) (h : A s) : A (timeout L K s) := by
  have rests : ∀ q : FsmState, q.resting = true → (L.get s).state.awaiting = true →
      A (setState L q s) := fun q hq hs => R.rest hq (FsmState.ne_opened_of_awaiting hs) h
  refine timeout_acts (fun ht _ q hq => ?_) (fun ht _ data n => ?_) (fun hn _ => ?_)
    (fun hn hr => ?_) h
  · refine R.finished (by rw [get_setState]; exact hq) (rests q ?_ (by simp [FsmState.awaiting, ht]))
    rcases hq with rfl | rfl <;> rfl
  · exact R.calm (fun _ => ⟨rfl, rfl, rfl, rfl⟩)
      (R.calm (fun _ => ⟨rfl, rfl, rfl, rfl⟩) (R.termReq data n ht h))
  · have stopped := rests .stopped rfl (by simp [FsmState.awaiting, hn])
    exact ⟨stopped, fun _ => R.finished (Or.inr (by rw [get_setState])) stopped⟩
  · have sent := hres hn hr
    unfold resend
    dsimp only
    split
    · rename_i e
      exact R.shift (by rw [e]; rfl) rfl sent
    · exact sent

theorem isAnswer_of_verdict {verdict : Int} (out : Bytes)
    (h : verdict = confAck ∨ verdict = confNak ∨ verdict = confRej) :
    isAnswer (UInt8.ofNat ((if verdict = -1 then (if out.length ≠ 0 then confRej else confAck)
      else verdict).emod 256).toNat) = true := by
  rcases h with rfl | rfl | rfl <;> rfl

theorem answerConfReq_course (R : FsmCourse L K A D T) (id : UInt8) (inp : Bytes) (len : Nat)
    (hn : (L.get s).state.negotiating = true) (h : A s) : A (answerConfReq L K id inp len s) := by
  refine R.toCiCourse.acts.answerConfReq
    (fun u => (L.get u).state.negotiating = true ∧ A u)
    (fun u => (L.get u).state.negotiating = true ∧ A u) id inp len ?_ ?_
    (fun u _ hu => R.shift hu.1 rfl hu.2) (fun u _ hu => R.shift hu.1 rfl hu.2)
    (fun u _ hu => hu.2)
  · rintro r code rfl u rfl
    constructor <;> intro _ <;> constructor
    · rwa [get_sendData R.ci, R.fsm.reqci_fsm]
    · exact R.answer id _ _ (isAnswer_of_verdict _ (R.verdict inp len r s)) (R.reqci inp len r h)
    · rwa [get_sendData R.ci, R.fsm.reqci_fsm]
    · exact R.answer id _ _ (isAnswer_of_verdict _ (R.verdict inp len r s)) (R.reqci inp len r h)
  · intro u _ hu
    refine R.up ?_ (R.calm (fun _ => ⟨rfl, rfl, rfl, rfl⟩) hu.2)
    rw [get_cancelTimer]
    exact hu.1

/-- A verdict that is not negative, and options that are as before if they are not used. -/
theorem takes_course {x : Int × σ} (h : T x.2 ∧ 0 ≤ x.1 ∧
    (x.1 = 0 ∨ (L.get x.2).state.resting = true → A x.2)) : Takes L A T x :=
  ⟨h.1, fun h0 => h.2.2 (Or.inl (le_antisymm h0 h.2.1)),
    fun hq => h.2.2 (Or.inr (FsmState.resting_of_kin hq).1)⟩

/-- The state and the counter are written together. -/
theorem upd_counted (q : FsmState) (s : σ) :
    L.upd (fun f => { f with state := q, retransmits := f.maxconfreqtransmits }) s =
      setState L q (L.upd (fun f => { f with retransmits := f.maxconfreqtransmits }) s) := by
  unfold setState
  rw [L.upd_upd]
  rfl

theorem FsmCourse.acts (R : FsmCourse L K A D T) : NegotiationActs L K A T where
  toLayerActs := R.toLayerCourse.acts
  takenStill hg h := R.takenCalm hg.calm h
  back hq h := R.shift hq rfl h
  again hq h := by
    refine R.renew ?_ (R.takenCalm (fun _ => ⟨rfl, rfl, rfl, rfl⟩) h)
    rw [get_cancelTimer]
    rcases hq with hq | hq <;> rw [hq] <;> rfl
  renew {s} hq h := by
    have hn : (L.get (cancelTimer L s)).state.negotiating = true := by
      rw [get_cancelTimer, hq]
      rfl
    refine R.shift ?_ rfl (R.renew hn (R.takenCalm (fun _ => ⟨rfl, rfl, rfl, rfl⟩) h))
    rwa [state_sendConfReq R.ci]
  renegotiate _ h := R.fall (by decide) (R.fallenReq (R.down h))
  termAck _ h := R.answer _ _ _ rfl h
  quits id hq h := by
    -- the state is STOPPING before `Down` runs
    refine R.fallen ?_ (R.fallenUpd (fun _ => rfl) (R.termAck id hq h))
    rw [get_startTime, R.layer.down_fsm, get_sendData R.ci, Lens.get_upd]
    exact (by decide : FsmState.stopping ≠ .opened)
  ends ht hq h := by
    refine R.finished (by rw [get_setState]; exact hq) (R.rest ?_ ?_
      (R.calm (fun _ => ⟨rfl, rfl, rfl, rfl⟩) h))
    · rcases hq with rfl | rfl <;> rfl
    · rw [get_cancelTimer]
      exact FsmState.ne_opened_of_resting (FsmState.resting_of_terminating ht)
  taken := R.taken
  rejci p n h := takes_course (R.rejci p n h)
  ackci p n h := R.ackci p n h
  acked {s} hq h := by
    rw [upd_counted]
    exact R.shift (by rw [Lens.get_upd, hq]; rfl) rfl (R.calm (fun _ => ⟨rfl, rfl, rfl, rfl⟩) h)
  up {s} hq h := by
    rw [upd_counted]
    refine R.up ?_ (R.calm (fun _ => ⟨rfl, rfl, rfl, rfl⟩)
      (R.calm (fun _ => ⟨rfl, rfl, rfl, rfl⟩) h))
    rw [Lens.get_upd, get_cancelTimer, hq]
    rfl
  answers id inp len hq h := answerConfReq_course R id inp len hq h
  codeRej data n h := R.codeRej data n h

/-- **`Input` keeps the invariant**, whatever the packet, if the owner does for a code the
    automaton does not know. -/
theorem input_course (R : FsmCourse L K A D T) (inpacket : Bytes) (l : Nat)
    (hext : ∀ code id len, header inpacket l = some (code, id, len) →
      A (K.extCode code id (inpacket.drop HEADERLEN) len s).2) (h : A s) :
    A (input L K inpacket l s) :=
  R.acts.input inpacket l
    (fun len _ _ r => takes_course (R.nakci _ len r (R.calm (fun _ => ⟨rfl, rfl, rfl, rfl⟩) h)))
    hext h

end Fsm

end CPPPFsm

end OpenBras
