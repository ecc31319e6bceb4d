/-
  File:      OpenBras/PPP/LcpDeeds.lean
  Subject:   LCP'S OWN METHODS IN DEEDS (OpenBras/PPP/LcpView.lean), and what IPCP does to LCP.

  `Reached v s` says that the view of `s` comes from `v` in deeds. IPCP leaves the view alone or
  marks it (`Aside`). LCP's own methods keep `Reached` by the rules of
  OpenBras/PPP/FsmCourse.lean.

  * `Aside.ipcpInput`, `Aside.ipcpTimeout` -- the surroundings;
  * `lcp_course` -- the automaton with its sink, coming up apart. The events of a session are put
    together from it in OpenBras/PPP/LcpStep.lean.
-/
import OpenBras.PPP.LcpView
import OpenBras.PPP.Outlet

namespace OpenBras

open Wire

namespace Exec

open CPPPFsm

theorem Conf.code_cases (c : Conf) :
    c.code = confAck ∨ c.code = confNak ∨ c.code = confRej := by
  cases c
  · exact Or.inl rfl
  · exact Or.inr (Or.inl rfl)
  · exact Or.inr (Or.inr rfl)

theorem ipcpGot_nonneg (t : Option IpcpOptions) (s : Exec) : 0 ≤ (ipcpGot t s).1 := by
  cases t with
  | none => exact le_refl 0
  | some _ => exact zero_le_one

/-! ## 1. The surroundings of LCP -/

/-- The automata and the challenge packet carry the numbers of their protocols. -/
structure Labelled (s : Exec) : Prop where
  lcp : s.lcp.fsm.protocol = PPP_LCP
  ipcp : s.ipcp.fsm.protocol = PPP_IPCP
  chap : s.chap.challenge = [] ∨ getShort s.chap.challenge PPP_ADDR_CTRL_LEN = PPP_CHAP

/-- A property of the view that a mark cannot destroy. -/
structure Aside (P : Exec → Prop) : Prop where
  labelled : ∀ {s}, P s → Labelled s
  frame : ∀ {s t}, P s → Labelled t → t.lcpView = s.lcpView → P t
  mark : ∀ {s t}, P s → Labelled t → t.lcpView = { s.lcpView with marked := true } → P t

@[simp] theorem marked_onPPPOutput (p : Bytes) (s : Exec) :
    (onPPPOutput p s).sessionToBeDeleted = s.sessionToBeDeleted := by
  unfold onPPPOutput
  repeat' split
  all_goals rfl

theorem Labelled.onPPPOutput {s : Exec} (h : Labelled s) (p : Bytes) :
    Labelled (onPPPOutput p s) :=
  ⟨by simpa using h.lcp, by simpa using h.ipcp, by simpa using h.chap⟩

theorem lcpView_onPPPOutput {p : Bytes} (hp : getShort p PPP_ADDR_CTRL_LEN ≠ PPP_LCP) (s : Exec) :
    (onPPPOutput p s).lcpView = s.lcpView := by
  unfold lcpView
  rw [lcp_onPPPOutput, protocolLog_onPPPOutput hp, marked_onPPPOutput]

namespace Aside

variable {P : Exec → Prop} (R : Aside P)

include R

theorem output {s : Exec} {p : Bytes} (hp : getShort p PPP_ADDR_CTRL_LEN ≠ PPP_LCP) (h : P s) :
    P (onPPPOutput p s) :=
  R.frame h ((R.labelled h).onPPPOutput p) (lcpView_onPPPOutput hp s)

theorem padt {s : Exec} (reason : String) (h : P s) : P (sendPADT reason s) := by
  have hl := R.labelled h
  unfold sendPADT
  split
  · exact h
  · exact R.mark h ⟨hl.lcp, hl.ipcp, hl.chap⟩ rfl

theorem beside {s t : Exec} (h : P s) (hlcp : t.lcp = s.lcp) (hipcp : t.ipcp = s.ipcp)
    (hchap : t.chap.challenge = s.chap.challenge) (hout : t.hist.output = s.hist.output)
    (hmark : t.sessionToBeDeleted = s.sessionToBeDeleted) : P t := by
  have hl := R.labelled h
  refine R.frame h ⟨hlcp ▸ hl.lcp, hipcp ▸ hl.ipcp, hchap ▸ hl.chap⟩ ?_
  unfold lcpView protocolLog
  rw [hlcp, hout, hmark]

theorem ipcp {s : Exec} {i : CPPPIPCP} (hi : i.fsm.protocol = s.ipcp.fsm.protocol) (h : P s) :
    P { s with ipcp := i } :=
  R.frame h ⟨(R.labelled h).lcp, hi.trans (R.labelled h).ipcp, (R.labelled h).chap⟩ rfl

/-! ### IPCP -/

theorem ipcpCi : ClosedCi ipcpFsm ipcpCi P where
  ci := IpcpOwner.ciRules ⟨fun _ _ => trivial, fun _ _ => trivial, fun _ => trivial,
    fun _ => trivial, fun _ => ⟨trivial, trivial⟩⟩
  upd hg h := R.ipcp (hg _) h
  resetci h := R.ipcp rfl h
  cilen h := R.ipcp rfl h
  addci _ h := R.ipcp rfl h
  send code id data n h := by
    rename_i s
    rw [sendData_control rfl (show isControl PPP_IPCP = true from rfl) (R.labelled h).ipcp]
    split
    · exact h
    refine R.frame h ⟨(R.labelled h).lcp, (R.labelled h).ipcp, (R.labelled h).chap⟩ ?_
    have hne : (getShort (controlPacket PPP_IPCP code id data n) 0 == PPP_LCP) = false := by
      simp only [controlPacket, List.append_assoc, getShort_putShort]
      rfl
    unfold lcpView protocolLog
    dsimp only
    rw [List.filter_cons_of_neg (by rw [hne]; decide)]

theorem onIPCPDown {s : Exec} (h : P s) : P (onIPCPDown s) :=
  R.padt _ (R.beside h rfl rfl rfl rfl rfl)

theorem ipcpLayer : LayerCourse ipcpFsm ipcpLayer P P P where
  toCiCourse := R.ipcpCi.course
  layer := IpcpOwner.layerRules ⟨fun _ _ => trivial, fun _ _ => trivial, fun _ => trivial,
    fun _ => trivial, fun _ => ⟨trivial, trivial⟩⟩
  starting := rfl
  down h := R.onIPCPDown h

theorem ipcpClose : CloseCourse ipcpFsm ipcpClose P P P where
  toLayerCourse := R.ipcpLayer
  finished _ h := R.ipcp rfl h

theorem ipcpLowerDown {s : Exec} (h : P s) : P (ipcpLowerDown s) := lowerDown_course R.ipcpLayer h

theorem ipcpCloseFsm {s : Exec} (reason : String) (h : P s) : P (ipcpCloseFsm reason s) :=
  close_course R.ipcpClose reason h

theorem ipcpOpen {s : Exec} (h : P s) : P (ipcpOpen s) := by
  refine fsmOpen_course R.ipcpLayer (R.ipcp (s := { s with
    hist := { s.hist with ncp := s.authenticated :: s.hist.ncp } }) rfl ?_)
  exact R.beside h rfl rfl rfl rfl rfl

theorem ipcpGot {s : Exec} (t : Option IpcpOptions) (h : P s) : P (ipcpGot t s).2 := by
  unfold Exec.ipcpGot
  split
  · exact h
  dsimp only
  split
  · exact h
  · exact R.ipcp rfl h

theorem ipcpReqci {s : Exec} (inp : Bytes) (len : Nat) (r : Bool) (h : P s) :
    P (ipcpReqci inp len r s).2 := by
  unfold Exec.ipcpReqci
  dsimp only
  split
  · exact R.ipcp (s := noteAcked inp len s) rfl (R.beside h rfl rfl rfl rfl rfl)
  · exact R.ipcp rfl h

theorem ipcpUp {s : Exec} (h : P s) : P (ipcpUp s) := by
  have hassume : P (assumeHisaddr s) := by
    unfold assumeHisaddr
    split
    · exact R.ipcp rfl h
    · exact h
  unfold Exec.ipcpUp
  dsimp only
  split
  · exact R.ipcpCloseFsm _ hassume
  unfold onIPCPUp onAddSubscriber
  repeat' split
  · exact R.beside hassume rfl rfl rfl rfl rfl
  · exact R.beside hassume rfl rfl rfl rfl rfl
  · exact hassume

theorem ipcpSink : FsmCourse ipcpFsm ipcpSink P P P where
  toCloseCourse := R.ipcpClose
  fsm := IpcpUpOwner.rules
    { terms := fun _ _ => trivial, output := fun _ _ => trivial, acked := fun _ => trivial
      ending := fun _ => trivial, down := fun _ => ⟨trivial, trivial⟩
      ack := fun _ _ _ _ _ => trivial, up := fun _ _ => trivial, refused := fun _ _ => trivial }
  ackci _ _ h := h
  nakci _ _ _ h := ⟨R.ipcpGot _ h, ipcpGot_nonneg _ _, fun _ => R.ipcpGot _ h⟩
  rejci _ _ h := ⟨R.ipcpGot _ h, ipcpGot_nonneg _ _, fun _ => R.ipcpGot _ h⟩
  reqci _ _ _ h := R.ipcpReqci _ _ _ h
  verdict _ _ _ _ := Conf.code_cases _
  termAck _ _ h := R.onIPCPDown (R.ipcpCi.send _ _ _ _ (R.ipcpCi.upd (fun _ => rfl) h))
  up _ h := R.ipcpUp (R.ipcpCi.upd (fun _ => rfl) h)

theorem ipcpInput {s : Exec} (p : Bytes) (n : Nat) (h : P s) : P (ipcpInput p n s) := by
  have hnote : P { s with hist := { s.hist with ncp := s.authenticated :: s.hist.ncp } } :=
    R.beside h rfl rfl rfl rfl rfl
  exact input_course R.ipcpSink p n (fun _ _ _ _ => hnote) hnote

theorem ipcpTimeout {s : Exec} (h : P s) : P (ipcpTimeout s) :=
  timeout_course R.ipcpSink (fun _ _ => R.ipcpCi.sendConfReq true h) h

end Aside

/-! ## 2. LCP's own methods -/

/-- The view comes from `v` in deeds. -/
structure Reached (v : LcpView) (s : Exec) : Prop where
  labelled : Labelled s
  deeds : Deeds v s.lcpView

/-- `Down` has been delivered since. -/
structure Downed (v : LcpView) (s : Exec) : Prop where
  labelled : Labelled s
  fallen : ∃ u, Deeds v u ∧ Fallen u s.lcpView

/-- Options have been taken, and no request says so yet. -/
structure TakenIn (v : LcpView) (s : Exec) : Prop where
  labelled : Labelled s
  taken : ∃ u go, Deeds v u ∧ Takes u.lcp go ∧ u.lcp.fsm.Alike s.lcp.fsm ∧
    s.lcpView = (u.withGo go).withFsm s.lcp.fsm

variable {v : LcpView} {s : Exec}

theorem aside_reached (v : LcpView) : Aside (Reached v) where
  labelled h := h.labelled
  frame h hl hv := ⟨hl, hv ▸ h.deeds⟩
  mark h hl hv := ⟨hl, hv ▸ h.deeds.snoc (.mark _)⟩

theorem Labelled.upd (h : Labelled s) {g : CPPPFsm → CPPPFsm}
    (hg : ∀ f, (g f).protocol = f.protocol) : Labelled (lcpFsm.upd g s) :=
  ⟨(hg _).trans h.lcp, h.ipcp, h.chap⟩

theorem lcpView_upd (g : CPPPFsm → CPPPFsm) (s : Exec) :
    (lcpFsm.upd g s).lcpView = s.lcpView.withFsm (g s.lcp.fsm) := rfl

theorem Labelled.sendData (h : Labelled s) (code id : UInt8) (data : Bytes) (n : Nat) :
    Labelled (CPPPFsm.sendData lcpFsm lcpCi code id data n s) := by
  unfold CPPPFsm.sendData
  dsimp only [lcpCi]
  exact Labelled.onPPPOutput h _

/-- **What a packet of LCP adds to the view.** -/
theorem lcpView_sendData (h : Labelled s) (code id : UInt8) (data : Bytes) (n : Nat) :
    (sendData lcpFsm lcpCi code id data n s).lcpView = s.lcpView.send code id data n := by
  have hlcp : (getShort (controlPacket PPP_LCP code id data n) 0 == PPP_LCP) = true := by
    simp only [controlPacket, List.append_assoc, getShort_putShort]
    rfl
  have hlog : (controlPacket PPP_LCP code id data n :: s.hist.output).filter
      (fun p => getShort p 0 == PPP_LCP) =
      controlPacket PPP_LCP code id data n ::
        s.hist.output.filter (fun p => getShort p 0 == PPP_LCP) := List.filter_cons_of_pos hlcp
  rw [sendData_control rfl (show isControl PPP_LCP = true from rfl) h.lcp]
  show _ = if s.sessionToBeDeleted then _ else _
  split
  · rfl
  · unfold lcpView protocolLog
    rw [hlog]

/-- The options of the next request are reset, unless LCP is negotiating. -/
def readied (s : Exec) : Exec :=
  if (lcpFsm.get s).state.negotiating then s
  else lcpFsm.upd (fun f => { f with nakloops := 0, rnakloops := 0 }) (lcpCi.resetci s)

theorem startTime_lcp (t : Exec) :
    startTime lcpFsm (lcpFsm.upd (fun f => { f with retransmits := f.retransmits - 1 }) t) =
      lcpFsm.upd (fun f => { f with retransmits := f.retransmits - 1, timer := true }) t := rfl

theorem sendConfReq_lcp (s : Exec) :
    sendConfReq lcpFsm lcpCi false s =
      lcpFsm.upd (fun f => { f with retransmits := f.retransmits - 1, timer := true })
        (sendData lcpFsm lcpCi CONFREQ ((readied s).lcp.fsm.id + 1)
          (readied s).lcp.go.addci (min (readied s).lcp.go.cilen (PPP_MRU - HEADERLEN))
          (lcpFsm.upd (fun f => { f with
            retransmits := f.maxconfreqtransmits, id := f.id + 1, reqid := f.id + 1,
            seenAck := false }) (readied s))) := by
  rw [sendConfReq_eq, startTime_lcp]
  rfl

theorem Labelled.readied (h : Labelled s) : Labelled (readied s) := by
  unfold Exec.readied
  split
  · exact h
  · exact Labelled.upd (s := lcpReset s) ⟨h.lcp, h.ipcp, h.chap⟩ fun _ => rfl

theorem Labelled.sendConfReq (h : Labelled s) :
    Labelled (CPPPFsm.sendConfReq lcpFsm lcpCi false s) := by
  rw [sendConfReq_lcp]
  refine Labelled.upd ?_ fun _ => rfl
  refine Labelled.sendData ?_ _ _ _ _
  exact Labelled.upd h.readied fun _ => rfl

/-- **A fresh request in the view**: the request, with the counters after it. -/
theorem lcpView_sendConfReq (h : Labelled s) :
    ∃ f, (readied s).lcpView.request.lcp.fsm.Alike f ∧
      (sendConfReq lcpFsm lcpCi false s).lcpView = (readied s).lcpView.request.withFsm f := by
  rw [sendConfReq_lcp]
  have hl := h.readied
  generalize readied s = t at hl ⊢
  have hsent := lcpView_sendData (Labelled.upd (g := fun f => { f with
    retransmits := f.maxconfreqtransmits, id := f.id + 1, reqid := f.id + 1, seenAck := false })
    hl fun _ => rfl) CONFREQ (t.lcp.fsm.id + 1) t.lcp.go.addci
    (min t.lcp.go.cilen (PPP_MRU - HEADERLEN))
  refine ⟨{ t.lcp.fsm with
      retransmits := t.lcp.fsm.maxconfreqtransmits - 1, timer := true, id := t.lcp.fsm.id + 1,
      reqid := t.lcp.fsm.id + 1, seenAck := false }, ?_, ?_⟩
  · unfold LcpView.request
    rw [LcpView.send_lcp]
    exact ⟨rfl, rfl, rfl, rfl⟩
  · unfold LcpView.request
    rw [LcpView.withFsm_send]
    rw [lcpView_upd, hsent, LcpView.withFsm_send, lcp_sendData]
    rfl

/-- In negotiation the options stay; otherwise they are reset. -/
theorem lcpView_readied (s : Exec) :
    (s.lcp.fsm.state.negotiating = true ∧ readied s = s) ∨
      ∃ f magic, s.lcp.fsm.Alike f ∧ (readied s).lcpView =
        { s.lcpView.withFsm f with
          lcp := LcpView.resetLcp magic (s.lcpView.withFsm f).lcp } := by
  unfold readied
  split
  · rename_i hn
    exact Or.inl ⟨hn, rfl⟩
  · exact Or.inr ⟨{ s.lcp.fsm with nakloops := 0, rnakloops := 0 }, s.rand s.draws,
      ⟨rfl, rfl, rfl, rfl⟩, rfl⟩

theorem alike_of_calm {g : CPPPFsm → CPPPFsm} (hg : Calm g) (f : CPPPFsm) : f.Alike (g f) :=
  ⟨(hg f).1, (hg f).2.1, (hg f).2.2.1, (hg f).2.2.2⟩

theorem lcpView_setState (q : FsmState) (s : Exec) :
    (setState lcpFsm q s).lcpView = s.lcpView.goto q := rfl

/-- **A fresh request is a deed**, with the counters set around it. -/
theorem Reached.fresh (h : Reached v s) (hs : s.lcp.fsm.state.resting = true) :
    Reached v (setState lcpFsm .reqSent (sendConfReq lcpFsm lcpCi false s)) := by
  have hl := h.labelled
  obtain ⟨g, hg, hsent⟩ := lcpView_sendConfReq hl
  refine ⟨Labelled.upd hl.sendConfReq fun _ => rfl, ?_⟩
  rcases lcpView_readied s with ⟨hn, _⟩ | ⟨f, magic, hf, hr⟩
  · rw [FsmState.negotiating_of_resting hs] at hn
    cases hn
  rw [hr] at hg hsent
  rw [lcpView_setState, hsent]
  refine ((h.deeds.snoc (.calm hf)).snoc (.fresh magic ?_)).snoc
    (.calm (f := { g with state := .reqSent }) ?_)
  · show f.state.resting = true
    rw [hf.state]
    exact hs
  · exact ⟨rfl, hg.id, hg.reqid, hg.protocol⟩

/-- **So is a new request**, after whatever has been taken. -/
theorem TakenIn.renew (h : TakenIn v s) (hs : s.lcp.fsm.state.negotiating = true) :
    Reached v (sendConfReq lcpFsm lcpCi false s) := by
  have hl := h.labelled
  obtain ⟨g, hg, hsent⟩ := lcpView_sendConfReq hl
  obtain ⟨u, go, hu, hgo, hf, hview⟩ := h.taken
  have hr : readied s = s := if_pos hs
  rw [hr, hview] at hg hsent
  refine ⟨hl.sendConfReq, ?_⟩
  rw [hsent]
  refine ((hu.snoc (.calm hf)).snoc (.renew (hgo.congr rfl rfl) hs)).snoc (.calm hg)

theorem Downed.sendConfReq (h : Downed v s) : Downed v (sendConfReq lcpFsm lcpCi false s) := by
  obtain ⟨u, hu, hf⟩ := h.fallen
  obtain ⟨g, hg, hsent⟩ := lcpView_sendConfReq h.labelled
  refine ⟨h.labelled.sendConfReq, u, hu, ?_⟩
  have hr : Fallen u (readied s).lcpView := by
    rcases lcpView_readied s with ⟨_, hr⟩ | ⟨f, magic, hf', hr⟩
    · rwa [hr]
    · rw [hr]
      exact (hf.withFsm hf'.protocol).reset magic
  rw [hsent]
  exact hr.request.withFsm hg.protocol

theorem lcpCi_course (v : LcpView) :
    CiCourse lcpFsm lcpCi (Reached v) (Downed v) (TakenIn v) where
  ci := closing_true.link.ciRules
  taken h := ⟨h.labelled, _, _, h.deeds, .same, ⟨rfl, rfl, rfl, rfl⟩, rfl⟩
  fallen hs h := by
    obtain ⟨u, hu, hf⟩ := h.fallen
    exact ⟨h.labelled, hu.snoc (.fall hf hs)⟩
  calm hg h := ⟨h.labelled.upd fun f => (hg f).2.2.2, h.deeds.snoc (.calm (alike_of_calm hg _))⟩
  rest hq hs h := ⟨h.labelled.upd fun _ => rfl, h.deeds.snoc (.rest hq hs)⟩
  shift hs hq h := ⟨h.labelled.upd fun _ => rfl, h.deeds.snoc (.shift hq hs)⟩
  answer id data n hc h :=
    ⟨h.labelled.sendData _ _ _ _,
      lcpView_sendData h.labelled _ id data n ▸ h.deeds.snoc (.answer id data n hc)⟩
  codeRej data n h := by
    have hl := h.labelled.upd (g := fun f => { f with id := f.id + 1 }) fun _ => rfl
    refine ⟨hl.sendData _ _ _ _, ?_⟩
    rw [lcpView_sendData hl]
    exact h.deeds.snoc (.reject data n (Or.inl rfl))
  termReq data n hs h := by
    have hl := h.labelled.upd (g := fun f => { f with id := f.id + 1, reqid := f.id + 1 })
      fun _ => rfl
    unfold nextReqid
    refine ⟨hl.sendData _ _ _ _, ?_⟩
    rw [lcpView_sendData hl]
    exact h.deeds.snoc (.termReq data n hs)
  fresh hs h := h.fresh hs
  renew hs h := h.renew hs
  takenCalm hg h := by
    obtain ⟨u, go, hu, hgo, hf, hview⟩ := h.taken
    have hc := alike_of_calm hg
    refine ⟨h.labelled.upd fun f => (hg f).2.2.2, u, go, hu, hgo, ?_, ?_⟩
    · exact ⟨(hc _).state.trans hf.state, (hc _).id.trans hf.id, (hc _).reqid.trans hf.reqid,
        (hc _).protocol.trans hf.protocol⟩
    · rw [lcpView_upd, hview]
      rfl
  fallenUpd hg h := by
    obtain ⟨u, hu, hf⟩ := h.fallen
    exact ⟨h.labelled.upd hg, u, hu, hf.withFsm (hg _)⟩
  fallenSend code id data n h := by
    obtain ⟨u, hu, hf⟩ := h.fallen
    refine ⟨h.labelled.sendData _ _ _ _, u, hu, ?_⟩
    rw [lcpView_sendData h.labelled]
    exact hf.send _ _ _ _
  fallenReq h := h.sendConfReq

/-- A session that keeps its view, marked. -/
def MarkedAs (w : LcpView) (s : Exec) : Prop :=
  Labelled s ∧ { s.lcpView with marked := true } = w

theorem aside_markedAs (w : LcpView) : Aside (MarkedAs w) where
  labelled h := h.1
  frame h hl hv := ⟨hl, by rw [hv]; exact h.2⟩
  mark h hl hv := ⟨hl, by rw [hv]; exact h.2⟩

/-- **`Down` in the view.** -/
theorem lcpView_lcpDown (h : Labelled s) :
    Labelled (lcpDown s) ∧ (lcpDown s).lcpView = s.lcpView.down := by
  have R := aside_markedAs s.lcpView.down
  have hecho : MarkedAs s.lcpView.down (echoLowerDown s) := by
    unfold echoLowerDown LcpView.down LcpView.echoOff
    show Labelled (if s.lcp.echoTimerRunning then _ else _) ∧
      _ = ({ s.lcpView with lcp := if s.lcp.echoTimerRunning then _ else _, marked := true } : LcpView)
    split
    · exact ⟨⟨h.lcp, h.ipcp, h.chap⟩, rfl⟩
    · exact ⟨h, rfl⟩
  have hdown := R.ipcpCloseFsm "LCP down" (R.ipcpLowerDown hecho)
  unfold lcpDown onLCPDown
  dsimp only
  generalize Exec.ipcpCloseFsm "LCP down" (Exec.ipcpLowerDown (echoLowerDown s)) = t at hdown ⊢
  have hphase : MarkedAs s.lcpView.down
      (if t.phase ≠ .dead then newPhase .establish t else t) := by
    split
    · exact R.beside hdown rfl rfl rfl rfl rfl
    · exact hdown
  generalize (if t.phase ≠ .dead then newPhase .establish t else t) = u at hphase ⊢
  obtain ⟨hl, hview⟩ := R.padt "LCP Down" hphase
  refine ⟨⟨hl.lcp, hl.ipcp, hl.chap⟩, ?_⟩
  rw [← hview]
  have hmark : (sendPADT "LCP Down" u).sessionToBeDeleted = true := by
    unfold sendPADT
    split
    · assumption
    · rfl
  unfold lcpView protocolLog
  rw [hmark]

theorem TakenIn.down (h : TakenIn v s) : Downed v (lcpDown s) := by
  obtain ⟨u, go, hu, hgo, hf, hview⟩ := h.taken
  obtain ⟨hl, hdown⟩ := lcpView_lcpDown h.labelled
  refine ⟨hl, u, hu, ?_⟩
  rw [hdown, hview]
  exact .of_down hgo hf.protocol

theorem lcpLayer_course (v : LcpView) :
    LayerCourse lcpFsm lcpLayer (Reached v) (Downed v) (TakenIn v) where
  toCiCourse := lcpCi_course v
  layer := closing_true.link.layerRules
  starting := rfl
  down h := h.down

theorem lcpClose_course (v : LcpView) :
    CloseCourse lcpFsm lcpClose (Reached v) (Downed v) (TakenIn v) where
  toLayerCourse := lcpLayer_course v
  finished _ h := by
    rename_i s _
    have R := aside_reached v
    have hend : Reached v (onLCPTerminate s) := by
      unfold onLCPTerminate
      split
      · exact h
      · exact R.padt _ (R.beside (lowerDown_course (lcpLayer_course v) h) rfl rfl rfl rfl rfl)
    exact R.beside hend rfl rfl rfl rfl rfl

theorem Reached.close (h : Reached v s) (reason : String) : Reached v (lcpCloseFsm reason s) :=
  close_course (lcpClose_course v) reason h

/-- The options of a session: those asked for and those wanted. -/
def lcpAsks (s : Exec) : LcpOptions × LcpOptions := (s.lcp.go, s.lcp.wo)

theorem lcpAsks_lcpDown (s : Exec) : (lcpDown s).lcpAsks = s.lcpAsks := by
  unfold lcpDown lcpAsks
  dsimp only
  rw [lcp_onLCPDown]
  unfold echoLowerDown
  split <;> rfl

/-- Closed, LCP does not start anew when it has finished. -/
theorem lcpAsks_finished (hs : s.lcp.fsm.state = .closed) :
    (lcpClose.finished s).lcpAsks = s.lcpAsks := by
  have hl : lowerDown lcpFsm lcpLayer s = setState lcpFsm .initial s := by
    unfold lowerDown
    rw [lcpFsm_get, hs]
  show (noteFinished (onLCPTerminate s)).lcpAsks = _
  unfold noteFinished onLCPTerminate lcpAsks
  split
  · rfl
  · rw [lcp_sendPADT, hl]
    rfl

theorem lcpAsks_terminateLayer (s : Exec) :
    (terminateLayer lcpFsm lcpClose .closing s).lcpAsks = s.lcpAsks := by
  have hdown : (lcpClose.down (stopTimer lcpFsm s)).lcpAsks = s.lcpAsks := by
    refine (lcpAsks_lcpDown _).trans ?_
    unfold stopTimer
    split <;> rfl
  unfold terminateLayer
  dsimp only
  generalize lcpClose.down (stopTimer lcpFsm s) = t at hdown ⊢
  have hnext : (nextReqid lcpFsm (lcpFsm.upd (fun f => { f with
      retransmits := f.maxtermtransmits }) t)).lcpAsks = s.lcpAsks := hdown
  generalize nextReqid lcpFsm (lcpFsm.upd (fun f => { f with
    retransmits := f.maxtermtransmits }) t) = w at hnext ⊢
  generalize hu : sendData lcpFsm lcpClose.toCiSink TERMREQ (lcpFsm.get w).reqid
    (ascii (lcpFsm.get w).termReason) (ascii (lcpFsm.get w).termReason).length w = u
  have hlcp : u.lcp = w.lcp := hu ▸ lcp_sendData _ _ _ _ _
  have hsent : u.lcpAsks = s.lcpAsks := by
    rw [← hnext]
    unfold lcpAsks
    rw [hlcp]
  rw [if_pos rfl]
  split
  · rw [lcpAsks_finished (s := setState lcpFsm .closed u) rfl]
    exact hsent
  · exact hsent

/-- **Closing leaves the options alone.** -/
theorem lcpAsks_close (reason : String) (s : Exec) :
    (lcpCloseFsm reason s).lcpAsks = s.lcpAsks := by
  unfold lcpCloseFsm close
  dsimp only
  have hend := lcpAsks_terminateLayer (lcpFsm.upd (reasoned reason) s)
  cases (lcpFsm.get (lcpFsm.upd (reasoned reason) s)).state
  case reqSent => exact hend
  case ackRcvd => exact hend
  case ackSent => exact hend
  case opened => exact hend
  all_goals rfl

/-- LCP's sink with something else for `Up`. -/
def lcpSinkWith (up : Exec → Exec) : IFsmSink Exec := { lcpSink with up := up }

theorem lcpNakci_course (h : Reached v s) (p : Bytes) (n : Nat) (r : Bool) :
    TakenIn v (lcpNakci p n r s).2 ∧ 0 ≤ (lcpNakci p n r s).1 ∧
      ((lcpNakci p n r s).1 = 0 ∨ (lcpNakci p n r s).2.lcp.fsm.state.resting = true →
        Reached v (lcpNakci p n r s).2) := by
  have R := aside_reached v
  unfold lcpNakci
  rcases hscan : LcpOptions.nakScan s.lcp.go s.lcp.wo s.rand s.draws p n r with ⟨scan, draws⟩
  have hd : Reached v { s with draws := draws } := R.beside h rfl rfl rfl rfl rfl
  cases scan with
  | none => exact ⟨(lcpCi_course v).taken hd, le_refl 0, fun _ => hd⟩
  | some scan =>
    obtain ⟨tryop, loopedBack⟩ := scan
    dsimp only
    split
    · rename_i hs
      refine ⟨(lcpCi_course v).taken hd, zero_le_one, fun hr => ?_⟩
      rcases hr with h0 | h0
      · cases h0
      · rw [hs] at h0
        cases h0
    · dsimp only
      generalize hk : (if loopedBack = true then tryop.numloops + 1 else 0) = numloops
      -- the link may be closed in between; that leaves the options alone
      have hc : ∀ t, t = (if loopedBack && decide (numloops ≥ 4) then
          lcpCloseFsm "Loopback detected" { s with draws := draws } else { s with draws := draws }) →
          Reached v t ∧ t.lcpAsks = s.lcpAsks := by
        rintro t rfl
        split
        · exact ⟨hd.close _, lcpAsks_close _ _⟩
        · exact ⟨hd, rfl⟩
      generalize (if loopedBack && decide (numloops ≥ 4) then
          lcpCloseFsm "Loopback detected" { s with draws := draws } else { s with draws := draws })
        = t at hc ⊢
      obtain ⟨ht, hasks⟩ := hc t rfl
      have hgo : t.lcp.go = s.lcp.go := congrArg Prod.fst hasks
      have hwo : t.lcp.wo = s.lcp.wo := congrArg Prod.snd hasks
      have htakes : Takes t.lcpView.lcp { tryop with numloops := numloops } :=
        (Takes.nak (l := s.lcp) numloops hscan).congr hgo hwo
      have hl := ht.labelled
      refine ⟨⟨⟨hl.lcp, hl.ipcp, hl.chap⟩, t.lcpView, _, ht.deeds, htakes,
        ⟨rfl, rfl, rfl, rfl⟩, rfl⟩, zero_le_one, fun hr => ?_⟩
      have hr' : t.lcp.fsm.state.resting = true := hr.resolve_left (by decide)
      exact ⟨⟨hl.lcp, hl.ipcp, hl.chap⟩, ht.deeds.snoc (.take htakes hr')⟩

theorem lcpRejci_course (h : Reached v s) (p : Bytes) (n : Nat) :
    TakenIn v (lcpRejci p n s).2 ∧ 0 ≤ (lcpRejci p n s).1 ∧
      ((lcpRejci p n s).1 = 0 ∨ (lcpRejci p n s).2.lcp.fsm.state.resting = true →
        Reached v (lcpRejci p n s).2) := by
  have hl := h.labelled
  unfold lcpRejci
  cases hscan : LcpOptions.rejScan s.lcp.go p n with
  | none => exact ⟨(lcpCi_course v).taken h, le_refl 0, fun _ => h⟩
  | some tryop =>
    have htakes : Takes s.lcpView.lcp tryop := .rej hscan
    dsimp only
    split
    · rename_i hs
      refine ⟨(lcpCi_course v).taken h, zero_le_one, fun hr => ?_⟩
      rcases hr with h0 | h0
      · cases h0
      · rw [hs] at h0
        cases h0
    · refine ⟨⟨⟨hl.lcp, hl.ipcp, hl.chap⟩, s.lcpView, tryop, h.deeds, htakes,
        ⟨rfl, rfl, rfl, rfl⟩, rfl⟩, zero_le_one, fun hr => ?_⟩
      exact ⟨⟨hl.lcp, hl.ipcp, hl.chap⟩,
        h.deeds.snoc (.take htakes (hr.resolve_left (by decide)))⟩

/-- A Terminate-Request finds LCP open: the answer goes out, then `Down` is delivered. -/
theorem Reached.termAck (h : Reached v s) (id : UInt8) :
    Downed v (lcpDown (sendData lcpFsm lcpCi TERMACK id [] 0
      (lcpFsm.upd (fun f => { f with retransmits := 0, state := .stopping }) s))) := by
  have hl : Labelled (lcpFsm.upd (fun f => { f with retransmits := 0, state := .stopping }) s) :=
    h.labelled.upd fun _ => rfl
  obtain ⟨hd, hview⟩ := lcpView_lcpDown (hl.sendData TERMACK id [] 0)
  refine ⟨hd, s.lcpView.send TERMACK id [] 0, h.deeds.snoc (.answer id [] 0 rfl), ?_⟩
  rw [hview, lcpView_sendData hl, lcpView_upd, ← LcpView.withFsm_send]
  have hfall := Fallen.of_down (v := s.lcpView.send TERMACK id [] 0) .same
    (f := { s.lcp.fsm with retransmits := 0, state := .stopping }) (by rw [LcpView.send_lcp]; rfl)
  exact hfall

/-- **LCP's automaton in deeds**, with a state that is not open in place of coming up. -/
theorem lcp_course (v : LcpView) :
    FsmCourse lcpFsm (lcpSinkWith (setState lcpFsm .stopped)) (Reached v) (Downed v) (TakenIn v) where
  toCloseCourse := lcpClose_course v
  fsm := { Outlet.rules (A := fun _ => True)
    ⟨fun _ _ => trivial, fun _ _ => trivial, fun _ _ => trivial⟩ with up := fun _ _ _ => trivial }
  ackci _ _ h := h
  nakci p n r h := lcpNakci_course h p n r
  rejci p n h := lcpRejci_course h p n
  reqci _ _ _ h := ⟨⟨h.labelled.lcp, h.labelled.ipcp, h.labelled.chap⟩, h.deeds⟩
  verdict _ _ _ _ := Conf.code_cases _
  termAck id _ h := by
    -- without the rewriting the two sides are compared by running `sendData`
    exact h.termAck id
  up hs h := by
    rename_i s
    refine ⟨⟨h.labelled.lcp, h.labelled.ipcp, h.labelled.chap⟩, ?_⟩
    exact h.deeds.snoc (.rest (q := .stopped) rfl fun e => by
      have hs : s.lcp.fsm.state.negotiating = true := hs
      rw [show s.lcp.fsm.state = .opened from e] at hs
      cases hs)

end Exec

end OpenBras
