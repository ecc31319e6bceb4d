/-
  File:      OpenBras/PPP/IpcpRules.lean
  Subject:   RULES FOR IPCP INSIDE A SESSION: what an invariant of the session must satisfy so
             that every method of IPCP keeps it.

  IPCP's callbacks touch its own record, the output, the subscribers and the deletion mark.
  `IpcpOwner` has one rule for each of these, `IpcpUpOwner` also for the two things only a
  received packet does: acknowledging the peer's request and coming up. An invariant that does
  not depend on where IPCP stands needs less (`Blind`).
-/
import OpenBras.PPP.FsmRules
import OpenBras.PPP.Ppp

namespace OpenBras

open Wire

namespace IpcpOptions

/-! ## 1. What `Reqci` leaves alone and what it acknowledges -/

/-- The address assigned to the peer, and whether it may choose another. -/
structure SameAddress (wo wo' : IpcpOptions) : Prop where
  hisaddr : wo'.hisaddr = wo.hisaddr
  acceptRemote : wo'.acceptRemote = wo.acceptRemote

variable (wo : IpcpOptions) {ao : IpcpOptions} {r : Bool}

theorem judgeAddrs_wo (ho ao : IpcpOptions) (r : Bool) (ci : Ci) :
    SameAddress wo (judgeAddrs wo ho ao r ci).wo := by
  unfold judgeAddrs
  dsimp only
  split
  · exact ⟨rfl, rfl⟩
  split
  · exact ⟨rfl, rfl⟩
  · dsimp only
    split <;> exact ⟨rfl, rfl⟩

theorem judgeAddr_wo (ho ao : IpcpOptions) (r : Bool) (ci : Ci) :
    SameAddress wo (judgeAddr wo ho ao r ci).wo := by
  unfold judgeAddr
  dsimp only
  split
  · exact ⟨rfl, rfl⟩
  · split
    · exact ⟨rfl, rfl⟩
    · split <;> exact ⟨rfl, rfl⟩

theorem judgeServer_wo (ours : UInt32) (wo ho : IpcpOptions) (ci : Ci) :
    (judgeServer ours wo ho ci).wo = wo := by
  unfold judgeServer
  split
  · rfl
  · split <;> rfl

theorem judgeVj_wo (ho ao : IpcpOptions) (r : Bool) (ci : Ci) :
    (judgeVj wo ho ao r ci).wo = wo := by
  unfold judgeVj
  split
  · rfl
  · split
    · rfl
    · split <;> rfl

theorem judge_wo (ho ao : IpcpOptions) (r : Bool) (ci : Ci) :
    SameAddress wo (judge wo ho ao r ci).wo := by
  have same : ∀ {wo' : IpcpOptions}, wo' = wo → SameAddress wo wo' := by
    rintro _ rfl
    exact ⟨rfl, rfl⟩
  unfold judge
  split
  · exact same rfl
  split
  · exact judgeAddrs_wo wo ho ao r ci
  split
  · exact judgeAddr_wo wo ho ao r ci
  split
  · exact same (judgeServer_wo _ wo ho ci)
  split
  · exact same (judgeServer_wo _ wo ho ci)
  · split
    · exact same (judgeVj_wo wo ho ao r ci)
    · exact same rfl

theorem reqciStep_wo (ao : IpcpOptions) (r : Bool) (a : ReqAcc) (ci : Ci) :
    SameAddress a.wo (reqciStep ao r a ci).wo := by
  have hj := judge_wo a.wo a.ho ao r ci
  unfold reqciStep
  dsimp only
  repeat' split
  all_goals exact hj

theorem foldl_reqciStep_wo (ao : IpcpOptions) (r : Bool) (l : List Ci) (a : ReqAcc) :
    SameAddress a.wo (l.foldl (reqciStep ao r) a).wo := by
  induction l generalizing a with
  | nil => exact ⟨rfl, rfl⟩
  | cons ci l ih =>
    have h1 := reqciStep_wo ao r a ci
    have h2 := ih (reqciStep ao r a ci)
    exact ⟨h2.1.trans h1.1, h2.2.trans h1.2⟩

theorem reqciRun_wo (ao : IpcpOptions) (r noremoteip : Bool) (inp : Bytes) (len : Nat) :
    SameAddress wo (reqciRun wo ao r noremoteip inp len).wo := by
  have h := foldl_reqciStep_wo ao r (options inp len) { wo := wo }
  unfold reqciRun reqciAddr
  split
  · split
    · exact ⟨h.1, h.2⟩
    · exact h
  · exact h

/-- A peer that may not choose its address has one address option acknowledged only: the one
    that asks for the address assigned to it. -/
theorem judge_ack_addr {wo ho : IpcpOptions} {ci : Ci} (hw : wo.acceptRemote = false)
    (hs : ci.sound = true) (hc : ci.citype = CI_ADDR) (h : (judge wo ho ao r ci).orc = .ack) :
    addrAt ci.cip 2 = wo.hisaddr := by
  have hj : judge wo ho ao r ci = judgeAddr wo ho ao r ci := by
    unfold judge
    rw [hs, hc]
    rfl
  rw [hj] at h
  unfold judgeAddr at h
  dsimp only at h
  split at h
  · cases h
  split at h
  · cases h
  · rename_i hd
    simpa [disagrees, hw] using hd

/-- The answer is an Ack only if every option before and this one are acknowledged. -/
theorem reqciStep_ack {a : ReqAcc} {ci : Ci} (h : (reqciStep ao r a ci).rc = .ack) :
    a.rc = .ack ∧ (judge a.wo a.ho ao r ci).orc = .ack := by
  unfold reqciStep at h
  dsimp only at h
  cases hj : (judge a.wo a.ho ao r ci).orc with
  | ack =>
    rw [hj] at h
    dsimp only at h
    split at h
    · exact ⟨h, rfl⟩
    · exact ⟨h, rfl⟩
  | nak =>
    rw [hj] at h
    dsimp only at h
    split at h
    · cases h
    split at h
    · rename_i hr
      exact absurd (hr.symm.trans h) nofun
    · cases h
  | rej =>
    rw [hj] at h
    cases h

theorem foldl_reqciStep_ack {l : List Ci} {a : ReqAcc} (h : (l.foldl (reqciStep ao r) a).rc = .ack) :
    a.rc = .ack ∧ ∀ ci ∈ l, ∃ wo ho, SameAddress a.wo wo ∧ (judge wo ho ao r ci).orc = .ack := by
  induction l generalizing a with
  | nil => exact ⟨h, nofun⟩
  | cons ci l ih =>
    have same := reqciStep_wo ao r a ci
    obtain ⟨hrc, hrest⟩ := ih h
    obtain ⟨ha, hj⟩ := reqciStep_ack hrc
    refine ⟨ha, fun c hc => ?_⟩
    rcases List.mem_cons.mp hc with rfl | hc
    · exact ⟨a.wo, a.ho, ⟨rfl, rfl⟩, hj⟩
    · obtain ⟨wo, ho, hw, hj⟩ := hrest c hc
      exact ⟨wo, ho, ⟨hw.1.trans same.1, hw.2.trans same.2⟩, hj⟩

/-- **Every option of an acknowledged request was acknowledged**, with the assigned address as
    it was before. -/
theorem reqciRun_acked {wo : IpcpOptions} {noremoteip : Bool} {inp : Bytes} {len : Nat}
    (h : (reqciRun wo ao r noremoteip inp len).rc = .ack) :
    ∀ ci ∈ options inp len,
      ∃ wo' ho, SameAddress wo wo' ∧ (judge wo' ho ao r ci).orc = .ack := by
  unfold reqciRun reqciAddr at h
  split at h
  · cases h
  · exact (foldl_reqciStep_ack h).2

/-- **An acknowledged request asks for the address assigned to the peer**, if the peer may not
    choose. -/
theorem reqciRun_ack {wo : IpcpOptions} {noremoteip : Bool} {inp : Bytes} {len : Nat}
    (hw : wo.acceptRemote = false) (h : (reqciRun wo ao r noremoteip inp len).rc = .ack) :
    ∀ ci ∈ options inp len, ci.sound = true → ci.citype = CI_ADDR →
      addrAt ci.cip 2 = wo.hisaddr := by
  intro ci hci hs hc
  obtain ⟨wo', ho, same, hj⟩ := reqciRun_acked h ci hci
  exact (judge_ack_addr (same.acceptRemote.trans hw) hs hc hj).trans same.hisaddr

end IpcpOptions

/-- The terms offered to the peer are the same: its address, the servers, and -- unless its
    address is unknown -- whether it may choose another address. -/
structure SameTerms (i i' : CPPPIPCP) : Prop where
  ao : i'.ao = i.ao
  hisaddr : i'.wo.hisaddr = i.wo.hisaddr
  acceptRemote : i'.wo.acceptRemote = true → i.wo.acceptRemote = true ∨ i.wo.hisaddr = 0

namespace SameTerms

theorem of_wo {i i' : CPPPIPCP} (hao : i'.ao = i.ao) (hwo : i'.wo = i.wo) : SameTerms i i' :=
  ⟨hao, by rw [hwo], fun h => Or.inl (by rwa [hwo] at h)⟩

theorem reset (i : CPPPIPCP) : SameTerms i (Exec.ipcpReset i) := by
  refine ⟨rfl, rfl, fun h => ?_⟩
  simpa [Exec.ipcpReset, IpcpOptions.resetWant] using h

end SameTerms

namespace Exec

open CPPPFsm

variable (s : Exec) (p : Bytes)

@[simp] theorem ipcpFsm_get : ipcpFsm.get s = s.ipcp.fsm := rfl

@[simp] theorem lcpFsm_get : lcpFsm.get s = s.lcp.fsm := rfl

/-! ## 2. Rules by standing -/

structure IpcpOwner (I : Stand → Exec → Prop) : Prop where
  terms : ∀ {c s i}, SameTerms s.ipcp i → I c s → I c { s with ipcp := i }
  output : ∀ {c s} p, I c s → I c (onPPPOutput p s)
  acked : ∀ {s}, I .acked s → I .idle s
  ending : ∀ {s}, I .ending s → I .idle s
  down : ∀ {s}, I .up s → I .idle (onIPCPDown s) ∧ I .ending (onIPCPDown s)

structure IpcpUpOwner (I : Stand → Exec → Prop) : Prop extends IpcpOwner I where
  ack : ∀ {s} inp len r, I .idle s →
    (reqciRun r inp len s.ipcp).rc = .ack →
    I .acked (noteAcked inp len s)
  up : ∀ {s}, I .acked s → refusal s.ipcp = none → I .up (onIPCPUp s)
  refused : ∀ {s}, I .acked s → refusal s.ipcp ≠ none → I .ending (onIPCPDown s)

@[simp] theorem ipcp_onPPPOutput (s : Exec) : (onPPPOutput p s).ipcp = s.ipcp := by
  unfold onPPPOutput
  repeat' split
  all_goals rfl

@[simp] theorem ipcp_sendPADT (reason : String) (s : Exec) :
    (sendPADT reason s).ipcp = s.ipcp := by
  unfold sendPADT
  split <;> rfl

@[simp] theorem ipcp_onIPCPDown : (onIPCPDown s).ipcp = s.ipcp := ipcp_sendPADT _ _

@[simp] theorem ipcp_onIPCPUp : (onIPCPUp s).ipcp = s.ipcp := by
  unfold onIPCPUp
  repeat' split
  all_goals rfl

section Owner

variable {I : Stand → Exec → Prop}

theorem IpcpOwner.ciRules (R : IpcpOwner I) : CiRules ipcpFsm ipcpCi I where
  fsm _ s f h := R.terms (i := { s.ipcp with fsm := f }) (.of_wo rfl rfl) h
  acked _ h := R.acked h
  resetci s := ⟨rfl, fun _ h => R.terms (SameTerms.reset s.ipcp) h⟩
  cilen _ := ⟨rfl, fun _ h => R.terms (.of_wo rfl rfl) h⟩
  addci _ _ := ⟨rfl, fun _ h => R.terms (.of_wo rfl rfl) h⟩
  outputPacket p s := ⟨by simp [ipcpCi], fun _ h => R.output p h⟩

theorem IpcpOwner.layerRules (R : IpcpOwner I) : LayerRules ipcpFsm ipcpLayer I where
  toCiRules := R.ciRules
  ending _ h := R.ending h
  starting s hs h := by
    refine lowerUp_keeps R.ciRules ?_
    unfold CPPPFsm.Inv
    rw [hs]
    exact h
  down_fsm s := by simp [ipcpLayer]
  down _ h := R.down h

theorem IpcpOwner.closeRules (R : IpcpOwner I) : CloseRules ipcpFsm ipcpClose I where
  toLayerRules := R.layerRules
  finished s hs h := by
    show I s.ipcp.fsm.state.stand _
    refine R.terms (i := { s.ipcp with isOpen := false }) (.of_wo rfl rfl) ?_
    rw [ipcpFsm_get] at hs
    rcases hs with hs | hs <;> rw [hs] <;> exact R.ending h

theorem IpcpOwner.timerRules (R : IpcpOwner I) : TimerRules ipcpFsm ipcpSink I where
  toCloseRules := R.closeRules
  retransmit _ := ⟨rfl, fun _ h => h⟩

@[simp] theorem fsm_ipcpGot (t : Option IpcpOptions) (s : Exec) :
    (ipcpGot t s).2.ipcp.fsm = s.ipcp.fsm := by
  unfold ipcpGot
  repeat' split
  all_goals rfl

variable {s : Exec}

theorem IpcpOwner.got (R : IpcpOwner I) (t : Option IpcpOptions) {c : Stand} (h : I c s) :
    I c (ipcpGot t s).2 := by
  unfold ipcpGot
  repeat' split
  · exact h
  · exact h
  · exact R.terms (.of_wo rfl rfl) h

theorem sameTerms_reqci (inp : Bytes) (len : Nat) (r : Bool) (s : Exec) :
    SameTerms s.ipcp (ipcpReqci inp len r s).2.ipcp := by
  have h := IpcpOptions.reqciRun_wo s.ipcp.wo s.ipcp.ao r s.ipcp.noremoteip inp len
  exact ⟨rfl, h.hisaddr, fun ha => Or.inl (h.acceptRemote ▸ ha)⟩

theorem IpcpOwner.assumeHisaddr (R : IpcpOwner I) {c : Stand} (h : I c s) :
    (assumeHisaddr s).ipcp.fsm = s.ipcp.fsm ∧ I c (assumeHisaddr s) := by
  unfold Exec.assumeHisaddr
  split
  · exact ⟨rfl, R.terms (.of_wo rfl rfl) h⟩
  · exact ⟨rfl, h⟩

theorem IpcpOwner.up_keeps (R : IpcpOwner I) (hs : s.ipcp.fsm.state = .opened)
    (hup : refusal (Exec.assumeHisaddr s).ipcp = none → I .up (onIPCPUp (Exec.assumeHisaddr s)))
    (href : ∀ {t}, I .acked t → refusal t.ipcp ≠ none → I .ending (onIPCPDown t)) (h : I .acked s) :
    Inv ipcpFsm I (ipcpUp s) := by
  unfold ipcpUp
  obtain ⟨hfsm, hj⟩ := R.assumeHisaddr h
  generalize Exec.assumeHisaddr s = t at hfsm hj hup ⊢
  dsimp only
  cases hr : refusal t.ipcp with
  | none =>
    show I _ _
    rw [ipcpFsm_get, ipcp_onIPCPUp, hfsm, hs]
    exact hup hr
  | some reason =>
    refine close_ends R.closeRules reason (fun _ f => ?_) fun hn _ => ?_
    · refine href (R.terms (i := { t.ipcp with fsm := f }) (.of_wo rfl rfl) hj) ?_
      show refusal t.ipcp ≠ none
      rw [hr]
      simp
    · rw [ipcpFsm_get, hfsm] at hn
      exact absurd hs hn

theorem IpcpOwner.rulesWith (R : IpcpOwner I)
    (hack : ∀ {s} inp len r, I .idle s →
      (reqciRun r inp len s.ipcp).rc = .ack →
      I .acked (noteAcked inp len s))
    {u : Exec → Exec}
    (hup : ∀ s, s.ipcp.fsm.state = .opened → I .acked s → Inv ipcpFsm I (u s)) :
    FsmRules ipcpFsm { ipcpSink with up := u } I where
  toTimerRules := { toCloseRules := R.closeRules, retransmit := fun _ => ⟨rfl, fun _ h => h⟩ }
  ackci _ _ _ := ⟨rfl, fun _ h => h⟩
  rejci _ _ s := ⟨fsm_ipcpGot _ s, fun _ h => R.got _ h⟩
  extCode _ _ _ _ _ := ⟨rfl, fun _ h => h⟩
  reqci_fsm _ _ _ _ := rfl
  reqci inp len r s h := by
    have ht := sameTerms_reqci inp len r s
    by_cases ha : (reqciRun r inp len s.ipcp).rc = .ack
    · have h' := R.acked (hack inp len r h ha)
      have := R.terms (s := noteAcked inp len s) ht h'
      simpa [ipcpSink, ipcpReqci, ha] using this
    · have := R.terms ht h
      simpa [ipcpSink, ipcpReqci, ha] using this
  reqci_ack inp len r s h hv := by
    have ht := sameTerms_reqci inp len r s
    have ha : (reqciRun r inp len s.ipcp).rc = .ack := by
      simp only [ipcpSink, ipcpReqci] at hv
      cases hc : (reqciRun r inp len s.ipcp).rc <;>
        rw [hc] at hv <;> simp [Conf.code, confAck, confNak, confRej] at hv ⊢
    have := R.terms (s := noteAcked inp len s) ht
      (hack inp len r h ha)
    simpa [ipcpSink, ipcpReqci, ha] using this
  up s hs h := hup s hs h

/-- **A packet keeps the invariant**, whatever `Up` is. -/
theorem IpcpOwner.inputWith (R : IpcpOwner I) {u : Exec → Exec}
    (F : FsmRules ipcpFsm { ipcpSink with up := u } I) (p : Bytes) (n : Nat)
    (h : Inv ipcpFsm I s) :
    Inv ipcpFsm I (CPPPFsm.input ipcpFsm { ipcpSink with up := u } p n s) := by
  refine input_keeps F p n (fun _ _ _ _ t _ ht => ?_) h
  show I _ _
  rw [ipcpFsm_get, show (ipcpSink.nakci _ _ _ t).2.ipcp.fsm = t.ipcp.fsm from fsm_ipcpGot _ t]
  exact R.got _ ht

theorem IpcpUpOwner.rules (R : IpcpUpOwner I) : FsmRules ipcpFsm ipcpSink I :=
  R.toIpcpOwner.rulesWith R.ack fun _ hs h =>
    R.up_keeps hs (R.up (R.assumeHisaddr h).2) R.refused h

theorem IpcpUpOwner.input (R : IpcpUpOwner I) (p : Bytes) (n : Nat) (h : Inv ipcpFsm I s) :
    Inv ipcpFsm I (CPPPFsm.input ipcpFsm ipcpSink p n s) :=
  R.toIpcpOwner.inputWith (u := ipcpUp) R.rules p n h

end Owner

/-! ## 3. Invariants that do not see where IPCP stands -/

structure Blind (A : Exec → Prop) : Prop where
  ipcp : ∀ {s} i, A s → A { s with ipcp := i }
  output : ∀ {s} p, A s → A (onPPPOutput p s)
  down : ∀ {s}, A s → A (onIPCPDown s)

namespace Blind

variable {A : Exec → Prop} (R : Blind A)

include R

theorem owner : IpcpOwner fun _ => A where
  terms _ h := R.ipcp _ h
  output p h := R.output p h
  acked h := h
  ending h := h
  down h := ⟨R.down h, R.down h⟩

variable {s : Exec}

theorem lowerDown (h : A s) : A (ipcpLowerDown s) :=
  lowerDown_keeps R.owner.layerRules h

theorem close (reason : String) (h : A s) : A (ipcpCloseFsm reason s) :=
  close_keeps R.owner.closeRules reason (fun _ _ ht => R.owner.down ht) h

theorem fsmOpen (h : A s) : A (CPPPFsm.fsmOpen ipcpFsm ipcpLayer s) :=
  fsmOpen_keeps R.owner.layerRules h

theorem timeout (h : A s) : A (ipcpTimeout s) :=
  timeout_keeps R.owner.timerRules (fun _ _ _ => R.ipcp _ (R.ipcp _ h)) h

/-- A packet may also acknowledge the peer's request and bring IPCP up. -/
theorem input (hack : ∀ {s} x, A s → A { s with hist := { s.hist with acked := x } })
    (hup : ∀ {s}, A s → A (onIPCPUp s)) (p : Bytes) (n : Nat) (h : A s) :
    A (CPPPFsm.input ipcpFsm ipcpSink p n s) := by
  have U : IpcpUpOwner fun _ => A :=
    { R.owner with
      ack := fun _ _ _ h _ => hack _ h
      up := fun h _ => hup h
      refused := fun h _ => R.down h }
  exact U.input p n h

theorem and {B : Exec → Prop} (S : Blind B) : Blind fun s => A s ∧ B s where
  ipcp i h := ⟨R.ipcp i h.1, S.ipcp i h.2⟩
  output p h := ⟨R.output p h.1, S.output p h.2⟩
  down h := ⟨R.down h.1, S.down h.2⟩

end Blind

/-- A predicate of IPCP's standing and one that does not see it. -/
theorem IpcpOwner.and {I : Stand → Exec → Prop} {A : Exec → Prop} (R : IpcpOwner I)
    (S : Blind A) : IpcpOwner fun c s => I c s ∧ A s where
  terms ht h := ⟨R.terms ht h.1, S.ipcp _ h.2⟩
  output p h := ⟨R.output p h.1, S.output p h.2⟩
  acked h := ⟨R.acked h.1, h.2⟩
  ending h := ⟨R.ending h.1, h.2⟩
  down h := ⟨⟨(R.down h.1).1, S.down h.2⟩, (R.down h.1).2, S.down h.2⟩

theorem of_erased {A : Exec → Prop} (erase : Exec → Exec) (hA : ∀ s, A (erase s) ↔ A s)
    {s t : Exec} (h : erase t = erase s) (hs : A s) : A t :=
  (hA t).mp (h ▸ (hA s).mpr hs)

/-- What IPCP's methods leave alone: everything but its own record, the output, the
    subscribers and the deletion mark. -/
def outsideIpcp (s : Exec) : Exec :=
  { s with
    ipcp := {}, sessionToBeDeleted := false, oneOffTimer := false,
    hist := { s.hist with output := [], padts := [], subscribers := [], acked := none } }

theorem outsideIpcp_sendPADT (reason : String) (s : Exec) :
    (sendPADT reason s).outsideIpcp = s.outsideIpcp := by
  unfold sendPADT
  split <;> rfl

theorem outsideIpcp_onIPCPUp : (onIPCPUp s).outsideIpcp = s.outsideIpcp := by
  unfold onIPCPUp
  repeat' split
  all_goals rfl

theorem outsideIpcp_onPPPOutput (s : Exec) : (onPPPOutput p s).outsideIpcp = s.outsideIpcp := by
  unfold onPPPOutput
  repeat' split
  all_goals rfl

theorem Blind.of_outsideIpcp {A : Exec → Prop} (hA : ∀ s, A (outsideIpcp s) ↔ A s) : Blind A where
  ipcp {s} _ h := of_erased (s := s) outsideIpcp hA rfl h
  output p h := of_erased outsideIpcp hA (outsideIpcp_onPPPOutput p _) h
  down {s} h := of_erased (s := s) outsideIpcp hA (outsideIpcp_sendPADT _ (onDelSubscriber s)) h

theorem blind_outsideIpcp (x : Exec) : Blind fun s => s.outsideIpcp = x :=
  .of_outsideIpcp fun _ => Iff.rfl

/-- The history of a packet for IPCP or of `Open`. -/
def noteNcp (s : Exec) : Exec :=
  { s with hist := { s.hist with ncp := s.authenticated :: s.hist.ncp } }

theorem outsideIpcp_ipcpInput (n : Nat) (s : Exec) :
    (ipcpInput p n s).outsideIpcp = (noteNcp s).outsideIpcp :=
  (blind_outsideIpcp _).input (fun _ h => h) (fun h => (outsideIpcp_onIPCPUp _).trans h) p n rfl

theorem outsideIpcp_ipcpOpen : (ipcpOpen s).outsideIpcp = (noteNcp s).outsideIpcp :=
  (blind_outsideIpcp _).fsmOpen rfl

theorem outsideIpcp_ipcpTimeout : (ipcpTimeout s).outsideIpcp = s.outsideIpcp :=
  (blind_outsideIpcp _).timeout rfl

@[simp] theorem lcp_ipcpInput (n : Nat) (s : Exec) : (ipcpInput p n s).lcp = s.lcp :=
  congrArg (·.lcp) (outsideIpcp_ipcpInput p n s)

@[simp] theorem phase_ipcpInput (n : Nat) (s : Exec) :
    (ipcpInput p n s).phase = s.phase := congrArg (·.phase) (outsideIpcp_ipcpInput p n s)

@[simp] theorem lcp_ipcpOpen : (ipcpOpen s).lcp = s.lcp :=
  congrArg (·.lcp) (outsideIpcp_ipcpOpen s)

@[simp] theorem phase_ipcpOpen : (ipcpOpen s).phase = s.phase :=
  congrArg (·.phase) (outsideIpcp_ipcpOpen s)

@[simp] theorem lcp_ipcpTimeout : (ipcpTimeout s).lcp = s.lcp :=
  congrArg (·.lcp) (outsideIpcp_ipcpTimeout s)

@[simp] theorem phase_ipcpTimeout : (ipcpTimeout s).phase = s.phase :=
  congrArg (·.phase) (outsideIpcp_ipcpTimeout s)

end Exec

end OpenBras
