/-
  File:      OpenBras/PPP/Assigned.lean
  Subject:   THE ADDRESS A SUBSCRIBER GETS ACKNOWLEDGED (`CPPPIPCP`, src/PPP/CPPPIPCP.cpp): IPCP on
             its own, with its methods and setters called in any order.

  `IpcpEvent` are the calls `CPPP` and the timer queue make, the packets of the peer and the four
  setters; a run starts with `Init` in any session. The request a packet has judged, and the
  state it is judged in, are `reqciCall`: in `STOPPED` and `OPENED` our own request goes out
  first and resets the options.

  **Result.** `acked_addresses_iff`: in a state with an assigned address every request that would be
  acknowledged names that address only -- exactly if `accept_remote` is not set. `Resetci` sets
  it when it finds no address assigned, and nothing takes it back when one is assigned later;
  `acceptRemote_unset` says how to keep it unset.
-/
import OpenBras.PPP.IpcpRules
import OpenBras.Lib.Run

namespace OpenBras

open Wire

namespace Exec

open CPPPFsm

/-! ## 1. IPCP on its own -/

inductive IpcpEvent where
  | open_
  | close (reason : String)
  | lowerUp
  | lowerDown
  | protrej
  | input (packet : Bytes) (size : Nat)
  | timeout
  | setMyIP (myIP : UInt32)
  | setSubscriberIP (hisIP : UInt32)
  | setPrimaryDNS (dns : UInt32)
  | setSecondaryDNS (dns : UInt32)
  deriving DecidableEq, Repr

def setMyIP (myIP : UInt32) (s : Exec) : Exec :=
  { s with ipcp := { s.ipcp with wo := { s.ipcp.wo with ouraddr := myIP } } }

def setSubscriberIP (hisIP : UInt32) (s : Exec) : Exec :=
  { s with ipcp := { s.ipcp with wo := { s.ipcp.wo with hisaddr := hisIP } } }

def setPrimaryDNS (dns : UInt32) (s : Exec) : Exec :=
  { s with ipcp := { s.ipcp with ao := { s.ipcp.ao with dnsaddr0 := dns } } }

def setSecondaryDNS (dns : UInt32) (s : Exec) : Exec :=
  { s with ipcp := { s.ipcp with ao := { s.ipcp.ao with dnsaddr1 := dns } } }

/-- One call. `Protrej` calls `LowerDown`, not the automaton's `ProtReject`. -/
def ipcpStep (s : Exec) : IpcpEvent → Exec
  | .open_ => ipcpOpen s
  | .close reason => ipcpCloseFsm reason s
  | .lowerUp => CPPPFsm.lowerUp ipcpFsm ipcpCi s
  | .lowerDown | .protrej => ipcpLowerDown s
  | .input packet size => ipcpInput packet size s
  | .timeout => ipcpTimeout s
  | .setMyIP myIP => setMyIP myIP s
  | .setSubscriberIP hisIP => setSubscriberIP hisIP s
  | .setPrimaryDNS dns => setPrimaryDNS dns s
  | .setSecondaryDNS dns => setSecondaryDNS dns s

/-- A call of the automaton, not of a setter. -/
def IpcpEvent.automaton : IpcpEvent → Bool
  | .setMyIP _ | .setSubscriberIP _ | .setPrimaryDNS _ | .setSecondaryDNS _ => false
  | _ => true

/-! ## 2. What every call keeps -/

/-- A predicate of IPCP's terms is kept by every call of the automaton. -/
structure TermsRule (A : CPPPIPCP → Prop) : Prop where
  terms : ∀ {i i'}, SameTerms i i' → A i → A i'

theorem TermsRule.upOwner {A : CPPPIPCP → Prop} (R : TermsRule A) :
    IpcpUpOwner fun _ s => A s.ipcp where
  terms ht h := R.terms ht h
  output p h := by rwa [ipcp_onPPPOutput]
  acked h := h
  ending h := h
  down h := by
    rw [ipcp_onIPCPDown]
    exact ⟨h, h⟩
  ack _ _ _ h _ := h
  up h _ := by rwa [ipcp_onIPCPUp]
  refused h _ := by rwa [ipcp_onIPCPDown]

theorem TermsRule.automaton {A : CPPPIPCP → Prop} (R : TermsRule A) {s : Exec} {e : IpcpEvent}
    (he : e.automaton = true) (h : A s.ipcp) : A (ipcpStep s e).ipcp := by
  have O := R.upOwner
  cases e with
  | open_ =>
    have hopen : A { s.ipcp with isOpen := true } := R.terms (i := s.ipcp) (.of_wo rfl rfl) h
    exact fsmOpen_keeps O.layerRules hopen
  | close reason => exact close_keeps O.closeRules reason (fun _ _ ht => O.down ht) h
  | lowerUp => exact lowerUp_keeps O.ciRules h
  | lowerDown | protrej => exact lowerDown_keeps O.layerRules h
  | input packet size =>
    exact O.input (s := noteNcp s) packet size h
  | timeout =>
    exact timeout_keeps O.timerRules
      (fun _ _ _ => R.terms (.of_wo rfl rfl) (R.terms (i := s.ipcp) (.of_wo rfl rfl) h)) h
  | _ => cases he

/-- The options we allow are those of `Init`, but for the name servers. -/
structure Allowing (i : CPPPIPCP) : Prop where
  negAddr : i.ao.negAddr = true
  oldAddrs : i.ao.oldAddrs = true
  negVj : i.ao.negVj = false

theorem allowing_terms : TermsRule Allowing where
  terms ht h := by
    obtain ⟨h1, h2, h3⟩ := h
    rw [← ht.ao] at h1 h2 h3
    exact ⟨h1, h2, h3⟩

theorem allowing_step {s : Exec} (e : IpcpEvent) (h : Allowing s.ipcp) :
    Allowing (ipcpStep s e).ipcp := by
  by_cases he : e.automaton = true
  · exact allowing_terms.automaton he h
  cases e with
  | setMyIP | setSubscriberIP | setPrimaryDNS | setSecondaryDNS =>
    exact ⟨h.negAddr, h.oldAddrs, h.negVj⟩
  | _ => exact absurd rfl he

theorem allowing_run (s : Exec) (evs : List IpcpEvent) :
    Allowing (run ipcpStep (ipcpInit s) evs).ipcp :=
  run_keeps (I := fun s : Exec => Allowing s.ipcp) (fun _ e h => allowing_step e h)
    ⟨rfl, rfl, rfl⟩ evs

/-- **Where the automaton is called only with an address assigned, `accept_remote` is never
    set.** -/
theorem acceptRemote_unset {s : Exec} {evs : List IpcpEvent} (h0 : s.ipcp.wo.acceptRemote = false)
    (h : Along ipcpStep (fun s e => e.automaton = true → s.ipcp.wo.hisaddr ≠ 0) s evs) :
    (run ipcpStep s evs).ipcp.wo.acceptRemote = false := by
  induction evs generalizing s with
  | nil => exact h0
  | cons e evs ih =>
    refine ih ?_ h.2
    by_cases he : e.automaton = true
    · have R : TermsRule fun i => i.wo.acceptRemote = false ∧ i.wo.hisaddr ≠ 0 :=
        { terms := fun ht hi => by
            refine ⟨Bool.eq_false_iff.mpr fun ha => ?_, by rw [ht.hisaddr]; exact hi.2⟩
            rcases ht.acceptRemote ha with ha | hz
            · exact absurd (hi.1.symm.trans ha) Bool.false_ne_true
            · exact hi.2 hz }
      exact (R.automaton he ⟨h0, h.1 he⟩).1
    · cases e with
      | setMyIP | setSubscriberIP | setPrimaryDNS | setSecondaryDNS => exact h0
      | _ => exact absurd rfl he

/-! ## 3. The request a packet has judged -/

/-- The states a Configure-Request is answered in. -/
def answers : FsmState → Bool
  | .reqSent | .ackRcvd | .ackSent | .stopped | .opened => true
  | _ => false

end Exec

namespace CPPPFsm

section Asked

variable {σ : Type} {L : Lens σ CPPPFsm} {K : IFsmSink σ}

/-- The state `Reqci` is called in: from `STOPPED` and `OPENED` our own request goes out first. -/
def asked (L : Lens σ CPPPFsm) (K : IFsmSink σ) (s : σ) : σ :=
  match (L.get s).state with
  | .stopped => setState L .reqSent (sendConfReq L K.toCiSink false s)
  | .opened => setState L .reqSent (sendConfReq L K.toCiSink false (K.down s))
  | _ => s

theorem rcvConfReq_asked {s : σ} (h : Exec.answers (L.get s).state = true) (id : UInt8)
    (inp : Bytes) (len : Nat) :
    rcvConfReq L K id inp len s = answerConfReq L K id inp len (asked L K s) := by
  unfold rcvConfReq asked
  cases hq : (L.get s).state <;> rw [hq] at h <;> first | rfl | exact absurd h Bool.false_ne_true

/-- What our own request and going down keep holds in the state `Reqci` is called in. -/
theorem asked_keeps {A : σ → Prop} (R : CiRules L K.toCiSink fun _ => A)
    (hdown : ∀ {s}, A s → A (K.down s)) {s : σ} (h : A s) : A (asked L K s) := by
  have hsend : ∀ {t : σ}, A t → A (setState L .reqSent (sendConfReq L K.toCiSink false t)) :=
    fun ht => R.fsm .idle _ _ (sendConfReq_keeps R (c := .idle) false ht)
  unfold asked
  split
  · exact hsend h
  · exact hsend (hdown h)
  · exact h

end Asked

end CPPPFsm

namespace Exec

open CPPPFsm

/-- The state IPCP's `Reqci` is called in. -/
def reqciState (s : Exec) : Exec := asked ipcpFsm ipcpSink s

/-- A call of `Reqci`: the state, the request and `reject_if_disagree`. -/
structure ReqciCall where
  state : Exec
  inp : Bytes
  len : Nat
  rejectIfDisagree : Bool

/-- The call of `Reqci` a packet leads to. -/
def reqciCall (packet : Bytes) (size : Nat) (s : Exec) : Option ReqciCall :=
  match header packet size with
  | some (code, _, len) =>
    if code = CONFREQ ∧ answers s.ipcp.fsm.state = true then
      let t := reqciState s
      some { state := t, inp := packet.drop HEADERLEN, len := len,
             rejectIfDisagree := t.ipcp.fsm.refusing }
    else none
  | none => none

theorem input_of_reqciCall {packet : Bytes} {size : Nat} {s : Exec} {c : ReqciCall}
    (h : reqciCall packet size s = some c) :
    ∃ id, CPPPFsm.input ipcpFsm ipcpSink packet size s =
      answerConfReq ipcpFsm ipcpSink id c.inp c.len c.state := by
  unfold reqciCall at h
  unfold CPPPFsm.input
  cases hh : header packet size with
  | none =>
    rw [hh] at h
    cases h
  | some x =>
    obtain ⟨code, id, len⟩ := x
    rw [hh] at h
    dsimp only at h ⊢
    split at h
    · rename_i hc
      obtain ⟨rfl, hans⟩ := hc
      cases h
      refine ⟨id, ?_⟩
      have hlive : ¬ (s.ipcp.fsm.state = .initial ∨ s.ipcp.fsm.state = .starting) := by
        rintro (hq | hq) <;> rw [hq] at hans <;> exact absurd hans Bool.false_ne_true
      rw [ipcpFsm_get, CPPPFsm.dispatch, if_pos rfl, if_neg hlive]
      exact rcvConfReq_asked (L := ipcpFsm) hans id _ len
    · cases h

/-- The terms are the same, and what the peer may choose it still may. -/
structure StillTerms (i i' : CPPPIPCP) : Prop extends SameTerms i i' where
  still : i.wo.acceptRemote = true → i'.wo.acceptRemote = true

theorem StillTerms.refl (i : CPPPIPCP) : StillTerms i i := ⟨.of_wo rfl rfl, fun h => h⟩

theorem stillTerms_ciRules (i : CPPPIPCP) :
    CiRules ipcpFsm ipcpCi fun _ s => StillTerms i s.ipcp where
  fsm _ _ _ h := ⟨⟨h.ao, h.hisaddr, h.acceptRemote⟩, h.still⟩
  acked _ h := h
  resetci s := by
    refine ⟨rfl, fun _ h => ?_⟩
    obtain ⟨⟨hao, hhis, hacc⟩, hstill⟩ := h
    have hreset := SameTerms.reset s.ipcp
    refine ⟨⟨hreset.ao.trans hao, hreset.hisaddr.trans hhis, fun ha => ?_⟩, fun ha => ?_⟩
    · rcases hreset.acceptRemote ha with ha | hz
      · exact hacc ha
      · exact .inr (hhis.symm.trans hz)
    · show (s.ipcp.wo.acceptRemote || _) = true
      rw [hstill ha, Bool.true_or]
  cilen _ := ⟨rfl, fun _ h => ⟨⟨h.ao, h.hisaddr, h.acceptRemote⟩, h.still⟩⟩
  addci _ _ := ⟨rfl, fun _ h => ⟨⟨h.ao, h.hisaddr, h.acceptRemote⟩, h.still⟩⟩
  outputPacket p s := by
    refine ⟨by simp [ipcpCi], fun _ h => ?_⟩
    show StillTerms i (onPPPOutput p s).ipcp
    rwa [ipcp_onPPPOutput]

theorem stillTerms_reqciState (s : Exec) : StillTerms s.ipcp (reqciState s).ipcp :=
  asked_keeps (K := ipcpSink) (stillTerms_ciRules s.ipcp)
    (fun {t} h => by
      show StillTerms s.ipcp (onIPCPDown t).ipcp
      rwa [ipcp_onIPCPDown]) (.refl s.ipcp)

/-! ## 4. The address in an acknowledged request -/

/-- A request that is acknowledged with an address assigned to the peer names this address only. -/
def AcksAssigned (s : Exec) : Prop :=
  ∀ packet size c, reqciCall packet size s = some c →
    (ipcpSink.reqci c.inp c.len c.rejectIfDisagree c.state).1.1 = confAck →
    c.state.ipcp.wo.hisaddr ≠ 0 →
    ∀ ci ∈ options c.inp c.len, ci.sound = true → ci.citype = CI_ADDR ∨ ci.citype = CI_ADDRS →
      IpcpOptions.addrAt ci.cip 2 = c.state.ipcp.wo.hisaddr

end Exec

namespace IpcpOptions

theorem judge_ack_addrs {wo ho ao : IpcpOptions} {r : Bool} {ci : Ci}
    (hw : wo.acceptRemote = false) (hs : ci.sound = true) (hc : ci.citype = CI_ADDRS)
    (h : (judge wo ho ao r ci).orc = .ack) : addrAt ci.cip 2 = wo.hisaddr := by
  have hj : judge wo ho ao r ci = judgeAddrs wo ho ao r ci := by
    unfold judge
    rw [hs, hc]
    rfl
  rw [hj] at h
  unfold judgeAddrs at h
  dsimp only at h
  split at h
  · cases h
  split at h
  · cases h
  split at h
  · cases h
  rename_i hn
  rw [Bool.or_eq_true, not_or, Bool.not_eq_true] at hn
  have hd := hn.1
  simpa [disagrees, hw] using hd

/-- A peer that may not choose gets its assigned address acknowledged only, in either option. -/
theorem reqciRun_ack_named {wo ao : IpcpOptions} {r noremoteip : Bool} {inp : Bytes} {len : Nat}
    (hw : wo.acceptRemote = false) (h : (reqciRun wo ao r noremoteip inp len).rc = .ack) :
    ∀ ci ∈ options inp len, ci.sound = true → ci.citype = CI_ADDR ∨ ci.citype = CI_ADDRS →
      addrAt ci.cip 2 = wo.hisaddr := by
  rintro ci hci hs (hc | hc)
  · exact reqciRun_ack hw h ci hci hs hc
  · obtain ⟨wo', ho, same, hj⟩ := reqciRun_acked h ci hci
    exact (judge_ack_addrs (same.acceptRemote.trans hw) hs hc hj).trans same.hisaddr

theorem addrAt_addrOption (opt : UInt8) (val : UInt32) : addrAt (addrOption opt val) 2 = val :=
  eq_of_beq ((reads_addr 2 val (addrOption opt val) (Nat.le_refl 6)).mpr rfl)

theorem options_addrOption (opt : UInt8) (val : UInt32) :
    options (addrOption opt val) 6 = [⟨opt, 6, addrOption opt val, true⟩] := rfl

theorem reqciRun_addrOption {wo ao : IpcpOptions} (r noremoteip : Bool) {val : UInt32}
    (hao : ao.negAddr = true) (hd : disagrees wo val = false) (hv : val ≠ 0) :
    (reqciRun wo ao r noremoteip (addrOption CI_ADDR val) 6).rc = .ack := by
  have hj : judge wo {} ao r ⟨CI_ADDR, 6, addrOption CI_ADDR val, true⟩ =
      { orc := .ack, wo := wo, ho := { negAddr := true, hisaddr := val },
        bytes := addrOption CI_ADDR val } := by
    show judgeAddr wo {} ao r _ = _
    unfold judgeAddr
    dsimp only
    rw [addrAt_addrOption, hao, hd, if_neg (by decide), if_neg Bool.false_ne_true,
      if_neg fun h => hv h.1]
    rfl
  unfold reqciRun reqciAddr
  rw [options_addrOption, List.foldl_cons, List.foldl_nil]
  unfold reqciStep
  rw [hj]
  rfl

end IpcpOptions

namespace Exec

open CPPPFsm

/-- A request for the address `val`. -/
def ownRequest (val : UInt32) : Bytes := [CONFREQ, 1, 0, 10] ++ IpcpOptions.addrOption CI_ADDR val

theorem reqciCall_ownRequest (val : UInt32) {s : Exec} (h : answers s.ipcp.fsm.state = true) :
    reqciCall (ownRequest val) 10 s =
      some { state := reqciState s, inp := IpcpOptions.addrOption CI_ADDR val, len := 6,
             rejectIfDisagree :=
               (reqciState s).ipcp.fsm.refusing } := by
  have hlen : getShort (ownRequest val) 2 = 10 := by
    show (0 : UInt8).toUInt16 <<< 8 ||| (10 : UInt8).toUInt16 = 10
    decide
  have hh : header (ownRequest val) 10 = some (CONFREQ, 1, 6) := by
    unfold header
    rw [hlen]
    rfl
  unfold reqciCall
  rw [hh]
  exact if_pos ⟨rfl, h⟩

theorem confAck_iff (inp : Bytes) (len : Nat) (r : Bool) (s : Exec) :
    (ipcpSink.reqci inp len r s).1.1 = confAck ↔
      (reqciRun r inp len s.ipcp).rc = .ack := by
  show Conf.code (reqciRun r inp len s.ipcp).rc = _ ↔ _
  cases (reqciRun r inp len s.ipcp).rc <;> decide

theorem acksAssigned_iff {s : Exec} (hallow : Allowing s.ipcp) :
    AcksAssigned s ↔ s.ipcp.wo.acceptRemote = false ∨ s.ipcp.wo.hisaddr = 0 ∨
      answers s.ipcp.fsm.state = false := by
  have hterms := stillTerms_reqciState s
  constructor
  · intro h
    by_contra hn
    rw [not_or, not_or, Bool.not_eq_false, Bool.not_eq_false] at hn
    obtain ⟨hacc, hhis, hans⟩ := hn
    -- an address that is neither 0 nor the assigned one
    obtain ⟨val, hv0, hv⟩ : ∃ v : UInt32, v ≠ 0 ∧ v ≠ s.ipcp.wo.hisaddr := by
      by_cases h1 : s.ipcp.wo.hisaddr = 1
      · exact ⟨2, by decide, by rw [h1]; decide⟩
      · exact ⟨1, by decide, fun e => h1 e.symm⟩
    have hd : IpcpOptions.disagrees (reqciState s).ipcp.wo val = false := by
      simp [IpcpOptions.disagrees, hterms.still hacc, hv0]
    have hao : (reqciState s).ipcp.ao.negAddr = true := by
      rw [hterms.ao]
      exact hallow.negAddr
    have hnamed := h (ownRequest val) 10 _ (reqciCall_ownRequest val hans)
      ((confAck_iff _ _ _ _).mpr (IpcpOptions.reqciRun_addrOption _ _ hao hd hv0))
      (by rw [hterms.hisaddr]; exact hhis) ⟨CI_ADDR, 6, IpcpOptions.addrOption CI_ADDR val, true⟩
      (by rw [IpcpOptions.options_addrOption]; exact List.mem_cons_self) rfl (.inl rfl)
    rw [IpcpOptions.addrAt_addrOption, hterms.hisaddr] at hnamed
    exact hv hnamed
  · intro h packet size c hcall hack hhis
    have hstate : c.state = reqciState s ∧ answers s.ipcp.fsm.state = true := by
      unfold reqciCall at hcall
      split at hcall
      · split at hcall
        · rename_i hc
          cases hcall
          exact ⟨rfl, hc.2⟩
        · cases hcall
      · cases hcall
    rw [confAck_iff] at hack
    rw [hstate.1] at hack hhis ⊢
    rcases h with hacc | hz | hno
    · refine IpcpOptions.reqciRun_ack_named (Bool.eq_false_iff.mpr fun ha => ?_) hack
      rcases hterms.acceptRemote ha with ha | hz
      · exact absurd (hacc.symm.trans ha) Bool.false_ne_true
      · exact hhis (hterms.hisaddr.trans hz)
    · exact absurd (hterms.hisaddr.trans hz) hhis
    · exact absurd (hno.symm.trans hstate.2) Bool.false_ne_true

/-- **A client gets no address of its own choosing acknowledged -- exactly if `accept_remote` is
    not set**, or no address is assigned, or requests are not answered. -/
theorem acked_addresses_iff (s₀ : Exec) (evs : List IpcpEvent) :
    AcksAssigned (run ipcpStep (ipcpInit s₀) evs) ↔
      (run ipcpStep (ipcpInit s₀) evs).ipcp.wo.acceptRemote = false ∨
        (run ipcpStep (ipcpInit s₀) evs).ipcp.wo.hisaddr = 0 ∨
        answers (run ipcpStep (ipcpInit s₀) evs).ipcp.fsm.state = false :=
  acksAssigned_iff (allowing_run s₀ evs)

/-- IPCP is opened before the subscriber's address 10.0.0.1 is known. -/
def lateAddress : Exec :=
  run ipcpStep (ipcpInit (start (.sample PPP_PAP))) [.open_, .setSubscriberIP 0x0100000a]

/-- **A client that asks for 6.6.6.6 gets it acknowledged**, though 10.0.0.1 is assigned to it: the
    address was assigned after our first request had gone out. -/
theorem late_address_not_enforced :
    lateAddress.ipcp.wo.hisaddr = 0x0100000a ∧
      (ipcpStep lateAddress (.input (ownRequest 0x06060606) 10)).hist.output.head? =
        some [0x80, 0x21, 2, 1, 0, 10, 3, 6, 6, 6, 6, 6] ∧
      ¬ AcksAssigned lateAddress := by
  refine ⟨by decide +kernel, by decide +kernel, fun h => ?_⟩
  rcases (acksAssigned_iff (allowing_run _ _)).mp h with ha | hz | hn
  · exact absurd ha (by decide +kernel)
  · exact absurd hz (by decide +kernel)
  · exact absurd hn (by decide +kernel)

theorem acksAssigned_of_assigned (s₀ : Exec) (evs : List IpcpEvent)
    (h : Along ipcpStep (fun s e => e.automaton = true → s.ipcp.wo.hisaddr ≠ 0) (ipcpInit s₀) evs) :
    AcksAssigned (run ipcpStep (ipcpInit s₀) evs) :=
  (acksAssigned_iff (allowing_run s₀ evs)).mpr (.inl (acceptRemote_unset rfl h))

theorem early_address_enforced : AcksAssigned
    (run ipcpStep (ipcpInit (start (.sample PPP_PAP))) [.setSubscriberIP 0x0100000a, .open_]) :=
  acksAssigned_of_assigned _ _ (by decide +kernel)

end Exec

end OpenBras
