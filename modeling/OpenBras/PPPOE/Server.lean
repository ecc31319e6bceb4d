/-
  File:      OpenBras/PPPOE/Server.lean
  Subject:   THE SESSION TABLE (`CPPPOE`, src/PPPOE/CPPPOE.cpp) AND THE ANSWERS OF THE
             AUTHENTICATION MANAGER: which session an `Auth_Response` may change.

  A response names a session by its id, and ids are used again. `HandleAuthResponse` looks the
  session up and hands it the response: it compares no MAC address (the source has a note that
  it should), asks for no outstanding request, does not look at the deletion mark, and stores
  the addresses before the result is known.

  **`response_confined_iff`** says exactly when a response nevertheless does no harm: the
  session of that id is not marked, belongs to the response's MAC address and waits for an
  answer, or the response changes nothing (`Inert`); and a rejecting response carries the
  addresses in force (`Stored`). `stale_response_opens_session` is a response meant for the
  former owner of a session id.
-/
import OpenBras.PPPOE.Session

namespace OpenBras

open Wire

/-! ## 1. The table -/

/-- `m_sessionMgr`. A session stands under its own id. -/
structure CPPPOE where
  sessionMgr : UInt16 → Option Exec
  keyed : ∀ {id s}, sessionMgr id = some s → s.sessionid = id

namespace CPPPOE

def findSession (p : CPPPOE) (sessionid : UInt16) : Option Exec := p.sessionMgr sessionid

/-- A table with one session. -/
def single (s : Exec) : CPPPOE where
  sessionMgr id := if id = s.sessionid then some s else none
  keyed {id t} h := by
    split at h
    · rename_i hid
      cases h
      exact hid.symm
    · cases h

/-- The session of this id goes on to `f`. -/
def modify (id : UInt16) (f : Exec → Exec) (hf : ∀ s, (f s).sessionid = s.sessionid)
    (p : CPPPOE) : CPPPOE where
  sessionMgr i := if i = id then (p.sessionMgr i).map f else p.sessionMgr i
  keyed {i t} h := by
    split at h
    · obtain ⟨s, hs, rfl⟩ := Option.map_eq_some_iff.mp h
      rw [hf]
      exact p.keyed hs
    · exact p.keyed h

/-- `CPPPOE::HandleAuthResponse`. The history notes the request the response answers, `k` in
    the session's own count. -/
def handleAuthResponse (k : Nat) (r : AuthResponse) (p : CPPPOE) : Int × CPPPOE :=
  match p.findSession r.session with
  | none => (-1, p)
  | some _ =>
    (0, p.modify r.session (Exec.response k r)
      fun s => congrArg (·.2.1) (Exec.fixed_response k r s))

end CPPPOE

namespace Exec

/-! ## 2. The property -/

/-- A request that no response has answered. -/
def Unanswered (s : Exec) : Prop := ∃ k < s.hist.requests.length, k ∉ s.hist.answered

/-- The session waits for this response. -/
def Addressee (r : AuthResponse) (s : Exec) : Prop :=
  s.sessionToBeDeleted = false ∧ s.sessionid = r.session ∧ s.clientEth = r.mac ∧ Unanswered s

/-- The four addresses `HandleAuthResponse` sets. -/
def addresses (i : CPPPIPCP) : UInt32 × UInt32 × UInt32 × UInt32 :=
  (i.wo.ouraddr, i.wo.hisaddr, i.ao.dnsaddr0, i.ao.dnsaddr1)

/-- The response carries the addresses that are set. -/
def Stored (r : AuthResponse) (s : Exec) : Prop :=
  addresses s.ipcp =
    (s.intfIp, swapLong r.subscriberIP, swapLong r.primaryDNS, swapLong r.secondaryDNS)

/-- The reason LCP is closed with after a negative result. -/
def failureReason (protocol : UInt16) : String :=
  authProtocolName protocol ++ "authentication failed"

/-- The result finds everything as it would leave it. Under CHAP: no challenge is outstanding,
    and a failure is not the first. Under PAP: the timer is stopped, and the session is in the
    Network phase with IPCP open already, or terminated with LCP closed already. -/
def ResultInert (result : UInt32) (s : Exec) : Prop :=
  if s.lcp.authType = PPP_CHAP then
    s.chap.flags.challengeValid = false ∧ (result ≠ 0 → s.chap.flags.authFailed = true)
  else if s.lcp.authType = PPP_PAP then
    (s.pap.reqtimeout > 0 → s.pap.timer = false) ∧
      if result = 0 then s.phase = .network ∧ s.ipcp.isOpen = true ∧ CPPPFsm.OpenIdle s.ipcp.fsm
      else s.phase = .terminate ∧
        CPPPFsm.CloseIdle (failureReason PPP_PAP) s.lcp.fsm
  else True

/-- The response finds everything as it would leave it. -/
def Inert (r : AuthResponse) (s : Exec) : Prop := Stored r s ∧ ResultInert r.authResult s

/-- What a response may do to a session. -/
def Confined (r : AuthResponse) (s s' : Exec) : Prop :=
  (s'.toCSession ≠ s.toCSession → Addressee r s) ∧
    (r.authResult ≠ 0 → addresses s'.ipcp = addresses s.ipcp)

instance (s : Exec) : Decidable (Unanswered s) :=
  inferInstanceAs (Decidable (∃ k < s.hist.requests.length, k ∉ s.hist.answered))

instance (r : AuthResponse) (s : Exec) : Decidable (Addressee r s) :=
  inferInstanceAs (Decidable (_ ∧ _ ∧ _ ∧ _))

instance (r : AuthResponse) (s s' : Exec) : Decidable (Confined r s s') :=
  inferInstanceAs (Decidable ((_ → _) ∧ (_ → _)))

/-! ## 3. When a response changes nothing -/

theorem toCSession_onPPPOutput (p : Bytes) (s : Exec) :
    (onPPPOutput p s).toCSession = s.toCSession := by
  unfold onPPPOutput
  repeat' split
  all_goals rfl

variable {r : AuthResponse} (protocol : UInt16)

theorem ipcp_setAddresses {s : Exec} (h : Stored r s) : (setAddresses r s).ipcp = s.ipcp := by
  have h1 : s.ipcp.wo.ouraddr = s.intfIp := congrArg (·.1) h
  have h2 : s.ipcp.wo.hisaddr = swapLong r.subscriberIP := congrArg (·.2.1) h
  have h3 : s.ipcp.ao.dnsaddr0 = swapLong r.primaryDNS := congrArg (·.2.2.1) h
  have h4 : s.ipcp.ao.dnsaddr1 = swapLong r.secondaryDNS := congrArg (·.2.2.2) h
  unfold setAddresses
  dsimp only
  rw [← h1, ← h2, ← h3, ← h4]

theorem authenSuccess_idle {s : Exec} (h : CPPPFsm.OpenIdle s.ipcp.fsm) :
    (authenSuccess protocol s).toCSession =
      ({ s with phase := .network, ipcp := { s.ipcp with isOpen := true } } : Exec).toCSession := by
  unfold authenSuccess ipcpOpen
  dsimp only
  rw [CPPPFsm.fsmOpen_idle rfl]
  · rfl
  · exact h

theorem authenSuccess_moves {s : Exec} (h : ¬ CPPPFsm.OpenIdle s.ipcp.fsm) :
    (authenSuccess protocol s).ipcp.fsm.state ≠ s.ipcp.fsm.state :=
  CPPPFsm.fsmOpen_moves (L := ipcpFsm) (K := ipcpLayer) rfl h

theorem authenFailure_idle {s : Exec} (h : CPPPFsm.CloseIdle (failureReason protocol) s.lcp.fsm) :
    (authenFailure protocol s).toCSession =
      ({ s with phase := .terminate } : Exec).toCSession := by
  unfold authenFailure lcpCloseFsm
  rw [CPPPFsm.close_idle]
  · rfl
  · exact h

/-- LCP finishes in `INITIAL`, or in `CLOSED` in the Dead phase. -/
theorem ended_lcpFinished (s : Exec) (h : s.lcp.fsm.state = .closed) :
    CPPPFsm.Ended (lcpClose.finished s).lcp.fsm.state := by
  show CPPPFsm.Ended (onLCPTerminate s).lcp.fsm.state
  unfold onLCPTerminate
  split
  · exact Or.inr (Or.inl h)
  rw [lcp_sendPADT]
  refine Or.inl ?_
  show (CPPPFsm.lowerDown lcpFsm lcpLayer s).lcp.fsm.state = _
  unfold CPPPFsm.lowerDown
  simp only [lcpFsm_get, h]
  rfl

theorem authenFailure_moves {s : Exec} (h : ¬ CPPPFsm.CloseIdle (failureReason protocol) s.lcp.fsm) :
    (authenFailure protocol s).lcp.fsm ≠ s.lcp.fsm :=
  CPPPFsm.close_moves (L := lcpFsm) (K := lcpClose) ended_lcpFinished h

/-- PAP's record after its timer is stopped. -/
def stopped (p : CPapProtocolSvr) : CPapProtocolSvr :=
  { p with timer := if p.reqtimeout > 0 then false else p.timer }

theorem toCSession_papStopTimer (s : Exec) :
    (papStopTimer s).toCSession = { s.toCSession with pap := stopped s.pap } := by
  unfold papStopTimer papCancelTimer stopped
  split <;> rfl

theorem stopped_eq {p : CPapProtocolSvr} (h : p.reqtimeout > 0 → p.timer = false) :
    stopped p = p := by
  unfold stopped
  split
  · rename_i hr
    rw [← h hr]
  · rfl

theorem timer_stopped {p : CPapProtocolSvr} (h : stopped p = p) (hr : p.reqtimeout > 0) :
    p.timer = false := by
  have ht : (if p.reqtimeout > 0 then false else p.timer) = p.timer :=
    congrArg (·.timer) h
  rw [if_pos hr] at ht
  exact ht.symm

section Unchanged

variable {r : AuthResponse} {s w : Exec}
  (hw : w.toCSession = { s.toCSession with ipcp := (setAddresses r s).ipcp })

include hw

theorem papAccepted_unchanged_iff :
    (papStopTimer (authenSuccess PPP_PAP w)).toCSession = s.toCSession ↔
      Stored r s ∧ (s.pap.reqtimeout > 0 → s.pap.timer = false) ∧ s.phase = .network ∧
        s.ipcp.isOpen = true ∧ CPPPFsm.OpenIdle s.ipcp.fsm := by
  have hfsm : w.ipcp.fsm = s.ipcp.fsm := congrArg (·.ipcp.fsm) hw
  by_cases hi : CPPPFsm.OpenIdle s.ipcp.fsm
  · have form : (papStopTimer (authenSuccess PPP_PAP w)).toCSession =
        { s.toCSession with
          phase := .network, ipcp := { (setAddresses r s).ipcp with isOpen := true },
          pap := stopped s.pap } := by
      rw [toCSession_papStopTimer, authenSuccess_idle PPP_PAP (hfsm ▸ hi)]
      simp only [hw]
    rw [form]
    constructor
    · intro h
      exact ⟨(congrArg (fun c : CSession => addresses c.ipcp) h).symm,
        timer_stopped (congrArg (·.pap) h), (congrArg (·.phase) h).symm,
        (congrArg (·.ipcp.isOpen) h).symm, hi⟩
    · rintro ⟨hst, ht, hph, ho, -⟩
      have hopen : { s.ipcp with isOpen := true } = s.ipcp := by rw [← ho]
      rw [ipcp_setAddresses hst, stopped_eq ht, hopen, ← hph]
  · constructor
    · intro h
      have hstate : (authenSuccess PPP_PAP w).ipcp.fsm.state = s.ipcp.fsm.state := by
        rw [toCSession_papStopTimer] at h
        exact congrArg (·.ipcp.fsm.state) h
      refine absurd ?_ (authenSuccess_moves PPP_PAP (s := w) (hfsm ▸ hi))
      rw [hstate, hfsm]
    · exact fun h => absurd h.2.2.2.2 hi

theorem papRejected_unchanged_iff :
    (papStopTimer (authenFailure PPP_PAP w)).toCSession = s.toCSession ↔
      Stored r s ∧ (s.pap.reqtimeout > 0 → s.pap.timer = false) ∧ s.phase = .terminate ∧
        CPPPFsm.CloseIdle (failureReason PPP_PAP) s.lcp.fsm := by
  have hfsm : w.lcp.fsm = s.lcp.fsm := congrArg (·.lcp.fsm) hw
  by_cases hi : CPPPFsm.CloseIdle (failureReason PPP_PAP) s.lcp.fsm
  · have form : (papStopTimer (authenFailure PPP_PAP w)).toCSession =
        { s.toCSession with
          phase := .terminate, ipcp := (setAddresses r s).ipcp, pap := stopped s.pap } := by
      rw [toCSession_papStopTimer, authenFailure_idle PPP_PAP (hfsm ▸ hi)]
      simp only [hw]
    rw [form]
    constructor
    · intro h
      exact ⟨(congrArg (fun c : CSession => addresses c.ipcp) h).symm,
        timer_stopped (congrArg (·.pap) h), (congrArg (·.phase) h).symm, hi⟩
    · rintro ⟨hst, ht, hph, -⟩
      rw [ipcp_setAddresses hst, stopped_eq ht, ← hph]
  · constructor
    · intro h
      have hlcp : (authenFailure PPP_PAP w).lcp.fsm = s.lcp.fsm := by
        rw [toCSession_papStopTimer] at h
        exact congrArg (·.lcp.fsm) h
      refine absurd ?_ (authenFailure_moves PPP_PAP (s := w) (hfsm ▸ hi))
      rw [hlcp, hfsm]
    · exact fun h => absurd h.2.2.2 hi

end Unchanged

/-- A result for an outstanding challenge uses it up, or moves LCP. -/
theorem chapResult_moves {t : Exec} (h : t.chap.flags.challengeValid = false) :
    (chapResult t).chap.flags.challengeValid = false ∨ (chapResult t).lcp.fsm ≠ t.lcp.fsm := by
  have again : ∀ u : Exec, u.chap.flags.challengeValid = false →
      (chapRechallenge u).chap.flags.challengeValid = false := by
    intro u hu
    unfold chapRechallenge
    split <;> exact hu
  unfold chapResult
  split
  · by_cases hi : CPPPFsm.CloseIdle (failureReason PPP_CHAP) t.lcp.fsm
    · left
      have hc : (authenFailure PPP_CHAP t).chap = t.chap :=
        congrArg (·.chap) (authenFailure_idle PPP_CHAP hi)
      rw [hc]
      exact h
    · exact Or.inr (authenFailure_moves PPP_CHAP hi)
  · left
    refine again _ ?_
    split
    · exact h
    have hc : (authenSuccess PPP_CHAP t).chap = t.chap :=
      congrArg (·.chap) (outsideIpcp_ipcpOpen _)
    rw [hc]
    exact h

/-- CHAP's record after the result is noted: a failure stays. -/
def failing (result : UInt32) (c : CChapProtocolSvr) : CChapProtocolSvr :=
  { c with flags := { c.flags with authFailed := result != 0 || c.flags.authFailed } }

theorem toCSession_chapReply (result : UInt32) (reason : Bytes) (s : Exec) :
    (chapReply reason (chapFail result s)).toCSession =
      { s.toCSession with chap := failing result s.chap } := by
  unfold chapReply chapSresp chapFail
  rw [toCSession_onPPPOutput]
  unfold failing setChapFlags
  split
  · rename_i h
    rw [bne_iff_ne.mpr h]
    rfl
  · rename_i h
    rw [not_ne_iff.mp h]
    rfl

theorem failing_eq_iff {result : UInt32} {c : CChapProtocolSvr} :
    failing result c = c ↔ (result ≠ 0 → c.flags.authFailed = true) := by
  constructor
  · intro h hr
    have hf : (result != 0 || c.flags.authFailed) = c.flags.authFailed :=
      congrArg (·.flags.authFailed) h
    rw [bne_iff_ne.mpr hr] at hf
    exact hf.symm
  · intro h
    have hf : (result != 0 || c.flags.authFailed) = c.flags.authFailed := by
      cases hr : result != 0 with
      | true => rw [h (bne_iff_ne.mp hr)]; rfl
      | false => rfl
    unfold failing
    rw [hf]

theorem chap_unchanged_iff (result : UInt32) (reason : Bytes) {s w : Exec}
    (hw : w.toCSession = { s.toCSession with ipcp := (setAddresses r s).ipcp }) :
    (chapResponseAuthenResult result reason w).toCSession = s.toCSession ↔
      Stored r s ∧ s.chap.flags.challengeValid = false ∧
        (result ≠ 0 → s.chap.flags.authFailed = true) := by
  have form := toCSession_chapReply result reason w
  simp only [hw] at form
  unfold chapResponseAuthenResult
  generalize chapReply reason (chapFail result w) = x at form ⊢
  have hvalid : x.chap.flags.challengeValid = s.chap.flags.challengeValid :=
    congrArg (·.chap.flags.challengeValid) form
  dsimp only
  split
  · rename_i hv
    rw [hvalid] at hv
    constructor
    · intro h
      rcases chapResult_moves (t := setChapFlags (fun f => { f with challengeValid := false }) x)
        rfl with hc | hl
      · have hs : (chapResult (setChapFlags (fun f => { f with challengeValid := false })
            x)).chap.flags.challengeValid = s.chap.flags.challengeValid :=
          congrArg (·.chap.flags.challengeValid) h
        rw [hc, hv] at hs
        cases hs
      · have hs : (chapResult (setChapFlags (fun f => { f with challengeValid := false })
            x)).lcp.fsm = s.lcp.fsm := congrArg (·.lcp.fsm) h
        have hx : x.lcp.fsm = s.lcp.fsm := congrArg (·.lcp.fsm) form
        exact absurd (hs.trans hx.symm) hl
    · intro h
      rw [h.2.1] at hv
      cases hv
  · rename_i hv
    rw [hvalid, Bool.not_eq_true] at hv
    rw [form]
    constructor
    · intro h
      exact ⟨(congrArg (fun c : CSession => addresses c.ipcp) h).symm, hv,
        failing_eq_iff.mp (congrArg (·.chap) h)⟩
    · rintro ⟨hst, -, hf⟩
      rw [ipcp_setAddresses hst, failing_eq_iff.mpr hf]

theorem pap_unchanged_iff (result : UInt32) (reason : Bytes) {s w : Exec}
    (hw : w.toCSession = { s.toCSession with ipcp := (setAddresses r s).ipcp }) :
    (papResponseAuthenResult result reason w).toCSession = s.toCSession ↔
      Stored r s ∧ (s.pap.reqtimeout > 0 → s.pap.timer = false) ∧
        if result = 0 then s.phase = .network ∧ s.ipcp.isOpen = true ∧ CPPPFsm.OpenIdle s.ipcp.fsm
        else s.phase = .terminate ∧ CPPPFsm.CloseIdle (failureReason PPP_PAP) s.lcp.fsm := by
  -- the reply changes nothing
  have hreply : ∀ code id msg, (papSresp code id msg w).toCSession =
      { s.toCSession with ipcp := (setAddresses r s).ipcp } :=
    fun _ _ _ => (toCSession_onPPPOutput _ w).trans hw
  unfold papResponseAuthenResult papResult
  dsimp only
  by_cases h0 : result = 0
  · subst h0
    exact papAccepted_unchanged_iff (hreply _ _ _)
  · rw [if_neg h0, beq_false_of_ne h0]
    exact papRejected_unchanged_iff (hreply _ _ _)

/-- **A response leaves a session as it is exactly if it is inert.** -/
theorem response_unchanged_iff (k : Nat) (r : AuthResponse) (s : Exec) :
    (response k r s).toCSession = s.toCSession ↔ Inert r s := by
  have hw : (addressed k r s).toCSession =
      { s.toCSession with ipcp := (setAddresses r s).ipcp } := rfl
  have htype : (addressed k r s).lcp.authType = s.lcp.authType := rfl
  unfold response onAuthResponse Inert ResultInert
  generalize addressed k r s = w at hw htype ⊢
  rw [htype]
  by_cases hc : s.lcp.authType = PPP_CHAP
  · rw [if_pos hc, if_pos hc]
    exact chap_unchanged_iff _ _ hw
  rw [if_neg hc, if_neg hc]
  by_cases hp : s.lcp.authType = PPP_PAP
  · rw [if_pos hp, if_pos hp]
    exact pap_unchanged_iff _ _ hw
  rw [if_neg hp, if_neg hp, hw]
  constructor
  · exact fun h => ⟨(congrArg (fun c : CSession => addresses c.ipcp) h).symm, trivial⟩
  · rintro ⟨hst, -⟩
    rw [ipcp_setAddresses hst]

/-! ## 4. What a rejecting response does to the addresses -/

theorem addresses_ciRules (x) : CPPPFsm.CiRules ipcpFsm ipcpCi fun _ s => addresses s.ipcp = x where
  fsm _ _ _ h := h
  acked _ h := h
  resetci _ := ⟨rfl, fun _ h => h⟩
  cilen _ := ⟨rfl, fun _ h => h⟩
  addci _ _ := ⟨rfl, fun _ h => h⟩
  outputPacket p s := by
    have h : (ipcpCi.outputPacket p s).ipcp = s.ipcp := ipcp_onPPPOutput p s
    exact ⟨congrArg (·.fsm) h, fun _ hs => (congrArg addresses h).trans hs⟩

theorem addresses_closeRules (x) :
    CPPPFsm.CloseRules ipcpFsm ipcpClose fun _ s => addresses s.ipcp = x where
  toCiRules := addresses_ciRules x
  ending _ h := h
  starting _ _ h := CPPPFsm.lowerUp_keeps (addresses_ciRules x) h
  down_fsm s := congrArg (·.fsm) (ipcp_onIPCPDown s)
  down s h := by
    have hd : (ipcpClose.down s).ipcp = s.ipcp := ipcp_onIPCPDown s
    rw [hd]
    exact ⟨h, h⟩
  finished _ _ h := h

theorem addresses_onLCPDown (s : Exec) : addresses (onLCPDown s).ipcp = addresses s.ipcp := by
  have hl : addresses (ipcpLowerDown s).ipcp = addresses s.ipcp :=
    CPPPFsm.lowerDown_keeps (J := fun _ (t : Exec) => addresses t.ipcp = addresses s.ipcp)
      (addresses_closeRules _).toLayerRules rfl
  have hc : addresses (ipcpCloseFsm "LCP down" (ipcpLowerDown s)).ipcp = addresses s.ipcp :=
    CPPPFsm.close_keeps (J := fun _ (t : Exec) => addresses t.ipcp = addresses s.ipcp)
      (addresses_closeRules _) _ (fun _ _ h => (addresses_closeRules _).down _ h) hl
  unfold onLCPDown
  rw [ipcp_sendPADT]
  split <;> exact hc

theorem addresses_owner (x) : Owner fun _ s => addresses s.ipcp = x where
  bare h hb := (congrArg (fun t : Exec => addresses t.ipcp) hb).trans h
  down {_ s} h := ⟨(addresses_onLCPDown s).trans h, (addresses_onLCPDown s).trans h⟩
  padt {_ s} reason h := (congrArg addresses (ipcp_sendPADT reason s)).trans h

/-- **A rejecting response sets its addresses**, whatever becomes of the session. -/
theorem addresses_rejected (k : Nat) (h0 : r.authResult ≠ 0) (s : Exec) :
    addresses (response k r s).ipcp = addresses (setAddresses r s).ipcp := by
  refine (addresses_owner _).onAuthResponse (s := addressed k r s)
    (fun h _ => h) _ _ (fun protocol t _ hd => ?_) rfl
  exact absurd (delivers_accepting hd) h0

theorem addresses_rejected_iff (k : Nat) (h0 : r.authResult ≠ 0) (s : Exec) :
    addresses (response k r s).ipcp = addresses s.ipcp ↔ Stored r s := by
  rw [addresses_rejected k h0]
  exact eq_comm

/-- What a response does to the session it names. -/
theorem confined_response_iff (k : Nat) {s : Exec} (hid : s.sessionid = r.session) :
    Confined r s (response k r s) ↔
      (Inert r s ∨
        s.sessionToBeDeleted = false ∧ s.clientEth = r.mac ∧ Unanswered s) ∧
      (r.authResult ≠ 0 → Stored r s) := by
  have hwaits : Addressee r s ↔
      s.sessionToBeDeleted = false ∧ s.clientEth = r.mac ∧ Unanswered s :=
    ⟨fun h => ⟨h.1, h.2.2⟩, fun h => ⟨h.1, hid, h.2⟩⟩
  unfold Confined
  rw [Ne, response_unchanged_iff, hwaits, or_iff_not_imp_left]
  exact and_congr Iff.rfl (forall_congr' fun h0 => addresses_rejected_iff k h0 s)

end Exec

namespace CPPPOE

open Exec

/-! ## 5. The table -/

theorem findSession_single (s : Exec) : (single s).findSession s.sessionid = some s := if_pos rfl

theorem findSession_handleAuthResponse (k : Nat) (r : AuthResponse) (p : CPPPOE) (id : UInt16) :
    (p.handleAuthResponse k r).2.findSession id =
      if id = r.session then (p.findSession id).map (response k r) else p.findSession id := by
  unfold handleAuthResponse
  split
  · rename_i hn
    split
    · rename_i hid
      subst hid
      rw [hn]
      rfl
    · rfl
  · rfl

/-- **A response changes only the session that waits for it, and a rejecting one no address,
    exactly if** the session of that id, if there is one, is not marked, has the response's MAC
    address and an unanswered request, or is left as it is; and, the response rejecting, if the
    addresses it carries are set already. -/
theorem response_confined_iff (k : Nat) (r : AuthResponse) (p : CPPPOE) :
    (∀ id, Option.Rel (Confined r) (p.findSession id)
        ((p.handleAuthResponse k r).2.findSession id)) ↔
      ∀ s ∈ p.findSession r.session,
        (Inert r s ∨
          s.sessionToBeDeleted = false ∧ s.clientEth = r.mac ∧ Unanswered s) ∧
        (r.authResult ≠ 0 → Stored r s) := by
  constructor
  · intro h s hs
    have hr := h r.session
    rw [findSession_handleAuthResponse, if_pos rfl, Option.mem_def.mp hs] at hr
    cases hr with
    | some hc => exact (confined_response_iff k (p.keyed hs)).mp hc
  · intro h id
    rw [findSession_handleAuthResponse]
    split
    · rename_i hid
      subst hid
      cases hs : p.findSession r.session with
      | none => exact .none
      | some s => exact .some ((confined_response_iff k (p.keyed hs)).mpr (h s hs))
    · cases p.findSession id with
      | none => exact .none
      | some s => exact .some ⟨fun hne => absurd rfl hne, fun _ => rfl⟩

/-- The answer to a request of 02:00:00:00:00:02 on session 1. -/
def staleAccept : AuthResponse where
  session := 1
  mac := [2, 0, 0, 0, 0, 2]
  authResult := 0
  subscriberIP := 0x0a000001

/-- Session 1 has been created anew, for the client 02:00:00:00:00:01, and nobody has been asked
    about it: the answer meant for the former owner of the id opens IPCP. -/
theorem stale_response_opens_session :
    ¬ ∀ id, Option.Rel (Confined staleAccept)
      ((single (start (.sample PPP_PAP))).findSession id)
      (((single (start (.sample PPP_PAP))).handleAuthResponse 0 staleAccept).2.findSession id) := by
  intro h
  have hr := h (start (.sample PPP_PAP)).sessionid
  rw [findSession_handleAuthResponse, if_pos (by decide +kernel), findSession_single] at hr
  cases hr with
  | some hc => exact absurd hc (by decide +kernel)

end CPPPOE

end OpenBras
