/-
  File:      OpenBras/PPP/Authentication.lean
  Subject:   WHO GETS TO THE NETWORK PHASE: over every run of a session's protocol engine, the
             Network phase and IPCP against the requests the authentication manager accepted.

  `CPPP::OnAuthResponse` does not ask which request a response answers, nor whether LCP is still
  the link the request came over: `OnLCPDown` does not tell the authentication servers
  (`LowerDown` is never called), although `OnLCPUp` calls their `LowerUp`. So a response that
  arrives late opens IPCP for whoever is on the line by then.

  **`network_authenticated_iff`**: a run keeps to authenticated peers exactly if every response
  that is delivered as a positive result comes over an open LCP and answers a request issued
  since its latest Up (or such a request has been accepted before). `late_accept_opens_ipcp` is
  a run that does not: the peer terminates LCP between its request and the answer.
-/
import OpenBras.Lib.Run
import OpenBras.PPP.Phase

namespace OpenBras

open Wire

namespace Exec

open CPPPFsm

/-! ## 1. The property -/

/-- A request issued since the latest LCP Up has been accepted. -/
def Accepted (s : Exec) : Prop :=
  ∃ k ∈ s.hist.accepted, s.hist.upMark ≤ k ∧ k < s.hist.requests.length

instance (s : Exec) : Decidable (Accepted s) :=
  inferInstanceAs (Decidable (∃ k ∈ s.hist.accepted,
    s.hist.upMark ≤ k ∧ k < s.hist.requests.length))

/-- In the Network phase LCP is open and the peer was accepted since its latest Up; and this
    was so whenever IPCP was opened or given a packet. -/
def AuthenticatedNetwork (s : Exec) : Prop :=
  (s.phase = .network → s.lcp.fsm.state = .opened ∧ Accepted s) ∧ ∀ b ∈ s.hist.ncp, b = true

instance (s : Exec) : Decidable (AuthenticatedNetwork s) :=
  inferInstanceAs (Decidable ((s.phase = .network → s.lcp.fsm.state = .opened ∧ Accepted s) ∧
    ∀ b ∈ s.hist.ncp, b = true))

/-- The condition on a step: a response that becomes a positive result comes while LCP is open
    and answers a request issued since its latest Up, if none of those was accepted before. -/
def ResultInTime (s : Exec) : Event → Prop
  | .response k r => delivers r.authResult s = true → s.lcp.fsm.state = .opened ∧
      (s.hist.upMark ≤ k ∧ k < s.hist.requests.length ∨ Accepted s)
  | _ => True

/-! ## 2. The invariant -/

/-- The property where LCP stands at `c`; accepted requests were issued. -/
def InNetwork (c : Stand) (s : Exec) : Prop :=
  (s.phase = .network → c = .up ∧ Accepted s) ∧
    (∀ k ∈ s.hist.accepted, k < s.hist.requests.length) ∧ ∀ b ∈ s.hist.ncp, b = true

variable {c : Stand} {s : Exec}

/-- Outside the Network phase the standing of LCP does not matter. -/
theorem InNetwork.goto (h : InNetwork c s) {ph : PPPPhase} (hph : ph ≠ .network) (c' : Stand) :
    InNetwork c' (newPhase ph s) :=
  ⟨fun hn => absurd hn hph, h.2.1, h.2.2⟩

theorem InNetwork.low (h : InNetwork c s) (hc : c ≠ .up) (c' : Stand) : InNetwork c' s :=
  ⟨fun hn => absurd (h.1 hn).1 hc, h.2.1, h.2.2⟩

theorem inNetwork_onLCPDown (h : InNetwork c s) (c' : Stand) : InNetwork c' (onLCPDown s) := by
  refine of_erased outsideIpcp (fun _ => Iff.rfl) (outsideIpcp_onLCPDown s) (h.goto ?_ c')
  split <;> decide

theorem inNetwork_sendPADT (reason : String) (h : InNetwork c s) :
    InNetwork c (sendPADT reason s) :=
  of_erased outsideIpcp (fun _ => Iff.rfl) (outsideIpcp_sendPADT reason s) h

theorem inNetwork_owner : Owner InNetwork where
  bare h hb := of_erased Exec.bare (fun _ => Iff.rfl) hb h
  acked := ⟨fun h => h.low (by decide) _, fun h => h.low (by decide) _⟩
  ending h := h.low (by decide) _
  down h := ⟨inNetwork_onLCPDown h _, inNetwork_onLCPDown h _⟩
  padt reason h := inNetwork_sendPADT reason h
  phase ph hph h := h.goto hph _
  rises h := ⟨fun hn => absurd (h.1 hn).1 (by decide), h.2⟩
  ended h := h.low (by decide) _

/-! ## 3. Every step keeps it -/

theorem InNetwork.authenticated (h : Inv lcpFsm InNetwork s)
    (hs : s.lcp.fsm.state = .opened) (hn : s.phase = .network) : s.authenticated = true := by
  obtain ⟨-, k, hk, hup, -⟩ := h.1 hn
  unfold Exec.authenticated
  rw [hs, Bool.and_eq_true, List.any_eq_true]
  exact ⟨by decide, k, hk, by simpa using hup⟩

theorem InNetwork.noteNcp (h : InNetwork c s) (ha : s.authenticated = true) :
    InNetwork c (noteNcp s) := by
  refine ⟨h.1, h.2.1, fun b hb => ?_⟩
  rcases List.mem_cons.mp hb with rfl | hb
  · exact ha
  · exact h.2.2 b hb

theorem InNetwork.requests {t : Exec} (h : InNetwork c s) {r : List Issued}
    (ht : t.outsideIpcp = { s with
      pap := t.pap, chap := t.chap,
      hist := { s.hist with requests := s.hist.requests ++ r } }.outsideIpcp) : InNetwork c t := by
  refine of_erased outsideIpcp (fun _ => Iff.rfl) ht ⟨fun hn => ?_, fun k hk => ?_, h.2.2⟩
  · obtain ⟨hc, k, hk, hup, hlt⟩ := h.1 hn
    exact ⟨hc, k, hk, hup, by simp only [List.length_append]; omega⟩
  · have := h.2.1 k hk
    simp only [List.length_append]
    omega

theorem inNetwork_papInput (p : Bytes) (n : Nat) (h : Inv lcpFsm InNetwork s) :
    Inv lcpFsm InNetwork (papInput p n s) := by
  rw [papInput_eq]
  split
  · exact h
  · exact InNetwork.requests h rfl

theorem inNetwork_chapInput (p : Bytes) (n : Nat) (h : Inv lcpFsm InNetwork s) :
    Inv lcpFsm InNetwork (chapInput p n s) := by
  rw [chapInput_eq]
  repeat' split
  · exact h
  · exact h
  · exact InNetwork.requests h rfl

/-- A packet reaches IPCP in the Network phase only, since an open LCP is never in
    Terminate. -/
theorem inNetwork_input (packet : Bytes) (len : Nat) (ho : OpenPhase s)
    (h : Inv lcpFsm InNetwork s) : Inv lcpFsm InNetwork (input packet len s) := by
  refine inNetwork_owner.input packet len (fun _ hs hph => ?_)
    (fun _ _ => inNetwork_papInput _ _ h) (fun _ _ => inNetwork_chapInput _ _ h) h
  have hn : s.phase = .network := by
    rcases ho hs with ha | hn
    · rw [ha] at hph
      exact absurd hph (Nat.lt_irrefl _)
    · exact hn
  exact inv_outsideIpcp (fun _ _ => Iff.rfl) (outsideIpcp_ipcpInput _ _ s)
    (InNetwork.noteNcp h (InNetwork.authenticated h hs hn))

theorem inNetwork_authenSuccess (protocol : UInt16) {t : Exec} (h : Inv lcpFsm InNetwork t)
    (hs : t.lcp.fsm.state = .opened) (ha : Accepted t) :
    Inv lcpFsm InNetwork (authenSuccess protocol t) := by
  unfold authenSuccess
  dsimp only
  generalize hu : newPhase .network { noteResult true protocol t with
    hist := { (noteResult true protocol t).hist with
      authorised := (noteResult true protocol t).hist.answering } } = u
  have huo : u.lcp.fsm.state = .opened := by
    subst hu
    exact hs
  have hinv : Inv lcpFsm InNetwork u := by
    subst hu
    refine ⟨fun _ => ⟨?_, ha⟩, h.2⟩
    rw [lcpFsm_get, huo]
    rfl
  refine inv_outsideIpcp (fun _ _ => Iff.rfl) (outsideIpcp_ipcpOpen u)
    (InNetwork.noteNcp hinv (InNetwork.authenticated hinv huo ?_))
  subst hu
  rfl

theorem inNetwork_noteResponse (k : Nat) (r : AuthResponse) (h : Inv lcpFsm InNetwork s) :
    Inv lcpFsm InNetwork (addressed k r s) := by
  refine of_erased (s := noteResponse k r s) outsideIpcp (fun _ => Iff.rfl) rfl ?_
  have hsub : ∀ j, j ∈ s.hist.accepted → j ∈ (noteResponse k r s).hist.accepted := by
    intro j hj
    simp only [noteResponse]
    split
    · exact List.mem_cons_of_mem _ hj
    · exact hj
  refine ⟨fun hn => ?_, fun j hj => ?_, h.2.2⟩
  · obtain ⟨hc, j, hj, hup, hlt⟩ := h.1 hn
    exact ⟨hc, j, hsub j hj, hup, hlt⟩
  simp only [noteResponse] at hj ⊢
  split at hj
  · rename_i hk
    rcases List.mem_cons.mp hj with rfl | hj
    · exact hk.2
    · exact h.2.1 j hj
  · exact h.2.1 j hj

theorem accepted_noteResponse (k : Nat) (r : AuthResponse) (s : Exec) (h0 : r.authResult = 0) :
    Accepted (addressed k r s) ↔
      s.hist.upMark ≤ k ∧ k < s.hist.requests.length ∨ Accepted s := by
  unfold Accepted
  simp only [addressed, setAddresses, noteResponse, h0, true_and]
  split
  · rename_i hk
    simp [hk]
  · rename_i hk
    simp [hk]

theorem inNetwork_response (k : Nat) (r : AuthResponse) (hok : ResultInTime s (.response k r))
    (h : Inv lcpFsm InNetwork s) : Inv lcpFsm InNetwork (response k r s) := by
  have hn := inNetwork_noteResponse k r h
  refine inNetwork_owner.onAuthResponse (fun h _ => h) _ _ (fun protocol t ht hd => ?_) hn
  have hd' : delivers r.authResult s = true := hd
  obtain ⟨hs, hk⟩ := hok hd'
  have h0 : r.authResult = 0 := delivers_accepting hd'
  have hb : Accepted t :=
    ht.keeps (fun _ => Iff.rfl) (fun _ h => h) ((accepted_noteResponse k r s h0).mpr hk)
  refine inNetwork_authenSuccess protocol ?_ (ht.lcp ▸ hs) hb
  exact inNetwork_owner.inv_bare (s := { addressed k r s with chap := t.chap })
    hn ht.bare (by rw [ht.lcp])

/-- **Every step that meets the condition keeps the invariant.** -/
theorem inNetwork_step (e : Event) (ho : OpenPhase s) (hok : ResultInTime s e)
    (h : Inv lcpFsm InNetwork s) : Inv lcpFsm InNetwork (step s e) := by
  cases e with
  | input packet len => exact inNetwork_input packet len ho h
  | timer t =>
    refine inNetwork_owner.expire t (fun _ _ hg => ?_)
      (inv_outsideIpcp (fun _ _ => Iff.rfl) (outsideIpcp_ipcpTimeout s) h) h
    exact InNetwork.low (s := noteFinished s) h (FsmState.stand_negotiating hg.1) _
  | response k r => exact inNetwork_response k r hok h

theorem inNetwork_start (c : Config) : Inv lcpFsm InNetwork (start c) := by
  refine fsmOpen_keeps inNetwork_owner.layerRules ?_
  unfold pppInit
  dsimp only
  split <;> exact ⟨nofun, nofun, nofun⟩

/-! ## 4. The condition is exact -/

theorem ncp_authenSuccess (protocol : UInt16) (t : Exec) :
    (authenSuccess protocol t).hist.ncp = t.authenticated :: t.hist.ncp :=
  congrArg (·.hist.ncp) (outsideIpcp_ipcpOpen _)

/-- A positive result outside the condition opens IPCP for a peer that is not authenticated. -/
theorem resultInTime_of_authenticated (e : Event) (h : Inv lcpFsm InNetwork s)
    (hp : AuthenticatedNetwork (step s e)) : ResultInTime s e := by
  cases e with
  | response k r =>
    intro hd
    have h0 : r.authResult = 0 := delivers_accepting hd
    have hn := (inNetwork_noteResponse k r h).2.1
    obtain ⟨protocol, t, ha, hu⟩ := (onAuthResponse_outcome r.authResult r.authResultDesc
      (addressed k r s)).success_of_delivers hd
    have hncp : (response k r s).hist.ncp = t.authenticated :: t.hist.ncp :=
      (congrArg (·.hist.ncp) hu.eq).trans (ncp_authenSuccess protocol t)
    have hauth : t.authenticated = true :=
      hp.2 _ (by show _ ∈ (response k r s).hist.ncp; rw [hncp]; exact List.mem_cons_self)
    unfold Exec.authenticated at hauth
    rw [Bool.and_eq_true, List.any_eq_true] at hauth
    obtain ⟨hs, j, hj, hup⟩ := hauth
    have hb := ha.bare
    have hacc : t.hist.accepted = (addressed k r s).hist.accepted :=
      congrArg (·.hist.accepted) hb
    have hmark : t.hist.upMark = s.hist.upMark := congrArg (·.hist.upMark) hb
    rw [hacc] at hj
    rw [hmark] at hup
    refine ⟨?_, (accepted_noteResponse k r s h0).mp ⟨j, hj, of_decide_eq_true hup, hn j hj⟩⟩
    have hl : t.lcp = s.lcp := ha.lcp
    rw [← hl]
    exact eq_of_beq hs
  | _ => trivial

/-- **Exactly the runs whose positive results come in time keep the Network phase and IPCP to
    peers authenticated since the latest LCP Up**, for every configuration and every
    interleaving of packets, timers and answers. -/
theorem network_authenticated_iff (c : Config) (es : List Event) :
    Throughout step AuthenticatedNetwork (start c) es ↔ Along step ResultInTime (start c) es := by
  refine throughout_iff_along (I := fun s => Inv lcpFsm InNetwork s ∧ OpenPhase s)
    (fun s e h hok => ⟨inNetwork_step e h.2 hok h.1, openPhase_step e h.2⟩) (fun s h => ?_)
    (fun s e h => resultInTime_of_authenticated e h.1) ⟨inNetwork_start c, openPhase_start c⟩ es
  refine ⟨fun hn => ?_, h.1.2.2⟩
  obtain ⟨hup, ha⟩ := h.1.1 hn
  rw [lcpFsm_get] at hup
  exact ⟨by_contra fun hs => stand_ne_up.mpr hs hup, ha⟩

/-- Under PAP: LCP comes up, the peer sends a request and then terminates LCP; the acceptance
    that arrives afterwards enters the Network phase and opens IPCP with LCP closing. -/
theorem late_accept_opens_ipcp :
    ¬ Throughout step AuthenticatedNetwork (start (.sample PPP_PAP))
      (Event.papRequested ++ [.control PPP_LCP TERMREQ 2 [], .accept]) :=
  fun h => absurd (throughout_last h) (by decide +kernel)

end Exec

end OpenBras
