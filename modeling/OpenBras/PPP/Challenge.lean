/-
  File:      OpenBras/PPP/Challenge.lean
  Subject:   WHAT A POSITIVE CHAP RESULT RESTS ON: over every run of a session configured for
             CHAP, the deliveries of `OnAuthenResult(1, ..)` against the requests the manager
             accepted.

  `CPPP::Input` passes PAP packets to the PAP server whatever was negotiated, and that server
  issues a request for each of them; `CPPP::OnAuthResponse` hands every answer to the CHAP
  server, because CHAP is configured. So the acceptance of a PAP password counts as the answer
  to the challenge.

  * An earlier challenge is no danger: until the first result there is only one
    (`Challenged`), and after it no positive result is delivered again.
  * **`challenge_answered_iff`**: a run is sound exactly if every answer that becomes a positive
    result answers a request of the CHAP server. `pap_password_passes_chap` is a run that is
    not.
-/
import OpenBras.Lib.Run
import OpenBras.PPP.Phase

namespace OpenBras

open Wire

namespace Exec

open CPPPFsm

/-! ## 1. The property -/

/-- The request carries the answer to this challenge packet. -/
def Answers (challenge : Bytes) (i : Issued) : Prop :=
  i.server = PPP_CHAP ∧ i.request.authtype = PPP_CHAP.toUInt8 ∧
    i.request.challenge = challengeValue challenge ∧ i.request.chapid = challengeId challenge

instance (challenge : Bytes) (i : Issued) : Decidable (Answers challenge i) :=
  inferInstanceAs (Decidable (_ ∧ _ ∧ _ ∧ _))

/-- Every positive result was delivered after a request was accepted that answers the challenge
    outstanding then. -/
def ChallengeAnswered (s : Exec) : Prop :=
  ∀ n ∈ s.hist.results, n.ok = true →
    ∃ k ∈ n.accepted, ∃ i ∈ s.hist.requests[k]?, Answers n.challenge i

instance (s : Exec) : Decidable (ChallengeAnswered s) :=
  inferInstanceAs (Decidable (∀ n ∈ s.hist.results, n.ok = true →
    ∃ k ∈ n.accepted, ∃ i ∈ s.hist.requests[k]?, Answers n.challenge i))

/-- The condition on a step: an answer that becomes a positive result answers a request of the
    CHAP server. -/
def AnswersChap (s : Exec) : Event → Prop
  | .response k r => delivers r.authResult s = true →
      ∃ i ∈ s.hist.requests[k]?, i.server = PPP_CHAP
  | _ => True

instance (s : Exec) : ∀ e, Decidable (AnswersChap s e)
  | .response k r => inferInstanceAs (Decidable (delivers r.authResult s = true →
      ∃ i ∈ s.hist.requests[k]?, i.server = PPP_CHAP))
  | .input .. | .timer _ => isTrue trivial

/-! ## 2. The invariant -/

/-- Before the first result: the requests of the CHAP server answer the challenge in force, and
    none of them has been accepted. -/
def Unsettled (s : Exec) : Prop :=
  (∀ i ∈ s.hist.requests, i.server = PPP_CHAP →
      s.chap.flags.challengeValid = true ∧ Answers s.chap.challenge i) ∧
    ∀ k ∈ s.hist.accepted, ∀ i ∈ s.hist.requests[k]?, i.server ≠ PPP_CHAP

/-- What holds wherever CHAP stands. -/
def Sound (s : Exec) : Prop :=
  s.lcp.authType = PPP_CHAP ∧ (∀ k ∈ s.hist.accepted, k < s.hist.requests.length) ∧
    ChallengeAnswered s

def Challenged (s : Exec) : Prop :=
  Sound s ∧ (s.chap.flags.authDone = false → Unsettled s)

variable {s : Exec}

theorem sound_failure (protocol : UInt16) (h : Sound s) : Sound (noteResult false protocol s) := by
  refine ⟨h.1, h.2.1, fun n hn hok => ?_⟩
  rcases List.mem_cons.mp hn with rfl | hn
  · cases hok
  · exact h.2.2 n hn hok

theorem sound_onLCPDown (h : Sound s) : Sound (onLCPDown s) :=
  of_erased outsideIpcp (fun _ => Iff.rfl) (outsideIpcp_onLCPDown s) h

theorem sound_sendPADT (reason : String) (h : Sound s) : Sound (sendPADT reason s) :=
  of_erased outsideIpcp (fun _ => Iff.rfl) (outsideIpcp_sendPADT reason s) h

theorem sound_owner : Owner fun _ => Sound where
  bare h hb := of_erased Exec.bare (fun _ => Iff.rfl) hb h
  down h := ⟨sound_onLCPDown h, sound_onLCPDown h⟩
  padt reason h := sound_sendPADT reason h
  failure protocol h := sound_failure protocol h

theorem challenged_owner : Owner fun _ => Challenged where
  bare h hb := of_erased Exec.bare (fun _ => Iff.rfl) hb h
  down h := by
    have := of_erased outsideIpcp (A := Challenged) (fun _ => Iff.rfl) (outsideIpcp_onLCPDown _) h
    exact ⟨this, this⟩
  padt reason h := of_erased outsideIpcp (fun _ => Iff.rfl) (outsideIpcp_sendPADT reason _) h
  failure protocol h := ⟨sound_failure protocol h.1, h.2⟩
  chapQuiet h hq := by
    refine ⟨h.1, fun hd => ⟨fun i hi hs => ?_, (h.2 (hq.authDone ▸ hd)).2⟩⟩
    rw [hq.challengeValid, hq.challenge]
    exact (h.2 (hq.authDone ▸ hd)).1 i hi hs
  challenge h hv _ hd _ := by
    -- no challenge was outstanding, so the CHAP server has issued nothing
    refine ⟨h.1, fun hd' => ⟨fun i hi hs => ?_, (h.2 (hd ▸ hd')).2⟩⟩
    have := ((h.2 (hd ▸ hd')).1 i hi hs).1
    rw [hv] at this
    cases this
  chapDone h hd _ := ⟨h.1, fun hd' => absurd (hd.symm.trans hd') (by decide)⟩

/-! ## 3. Requests -/

/-- **A new request keeps the invariant**, if one of the CHAP server answers the challenge in
    force. -/
theorem Challenged.request {t : Exec} (h : Challenged s) (i : Issued)
    (hi : i.server = PPP_CHAP → s.chap.flags.challengeValid = true ∧ Answers s.chap.challenge i)
    (hchap : t.chap.challenge = s.chap.challenge ∧ t.chap.flags.authDone = s.chap.flags.authDone ∧
      t.chap.flags.challengeValid = s.chap.flags.challengeValid) (ht : t.outsideIpcp = { s with
      pap := t.pap, chap := t.chap,
      hist := { s.hist with requests := s.hist.requests ++ [i] } }.outsideIpcp) : Challenged t := by
  refine of_erased outsideIpcp (fun _ => Iff.rfl) ht ?_
  obtain ⟨⟨htype, hlt, hans⟩, hun⟩ := h
  refine ⟨⟨htype, fun k hk => ?_, fun n hn hok => ?_⟩, fun hd => ⟨fun j hj hs => ?_, ?_⟩⟩
  · have := hlt k hk
    simp only [List.length_append, List.length_singleton]
    omega
  · obtain ⟨k, hk, j, hj, ha⟩ := hans n hn hok
    exact ⟨k, hk, j, mem_getElem?_append hj, ha⟩
  · have hu := (hun (hchap.2.1 ▸ hd)).1
    show t.chap.flags.challengeValid = true ∧ Answers t.chap.challenge j
    rw [hchap.1, hchap.2.2]
    rcases List.mem_append.mp hj with hj | hj
    · exact hu j hj hs
    · rw [List.mem_singleton.mp hj] at hs ⊢
      exact hi hs
  · intro k hk j hj
    have hu := (hun (hchap.2.1 ▸ hd)).2 k hk
    rw [show (s.hist.requests ++ [i])[k]? = s.hist.requests[k]? from
      List.getElem?_append_left (hlt k hk)] at hj
    exact hu j hj

theorem challenged_papInput (p : Bytes) (n : Nat) (h : Challenged s) :
    Challenged (papInput p n s) := by
  rw [papInput_eq]
  split
  · exact h
  · exact h.request _ (fun hs => absurd hs (show PPP_PAP ≠ PPP_CHAP by decide)) ⟨rfl, rfl, rfl⟩ rfl

theorem chapRead_valid {p : Bytes} {n : Nat} {c : Bytes × Bytes} (h : chapRead p n s = some c) :
    s.chap.flags.challengeValid = true := by
  unfold chapRead at h
  split at h
  · cases h
  split at h
  · rename_i hc
    exact hc.2.2.2
  · cases h

theorem challenged_chapInput (p : Bytes) (n : Nat) (h : Challenged s) :
    Challenged (chapInput p n s) := by
  rw [chapInput_eq]
  split
  · exact h
  rename_i response name hr
  split
  · exact h
  · exact h.request _ (fun _ => ⟨chapRead_valid hr, rfl, rfl, rfl, rfl⟩) ⟨rfl, rfl, rfl⟩ rfl

/-! ## 4. Answers -/

theorem sound_noteResponse (k : Nat) (r : AuthResponse) (h : Sound s) :
    Sound (addressed k r s) := by
  refine ⟨h.1, fun j hj => ?_, h.2.2⟩
  simp only [addressed, setAddresses, noteResponse] at hj ⊢
  split at hj
  · rename_i hk
    rcases List.mem_cons.mp hj with rfl | hj
    · exact hk.2
    · exact h.2.1 j hj
  · exact h.2.1 j hj

theorem sound_answered {t : Exec} (ha : Answered s t) (h : Sound s) : Sound t :=
  ha.keeps (fun _ => Iff.rfl) (fun _ h => h) h

theorem results_authenSuccess (protocol : UInt16) (t : Exec) :
    (authenSuccess protocol t).hist.results =
      { ok := true, protocol := protocol, accepted := t.hist.accepted,
        challenge := t.chap.challenge } :: t.hist.results :=
  congrArg (·.hist.results) (outsideIpcp_ipcpOpen _)

theorem sound_authenSuccess (protocol : UInt16) {t : Exec} (h : Sound t)
    (ha : ∃ k ∈ t.hist.accepted, ∃ i ∈ t.hist.requests[k]?, Answers t.chap.challenge i) :
    Sound (authenSuccess protocol t) := by
  refine of_erased outsideIpcp (fun _ => Iff.rfl) (outsideIpcp_ipcpOpen _) ⟨h.1, h.2.1, ?_⟩
  intro n hn hok
  rcases List.mem_cons.mp hn with rfl | hn
  · exact ha
  · exact h.2.2 n hn hok

/-- Without a challenge the CHAP server has issued nothing. -/
theorem Unsettled.without (h : Unsettled s) (hv : s.chap.flags.challengeValid = false) {i : Issued}
    (hi : i ∈ s.hist.requests) : i.server ≠ PPP_CHAP := by
  intro hs
  have := (h.1 i hi hs).1
  rw [hv] at this
  cases this

/-- **An answer keeps the invariant under the condition.** Only the record of the acceptance
    breaks `Unsettled`, and then CHAP is done. -/
theorem challenged_response (k : Nat) (r : AuthResponse) (hok : AnswersChap s (.response k r))
    (h : Challenged s) : Challenged (response k r s) := by
  have hn := sound_noteResponse k r h.1
  have done : ∀ {u : Exec}, Sound u → u.chap.flags.authDone = true → Challenged u :=
    fun hu hd => ⟨hu, fun hd' => absurd (hd.symm.trans hd') (by decide)⟩
  cases onAuthResponse_outcome r.authResult r.authResultDesc
    (addressed k r s) with
  | quiet ha _ _ hq =>
    rcases hq with ⟨hq, hv⟩ | hd
    · refine ⟨sound_answered ha hn, fun hd => ?_⟩
      have hun := h.2 (hq.authDone ▸ hd)
      have hreq : (response k r s).hist.requests = s.hist.requests :=
        congrArg (·.hist.requests) ha.bare
      have none : ∀ i ∈ (response k r s).hist.requests, i.server ≠ PPP_CHAP := by
        rw [hreq]
        exact fun i => hun.without (hv h.1.1)
      exact ⟨fun i hi hs => absurd hs (none i hi),
        fun j _ i hi => none i (List.mem_of_getElem? hi)⟩
    · exact done (sound_answered ha hn) hd
  | success protocol t ha hd hu hdone =>
    obtain ⟨i, hi, hs⟩ := hok hd
    have hun := h.2 (delivers_chap h.1.1 hd).2
    have hk : k < s.hist.requests.length := (List.getElem?_eq_some_iff.mp hi).1
    have hacc : t.hist.accepted = k :: s.hist.accepted := by
      refine (congrArg (·.hist.accepted) ha.bare).trans ?_
      simp [bare, addressed, setAddresses, noteResponse, delivers_accepting hd, hk]
    have hreq : t.hist.requests = s.hist.requests := congrArg (·.hist.requests) ha.bare
    refine done (hu.keeps (fun _ _ h => h) (sound_authenSuccess protocol (sound_answered ha hn) ?_))
      (hdone h.1.1)
    refine ⟨k, ?_, i, hreq ▸ hi, ?_⟩
    · rw [hacc]
      exact List.mem_cons_self
    · rw [ha.challenge]
      exact (hun.1 i (List.mem_of_getElem? hi) hs).2
  | failure protocol t ha _ hu hdone =>
    have hf : Sound (authenFailure protocol t) :=
      sound_owner.authenFailure protocol (sound_answered ha hn)
    exact done (hu.keeps (fun _ _ h => h) hf) (hdone h.1.1)

/-! ## 5. Runs -/

/-- **Every step that meets the condition keeps the invariant.** -/
theorem challenged_step (e : Event) (hok : AnswersChap s e) (h : Challenged s) :
    Challenged (step s e) := by
  cases e with
  | input packet len =>
    refine challenged_owner.input packet len (fun _ _ _ => ?_)
      (fun _ _ => challenged_papInput _ _ h) (fun _ _ => challenged_chapInput _ _ h) h
    exact inv_outsideIpcp (J := fun _ => Challenged) (s := noteNcp s) (fun _ _ => Iff.rfl)
      (outsideIpcp_ipcpInput _ _ s) h
  | timer t =>
    exact challenged_owner.expire t (fun _ _ _ => h)
      (inv_outsideIpcp (J := fun _ => Challenged) (fun _ _ => Iff.rfl)
        (outsideIpcp_ipcpTimeout s) h) h
  | response k r => exact challenged_response k r hok h

theorem challenged_start {c : Config} (hc : c.authType = PPP_CHAP) : Challenged (start c) := by
  refine fsmOpen_keeps (J := fun _ => Challenged) challenged_owner.layerRules ?_
  unfold pppInit
  dsimp only
  split <;> exact ⟨⟨hc, nofun, nofun⟩, fun _ => ⟨nofun, nofun⟩⟩

/-- A positive result outside the condition rests on no request of the CHAP server. -/
theorem answersChap_of_answered (e : Event) (h : Challenged s) (hp : ChallengeAnswered (step s e)) :
    AnswersChap s e := by
  cases e with
  | response k r =>
    intro hd
    obtain ⟨protocol, t, ha, hu⟩ := (onAuthResponse_outcome r.authResult r.authResultDesc
      (addressed k r s)).success_of_delivers hd
    have hres : (response k r s).hist.results = _ :=
      (congrArg (·.hist.results) hu.eq).trans (results_authenSuccess protocol t)
    obtain ⟨j, hj, i, hi, hs, -⟩ := hp _ (hres ▸ List.mem_cons_self) rfl
    have hacc : t.hist.accepted = (noteResponse k r s).hist.accepted :=
      congrArg (·.hist.accepted) ha.bare
    have hreq : (response k r s).hist.requests = s.hist.requests := (hu.requests ha).trans rfl
    have hi' : i ∈ s.hist.requests[j]? := hreq ▸ hi
    have old : j ∈ s.hist.accepted → False := fun hj =>
      (h.2 (delivers_chap h.1.1 hd).2).2 j hj i hi' hs
    have hj' : j ∈ (noteResponse k r s).hist.accepted := hacc ▸ hj
    simp only [noteResponse] at hj'
    split at hj'
    · rcases List.mem_cons.mp hj' with rfl | hj'
      · exact ⟨i, hi', hs⟩
      · exact absurd hj' old
    · exact absurd hj' old
  | _ => trivial

/-- **Exactly the runs whose positive results answer requests of the CHAP server rest every
    positive result on the challenge outstanding then**, for every session configured for CHAP
    and every interleaving of packets, timers and answers. -/
theorem challenge_answered_iff {c : Config} (hc : c.authType = PPP_CHAP) (es : List Event) :
    Throughout step ChallengeAnswered (start c) es ↔ Along step AnswersChap (start c) es :=
  throughout_iff_along (I := Challenged) (fun _ e h hok => challenged_step e hok h)
    (fun _ h => h.1.2.2) (fun _ e h => answersChap_of_answered e h) (challenged_start hc) es

/-- A session that keeps to the condition: LCP comes up with CHAP, the peer answers the
    challenge, the manager accepts, and says so twice. -/
theorem challenge_answered_exchange :
    (Config.sample PPP_CHAP).authType = PPP_CHAP ∧
      Throughout step ChallengeAnswered (start (.sample PPP_CHAP))
        [.control PPP_LCP CONFACK 1 [1, 4, 5, 212, 3, 5, 194, 35, 5, 5, 6, 0, 0, 0, 0],
         .control PPP_LCP CONFREQ 1 [], .control PPP_CHAP CHAP_RESPONSE 1 [1, 7, 97],
         .response 0 { session := 1, mac := [2, 0, 0, 0, 0, 1], authResult := 0 },
         .response 0 { session := 1, mac := [2, 0, 0, 0, 0, 1], authResult := 0 }] :=
  ⟨rfl, (challenge_answered_iff rfl _).mpr (by decide +kernel)⟩

/-- Under CHAP: LCP comes up and the challenge goes out; the peer sends a PAP password instead,
    the manager accepts it, and the CHAP server delivers a positive result. -/
theorem pap_password_passes_chap :
    ¬ Throughout step ChallengeAnswered (start (.sample PPP_CHAP))
      [.control PPP_LCP CONFACK 1 [1, 4, 5, 212, 3, 5, 194, 35, 5, 5, 6, 0, 0, 0, 0],
       .control PPP_LCP CONFREQ 1 [], .control PPP_PAP UPAP_AUTHREQ 1 [1, 97, 1, 98],
       .response 0 { session := 1, mac := [2, 0, 0, 0, 0, 1], authResult := 0 }] :=
  fun h => absurd (throughout_last h) (by decide +kernel)

end Exec

end OpenBras
