/-
  File:      OpenBras/PPP/Incarnation.lean
  Subject:   CHAP AND THE LCP INCARNATIONS: over every run of a session configured for CHAP, how
             many positive results are delivered between an LCP Up and the next LCP Down.

  `CPPP::OnLCPDown` does not call `LowerDown` of the CHAP server, the only method that clears
  AUTH_DONE and AUTH_FAILED. So both outlive the incarnation in which they were set: a new
  challenge goes out and is answered, and the acceptance is swallowed.

  * `Standing` -- what counts for this: the flags of the CHAP server, the requests, which of them
    were accepted, and the positive results;
  * `standing_response` -- an answer of the manager in these terms (`Standing.answer`);
  * `Risen`, `risen_lcpInput` -- an LCP Up keeps both flags, if the link stays open;
  * `Moves`, `standing_expire` -- other packets leave the standing alone or add a request, and
    the timers leave it alone;
  * `Stage`, `stage_step` -- how far an incarnation has got;
  * **`one_result_iff`** -- an incarnation in which a response to its challenge is accepted
    delivers exactly one positive result if and only if neither flag was set before it;
    `second_incarnation_unanswered` is a run where one was.
-/
import OpenBras.PPP.Challenge

namespace OpenBras

open Wire

namespace Exec

open CPPPFsm

/-! ## 1. The property -/

/-- How many positive results have been delivered. -/
def positives (s : Exec) : Nat := s.hist.results.countP (·.ok)

/-- LCP comes up at the event `e`, after the events `es`, and every event of `later` finds it
    open; the last of them may take it down. -/
structure Incarnation (c : Config) (es : List Event) (e : Event) (later : List Event) : Prop where
  down : (run step (start c) es).lcp.fsm.state ≠ .opened
  up : (step (run step (start c) es) e).lcp.fsm.state = .opened
  opened : Along step (fun s _ => s.lcp.fsm.state = .opened) (step (run step (start c) es) e) later

/-- A request that the CHAP server issued, after the first `since` requests, is accepted. -/
def AcceptedSince (since : Nat) (t : Exec) : Prop :=
  ∃ k ∈ t.hist.accepted, since ≤ k ∧ ∃ i ∈ t.hist.requests[k]?, i.server = PPP_CHAP

instance (since : Nat) (t : Exec) : Decidable (AcceptedSince since t) :=
  inferInstanceAs (Decidable (∃ k ∈ t.hist.accepted, since ≤ k ∧
    ∃ i ∈ t.hist.requests[k]?, i.server = PPP_CHAP))

/-! ## 2. What counts for it -/

structure Standing where
  authType : UInt16
  valid : Bool
  done : Bool
  failed : Bool
  timer : Bool
  rechallengeTime : Nat
  positives : Nat
  requests : List Issued
  accepted : List Nat
  deriving DecidableEq

def standing (s : Exec) : Standing where
  authType := s.lcp.authType
  valid := s.chap.flags.challengeValid
  done := s.chap.flags.authDone
  failed := s.chap.flags.authFailed
  timer := s.chap.timer
  rechallengeTime := s.chap.rechallengeTime
  positives := s.positives
  requests := s.hist.requests
  accepted := s.hist.accepted

/-- What holds in every state of a session configured for CHAP. No method starts the timer of
    the CHAP server while the rechallenge time is 0. -/
structure Standing.Calm (x : Standing) : Prop where
  authType : x.authType = PPP_CHAP
  timer : x.timer = false
  rechallengeTime : x.rechallengeTime = 0
  accepted : ∀ k ∈ x.accepted, k < x.requests.length

/-- `y` is `x` but for the flags. -/
def Standing.SameRest (x y : Standing) : Prop :=
  y = { x with valid := y.valid, done := y.done, failed := y.failed }

variable {x y : Standing} {s t : Exec} (p : Bytes)

theorem Standing.Calm.of_sameRest (h : x.Calm) (hy : x.SameRest y) : y.Calm := by
  rw [hy]
  exact ⟨h.authType, h.timer, h.rechallengeTime, h.accepted⟩

theorem Standing.SameRest.flags (h : x.SameRest y) (v d f : Bool) :
    x.SameRest { y with valid := v, done := d, failed := f } := by
  unfold Standing.SameRest
  rw [h]

theorem standing_of_bare (h : t.bare = s.bare) : standing t = standing s := by
  have e : standing t.bare = standing s.bare := congrArg standing h
  exact e

theorem standing_of_outsideIpcp (h : t.outsideIpcp = s.outsideIpcp) : standing t = standing s := by
  have e : standing t.outsideIpcp = standing s.outsideIpcp := congrArg standing h
  exact e

theorem standing_onPPPOutput (s : Exec) : standing (onPPPOutput p s) = standing s :=
  standing_of_bare (bare_onPPPOutput p s)

theorem standing_sendPADT (reason : String) (s : Exec) :
    standing (sendPADT reason s) = standing s :=
  standing_of_outsideIpcp (outsideIpcp_sendPADT reason s)

/-! ## 3. LCP's automaton -/

/-- A condition on the standing, by where LCP's automaton stands. -/
def At (Q : Stand → Standing → Prop) (c : Stand) (s : Exec) : Prop := Q c (standing s)

section Rules

/- What holds anywhere holds wherever the automaton is not up. -/
variable {Q : Stand → Standing → Prop} (hlow : ∀ c c' x, c' ≠ .up → Q c x → Q c' x)

include hlow

theorem standingLink : LinkOwner (At Q) where
  lcp l n ha _ h := by
    unfold At standing at h ⊢
    rw [ha]
    exact h
  output p h := by
    unfold At
    rwa [standing_onPPPOutput]
  acked := ⟨fun h => hlow _ _ _ nofun h, fun h => hlow _ _ _ nofun h⟩
  ending h := hlow _ _ _ nofun h
  down {_ s} h := by
    have hs : standing (onLCPDown s) = standing s :=
      (standing_of_outsideIpcp (outsideIpcp_onLCPDown _)).trans rfl
    unfold At
    rw [hs]
    exact ⟨hlow _ _ _ nofun h, hlow _ _ _ nofun h⟩
  padt reason h := by
    unfold At
    rwa [standing_sendPADT]
  dead h := h
  ended h := hlow _ _ _ nofun h
  finished _ h := h

end Rules

/-! ## 4. What leaves the standing alone -/

theorem low_eq (x : Standing) : ∀ c c' y, c' ≠ Stand.up → (fun _ : Stand => (· = x)) c y →
    (fun _ : Stand => (· = x)) c' y := fun _ _ _ _ h => h

theorem standing_close (reason : String) (s : Exec) :
    standing (lcpCloseFsm reason s) = standing s :=
  (standingLink (low_eq (standing s))).close reason rfl

theorem standing_authenFailure (protocol : UInt16) (s : Exec) :
    standing (authenFailure protocol s) = standing s :=
  (standing_close _ _).trans rfl

theorem standing_authenSuccess (protocol : UInt16) (s : Exec) :
    standing (authenSuccess protocol s) =
      { standing s with positives := s.positives + 1 } :=
  (standing_of_outsideIpcp (outsideIpcp_ipcpOpen _)).trans (by
    simp [standing, noteNcp, newPhase, noteResult, positives])

theorem standing_sendEchoRequest (s : Exec) : standing (sendEchoRequest s) = standing s :=
  (standingLink (low_eq (standing s))).sendEchoRequest rfl

theorem rules_still (x : Standing) :
    FsmRules lcpFsm { lcpSink with up := id } (At fun _ => (· = x)) :=
  (standingLink (low_eq x)).rules fun _ _ h => h

theorem standing_lcpTimeout (s : Exec) :
    standing (CPPPFsm.timeout lcpFsm lcpSink s) = standing s := by
  exact timeout_keeps (rules_still (standing s)).toTimerRules
    (fun _ _ _ => (standingLink (low_eq (standing s))).terminate (fun _ => rfl) rfl) rfl

/-- A packet that finds LCP open does not bring it up: `Up` may be left out. -/
theorem standing_lcpInput_opened (n : Nat) (hs : s.lcp.fsm.state = .opened) :
    standing (CPPPFsm.input lcpFsm lcpSink p n s) = standing s := by
  rw [input_congr_up (s := s) (rules_still (standing s)) p n (P := fun _ => False)
    (fun _ _ h => h) (fun _ _ h => h) (fun _ _ _ _ h => h) (fun _ _ _ h => h) (fun _ h => h.elim) fun code _ _ _ ha => by
      rw [lcpFsm_get, hs] at ha
      rcases ha with ⟨_, h⟩ | ⟨_, h⟩ <;> cases h]
  exact input_keeps (rules_still (standing s)) p n
    (fun _ p n r _ _ ht => (standingLink (low_eq (standing s))).nakci p n r ht) rfl

/-! ## 5. LCP comes up -/

/-- `t` comes of the standing `x` by an LCP Up: only flags have changed, and the two that
    outlive the incarnation have not where the link is open. -/
structure Risen (x : Standing) (t : Exec) : Prop where
  rest : x.SameRest (standing t)
  flags : t.lcp.fsm.state = .opened →
    t.chap.flags.authDone = x.done ∧ t.chap.flags.authFailed = x.failed

theorem Risen.of_standing (h : standing s = x) : Risen x s := by
  subst h
  exact ⟨rfl, fun _ => ⟨rfl, rfl⟩⟩

theorem Risen.same (h : Risen x s) (hs : standing t = standing s)
    (hl : t.lcp.fsm.state = s.lcp.fsm.state) : Risen x t := by
  refine ⟨hs ▸ h.rest, fun ht => ?_⟩
  have hd : t.chap.flags.authDone = s.chap.flags.authDone := congrArg (·.done) hs
  have hf : t.chap.flags.authFailed = s.chap.flags.authFailed := congrArg (·.failed) hs
  rw [hd, hf]
  exact h.flags (hl ▸ ht)

theorem Risen.close (reason : String) (h : x.SameRest (standing s)) :
    Risen x (lcpCloseFsm reason s) := by
  refine ⟨?_, fun ht => absurd ht (close_not_opened reason s)⟩
  rw [standing_close]
  exact h

theorem Risen.challenger : Challenger (Risen x) where
  asked h ht := by
    rw [ht]
    exact h.same rfl rfl
  fresh _ h := ⟨h.rest.flags true _ _, h.flags⟩
  send h := h.same (standing_onPPPOutput _ _) (congrArg (·.fsm.state) (lcp_onPPPOutput _ _))
  fails h := Risen.close _ (h.rest.flags false true true)
  papTimer h := h.same rfl rfl

/-- **An LCP Up leaves AUTH_DONE and AUTH_FAILED as they were**, unless it closes the link. -/
theorem risen_lcpUp (hs : s.lcp.fsm.state = .opened) : Risen (standing s) (lcpUp s) := by
  have he := (Owner.bare_echoLowerUp (s := settle s) hs).1
  have hst : standing (settle s) = standing s := rfl
  have hup := Risen.challenger.authLowerUp (s := markUp (echoLowerUp (settle s)))
    (Risen.of_standing ((standing_of_bare he).trans hst))
  exact Risen.challenger.authenticatePeer (Risen.close _ hup.rest) (hup.same rfl rfl)

/-- **A packet for LCP changes the standing only by an Up.** `Up` happens where the standing is
    still that of `s`; elsewhere another `Up` may stand in for it, one that leaves no open link. -/
theorem risen_lcpInput (n : Nat) (s : Exec) :
    Risen (standing s) (CPPPFsm.input lcpFsm lcpSink p n s) := by
  let Q : Stand → Standing → Prop := fun c y => (standing s).SameRest y ∧
    (c = .up → y.done = (standing s).done ∧ y.failed = (standing s).failed)
  have hlow : ∀ c c' y, c' ≠ .up → Q c y → Q c' y :=
    fun _ _ _ hc h => ⟨h.1, fun h' => absurd h' hc⟩
  have inv_iff : ∀ t, CPPPFsm.Inv lcpFsm (At Q) t ↔ Risen (standing s) t := by
    intro t
    have hup : (lcpFsm.get t).state.stand = .up ↔ t.lcp.fsm.state = .opened := by
      rw [lcpFsm_get]
      cases t.lcp.fsm.state <;> decide
    exact ⟨fun h => ⟨h.1, fun ht => h.2 (hup.mpr ht)⟩,
      fun h => ⟨h.rest, fun ht => h.flags (hup.mp ht)⟩⟩
  let u : Exec → Exec := fun t =>
    if standing t = standing s then lcpUp t else setState lcpFsm .closed t
  have rules : FsmRules lcpFsm { lcpSink with up := u } (At Q) := by
    refine (standingLink hlow).rules fun t ht h => ?_
    by_cases he : standing t = standing s
    · rw [show u t = lcpUp t from if_pos he, inv_iff, ← he]
      exact risen_lcpUp ht
    · rw [show u t = setState lcpFsm .closed t from if_neg he]
      exact (standingLink hlow).ciRules.goto .closed (hlow _ _ _ nofun h)
  rw [input_congr_up (s := s) rules p n (P := fun t => standing t = standing s)
    (fun _ _ h => h) (fun p t h => (standing_onPPPOutput p t).trans h) (fun _ _ _ _ h => h)
    (fun _ _ _ h => h) (fun t h => (if_pos h).symm) fun _ _ _ _ _ => rfl]
  exact (inv_iff _).mp (input_keeps rules p n
    (fun _ p n r _ _ ht => (standingLink hlow).nakci p n r ht) ((inv_iff s).mpr (.of_standing rfl)))

/-! ## 6. The manager's answers -/

/-- What an answer comes to: it uses up the challenge, and a positive result needs one that was
    outstanding, with neither flag set. -/
def Standing.judge (ok : Bool) (x : Standing) : Standing :=
  { x with
    valid := false, done := x.done || x.valid, failed := x.failed || !ok,
    positives := x.positives + if x.valid && !(x.failed || !ok) && !x.done then 1 else 0 }

/-- The answer to request `k`. -/
def Standing.answer (k : Nat) (ok : Bool) (x : Standing) : Standing :=
  Standing.judge ok
    { x with accepted := if ok ∧ k < x.requests.length then k :: x.accepted else x.accepted }

theorem standing_chapResult (h0 : s.chap.rechallengeTime = 0) :
    standing (chapResult s) = { standing s with
      positives := s.positives +
        if s.chap.flags.authFailed || s.chap.flags.authDone then 0 else 1 } := by
  have again : ∀ t : Exec, t.chap.rechallengeTime = 0 → chapRechallenge t = t := by
    intro t ht
    unfold chapRechallenge
    rw [if_neg (not_not.mpr ht)]
  unfold chapResult
  cases hf : s.chap.flags.authFailed
  · cases hd : s.chap.flags.authDone
    · have hs := standing_authenSuccess PPP_CHAP s
      have hr : (authenSuccess PPP_CHAP s).chap.rechallengeTime = 0 :=
        (congrArg (·.rechallengeTime) hs).trans h0
      simp only [Bool.false_eq_true, if_false, Bool.or_false, again _ hr]
      exact hs
    · simp only [Bool.false_eq_true, if_false, if_true, Bool.or_true, again _ h0]
      rfl
  · exact standing_authenFailure _ _

theorem standing_chapReply (result : UInt32) (reason : Bytes) (s : Exec) :
    standing (chapReply reason (chapFail result s)) =
    { standing s with failed := s.chap.flags.authFailed || !(result == 0) } := by
  have hr : ∀ t, standing (chapReply reason t) = standing t := by
    intro t
    exact standing_onPPPOutput _ _
  rw [hr, chapFail]
  by_cases h0 : result = 0
  · simp [h0, standing]
  · simp [h0, standing, setChapFlags, positives]

theorem standing_chapResponse (result : UInt32) (reason : Bytes) (h0 : s.chap.rechallengeTime = 0) :
    standing (chapResponseAuthenResult result reason s) =
      (standing s).judge (result == 0) := by
  have hr := standing_chapReply result reason s
  unfold chapResponseAuthenResult
  generalize chapReply reason _ = t at hr ⊢
  have hv : t.chap.flags.challengeValid = s.chap.flags.challengeValid := congrArg (·.valid) hr
  dsimp only
  rw [hv]
  cases hs : s.chap.flags.challengeValid
  · -- no challenge is outstanding: only the flag of a rejection stays
    rw [if_neg (by decide), hr]
    simp [standing, Standing.judge, hs]
  · rw [if_pos rfl]
    have hres := standing_chapResult (s := setChapFlags (fun f => { f with
      challengeValid := false }) t) ((congrArg (·.rechallengeTime) hr).trans h0)
    have hw : standing (setChapFlags (fun f => { f with challengeValid := false }) t) =
        { standing t with valid := false } := rfl
    have hset : ∀ w, standing (setChapFlags (fun f => { f with authDone := true }) w) =
        { standing w with done := true } := fun _ => rfl
    have hd : t.chap.flags.authDone = s.chap.flags.authDone := congrArg (·.done) hr
    have hf : t.chap.flags.authFailed = (s.chap.flags.authFailed || !(result == 0)) :=
      congrArg (·.failed) hr
    have hp : t.positives = s.positives := congrArg (·.positives) hr
    have hp' : (setChapFlags (fun f => { f with challengeValid := false }) t).positives =
      s.positives := hp
    rw [hset, hres, hw, hr, hp']
    simp only [setChapFlags, hd, hf, Standing.judge, standing, hs, Bool.or_true, Bool.true_and]
    cases s.chap.flags.authFailed <;> cases s.chap.flags.authDone <;> cases result == 0 <;> rfl

/-- **What an answer of the manager does** to a session configured for CHAP. -/
theorem standing_response (k : Nat) (r : AuthResponse) (h : (standing s).Calm) :
    standing (response k r s) = (standing s).answer k (r.authResult == 0) := by
  have hset : standing (addressed k r s) = { standing s with
      accepted := if (r.authResult == 0) = true ∧ k < s.hist.requests.length then
        k :: s.hist.accepted else s.hist.accepted } := by
    simp only [beq_iff_eq]
    rfl
  unfold response onAuthResponse
  rw [if_pos (show (addressed k r s).lcp.authType = PPP_CHAP from h.authType),
    standing_chapResponse (s := addressed k r s) _ _ h.rechallengeTime, hset]
  rfl

/-- An answer that finds the challenge outstanding closes the link, if it rejects or something
    has failed before. -/
theorem response_not_opened (k : Nat) (r : AuthResponse) (h : (standing s).Calm)
    (hv : s.chap.flags.challengeValid = true)
    (hf : (s.chap.flags.authFailed || !(r.authResult == 0)) = true) :
    (response k r s).lcp.fsm.state ≠ .opened := by
  have hr := standing_chapReply r.authResult r.authResultDesc (addressed k r s)
  unfold response onAuthResponse chapResponseAuthenResult
  rw [if_pos (show (addressed k r s).lcp.authType = PPP_CHAP from h.authType)]
  generalize chapReply r.authResultDesc _ = t at hr ⊢
  have hvt : t.chap.flags.challengeValid = true := (congrArg (·.valid) hr).trans hv
  have hft : t.chap.flags.authFailed = true := (congrArg (·.failed) hr).trans hf
  rw [if_pos hvt]
  unfold chapResult
  split
  · exact close_not_opened _ _
  · rename_i hn
    exact absurd hft hn

theorem response_opened (k : Nat) (r : AuthResponse) (h : (response k r s).lcp.fsm.state = .opened) :
    s.lcp.fsm.state = .opened := by
  unfold response at h
  cases onAuthResponse_outcome r.authResult r.authResultDesc
    (addressed k r s) with
  | quiet ha _ _ _ =>
    rw [ha.lcp] at h
    exact h
  | success protocol t ha _ hu _ =>
    rw [hu.eq] at h
    have hl : (authenSuccess protocol t).lcp = t.lcp := lcp_ipcpOpen _
    rw [show ({ authenSuccess protocol t with pap := _, chap := _ } : Exec).lcp =
      (authenSuccess protocol t).lcp from rfl, hl, ha.lcp] at h
    exact h
  | failure protocol t _ _ hu _ =>
    rw [hu.eq] at h
    exact absurd h (close_not_opened _ _)

/-! ## 7. The other steps -/

/-- What a packet does to the standing: nothing, an LCP Up, or a new request over the open link,
    which is CHAP's only while a challenge is outstanding. -/
inductive Moves (s t : Exec) : Prop where
  | same (h : standing t = standing s)
  | rise (hs : s.lcp.fsm.state ≠ .opened) (h : Risen (standing s) t)
  | ask (hs : s.lcp.fsm.state = .opened) (i : Issued)
      (h : standing t = { standing s with requests := s.hist.requests ++ [i] })
      (hi : i.server = PPP_CHAP → s.chap.flags.challengeValid = true)

theorem moves_request {server : UInt16} {authReq : AuthRequest} (hs : s.lcp.fsm.state = .opened)
    (h : standing t = standing s) (hi : server = PPP_CHAP → s.chap.flags.challengeValid = true) :
    Moves s (sendAuthRequest2AM server authReq t) := by
  have e : ∃ i : Issued, i.server = server ∧ standing (sendAuthRequest2AM server authReq t) =
      { standing t with requests := (standing t).requests ++ [i] } := ⟨_, rfl, rfl⟩
  obtain ⟨i, his, e⟩ := e
  rw [h] at e
  exact .ask hs i e fun hc => hi (his ▸ hc)

theorem moves_papInput (n : Nat) (hs : s.lcp.fsm.state = .opened) : Moves s (papInput p n s) := by
  rw [papInput_eq]
  split
  · exact .same rfl
  · exact moves_request hs rfl fun h => absurd h (by decide)

theorem moves_chapInput (n : Nat) (hs : s.lcp.fsm.state = .opened) (h : (standing s).Calm) :
    Moves s (chapInput p n s) := by
  have hnamed : ∀ name, standing { s with chap := chapNamed name s.chap } = standing s := by
    intro name
    have ht : (if s.chap.flags.timeoutPending then false else s.chap.timer) = s.chap.timer := by
      rw [show s.chap.timer = false from h.timer, ite_self]
    simp only [standing, chapNamed, ht]
    rfl
  rw [chapInput_eq]
  split
  · exact .same rfl
  rename_i response name hr
  split
  · exact .same (hnamed name)
  · exact moves_request hs (hnamed name) fun _ => chapRead_valid hr

theorem moves_input (packet : Bytes) (len : Nat) (h : (standing s).Calm) :
    Moves s (input packet len s) := by
  refine input_cases packet len (fun _ => ?_) (fun _ _ _ => ?_) (fun _ hs => moves_papInput _ _ hs)
    (fun _ hs => moves_chapInput _ _ hs h) (fun field n => ?_) (.same rfl)
  · by_cases hs : s.lcp.fsm.state = .opened
    · exact .same (standing_lcpInput_opened _ _ hs)
    · exact .rise hs (risen_lcpInput _ _ s)
  · exact .same ((standing_of_outsideIpcp (outsideIpcp_ipcpInput _ _ s)).trans rfl)
  · exact .same (standing_of_bare (bare_sendProtRej field n s))

/-- The timer of the CHAP server does not run, and the others at most close the link. -/
theorem standing_expire (t : Timer) (h : (standing s).Calm) :
    standing (s.expire t) = standing s := by
  have fires : ∀ (b : Bool) (u : Exec), standing u = standing s →
      standing (if b then u else s) = standing s := by
    intro b u hu
    split
    · exact hu
    · rfl
  cases t with
  | lcp => exact fires _ _ (standing_lcpTimeout s)
  | echo => exact fires _ _ (standing_sendEchoRequest s)
  | ipcp => exact fires _ _ (standing_of_outsideIpcp (outsideIpcp_ipcpTimeout s))
  | pap => exact fires _ _ (standing_authenFailure PPP_PAP s)
  | chap =>
    have ht : s.chap.timer = false := h.timer
    unfold expire
    rw [ht]
    rfl

/-- **Every session configured for CHAP stays calm.** -/
theorem calm_step (e : Event) (h : (standing s).Calm) : (standing (step s e)).Calm := by
  cases e with
  | input packet len =>
    show (standing (input packet len s)).Calm
    cases moves_input packet len h with
    | same hs => rw [hs]; exact h
    | rise _ hr => exact h.of_sameRest hr.rest
    | ask _ i hs _ =>
      rw [hs]
      refine ⟨h.authType, h.timer, h.rechallengeTime, fun k hk => ?_⟩
      have hlt := h.accepted k hk
      simp only [List.length_append, List.length_singleton]
      exact Nat.lt_succ_of_lt hlt
  | timer t =>
    show (standing (s.expire t)).Calm
    rw [standing_expire t h]
    exact h
  | response k r =>
    show (standing (response k r s)).Calm
    rw [standing_response k r h]
    refine ⟨h.authType, h.timer, h.rechallengeTime, fun j hj => ?_⟩
    simp only [Standing.answer, Standing.judge] at hj ⊢
    split at hj
    · rename_i hk
      rcases List.mem_cons.mp hj with rfl | hj
      · exact hk.2
      · exact h.accepted j hj
    · exact h.accepted j hj

theorem calm_start {c : Config} (hc : c.authType = PPP_CHAP) : (standing (start c)).Calm := by
  refine fsmOpen_keeps (J := At fun _ => Standing.Calm)
    (standingLink fun _ _ _ _ h => h).layerRules ?_
  unfold pppInit
  dsimp only
  split <;> exact ⟨hc, rfl, rfl, nofun⟩

/-! ## 8. One incarnation -/

/-- Where an incarnation that began with the standing `x` has got to: now it is `y`, and LCP is
    in the state `q`. -/
inductive Stage (x y : Standing) (q : FsmState) : Prop where
  /-- the challenge is outstanding, and nothing has been accepted -/
  | outstanding (hv : y.valid = true) (hd : y.done = x.done) (hf : y.failed = x.failed)
      (hp : y.positives = x.positives) (ha : ∀ k ∈ y.accepted, k < x.requests.length)
  /-- an answer was taken for it -/
  | taken (hv : y.valid = false)
      (hp : y.positives = x.positives + if x.failed || x.done then 0 else 1)
  /-- there was no challenge to answer -/
  | unasked (hv : y.valid = false) (hle : x.requests.length ≤ y.requests.length)
      (hq : ∀ i ∈ y.requests.drop x.requests.length, i.server ≠ PPP_CHAP)
  /-- the manager refused, and the link is down -/
  | refused (hs : q ≠ .opened) (ha : ∀ k ∈ y.accepted, k < x.requests.length)

theorem stage_up (hr : Risen x t) (hs : t.lcp.fsm.state = .opened) (hx : x.Calm) :
    Stage x (standing t) t.lcp.fsm.state := by
  obtain ⟨hd, hf⟩ := hr.flags hs
  have hp : (standing t).positives = x.positives := by rw [hr.rest]
  have ha : (standing t).accepted = x.accepted := by rw [hr.rest]
  have hq : (standing t).requests = x.requests := by rw [hr.rest]
  cases hv : (standing t).valid with
  | true => exact .outstanding hv hd hf hp (ha ▸ hx.accepted)
  | false =>
    refine .unasked hv (Nat.le_of_eq (by rw [hq])) ?_
    rw [hq, List.drop_length]
    exact fun _ hi => absurd hi List.not_mem_nil

/-- As long as the link is open, the stage does not depend on it. -/
theorem Stage.link (h : Stage x y .opened) (q : FsmState) : Stage x y q := by
  cases h with
  | outstanding hv hd hf hp ha => exact .outstanding hv hd hf hp ha
  | taken hv hp => exact .taken hv hp
  | unasked hv hle hq => exact .unasked hv hle hq
  | refused hs _ => exact absurd rfl hs

theorem Stage.ask (h : Stage x y .opened) {i : Issued} (hi : i.server = PPP_CHAP → y.valid = true)
    (q : FsmState) : Stage x { y with requests := y.requests ++ [i] } q := by
  cases h with
  | outstanding hv hd hf hp ha => exact .outstanding hv hd hf hp ha
  | taken hv hp => exact .taken hv hp
  | unasked hv hle hq =>
    refine .unasked hv ?_ fun j hj => ?_
    · exact hle.trans (by simp)
    rw [List.drop_append_of_le_length hle] at hj
    rcases List.mem_append.mp hj with hj | hj
    · exact hq j hj
    -- the new request is not CHAP's: there is no challenge
    rw [List.mem_singleton.mp hj]
    intro hs
    rw [hv] at hi
    exact absurd (hi hs) (by decide)
  | refused hs _ => exact absurd rfl hs

/-- **An answer**: it is taken for the challenge that is outstanding, and counts unless a flag
    is set. -/
theorem Stage.answer (h : Stage x y .opened) (k : Nat) (ok : Bool) (q : FsmState)
    (hq : y.valid = true → (y.failed || !ok) = true → q ≠ .opened) : Stage x (y.answer k ok) q := by
  cases h with
  | outstanding hv hd hf hp ha =>
    cases ok with
    | true =>
      refine .taken rfl ?_
      show y.positives + _ = _
      rw [hv, hd, hf, hp]
      cases x.failed <;> cases x.done <;> rfl
    | false => exact .refused (hq hv (Bool.or_true _)) ha
  | taken hv hp =>
    refine .taken rfl ?_
    show y.positives + _ = _
    rw [hv]
    exact hp
  | unasked hv hle hr => exact .unasked rfl hle hr
  | refused hs _ => exact absurd rfl hs

/-- **The first step of an incarnation** is an LCP Up. -/
theorem stage_first (e : Event) (hn : s.lcp.fsm.state ≠ .opened)
    (hs : (step s e).lcp.fsm.state = .opened) (hc : (standing s).Calm) :
    Stage (standing s) (standing (step s e)) (step s e).lcp.fsm.state := by
  refine stage_up ?_ hs hc
  cases e with
  | input packet len =>
    cases moves_input packet len hc with
    | same he => exact .of_standing he
    | rise _ hr => exact hr
    | ask ho _ _ _ => exact absurd ho hn
  | timer t => exact .of_standing (standing_expire t hc)
  | response k r => exact absurd (response_opened k r hs) hn

/-- **A step of an incarnation.** -/
theorem stage_step (e : Event) (hs : s.lcp.fsm.state = .opened) (hc : (standing s).Calm)
    (h : Stage x (standing s) s.lcp.fsm.state) :
    Stage x (standing (step s e)) (step s e).lcp.fsm.state := by
  rw [hs] at h
  cases e with
  | input packet len =>
    cases moves_input packet len hc with
    | same he => exact he ▸ h.link _
    | rise hn _ => exact absurd hs hn
    | ask _ i he hi => exact he ▸ h.ask hi _
  | timer t =>
    exact standing_expire t hc ▸ h.link _
  | response k r =>
    show Stage x (standing (response k r s)) (response k r s).lcp.fsm.state
    rw [standing_response k r hc]
    exact h.answer k _ _ (response_not_opened k r hc)

theorem stage_run {later : List Event}
    (ho : Along step (fun s _ => s.lcp.fsm.state = .opened) s later) (hc : (standing s).Calm)
    (h : Stage x (standing s) s.lcp.fsm.state) :
    Stage x (standing (run step s later)) (run step s later).lcp.fsm.state := by
  induction later generalizing s with
  | nil => exact h
  | cons e later ih => exact ih ho.2 (calm_step e hc) (stage_step e ho.1 hc h)

theorem Stage.positives_of_accepted {q : FsmState} (h : Stage x (standing t) q)
    (ha : AcceptedSince x.requests.length t) :
    t.positives = x.positives + if x.failed || x.done then 0 else 1 := by
  obtain ⟨k, hk, hle, i, hi, hs⟩ := ha
  cases h with
  | outstanding _ _ _ _ h' => exact absurd (h' k hk) (by omega)
  | taken _ hp => exact hp
  | unasked _ _ hq =>
    refine absurd hs (hq i ?_)
    rw [List.mem_iff_getElem?]
    refine ⟨k - x.requests.length, ?_⟩
    rw [List.getElem?_drop, Nat.add_sub_cancel' hle]
    exact hi
  | refused _ h' => exact absurd (h' k hk) (by omega)

/-- **An incarnation in which a response is accepted delivers exactly one positive result if and
    only if CHAP came into it with neither AUTH_DONE nor AUTH_FAILED**, for every session
    configured for CHAP and every run. -/
theorem one_result_iff {c : Config} (hc : c.authType = PPP_CHAP) {es later : List Event} {e : Event}
    (h : Incarnation c es e later)
    (ha : AcceptedSince (run step (start c) es).hist.requests.length
      (run step (start c) (es ++ e :: later))) :
    (run step (start c) (es ++ e :: later)).positives =
        (run step (start c) es).positives + 1 ↔
      (run step (start c) es).chap.flags.authDone = false ∧
        (run step (start c) es).chap.flags.authFailed = false := by
  have hcalm := run_keeps (I := fun s => (standing s).Calm) (fun _ e => calm_step e)
    (calm_start hc) es
  rw [run_append, run_cons] at ha ⊢
  have hst := stage_run h.opened (calm_step e hcalm) (stage_first e h.down h.up hcalm)
  have hp := hst.positives_of_accepted ha
  generalize run step (step (run step (start c) es) e) later = t at hp ⊢
  generalize run step (start c) es = s at hp ⊢
  rw [hp]
  show s.positives + (if s.chap.flags.authFailed || s.chap.flags.authDone then 0 else 1) = _ ↔ _
  cases s.chap.flags.authFailed <;> cases s.chap.flags.authDone <;> simp

/-- LCP comes up for the first time, the peer answers the challenge and the manager accepts:
    one positive result. -/
theorem first_incarnation_answered :
    let es := [Event.control PPP_LCP CONFACK 1 [1, 4, 5, 212, 3, 5, 194, 35, 5, 5, 6, 0, 0, 0, 0]]
    let later := [.control PPP_CHAP CHAP_RESPONSE 1 [1, 7, 97], Event.accept]
    let s := run step (start (.sample PPP_CHAP)) es
    let t := run step (start (.sample PPP_CHAP)) (es ++ .control PPP_LCP CONFREQ 1 [] :: later)
    Incarnation (.sample PPP_CHAP) es (.control PPP_LCP CONFREQ 1 []) later ∧
      AcceptedSince s.hist.requests.length t ∧ t.positives = s.positives + 1 := by
  refine ⟨⟨by decide +kernel, by decide +kernel, by decide +kernel⟩, by decide +kernel, ?_⟩
  exact (one_result_iff rfl ⟨by decide +kernel, by decide +kernel, by decide +kernel⟩
    (by decide +kernel)).mpr (by decide +kernel)

/-- The peer then renegotiates: LCP goes down and comes up again, a new challenge goes out, the
    peer answers it and the manager accepts, and no result is delivered. -/
theorem second_incarnation_unanswered :
    let es := [Event.control PPP_LCP CONFACK 1 [1, 4, 5, 212, 3, 5, 194, 35, 5, 5, 6, 0, 0, 0, 0],
      .control PPP_LCP CONFREQ 1 [], .control PPP_CHAP CHAP_RESPONSE 1 [1, 7, 97], Event.accept,
      .control PPP_LCP CONFREQ 2 []]
    let up := Event.control PPP_LCP CONFACK 2 [1, 4, 5, 212, 3, 5, 194, 35, 5, 5, 6, 0, 0, 0, 18]
    let later := [.control PPP_CHAP CHAP_RESPONSE 2 [1, 7, 97],
      .response 1 { session := 1, mac := [2, 0, 0, 0, 0, 1], authResult := 0 }]
    let s := run step (start (.sample PPP_CHAP)) es
    let t := run step (start (.sample PPP_CHAP)) (es ++ up :: later)
    Incarnation (.sample PPP_CHAP) es up later ∧ AcceptedSince s.hist.requests.length t ∧
      ¬ t.positives = s.positives + 1 :=
  ⟨⟨by decide +kernel, by decide +kernel, by decide +kernel⟩, by decide +kernel,
    by decide +kernel⟩

end Exec

end OpenBras
