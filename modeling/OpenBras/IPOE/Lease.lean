/-
  File:      OpenBras/IPOE/Lease.lean
  Subject:   THE LEASE TIMER: which sessions of the DHCP server have theirs scheduled, and so go
             by themselves.

  The constructor of a session does not start the timer; it is scheduled with a reply: an offer,
  an acknowledgement, or the answer to a DHCPINFORM. A session the authentication manager does
  not answer for has no timer, and stays as long as nobody takes it away.

  * `arms`, `Arms`       -- the events that schedule the timer of a session;
  * `timer_armed_iff`    -- the timer is scheduled exactly if one of them has happened since the
                            session was made;
  * `lease_timers_armed_iff` -- every session has its timer, and goes when its client and the
                            manager are silent, exactly if that is so of all of them.
-/
import Mathlib.Data.List.Induction
import OpenBras.IPOE.Clients

namespace OpenBras

open Wire

namespace CDHCPServer

/-! ## 1. The events that schedule the timer -/

/-- An event of the session's client after which a reply goes out. -/
def arms (session : CDHCPSession) : ClientEvent → Bool
  | .discover mem _ => mem && session.m_config != {}
  | .request mem asked => mem && hostLong session.m_config.ip_address == asked
  | .inform mem => mem
  | .answer mem _ => mem && session.m_discovery.isSome
  | .leave => false
  | .leaseTimeOut => false

/-- The event schedules the timer of the client's session. -/
def Arms (env : DhcpEnv) (mac : Bytes) (s : CDHCPServer) (ev : Event) : Prop :=
  ∃ session ce, s.m_DhcpSessions mac = some session ∧
    clientOf env s.next ev = some (mac, ce) ∧ arms session ce = true

/-- The event leaves the client with a session. -/
def Stays (env : DhcpEnv) (mac : Bytes) (s : CDHCPServer) (ev : Event) : Prop :=
  ((s.step env ev).m_DhcpSessions mac).isSome

/-- The event is not one of the client. -/
def Silent (env : DhcpEnv) (mac : Bytes) (ev : Event) : Prop :=
  ∀ h ce, clientOf env h ev ≠ some (mac, ce)

theorem isSome_rearm (mem : Bool) (config : DHCPNetworkConfig) (timer : Option Int32) :
    (rearm mem config timer).isSome = (mem || timer.isSome) := by
  cases mem <;> rfl

variable {session : CDHCPSession} {evs : List Event}

/-- **What becomes of the timer** of a session that stays. -/
theorem timer_clientStep {t : CDHCPSession} {ce : ClientEvent}
    (h : clientStep (some session) ce = some t) :
    t.timer.isSome = (arms session ce || session.timer.isSome) := by
  cases ce with
  | discover mem d =>
    by_cases hc : session.m_config = {}
    · simp only [clientStep, if_pos hc] at h
      cases h
      simp only [arms, hc, bne_self_eq_false, Bool.and_false, Bool.false_or]
    · simp only [clientStep, if_neg hc] at h
      cases h
      have hne : (session.m_config != {}) = true := bne_iff_ne.mpr hc
      simp only [arms, hne, Bool.and_true, isSome_rearm]
  | request mem asked =>
    by_cases hask : mem = true ∧ hostLong session.m_config.ip_address = asked
    · simp only [clientStep, if_pos hask] at h
      cases h
      obtain ⟨rfl, rfl⟩ := hask
      simp only [arms, beq_self_eq_true, Bool.and_self, Bool.true_or, Option.isSome_some]
    · simp only [clientStep, if_neg hask] at h
      cases h
      have harms : arms session (.request mem asked) = false := by
        refine eq_false_of_ne_true fun ha => hask ?_
        simp only [arms, Bool.and_eq_true, beq_iff_eq] at ha
        exact ha
      rw [harms, Bool.false_or]
  | inform mem =>
    cases h
    exact isSome_rearm ..
  | leave => cases h
  | answer mem config =>
    cases h
    exact isSome_rearm ..
  | leaseTimeOut =>
    cases ht : session.timer.isSome with
    | true =>
      simp only [clientStep, ht, if_true] at h
      cases h
    | false =>
      simp only [clientStep, ht, Bool.false_eq_true, if_false] at h
      cases h
      rw [ht]
      rfl

theorem clientStep_of_arms {ce : ClientEvent} (h : arms session ce = true) :
    (clientStep (some session) ce).isSome := by
  cases ce with
  | discover | request =>
    simp only [clientStep]
    split <;> rfl
  | inform mem => rfl
  | leave => cases h
  | answer mem config => rfl
  | leaseTimeOut => cases h

/-! ## 2. Runs -/

variable {env : DhcpEnv} {s : CDHCPServer} {mac : Bytes} {ev : Event}

theorem fresh_run (evs : List Event) : Fresh (run (step env) {} evs) :=
  run_keeps (I := Fresh) (fun _ ev f => fresh_step f ev) fresh_start evs

theorem session_of_silent (f : Fresh s) (h : ∀ ce, clientOf env s.next ev ≠ some (mac, ce)) :
    (s.step env ev).m_DhcpSessions mac = s.m_DhcpSessions mac := by
  rw [session_step f]
  cases hc : clientOf env s.next ev with
  | none => rfl
  | some c =>
    obtain ⟨m, ce⟩ := c
    refine if_neg fun hm => h ce ?_
    rw [hc, hm]

theorem session_of_client (f : Fresh s) {ce : ClientEvent}
    (hc : clientOf env s.next ev = some (mac, ce)) :
    (s.step env ev).m_DhcpSessions mac = clientStep (s.m_DhcpSessions mac) ce := by
  rw [session_step f, hc]
  exact if_pos rfl

theorem clientOf_leaseTimeOut (next : Nat) :
    clientOf env next (.leaseTimeOut mac) = some (mac, .leaseTimeOut) := rfl

theorem present_of_since (h : Since (step env) (Arms env mac) (Stays env mac) {} evs) :
    ((run (step env) {} evs).m_DhcpSessions mac).isSome := by
  rcases List.eq_nil_or_concat' evs with rfl | ⟨evs, ev, rfl⟩
  · exact h.elim
  · rw [run_append]
    rcases since_concat.mp h with ⟨session, ce, hs, hc, harms⟩ | ⟨-, hstays⟩
    · show (((run (step env) {} evs).step env ev).m_DhcpSessions mac).isSome
      rw [session_of_client (fresh_run evs) hc, hs]
      exact clientStep_of_arms harms
    · exact hstays

/-- **The timer of a session is scheduled exactly if a reply has gone out since it was made.** -/
theorem timer_armed_iff (hs : (run (step env) {} evs).m_DhcpSessions mac = some session) :
    session.timer.isSome ↔ Since (step env) (Arms env mac) (Stays env mac) {} evs := by
  -- by the last event; the session it leaves was there before, or has just been made
  induction evs using List.reverseRecOn generalizing session with
  | nil => cases hs
  | append_singleton evs ev ih =>
    have f : Fresh (run (step env) {} evs) := fresh_run evs
    have hpresent : Since (step env) (Arms env mac) (Stays env mac) {} evs →
        ((run (step env) {} evs).m_DhcpSessions mac).isSome := present_of_since
    rw [run_append] at hs
    rw [since_concat]
    generalize run (step env) {} evs = t at hs ih f hpresent ⊢
    have hstays : Stays env mac t ev := Option.isSome_iff_exists.mpr ⟨session, hs⟩
    by_cases hsil : ∀ ce, clientOf env t.next ev ≠ some (mac, ce)
    · have harms : ¬ Arms env mac t ev := fun ⟨_, ce, _, hc, _⟩ => hsil ce hc
      have hs' : t.m_DhcpSessions mac = some session := (session_of_silent f hsil).symm.trans hs
      rw [ih hs', or_iff_right harms, and_iff_left hstays]
    · obtain ⟨ce, hc⟩ := not_forall.mp hsil
      have hc := not_not.mp hc
      have hstep := (session_of_client f hc).symm.trans hs
      cases ht : t.m_DhcpSessions mac with
      | none =>
        -- the session has just been made
        have harms : ¬ Arms env mac t ev := fun ⟨_, _, hsome, _⟩ => by
          rw [ht] at hsome
          cases hsome
        rw [ht] at hstep hpresent
        have hnot : ¬ Since (step env) (Arms env mac) (Stays env mac) {} evs :=
          fun hsince => absurd (hpresent hsince) (by decide)
        have htimer : session.timer = none := by
          cases ce <;> cases hstep
          rfl
        simp only [htimer, harms, hnot, false_and, or_self, Option.isSome_none,
          Bool.false_eq_true]
      | some old =>
        rw [ht] at hstep
        have harms : Arms env mac t ev ↔ arms old ce = true := by
          constructor
          · rintro ⟨session', ce', hs', hc', ha⟩
            cases ht.symm.trans hs'
            cases hc.symm.trans hc'
            exact ha
          · exact fun ha => ⟨old, ce, ht, hc, ha⟩
        rw [timer_clientStep hstep, Bool.or_eq_true, harms, ih ht, and_iff_left hstays]

theorem session_of_silent_run (f : Fresh s) (h : ∀ ev ∈ evs, Silent env mac ev) :
    (run (step env) s evs).m_DhcpSessions mac = s.m_DhcpSessions mac ∧
      Fresh (run (step env) s evs) := by
  induction evs generalizing s with
  | nil => exact ⟨rfl, f⟩
  | cons ev evs ih =>
    obtain ⟨hev, hevs⟩ := List.forall_mem_cons.mp h
    have hsame : (s.step env ev).m_DhcpSessions mac = _ := session_of_silent f (hev s.next)
    obtain ⟨hrun, hfresh⟩ := ih (fresh_step f ev) hevs
    exact ⟨hrun.trans hsame, hfresh⟩

/-- A session whose timer is scheduled goes when the timer expires, however long its client and
    the manager have been silent. -/
theorem gone_when_silent (f : Fresh s) (hs : s.m_DhcpSessions mac = some session)
    (ht : session.timer.isSome) (h : ∀ ev ∈ evs, Silent env mac ev) :
    ((run (step env) s evs).step env (.leaseTimeOut mac)).m_DhcpSessions mac = none := by
  obtain ⟨hsame, hfresh⟩ : _ ∧ Fresh (run (step env) s evs) := session_of_silent_run f h
  rw [session_of_client hfresh (clientOf_leaseTimeOut _), hsame, hs]
  simp only [clientStep, ht, if_true]

/-- **Every session has its lease timer, and goes by it when its client and the manager are
    silent, exactly if for every session a reply has gone out since it was made.** -/
theorem lease_timers_armed_iff (env : DhcpEnv) (evs : List Event) :
    let s := run (step env) {} evs
    (∀ mac session, s.m_DhcpSessions mac = some session → session.timer.isSome ∧
      ∀ fs : List Event, (∀ ev ∈ fs, Silent env mac ev) →
        ((run (step env) s fs).step env (.leaseTimeOut mac)).m_DhcpSessions mac = none) ↔
    ∀ mac, (s.m_DhcpSessions mac).isSome →
      Since (step env) (Arms env mac) (Stays env mac) {} evs := by
  intro s
  constructor
  · intro h mac hpresent
    obtain ⟨session, hs⟩ := Option.isSome_iff_exists.mp hpresent
    exact (timer_armed_iff hs).mp (h mac session hs).1
  · intro h mac session hs
    have ht := (timer_armed_iff hs).mpr (h mac (Option.isSome_iff_exists.mpr ⟨session, hs⟩))
    exact ⟨ht, fun fs hfs => gone_when_silent (fresh_run evs) hs ht hfs⟩

/-! ## 3. A session that stays -/

/-- A session without a timer outlasts every expiry. -/
theorem stays_when_silent (f : Fresh s) (hs : s.m_DhcpSessions mac = some session)
    (ht : session.timer = none) (h : ∀ ev ∈ evs, Silent env mac ev ∨ ev = .leaseTimeOut mac) :
    (run (step env) s evs).m_DhcpSessions mac = some session := by
  induction evs generalizing s with
  | nil => exact hs
  | cons ev evs ih =>
    obtain ⟨hev, hevs⟩ := List.forall_mem_cons.mp h
    refine ih (fresh_step f ev) ?_ hevs
    rcases hev with hsil | rfl
    · rw [session_of_silent f (hsil s.next), hs]
    · rw [session_of_client f (clientOf_leaseTimeOut _), hs]
      simp only [clientStep, ht, Option.isSome_none, Bool.false_eq_true, if_false]

/-- **One DHCPDISCOVER that the manager does not answer makes a session without a timer, which
    stays through everything else that happens to the server.** -/
theorem discovered_session_stays :
    let s := run (step sampleEnv) {} [.packet true discover]
    (s.m_DhcpSessions discover.mac).any (·.timer.isNone) ∧
      ∀ fs : List Event, (∀ ev ∈ fs, Silent sampleEnv discover.mac ev ∨
        ev = .leaseTimeOut discover.mac) →
          (run (step sampleEnv) s fs).m_DhcpSessions discover.mac ≠ none := by
  refine ⟨by decide +kernel, fun fs hfs => ?_⟩
  have hs : (run (step sampleEnv) {} [.packet true discover]).m_DhcpSessions discover.mac =
      some { m_discovery := some 0 } := by decide +kernel
  rw [stays_when_silent (fresh_run _) hs rfl hfs]
  exact Option.some_ne_none _

end CDHCPServer

end OpenBras
