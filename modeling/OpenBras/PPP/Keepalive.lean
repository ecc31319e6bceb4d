/-
  File:      OpenBras/PPP/Keepalive.lean
  Subject:   THE KEEPALIVE OF LCP: when the echo timer runs, and when an expiry gives the peer up.

  `EchoWatch` is a session with the number of Echo-Requests LCP has sent since it last came up or
  last heard an Echo-Reply that counts: one of four bytes or more whose magic number is not our
  own. They are counted as the packets that go out. A session that is marked for deletion drops
  them below LCP, and LCP does not know; its requests are those that go out of the same session
  without the mark.

  * `Deed.echo`, `Deed.pings` -- no deed touches the counter, and only going down stops the timer;
    no deed sends an Echo-Request;
  * `pings_of_step` -- an event sends one Echo-Request when it brings LCP up or is an expiry of
    the echo timer that does not give the peer up, and else none;
  * `watched_step` -- while LCP is open, that number is the number of pending requests;
  * **`keepalive_closes_iff`** -- the timer runs exactly while LCP is open, an expiry closes the
    link exactly at the last request, and no more than that are ever pending.
-/
import OpenBras.Lib.Run
import OpenBras.PPP.LcpStep

namespace OpenBras

open Wire CPPPFsm
open LcpView (send_lcp)

/-! ## 1. Deeds and the echo requests -/

/-- The part of LCP's record that is about Echo-Requests. -/
@[ext]
structure Echo where
  pending : Nat
  fails : Nat
  interval : Nat
  timer : Bool
  running : Bool
  deriving DecidableEq, Repr

def CPPPLCP.echo (l : CPPPLCP) : Echo where
  pending := l.echosPending
  fails := l.echoFails
  interval := l.echoInterval
  timer := l.echoTimer
  running := l.echoTimerRunning

/-- `EchoLowerDown`. -/
def Echo.off (e : Echo) : Echo := if e.running then { e with timer := false, running := false } else e

theorem echo_echoOff (l : CPPPLCP) : (LcpView.echoOff l).echo = l.echo.off := by
  unfold LcpView.echoOff Echo.off
  show (if l.echoTimerRunning then _ else l).echo = if l.echoTimerRunning then _ else l.echo
  split <;> rfl

theorem Fallen.echo {v w : LcpView} (h : Fallen v w) : w.lcp.echo = v.lcp.echo.off := by
  obtain ⟨l, hl, hlcp⟩ := h.lcp
  have hecho : l.echo = v.lcp.echo := by
    rcases hl with ⟨go, _, rfl⟩ | ⟨magic, rfl⟩ <;> rfl
  calc w.lcp.echo
      _ = ({ LcpView.echoOff l with fsm := w.lcp.fsm } : CPPPLCP).echo := congrArg CPPPLCP.echo hlcp
      _ = (LcpView.echoOff l).echo := rfl
      _ = v.lcp.echo.off := by rw [echo_echoOff, hecho]

/-- **What a deed does to the keepalive**: nothing, or it stops the timer as the link goes. -/
theorem Deed.echo {v w : LcpView} (h : Deed v w) :
    (w.lcp.echo = v.lcp.echo ∧ (w.state = .opened ↔ v.state = .opened)) ∨
      (w.lcp.echo = v.lcp.echo.off ∧ w.state ≠ .opened) := by
  have notOpen : ∀ {q : FsmState}, q.resting = true ∨ q.negotiating = true → q ≠ .opened := by
    rintro q hq rfl
    exact absurd hq (by decide)
  cases h with
  | calm h => exact Or.inl ⟨rfl, by rw [LcpView.state_withFsm, h.state]; rfl⟩
  | rest hq hv => exact Or.inl ⟨rfl, iff_of_false (notOpen (Or.inl hq)) hv⟩
  | shift hq hv => exact Or.inl ⟨rfl, iff_of_false (notOpen (Or.inr hq)) (notOpen (Or.inr hv))⟩
  | answer id data n hc => exact Or.inl ⟨by rw [send_lcp], by rw [LcpView.state_send]⟩
  | reject | termReq =>
    exact Or.inl ⟨by rw [send_lcp]; rfl, by rw [LcpView.state_send]; rfl⟩
  | fresh magic hs =>
    refine Or.inl ⟨?_, iff_of_false (by rw [LcpView.state_goto]; decide) (notOpen (Or.inl hs))⟩
    show ({ (LcpView.request _).lcp with fsm := _ } : CPPPLCP).echo = _
    rw [LcpView.lcp_request]
    rfl
  | renew hgo hs =>
    exact Or.inl ⟨by rw [LcpView.lcp_request]; rfl, by rw [LcpView.state_request]; rfl⟩
  | fall h hw => exact Or.inr ⟨h.echo, hw⟩
  | take | mark => exact Or.inl ⟨rfl, Iff.rfl⟩

/-- The timer runs with the link, and not too many requests are pending. -/
structure Kept (n i : Nat) (v : LcpView) : Prop where
  timer : v.lcp.echo.timer = true ↔ v.state = .opened
  running : v.lcp.echo.running = v.lcp.echo.timer
  fails : v.lcp.echo.fails = n
  interval : v.lcp.echo.interval = i
  pending : v.lcp.echo.pending ≤ n

variable {n i : Nat} {v w : LcpView}

theorem Kept.congr (h : Kept n i v) (he : w.lcp.echo = v.lcp.echo)
    (hs : w.state = .opened ↔ v.state = .opened) : Kept n i w :=
  ⟨by rw [he, hs]; exact h.timer, by rw [he]; exact h.running, by rw [he]; exact h.fails,
    by rw [he]; exact h.interval, by rw [he]; exact h.pending⟩

theorem Kept.deed (hd : Deed v w) (h : Kept n i v) : Kept n i w := by
  rcases hd.echo with ⟨he, hs⟩ | ⟨he, hs⟩
  · exact h.congr he hs
  have hoff : v.lcp.echo.off = { v.lcp.echo with timer := false, running := false } := by
    unfold Echo.off
    split
    · rfl
    · rename_i hr
      rw [Bool.not_eq_true] at hr
      exact Echo.ext rfl rfl rfl (h.running ▸ hr) hr
  rw [hoff] at he
  exact ⟨iff_of_false (by rw [he]; exact Bool.false_ne_true) hs, by rw [he],
    by rw [he]; exact h.fails, by rw [he]; exact h.interval, by rw [he]; exact h.pending⟩

theorem Kept.deeds (hd : Deeds v w) (h : Kept n i v) : Kept n i w :=
  hd.keeps Kept.deed h

theorem Deeds.counter (hd : Deeds v w) : w.lcp.echo.pending = v.lcp.echo.pending ∧
    (w.state = .opened → v.state = .opened) := by
  refine hd.keeps (I := fun u => u.lcp.echo.pending = v.lcp.echo.pending ∧
    (u.state = .opened → v.state = .opened)) ?_ ⟨rfl, id⟩
  intro u x hx hu
  have hoff : ∀ e : Echo, e.off.pending = e.pending := by
    intro e
    unfold Echo.off
    split <;> rfl
  rcases hx.echo with ⟨he, hs⟩ | ⟨he, hs⟩
  · exact ⟨by rw [he]; exact hu.1, fun h => hu.2 (hs.mp h)⟩
  · exact ⟨by rw [he, hoff]; exact hu.1, fun h => absurd h hs⟩

/-! ## 2. The Echo-Requests that go out -/

/-- How many Echo-Requests have been sent. -/
def LcpView.pings (v : LcpView) : Nat := v.log.countP fun p => packetCode p == ECHOREQ

theorem LcpView.pings_send {code : UInt8} (hc : code ≠ ECHOREQ) (id : UInt8) (data : Bytes)
    (n : Nat) (v : LcpView) : (v.send code id data n).pings = v.pings := by
  unfold LcpView.send
  split
  · rfl
  · refine List.countP_cons_of_neg ?_
    rw [packetCode_controlPacket, beq_iff_eq]
    exact hc

theorem LcpView.pings_request (v : LcpView) : v.request.pings = v.pings := by
  unfold LcpView.request
  rw [LcpView.pings_send (by decide)]
  rfl

/-- **No deed sends an Echo-Request.** -/
theorem Deed.pings {v w : LcpView} (h : Deed v w) : w.pings = v.pings := by
  cases h with
  | answer id data n hc =>
    refine LcpView.pings_send ?_ ..
    rintro rfl
    cases hc
  | reject data n hc =>
    refine LcpView.pings_send ?_ ..
    rcases hc with rfl | rfl <;> decide
  | termReq data n hs => exact LcpView.pings_send (by decide) ..
  | fresh magic hs => exact LcpView.pings_request _
  | renew hgo hs => exact LcpView.pings_request _
  | fall h hw => exact congrArg (List.countP _) h.log
  | _ => rfl

theorem Deeds.pings (hd : Deeds v w) : w.pings = v.pings :=
  hd.keeps (I := fun u => u.pings = v.pings) (fun hx hu => hx.pings.trans hu) rfl

theorem log_risen {v : LcpView} (hi : v.lcp.echoInterval ≠ 0) (hm : v.marked = false) :
    v.risen.log = controlPacket PPP_LCP ECHOREQ 0 (putLong v.lcp.magicnumber) 4 :: v.log := by
  unfold LcpView.risen
  rw [if_pos hi]
  exact LcpView.log_send _ _ _ _ hm

/-- The Echo-Requests an event makes LCP send. -/
def Exec.LcpEvent.pings : Exec.LcpEvent → Nat
  | .rise | .ping => 1
  | _ => 0

theorem pings_of_step {e : Exec.LcpEvent} (hm : v.marked = false) (hi : v.lcp.echoInterval ≠ 0)
    (h : Exec.LcpStep v w e) : w.pings = v.pings + e.pings := by
  cases e with
  | plain => exact Deeds.pings h
  | resend =>
    obtain ⟨-, rfl⟩ := h
    exact LcpView.pings_send (by decide) ..
  | rise =>
    obtain ⟨u, f, hu, -, -, hd⟩ := h
    have hv : u.marked = false ∧ u.lcp = v.lcp ∧ u.pings = v.pings := by
      rcases hu with rfl | ⟨id, data, n, rfl⟩
      · exact ⟨hm, rfl, rfl⟩
      · exact ⟨by rw [LcpView.send_marked, hm], send_lcp .., LcpView.pings_send (by decide) ..⟩
    have hlog := log_risen (v := u.withFsm f) (by rw [← hv.2.1] at hi; exact hi) hv.1
    rw [hd.pings, ← hv.2.2]
    unfold LcpView.pings
    rw [hlog]
    exact List.countP_cons_of_pos rfl
  | ping =>
    obtain ⟨-, -, rfl⟩ := h
    show List.countP _ (v.send ..).log = _
    rw [LcpView.log_send _ _ _ _ hm]
    exact List.countP_cons_of_pos rfl
  | fail =>
    obtain ⟨u, hd, -, rfl⟩ := h
    exact hd.pings
  | pong ident inp len =>
    obtain ⟨-, rfl⟩ := h
    exact LcpView.pings_send (by decide) ..
  | heard =>
    obtain rfl : w = v.answered := h
    rfl

/-! ## 3. The watch -/

namespace Exec

/-- An Echo-Reply that counts: four bytes or more, and not our own magic number. -/
def heardReply (s : Exec) (e : Event) : Bool :=
  e.lcp.elim false fun h =>
    h.1 == ECHOREP && decide (4 ≤ h.2.2.2) && getLong h.2.2.1 0 != s.lcp.magicnumber

/-- The Echo-Requests LCP sends at an event: those that go out, and if the session is marked for
    deletion those that would. -/
def echoRequests (s : Exec) (e : Event) : Nat :=
  let s := { s with sessionToBeDeleted := false }
  (Exec.step s e).lcpView.pings - s.lcpView.pings

/-- A session and the Echo-Requests sent since LCP last came up or last heard a reply that
    counts. -/
structure EchoWatch where
  s : Exec
  since : Nat

def EchoWatch.step (w : EchoWatch) (e : Event) : EchoWatch where
  s := Exec.step w.s e
  since :=
    if w.s.lcp.fsm.state ≠ .opened ∧ (Exec.step w.s e).lcp.fsm.state = .opened then
      echoRequests w.s e
    else if heardReply w.s e then 0
    else w.since + echoRequests w.s e

/-- While LCP is open, the requests sent since are those pending. -/
structure Watched (n i : Nat) (w : EchoWatch) : Prop where
  labelled : Labelled w.s
  kept : Kept n i w.s.lcpView
  since : w.s.lcp.fsm.state = .opened → w.since = w.s.lcp.echosPending

theorem echo_ping (v : LcpView) : v.ping.lcp.echo =
    { v.lcp.echo with pending := v.lcp.echo.pending + 1 } ∧
      v.ping.state = v.state := by
  unfold LcpView.state
  rw [LcpView.lcp_ping]
  exact ⟨rfl, rfl⟩

theorem echo_risen {v : LcpView} (hi : v.lcp.echo.interval ≠ 0) :
    v.risen.lcp.echo = { v.lcp.echo with pending := 1, timer := true, running := true } ∧
      v.risen.state = .opened := by
  have hi' : v.lcp.echoInterval ≠ 0 := hi
  unfold LcpView.risen LcpView.state
  rw [if_pos hi', LcpView.lcp_ping]
  exact ⟨rfl, rfl⟩

theorem lcpHears_eq_heard_iff {s : Exec} {code : UInt8} (id : UInt8) (inp : Bytes) (len : Nat)
    (hs : s.lcp.fsm.state = .opened) : lcpHears code id inp len s = .heard ↔
      code = ECHOREP ∧ 4 ≤ len ∧ getLong inp 0 ≠ s.lcp.magicnumber := by
  have ha : agrees code id inp len s = false := by
    refine agrees_of_not id inp len fun ha => ?_
    rw [hs] at ha
    rcases ha with ⟨_, h⟩ | ⟨_, h⟩ <;> cases h
  unfold lcpHears
  rw [ha, if_neg (by decide), hs]
  by_cases hreq : code = ECHOREQ
  · rw [if_pos ⟨hreq, rfl⟩, hreq]
    exact iff_of_false (fun h => by cases h) fun h => absurd h.1 (by decide)
  · rw [if_neg fun h => hreq h.1]
    simp

theorem lcpEvent_timer_ne_heard (s : Exec) (t : Timer) : lcpEvent s (.timer t) ≠ .heard := by
  intro h
  cases t with
  | lcp =>
    unfold lcpEvent at h
    dsimp only at h
    split at h <;> cases h
  | echo =>
    unfold lcpEvent at h
    dsimp only at h
    split at h
    · split at h
      · cases h
      · split at h <;> cases h
    · cases h
  | ipcp => cases h
  | pap => cases h
  | chap => cases h

/-- While LCP is open, the replies that count are those it hears. -/
theorem heardReply_iff {s : Exec} (hs : s.lcp.fsm.state = .opened) (e : Event) :
    heardReply s e = true ↔ lcpEvent s e = .heard := by
  have hpacket : ∀ o : Option (UInt8 × UInt8 × Bytes × Nat),
      (o.elim false fun h => h.1 == ECHOREP && decide (4 ≤ h.2.2.2) &&
        getLong h.2.2.1 0 != s.lcp.magicnumber) = true ↔
      (o.elim LcpEvent.plain fun h => lcpHears h.1 h.2.1 h.2.2.1 h.2.2.2 s) = .heard := by
    intro o
    cases o with
    | none => exact iff_of_false Bool.false_ne_true fun h => by cases h
    | some h =>
      show _ ↔ lcpHears _ _ _ _ s = _
      rw [lcpHears_eq_heard_iff _ _ _ hs]
      simp [and_assoc]
  cases e with
  | input packet len => exact hpacket _
  | response k r => exact hpacket none
  | timer t => exact iff_of_false Bool.false_ne_true (lcpEvent_timer_ne_heard s t)

/-- What an event does to the keepalive: the requests pending grow with the requests sent. -/
structure Beats (n i : Nat) (e : LcpEvent) (v w : LcpView) : Prop where
  kept : Kept n i w
  stays : w.state = .opened → v.state = .opened →
    w.lcp.echo.pending = if e = .heard then 0 else v.lcp.echo.pending + e.pings
  rises : w.state = .opened → v.state ≠ .opened → w.lcp.echo.pending = e.pings

theorem Beats.of_echo {n i : Nat} {e : LcpEvent} {v w : LcpView} (hk : Kept n i v)
    (he : w.lcp.echo = v.lcp.echo) (hs : w.state = .opened ↔ v.state = .opened)
    (hne : e ≠ .heard) (h0 : e.pings = 0) : Beats n i e v w where
  kept := hk.congr he hs
  stays _ _ := by rw [if_neg hne, he, h0, Nat.add_zero]
  rises hw hv := absurd (hs.mp hw) hv

theorem beats_of_step {n i : Nat} (hn : n ≠ 0) (hi : i ≠ 0) {e : LcpEvent} {v w : LcpView}
    (hk : Kept n i v) (h : LcpStep v w e) : Beats n i e v w := by
  cases e with
  | plain =>
    obtain ⟨hp, hs⟩ := Deeds.counter h
    refine ⟨hk.deeds h, fun _ _ => ?_, fun hw hv => absurd (hs hw) hv⟩
    rw [if_neg (by decide), hp]
    rfl
  | resend =>
    obtain ⟨hneg, rfl⟩ := h
    have hs : v.state ≠ .opened := by
      intro hv
      rw [hv] at hneg
      cases hneg
    refine Beats.of_echo hk ?_ (iff_of_false ?_ hs) (by decide) rfl
    · show ({ (v.send _ _ _ _).lcp with fsm := _ } : CPPPLCP).echo = _
      rw [send_lcp]
      rfl
    · show (if v.state = .ackRcvd then FsmState.reqSent else v.state) ≠ .opened
      split
      · decide
      · exact hs
  | rise =>
    obtain ⟨u, f, hu, hf, hneg, hd⟩ := h
    have hecho : (u.withFsm f).lcp.echo = v.lcp.echo := by
      rcases hu with rfl | ⟨id, data, m, rfl⟩
      · rfl
      · show (v.send _ _ _ _).lcp.echo = _
        rw [send_lcp]
    obtain ⟨he, hs⟩ := echo_risen (v := u.withFsm f) (by rw [hecho, hk.interval]; exact hi)
    rw [hecho] at he
    have hrisen : Kept n i (u.withFsm f).risen :=
      ⟨iff_of_true (by rw [he]) hs, by rw [he], by rw [he]; exact hk.fails,
        by rw [he]; exact hk.interval, by rw [he]; exact Nat.one_le_iff_ne_zero.mpr hn⟩
    obtain ⟨hp, -⟩ := Deeds.counter hd
    refine ⟨hrisen.deeds hd, fun _ hv => ?_, fun _ _ => ?_⟩
    · rw [hv] at hneg
      cases hneg
    · rw [hp, he]
      rfl
  | ping =>
    obtain ⟨hv, hless, rfl⟩ := h
    obtain ⟨he, hs⟩ := echo_ping v
    have hlt : v.lcp.echo.pending < n := by
      have hfails : v.lcp.echoFails = n := hk.fails
      rw [hfails, not_and, ge_iff_le, Nat.not_le] at hless
      exact hless hn
    refine ⟨⟨?_, by rw [he]; exact hk.running, by rw [he]; exact hk.fails,
      by rw [he]; exact hk.interval, by rw [he]; exact hlt⟩, fun _ _ => ?_, fun _ hne => ?_⟩
    · rw [he, hs]
      exact hk.timer
    · rw [if_neg (by decide), he]
      rfl
    · exact absurd hv hne
  | fail =>
    obtain ⟨u, hd, hs, rfl⟩ := h
    have hku := hk.deeds hd
    exact ⟨⟨hku.timer, hku.running, hku.fails, hku.interval, Nat.zero_le _⟩,
      fun hw => absurd hw hs, fun hw => absurd hw hs⟩
  | pong ident inp len =>
    obtain ⟨hv, rfl⟩ := h
    exact Beats.of_echo hk (by rw [send_lcp]) (by rw [LcpView.state_send])
      (fun hc => by cases hc) rfl
  | heard =>
    obtain rfl : w = v.answered := h
    exact ⟨⟨hk.timer, hk.running, hk.fails, hk.interval, Nat.zero_le _⟩,
      fun _ _ => (if_pos rfl).symm, fun hw hv => absurd hw hv⟩

/-- **The Echo-Requests that go out are those of the classification.** -/
theorem echoRequests_eq {s : Exec} (hl : Labelled s) (hi : s.lcp.echoInterval ≠ 0) (e : Event) :
    echoRequests s e = (lcpEvent s e).pings := by
  have hl' : Labelled { s with sessionToBeDeleted := false } := ⟨hl.lcp, hl.ipcp, hl.chap⟩
  have hstep := pings_of_step rfl hi (step_lcp hl' e).2
  -- what an event is to LCP does not depend on the mark
  have he : lcpEvent { s with sessionToBeDeleted := false } e = lcpEvent s e := rfl
  unfold echoRequests
  dsimp only
  rw [hstep, he, Nat.add_sub_cancel_left]

/-- **Every event keeps the count.** -/
theorem watched_step {n i : Nat} (hn : n ≠ 0) (hi : i ≠ 0) {w : EchoWatch} (h : Watched n i w)
    (e : Event) : Watched n i (w.step e) := by
  obtain ⟨hl, hstep⟩ := step_lcp h.labelled e
  have hb := beats_of_step hn hi h.kept hstep
  have hsent := echoRequests_eq h.labelled (h.kept.interval.trans_ne hi) e
  refine ⟨hl, hb.kept, fun hs => ?_⟩
  show (if w.s.lcp.fsm.state ≠ .opened ∧ (Exec.step w.s e).lcp.fsm.state = .opened then _
    else _) = (Exec.step w.s e).lcp.echosPending
  by_cases hv : w.s.lcp.fsm.state = .opened
  · rw [if_neg fun hc => hc.1 hv, h.since hv, hsent]
    refine Eq.trans ?_ (hb.stays hs hv).symm
    exact if_congr (heardReply_iff hv e) rfl rfl
  · rw [if_pos ⟨hv, hs⟩, hsent]
    exact (hb.rises hs hv).symm

theorem watched_start (c : Config) (fails interval : Nat) :
    Watched fails interval { s := startEcho c fails interval, since := 0 } := by
  have hr := startEcho_reached c fails interval
  have hborn : Kept fails interval (newborn c.authType fails interval) :=
    ⟨iff_of_false Bool.false_ne_true (show FsmState.initial ≠ .opened by decide), rfl, rfl, rfl,
      Nat.zero_le _⟩
  refine ⟨hr.labelled, hborn.deeds hr.deeds, fun hs => ?_⟩
  exact absurd ((Deeds.counter hr.deeds).2 hs) (show FsmState.initial ≠ .opened by decide)

theorem expiry_closes_iff {s : Exec} (h : Labelled s) (ht : s.lcp.echoTimer = true)
    (hs : s.lcp.fsm.state = .opened) :
    (Exec.step s (.timer .echo)).lcp.fsm.state ≠ .opened ↔
      s.lcp.echoFails ≠ 0 ∧ s.lcp.echosPending ≥ s.lcp.echoFails := by
  have hstep := (step_lcp h (.timer .echo)).2
  unfold lcpEvent at hstep
  dsimp only at hstep
  rw [if_pos ht] at hstep
  split at hstep
  · rename_i hfail
    obtain ⟨u, -, hu, hw⟩ := hstep
    refine iff_of_true ?_ hfail
    show (Exec.step s (.timer .echo)).lcpView.state ≠ .opened
    rw [hw]
    exact hu
  · rename_i hfail
    refine iff_of_false (not_not.mpr ?_) hfail
    show (Exec.step s (.timer .echo)).lcpView.state = .opened
    rw [hstep.2.2, (echo_ping _).2]
    exact hs

/-- The echo timer runs exactly while LCP is open; its expiry closes the link if and only if
    `fails` requests have been sent since the last `Up` or the last reply that counts; and no
    more than that are pending. -/
def EchoWatch.Alive (fails : Nat) (w : EchoWatch) : Prop :=
  (w.s.lcp.echoTimer = true ↔ w.s.lcp.fsm.state = .opened) ∧
  (w.s.lcp.echoTimer = true →
    ((Exec.step w.s (.timer .echo)).lcp.fsm.state ≠ .opened ↔ w.since = fails)) ∧
  w.s.lcp.echosPending ≤ fails

/-- **The keepalive of LCP**, throughout every run. -/
theorem keepalive_closes_iff (c : Config) {fails interval : Nat} (hf : fails ≠ 0)
    (hi : interval ≠ 0) (es : List Event) :
    Throughout EchoWatch.step (EchoWatch.Alive fails)
      { s := startEcho c fails interval, since := 0 } es := by
  refine throughout_keeps (I := Watched fails interval)
    (fun w e h => watched_step hf hi h e) (fun w h => ?_) (watched_start c fails interval) es
  have hpending : w.s.lcp.echosPending ≤ fails := h.kept.pending
  have hfails : w.s.lcp.echoFails = fails := h.kept.fails
  refine ⟨h.kept.timer, fun ht => ?_, hpending⟩
  have hs := h.kept.timer.mp ht
  rw [expiry_closes_iff h.labelled ht hs, h.since hs, hfails]
  exact ⟨fun hc => Nat.le_antisymm hpending hc.2, fun hc => ⟨hf, hc.ge⟩⟩

/-- LCP comes up with two requests allowed: after one expiry the next one closes the link. -/
theorem keepalive_closes_second_expiry :
    Throughout EchoWatch.step (EchoWatch.Alive 2)
      { s := startEcho (.sample PPP_PAP) 2 20, since := 0 }
      (Event.papRequested ++ [.timer .echo, .timer .echo]) ∧
    (run EchoWatch.step { s := startEcho (.sample PPP_PAP) 2 20, since := 0 }
      (Event.papRequested ++ [.timer .echo])).since = 2 ∧
    (run EchoWatch.step { s := startEcho (.sample PPP_PAP) 2 20, since := 0 }
      (Event.papRequested ++ [.timer .echo])).s.lcp.fsm.state = .opened ∧
    (run EchoWatch.step { s := startEcho (.sample PPP_PAP) 2 20, since := 0 }
      (Event.papRequested ++ [.timer .echo, .timer .echo])).s.lcp.fsm.state ≠ .opened :=
  ⟨keepalive_closes_iff (.sample PPP_PAP) (by decide) (by decide) _,
    by decide +kernel, by decide +kernel, by decide +kernel⟩

end Exec

end OpenBras
