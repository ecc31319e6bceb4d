/-
  File:      OpenBras/BNGEvent/Reactor.lean
  Subject:   THE EVENT REACTOR: threads queue events, a zero-delay timer of the reactor's thread
             fires them.

  Embeds `BNGEvent/CEventReactor.cpp`: `ScheduleEvent` as a thread other than the reactor's runs
  it, `StartEventSchedule` and `handle_timeout`. What the reactor of ACE does with the handler is
  part of the machine, in three steps of its own: it takes an expired timer, it calls
  `handle_timeout`, and since that returns -1 it cancels every timer of the handler. The three are
  one dispatch, and `schedule_timer` waits for its end.

  * `CEventReactor`     -- the queue, the flag, `m_mutex`, and where the reactor is;
  * `step`              -- one step of a thread or of the reactor; a step that has to wait leaves
                           the state as it is, so a run is any interleaving;
  * `Steady`            -- the invariant: flag, timers and dispatch go together;
  * `events_fired_once_in_order` -- nothing is lost, doubled or overtaken, and what is queued has
                           a timer.

  `ScheduleEvent` holds `m_mutex` while it waits in `schedule_timer`, and `handle_timeout` takes
  `m_mutex` inside a dispatch. The invariant also says that the two never wait for each other.
-/
import Mathlib.Data.List.ReduceOption
import OpenBras.Lib.Run

namespace OpenBras

/-! ## 1. The machine -/

/-- Where the reactor's thread is in a dispatch of the handler's timer. -/
inductive Dispatch where
  | idle
  /-- The timer has been taken off, `handle_timeout` is about to enter its section. -/
  | upcall
  /-- `handle_timeout` has returned -1, the handler's timers are about to be cancelled. -/
  | returned
deriving DecidableEq, Repr

/-- The reactor object and its handler's timers. An event is a pointer that may be null. -/
structure CEventReactor (α : Type) where
  m_eventqueue : List (Option α) := []
  m_bfire : Bool := true
  /-- A thread is inside `schedule_timer`, with `m_mutex` held. -/
  scheduling : Bool := false
  /-- The timers of this handler that wait in the reactor. -/
  timers : Nat := 0
  dispatch : Dispatch := .idle
  /-- The events fired, first one first. -/
  fired : List α := []
  /-- The pointers handed to `ScheduleEvent` in the run so far, first one first. -/
  scheduled : List (Option α) := []

namespace CEventReactor

variable {α : Type}

/-- The first part of `StartEventSchedule`: only with the flag set is a timer scheduled. -/
def startEventSchedule (s : CEventReactor α) : CEventReactor α :=
  if !s.m_bfire then s else { s with scheduling := true }

/-- `ScheduleEvent` of another thread, from the lock to the call of `schedule_timer`. -/
def scheduleEvent (pevent : Option α) (s : CEventReactor α) : CEventReactor α :=
  startEventSchedule { s with m_eventqueue := s.m_eventqueue ++ [pevent] }

/-- The rest of `StartEventSchedule` and of `ScheduleEvent`, once the reactor lets it in. -/
def scheduleTimer (s : CEventReactor α) : CEventReactor α :=
  { s with timers := s.timers + 1, m_bfire := false, scheduling := false }

/-- The loop of `handle_timeout` over what is left of the queue. -/
def fireEvents : List (Option α) → CEventReactor α → CEventReactor α
  | [], s => s
  | pevent :: it, s =>
    match pevent with
    | some e => fireEvents it { s with fired := s.fired ++ [e], m_eventqueue := it }
    | none => fireEvents it { s with m_eventqueue := it }

/-- `handle_timeout`. -/
def handleTimeout (s : CEventReactor α) : CEventReactor α :=
  { fireEvents s.m_eventqueue s with m_bfire := true, dispatch := .returned }

/-- The steps of the threads (`scheduleEvent`, `scheduleTimer`) and of the reactor. -/
inductive Step (α : Type) where
  | scheduleEvent (pevent : Option α)
  | scheduleTimer
  | expire
  | handleTimeout
  | cancelTimer
deriving DecidableEq, Repr

/-- One step. The lock and the reactor's own serialisation say which steps have to wait. A call of
    `ScheduleEvent` is recorded here, whatever becomes of its event. -/
def step (s : CEventReactor α) : Step α → CEventReactor α
  | .scheduleEvent pevent =>
    if s.scheduling then s
    else { scheduleEvent pevent s with scheduled := s.scheduled ++ [pevent] }
  | .scheduleTimer => if s.scheduling ∧ s.dispatch = .idle then scheduleTimer s else s
  | .expire =>
    if 0 < s.timers ∧ s.dispatch = .idle then
      { s with timers := s.timers - 1, dispatch := .upcall }
    else s
  | .handleTimeout =>
    if s.scheduling = false ∧ s.dispatch = .upcall then handleTimeout s else s
  | .cancelTimer =>
    if s.dispatch = .returned then { s with timers := 0, dispatch := .idle } else s

/-- A timer is pending: it waits in the reactor, or its `handle_timeout` is being called. -/
def Pending (s : CEventReactor α) : Prop := 0 < s.timers ∨ s.dispatch = .upcall

/-! ## 2. What the sections do -/

theorem scheduleEvent_down {s : CEventReactor α} (h : s.m_bfire = false) (pevent : Option α) :
    scheduleEvent pevent s = { s with m_eventqueue := s.m_eventqueue ++ [pevent] } := by
  simp only [scheduleEvent, startEventSchedule, h, Bool.not_false, if_true]

theorem scheduleEvent_up {s : CEventReactor α} (h : s.m_bfire = true) (pevent : Option α) :
    scheduleEvent pevent s = { s with
      m_eventqueue := s.m_eventqueue ++ [pevent], scheduling := true } := by
  simp only [scheduleEvent, startEventSchedule, h, Bool.not_true, Bool.false_eq_true, if_false]

theorem fireEvents_eq (q : List (Option α)) (s : CEventReactor α) (hq : s.m_eventqueue = q) :
    fireEvents q s = { s with fired := s.fired ++ q.reduceOption, m_eventqueue := [] } := by
  induction q generalizing s with
  | nil =>
    unfold fireEvents
    rw [List.reduceOption_nil, List.append_nil, ← hq]
  | cons pevent it ih =>
    unfold fireEvents
    cases pevent with
    | some e =>
      dsimp only
      rw [ih _ rfl, List.reduceOption_cons_of_some, List.append_assoc, List.singleton_append]
    | none =>
      dsimp only
      rw [ih _ rfl, List.reduceOption_cons_of_none]

theorem handleTimeout_eq (s : CEventReactor α) :
    handleTimeout s = { s with
      fired := s.fired ++ s.m_eventqueue.reduceOption, m_eventqueue := [], m_bfire := true,
      dispatch := .returned } := by
  unfold handleTimeout
  rw [fireEvents_eq _ s rfl]

/-! ## 3. The invariant -/

/-- Flag, timers, lock and dispatch go together, and the queue is what has not been fired. -/
structure Steady (s : CEventReactor α) : Prop where
  /-- Nothing is lost, doubled or overtaken. -/
  books : s.fired ++ s.m_eventqueue.reduceOption = s.scheduled.reduceOption
  /-- With the flag down exactly one `handle_timeout` is still to come. -/
  down : s.m_bfire = false →
    s.timers = 1 ∧ s.dispatch = .idle ∨ s.timers = 0 ∧ s.dispatch = .upcall
  /-- With the flag up none is, and only a thread in `schedule_timer` has queued anything. -/
  up : s.m_bfire = true →
    s.timers = 0 ∧ s.dispatch ≠ .upcall ∧ (s.m_eventqueue ≠ [] → s.scheduling = true)
  /-- A thread waits in `schedule_timer` with the flag up only: never against an upcall. -/
  waits : s.scheduling = true → s.m_bfire = true

theorem steady_start : Steady ({} : CEventReactor α) where
  books := rfl
  down := nofun
  up := fun _ => ⟨rfl, nofun, fun h => absurd rfl h⟩
  waits := nofun

variable {s : CEventReactor α}

theorem Steady.down_of_upcall (h : Steady s) (hup : s.dispatch = .upcall) :
    s.m_bfire = false ∧ s.timers = 0 := by
  cases hf : s.m_bfire with
  | true => exact absurd hup (h.up hf).2.1
  | false =>
    rcases h.down hf with ⟨-, hidle⟩ | ⟨htimers, -⟩
    · exact absurd (hidle.symm.trans hup) (by decide)
    · exact ⟨rfl, htimers⟩

theorem Steady.up_of_returned (h : Steady s) (hr : s.dispatch = .returned) :
    s.m_bfire = true := by
  cases hf : s.m_bfire with
  | true => rfl
  | false =>
    rcases h.down hf with ⟨-, hidle⟩ | ⟨-, hup⟩
    · exact absurd (hidle.symm.trans hr) (by decide)
    · exact absurd (hup.symm.trans hr) (by decide)

theorem Steady.down_of_timer (h : Steady s) (ht : 0 < s.timers) :
    s.m_bfire = false ∧ s.timers = 1 := by
  cases hf : s.m_bfire with
  | true => exact absurd (h.up hf).1 (by omega)
  | false =>
    rcases h.down hf with ⟨h1, -⟩ | ⟨h0, -⟩
    · exact ⟨rfl, h1⟩
    · omega

theorem steady_scheduleEvent (h : Steady s) (hlock : s.scheduling = false) (pevent : Option α) :
    Steady { scheduleEvent pevent s with scheduled := s.scheduled ++ [pevent] } := by
  have hbooks : s.fired ++ (s.m_eventqueue ++ [pevent]).reduceOption =
      (s.scheduled ++ [pevent]).reduceOption := by
    rw [List.reduceOption_append, List.reduceOption_append, ← List.append_assoc, h.books]
  cases hfire : s.m_bfire with
  | false =>
    rw [scheduleEvent_down hfire]
    exact {
      books := hbooks
      down := h.down
      up := fun hf => absurd (hfire.symm.trans hf) (by decide)
      waits := fun hs => absurd (hlock.symm.trans hs) (by decide) }
  | true =>
    rw [scheduleEvent_up hfire]
    obtain ⟨htimers, hup, -⟩ := h.up hfire
    exact {
      books := hbooks
      down := fun hf => absurd (hfire.symm.trans hf) (by decide)
      up := fun _ => ⟨htimers, hup, fun _ => rfl⟩
      waits := fun _ => hfire }

theorem steady_scheduleTimer (h : Steady s) (hwait : s.scheduling = true)
    (hidle : s.dispatch = .idle) : Steady (scheduleTimer s) where
  books := h.books
  down := fun _ => Or.inl ⟨congrArg (· + 1) (h.up (h.waits hwait)).1, hidle⟩
  up := nofun
  waits := nofun

theorem steady_expire (h : Steady s) (ht : 0 < s.timers) :
    Steady { s with timers := s.timers - 1, dispatch := .upcall } := by
  obtain ⟨hdown, hone⟩ := h.down_of_timer ht
  exact {
    books := h.books
    down := fun _ => Or.inr ⟨congrArg (· - 1) hone, rfl⟩
    up := fun hf => absurd (hdown.symm.trans hf) (by decide)
    waits := h.waits }

theorem steady_handleTimeout (h : Steady s) (hup : s.dispatch = .upcall) :
    Steady (handleTimeout s) := by
  rw [handleTimeout_eq]
  exact {
    books := by rw [List.reduceOption_nil, List.append_nil, h.books]
    down := nofun
    up := fun _ => ⟨(h.down_of_upcall hup).2, nofun, fun hq => absurd rfl hq⟩
    waits := fun _ => rfl }

theorem steady_cancelTimer (h : Steady s) (hr : s.dispatch = .returned) :
    Steady { s with timers := 0, dispatch := .idle } := by
  have hfire := h.up_of_returned hr
  exact {
    books := h.books
    down := fun hf => absurd (hfire.symm.trans hf) (by decide)
    up := fun _ => ⟨rfl, nofun, (h.up hfire).2.2⟩
    waits := h.waits }

/-- **Every step of a thread or of the reactor keeps the invariant.** -/
theorem steady_step (h : Steady s) (a : Step α) : Steady (step s a) := by
  cases a with
  | scheduleEvent pevent =>
    simp only [step]
    split
    · exact h
    · next hlock => exact steady_scheduleEvent h (eq_false_of_ne_true hlock) pevent
  | scheduleTimer =>
    simp only [step]
    split
    · next hw => exact steady_scheduleTimer h hw.1 hw.2
    · exact h
  | expire =>
    simp only [step]
    split
    · next ht => exact steady_expire h ht.1
    · exact h
  | handleTimeout =>
    simp only [step]
    split
    · next hup => exact steady_handleTimeout h hup.2
    · exact h
  | cancelTimer =>
    simp only [step]
    split
    · next hr => exact steady_cancelTimer h hr
    · exact h

/-- What is queued while nobody holds the lock has a timer. -/
theorem Steady.pending (h : Steady s) (hfree : s.scheduling = false)
    (hq : s.m_eventqueue ≠ []) : s.Pending := by
  cases hf : s.m_bfire with
  | true => exact absurd (hfree.symm.trans ((h.up hf).2.2 hq)) (by decide)
  | false =>
    rcases h.down hf with ⟨h1, -⟩ | ⟨-, hup⟩
    · exact Or.inl (h1 ▸ Nat.one_pos)
    · exact Or.inr hup

/-! ## 4. The reactor gets to the end of the queue -/

/-- What the reactor does next, and the thread that waits for it: the end of the dispatch under
    way, the timer of that thread, and the next dispatch as far as `handle_timeout`. -/
def nextDispatch : List (Step α) := [.cancelTimer, .scheduleTimer, .expire, .handleTimeout]

theorem scheduled_step {a : Step α} (ha : ∀ pevent, a ≠ .scheduleEvent pevent) :
    (step s a).scheduled = s.scheduled := by
  cases a with
  | scheduleEvent pevent => exact absurd rfl (ha pevent)
  | scheduleTimer =>
    simp only [step]
    split <;> rfl
  | expire =>
    simp only [step]
    split <;> rfl
  | handleTimeout =>
    simp only [step]
    split
    · rw [handleTimeout_eq]
    · rfl
  | cancelTimer =>
    simp only [step]
    split <;> rfl

theorem cancelTimer_ends : (step s .cancelTimer).dispatch ≠ .returned := by
  simp only [step]
  split
  · exact nofun
  · next hr => exact hr

/-- A thread in `schedule_timer` waits for the end of a dispatch and for nothing else. -/
theorem scheduleTimer_ends (h : Steady s) (hr : s.dispatch ≠ .returned) :
    (step s .scheduleTimer).scheduling = false := by
  simp only [step]
  split
  · rfl
  next hw =>
    cases hs : s.scheduling with
    | false => rfl
    | true =>
      have hup := (h.up (h.waits hs)).2.1
      cases hd : s.dispatch with
      | idle => exact absurd ⟨hs, hd⟩ hw
      | upcall => exact absurd hd hup
      | returned => exact absurd hd hr

theorem expire_calls (h : Steady s) (hfree : s.scheduling = false) (hq : s.m_eventqueue ≠ []) :
    (step s .expire).scheduling = false ∧ (step s .expire).dispatch = .upcall := by
  simp only [step]
  split
  · exact ⟨hfree, rfl⟩
  next hw =>
    rcases h.pending hfree hq with ht | hup
    · cases hf : s.m_bfire with
      | true => exact absurd (h.up hf).1 (by omega)
      | false =>
        rcases h.down hf with ⟨-, hidle⟩ | ⟨h0, -⟩
        · exact absurd ⟨ht, hidle⟩ hw
        · omega
    · exact ⟨hfree, hup⟩

theorem queue_expire : (step s .expire).m_eventqueue = s.m_eventqueue := by
  simp only [step]
  split <;> rfl

theorem handleTimeout_empties (hfree : s.scheduling = false) (hup : s.dispatch = .upcall) :
    (step s .handleTimeout).m_eventqueue = [] := by
  simp only [step, if_pos (And.intro hfree hup)]
  rw [handleTimeout_eq]

theorem handleTimeout_empty (hq : s.m_eventqueue = []) :
    (step s .handleTimeout).m_eventqueue = [] := by
  simp only [step]
  split
  · rw [handleTimeout_eq]
  · exact hq

/-- **The next dispatch empties the queue**, whatever the state it starts in. -/
theorem nextDispatch_empties (h : Steady s) :
    (run step s nextDispatch).m_eventqueue = [] := by
  have h1 := steady_step h .cancelTimer
  have h2 := steady_step h1 .scheduleTimer
  have hfree := scheduleTimer_ends h1 cancelTimer_ends
  show (step (step (step (step s .cancelTimer) .scheduleTimer) .expire) .handleTimeout).m_eventqueue
    = []
  generalize step (step s .cancelTimer) .scheduleTimer = t at h2 hfree ⊢
  by_cases hq : t.m_eventqueue = []
  · exact handleTimeout_empty (queue_expire.trans hq)
  · obtain ⟨hfree', hup⟩ := expire_calls h2 hfree hq
    exact handleTimeout_empties hfree' hup

theorem nextDispatch_scheduled (s : CEventReactor α) :
    (run step s nextDispatch).scheduled = s.scheduled := by
  simp only [nextDispatch, run_cons, run_nil]
  rw [scheduled_step (a := .handleTimeout) nofun, scheduled_step (a := .expire) nofun,
    scheduled_step (a := .scheduleTimer) nofun, scheduled_step (a := .cancelTimer) nofun]

/-- **Every scheduled event is fired exactly once, in the order queued, and no wake-up is lost.**
    For every interleaving of threads and reactor: the events fired, followed by those in the
    queue, are those scheduled, in their order; what is queued while `m_mutex` is free has a
    timer pending; and once the reactor has come to the end of its next dispatch, the events fired
    are all those that had been scheduled. -/
theorem events_fired_once_in_order (as : List (Step α)) :
    let s := run step ({} : CEventReactor α) as
    s.fired ++ s.m_eventqueue.reduceOption = s.scheduled.reduceOption ∧
      (s.scheduling = false → s.m_eventqueue ≠ [] → s.Pending) ∧
      (run step s nextDispatch).fired = s.scheduled.reduceOption := by
  intro s
  have h : Steady s := run_keeps (I := Steady) (fun _ a hs => steady_step hs a) steady_start as
  refine ⟨h.books, h.pending, ?_⟩
  have hbooks := (run_keeps (I := Steady) (fun _ a hs => steady_step hs a) h nextDispatch).books
  rwa [nextDispatch_empties h, List.reduceOption_nil, List.append_nil,
    nextDispatch_scheduled] at hbooks

end CEventReactor

end OpenBras
