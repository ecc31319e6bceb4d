/-
  File:      OpenBras/PPPOE/Isolation.lean
  Subject:   THE SERVER AND ITS SESSIONS: in the table of `CPPPOE` each session is as it would be
             alone.

  THE QUESTION. The results about `CSession` are results about runs of one session. Do they hold
  of the sessions of a server, with other clients, discovery and ids going round beside them?

  They do. What a session hears is fixed by the run of the server: the frames, responses, kicks
  and timers for its id from the PADR that made it until it leaves the table (`heard`). With what
  the server settled for it at that PADR, a run of one session over these events leads to exactly
  the sessions in the table and those that have left it (`sessions_alone`).
-/
import OpenBras.PPPOE.Ownership

namespace OpenBras

namespace PppoeServer

variable {env : PppoeEnv} {s : PppoeServer} {id : UInt16} {x y : Exec} {e : Event}
  {es : List Event}

/-! ## 1. The life of a session -/

/-- What the session of an id hears of a run, until it leaves the table. -/
def heard (env : PppoeEnv) (id : UInt16) : PppoeServer → List Event → List Exec.SessEvent
  | _, [] => []
  | s, e :: es =>
    if (s.findSession id).isSome then hears env id s e ++ heard env id (s.step env e) es else []

/-- The event is a PADR and makes the session: it is created with what the server settles for it
    now, and opened unless there was no room for the PADS. -/
def Makes (env : PppoeEnv) (s : PppoeServer) (e : Event) (id : UInt16) (x : Exec) : Prop :=
  s.findSession id = none ∧ (s.step env e).findSession id = some x ∧
    ∃ frame stale, e = .discovery frame stale ∧
      let c := s.config env id (PPPoEPacket.overlay (frame ++ stale)).source
      x = Exec.create c ∨ x = Exec.start c

/-- `y` is the session that an event of the run makes, after a run of it alone over what it
    hears from then on. -/
def Alone (env : PppoeEnv) (s : PppoeServer) (es : List Event) (y : Exec) : Prop :=
  ∃ before e after id x, es = before ++ e :: after ∧
    let made := run (step env) s before
    Makes env made e id x ∧ y = run Exec.sessStep x (heard env id (made.step env e) after)

/-- The session is in the table, or has left it. -/
def Holds (s : PppoeServer) (x : Exec) : Prop :=
  s.findSession x.sessionid = some x ∨ x ∈ s.gone

/-! ## 2. One event -/

/-- The ids are in order, and no session of the table has been removed. -/
def Live (s : PppoeServer) : Prop := IdsConserved s ∧ Sessions (fun _ => True) s

theorem live_step (h : Live s) (e : Event) : Live (s.step env e) :=
  ⟨conserved_step h.1 e, sessions_change (fun _ _ => trivial) (fun _ _ => trivial)
    (fun _ _ _ => trivial) h.2 (change_step h.1 e)⟩

/-- A session of the table goes on with what it hears, in its place or out of the table. -/
theorem find_step (env : PppoeEnv) (h : Live s) (hx : s.findSession id = some x) (e : Event) :
    let y := run Exec.sessStep x (hears env id s e)
    ((s.step env e).findSession id = some y ∧ y.hist.removed = false) ∨
      ((s.step env e).findSession id = none ∧ y ∈ (s.step env e).gone) := by
  have hm : s.sessionMgr id = some x := hx
  show ((s.step env e).sessionMgr id = _ ∧ _) ∨ ((s.step env e).sessionMgr id = _ ∧ _)
  cases (change_step h.1 e : Change env s e _) with
  | same hs silent =>
    rw [silent id (Option.isSome_of_eq_some hx), hs.sessions]
    exact .inl ⟨hx, (h.2.live hx).2⟩
  | admits j _ _ x' _ _ ha silent =>
    -- the new session has an id that was free
    have hne : id ≠ j := by
      rintro rfl
      have hp : Pooled (fun id => 1 ≤ id ∧ id ≤ 60000) s.psessionid s.sessionMgr := h.1
      rw [ha.ids] at hp
      cases hp.head.2.symm.trans hm
    rw [silent, ha.sessions, Function.update_of_ne hne]
    exact .inl ⟨hx, (h.2.live hx).2⟩
  | stays j x' ev hx' hlive hm' _ _ hheard =>
    rw [hheard, hm']
    by_cases hj : j = id
    · subst hj
      cases hx.symm.trans hx'
      rw [if_pos rfl, Function.update_self]
      exact .inl ⟨rfl, hlive⟩
    · rw [if_neg hj, Function.update_of_ne (Ne.symm hj)]
      exact .inl ⟨hx, (h.2.live hx).2⟩
  | goes j x' ev hx' _ hm' _ hgone hheard =>
    rw [hheard, hm']
    by_cases hj : j = id
    · subst hj
      cases hx.symm.trans hx'
      rw [if_pos rfl, Function.update_self, hgone]
      exact .inr ⟨rfl, List.mem_cons_self⟩
    · rw [if_neg hj, Function.update_of_ne (Ne.symm hj)]
      exact .inl ⟨hx, (h.2.live hx).2⟩

/-- A session that stands where none stood has been made. -/
theorem makes_of_find (h : Live s) (hx : s.findSession id = none)
    (hy : (s.step env e).findSession id = some y) : Makes env s e id y := by
  refine ⟨hx, hy, ?_⟩
  have old : s.sessionMgr id ≠ some y := by
    rw [show s.sessionMgr id = none from hx]
    exact (Option.some_ne_none y).symm
  have hy : (s.step env e).sessionMgr id = some y := hy
  cases (change_step h.1 e : Change env s e _) with
  | same hs _ => exact absurd (hs.sessions ▸ hy) old
  | admits j frame stale x' he hnew ha _ =>
    rw [ha.sessions] at hy
    obtain ⟨rfl, hx'⟩ | ⟨-, hy⟩ := update_some hy
    · cases hx'
      exact ⟨frame, stale, he, hnew⟩
    · exact absurd hy old
  | stays j x' ev hx' _ hm' _ _ _ =>
    rw [hm'] at hy
    obtain ⟨rfl, -⟩ | ⟨-, hy⟩ := update_some hy
    · rw [hx] at hx'
      cases hx'
    · exact absurd hy old
  | goes j x' ev hx' _ hm' _ _ _ =>
    rw [hm'] at hy
    obtain ⟨-, hnone⟩ | ⟨-, hy⟩ := update_some hy
    · cases hnone
    · exact absurd hy old

/-- A session that has gone, went before or in this step. -/
theorem gone_of_step (h : Live s) (hy : y ∈ (s.step env e).gone) :
    y ∈ s.gone ∨ ∃ id x, s.findSession id = some x ∧ (s.step env e).findSession id = none ∧
      y = run Exec.sessStep x (hears env id s e) := by
  cases (change_step h.1 e : Change env s e _) with
  | same hs _ => exact .inl (hs.gone ▸ hy)
  | admits _ _ _ _ _ _ ha _ => exact .inl (ha.gone ▸ hy)
  | stays _ _ _ _ _ _ _ hgone _ => exact .inl (hgone ▸ hy)
  | goes id x ev hx _ hm _ hgone hheard =>
    rw [hgone] at hy
    obtain rfl | hy := List.mem_cons.mp hy
    · refine .inr ⟨id, x, hx, ?_, ?_⟩
      · show (s.step env e).sessionMgr id = none
        rw [hm, Function.update_self]
      · rw [hheard, if_pos rfl]
        rfl
    · exact .inl hy

theorem gone_step (h : Live s) (hy : y ∈ s.gone) (e : Event) : y ∈ (s.step env e).gone := by
  cases (change_step h.1 e : Change env s e _) with
  | same hs _ => exact hs.gone ▸ hy
  | admits _ _ _ _ _ _ ha _ => exact ha.gone ▸ hy
  | stays _ _ _ _ _ _ _ hgone _ => exact hgone ▸ hy
  | goes _ _ _ _ _ _ _ hgone _ => exact hgone ▸ List.mem_cons_of_mem _ hy

/-! ## 3. Runs -/

theorem gone_run (h : Live s) (hy : y ∈ s.gone) (es : List Event) :
    y ∈ (run (step env) s es).gone := by
  induction es generalizing s with
  | nil => exact hy
  | cons e es ih => exact ih (live_step h e) (gone_step h hy e)

theorem heard_none (hx : s.findSession id = none) (es : List Event) : heard env id s es = [] := by
  cases es with
  | nil => rfl
  | cons e es =>
    unfold heard
    rw [hx]
    rfl

theorem heard_cons (hx : s.findSession id = some x) (e : Event) (es : List Event) :
    heard env id s (e :: es) = hears env id s e ++ heard env id (s.step env e) es := by
  show (if (s.findSession id).isSome then _ else _) = _
  rw [hx]
  rfl

/-- **A session of the table is, at the end, where what it hears leads it.** -/
theorem holds_run (h : Live s) (hx : s.findSession id = some x) (es : List Event) :
    Holds (run (step env) s es) (run Exec.sessStep x (heard env id s es)) := by
  induction es generalizing s x with
  | nil =>
    have hid : x.sessionid = id := s.keyed hx
    exact .inl (hid ▸ hx)
  | cons e es ih =>
    rw [heard_cons hx, run_append]
    obtain ⟨hy, -⟩ | ⟨hnone, hy⟩ := find_step env h hx e
    · exact ih (live_step h e) hy
    · rw [heard_none hnone]
      exact .inr (gone_run (live_step h e) hy es)

theorem Alone.cons (h : Alone env (s.step env e) es y) : Alone env s (e :: es) y := by
  obtain ⟨before, e', after, id, x, rfl, hmade⟩ := h
  exact ⟨e :: before, e', after, id, x, rfl, hmade⟩

/-- **Every session of the end is one of the start with what it has heard since, or was made on
    the way.** -/
theorem of_holds_run (h : Live s) (es : List Event) (hy : Holds (run (step env) s es) y) :
    y ∈ s.gone ∨ (∃ id x, s.findSession id = some x ∧
      y = run Exec.sessStep x (heard env id s es)) ∨ Alone env s es y := by
  induction es generalizing s with
  | nil => exact hy.symm.imp_right fun hy => .inl ⟨_, y, hy, rfl⟩
  | cons e es ih =>
    obtain hgone | ⟨id, x, hx, rfl⟩ | hmade := ih (live_step h e) hy
    · obtain hgone | ⟨id, x, hx, hnone, rfl⟩ := gone_of_step h hgone
      · exact .inl hgone
      · refine .inr (.inl ⟨id, x, hx, ?_⟩)
        rw [heard_cons hx, heard_none hnone, List.append_nil]
    · cases hs : s.findSession id with
      | none => exact .inr (.inr ⟨[], e, es, id, x, rfl, makes_of_find h hs hx, rfl⟩)
      | some x' =>
        refine .inr (.inl ⟨id, x', hs, ?_⟩)
        obtain ⟨hy', -⟩ | ⟨hnone, -⟩ := find_step env h hs e
        · cases hx.symm.trans hy'
          rw [heard_cons hs, run_append]
        · rw [hx] at hnone
          cases hnone
    · exact .inr (.inr hmade.cons)

theorem live_initial : Live initial := ⟨conserved_initial, sessions_initial⟩

/-- **The sessions of a server after a run, those in its table and those that have left it, are
    those that its PADRs have made, each after a run of it alone over what it has heard.** -/
theorem sessions_alone (env : PppoeEnv) (es : List Event) (x : Exec) :
    Holds (run (step env) initial es) x ↔ Alone env initial es x := by
  constructor
  · intro hx
    obtain hgone | ⟨id, y, hy, -⟩ | hmade := of_holds_run live_initial es hx
    · cases hgone
    · have hnone : (none : Option Exec) = some y := hy
      cases hnone
    · exact hmade
  · rintro ⟨before, e, after, id, y, rfl, hmade, rfl⟩
    have hlive : Live (run (step env) initial before) :=
      run_keeps (I := Live) (fun _ e h => live_step h e) live_initial before
    rw [run_append]
    exact holds_run (live_step hlive e) hmade.2.1 after

end PppoeServer

end OpenBras
