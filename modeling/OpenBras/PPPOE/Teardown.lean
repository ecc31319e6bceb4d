/-
  File:      OpenBras/PPPOE/Teardown.lean
  Subject:   WHAT BECOMES OF A SESSION WHOSE LCP HAS FINISHED, over every run of a session.

  `Finished` reaches the session through `CPPP::OnLCPTerminate`, which does nothing in the Dead
  phase, and the phase is Dead until LCP comes up for the first time. So a client that never
  completes LCP leaves a session behind that nobody removes: LCP gives up after its
  retransmissions and stays in STOPPED, and the session keeps its place and its id.

  **`finished_session_ends_iff`**: a run leaves no such session exactly if LCP never gives up in
  the Dead phase in a session that is not marked already. `silent_client_leaks` is a run that
  does: the client never answers.
-/
import OpenBras.Lib.Run
import OpenBras.PPPOE.Session

namespace OpenBras

namespace Exec

open CPPPFsm

/-! ## 1. The property -/

/-- A session in the table whose LCP has finished is marked, its removal timer is armed, and the
    expiry of that timer removes it. -/
def SessionEnds (s : Exec) : Prop :=
  s.hist.finished = true → s.hist.removed = false →
    s.sessionToBeDeleted = true ∧ s.oneOffTimer = true ∧
      (sessStep s .oneOff).hist.removed = true

instance (s : Exec) : Decidable (SessionEnds s) :=
  inferInstanceAs (Decidable (s.hist.finished = true → s.hist.removed = false →
    s.sessionToBeDeleted = true ∧ s.oneOffTimer = true ∧
      (sessStep s .oneOff).hist.removed = true))

/-- The condition on a step: LCP does not give up in the Dead phase, unless the session is
    marked. -/
def NoSilentGiveUp (s : Exec) : SessEvent → Prop
  | .timer .lcp => s.hist.removed = false → s.lcp.fsm.timer = true → GivesUpDead s →
      s.sessionToBeDeleted = true
  | _ => True

/-! ## 2. The invariant -/

/-- Where LCP is closing the session is marked. -/
def Ending (c : Stand) (s : Exec) : Prop :=
  (c = .ending → s.sessionToBeDeleted = true) ∧ (s.hist.finished = true → s.sessionToBeDeleted = true) ∧
    (s.hist.removed = false → s.sessionToBeDeleted = true → s.oneOffTimer = true)

variable {s : Exec}

theorem ending_sendPADT {c : Stand} (reason : String) (h : Ending c s) (c' : Stand) :
    Ending c' (sendPADT reason s) := by
  unfold sendPADT
  split
  · rename_i hf
    exact ⟨fun _ => hf, h.2.1, h.2.2⟩
  · exact ⟨fun _ => rfl, fun _ => rfl, fun _ _ => rfl⟩

theorem blind_ending (c : Stand) : Blind (Ending c) where
  ipcp _ h := h
  output p h := of_erased Exec.bare (fun _ => Iff.rfl) (bare_onPPPOutput p _) h
  down {s} h := ending_sendPADT (s := onDelSubscriber s) _ h _

theorem ending_onLCPDown {c : Stand} (h : Ending c s) (c' : Stand) : Ending c' (onLCPDown s) := by
  have hd : Ending c (ipcpCloseFsm "LCP down" (ipcpLowerDown s)) :=
    (blind_ending c).close _ ((blind_ending c).lowerDown h)
  unfold onLCPDown
  refine ending_sendPADT _ (c := c) ?_ c'
  split
  · exact hd
  · exact hd

theorem ending_owner : Owner Ending where
  bare h hb := of_erased Exec.bare (fun _ => Iff.rfl) hb h
  acked := ⟨fun h => ⟨nofun, h.2⟩, fun h => ⟨nofun, h.2⟩⟩
  ending h := ⟨nofun, h.2⟩
  down h := ⟨ending_onLCPDown h _, ending_onLCPDown h _⟩
  padt reason h := ending_sendPADT reason h _
  rises h := ⟨nofun, h.2⟩
  ended h := ⟨nofun, fun _ => h.1 rfl, h.2.2⟩
  finished hf h := ⟨h.1, fun _ => hf, h.2.2⟩

/-! ## 3. Every step keeps it -/

theorem ending_onIPCPUp {c : Stand} (h : Ending c s) : Ending c (onIPCPUp s) := by
  unfold onIPCPUp
  repeat' split
  all_goals exact h

theorem ending_input (packet : Bytes) (len : Nat) (h : Inv lcpFsm Ending s) :
    Inv lcpFsm Ending (input packet len s) := by
  refine ending_owner.input packet len (fun _ _ _ => ?_) (fun _ _ => ?_) (fun _ _ => ?_) h
  · show Ending (ipcpInput _ _ s).lcp.fsm.state.stand _
    rw [lcp_ipcpInput]
    exact (blind_ending _).input (fun _ h => h) ending_onIPCPUp _ _ h
  · rw [papInput_eq]
    split <;> exact h
  · rw [chapInput_eq]
    repeat' split
    all_goals exact h

theorem ending_response (k : Nat) (r : AuthResponse) (h : Inv lcpFsm Ending s) :
    Inv lcpFsm Ending (response k r s) := by
  have hn : Inv lcpFsm Ending (addressed k r s) := h
  refine ending_owner.onAuthResponse (fun h _ => h) _ _ (fun protocol t ht _ => ?_) hn
  have htl : t.lcp = s.lcp := ht.lcp
  show Ending (authenSuccess protocol t).lcp.fsm.state.stand _
  unfold authenSuccess
  rw [lcp_ipcpOpen]
  show Ending t.lcp.fsm.state.stand _
  rw [htl]
  refine (blind_ending _).fsmOpen ?_
  exact ht.keeps (A := Ending s.lcp.fsm.state.stand) (fun _ => Iff.rfl) (fun _ h => h) hn

/-- **Every step that meets the condition keeps the invariant.** -/
theorem ending_step (e : SessEvent) (hok : NoSilentGiveUp s e) (h : Inv lcpFsm Ending s) :
    Inv lcpFsm Ending (sessStep s e) := by
  cases hr : s.hist.removed with
  | true =>
    unfold sessStep
    rw [if_pos hr]
    exact h
  | false =>
    refine ending_owner.sessStep e (fun f _ => ending_input _ _ h) (fun he ht hg => ?_) ?_
      (fun k r _ => ending_response k r h) (fun _ => ⟨h.1, h.2.1, nofun⟩) h
    · subst he
      exact ⟨nofun, fun _ => hok hr ht hg, h.2.2⟩
    · show Ending (ipcpTimeout s).lcp.fsm.state.stand _
      rw [lcp_ipcpTimeout]
      exact (blind_ending _).timeout h

theorem ending_start (c : Config) : Inv lcpFsm Ending (start c) := by
  refine fsmOpen_keeps ending_owner.layerRules ?_
  unfold pppInit
  dsimp only
  split <;> exact ⟨nofun, nofun, nofun⟩

/-! ## 4. The condition is exact -/

/-- The session after LCP has given up in the Dead phase: finished, and otherwise as before. -/
theorem timeout_givesUpDead (h : GivesUpDead s) :
    CPPPFsm.timeout lcpFsm lcpSink s = noteFinished (setState lcpFsm .stopped s) := by
  obtain ⟨hn, hr, hp, hd⟩ := h
  rw [timeout_giveUp hn hr hp]
  show noteFinished (onLCPTerminate (setState lcpFsm .stopped s)) = _
  unfold onLCPTerminate
  rw [if_pos (by exact hd)]

theorem noSilentGiveUp_of_ends (e : SessEvent) (hp : SessionEnds (sessStep s e)) :
    NoSilentGiveUp s e := by
  cases e with
  | timer t =>
    cases t with
    | lcp =>
      intro hr ht hg
      have hstep : sessStep s (.timer .lcp) = noteFinished (setState lcpFsm .stopped s) := by
        unfold sessStep expire
        rw [hr, if_neg Bool.false_ne_true, if_pos ht]
        exact timeout_givesUpDead hg
      rw [hstep] at hp
      exact (hp rfl hr).1
    | _ => trivial
  | _ => trivial

/-- **Exactly the runs in which LCP never gives up in the Dead phase, unless the session is
    marked, leave no finished session in the table for good**, for every configuration and
    every interleaving of frames, timers, answers, PADTs and kicks. -/
theorem finished_session_ends_iff (c : Config) (es : List SessEvent) :
    Throughout sessStep SessionEnds (start c) es ↔ Along sessStep NoSilentGiveUp (start c) es := by
  refine throughout_iff_along (I := fun s => Inv lcpFsm Ending s)
    (fun s e h hok => ending_step e hok h) (fun s h hf hr => ?_)
    (fun s e _ => noSilentGiveUp_of_ends e) (ending_start c) es
  have hd : s.sessionToBeDeleted = true := h.2.1 hf
  have ho : s.oneOffTimer = true := h.2.2 hr hd
  refine ⟨hd, ho, ?_⟩
  unfold sessStep
  rw [hr, if_neg Bool.false_ne_true]
  simp [ho, removeSession]

/-- The client never answers: LCP sends its request nine times more and gives up when the timer
    expires for the tenth time; the session stays, unmarked. -/
theorem silent_client_leaks :
    ¬ Throughout sessStep SessionEnds (start (.sample PPP_PAP))
      (List.replicate 10 (.timer .lcp)) :=
  fun h => absurd (throughout_last h) (by decide +kernel)

end Exec

end OpenBras
