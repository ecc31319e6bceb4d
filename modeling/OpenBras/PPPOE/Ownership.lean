/-
  File:      OpenBras/PPPOE/Ownership.lean
  Subject:   WHO ENDS A SESSION AND HOW: one PADT for each session, its mark and its timer, and
             frames that are not from its client or not for us.

  `sendPADT` looks at the mark first and sets mark and timer when it has sent; nothing else sets
  them, and only the removal of the session takes the timer back. That is a property of one
  session (`PadtOnce`), kept by every event of it; `sessions_change` takes what every event of
  a session keeps to all sessions of the server, those in the table and those that have gone.

  **`orderly_throughout`**: in every state of every run the sessions are so, and
  foreign frames do nothing.
-/
import OpenBras.PPPOE.Grace
import OpenBras.PPPOE.Ids
import OpenBras.PPPOE.Subscriber

namespace OpenBras

open Wire
open PPPoEPacket (overlay)

/-! ## 1. One session -/

namespace Exec

/-- One PADT has been sent exactly if the session is marked, and none otherwise; while a marked
    session is in the table, its one-off timer runs. -/
structure PadtOnce (s : Exec) : Prop where
  once : s.hist.padts.length ≤ 1
  marked : s.sessionToBeDeleted = true ↔ s.hist.padts ≠ []
  armed : s.hist.removed = false → s.sessionToBeDeleted = true → s.oneOffTimer = true

theorem outlet_padtOnce : Outlet PadtOnce where
  frame {s t} h ht := by
    have hpadts : t.hist.padts = s.hist.padts := congrArg (·.2.1) ht
    have hmark : t.sessionToBeDeleted = s.sessionToBeDeleted := congrArg (·.2.2.1) ht
    have htimer : t.oneOffTimer = s.oneOffTimer := congrArg (·.2.2.2.1) ht
    have hremoved : t.hist.removed = s.hist.removed := congrArg (·.2.2.2.2) ht
    refine ⟨?_, ?_, ?_⟩
    · rw [hpadts]
      exact h.once
    · rw [hmark, hpadts]
      exact h.marked
    · rw [hremoved, hmark, htimer]
      exact h.armed
  output {s} p h := by
    unfold onPPPOutput
    repeat' split
    all_goals exact ⟨h.once, h.marked, h.armed⟩
  padt {s} reason h := by
    unfold sendPADT
    split
    · exact h
    rename_i hmark
    -- the session is not marked, so this is its first PADT
    have hnil : s.hist.padts = [] := not_not.mp fun hne => hmark (h.marked.mpr hne)
    refine ⟨?_, ⟨fun _ => List.cons_ne_nil _ _, fun _ => rfl⟩, fun _ _ => rfl⟩
    show (reason :: s.hist.padts).length ≤ 1
    rw [hnil]
    exact Nat.le_refl 1

theorem padtOnce_sessStep {s : Exec} (e : SessEvent) (h : PadtOnce s) : PadtOnce (s.sessStep e) :=
  outlet_padtOnce.sessStep e (fun _ => ⟨h.once, h.marked, nofun⟩) h

theorem padtOnce_create (c : Config) : PadtOnce (create c) :=
  ⟨Nat.zero_le 1, ⟨nofun, fun h => absurd rfl h⟩, nofun⟩

/-- A session hears nobody but its client, and nothing that is not for us. -/
theorem sessStep_sessData_foreign {s : Exec} {f : SessFrame}
    (h : f.dest ≠ s.intfMac ∨ f.source ≠ s.clientEth) : s.sessStep (.sessData f) = s := by
  unfold sessStep
  split
  · rfl
  show processSessData f s = s
  unfold processSessData
  by_cases hd : f.dest ≠ s.intfMac
  · rw [if_pos hd]
  · rw [if_neg hd, if_pos (h.resolve_left hd)]

theorem sessStep_padt_foreign {s : Exec} {dest source : Bytes}
    (h : dest ≠ s.intfMac ∨ source ≠ s.clientEth) : s.sessStep (.padt dest source) = s := by
  unfold sessStep
  split
  · rfl
  show processPADT dest source s = s
  unfold processPADT
  by_cases hd : dest ≠ s.intfMac
  · rw [if_pos hd]
  · rw [if_neg hd, if_pos (h.resolve_left hd)]

end Exec

namespace PppoeServer

variable {env : PppoeEnv} {s t : PppoeServer}

/-! ## 2. The sessions of a run -/

/-- All sessions have the property, those in the table and those that have gone. -/
structure Sessions (Q : Exec → Prop) (s : PppoeServer) : Prop where
  live : ∀ {id x}, s.findSession id = some x → Q x ∧ x.hist.removed = false
  gone : ∀ x ∈ s.gone, Q x

theorem find_of_update {id j : UInt16} {v : Option Exec} {y : Exec}
    (hm : t.sessionMgr = Function.update s.sessionMgr id v) (hy : t.findSession j = some y) :
    v = some y ∨ s.findSession j = some y := by
  have hy : t.sessionMgr j = some y := hy
  rw [hm] at hy
  obtain ⟨-, hv⟩ | ⟨-, hs⟩ := update_some hy
  · exact .inl hv
  · exact .inr hs

/-- **What new sessions have and every event of a session keeps, all sessions have.** -/
theorem sessions_change {Q : Exec → Prop}
    (hcreate : ∀ id source, Q (Exec.create (s.config env id source)))
    (hstart : ∀ id source, Q (Exec.start (s.config env id source)))
    (hstep : ∀ x e, Q x → Q (x.sessStep e)) (h : Sessions Q s) {e : Event} (hc : Change env s e t) :
    Sessions Q t := by
  cases hc with
  | same hs _ =>
    refine ⟨fun {id x} hx => ?_, fun x hx => h.gone x (hs.gone ▸ hx)⟩
    have hx : t.sessionMgr id = some x := hx
    rw [hs.sessions] at hx
    exact h.live hx
  | admits id _ _ x _ hnew ha _ =>
    have hx : Q x ∧ x.hist.removed = false := by
      obtain rfl | rfl := hnew
      · exact ⟨hcreate id _, rfl⟩
      · exact ⟨hstart id _, Exec.removed_start _⟩
    refine ⟨fun {j y} hy => ?_, fun y hy => h.gone y (ha.gone ▸ hy)⟩
    obtain hxy | hy := find_of_update ha.sessions hy
    · exact Option.some.inj hxy ▸ hx
    · exact h.live hy
  | stays id x e hx hlive hm _ hgone _ =>
    refine ⟨fun {j y} hy => ?_, fun y hy => h.gone y (hgone ▸ hy)⟩
    obtain hxy | hy := find_of_update hm hy
    · exact Option.some.inj hxy ▸ ⟨hstep x e (h.live hx).1, hlive⟩
    · exact h.live hy
  | goes id x e hx _ hm _ hgone _ =>
    refine ⟨fun {j y} hy => ?_, fun y hy => ?_⟩
    · obtain hxy | hy := find_of_update hm hy
      · cases hxy
      · exact h.live hy
    · rw [hgone] at hy
      obtain rfl | hy := List.mem_cons.mp hy
      · exact hstep x e (h.live hx).1
      · exact h.gone y hy

theorem sessions_initial {Q : Exec → Prop} : Sessions Q initial where
  live {id x} hx := by
    have hnone : (none : Option Exec) = some x := hx
    cases hnone
  gone _ hx := absurd hx List.not_mem_nil

/-- A session is ours, and its PADT is sent once. -/
def Kept (env : PppoeEnv) (x : Exec) : Prop := x.intfMac = env.intfMac ∧ x.PadtOnce

theorem kept_sessions (h : IdsConserved s) (hs : Sessions (Kept env) s) (e : Event) :
    Sessions (Kept env) (s.step env e) := by
  refine sessions_change (fun id source => ?_) (fun id source => ?_) (fun x e hx => ?_) hs
    (change_step h e)
  · exact ⟨rfl, Exec.padtOnce_create _⟩
  · exact ⟨congrArg (·.2.2.2.2.1) (Exec.fixed_init (Exec.create (s.config env id source))),
      Exec.outlet_padtOnce.lcpOpen (Exec.padtOnce_create _)⟩
  · exact ⟨(congrArg (·.2.2) (Exec.fixedId_sessStep x e)).trans hx.1,
      Exec.padtOnce_sessStep e hx.2⟩

/-! ## 3. Foreign frames -/

/-- The frame is not for us, or not from the client of the session it names. -/
def Foreign (env : PppoeEnv) (s : PppoeServer) (frame : Bytes) : Prop :=
  let p := overlay frame
  p.dest ≠ env.intfMac ∨ ∀ x, s.findSession p.session = some x → p.source ≠ x.clientEth

theorem same_deliver {id : UInt16} {e : Exec.SessEvent} {Q : Exec → Prop} (hs : Sessions Q s)
    (hkeep : ∀ x, s.findSession id = some x → x.sessStep e = x) : Same s (s.deliver id e) := by
  refine deliver_cases id e (fun _ => ⟨rfl, rfl, rfl⟩) (fun x hx _ hid => ?_) fun x hx hr _ => ?_
  · refine ⟨?_, rfl, rfl⟩
    show Function.update s.sessionMgr (x.sessStep e).sessionid _ = _
    rw [hid, hkeep x hx]
    exact Function.update_eq_self_iff.mpr hx.symm
  · rw [hkeep x hx, (hs.live hx).2] at hr
    cases hr

theorem Foreign.session {frame : Bytes} (hf : Foreign env s frame) (hs : Sessions (Kept env) s)
    {x : Exec} (hx : s.findSession (overlay frame).session = some x) :
    (overlay frame).dest ≠ x.intfMac ∨
      (overlay frame).source ≠ x.clientEth := by
  rw [(hs.live hx).1.1]
  exact hf.imp_right fun h => h x hx

theorem same_session_foreign (hs : Sessions (Kept env) s) {frame : Bytes}
    (hf : Foreign env s frame) (stale rest : Bytes) :
    Same s (s.processSessionPacket frame stale rest) := by
  have hrefl : Same s s := ⟨rfl, rfl, rfl⟩
  unfold processSessionPacket
  dsimp only
  split
  · exact hrefl
  rename_i hhdr
  rw [overlay_append (Nat.not_lt.mp hhdr)]
  dsimp only
  split
  · exact hrefl
  split
  · exact hrefl
  split
  · exact hrefl
  · exact same_deliver hs fun x hx => Exec.sessStep_sessData_foreign (hf.session hs hx)

theorem same_padt_foreign (hs : Sessions (Kept env) s) {frame : Bytes} (hf : Foreign env s frame)
    (hcode : (overlay frame).code = CODE_PADT) (stale : Bytes) :
    Same s (s.processDiscoveryPacket env frame stale) := by
  have hrefl : Same s s := ⟨rfl, rfl, rfl⟩
  unfold processDiscoveryPacket
  dsimp only
  split
  · exact hrefl
  rename_i hhdr
  rw [overlay_append (Nat.not_lt.mp hhdr)]
  dsimp only
  split
  · exact hrefl
  split
  · exact hrefl
  rw [hcode, if_neg (show CODE_PADT ≠ CODE_PADI by decide),
    if_neg (show CODE_PADT ≠ CODE_PADR by decide)]
  unfold processPADT
  split
  · exact hrefl
  · exact same_deliver hs fun x hx => Exec.sessStep_padt_foreign (hf.session hs hx)

/-! ## 4. Runs -/

/-- Each session has been sent its PADT once, or not at all, as its mark says; those in the table
    that are marked have their timer armed; and foreign frames, in the session stage or as a
    PADT, leave all sessions and the table as they are. -/
structure Orderly (env : PppoeEnv) (s : PppoeServer) : Prop where
  live : ∀ id x, s.findSession id = some x →
    x.hist.padts.length ≤ 1 ∧ (x.sessionToBeDeleted = true ↔ x.hist.padts ≠ []) ∧
      (x.sessionToBeDeleted = true → x.oneOffTimer = true)
  gone : ∀ x ∈ s.gone,
    x.hist.padts.length ≤ 1 ∧ (x.sessionToBeDeleted = true ↔ x.hist.padts ≠ [])
  session : ∀ frame stale rest, Foreign env s frame →
    Same s (s.processSessionPacket frame stale rest)
  padt : ∀ frame stale, (overlay frame).code = CODE_PADT → Foreign env s frame →
    Same s (s.processDiscoveryPacket env frame stale)

theorem orderly_of_kept (hs : Sessions (Kept env) s) : Orderly env s where
  live _ _ hx :=
    have hk := hs.live hx
    ⟨hk.1.2.once, hk.1.2.marked, hk.1.2.armed hk.2⟩
  gone x hx := ⟨(hs.gone x hx).2.once, (hs.gone x hx).2.marked⟩
  session _ stale rest hf := same_session_foreign hs hf stale rest
  padt _ stale hcode hf := same_padt_foreign hs hf hcode stale

/-- **In every state of every run each session has had at most one PADT, its mark says so, a marked
    session in the table has its timer armed, and no frame that is not from the client or not for
    us touches a session or the table.** -/
theorem orderly_throughout (env : PppoeEnv) (es : List Event) :
    Throughout (step env) (Orderly env) initial es :=
  throughout_keeps (I := fun s => IdsConserved s ∧ Sessions (Kept env) s)
    (fun _ e h => ⟨conserved_step h.1 e, kept_sessions h.1 h.2 e⟩)
    (fun _ h => orderly_of_kept h.2) ⟨conserved_initial, sessions_initial⟩ es

end PppoeServer

end OpenBras
