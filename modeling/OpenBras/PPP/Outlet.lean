/-
  File:      OpenBras/PPP/Outlet.lean
  Subject:   RULES FOR WHAT A SESSION SENDS: an invariant of the frames to the client, the PADTs,
             the deletion mark and the removal timer.

  These four change in two places only, `OnPPPOutput` and `sendPADT`. So an invariant that reads
  nothing else (`Outlet`) has three rules, and whatever the protocols do keeps it: `input`,
  `expire` and `response`. Closing LCP and opening IPCP leave the record of CHAP alone too
  (`Closing`). `Owner` (OpenBras/PPP/SessionRules.lean) is for the invariants that read the rest of
  the state; it does not see the output.
-/
import OpenBras.PPP.SessionRules

namespace OpenBras

open Wire

namespace Exec

open CPPPFsm

/-- `A` reads the outlet and the record of CHAP, and LCP may be closed and IPCP opened. -/
structure Closing (A : Exec → Prop) : Prop where
  frame : ∀ {s t}, A s → t.chap = s.chap → outlet t = outlet s → A t
  output : ∀ {s} p, A s → A (onPPPOutput p s)
  padt : ∀ {s} reason, A s → A (sendPADT reason s)

structure Outlet (A : Exec → Prop) : Prop where
  frame : ∀ {s t}, A s → outlet t = outlet s → A t
  output : ∀ {s} p, A s → A (onPPPOutput p s)
  padt : ∀ {s} reason, A s → A (sendPADT reason s)

/-! ## 1. LCP's automaton -/

namespace Closing

variable {A : Exec → Prop} (R : Closing A)

include R

theorem blind : Blind A where
  ipcp _ h := R.frame h rfl rfl
  output p h := R.output p h
  down h := R.padt _ (R.frame h rfl rfl)

variable {s : Exec}

theorem onLCPDown (h : A s) : A (onLCPDown s) :=
  R.blind.onLCPDown (fun h => R.frame h rfl rfl) (fun reason h => R.padt reason h) h

theorem link : LinkOwner fun _ => A where
  lcp _ _ _ _ h := R.frame h rfl rfl
  output p h := R.output p h
  acked := Iff.rfl
  ending h := h
  down h := ⟨R.onLCPDown h, R.onLCPDown h⟩
  padt reason h := R.padt reason h
  dead h := R.frame h rfl rfl
  ended h := R.frame h rfl rfl
  finished _ h := R.frame h rfl rfl

theorem authenFailure (protocol : UInt16) (h : A s) : A (authenFailure protocol s) :=
  R.link.close _ (R.frame h rfl rfl)

end Closing

theorem closing_true : Closing fun _ => True :=
  ⟨fun _ _ _ => trivial, fun _ _ => trivial, fun _ _ => trivial⟩

theorem chap_closing (c : CChapProtocolSvr) : Closing fun s => s.chap = c where
  frame h hchap _ := hchap.trans h
  output p h := (chap_onPPPOutput p _).trans h
  padt reason h := by
    unfold sendPADT
    split
    · exact h
    · exact h

/-! ## 2. The authentication servers and the echo requests -/

namespace Outlet

variable {A : Exec → Prop} (R : Outlet A)

include R

theorem closing : Closing A where
  frame h _ ho := R.frame h ho
  output p h := R.output p h
  padt reason h := R.padt reason h

theorem auth : AuthRules A where
  aside h _ _ _ ho := R.frame h ho
  fresh h := R.frame h rfl
  send h := R.output _ h
  output _ h := R.output _ h
  close reason h := R.closing.link.close reason h
  opens h := R.closing.blind.fsmOpen (R.frame h rfl)
  addresses _ _ h := R.frame h rfl

variable {s : Exec}

theorem sendEchoRequest (h : A s) : A (sendEchoRequest s) := R.closing.link.sendEchoRequest h

theorem echoLowerUp (h : A s) : A (echoLowerUp s) := by
  unfold Exec.echoLowerUp
  dsimp only
  split
  · have hs := R.sendEchoRequest (s := { s with lcp := s.lcp.echoReset }) (R.frame h rfl)
    generalize Exec.sendEchoRequest _ = t at hs ⊢
    split
    · exact R.frame hs rfl
    · exact hs
  · exact R.frame h rfl

theorem lcpUp (h : A s) : A (lcpUp s) :=
  R.auth.onLCPUp (R.echoLowerUp (s := settle s) (R.frame h rfl))

theorem rules : FsmRules lcpFsm lcpSink fun _ => A :=
  R.closing.link.rules fun _ _ h => R.lcpUp h

/-! ## 3. Events -/

/-- **A received packet keeps it.** -/
theorem input (packet : Bytes) (len : Nat) (h : A s) : A (Exec.input packet len s) := by
  refine input_cases packet len (fun _ => ?_) (fun _ _ _ => ?_) (fun _ _ => ?_) (fun _ _ => ?_)
    (fun field n => ?_) h
  · exact input_keeps R.rules _ _ (fun _ _ _ _ _ _ ht => R.closing.link.nakci _ _ _ ht) h
  · refine R.closing.blind.input (fun _ h => R.frame h rfl) (fun h => ?_) _ _ (R.frame h rfl)
    unfold onIPCPUp
    repeat' split
    all_goals exact R.frame h rfl
  · exact R.auth.papInput _ _ h
  · exact R.auth.chapInput _ _ h
  · exact sendData_keeps (c := .idle) R.closing.link.ciRules _ _ _ _
      (R.closing.link.ciRules.upd (c := .idle) _ h)

/-- **Every timer keeps it.** -/
theorem expire (t : Timer) (h : A s) : A (s.expire t) := by
  refine expire_cases t (fun _ _ => ?_) (R.sendEchoRequest h) (fun _ => R.closing.blind.timeout h)
    (R.auth.papTimer h) (R.auth.challenger.chapHandleTimeout h) h
  exact timeout_keeps R.rules.toTimerRules
    (fun _ _ _ => R.closing.link.terminate (fun _ => R.frame h rfl) (R.frame h rfl)) h

/-- **An answer of the authentication manager keeps it.** -/
theorem response (k : Nat) (r : AuthResponse) (h : A s) : A (Exec.response k r s) :=
  R.auth.response k r h

/-- **A session that starts keeps it.** -/
theorem lcpOpen (h : A s) : A (Exec.lcpOpen (pppInit s)) := by
  have hinit : A (pppInit s) := by
    unfold pppInit
    dsimp only
    split <;> exact R.frame h rfl
  exact fsmOpen_keeps R.closing.link.layerRules (R.closing.link.ciRules.upd (c := .idle) _ hinit)

end Outlet

end Exec

end OpenBras
