/-
  File:      OpenBras/PPPOE/Grace.lean
  Subject:   A SESSION BETWEEN ITS PADT AND ITS REMOVAL: it should neither hear nor speak the
             control protocols.

  `OnPPPOutput` drops the control packets of a marked session, and no event gets one past it
  (`controls_sessStep`). `ProcessSessData` means to do the same on the way in, but reads the
  protocol field without `ntohs`: on a little-endian host it drops the frames whose protocol is
  21 C0 instead of C0 21, and lets LCP, IPCP, PAP and CHAP through.

  **`grace_silent_iff`**: what is asked for holds in exactly the runs in which no frame with a
  control protocol, in either byte order, reaches a marked session. `marked_session_answers` is
  a session that has been kicked and still negotiates.
-/
import OpenBras.Lib.Run
import OpenBras.PPP.Outlet
import OpenBras.PPPOE.Session

namespace OpenBras

open Wire

namespace Exec

/-! ## 1. The property -/

/-- The control packets sent to the client. -/
def controls (s : Exec) : List Bytes := s.hist.output.filter fun p => isControl (getShort p 0)

/-- The frame comes from the client, is for us and has a protocol field. -/
def Heard (s : Exec) (f : SessFrame) : Prop :=
  f.dest = s.intfMac ∧ f.source = s.clientEth ∧ 2 ≤ f.length.toNat

instance (s : Exec) (f : SessFrame) : Decidable (Heard s f) :=
  inferInstanceAs (Decidable (_ ∧ _ ∧ _))

/-- A control packet leaves the protocols of a marked session as they are, and none is sent; and
    the filters for the two directions agree on the frame. -/
def Silent (s : Exec) (e : SessEvent) : Prop :=
  s.hist.removed = false → s.sessionToBeDeleted = true →
    controls (sessStep s e) = controls s ∧
      ∀ f, e = .sessData f → Heard s f →
        (isControl (getShort f.payload 0) = true → (sessStep s e).toCPPP = s.toCPPP) ∧
        isControl (hostShort f.payload) =
          isControl (getShort ([PPP_ALLSTATIONS, PPP_UI] ++ f.payload) PPP_ADDR_CTRL_LEN)

/-- The condition on a step: no control protocol, in either byte order, for a marked session. -/
def ControlFree (s : Exec) (e : SessEvent) : Prop :=
  s.hist.removed = false → s.sessionToBeDeleted = true → ∀ f, e = .sessData f → Heard s f →
    isControl (getShort f.payload 0) = false ∧ isControl (hostShort f.payload) = false

/-! ## 2. What a marked session sends -/

theorem outlet_hushed (x : List Bytes) :
    Outlet fun s => s.sessionToBeDeleted = true ∧ controls s = x where
  frame {s t} h ht := by
    have hout : t.hist.output = s.hist.output := congrArg (·.1) ht
    have hflag : t.sessionToBeDeleted = s.sessionToBeDeleted := congrArg (·.2.2.1) ht
    unfold controls
    rw [hout, hflag]
    exact h
  output {s} p h := by
    unfold onPPPOutput
    split
    · exact h
    split
    · exact h
    rename_i hp
    split
    · exact h
    -- the filter lets it through, so it is no control packet
    · refine ⟨h.1, Eq.trans ?_ h.2⟩
      rw [h.1, Bool.true_and, Bool.not_eq_true] at hp
      refine List.filter_cons_of_neg ?_
      rw [getShort_drop, Bool.not_eq_true]
      exact hp
  padt {s} reason h := by
    unfold sendPADT
    rw [if_pos h.1]
    exact h

theorem Outlet.sessStep {A : Exec → Prop} (R : Outlet A) {s : Exec} (e : SessEvent)
    (hremove : Removes s e → A (removeSession s)) (h : A s) : A (s.sessStep e) :=
  sessStep_cases e (fun _ _ => R.input _ _ h) (fun t _ => R.expire t h)
    (fun k r _ => R.response k r h) (fun reason => R.padt reason h) hremove h

/-- **A marked session sends no control packet**, whatever reaches it. -/
theorem controls_sessStep {s : Exec} (e : SessEvent) (hf : s.sessionToBeDeleted = true) :
    controls (sessStep s e) = controls s :=
  ((outlet_hushed (controls s)).sessStep e (fun _ => ⟨hf, rfl⟩) ⟨hf, rfl⟩).2

/-! ## 3. What a marked session hears -/

/-- A control protocol is none with its bytes exchanged. -/
theorem not_both_orders (p : Bytes) (h : isControl (getShort p 0) = true) :
    isControl (hostShort p) = false := by
  have hbytes : ∀ v : UInt16, getShort p 0 = v →
      byteAt p 0 = (v >>> 8).toUInt8 ∧ byteAt p 1 = v.toUInt8 := by
    rintro v rfl
    have hput : putShort (getShort p 0) = [byteAt p 0, byteAt p 1] := putShort_bytes _ _
    simp only [putShort, List.cons.injEq, and_true] at hput
    exact ⟨hput.1.symm, hput.2.symm⟩
  have hcase : getShort p 0 = PPP_LCP ∨ getShort p 0 = PPP_IPCP ∨ getShort p 0 = PPP_PAP ∨
      getShort p 0 = PPP_CHAP := by
    simpa [isControl, or_assoc] using h
  unfold hostShort
  obtain hv | hv | hv | hv := hcase
  all_goals
    obtain ⟨h0, h1⟩ := hbytes _ hv
    rw [h0, h1]
    decide

/-- **A step is as asked for exactly if it brings a marked session no control protocol.** -/
theorem silent_iff (s : Exec) (e : SessEvent) : Silent s e ↔ ControlFree s e := by
  constructor
  · intro h hr hf f he hheard
    obtain ⟨-, hagree⟩ := (h hr hf).2 f he hheard
    have hagree : isControl (hostShort f.payload) = isControl (getShort f.payload 0) := hagree
    cases hc : isControl (getShort f.payload 0) with
    | true => rw [not_both_orders f.payload hc, hc] at hagree; cases hagree
    | false => exact ⟨rfl, hagree.trans hc⟩
  · intro h hr hf
    refine ⟨controls_sessStep e hf, fun f he hheard => ?_⟩
    obtain ⟨hnet, hhost⟩ := h hr hf f he hheard
    refine ⟨fun hc => ?_, hhost.trans hnet.symm⟩
    rw [hnet] at hc
    cases hc

/-- **In every run from the start of a session: control packets neither change its protocols nor
    leave it once it is marked, and the filters agree, exactly if no frame with a control
    protocol, in either byte order, reaches it while it is marked.** -/
theorem grace_silent_iff (c : Config) (es : List SessEvent) :
    Along sessStep Silent (start c) es ↔ Along sessStep ControlFree (start c) es :=
  along_congr silent_iff (start c) es

/-- A kicked session answers a Configure-Request: LCP moves on. -/
theorem marked_session_answers :
    ¬ Along sessStep Silent (start (.sample PPP_PAP))
      [.kick [2, 0, 0, 0, 0, 1], (Event.control PPP_LCP CONFREQ 1 []).onWire] := by
  intro h
  have hlcp := ((h.2.1 (by decide +kernel) (by decide +kernel)).2 _ rfl (by decide +kernel)).1
  exact absurd (hlcp (by decide +kernel)) (by decide +kernel)

end Exec

end OpenBras
