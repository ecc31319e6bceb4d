/-
  File:      OpenBras/PPP/AuthCourse.lean
  Subject:   THE AUTHENTICATION SERVERS BESIDE LCP AND IPCP: rules for a property that reads the two
             automata and the packets sent, of sessions whose packets carry the right protocol.

  `AuthCourse` comes to the rules of OpenBras/PPP/AuthRules.lean: a challenge is labelled as a
  packet of CHAP when it is drawn, so sending it needs no rule of its own.
-/
import OpenBras.PPP.LcpDeeds

namespace OpenBras

open Wire

namespace Exec

structure AuthCourse (P : Exec → Prop) : Prop extends AuthActs P where
  labelled : ∀ {s}, P s → Labelled s
  /-- whatever happens to the rest of the session -/
  beside : ∀ {s t}, P s → Labelled t → t.lcp = s.lcp → t.ipcp = s.ipcp →
    t.hist.output = s.hist.output → t.sessionToBeDeleted = s.sessionToBeDeleted → P t

namespace AuthCourse

variable {P : Exec → Prop} {s : Exec} (R : AuthCourse P)

include R

/-- The record of the challenges may change as long as the challenge itself does not. -/
theorem quiet {t : Exec} (h : P s) (hlcp : t.lcp = s.lcp) (hipcp : t.ipcp = s.ipcp)
    (hchap : t.chap.challenge = s.chap.challenge) (hout : t.hist.output = s.hist.output)
    (hmark : t.sessionToBeDeleted = s.sessionToBeDeleted) : P t := by
  have hl := R.labelled h
  exact R.beside h ⟨hlcp ▸ hl.lcp, hipcp ▸ hl.ipcp, hchap ▸ hl.chap⟩ hlcp hipcp hout hmark

theorem chapGenerateChallenge (h : P s) : P (chapGenerateChallenge s) := by
  have hl := R.labelled h
  refine R.beside h ⟨hl.lcp, hl.ipcp, Or.inr ?_⟩ rfl rfl rfl rfl
  rw [show PPP_ADDR_CTRL_LEN = 2 + 0 from rfl, ← getShort_drop]
  unfold Exec.chapGenerateChallenge challengePacket
  dsimp only
  simp only [List.append_assoc]
  exact getShort_putShort _ _

/-- **The rules of the servers.** -/
theorem rules : AuthRules P where
  aside h hlcp hipcp hchap hout :=
    R.quiet h hlcp hipcp hchap (congrArg (·.1) hout) (congrArg (·.2.2.1) hout)
  fresh h := R.chapGenerateChallenge h
  send h := by
    rcases (R.labelled h).chap with hc | hc
    · rw [hc]
      exact h
    · exact R.output (Or.inr hc) h
  toAuthActs := R.toAuthActs

end AuthCourse

/-- **Deeds of LCP** are what the servers come to in its view. -/
theorem reached_auth (v : LcpView) : AuthCourse (Reached v) where
  labelled h := h.labelled
  beside h hl hlcp _ hout hmark := by
    refine (aside_reached v).frame h hl ?_
    unfold lcpView protocolLog
    rw [hlcp, hout, hmark]
  output hp h := (aside_reached v).output (by rcases hp with hp | hp <;> rw [hp] <;> decide) h
  close reason h := h.close reason
  opens h := (aside_reached v).ipcpOpen h
  addresses _ _ h := (aside_reached v).ipcp rfl h

end Exec

end OpenBras
