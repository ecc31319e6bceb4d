/-
  File:      OpenBras/PPP/AuthRules.lean
  Subject:   RULES FOR THE AUTHENTICATION SERVERS: what a property must satisfy so that the servers
             keep it.

  * `Challenger` -- as LCP comes up and when CHAP's timer expires: a challenge is drawn or not, and
    goes out, or the server gives up;
  * `AuthRules`  -- in addition when the authentication manager answers and when packets arrive.
    Besides their own records the servers send packets of their protocols, close LCP, open IPCP
    and pass on the addresses an answer brings.
-/
import OpenBras.PPP.IpcpRules

namespace OpenBras

open Wire

namespace Exec

/-! ## 1. Challenges -/

/-- `t` is `s` but for what CHAP notes when it starts, and when a challenge goes out. -/
def ChapAsked (s t : Exec) : Prop :=
  t = { s with
    draws := t.draws
    chap := { s.chap with
      name := t.chap.name, id := t.chap.id, challengeXmits := t.chap.challengeXmits
      flags := { s.chap.flags with
        lowerup := t.chap.flags.lowerup, authStarted := t.chap.flags.authStarted
        timeoutPending := t.chap.flags.timeoutPending } } }

structure Challenger (P : Exec → Prop) : Prop where
  asked : ∀ {s t}, P s → ChapAsked s t → P t
  fresh : ∀ {s}, s.chap.flags.challengeValid = false → P s →
    P (setChapFlags (fun f => { f with challengeValid := true }) (chapGenerateChallenge s))
  send : ∀ {s}, P s → P (onPPPOutput s.chap.challenge s)
  fails : ∀ {s}, P s → P (authenFailure PPP_CHAP (setChapFlags
    (fun f => { f with challengeValid := false, authDone := true, authFailed := true }) s))
  papTimer : ∀ {s}, P s → P { s with pap := { s.pap with timer := true } }

namespace Challenger

variable {P : Exec → Prop} {s : Exec} (R : Challenger P)

include R

theorem chapSendChallenge (h : P s) : P (chapSendChallenge s) := R.asked (R.send h) rfl

theorem chapHandleTimeout (h : P s) : P (chapHandleTimeout s) := by
  have hflag : P (setChapFlags (fun f => { f with timeoutPending := false }) s) := R.asked h rfl
  unfold Exec.chapHandleTimeout
  dsimp only
  generalize setChapFlags (fun f => { f with timeoutPending := false }) s = t at hflag ⊢
  split
  · rename_i hv
    exact R.chapSendChallenge (R.fresh (by simpa using hv) (R.asked hflag rfl))
  split
  · exact R.fails hflag
  · exact R.chapSendChallenge hflag

theorem authLowerUp (h : P s) : P (authLowerUp s) := by
  unfold Exec.authLowerUp chapLowerUp papLowerUp
  dsimp only
  repeat' split
  · exact R.chapHandleTimeout (R.asked h rfl)
  · exact R.asked h rfl
  · exact R.papTimer h
  · exact h
  · exact h

theorem authenticatePeer (hclose : P (lcpCloseFsm "peer refused to authenticate" s))
    (hphase : P (newPhase .authenticate s)) : P (authenticatePeer s) := by
  unfold Exec.authenticatePeer chapAuthPeer
  dsimp only
  repeat' split
  · exact hclose
  · exact hphase
  · exact R.chapHandleTimeout (R.asked hphase rfl)
  · exact R.asked hphase rfl
  · exact hphase

end Challenger

/-! ## 2. Answers and packets -/

/-- What a session sends, its mark and its removal timer, and whether it is in the table. -/
def outlet (s : Exec) : List Bytes × List String × Bool × Bool × Bool :=
  (s.hist.output, s.hist.padts, s.sessionToBeDeleted, s.oneOffTimer, s.hist.removed)

/-- What the servers have done beside their own records. -/
structure AuthActs (P : Exec → Prop) : Prop where
  output : ∀ {s p}, getShort p PPP_ADDR_CTRL_LEN = PPP_PAP ∨
    getShort p PPP_ADDR_CTRL_LEN = PPP_CHAP → P s → P (onPPPOutput p s)
  close : ∀ {s} reason, P s → P (lcpCloseFsm reason s)
  opens : ∀ {s}, P s → P (ipcpOpen s)
  addresses : ∀ {s} wo ao, P s → P { s with ipcp := { s.ipcp with wo := wo, ao := ao } }

structure AuthRules (P : Exec → Prop) : Prop extends AuthActs P where
  /-- whatever else happens to the session, but not to the challenge -/
  aside : ∀ {s t}, P s → t.lcp = s.lcp → t.ipcp = s.ipcp → t.chap.challenge = s.chap.challenge →
    outlet t = outlet s → P t
  fresh : ∀ {s}, P s → P (chapGenerateChallenge s)
  send : ∀ {s}, P s → P (onPPPOutput s.chap.challenge s)

theorem getShort_sresp {protocol : UInt16} (rest : Bytes) :
    getShort ([PPP_ALLSTATIONS, PPP_UI] ++ putShort protocol ++ rest) PPP_ADDR_CTRL_LEN =
      protocol := by
  rw [show PPP_ADDR_CTRL_LEN = 2 + 0 from rfl, ← getShort_drop, List.append_assoc]
  exact getShort_putShort _ _

namespace AuthRules

variable {P : Exec → Prop} {s : Exec} (R : AuthRules P)

include R

theorem authenFailure (protocol : UInt16) (h : P s) : P (authenFailure protocol s) :=
  R.close _ (R.aside h rfl rfl rfl rfl)

theorem authenSuccess (protocol : UInt16) (h : P s) : P (authenSuccess protocol s) :=
  R.opens (R.aside h rfl rfl rfl rfl)

theorem chapFlags (g : ChapFlags → ChapFlags) (h : P s) : P (setChapFlags g s) :=
  R.aside h rfl rfl rfl rfl

theorem challenger : Challenger P where
  asked h ht := by
    rw [ht]
    exact R.aside h rfl rfl rfl rfl
  fresh _ h := R.chapFlags _ (R.fresh h)
  send h := R.send h
  fails h := R.authenFailure PPP_CHAP (R.chapFlags _ h)
  papTimer h := R.aside h rfl rfl rfl rfl

theorem onLCPUp (h : P s) : P (onLCPUp s) := by
  have hup : P (authLowerUp (markUp s)) := R.challenger.authLowerUp (R.aside h rfl rfl rfl rfl)
  exact R.challenger.authenticatePeer (R.close _ hup) (R.aside hup rfl rfl rfl rfl)

theorem papResponse (result : UInt32) (reason : Bytes) (h : P s) :
    P (papResponseAuthenResult result reason s) := by
  unfold papResponseAuthenResult papSresp
  generalize hm : reason.take 255 = msg
  generalize hok : (result == 0) = ok
  have hsent : P (onPPPOutput ([PPP_ALLSTATIONS, PPP_UI] ++ putShort PPP_PAP ++
      [if ok then UPAP_AUTHACK else UPAP_AUTHNAK, s.pap.usrReqId] ++
      putShort (HEADERLEN + 1 + msg.length).toUInt16 ++ [UInt8.ofNat msg.length] ++ msg) s) := by
    refine R.output (Or.inl ?_) h
    simp only [List.append_assoc ([PPP_ALLSTATIONS, PPP_UI] ++ putShort PPP_PAP), getShort_sresp]
  dsimp only
  generalize onPPPOutput _ s = t at hsent ⊢
  have hres : P (papResult ok t) := by
    unfold papResult
    split
    · exact R.authenSuccess _ hsent
    · exact R.authenFailure _ hsent
  unfold papStopTimer
  split
  · exact R.aside hres rfl rfl rfl rfl
  · exact hres

theorem chapResult (h : P s) : P (chapResult s) := by
  unfold Exec.chapResult
  split
  · exact R.authenFailure _ h
  have hres : P (if s.chap.flags.authDone then s else Exec.authenSuccess PPP_CHAP s) := by
    split
    · exact h
    · exact R.authenSuccess _ h
  generalize (if s.chap.flags.authDone then s else Exec.authenSuccess PPP_CHAP s) = t at hres ⊢
  unfold chapRechallenge
  split
  · exact R.aside hres rfl rfl rfl rfl
  · exact hres

theorem chapReply (reason : Bytes) (h : P s) : P (chapReply reason s) := by
  unfold Exec.chapReply chapSresp
  refine R.output (Or.inr ?_) h
  simp only [List.append_assoc ([PPP_ALLSTATIONS, PPP_UI] ++ putShort PPP_CHAP), getShort_sresp]

theorem chapResponse (result : UInt32) (reason : Bytes) (h : P s) :
    P (chapResponseAuthenResult result reason s) := by
  have hflag : P (chapFail result s) := by
    unfold chapFail
    split
    · exact R.chapFlags _ h
    · exact h
  have hreply := R.chapReply reason hflag
  unfold chapResponseAuthenResult
  dsimp only
  generalize Exec.chapReply reason _ = t at hreply ⊢
  split
  · exact R.chapFlags _ (R.chapResult (R.chapFlags _ hreply))
  · exact hreply

/-- **An answer of the authentication manager keeps it.** -/
theorem response (k : Nat) (r : AuthResponse) (h : P s) : P (response k r s) := by
  have hset : P (addressed k r s) :=
    R.addresses (s := noteResponse k r s) _ _ (R.aside h rfl rfl rfl rfl)
  unfold Exec.response onAuthResponse
  split
  · exact R.chapResponse _ _ hset
  split
  · exact R.papResponse _ _ hset
  · exact hset

theorem papInput (p : Bytes) (n : Nat) (h : P s) : P (papInput p n s) := by
  rw [papInput_eq]
  split
  · exact h
  · exact R.aside h rfl rfl rfl rfl

theorem chapInput (p : Bytes) (n : Nat) (h : P s) : P (chapInput p n s) := by
  rw [chapInput_eq]
  repeat' split
  · exact h
  all_goals exact R.aside h rfl rfl rfl rfl

theorem papTimer (h : P s) : P (papHandleTimeout s) :=
  R.aside (R.authenFailure PPP_PAP h) rfl rfl rfl rfl

end AuthRules

end Exec

end OpenBras
