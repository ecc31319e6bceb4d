/-
  File:      OpenBras/PPP/ChapTimer.lean
  Subject:   THE TIMER OF THE CHAP SERVER AND ITS FLAG -- `TIMEOUT_PENDING` says that a challenge
             is to be sent again, and nothing arms the timer that would do it.

  A server by itself, with its methods called in any order (`ChapCall`); the reactor calls
  `handle_timeout` only while the timer is armed, and the timer is periodic. `Open` and `Close`
  are empty. `ChapTimed` is what the flag is there for: it says whether the timer is armed, and a
  peer that keeps silent gets `m_max_transmits` challenges and then one negative result.

  `StartTimer` is called in one place, for a new challenge after `m_rechallenge_time` seconds,
  which are 0. So every state of a run is `ChapTimed` exactly if no challenge is sent in it at all
  (`chap_timed_iff`).
-/
import OpenBras.Lib.Run
import OpenBras.PPP.Outlet

namespace OpenBras

open Wire

namespace Exec

/-! ## 1. The server by itself -/

/-- `CChapProtocolSvr::CancelTimer`, with the flag. -/
def chapCancelPending (s : Exec) : Exec :=
  if s.chap.flags.timeoutPending then
    setChapFlags (fun f => { f with timeoutPending := false })
      { s with chap := { s.chap with timer := false } }
  else s

/-- `CChapProtocolSvr::Protrej`. -/
def chapProtrej (s : Exec) : Exec :=
  let s := chapCancelPending s
  if s.chap.flags.authStarted then authenFailure PPP_CHAP (setChapFlags (fun _ => {}) s) else s

/-- `CChapProtocolSvr::LowerDown`. -/
def chapLowerDown (s : Exec) : Exec := setChapFlags (fun _ => {}) (chapCancelPending s)

inductive ChapCall where
  | input (packet : Bytes) (size : Nat)
  | protrej
  | lowerUp
  | lowerDown
  | expire
  | response (result : UInt32) (reason : Bytes)
  | authPeer (ourName : Bytes)
  deriving DecidableEq, Repr

def chapCall (s : Exec) : ChapCall → Exec
  | .input packet size => chapInput packet size s
  | .protrej => chapProtrej s
  | .lowerUp => chapLowerUp s
  | .lowerDown => chapLowerDown s
  | .expire => if s.chap.timer then chapHandleTimeout s else s
  | .response result reason => chapResponseAuthenResult result reason s
  | .authPeer ourName => chapAuthPeer ourName s

/-- A server as its constructor leaves it, in any session. -/
def withFreshChap (maxTransmits : Nat) (s : Exec) : Exec :=
  { s with chap := { maxTransmits := maxTransmits } }

/-! ## 2. The flag and the timer -/

/-- A peer that does not answer the outstanding challenge: the timer expires again and again. From
    some time on the challenge has been sent as often as it may be, and there has been one
    result, a negative one. -/
def SilentPeerFails (s : Exec) : Prop :=
  s.chap.flags.challengeValid = true → s.chap.flags.timeoutPending = true →
    ∃ n, ∀ m, n ≤ m →
      let t := run chapCall s (List.replicate m .expire)
      t.chap.challengeXmits = t.chap.maxTransmits ∧
        ∃ r, r.ok = false ∧ r.protocol = PPP_CHAP ∧ t.hist.results = r :: s.hist.results

structure ChapTimed (s : Exec) : Prop where
  flag : s.chap.flags.timeoutPending = true ↔ s.chap.timer = true
  silent : SilentPeerFails s

/-- The call sends no challenge: the server is not asked to authenticate the peer while the lower
    layer is up, nor brought up when it has been asked. -/
def Unchallenging (s : Exec) : ChapCall → Prop
  | .lowerUp => s.chap.flags.authStarted = false
  | .authPeer _ => s.chap.flags.authStarted = true ∨ s.chap.flags.lowerup = false
  | _ => True

/-! ## 3. Runs without a challenge -/

/-- No challenge has been sent. -/
structure Unchallenged (s : Exec) : Prop where
  valid : s.chap.flags.challengeValid = false
  pending : s.chap.flags.timeoutPending = false
  timer : s.chap.timer = false

variable {s : Exec}

theorem Unchallenged.timed (h : Unchallenged s) : ChapTimed s where
  flag := by rw [h.pending, h.timer]
  silent hv := by
    rw [h.valid] at hv
    cases hv

theorem Unchallenged.of_chap {t : Exec} (h : Unchallenged s) (ht : t.chap = s.chap) :
    Unchallenged t := ⟨ht ▸ h.valid, ht ▸ h.pending, ht ▸ h.timer⟩

theorem Unchallenged.chapCancelPending (h : Unchallenged s) :
    chapCancelPending s = s := if_neg (by rw [h.pending]; decide)

theorem Unchallenged.cleared (h : Unchallenged s) :
    Unchallenged (setChapFlags (fun _ => {}) s) := ⟨rfl, rfl, h.timer⟩

theorem chapSendChallenge_flag (s : Exec) :
    (chapSendChallenge s).chap.flags.timeoutPending = true ∧
      (chapSendChallenge s).chap.timer = s.chap.timer := by
  refine ⟨rfl, ?_⟩
  show (onPPPOutput s.chap.challenge s).chap.timer = s.chap.timer
  rw [chap_onPPPOutput]

/-- **The first challenge** sets the flag and arms no timer. -/
theorem not_timed_of_first (h : Unchallenged s) : ¬ ChapTimed (chapHandleTimeout s) := by
  intro ht
  have hvalid : (!(setChapFlags (fun f => { f with timeoutPending := false }) s
      ).chap.flags.challengeValid) = true := by
    show (!s.chap.flags.challengeValid) = true
    rw [h.valid]
    rfl
  unfold chapHandleTimeout at ht
  dsimp only at ht
  rw [if_pos hvalid] at ht
  obtain ⟨hpending, htimer⟩ := chapSendChallenge_flag (setChapFlags
    (fun f => { f with challengeValid := true }) (chapGenerateChallenge
      { setChapFlags (fun f => { f with timeoutPending := false }) s with
        chap := { (setChapFlags (fun f => { f with timeoutPending := false }) s).chap with
          challengeXmits := 0 } }))
  have hoff := htimer.trans h.timer
  exact Bool.false_ne_true (hoff.symm.trans (ht.flag.mp hpending))

/-! A call keeps it exactly if it sends no challenge: method by method. -/

theorem Unchallenged.input (h : Unchallenged s) (packet : Bytes) (size : Nat) :
    Unchallenged (chapInput packet size s) := by
  have hnone : chapRead packet size s = none := by
    unfold chapRead
    split
    · rfl
    · refine if_neg fun hc => ?_
      rw [h.valid] at hc
      exact Bool.false_ne_true hc.2.2.2
  rw [chapInput_eq, hnone]
  exact h

theorem Unchallenged.protrej (h : Unchallenged s) : Unchallenged (chapProtrej s) := by
  unfold chapProtrej
  rw [h.chapCancelPending]
  dsimp only
  split
  · exact h.cleared.of_chap ((chap_closing _).authenFailure PPP_CHAP rfl)
  · exact h

theorem Unchallenged.lowerDown (h : Unchallenged s) : Unchallenged (chapLowerDown s) := by
  unfold chapLowerDown
  rw [h.chapCancelPending]
  exact h.cleared

theorem Unchallenged.response (h : Unchallenged s) (result : UInt32) (reason : Bytes) :
    Unchallenged (chapResponseAuthenResult result reason s) := by
  have hnoted : Unchallenged (chapFail result s) := by
    unfold chapFail
    split
    · exact ⟨h.valid, h.pending, h.timer⟩
    · exact h
  unfold chapResponseAuthenResult
  have hreply := hnoted.of_chap (chap_chapReply reason _)
  generalize chapReply reason _ = t at hreply ⊢
  dsimp only
  rw [hreply.valid]
  exact hreply

theorem Unchallenged.lowerUp (h : Unchallenged s) :
    (s.chap.flags.authStarted = false → Unchallenged (chapLowerUp s)) ∧
      (ChapTimed (chapLowerUp s) → s.chap.flags.authStarted = false) := by
  have hup : Unchallenged (setChapFlags (fun f => { f with lowerup := true }) s) :=
    ⟨h.valid, h.pending, h.timer⟩
  unfold chapLowerUp
  show (_ → Unchallenged (if s.chap.flags.authStarted then _ else _)) ∧
    (ChapTimed (if s.chap.flags.authStarted then _ else _) → _)
  split
  · rename_i hstarted
    refine ⟨fun hno => absurd (hno.symm.trans hstarted) Bool.false_ne_true, fun ht => ?_⟩
    exact absurd ht (not_timed_of_first hup)
  · rename_i hstarted
    exact ⟨fun _ => hup, fun _ => Bool.eq_false_of_not_eq_true hstarted⟩

theorem Unchallenged.authPeer (h : Unchallenged s) (ourName : Bytes) :
    (s.chap.flags.authStarted = true ∨ s.chap.flags.lowerup = false →
        Unchallenged (chapAuthPeer ourName s)) ∧
      (ChapTimed (chapAuthPeer ourName s) →
        s.chap.flags.authStarted = true ∨ s.chap.flags.lowerup = false) := by
  unfold chapAuthPeer
  split
  · rename_i hstarted
    exact ⟨fun _ => h, fun _ => Or.inl hstarted⟩
  rename_i hstarted
  have hasked : Unchallenged (setChapFlags (fun f => { f with authStarted := true })
      { s with
        draws := s.draws + 1,
        chap := { s.chap with
          name := strncpy 255 ourName,
          id := UInt8.ofNat ((s.rand s.draws).toNat * 256 / 0x7fffffff) } }) :=
    ⟨h.valid, h.pending, h.timer⟩
  show (_ → Unchallenged (if s.chap.flags.lowerup then _ else _)) ∧
    (ChapTimed (if s.chap.flags.lowerup then _ else _) → _)
  split
  · rename_i hup
    refine ⟨fun hno => ?_, fun ht => absurd ht (not_timed_of_first hasked)⟩
    rcases hno with hno | hno
    · exact absurd hno hstarted
    · exact absurd (hno.symm.trans hup) Bool.false_ne_true
  · rename_i hup
    exact ⟨fun _ => hasked, fun _ => Or.inr (Bool.eq_false_of_not_eq_true hup)⟩

theorem unchallenged_call (h : Unchallenged s) (c : ChapCall) :
    (Unchallenging s c → Unchallenged (chapCall s c)) ∧
      (ChapTimed (chapCall s c) → Unchallenging s c) := by
  cases c with
  | input packet size => exact ⟨fun _ => h.input packet size, fun _ => trivial⟩
  | protrej => exact ⟨fun _ => h.protrej, fun _ => trivial⟩
  | lowerUp => exact h.lowerUp
  | lowerDown => exact ⟨fun _ => h.lowerDown, fun _ => trivial⟩
  | expire =>
    refine ⟨fun _ => ?_, fun _ => trivial⟩
    show Unchallenged (if s.chap.timer then chapHandleTimeout s else s)
    rw [h.timer]
    exact h
  | response result reason => exact ⟨fun _ => h.response result reason, fun _ => trivial⟩
  | authPeer ourName => exact h.authPeer ourName

/-- **The flag is the timer, and a silent peer fails, exactly in the runs that send no
    challenge.** -/
theorem chap_timed_iff (maxTransmits : Nat) (s : Exec) (cs : List ChapCall) :
    Throughout chapCall ChapTimed (withFreshChap maxTransmits s) cs ↔
      Along chapCall Unchallenging (withFreshChap maxTransmits s) cs :=
  throughout_iff_along (I := Unchallenged) (fun _ c h => (unchallenged_call h c).1)
    (fun _ h => h.timed) (fun _ c h => (unchallenged_call h c).2) ⟨rfl, rfl, rfl⟩ cs

/-- The lower layer comes up and the peer is to be authenticated: one challenge goes out, the flag
    is up, the timer is not armed, and a peer that says nothing is neither asked again nor
    refused. A session comes to the same when LCP opens. -/
theorem first_challenge_not_repeated :
    ¬ Throughout chapCall ChapTimed (withFreshChap 10 (start (.sample PPP_CHAP)))
      [.lowerUp, .authPeer (ascii "WFNEX")] ∧
    (let s := run chapCall (withFreshChap 10 (start (.sample PPP_CHAP)))
        (.lowerUp :: .authPeer (ascii "WFNEX") :: List.replicate 20 .expire)
     s.chap.flags.timeoutPending = true ∧ s.chap.timer = false ∧ s.chap.challengeXmits = 1 ∧
      s.hist.results = []) ∧
    (let s := run step (start (.sample PPP_CHAP))
        [.control PPP_LCP CONFACK 1 [1, 4, 5, 212, 3, 5, 194, 35, 5, 5, 6, 0, 0, 0, 0],
         .control PPP_LCP CONFREQ 1 []]
     s.chap.flags.timeoutPending = true ∧ s.chap.timer = false ∧ s.chap.challengeXmits = 1) := by
  refine ⟨fun h => ?_, by decide +kernel, by decide +kernel⟩
  have hflag := (throughout_last h).flag
  exact absurd hflag (by decide +kernel)

end Exec

end OpenBras
