/-
  File:      OpenBras/PPP/SessionRules.lean
  Subject:   RULES FOR A SESSION: what an invariant must satisfy so that LCP, the authentication
             servers and the teardown keep it.

  `Owner J` has one rule for each thing these parts do to the state. It does not mention the
  options we negotiate, the echo requests, the timers of the automata, the random numbers or the
  output: `bare` erases them, and an invariant must not read them. Three things are left to the
  invariant's own proof, because the results about them hold under conditions: a positive
  authentication result, a packet for IPCP or for an authentication server, and LCP giving up
  after its last retransmission.

  * `Owner.rules` -- LCP's automaton with its sink;
  * `Owner.authenFailure`, `Owner.challenger`, `LinkOwner.sendEchoRequest` -- the timers;
  * `Owner.lcpInput`, `Owner.lcpTimeout` -- LCP's own events;
  * `onAuthResponse_outcome`, `Owner.onAuthResponse` -- the manager's answers;
  * `Owner.input` -- received packets.
-/
import OpenBras.PPP.AuthRules

namespace OpenBras

open Wire

namespace Exec

open CPPPFsm

variable {P : Exec → Prop} {s : Exec} {result : UInt32} {t : Exec} {J : Stand → Exec → Prop}

/-- **What LCP's `Nakci` can do**: draw random numbers, close the link, take other options. -/
theorem lcpNakci_keeps (draw : ∀ s n, P s → P { s with draws := n })
    (loop : ∀ s, P s → P (lcpCloseFsm "Loopback detected" s))
    (take : ∀ s go, P s → P { s with lcp := { s.lcp with go := go } }) (p : Bytes) (n : Nat)
    (r : Bool) (h : P s) : P (lcpNakci p n r s).2 := by
  unfold lcpNakci
  rcases LcpOptions.nakScan s.lcp.go s.lcp.wo s.rand s.draws p n r with ⟨scan, draws⟩
  have hd : P { s with draws := draws } := draw s draws h
  cases scan with
  | none => exact hd
  | some scan =>
    have closed : ∀ b : Bool, P (if b then lcpCloseFsm "Loopback detected"
        { s with draws := draws } else { s with draws := draws }) := by
      intro b
      cases b with
      | true => exact loop _ hd
      | false => exact hd
    dsimp only
    split
    · exact hd
    · exact take _ _ (closed _)

/-! ## 1. What the rules do not look at -/

/-- The state without the random numbers, the output and LCP's record but for what `Init` settles
    in it. -/
def bare (s : Exec) : Exec :=
  { s with
    lcp := { authType := s.lcp.authType, ao := s.lcp.ao }, draws := 0,
    hist := { s.hist with output := [] } }

theorem bare_onPPPOutput (p : Bytes) (s : Exec) : (onPPPOutput p s).bare = s.bare := by
  unfold onPPPOutput
  repeat' split
  all_goals rfl

@[simp] theorem lcp_onPPPOutput (p : Bytes) (s : Exec) : (onPPPOutput p s).lcp = s.lcp := by
  unfold onPPPOutput
  repeat' split
  all_goals rfl

@[simp] theorem chap_onPPPOutput (p : Bytes) (s : Exec) : (onPPPOutput p s).chap = s.chap := by
  unfold onPPPOutput
  repeat' split
  all_goals rfl

@[simp] theorem lcp_sendPADT (reason : String) (s : Exec) : (sendPADT reason s).lcp = s.lcp := by
  unfold sendPADT
  split <;> rfl

theorem bare_sendData (code id : UInt8) (data : Bytes) (n : Nat) (s : Exec) :
    (sendData lcpFsm lcpCi code id data n s).bare = s.bare := bare_onPPPOutput _ _

@[simp] theorem lcp_sendData (code id : UInt8) (data : Bytes) (n : Nat) (s : Exec) :
    (sendData lcpFsm lcpCi code id data n s).lcp = s.lcp := lcp_onPPPOutput _ _

@[simp] theorem fsm_echoLowerDown (s : Exec) : (echoLowerDown s).lcp.fsm = s.lcp.fsm := by
  unfold echoLowerDown
  split <;> rfl

/-- Outside IPCP, LCP going down moves the phase to Establish, unless it is Dead. -/
theorem outsideIpcp_onLCPDown (s : Exec) : (onLCPDown s).outsideIpcp =
    (newPhase (if s.phase = .dead then .dead else .establish) s).outsideIpcp := by
  have h : (ipcpCloseFsm "LCP down" (ipcpLowerDown s)).outsideIpcp = s.outsideIpcp :=
    (blind_outsideIpcp _).close _ ((blind_outsideIpcp _).lowerDown rfl)
  unfold onLCPDown
  rw [outsideIpcp_sendPADT]
  generalize ipcpCloseFsm "LCP down" (ipcpLowerDown s) = t at h ⊢
  have hp : t.phase = s.phase := congrArg (·.phase) h
  have hset : ∀ ph, (newPhase ph t).outsideIpcp = (newPhase ph s).outsideIpcp :=
    fun ph => congrArg (newPhase ph) h
  split
  · rename_i hd
    rw [if_neg (hp ▸ hd)]
    exact hset _
  · rename_i hd
    rw [not_not] at hd
    rw [if_pos (hp ▸ hd), ← hset, ← hd]
    rfl

@[simp] theorem lcp_onLCPDown (s : Exec) : (onLCPDown s).lcp = s.lcp :=
  congrArg (·.lcp) (outsideIpcp_onLCPDown s)

theorem Blind.onLCPDown {A : Exec → Prop} (R : Blind A)
    (hphase : ∀ {s}, A s → A (newPhase .establish s))
    (hpadt : ∀ {s} reason, A s → A (sendPADT reason s)) (h : A s) : A (onLCPDown s) := by
  have hd : A (ipcpCloseFsm "LCP down" (ipcpLowerDown s)) := R.close _ (R.lowerDown h)
  unfold Exec.onLCPDown
  refine hpadt _ ?_
  split
  · exact hphase hd
  · exact hd

/-- The fields of the CHAP server an invariant may read. -/
structure ChapQuiet (a b : CChapProtocolSvr) : Prop where
  authDone : b.flags.authDone = a.flags.authDone
  challengeValid : b.flags.challengeValid = a.flags.challengeValid
  challenge : b.challenge = a.challenge
  username : b.username = a.username

/-- At the next expiry of its timer LCP gives up negotiating, in the Dead phase: it has never
    come up. -/
def GivesUpDead (s : Exec) : Prop :=
  s.lcp.fsm.state.negotiating = true ∧ s.lcp.fsm.retransmits ≤ 0 ∧
    s.lcp.fsm.flags.passive = false ∧ s.phase = .dead

/-- What an invariant must satisfy so that LCP's automaton keeps it, whatever `Up` does. -/
structure LinkOwner (J : Stand → Exec → Prop) : Prop where
  lcp : ∀ {c s} (l : CPPPLCP) (n : Nat), l.authType = s.lcp.authType → l.ao = s.lcp.ao → J c s →
    J c { s with lcp := l, draws := n }
  output : ∀ {c s} p, J c s → J c (onPPPOutput p s)
  acked : ∀ {s}, J .acked s ↔ J .idle s
  ending : ∀ {s}, J .ending s → J .idle s
  down : ∀ {c s}, J c s → J .idle (onLCPDown s) ∧ J .ending (onLCPDown s)
  padt : ∀ {c s} reason, J c s → J c (sendPADT reason s)
  dead : ∀ {c s}, J c s → J c (newPhase .dead s)
  ended : ∀ {s}, J .ending s → J .idle (noteFinished s)
  finished : ∀ {c s}, s.sessionToBeDeleted = true → J c s → J c (noteFinished s)

/-- What an invariant must satisfy. It has the later rules for nothing where it does not read what
    they change. -/
structure Owner (J : Stand → Exec → Prop) : Prop where
  bare : ∀ {c s t}, J c s → t.bare = s.bare → J c t
  down : ∀ {c s}, J c s → J .idle (onLCPDown s) ∧ J .ending (onLCPDown s)
  padt : ∀ {c s} reason, J c s → J c (sendPADT reason s)
  acked : ∀ {s}, J .acked s ↔ J .idle s := by exact Iff.rfl
  ending : ∀ {s}, J .ending s → J .idle s := by exact fun h => h
  phase : ∀ {c s} ph, ph ≠ .network → J c s → J c (newPhase ph s) := by exact fun _ _ h => h
  rises : ∀ {s}, J .idle s → J .up (markUp s) := by exact fun h => h
  ended : ∀ {s}, J .ending s → J .idle (noteFinished s) := by exact fun h => h
  finished : ∀ {c s}, s.sessionToBeDeleted = true → J c s → J c (noteFinished s) := by
    exact fun _ h => h
  failure : ∀ {c s} protocol, J c s → J c (noteResult false protocol s) := by exact fun _ h => h
  papTimer : ∀ {c s} b, J c s → J c { s with pap := { s.pap with timer := b } } := by
    exact fun _ h => h
  chapQuiet : ∀ {c s ch}, J c s → ChapQuiet s.chap ch → J c { s with chap := ch } := by
    exact fun h _ => h
  challenge : ∀ {c s ch}, J c s → s.chap.flags.challengeValid = false →
    ch.flags.challengeValid = true → ch.flags.authDone = s.chap.flags.authDone →
    ch.username = s.chap.username → J c { s with chap := ch } := by exact fun h _ _ _ _ => h
  chapDone : ∀ {c s ch}, J c s → ch.flags.authDone = true → ch.username = s.chap.username →
    J c { s with chap := ch } := by exact fun h _ _ => h

/-- **What an echo request does**: the link is given up or not, and one packet is sent or not. -/
theorem sendEchoRequest_cases (hclose : P (lcpCloseFsm "Peer not responding" s))
    (hcount : ∀ (t : Exec) pending number, P t →
      P { t with lcp := { t.lcp with echosPending := pending, echoNumber := number } })
    (hsend : ∀ t, P t → P (sendData lcpFsm lcpCi ECHOREQ (UInt8.ofNat t.lcp.echoNumber)
      (putLong t.lcp.magicnumber) 4 t)) (h : P s) : P (sendEchoRequest s) := by
  have hfail : P (lcpLinkFailure s) := by
    unfold lcpLinkFailure
    split
    · exact hclose
    · exact h
  have hq : P (if s.lcp.echoFails ≠ 0 ∧ s.lcp.echosPending ≥ s.lcp.echoFails then
      { lcpLinkFailure s with lcp := { (lcpLinkFailure s).lcp with echosPending := 0 } }
      else s) := by
    split
    · exact hcount _ 0 _ hfail
    · exact h
  unfold sendEchoRequest
  dsimp only
  -- the request itself, whether or not the link was given up before it
  generalize (if s.lcp.echoFails ≠ 0 ∧ s.lcp.echosPending ≥ s.lcp.echoFails then
      { lcpLinkFailure s with lcp := { (lcpLinkFailure s).lcp with echosPending := 0 } }
      else s) = t at hq ⊢
  split
  · have hsent := hsend t hq
    generalize sendData lcpFsm lcpCi _ _ _ _ t = u at hsent ⊢
    exact hcount u _ _ hsent
  · exact hq

/-! ## 2. LCP's automaton -/

/-- LCP's own answers change nothing of the session but LCP's record. -/
theorem lcpRules {u : Exec → Exec} (C : CloseRules lcpFsm lcpClose J)
    (lcp : ∀ {c s} (l : CPPPLCP) (n : Nat), l.authType = s.lcp.authType → l.ao = s.lcp.ao →
      J c s → J c { s with lcp := l, draws := n })
    (ack : ∀ {s}, J .idle s → J .acked s)
    (hup : ∀ s, s.lcp.fsm.state = .opened → J .acked s → Inv lcpFsm J (u s)) :
    FsmRules lcpFsm { lcpSink with up := u } J where
  toCloseRules := C
  retransmit _ := ⟨rfl, fun _ h => h⟩
  ackci _ _ _ := ⟨rfl, fun _ h => h⟩
  rejci p n s := by
    show (lcpRejci p n s).2.lcp.fsm = _ ∧ ∀ c, J c s → J c (lcpRejci p n s).2
    unfold lcpRejci
    repeat' split
    all_goals exact ⟨rfl, fun _ h => lcp _ _ rfl rfl h⟩
  extCode code id p n s := by
    show (lcpExtCode code id p n s).2.lcp.fsm = _ ∧ ∀ c, J c s → J c (lcpExtCode code id p n s).2
    unfold lcpExtCode
    repeat' split
    · exact ⟨rfl, fun _ h => h⟩
    · exact ⟨congrArg (·.fsm) (lcp_sendData _ _ _ _ s), fun c h =>
        sendData_keeps (c := c) C.toCiRules _ _ _ _ h⟩
    · exact ⟨rfl, fun _ h => h⟩
    · exact ⟨rfl, fun _ h => h⟩
    · exact ⟨rfl, fun _ h => lcp _ _ rfl rfl h⟩
    · exact ⟨rfl, fun _ h => h⟩
  reqci_fsm _ _ _ _ := rfl
  reqci _ _ _ _ h := lcp _ _ rfl rfl h
  reqci_ack _ _ _ _ h _ := ack (lcp _ _ rfl rfl h)
  up s hs h := hup s hs h

namespace LinkOwner

variable {J : Stand → Exec → Prop} (R : LinkOwner J)

include R

variable {s : Exec}

theorem inv_lcp {l : CPPPLCP} {n : Nat} (hf : l.fsm = s.lcp.fsm) (ha : l.authType = s.lcp.authType)
    (ho : l.ao = s.lcp.ao) (h : Inv lcpFsm J s) :
    Inv lcpFsm J { s with lcp := l, draws := n } := by
  show J l.fsm.state.stand _
  rw [hf]
  exact R.lcp l n ha ho h

theorem ciRules : CiRules lcpFsm lcpCi J where
  fsm _ _ _ h := R.lcp _ _ rfl rfl h
  acked _ h := R.acked.mp h
  resetci _ := ⟨rfl, fun _ h => R.lcp _ _ rfl rfl h⟩
  cilen _ := ⟨rfl, fun _ h => h⟩
  addci _ _ := ⟨rfl, fun _ h => h⟩
  outputPacket p s := ⟨congrArg (·.fsm) (lcp_onPPPOutput p s), fun _ h => R.output p h⟩

theorem lcpDown {c : Stand} (h : J c s) : J .idle (lcpDown s) ∧ J .ending (lcpDown s) := by
  have hecho : J c (echoLowerDown s) := by
    unfold echoLowerDown
    split
    · exact R.lcp _ _ rfl rfl h
    · exact h
  have hd := R.down hecho
  unfold Exec.lcpDown
  generalize onLCPDown (echoLowerDown s) = t at hd ⊢
  exact ⟨R.lcp _ _ rfl rfl hd.1, R.lcp _ _ rfl rfl hd.2⟩

theorem layerRules : LayerRules lcpFsm lcpLayer J where
  toCiRules := R.ciRules
  ending _ h := R.ending h
  starting s hs h := by
    refine lowerUp_keeps R.ciRules ?_
    show J (lcpFsm.get s).state.stand s
    rw [hs]
    exact h
  down_fsm s := by
    show (Exec.lcpDown s).lcp.fsm = s.lcp.fsm
    simp [Exec.lcpDown]
  down _ h := R.lcpDown h

/-- `OnLCPTerminate` outside the Dead phase asks for a PADT, so the session is marked; in it LCP's
    end is noted, and that is all. -/
theorem terminate (hdead : s.phase = .dead → J s.lcp.fsm.state.stand (noteFinished s))
    (h : Inv lcpFsm J s) : Inv lcpFsm J (lcpClose.finished s) := by
  have hd := lowerDown_keeps R.layerRules h
  show J (noteFinished (onLCPTerminate s)).lcp.fsm.state.stand (noteFinished (onLCPTerminate s))
  have hflag : ∀ t : Exec, (sendPADT "LCP Terminate" t).sessionToBeDeleted = true := by
    intro t
    unfold sendPADT
    split
    · assumption
    · rfl
  unfold onLCPTerminate
  split
  · rename_i hp
    exact hdead hp
  refine R.finished (hflag _) (R.padt _ ?_)
  show J (sendPADT _ _).lcp.fsm.state.stand _
  rw [lcp_sendPADT]
  exact R.dead hd

theorem closeRules : CloseRules lcpFsm lcpClose J where
  toLayerRules := R.layerRules
  finished s hs h := by
    have hst : s.lcp.fsm.state.stand = .idle := by
      rw [lcpFsm_get] at hs
      rcases hs with hs | hs <;> rw [hs] <;> rfl
    refine R.terminate (fun _ => ?_) ?_
    · rw [hst]
      exact R.ended h
    · show J s.lcp.fsm.state.stand s
      rw [hst]
      exact R.ending h

/-- **Closing LCP keeps the invariant**, in every state. -/
theorem close (reason : String) (h : Inv lcpFsm J s) :
    Inv lcpFsm J (lcpCloseFsm reason s) :=
  close_keeps R.closeRules reason (fun _ _ ht => R.lcpDown ht) h

theorem rules {u : Exec → Exec}
    (hup : ∀ s, s.lcp.fsm.state = .opened → J .acked s → Inv lcpFsm J (u s)) :
    FsmRules lcpFsm { lcpSink with up := u } J :=
  lcpRules R.closeRules (fun l n ha ho h => R.lcp l n ha ho h) (fun h => R.acked.mpr h) hup

theorem nakci (p : Bytes) (n : Nat) (r : Bool) (h : Inv lcpFsm J s) :
    Inv lcpFsm J (lcpNakci p n r s).2 :=
  lcpNakci_keeps (fun _ _ h => R.inv_lcp rfl rfl rfl h) (fun _ h => R.close _ h)
    (fun _ _ h => R.inv_lcp rfl rfl rfl h) p n r h

theorem sendEchoRequest (h : Inv lcpFsm J s) :
    Inv lcpFsm J (sendEchoRequest s) := by
  refine sendEchoRequest_cases (R.close _ h) (fun _ _ _ ht => R.inv_lcp rfl rfl rfl ht)
    (fun t ht => ?_) h
  show J (CPPPFsm.sendData lcpFsm lcpCi _ _ _ _ t).lcp.fsm.state.stand _
  rw [lcp_sendData]
  exact sendData_keeps R.ciRules _ _ _ _ ht

end LinkOwner

namespace Owner

variable {J : Stand → Exec → Prop} (R : Owner J)

include R

variable {s : Exec}

theorem inv_bare {t : Exec} (h : Inv lcpFsm J s) (hb : t.bare = s.bare)
    (hf : t.lcp.fsm.state = s.lcp.fsm.state) : Inv lcpFsm J t := by
  show J t.lcp.fsm.state.stand t
  rw [hf]
  exact R.bare h hb

theorem inv_chapQuiet {t : Exec} (h : Inv lcpFsm J s)
    (hb : t.bare = { s with chap := t.chap }.bare) (hf : t.lcp.fsm.state = s.lcp.fsm.state)
    (hq : ChapQuiet s.chap t.chap) : Inv lcpFsm J t :=
  R.inv_bare (s := { s with chap := t.chap }) (R.chapQuiet h hq) hb hf

theorem link : LinkOwner J where
  lcp l n ha ho h := R.bare h (by simp only [Exec.bare, ha, ho])
  output p h := R.bare h (bare_onPPPOutput p _)
  acked := R.acked
  ending h := R.ending h
  down h := R.down h
  padt reason h := R.padt reason h
  dead h := R.phase .dead (by decide) h
  ended h := R.ended h
  finished hd h := R.finished hd h

theorem layerRules : LayerRules lcpFsm lcpLayer J := R.link.layerRules

theorem close (reason : String) (h : Inv lcpFsm J s) :
    Inv lcpFsm J (lcpCloseFsm reason s) := R.link.close reason h

/-! ## 3. The authentication servers and the echo requests -/

theorem authenFailure (protocol : UInt16) (h : Inv lcpFsm J s) :
    Inv lcpFsm J (authenFailure protocol s) :=
  R.close _ (R.phase .terminate (by decide) (R.failure protocol h))

theorem challenger : Challenger (Inv lcpFsm J) where
  asked h ht := by
    rw [ht]
    exact R.inv_chapQuiet h rfl rfl ⟨rfl, rfl, rfl, rfl⟩
  fresh {s} hv h := by
    let ch := (setChapFlags (fun f => { f with challengeValid := true })
      (chapGenerateChallenge s)).chap
    have hch : Inv lcpFsm J { s with chap := ch } := R.challenge h hv rfl rfl rfl
    exact R.inv_bare hch rfl rfl
  send {s} h := R.inv_bare h (bare_onPPPOutput s.chap.challenge s) (by simp)
  fails h := R.authenFailure _ (R.chapDone h rfl rfl)
  papTimer h := R.papTimer true h

/-! ## 4. LCP comes up -/

omit R in
/-- The first echo request of a link closes nothing: none is unanswered yet. -/
theorem bare_echoLowerUp (hs : s.lcp.fsm.state = .opened) :
    (echoLowerUp s).bare = s.bare ∧ (echoLowerUp s).lcp.fsm = s.lcp.fsm := by
  have hsend : ∀ t : Exec, t.lcp.echosPending = 0 → t.lcp.fsm.state = .opened →
      (Exec.sendEchoRequest t).bare = t.bare ∧ (Exec.sendEchoRequest t).lcp.fsm = t.lcp.fsm := by
    intro t hp ht
    have hn : ¬ (t.lcp.echoFails ≠ 0 ∧ t.lcp.echosPending ≥ t.lcp.echoFails) := by omega
    unfold Exec.sendEchoRequest
    simp only [if_neg hn, if_pos ht]
    have hb := bare_sendData ECHOREQ (UInt8.ofNat t.lcp.echoNumber) (putLong t.lcp.magicnumber) 4 t
    have hf := lcp_sendData ECHOREQ (UInt8.ofNat t.lcp.echoNumber) (putLong t.lcp.magicnumber) 4 t
    generalize CPPPFsm.sendData lcpFsm lcpCi _ _ _ _ t = u at hb hf ⊢
    exact ⟨hb, congrArg (·.fsm) hf⟩
  unfold Exec.echoLowerUp
  dsimp only
  split
  · have h := hsend { s with lcp := s.lcp.echoReset } rfl hs
    rw [if_pos (by rw [h.2]; exact hs)]
    generalize Exec.sendEchoRequest _ = t at h ⊢
    exact h
  · exact ⟨rfl, rfl⟩

theorem lcpUp (hs : s.lcp.fsm.state = .opened) (h : J .idle s) :
    Inv lcpFsm J (lcpUp s) := by
  have hst : (settle s).lcp.fsm.state = .opened := hs
  obtain ⟨hb, hf⟩ := bare_echoLowerUp hst
  have hup : Inv lcpFsm J (markUp (echoLowerUp (settle s))) := by
    show J (echoLowerUp (settle s)).lcp.fsm.state.stand _
    rw [hf, hst]
    exact R.rises (R.bare h hb)
  have hauth := R.challenger.authLowerUp hup
  exact R.challenger.authenticatePeer (R.close _ hauth) (R.phase .authenticate (by decide) hauth)

/-- **The rules of LCP's automaton.** -/
theorem rules : FsmRules lcpFsm lcpSink J :=
  R.link.rules fun _ hs h => R.lcpUp hs (R.acked.mp h)

/-! ## 5. Events -/

/-- **A packet for LCP keeps the invariant.** -/
theorem lcpInput (p : Bytes) (n : Nat) (h : Inv lcpFsm J s) :
    Inv lcpFsm J (CPPPFsm.input lcpFsm lcpSink p n s) :=
  input_keeps R.rules p n (fun _ _ _ _ _ _ ht => R.link.nakci _ _ _ ht) h

/-- **LCP's timer keeps the invariant**; where LCP gives up in the Dead phase it must survive
    the note that LCP has finished. -/
theorem lcpTimeout (hg : GivesUpDead s → J .idle (noteFinished s)) (h : Inv lcpFsm J s) :
    Inv lcpFsm J (CPPPFsm.timeout lcpFsm lcpSink s) := by
  refine timeout_keeps R.rules.toTimerRules (fun hn hr hp => ?_) h
  have hidle : J .idle s := by
    have h' : J s.lcp.fsm.state.stand s := h
    rw [lcpFsm_get] at hn
    cases hq : s.lcp.fsm.state <;> rw [hq] at hn h' <;>
      first
      | exact h'
      | exact R.acked.mp h'
      | cases hn
  exact R.link.terminate (fun hd => R.bare (hg ⟨hn, hr, hp, hd⟩) rfl)
    (R.link.ciRules.goto .stopped hidle)

theorem papHandleTimeout (h : Inv lcpFsm J s) : Inv lcpFsm J (papHandleTimeout s) :=
  R.papTimer false (R.authenFailure PPP_PAP h)

end Owner

theorem bare_sendProtRej (field : Bytes) (n : Nat) (s : Exec) :
    (sendProtRej field n s).bare = s.bare := bare_sendData _ _ _ _ _

@[simp] theorem state_sendProtRej (field : Bytes) (n : Nat) (s : Exec) :
    (sendProtRej field n s).lcp.fsm.state = s.lcp.fsm.state :=
  congrArg (·.fsm.state) (lcp_sendData _ _ _ _ _)

/-! ## 6. The manager's answers -/

theorem mem_getElem?_append {l r : List Issued} {k : Nat} {i : Issued} (h : i ∈ l[k]?) :
    i ∈ (l ++ r)[k]? := by
  rw [List.getElem?_append_left (List.getElem?_eq_some_iff.mp h).1]
  exact h

theorem delivers_accepting (h : delivers result s = true) : result = 0 := by
  unfold delivers at h
  rw [Bool.and_eq_true] at h
  exact eq_of_beq h.1

/-- Under CHAP a positive result is the first one, for the challenge that is outstanding. -/
theorem delivers_chap (hs : s.lcp.authType = PPP_CHAP) (h : delivers result s = true) :
    s.chap.flags.challengeValid = true ∧ s.chap.flags.authDone = false := by
  unfold delivers at h
  rw [if_pos hs, Bool.and_eq_true, Bool.and_eq_true, Bool.and_eq_true] at h
  exact ⟨h.2.1.1, by simpa using h.2.2⟩

/-- `t` is `s` but for the output and the flags of CHAP: the session in which a result is
    delivered. -/
structure Answered (s t : Exec) : Prop where
  bare : t.bare = { s with chap := t.chap }.bare
  lcp : t.lcp = s.lcp
  challenge : t.chap.challenge = s.chap.challenge
  username : t.chap.username = s.chap.username

/-- What reads neither `bare`'s erasures nor CHAP holds in both. -/
theorem Answered.keeps {A : Exec → Prop} (hA : ∀ s, A (Exec.bare s) ↔ A s)
    (hchap : ∀ {s} ch, A s → A { s with chap := ch }) {s t : Exec} (ht : Answered s t) (h : A s) :
    A t := of_erased Exec.bare hA ht.bare (hchap t.chap h)

theorem answered_output (p : Bytes) (s : Exec) : Answered s (onPPPOutput p s) := by
  have hb := bare_onPPPOutput p s
  refine ⟨?_, by simp, by simp, by simp⟩
  rw [chap_onPPPOutput]
  exact hb

theorem Answered.chap (h : Answered s t) {ch : CChapProtocolSvr}
    (hc : ch.challenge = t.chap.challenge) (hu : ch.username = t.chap.username) :
    Answered s { t with chap := ch } := by
  refine ⟨?_, h.lcp, hc.trans h.challenge, hu.trans h.username⟩
  exact congrArg (fun u : Exec => { u with chap := ch }) h.bare

theorem Answered.flags (h : Answered s t) (g : ChapFlags → ChapFlags) :
    Answered s (setChapFlags g t) := h.chap rfl rfl

/-- After a result the servers stop their timers, and CHAP sets its flags. -/
structure Settled (t u : Exec) : Prop where
  eq : u = { t with pap := { t.pap with timer := u.pap.timer }, chap := u.chap }
  username : u.chap.username = t.chap.username

/-- What reads nothing of the two servers holds in both. -/
theorem Settled.keeps {A : Exec → Prop}
    (hA : ∀ {s} pap chap, A s → A { s with pap := pap, chap := chap }) {t u : Exec}
    (hu : Settled t u) (h : A t) : A u := by
  rw [hu.eq]
  exact hA _ _ h

theorem Settled.requests {protocol : UInt16} {u : Exec} (hu : Settled (authenSuccess protocol t) u)
    (ha : Answered s t) : u.hist.requests = s.hist.requests := by
  have ht : t.hist.requests = s.hist.requests := congrArg (·.hist.requests) ha.bare
  have hq : (authenSuccess protocol t).hist.requests = t.hist.requests :=
    congrArg (·.hist.requests) (outsideIpcp_ipcpOpen _)
  exact ((congrArg (·.hist.requests) hu.eq).trans hq).trans ht

/-- **What an answer can do**: nothing that counts, a positive result or a negative one. -/
inductive Outcome (result : UInt32) (s u : Exec) : Prop where
  | quiet (h : Answered s u) (hn : delivers result s = false) (hp : s.lcp.authType ≠ PPP_PAP)
      (hq : ChapQuiet s.chap u.chap ∧
        (s.lcp.authType = PPP_CHAP → s.chap.flags.challengeValid = false) ∨
        u.chap.flags.authDone = true)
  | success (protocol : UInt16) (t : Exec) (h : Answered s t) (hd : delivers result s = true)
      (hu : Settled (authenSuccess protocol t) u)
      (hdone : s.lcp.authType = PPP_CHAP → u.chap.flags.authDone = true)
  | failure (protocol : UInt16) (t : Exec) (h : Answered s t) (hn : delivers result s = false)
      (hu : Settled (authenFailure protocol t) u)
      (hdone : s.lcp.authType = PPP_CHAP → u.chap.flags.authDone = true)

theorem Outcome.success_of_delivers {u : Exec} (h : Outcome result s u)
    (hd : delivers result s = true) :
    ∃ protocol t, Answered s t ∧ Settled (authenSuccess protocol t) u := by
  cases h with
  | quiet _ hn _ _ => exact absurd (hd.symm.trans hn) (by decide)
  | success protocol t ha _ hu _ => exact ⟨protocol, t, ha, hu⟩
  | failure _ _ _ hn _ _ => exact absurd (hd.symm.trans hn) (by decide)

theorem papResponse_outcome (result : UInt32) (reason : Bytes) (hs : s.lcp.authType = PPP_PAP) :
    Outcome result s (papResponseAuthenResult result reason s) := by
  have hn : s.lcp.authType ≠ PPP_CHAP := by rw [hs]; decide
  have hd : delivers result s = (result == 0) := by
    unfold delivers
    rw [if_neg hn, hs]
    exact Bool.and_true _
  have stop : ∀ t : Exec, Settled t (papStopTimer t) := by
    intro t
    unfold papStopTimer papCancelTimer
    split <;> exact ⟨rfl, rfl⟩
  unfold papResponseAuthenResult papSresp
  have hr := answered_output ([PPP_ALLSTATIONS, PPP_UI] ++ putShort PPP_PAP ++
    [if result == 0 then UPAP_AUTHACK else UPAP_AUTHNAK, s.pap.usrReqId] ++
    putShort (HEADERLEN + 1 + (reason.take 255).length).toUInt16 ++
    [UInt8.ofNat (reason.take 255).length] ++ reason.take 255) s
  cases hb : result == 0 with
  | true =>
    simp only [hb, papResult, if_true] at hr ⊢
    exact .success PPP_PAP _ hr (hd.trans hb) (stop _) fun h => absurd h hn
  | false =>
    simp only [hb, papResult, Bool.false_eq_true, if_false] at hr ⊢
    exact .failure PPP_PAP _ hr (hd.trans hb) (stop _) fun h => absurd h hn

theorem chapReply_answered (reason : Bytes) (s : Exec) : Answered s (chapReply reason s) := by
  unfold chapReply chapSresp
  exact answered_output _ s

theorem chap_chapReply (reason : Bytes) (s : Exec) : (chapReply reason s).chap = s.chap :=
  chap_onPPPOutput _ s

theorem chapRechallenge_settled (t : Exec) : Settled t (chapRechallenge t) := by
  unfold chapRechallenge
  split <;> exact ⟨rfl, rfl⟩

theorem Settled.chap {u : Exec} (h : Settled t u) {ch : CChapProtocolSvr}
    (hu : ch.username = u.chap.username) : Settled t { u with chap := ch } := by
  refine ⟨?_, hu.trans h.username⟩
  exact congrArg (fun v : Exec => { v with chap := ch }) h.eq

theorem chapResult_outcome (hp : s.lcp.authType ≠ PPP_PAP) (ha : Answered s t)
    (hd : delivers result s = (!t.chap.flags.authFailed && !t.chap.flags.authDone)) :
    Outcome result s (setChapFlags (fun f => { f with authDone := true }) (chapResult t)) := by
  unfold chapResult
  split
  · rename_i hf
    refine .failure PPP_CHAP t ha (by rw [hd, hf]; rfl) ?_ fun _ => rfl
    exact Settled.chap ⟨rfl, rfl⟩ rfl
  · rename_i hf
    split
    · rename_i hdone
      refine .quiet ?_ (by rw [hd, hdone]; exact Bool.and_false _) hp (Or.inr rfl)
      unfold chapRechallenge
      split
      · refine Answered.flags (Answered.flags ?_ _) _
        exact ha.chap rfl rfl
      · exact ha.flags _
    · rename_i hdone
      rw [Bool.not_eq_true] at hf hdone
      exact .success PPP_CHAP t ha (by rw [hd, hf, hdone]; rfl)
        ((chapRechallenge_settled _).chap rfl) fun _ => rfl

theorem chapResponse_outcome (result : UInt32) (reason : Bytes) (hs : s.lcp.authType = PPP_CHAP) :
    Outcome result s (chapResponseAuthenResult result reason s) := by
  have hp : s.lcp.authType ≠ PPP_PAP := by rw [hs]; decide
  unfold chapResponseAuthenResult
  have hflag : Answered s (chapFail result s) ∧ ChapQuiet s.chap (chapFail result s).chap ∧
      (chapFail result s).chap.flags.authFailed = (result != 0 || s.chap.flags.authFailed) := by
    have hs : Answered s s := ⟨rfl, rfl, rfl, rfl⟩
    unfold chapFail
    split
    · rename_i h0
      exact ⟨hs.flags _, ⟨rfl, rfl, rfl, rfl⟩, by simp [setChapFlags, h0]⟩
    · rename_i h0
      exact ⟨hs, ⟨rfl, rfl, rfl, rfl⟩, by simp [not_ne_iff.mp h0]⟩
  generalize chapFail result s = u at hflag ⊢
  obtain ⟨ha, hq, hf⟩ := hflag
  have hr := chapReply_answered reason u
  have hw := chap_chapReply reason u
  generalize chapReply reason u = w at hr hw ⊢
  have haw : Answered s w := by
    refine ⟨?_, hr.lcp.trans ha.lcp, hr.challenge.trans ha.challenge,
      hr.username.trans ha.username⟩
    rw [hr.bare, hw]
    exact ha.bare
  have hd : delivers result s = (u.chap.flags.challengeValid && (!u.chap.flags.authFailed &&
      !u.chap.flags.authDone)) := by
    unfold delivers
    rw [if_pos hs, hf, hq.challengeValid, hq.authDone]
    cases h0 : result == 0 <;> simp [bne, h0, Bool.and_assoc]
  dsimp only
  rw [hw]
  split
  · rename_i hv
    refine chapResult_outcome hp (haw.flags _) ?_
    simp only [setChapFlags, hw]
    rw [hd, hv, Bool.true_and]
  · rename_i hv
    rw [Bool.not_eq_true] at hv
    exact .quiet haw (by rw [hd, hv, Bool.false_and]) hp
      (Or.inl ⟨hw ▸ hq, fun _ => hq.challengeValid ▸ hv⟩)

theorem onAuthResponse_outcome (result : UInt32) (reason : Bytes) (s : Exec) :
    Outcome result s (onAuthResponse result reason s) := by
  unfold onAuthResponse
  split
  · rename_i h
    exact chapResponse_outcome result reason h
  rename_i hc
  split
  · rename_i h
    exact papResponse_outcome result reason h
  rename_i hp
  refine .quiet ⟨rfl, rfl, rfl, rfl⟩ ?_ hp
    (Or.inl ⟨⟨rfl, rfl, rfl, rfl⟩, fun h => absurd h hc⟩)
  simp [delivers, hc, hp]

/-- **An answer keeps an invariant that reads nothing of CHAP but the name**, if a positive
    result does. -/
theorem Owner.onAuthResponse (R : Owner J)
    (hany : ∀ {c s ch}, J c s → ch.username = s.chap.username → J c { s with chap := ch })
    (result : UInt32) (reason : Bytes)
    (hok : ∀ protocol t, Answered s t → delivers result s = true →
      Inv lcpFsm J (authenSuccess protocol t)) (h : Inv lcpFsm J s) :
    Inv lcpFsm J (onAuthResponse result reason s) := by
  have answered : ∀ {t}, Answered s t → Inv lcpFsm J t := by
    intro t ht
    exact R.inv_bare (s := { s with chap := t.chap }) (hany h ht.username) ht.bare (by rw [ht.lcp])
  have settled : ∀ {t u}, Settled t u → Inv lcpFsm J t → Inv lcpFsm J u := by
    intro t u hu ht
    rw [hu.eq]
    have hp : Inv lcpFsm J { t with pap := { t.pap with timer := u.pap.timer } } :=
      R.papTimer u.pap.timer ht
    exact hany hp hu.username
  cases onAuthResponse_outcome result reason s with
  | quiet ha _ _ _ => exact answered ha
  | success protocol t ha hd hu _ => exact settled hu (hok protocol t ha hd)
  | failure protocol t ha _ hu _ => exact settled hu (R.authenFailure protocol (answered ha))

/-! ## 7. Received packets -/

/-- **Where a packet goes.** The authentication servers and IPCP are reached only while LCP is
    open, IPCP only after Authenticate. -/
theorem input_cases (packet : Bytes) (len : Nat)
    (hlcp : ∀ {p n}, protocolOf packet len = (PPP_LCP, p, n) →
      P (CPPPFsm.input lcpFsm lcpSink p n s))
    (hipcp : ∀ {p n}, protocolOf packet len = (PPP_IPCP, p, n) → s.lcp.fsm.state = .opened →
      PPPPhase.authenticate.toNat < s.phase.toNat → P (ipcpInput p n s))
    (hpap : ∀ {p n}, protocolOf packet len = (PPP_PAP, p, n) → s.lcp.fsm.state = .opened →
      P (papInput p n s))
    (hchap : ∀ {p n}, protocolOf packet len = (PPP_CHAP, p, n) → s.lcp.fsm.state = .opened →
      P (chapInput p n s))
    (hreject : ∀ field n, P (sendProtRej field n s)) (h : P s) : P (input packet len s) := by
  unfold Exec.input
  split
  · exact h
  rcases hp : protocolOf packet len with ⟨protocol, p, n⟩
  dsimp only
  split
  · exact h
  rename_i hopen
  rw [not_and_or, not_not, not_not] at hopen
  have opened : protocol ≠ PPP_LCP → s.lcp.fsm.state = .opened :=
    fun hl => hopen.resolve_left hl
  split
  · exact h
  rename_i hphase
  unfold dispatch
  split
  · rename_i hl
    exact hlcp (hl ▸ hp)
  rename_i hl
  split
  · rename_i hi
    refine hipcp (hi ▸ hp) (opened hl) ?_
    by_contra hle
    refine hphase ⟨Nat.le_of_not_lt hle, ?_⟩
    rw [hi]
    decide
  split
  · rename_i hpp
    exact hpap (hpp ▸ hp) (opened hl)
  split
  · rename_i hc
    exact hchap (hc ▸ hp) (opened hl)
  split
  · exact h
  · exact hreject _ _

/-- **A packet keeps the invariant**, if it does where it goes to IPCP or to an authentication
    server. -/
theorem Owner.input (R : Owner J) (packet : Bytes) (len : Nat)
    (hipcp : ∀ {p n}, protocolOf packet len = (PPP_IPCP, p, n) → s.lcp.fsm.state = .opened →
      PPPPhase.authenticate.toNat < s.phase.toNat → Inv lcpFsm J (ipcpInput p n s))
    (hpap : ∀ {p n}, protocolOf packet len = (PPP_PAP, p, n) → s.lcp.fsm.state = .opened →
      Inv lcpFsm J (papInput p n s))
    (hchap : ∀ {p n}, protocolOf packet len = (PPP_CHAP, p, n) → s.lcp.fsm.state = .opened →
      Inv lcpFsm J (chapInput p n s))
    (h : Inv lcpFsm J s) : Inv lcpFsm J (input packet len s) :=
  input_cases packet len (fun _ => R.lcpInput _ _ h) hipcp hpap hchap
    (fun field n => R.inv_bare h (bare_sendProtRej field n s) (by simp)) h

theorem inv_outsideIpcp (hJ : ∀ c s, J c (outsideIpcp s) ↔ J c s)
    (ht : t.outsideIpcp = s.outsideIpcp) (h : Inv lcpFsm J s) : Inv lcpFsm J t := by
  have hl : t.lcp = s.lcp := congrArg (·.lcp) ht
  show J t.lcp.fsm.state.stand t
  rw [hl]
  exact of_erased outsideIpcp (hJ _) ht h

/-- **What a timer does**, if it runs. -/
theorem expire_cases (t : Timer)
    (hlcp : t = .lcp → s.lcp.fsm.timer = true → P (CPPPFsm.timeout lcpFsm lcpSink s))
    (hecho : P (sendEchoRequest s)) (hipcp : t = .ipcp → P (ipcpTimeout s))
    (hpap : P (papHandleTimeout s)) (hchap : P (chapHandleTimeout s)) (h : P s) :
    P (s.expire t) := by
  have fires : ∀ {b : Bool} {u : Exec}, (b = true → P u) → P (if b then u else s) := by
    intro b u hu
    split
    · rename_i hb
      exact hu hb
    · exact h
  cases t with
  | lcp => exact fires fun hb => hlcp rfl hb
  | echo => exact fires fun _ => hecho
  | ipcp => exact fires fun _ => hipcp rfl
  | pap => exact fires fun _ => hpap
  | chap => exact fires fun _ => hchap

/-- **Every timer keeps the invariant**, if IPCP's does, and LCP's where LCP gives up in the
    Dead phase. -/
theorem Owner.expire (R : Owner J) (t : Timer)
    (hlcp : t = .lcp → s.lcp.fsm.timer = true → GivesUpDead s → J .idle (noteFinished s))
    (hipcp : Inv lcpFsm J (ipcpTimeout s)) (h : Inv lcpFsm J s) :
    Inv lcpFsm J (s.expire t) :=
  expire_cases t (fun ht hb => R.lcpTimeout (hlcp ht hb) h) (R.link.sendEchoRequest h)
    (fun _ => hipcp) (R.papHandleTimeout h) (R.challenger.chapHandleTimeout h) h

end Exec

end OpenBras
