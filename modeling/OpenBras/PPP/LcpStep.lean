/-
  File:      OpenBras/PPP/LcpStep.lean
  Subject:   EVERY EVENT OF A SESSION, CLASSIFIED BY WHAT IT DOES TO LCP.

  Most events come to deeds of LCP (OpenBras/PPP/LcpView.lean). Six do not:

  * `resend` -- the restart timer repeats the Configure-Request;
  * `rise` -- LCP comes up;
  * `ping`, `fail` -- the echo timer sends another Echo-Request, or gives the peer up;
  * `pong`, `heard` -- the peer's Echo-Request is answered, its Echo-Reply is taken.

  `lcpEvent` tells which it is from the event and the state before it; `step_lcp` says what the
  event does. An invariant of LCP's view is then proved deed by deed and for the six.
-/
import OpenBras.PPP.AuthCourse
import OpenBras.PPP.Phase

namespace OpenBras

open Wire

namespace Exec

open CPPPFsm

variable {v : LcpView} {s : Exec}

/-! ## 1. The classification -/

/-- The LCP packet of an event: code, identifier, body and its length. -/
def Event.lcp : Event → Option (UInt8 × UInt8 × Bytes × Nat)
  | .input packet len =>
    if len < PPP_HDRLEN ∨ (protocolOf packet len).1 ≠ PPP_LCP then none
    else
      (header (protocolOf packet len).2.1 (protocolOf packet len).2.2).map fun h =>
        (h.1, h.2.1, (protocolOf packet len).2.1.drop HEADERLEN, h.2.2)
  | _ => none

/-- The packet brings LCP up: a request we acknowledge when ours has been acknowledged, or the
    other way round. -/
def agrees (code id : UInt8) (inp : Bytes) (len : Nat) (s : Exec) : Bool :=
  code == CONFREQ && s.lcp.fsm.state == .ackRcvd &&
    (lcpReqci inp len s.lcp.fsm.refusing s).1.1 == confAck ||
  code == CONFACK && s.lcp.fsm.state == .ackSent && id == s.lcp.fsm.reqid &&
    !s.lcp.fsm.seenAck && s.lcp.go.ackci inp len

inductive LcpEvent where
  | plain
  | resend
  | rise
  | ping
  | fail
  | pong (id : UInt8) (inp : Bytes) (len : Nat)
  | heard
  deriving DecidableEq, Repr

/-- What an LCP packet is to LCP. -/
def lcpHears (code id : UInt8) (inp : Bytes) (len : Nat) (s : Exec) : LcpEvent :=
  if agrees code id inp len s then .rise
  else if code = ECHOREQ ∧ s.lcp.fsm.state = .opened then .pong id inp len
  else if code = ECHOREP ∧ 4 ≤ len ∧ getLong inp 0 ≠ s.lcp.magicnumber ∧
      s.lcp.fsm.state ≠ .initial ∧ s.lcp.fsm.state ≠ .starting then .heard
  else .plain

/-- What an event is to LCP. -/
def lcpEvent (s : Exec) : Event → LcpEvent
  | .timer .lcp =>
    if s.lcp.fsm.timer = true ∧ s.lcp.fsm.state.negotiating = true ∧ 0 < s.lcp.fsm.retransmits
    then .resend else .plain
  | .timer .echo =>
    if s.lcp.echoTimer = true then
      if s.lcp.echoFails ≠ 0 ∧ s.lcp.echosPending ≥ s.lcp.echoFails then .fail
      else if s.lcp.fsm.state = .opened then .ping else .plain
    else .plain
  | e => e.lcp.elim .plain fun h => lcpHears h.1 h.2.1 h.2.2.1 h.2.2.2 s

/-- What the event does to the view. -/
def LcpStep (v w : LcpView) : LcpEvent → Prop
  | .plain => Deeds v w
  | .resend => v.state.negotiating = true ∧ w = v.resend
  | .rise => ∃ u f, (u = v ∨ ∃ id data n, u = v.send CONFACK id data n) ∧
      u.lcp.fsm.Alike f ∧ v.state.negotiating = true ∧ Deeds (u.withFsm f).risen w
  | .ping => v.state = .opened ∧
      ¬ (v.lcp.echoFails ≠ 0 ∧ v.lcp.echosPending ≥ v.lcp.echoFails) ∧ w = v.ping
  | .fail => ∃ u, Deeds v u ∧ u.state ≠ .opened ∧ w = u.answered
  | .pong ident inp len => v.state = .opened ∧
      w = v.send ECHOREP ident (putLong v.lcp.magicnumber ++ inp.drop 4) len
  | .heard => w = v.answered

/-! ## 2. Echo requests and coming up -/

/-- **An Echo-Request in the view.** -/
theorem sendEchoRequest_ping (h : Labelled s) (hs : s.lcp.fsm.state = .opened)
    (hp : ¬ (s.lcp.echoFails ≠ 0 ∧ s.lcp.echosPending ≥ s.lcp.echoFails)) :
    Labelled (sendEchoRequest s) ∧ (sendEchoRequest s).lcpView = s.lcpView.ping := by
  have hl := h.sendData ECHOREQ (UInt8.ofNat s.lcp.echoNumber) (putLong s.lcp.magicnumber) 4
  have hview := lcpView_sendData h ECHOREQ (UInt8.ofNat s.lcp.echoNumber)
    (putLong s.lcp.magicnumber) 4
  unfold sendEchoRequest
  rw [if_neg hp, if_pos hs]
  generalize sendData lcpFsm lcpCi ECHOREQ (UInt8.ofNat s.lcp.echoNumber)
    (putLong s.lcp.magicnumber) 4 s = t at hl hview ⊢
  refine ⟨⟨hl.lcp, hl.ipcp, hl.chap⟩, ?_⟩
  have hping : s.lcpView.ping = { t.lcpView with lcp := { t.lcpView.lcp with
      echoNumber := t.lcpView.lcp.echoNumber + 1,
      echosPending := t.lcpView.lcp.echosPending + 1 } } := by
    rw [hview]
    rfl
  rw [hping]
  rfl

theorem echoLowerUp_risen (h : Labelled s) (hs : s.lcp.fsm.state = .opened) :
    Labelled (echoLowerUp s) ∧ (echoLowerUp s).lcpView =
      let v : LcpView := { s.lcpView with lcp := s.lcpView.lcp.echoReset }
      if s.lcp.echoInterval ≠ 0 then
        { v.ping with lcp := { v.ping.lcp with echoTimer := true, echoTimerRunning := true } }
      else v := by
  have hl : Labelled { s with lcp := s.lcp.echoReset } := ⟨h.lcp, h.ipcp, h.chap⟩
  have hint : s.lcp.echoReset.echoInterval = s.lcp.echoInterval := rfl
  unfold echoLowerUp
  dsimp only
  rw [hint]
  split
  · obtain ⟨hl', hping⟩ := sendEchoRequest_ping hl hs (fun hp => hp.1 (Nat.le_zero.mp hp.2))
    have hopen : (sendEchoRequest { s with lcp := s.lcp.echoReset }).lcp.fsm.state = .opened := by
      have hf := congrArg LcpView.lcp hping
      rw [LcpView.lcp_ping] at hf
      exact (congrArg (·.fsm.state) hf).trans hs
    rw [if_pos hopen]
    generalize sendEchoRequest _ = t at hl' hping ⊢
    refine ⟨⟨hl'.lcp, hl'.ipcp, hl'.chap⟩, ?_⟩
    show ({ t.lcpView with lcp := { t.lcpView.lcp with
      echoTimer := true, echoTimerRunning := true } } : LcpView) = _
    rw [hping]
    rfl
  · exact ⟨hl, rfl⟩

/-- **`Up`**: LCP's own part, then deeds. -/
theorem lcpUp_reached (h : Labelled s) (hs : s.lcp.fsm.state = .opened) :
    Reached s.lcpView.risen (lcpUp s) := by
  refine (reached_auth _).rules.onLCPUp ?_
  obtain ⟨hl, hview⟩ := echoLowerUp_risen (s := settle s) ⟨h.lcp, h.ipcp, h.chap⟩ hs
  refine ⟨hl, ?_⟩
  rw [hview]
  have hfsm : s.lcpView.lcp.fsm = { s.lcpView.lcp.fsm with state := .opened } := by
    rw [← hs]
    rfl
  unfold LcpView.risen
  dsimp only
  rw [← hfsm]
  exact Deeds.refl _

/-! ## 3. A retransmission -/

theorem sendConfReq_again (hn : s.lcp.fsm.state.negotiating = true) :
    sendConfReq lcpFsm lcpCi true s =
      lcpFsm.upd (fun f => { f with retransmits := f.retransmits - 1, timer := true })
        (sendData lcpFsm lcpCi CONFREQ s.lcp.fsm.reqid s.lcp.go.addci
          (min s.lcp.go.cilen (PPP_MRU - HEADERLEN))
          (lcpFsm.upd (fun f => { f with seenAck := false }) s)) := by
  have hreq : confReq lcpFsm lcpCi true s = ((s.lcp.go.addci,
      min s.lcp.go.cilen (PPP_MRU - HEADERLEN)),
      lcpFsm.upd (fun f => { f with seenAck := false }) s) := by
    have hn' : (lcpFsm.get s).state.negotiating = true := hn
    unfold confReq
    dsimp only
    rw [if_pos rfl, if_pos hn']
    rfl
  rw [sendConfReq_eq, startTime_lcp, hreq]
  rfl

theorem timeout_again {σ : Type} {L : Lens σ CPPPFsm} {K : IFsmSink σ} {s : σ}
    (hn : (L.get s).state.negotiating = true) (hr : 0 < (L.get s).retransmits) :
    timeout L K s = resend L K s := by
  have hr' := Int.not_le.mpr hr
  unfold timeout
  cases hq : (L.get s).state <;> rw [hq] at hn <;> simp only
  case reqSent => exact if_neg hr'
  case ackRcvd => exact if_neg hr'
  case ackSent => exact if_neg hr'
  all_goals cases hn

/-- The restart timer does not call `Up`. -/
theorem timeout_up {σ : Type} {L : Lens σ CPPPFsm} {K : IFsmSink σ} {s : σ} (u : σ → σ) :
    timeout L K s = timeout L { K with up := u } s := rfl

theorem timeout_resend (h : Labelled s) (hn : s.lcp.fsm.state.negotiating = true)
    (hr : 0 < s.lcp.fsm.retransmits) :
    Labelled (timeout lcpFsm lcpSink s) ∧
      (timeout lcpFsm lcpSink s).lcpView = s.lcpView.resend := by
  have hl : Labelled (lcpFsm.upd (fun f => { f with seenAck := false }) s) := h.upd fun _ => rfl
  have hsent := hl.sendData CONFREQ s.lcp.fsm.reqid s.lcp.go.addci
    (min s.lcp.go.cilen (PPP_MRU - HEADERLEN))
  have hview := lcpView_sendData hl CONFREQ s.lcp.fsm.reqid s.lcp.go.addci
    (min s.lcp.go.cilen (PPP_MRU - HEADERLEN))
  have hagain := sendConfReq_again hn
  generalize sendData lcpFsm lcpCi CONFREQ s.lcp.fsm.reqid s.lcp.go.addci
    (min s.lcp.go.cilen (PPP_MRU - HEADERLEN)) _ = t at hsent hview hagain
  have hlcp : t.lcpView.lcp.fsm = { s.lcp.fsm with seenAck := false } := by
    rw [hview, LcpView.send_lcp]
    rfl
  have hstate : (lcpFsm.get (lcpFsm.upd (fun f => { f with
      retransmits := f.retransmits - 1, timer := true }) t)).state = s.lcp.fsm.state :=
    congrArg (·.state) hlcp
  have hfsm : t.lcp.fsm = { s.lcp.fsm with seenAck := false } := hlcp
  have hwith : ∀ f, t.lcpView.withFsm f = (s.lcpView.send CONFREQ s.lcp.fsm.reqid s.lcp.go.addci
      (min s.lcp.go.cilen (PPP_MRU - HEADERLEN))).withFsm f := by
    intro f
    rw [hview, lcpView_upd, ← LcpView.withFsm_send]
    rfl
  have hresent : (lcpFsm.upd (fun f => { f with
      retransmits := f.retransmits - 1, timer := true }) t).lcpView =
      (s.lcpView.send CONFREQ s.lcp.fsm.reqid s.lcp.go.addci
        (min s.lcp.go.cilen (PPP_MRU - HEADERLEN))).withFsm { s.lcp.fsm with
          seenAck := false, retransmits := s.lcp.fsm.retransmits - 1, timer := true } := by
    rw [lcpView_upd, hwith, hfsm]
  have hresend : resend lcpFsm lcpSink s = if (lcpFsm.get (sendConfReq lcpFsm lcpCi true s)).state =
      .ackRcvd then setState lcpFsm .reqSent (sendConfReq lcpFsm lcpCi true s)
    else sendConfReq lcpFsm lcpCi true s := rfl
  rw [timeout_again hn hr, hresend, hagain, hstate]
  show _ ∧ _ = LcpView.goto (if s.lcp.fsm.state = .ackRcvd then .reqSent else s.lcp.fsm.state) _
  split
  · refine ⟨⟨hsent.lcp, hsent.ipcp, hsent.chap⟩, ?_⟩
    rw [lcpView_setState, hresent]
    rfl
  · refine ⟨⟨hsent.lcp, hsent.ipcp, hsent.chap⟩, ?_⟩
    rw [hresent]
    rfl

/-! ## 4. Packets for LCP -/

section Agreement

variable {σ : Type} {L : Lens σ CPPPFsm} {K : IFsmSink σ} {s : σ}

/-- A request that is acknowledged when ours has been: `Up`. -/
theorem answerConfReq_rises (id : UInt8) (inp : Bytes) (len : Nat) {out : Bytes} {t : σ}
    (hreq : K.reqci inp len (L.get s).refusing s =
      ((confAck, out), t))
    (hs : (L.get (sendData L K.toCiSink CONFACK id out out.length t)).state = .ackRcvd) :
    answerConfReq L K id inp len s = L.upd (fun f => { f with nakloops := 0 })
      (K.up (setState L .opened (cancelTimer L
        (sendData L K.toCiSink CONFACK id out out.length t)))) := by
  have hcode : UInt8.ofNat (confAck.emod 256).toNat = CONFACK := rfl
  unfold answerConfReq
  simp only [hreq, if_neg (show confAck ≠ -1 by decide), hcode, if_pos hs, if_true]

/-- The Ack of our request when we have acknowledged the peer's: `Up`. -/
theorem rcvConfAck_rises (id : UInt8) (inp : Bytes) (len : Nat) {t : σ}
    (hid : id = (L.get s).reqid) (hseen : (L.get s).seenAck = false)
    (hack : K.ackci inp len s = (true, t)) (ht : (L.get t).state = .ackSent) :
    rcvConfAck L K id inp len s = K.up (L.upd (fun f => { f with
        state := .opened, retransmits := f.maxconfreqtransmits })
      (cancelTimer L (L.upd (fun f => { f with seenAck := true, rnakloops := 0 }) t))) := by
  have hno : ¬ (id ≠ (L.get s).reqid ∨ (L.get s).seenAck = true) := by
    rw [hseen]
    exact fun hor => hor.elim (fun hne => hne hid) (by decide)
  unfold rcvConfAck
  rw [if_neg hno, hack]
  simp only [Bool.not_true, Bool.false_eq_true, if_false, Lens.get_upd, ht]

theorem answerConfReq_refuses (id : UInt8) (inp : Bytes) (len : Nat) {u : σ → σ}
    (hreq : (K.reqci inp len (L.get s).refusing s).1.1 = confNak ∨
      (K.reqci inp len (L.get s).refusing s).1.1 = confRej) :
    answerConfReq L K id inp len s = answerConfReq L { K with up := u } id inp len s := by
  unfold answerConfReq
  rcases hk : K.reqci inp len (L.get s).refusing s with
    ⟨⟨verdict, out⟩, t⟩
  rw [hk] at hreq
  simp only [hk]
  rcases hreq with hv | hv <;> dsimp only at hv <;> subst hv
  · simp only [if_neg (show confNak ≠ -1 by decide), if_neg (show confNak ≠ confAck by decide)]
  · simp only [if_neg (show confRej ≠ -1 by decide), if_neg (show confRej ≠ confAck by decide)]

/-- The codes of the automaton itself. -/
def ownCode (code : UInt8) : Bool :=
  code == CONFREQ || code == CONFACK || code == CONFNAK || code == CONFREJ || code == TERMREQ ||
    code == TERMACK || code == CODEREJ

theorem dispatch_ext {code : UInt8} (id : UInt8) (p : Bytes) (len : Nat) {t : σ}
    (hown : ownCode code = false)
    (hext : K.extCode code id (p.drop HEADERLEN) len s = (true, t)) :
    CPPPFsm.dispatch L K p code id len s = t := by
  simp only [ownCode, Bool.or_eq_false_iff, beq_eq_false_iff_ne] at hown
  obtain ⟨⟨⟨⟨⟨⟨h1, h2⟩, h3⟩, h4⟩, h5⟩, h6⟩, h7⟩ := hown
  unfold CPPPFsm.dispatch
  simp only [if_neg h1, if_neg h2, if_neg (not_or.mpr ⟨h3, h4⟩), if_neg h5, if_neg h6, if_neg h7,
    hext, if_true]

end Agreement

/-- The event does to the session what its class says. -/
def LcpDone (s t : Exec) (e : LcpEvent) : Prop := Labelled t ∧ LcpStep s.lcpView t.lcpView e

theorem Reached.done {t : Exec} (h : Reached s.lcpView t) : LcpDone s t .plain :=
  ⟨h.labelled, h.deeds⟩

theorem lcpReqci_view (h : Labelled s) (inp : Bytes) (len : Nat) (r : Bool) :
    Labelled (lcpReqci inp len r s).2 ∧ (lcpReqci inp len r s).2.lcpView = s.lcpView ∧
      (lcpReqci inp len r s).2.lcp.fsm = s.lcp.fsm :=
  ⟨⟨h.lcp, h.ipcp, h.chap⟩, rfl, rfl⟩

theorem answerConfReq_done (h : Labelled s) (id : UInt8) (inp : Bytes) (len : Nat)
    (hs : s.lcp.fsm.state = .ackRcvd) :
    LcpDone s (answerConfReq lcpFsm lcpSink id inp len s)
      (if (lcpReqci inp len s.lcp.fsm.refusing s).1.1 = confAck
        then .rise else .plain) := by
  have hn : s.lcp.fsm.state.negotiating = true := by rw [hs]; rfl
  have hcases : (lcpReqci inp len s.lcp.fsm.refusing s).1.1 =
      confAck ∨
    (lcpReqci inp len s.lcp.fsm.refusing s).1.1 = confNak ∨
    (lcpReqci inp len s.lcp.fsm.refusing s).1.1 = confRej :=
    Conf.code_cases _
  rcases hcases with hack | href
  · obtain ⟨hl, hview, hfsm⟩ := lcpReqci_view h inp len
      s.lcp.fsm.refusing
    rcases hk : lcpReqci inp len s.lcp.fsm.refusing s with
      ⟨⟨verdict, out⟩, t⟩
    rw [hk] at hack hl hview hfsm
    obtain rfl : verdict = confAck := hack
    have hsent := hl.sendData CONFACK id out out.length
    have hsview := lcpView_sendData hl CONFACK id out out.length
    have hlcp := lcp_sendData CONFACK id out out.length t
    rw [hview] at hsview
    rw [answerConfReq_rises (L := lcpFsm) (K := lcpSink) (s := s) id inp len hk
      ((congrArg (·.fsm.state) hlcp).trans ((congrArg (·.state) hfsm).trans hs))]
    rw [show lcpSink.up = lcpUp from rfl, show lcpSink.toCiSink = lcpCi from rfl]
    generalize sendData lcpFsm lcpCi CONFACK id out out.length t = w at hsent hsview ⊢
    have hup := lcpUp_reached (s := setState lcpFsm .opened (cancelTimer lcpFsm w))
      ⟨hsent.lcp, hsent.ipcp, hsent.chap⟩ rfl
    have hcalm := (lcpCi_course _).calm (g := fun f => { f with nakloops := 0 })
      (fun _ => ⟨rfl, rfl, rfl, rfl⟩) hup
    refine ⟨hcalm.labelled, w.lcpView, { w.lcp.fsm with timer := false },
      Or.inr ⟨id, out, out.length, hsview⟩, ⟨rfl, rfl, rfl, rfl⟩, hn, ?_⟩
    exact hcalm.deeds
  · have hack : ¬ (lcpReqci inp len s.lcp.fsm.refusing s).1.1 =
        confAck := by
      rcases href with e | e <;> rw [e] <;> decide
    rw [if_neg hack]
    refine Reached.done ?_
    rw [answerConfReq_refuses (L := lcpFsm) (K := lcpSink) (s := s) (u := setState lcpFsm .stopped)
      id inp len href]
    exact answerConfReq_course (lcp_course _) id inp len hn ⟨h, Deeds.refl _⟩

theorem rcvConfAck_done (h : Labelled s) (id : UInt8) (inp : Bytes) (len : Nat)
    (hs : s.lcp.fsm.state = .ackSent) :
    LcpDone s (rcvConfAck lcpFsm lcpSink id inp len s)
      (if id = s.lcp.fsm.reqid ∧ s.lcp.fsm.seenAck = false ∧ s.lcp.go.ackci inp len = true
        then .rise else .plain) := by
  have hn : s.lcp.fsm.state.negotiating = true := by rw [hs]; rfl
  split
  · rename_i hok
    obtain ⟨hid, hseen, hack⟩ := hok
    rw [rcvConfAck_rises (L := lcpFsm) (K := lcpSink) (s := s) id inp len hid hseen
      (Prod.ext hack rfl) hs, show lcpSink.up = lcpUp from rfl]
    have hup := lcpUp_reached (s := lcpFsm.upd (fun f => { f with
        state := .opened, retransmits := f.maxconfreqtransmits })
      (cancelTimer lcpFsm (lcpFsm.upd (fun f => { f with seenAck := true, rnakloops := 0 }) s)))
      ⟨h.lcp, h.ipcp, h.chap⟩ rfl
    exact ⟨hup.labelled, s.lcpView, { s.lcp.fsm with
        seenAck := true, rnakloops := 0, timer := false,
        retransmits := s.lcp.fsm.maxconfreqtransmits },
      Or.inl rfl, ⟨rfl, rfl, rfl, rfl⟩, hn, hup.deeds⟩
  · rename_i hno
    refine Reached.done ?_
    have hsame : rcvConfAck lcpFsm lcpSink id inp len s = s := by
      unfold rcvConfAck
      split
      · rfl
      rename_i hid
      rw [not_or, not_not, Bool.not_eq_true] at hid
      have hack : s.lcp.go.ackci inp len = false :=
        Bool.eq_false_iff.mpr fun e => hno ⟨hid.1, hid.2, e⟩
      show (if (!s.lcp.go.ackci inp len) = true then s else _) = s
      rw [hack]
      rfl
    rw [hsame]
    exact ⟨h, Deeds.refl _⟩

variable (id : UInt8) {code : UInt8}

theorem lcpHears_of_ne (inp : Bytes) (len : Nat) (hreq : code ≠ ECHOREQ) (hrep : code ≠ ECHOREP) :
    lcpHears code id inp len s = if agrees code id inp len s then .rise else .plain := by
  have hping : ¬ (code = ECHOREQ ∧ s.lcp.fsm.state = .opened) := fun hc => hreq hc.1
  have hheard : ¬ (code = ECHOREP ∧ 4 ≤ len ∧ getLong inp 0 ≠ s.lcp.magicnumber ∧
      s.lcp.fsm.state ≠ .initial ∧ s.lcp.fsm.state ≠ .starting) := fun hc => hrep hc.1
  unfold lcpHears
  rw [if_neg hping, if_neg hheard]

theorem lcpHears_request (inp : Bytes) (len : Nat) (hs : s.lcp.fsm.state = .ackRcvd) :
    lcpHears CONFREQ id inp len s =
      if (lcpReqci inp len s.lcp.fsm.refusing s).1.1 = confAck
      then .rise else .plain := by
  rw [lcpHears_of_ne _ _ _ (by decide) (by decide)]
  unfold agrees
  simp only [hs, show (CONFREQ == CONFACK) = false from rfl, beq_self_eq_true, Bool.true_and,
    Bool.false_and, Bool.or_false, beq_iff_eq]

theorem lcpHears_ack (inp : Bytes) (len : Nat) (hs : s.lcp.fsm.state = .ackSent) :
    lcpHears CONFACK id inp len s =
      if id = s.lcp.fsm.reqid ∧ s.lcp.fsm.seenAck = false ∧ s.lcp.go.ackci inp len = true
      then .rise else .plain := by
  rw [lcpHears_of_ne _ _ _ (by decide) (by decide)]
  unfold agrees
  simp only [hs, show (CONFACK == CONFREQ) = false from rfl, beq_self_eq_true, Bool.true_and,
    Bool.false_and, Bool.false_or, Bool.and_eq_true, beq_iff_eq, Bool.not_eq_true', and_assoc]

theorem agrees_of_not (inp : Bytes) (len : Nat) (ha : ¬ Agreeing code s.lcp.fsm.state) :
    agrees code id inp len s = false := by
  unfold agrees
  rw [Bool.or_eq_false_iff]
  constructor
  · rw [Bool.and_eq_false_iff]
    refine Or.inl (Bool.eq_false_iff.mpr fun hc => ha (Or.inl ?_))
    rwa [Bool.and_eq_true, beq_iff_eq, beq_iff_eq] at hc
  · rw [Bool.and_assoc, Bool.and_assoc, Bool.and_eq_false_iff]
    refine Or.inl (Bool.eq_false_iff.mpr fun hc => ha (Or.inr ?_))
    rwa [Bool.and_eq_true, beq_iff_eq, beq_iff_eq] at hc

theorem lcpHears_dead (inp : Bytes) (len : Nat)
    (hs : s.lcp.fsm.state = .initial ∨ s.lcp.fsm.state = .starting) :
    lcpHears code id inp len s = .plain := by
  have ha : agrees code id inp len s = false := by
    refine agrees_of_not id inp len fun ha => ?_
    rcases hs with hs | hs <;> rw [hs] at ha <;> rcases ha with ⟨_, h⟩ | ⟨_, h⟩ <;> cases h
  have hping : ¬ (code = ECHOREQ ∧ s.lcp.fsm.state = .opened) := by
    rintro ⟨_, h⟩
    rw [h] at hs
    exact absurd hs (by decide)
  have hheard : ¬ (code = ECHOREP ∧ 4 ≤ len ∧ getLong inp 0 ≠ s.lcp.magicnumber ∧
      s.lcp.fsm.state ≠ .initial ∧ s.lcp.fsm.state ≠ .starting) :=
    fun hc => hs.elim hc.2.2.2.1 hc.2.2.2.2
  unfold lcpHears
  rw [ha, if_neg (by decide), if_neg hping, if_neg hheard]

theorem lcpExtCode_pong (inp : Bytes) (len : Nat) (hs : s.lcp.fsm.state = .opened) :
    lcpSink.extCode ECHOREQ id inp len s =
      (true, sendData lcpFsm lcpCi ECHOREP id (putLong s.lcp.magicnumber ++ inp.drop 4) len s) := by
  show lcpExtCode ECHOREQ id inp len s = _
  unfold lcpExtCode
  rw [if_neg (by decide), if_pos rfl, if_pos hs]

theorem lcpExtCode_heard (inp : Bytes) {len : Nat} (hlen : 4 ≤ len)
    (hmagic : getLong inp 0 ≠ s.lcp.magicnumber) :
    lcpSink.extCode ECHOREP id inp len s =
      (true, { s with lcp := { s.lcp with echosPending := 0 } }) := by
  show lcpExtCode ECHOREP id inp len s = _
  unfold lcpExtCode
  rw [if_neg (by decide), if_neg (by decide), if_pos rfl,
    if_neg (not_or.mpr ⟨Nat.not_lt.mpr hlen, hmagic⟩)]

/-- **A packet for LCP does what its class says.** -/
theorem lcpInput_done (h : Labelled s) {p : Bytes} {n : Nat} {id : UInt8} {len : Nat}
    (hhead : header p n = some (code, id, len)) :
    LcpDone s (CPPPFsm.input lcpFsm lcpSink p n s)
      (lcpHears code id (p.drop HEADERLEN) len s) := by
  have hdispatch : s.lcp.fsm.state ≠ .initial → s.lcp.fsm.state ≠ .starting →
      CPPPFsm.input lcpFsm lcpSink p n s = CPPPFsm.dispatch lcpFsm lcpSink p code id len s := by
    intro hi hst
    unfold CPPPFsm.input
    rw [hhead]
    exact if_neg (not_or.mpr ⟨hi, hst⟩)
  by_cases hdead : s.lcp.fsm.state = .initial ∨ s.lcp.fsm.state = .starting
  · have hsame : CPPPFsm.input lcpFsm lcpSink p n s = s := by
      unfold CPPPFsm.input
      rw [hhead]
      exact if_pos hdead
    rw [hsame, lcpHears_dead id _ len hdead]
    exact ⟨h, Deeds.refl _⟩
  by_cases ha : Agreeing code s.lcp.fsm.state
  · rcases ha with ⟨rfl, hs⟩ | ⟨rfl, hs⟩
    · have hd : CPPPFsm.dispatch lcpFsm lcpSink p CONFREQ id len s =
          answerConfReq lcpFsm lcpSink id (p.drop HEADERLEN) len s := by
        unfold CPPPFsm.dispatch rcvConfReq
        rw [if_pos rfl, lcpFsm_get, hs]
      rw [hdispatch (by rw [hs]; decide) (by rw [hs]; decide), hd, lcpHears_request _ _ _ hs]
      exact answerConfReq_done h id _ len hs
    · have hd : CPPPFsm.dispatch lcpFsm lcpSink p CONFACK id len s =
          rcvConfAck lcpFsm lcpSink id (p.drop HEADERLEN) len s := by
        unfold CPPPFsm.dispatch
        rw [if_neg (by decide), if_pos rfl]
      rw [hdispatch (by rw [hs]; decide) (by rw [hs]; decide), hd, lcpHears_ack _ _ _ hs]
      exact rcvConfAck_done h id _ len hs
  · unfold lcpHears
    rw [agrees_of_not id _ len ha, if_neg (by decide)]
    split
    · rename_i hc
      obtain ⟨rfl, hs⟩ := hc
      rw [hdispatch (by rw [hs]; decide) (by rw [hs]; decide),
        dispatch_ext (K := lcpSink) _ _ _ (by decide) (lcpExtCode_pong id _ len hs)]
      exact ⟨h.sendData _ _ _ _, hs, lcpView_sendData h _ _ _ _⟩
    rename_i hping
    split
    · rename_i hc
      obtain ⟨rfl, hlen, hmagic, hi, hst⟩ := hc
      rw [hdispatch hi hst,
        dispatch_ext (K := lcpSink) _ _ _ (by decide) (lcpExtCode_heard id _ hlen hmagic)]
      exact ⟨⟨h.lcp, h.ipcp, h.chap⟩, rfl⟩
    rename_i hheard
    refine Reached.done ?_
    rw [input_congr_up (s := s) (lcp_course s.lcpView).fsm p n (P := fun _ => False)
      (fun _ _ h => h) (fun _ _ h => h) (fun _ _ _ _ h => h) (fun _ _ _ h => h)
      (fun _ h => h.elim) fun c _ _ hc hag => by
        rw [hhead] at hc
        cases hc
        exact ha hag]
    refine input_course (lcp_course s.lcpView) p n (fun c i l hc => ?_) ⟨h, Deeds.refl _⟩
    rw [hhead] at hc
    cases hc
    show Reached s.lcpView (lcpExtCode code id (p.drop HEADERLEN) len s).2
    have hself : Reached s.lcpView s := ⟨h, Deeds.refl _⟩
    unfold lcpExtCode
    repeat' split
    · exact hself
    · rename_i hc hs
      exact absurd ⟨hc, hs⟩ hping
    · exact hself
    · exact hself
    · rename_i hc hbad
      obtain ⟨hlen, hmagic⟩ := not_or.mp hbad
      exact absurd ⟨hc, Nat.not_lt.mp hlen, hmagic, not_or.mp hdead⟩ hheard
    · exact hself

/-! ## 5. Every event -/

theorem input_lcp {packet : Bytes} {len : Nat} (hlen : ¬ len < PPP_HDRLEN)
    (hp : (protocolOf packet len).1 = PPP_LCP) (s : Exec) :
    Exec.input packet len s =
      CPPPFsm.input lcpFsm lcpSink (protocolOf packet len).2.1 (protocolOf packet len).2.2 s := by
  have hany : beforeNetwork (protocolOf packet len).1 = true := by rw [hp]; rfl
  unfold Exec.input
  dsimp only
  rw [if_neg hlen, if_neg (fun hc => hc.1 hp), hany,
    if_neg (fun hc => absurd hc.2 (by decide))]
  unfold Exec.dispatch
  rw [if_pos hp]

theorem Reached.otherInput {packet : Bytes} {len : Nat} (h : Reached v s)
    (hp : len < PPP_HDRLEN ∨ (protocolOf packet len).1 ≠ PPP_LCP) :
    Reached v (Exec.input packet len s) := by
  have R := aside_reached v
  by_cases hlen : len < PPP_HDRLEN
  · unfold Exec.input
    rwa [if_pos hlen]
  refine input_cases packet len (fun hl => absurd (congrArg (·.1) hl) (hp.resolve_left hlen))
    (fun _ _ _ => R.ipcpInput _ _ h) (fun _ _ => ?_) (fun _ _ => ?_) (fun field n => ?_) h
  · exact (reached_auth v).rules.papInput _ _ h
  · exact (reached_auth v).rules.chapInput _ _ h
  · have hl := h.labelled.upd (g := fun f => { f with id := f.id + 1 }) fun _ => rfl
    refine ⟨hl.sendData _ _ _ _, ?_⟩
    unfold sendProtRej
    rw [lcpView_sendData hl]
    exact h.deeds.snoc (.reject field n (Or.inr rfl))

theorem lcpTimer_done (h : Labelled s) :
    LcpDone s (s.expire .lcp) (lcpEvent s (.timer .lcp)) := by
  have hself : Reached s.lcpView s := ⟨h, Deeds.refl _⟩
  unfold expire lcpEvent
  dsimp only
  by_cases ht : s.lcp.fsm.timer = true
  · rw [if_pos ht]
    split
    · rename_i hc
      obtain ⟨hl, hview⟩ := timeout_resend h hc.2.1 hc.2.2
      exact ⟨hl, hc.2.1, hview⟩
    · rename_i hc
      refine Reached.done ?_
      have hsame : timeout lcpFsm lcpSink s =
          timeout lcpFsm (lcpSinkWith (setState lcpFsm .stopped)) s := timeout_up _
      rw [hsame]
      exact timeout_course (lcp_course s.lcpView) (fun hn hr => absurd ⟨ht, hn, hr⟩ hc) hself
  · rw [if_neg ht, if_neg (fun hc => ht hc.1)]
    exact hself.done

theorem echoTimer_done (h : Labelled s) :
    LcpDone s (s.expire .echo) (lcpEvent s (.timer .echo)) := by
  have hself : Reached s.lcpView s := ⟨h, Deeds.refl _⟩
  unfold expire lcpEvent
  dsimp only
  by_cases ht : s.lcp.echoTimer = true
  · rw [if_pos ht, if_pos ht]
    split
    · rename_i hfail
      have hgone : Reached s.lcpView (lcpLinkFailure s) ∧
          (lcpLinkFailure s).lcp.fsm.state ≠ .opened := by
        unfold lcpLinkFailure
        split
        · exact ⟨hself.close _, close_not_opened _ _⟩
        · rename_i hs
          exact ⟨hself, hs⟩
      unfold sendEchoRequest
      rw [if_pos hfail]
      generalize lcpLinkFailure s = t at hgone ⊢
      obtain ⟨ht, hs⟩ := hgone
      rw [if_neg hs]
      have hl := ht.labelled
      exact ⟨⟨hl.lcp, hl.ipcp, hl.chap⟩, t.lcpView, ht.deeds, hs, rfl⟩
    · rename_i hfail
      split
      · rename_i hs
        obtain ⟨hl, hview⟩ := sendEchoRequest_ping h hs hfail
        exact ⟨hl, hs, hfail, hview⟩
      · rename_i hs
        unfold sendEchoRequest
        rw [if_neg hfail, if_neg hs]
        exact hself.done
  · rw [if_neg ht, if_neg ht]
    exact hself.done

/-- **What an event does to LCP.** -/
theorem step_lcp (h : Labelled s) (e : Event) : LcpDone s (step s e) (lcpEvent s e) := by
  have R := aside_reached s.lcpView
  have Q := (reached_auth s.lcpView).rules
  have hself : Reached s.lcpView s := ⟨h, Deeds.refl _⟩
  have fires : ∀ {b : Bool} {t : Exec}, Reached s.lcpView t →
      LcpDone s (if b then t else s) .plain := by
    intro b t ht
    split
    · exact ht.done
    · exact hself.done
  cases e with
  | response k r => exact (Q.response k r hself).done
  | timer t =>
    cases t with
    | lcp => exact lcpTimer_done h
    | echo => exact echoTimer_done h
    | ipcp => exact fires (R.ipcpTimeout hself)
    | pap => exact fires (Q.papTimer hself)
    | chap => exact fires (Q.challenger.chapHandleTimeout hself)
  | input packet len =>
    show LcpDone s (Exec.input packet len s) (Option.elim
      (if len < PPP_HDRLEN ∨ (protocolOf packet len).1 ≠ PPP_LCP then none else _) .plain _)
    split
    · rename_i hp
      exact (hself.otherInput hp).done
    rename_i hp
    obtain ⟨hlen, hp⟩ := not_or.mp hp
    rw [not_not] at hp
    rw [input_lcp hlen hp]
    cases hhead : header (protocolOf packet len).2.1 (protocolOf packet len).2.2 with
    | none =>
      unfold CPPPFsm.input
      rw [hhead]
      exact hself.done
    | some hd => exact lcpInput_done h hhead

/-! ## 6. The start -/

/-- A session as `start` makes it, with other numbers for the echo requests: the constructor of
    LCP gives 5 and 20, and nothing in the source sets them. -/
def startEcho (c : Config) (fails interval : Nat) : Exec :=
  lcpOpen (pppInit
    { lcp := { authType := c.authType, echoFails := fails, echoInterval := interval },
      hostName := c.hostName, sessionid := c.sessionid, clientEth := c.clientEth, rand := c.rand,
      intfIp := c.intfIp, intfMac := c.intfMac })

theorem startEcho_default (c : Config) : startEcho c 5 20 = start c := rfl

/-- LCP before it is opened. -/
def newborn (authType : UInt16) (fails interval : Nat) : LcpView where
  lcp :=
    { authType := authType, echoFails := fails, echoInterval := interval,
      wo := LcpOptions.want authType, ao := LcpOptions.allow authType, peerMru := 0 }
  log := []
  marked := false

/-- **A session starts with deeds of LCP.** -/
theorem startEcho_reached (c : Config) (fails interval : Nat) :
    Reached (newborn c.authType fails interval) (startEcho c fails interval) := by
  refine fsmOpen_course (lcpLayer_course _) ((lcpCi_course _).calm (fun _ => ⟨rfl, rfl, rfl, rfl⟩) ?_)
  unfold pppInit
  dsimp only
  split <;> exact ⟨⟨rfl, rfl, Or.inl rfl⟩, Deeds.refl _⟩

theorem start_reached (c : Config) : Reached (newborn c.authType 5 20) (start c) :=
  startEcho_reached c 5 20

end Exec

end OpenBras
