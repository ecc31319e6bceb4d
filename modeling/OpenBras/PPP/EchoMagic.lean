/-
  File:      OpenBras/PPP/EchoMagic.lean
  Subject:   THE MAGIC NUMBER OF THE ECHO PACKETS, against the one the peer has acknowledged.

  While LCP is open the peer has acknowledged the options of our last Configure-Request. The
  magic number in force is the one in that request, or 0 if it has none; `EchoesTrue` says of
  the packets sent that every Echo-Request and Echo-Reply begins with it.

  LCP writes `m_magicnumber` into its echo packets, and only `Resetci` sets that. A Nak of the
  magic number that is taken puts another number into the next request, a Reject takes the option
  out; neither touches `m_magicnumber`. So the echo packets are right exactly if LCP comes up with
  `m_magicnumber` being the number asked for. An Echo-Reply is cut to the length of the
  Echo-Request: one of less than four bytes carries no magic number at all.

  * `magicOf_addci` -- the magic number of a request, read off the packet;
  * `Magical.deed` -- what every deed keeps;
  * **`echoes_true_iff`** -- throughout a run the echo packets are right if and only if every
    event is.
-/
import OpenBras.PPP.Keepalive
import OpenBras.PPP.Requests

namespace OpenBras

open Wire CPPPFsm

/-! ## 1. Magic numbers on the wire -/

/-- The magic number in the options of a request; 0 if there is none. -/
def magicOf (body : Bytes) : UInt32 :=
  ((optionBytes body).find? fun o => byteAt o 0 == CI_MAGICNUMBER).elim 0 fun o => getLong o 2

/-- The magic number in force. -/
def LcpOptions.magic (go : LcpOptions) : UInt32 := if go.negMagicnumber then go.magicnumber else 0

/-- **The magic number of our request** is the one of its options. -/
theorem magicOf_addci (go : LcpOptions) : magicOf go.addci = go.magic := by
  unfold magicOf
  rw [LcpOptions.addci_eq, Menu.find?_offers]
  -- only one kind of option has this type
  have hkind : (fun k => go.sent k && LcpOptions.menu.opt k == CI_MAGICNUMBER) =
      fun k => k == .magic && go.negMagicnumber := by
    funext k
    cases k <;> exact Bool.and_comm _ _
  rw [hkind]
  unfold LcpOptions.magic
  cases go.negMagicnumber with
  | false => rfl
  | true =>
    exact (congrArg (getLong · 0) (List.append_nil (putLong go.magicnumber))).symm.trans
      (getLong_putLong go.magicnumber [])

/-! ## 2. The echo packets sent -/

/-- The magic number asked for in the last Configure-Request of a log, newest packet first. -/
def askedMagic (log : List Bytes) : UInt32 :=
  (log.find? fun p => packetCode p == CONFREQ).elim 0 fun p => magicOf (packetBody p)

/-- **Every Echo-Request and Echo-Reply carries the magic number** that our last Configure-Request
    before it asked for. -/
def EchoesTrue : List Bytes → Prop
  | [] => True
  | p :: log =>
    (packetCode p = ECHOREQ ∨ packetCode p = ECHOREP →
      (packetBody p).take 4 = putLong (askedMagic log)) ∧ EchoesTrue log

instance EchoesTrue.decidable : ∀ log, Decidable (EchoesTrue log)
  | [] => isTrue trivial
  | _ :: log =>
    have := EchoesTrue.decidable log
    inferInstanceAs (Decidable (_ ∧ _))

theorem EchoesTrue.of_append {new log : List Bytes} (h : EchoesTrue (new ++ log)) :
    EchoesTrue log := by
  induction new with
  | nil => exact h
  | cons p new ih => exact ih h.2

theorem EchoesTrue.of_suffix {log log' : List Bytes} (hs : log <:+ log') (h : EchoesTrue log') :
    EchoesTrue log := by
  obtain ⟨new, rfl⟩ := hs
  exact h.of_append

/-- What holds of LCP between two events. -/
structure Magical (v : LcpView) : Prop where
  log : EchoesTrue v.log
  /-- the request that is out asks for what `go` says -/
  asked : v.marked = false → v.state.negotiating = true ∨ v.state = .opened →
    askedMagic v.log = v.lcp.go.magic
  /-- the echo packets will say the same -/
  opened : v.marked = false → v.state = .opened → v.lcp.magicnumber = v.lcp.go.magic

namespace Magical

variable {v w : LcpView}

theorem send (h : Magical v) {code : UInt8} (id : UInt8) (data : Bytes) (n : Nat)
    (hc : code ≠ CONFREQ ∧ code ≠ ECHOREQ ∧ code ≠ ECHOREP) :
    Magical (v.send code id data n) := by
  unfold LcpView.send
  split
  · exact h
  have hasked : askedMagic (controlPacket PPP_LCP code id data n :: v.log) = askedMagic v.log := by
    unfold askedMagic
    rw [List.find?_cons_of_neg]
    rw [packetCode_controlPacket, beq_iff_eq]
    exact hc.1
  refine ⟨⟨fun hecho => ?_, h.log⟩, fun hm hs => hasked.trans (h.asked hm hs), h.opened⟩
  exact absurd hecho (not_or.mpr hc.2)

theorem of_request (h : EchoesTrue v.log) (id : UInt8) (hlog : w.log = (v.send CONFREQ id
      v.lcp.go.addci (min v.lcp.go.cilen (PPP_MRU - HEADERLEN))).log)
    (hgo : w.lcp.go = v.lcp.go) (hm : w.marked = v.marked) (hs : w.state ≠ .opened) : Magical w := by
  cases hv : v.marked with
  | true =>
    have hsame : w.log = v.log := by
      rw [hlog]
      unfold LcpView.send
      rw [hv]
      rfl
    exact ⟨hsame ▸ h, fun hw => absurd (hm.symm.trans hw) (by rw [hv]; decide),
      fun _ ho => absurd ho hs⟩
  | false =>
    rw [LcpView.log_send _ _ _ _ hv] at hlog
    refine ⟨?_, fun _ _ => ?_, fun _ ho => absurd ho hs⟩
    · rw [hlog]
      refine ⟨fun hecho => ?_, h⟩
      rw [packetCode_controlPacket] at hecho
      exact absurd hecho (by decide)
    · rw [hlog, hgo]
      show magicOf (packetBody _) = _
      rw [packetBody_controlPacket, LcpOptions.take_addci, magicOf_addci]

theorem of_resting (h : EchoesTrue v.log) (hs : v.state.resting = true) : Magical v := by
  have ho : v.state ≠ .opened := by
    intro e
    rw [e] at hs
    cases hs
  refine ⟨h, fun _ hn => ?_, fun _ e => absurd e ho⟩
  rw [FsmState.negotiating_of_resting hs] at hn
  exact absurd hn (not_or.mpr ⟨Bool.false_ne_true, ho⟩)

theorem of_marked (h : EchoesTrue v.log) (hm : v.marked = true) : Magical v :=
  ⟨h, fun hm' => absurd (hm.symm.trans hm') (by decide),
    fun hm' => absurd (hm.symm.trans hm') (by decide)⟩

theorem withFsm (h : Magical v) {f : CPPPFsm} (hs : f.state = v.state) : Magical (v.withFsm f) := by
  refine ⟨h.log, fun hm hq => h.asked hm ?_, fun hm ho => h.opened hm ?_⟩
  · rwa [LcpView.state_withFsm, hs] at hq
  · rwa [LcpView.state_withFsm, hs] at ho

theorem negotiating_ne_opened {q : FsmState} (h : q.negotiating = true) : q ≠ .opened := by
  rintro rfl
  cases h

theorem deed (hd : Deed v w) (h : Magical v) : Magical w := by
  cases hd with
  | calm hf => exact h.withFsm hf.state
  | rest hq hv => exact of_resting h.log hq
  | shift hq hv =>
    exact ⟨h.log, fun hm _ => h.asked hm (Or.inl hv),
      fun _ ho => absurd ho (negotiating_ne_opened hq)⟩
  | answer id data n hc =>
    refine h.send id data n ?_
    simp only [isAnswer, Bool.or_eq_true, beq_iff_eq] at hc
    rcases hc with ((rfl | rfl) | rfl) | rfl <;> decide
  | reject data n hc =>
    refine Magical.send ?_ _ data n ?_
    · exact h.withFsm rfl
    · rcases hc with rfl | rfl <;> decide
  | termReq data n hs =>
    refine Magical.send ?_ _ data n (by decide)
    exact h.withFsm rfl
  | fresh magic hs =>
    refine of_request (v := ({ v with lcp := LcpView.resetLcp magic v.lcp } : LcpView).withFsm _)
      h.log _ rfl ?_ ?_ (show FsmState.reqSent ≠ .opened by decide)
    · show (LcpView.request _).lcp.go = _
      rw [LcpView.lcp_request]
      rfl
    · show (LcpView.request _).marked = _
      rw [LcpView.marked_request]
      rfl
  | renew hgo hs =>
    rename_i go
    refine of_request (v := (v.withGo go).withFsm { v.lcp.fsm with
      id := v.lcp.fsm.id + 1, reqid := v.lcp.fsm.id + 1 }) h.log (v.lcp.fsm.id + 1) rfl ?_ ?_ ?_
    · rw [LcpView.lcp_request]
      rfl
    · rw [LcpView.marked_request]
      rfl
    · rw [LcpView.state_request]
      exact negotiating_ne_opened hs
  | take hgo hs => exact of_resting h.log hs
  | fall hf hw => exact of_marked (hf.log ▸ h.log) hf.marked
  | mark => exact of_marked h.log rfl

theorem deeds (hd : Deeds v w) (h : Magical v) : Magical w := hd.keeps deed h

end Magical

/-! ## 3. Coming up and the echo packets -/

theorem putLong_inj {a b : UInt32} (h : putLong a = putLong b) : a = b := by
  rw [← getLong_putLong a [], ← getLong_putLong b [], h]

/-- An echo packet is right exactly if it has its four bytes and they are the number in force. -/
theorem echoesTrue_cons_iff {code : UInt8} (hc : code = ECHOREQ ∨ code = ECHOREP) (id : UInt8)
    (magic : UInt32) (rest : Bytes) (n : Nat) (log : List Bytes) :
    EchoesTrue (controlPacket PPP_LCP code id (putLong magic ++ rest) n :: log) ↔
      (4 ≤ n ∧ magic = askedMagic log) ∧ EchoesTrue log := by
  refine and_congr_left' ?_
  rw [packetCode_controlPacket, packetBody_controlPacket]
  have hlen : (putLong magic).length = 4 := rfl
  have htake : (List.take (min n (PPP_MRU - HEADERLEN)) (putLong magic ++ rest)).take 4 =
      (putLong magic).take n := by
    rw [List.take_take, show min 4 (min n (PPP_MRU - HEADERLEN)) = min n 4 by
      rw [show PPP_MRU - HEADERLEN = 1496 from rfl]; omega,
      List.take_append_of_le_length (by rw [hlen]; exact Nat.min_le_right n 4), ← hlen,
      ← List.take_eq_take_min]
  rw [htake]
  constructor
  · intro h
    have heq := h hc
    have hn : 4 ≤ n := by
      have hl := congrArg List.length heq
      rw [List.length_take, hlen, show (putLong (askedMagic log)).length = 4 from rfl] at hl
      omega
    rw [List.take_of_length_le (by rw [hlen]; exact hn)] at heq
    exact ⟨hn, putLong_inj heq⟩
  · rintro ⟨hn, rfl⟩ -
    exact List.take_of_length_le (by rw [hlen]; exact hn)

theorem LcpOptions.magic_settled (go : LcpOptions) : go.settled.magic = go.magic := by
  unfold settled magic
  cases h : go.negMagicnumber <;> simp [h]

namespace Exec

/-- The event lets the echo packets be right: LCP comes up with the number that was asked for,
    and an Echo-Request has room for one. A marked session sends nothing. -/
def Truthful (v : LcpView) (e : LcpEvent) : Prop :=
  v.marked = false →
    match e with
    | .rise => v.lcp.magicnumber = v.lcp.go.magic
    | .pong _ _ len => 4 ≤ len
    | _ => True

/-- Where LCP has come up: the first Echo-Request is right exactly if its number is. -/
theorem magical_risen {v : LcpView} (h : Magical v) (hn : v.state.negotiating = true)
    (hi : v.lcp.echoInterval ≠ 0) :
    (Truthful v .rise → Magical v.risen) ∧ (EchoesTrue v.risen.log → Truthful v .rise) := by
  obtain ⟨hgo, -, hnum, hmark⟩ := v.risen_keeps
  cases hm : v.marked with
  | true =>
    have hsame : v.risen.log = v.log := by
      unfold LcpView.risen LcpView.ping LcpView.send
      rw [hm, if_pos hi]
      rfl
    refine ⟨fun _ => .of_marked (hsame ▸ h.log) (hmark.trans hm), fun _ hm' => ?_⟩
    rw [hm] at hm'
    cases hm'
  | false =>
    have hlog := log_risen hi hm
    have hasked := h.asked hm (Or.inl hn)
    have hcons := echoesTrue_cons_iff (Or.inl rfl) 0 v.lcp.magicnumber [] 4 v.log
    rw [List.append_nil, hasked] at hcons
    refine ⟨fun ht => ⟨?_, fun _ _ => ?_, fun _ _ => ?_⟩, fun hw _ => ?_⟩
    · rw [hlog]
      exact hcons.mpr ⟨⟨Nat.le_refl 4, ht hm⟩, h.log⟩
    · rw [hlog, hgo, LcpOptions.magic_settled, ← hasked]
      rfl
    · rw [hnum, hgo, LcpOptions.magic_settled]
      exact ht hm
    · rw [hlog] at hw
      exact (hcons.mp hw).1.2

/-- While LCP is open: an echo packet is right exactly if it has its four bytes. -/
theorem magical_echo {v : LcpView} (h : Magical v) (hv : v.state = .opened) {code : UInt8}
    (hc : code = ECHOREQ ∨ code = ECHOREP) (id : UInt8) (rest : Bytes) (n : Nat) :
    ((v.marked = false → 4 ≤ n) →
      Magical (v.send code id (putLong v.lcp.magicnumber ++ rest) n)) ∧
    (EchoesTrue (v.send code id (putLong v.lcp.magicnumber ++ rest) n).log →
      v.marked = false → 4 ≤ n) := by
  cases hm : v.marked with
  | true =>
    have hsame : v.send code id (putLong v.lcp.magicnumber ++ rest) n = v := by
      unfold LcpView.send
      rw [hm]
      rfl
    rw [hsame]
    exact ⟨fun _ => h, fun _ hm' => by cases hm'⟩
  | false =>
    have hasked := h.asked hm (Or.inr hv)
    have hcons := echoesTrue_cons_iff hc id v.lcp.magicnumber rest n v.log
    have hsent := LcpView.log_send code id (putLong v.lcp.magicnumber ++ rest) n hm
    refine ⟨fun hn => ⟨?_, fun _ _ => ?_, fun _ _ => ?_⟩, fun hw _ => ?_⟩
    · rw [hsent]
      exact hcons.mpr ⟨⟨hn rfl, (h.opened hm hv).trans hasked.symm⟩, h.log⟩
    · rw [hsent, LcpView.send_lcp, ← hasked]
      unfold askedMagic
      rw [List.find?_cons_of_neg]
      rw [packetCode_controlPacket, beq_iff_eq]
      rcases hc with rfl | rfl <;> decide
    · rw [LcpView.send_lcp]
      exact h.opened hm hv
    · rw [hsent] at hw
      exact (hcons.mp hw).1.1

theorem magical_step {v w : LcpView} {e : LcpEvent} (h : Magical v) (hi : v.lcp.echoInterval ≠ 0)
    (hstep : LcpStep v w e) :
    (Truthful v e → Magical w) ∧ (EchoesTrue w.log → Truthful v e) := by
  cases e with
  | plain => exact ⟨fun _ => h.deeds hstep, fun _ _ => trivial⟩
  | resend =>
    obtain ⟨hneg, rfl⟩ := hstep
    refine ⟨fun _ => ?_, fun _ _ => trivial⟩
    refine Magical.of_request (v := v) h.log v.lcp.fsm.reqid rfl ?_ ?_ ?_
    · show (v.send _ _ _ _).lcp.go = _
      rw [LcpView.send_lcp]
    · show (v.send _ _ _ _).marked = _
      rw [LcpView.send_marked]
    show (if v.state = .ackRcvd then FsmState.reqSent else v.state) ≠ .opened
    split
    · decide
    · exact Magical.negotiating_ne_opened hneg
  | rise =>
    obtain ⟨u, f, hu, hf, hneg, hd⟩ := hstep
    have hlcp : u.lcp = v.lcp ∧ u.marked = v.marked ∧ Magical u := by
      rcases hu with rfl | ⟨id, data, n, rfl⟩
      · exact ⟨rfl, rfl, h⟩
      · exact ⟨LcpView.send_lcp _ _ _ _ v, LcpView.send_marked _ _ _ _ v,
          h.send id data n (by decide)⟩
    obtain ⟨hlcp, hmark, hu⟩ := hlcp
    have hsame : Truthful (u.withFsm f) .rise ↔ Truthful v .rise := by
      unfold Truthful
      show (u.marked = false → u.lcp.magicnumber = u.lcp.go.magic) ↔ _
      rw [hlcp, hmark]
    obtain ⟨hok, hbad⟩ := magical_risen (v := u.withFsm f) (hu.withFsm hf.state)
      (by rw [LcpView.state_withFsm, hf.state, hlcp]; exact hneg)
      (by show u.lcp.echoInterval ≠ 0; rw [hlcp]; exact hi)
    exact ⟨fun ht => (hok (hsame.mpr ht)).deeds hd,
      fun hw => hsame.mp (hbad (hw.of_suffix hd.log_suffix))⟩
  | ping =>
    obtain ⟨hv, -, rfl⟩ := hstep
    have hsent := (magical_echo h hv (Or.inl rfl) (UInt8.ofNat v.lcp.echoNumber) [] 4).1
      fun _ => Nat.le_refl 4
    exact ⟨fun _ => ⟨hsent.log, hsent.asked, hsent.opened⟩, fun _ _ => trivial⟩
  | fail =>
    obtain ⟨u, hd, hs, rfl⟩ := hstep
    have hu := h.deeds hd
    exact ⟨fun _ => ⟨hu.log, hu.asked, hu.opened⟩, fun _ _ => trivial⟩
  | pong ident inp len =>
    obtain ⟨hv, rfl⟩ := hstep
    exact magical_echo h hv (Or.inr rfl) ident (inp.drop 4) len
  | heard =>
    obtain rfl : w = v.answered := hstep
    exact ⟨fun _ => ⟨h.log, h.asked, h.opened⟩, fun _ _ => trivial⟩

/-- What holds of a session between two events. -/
structure MagicKept (s : Exec) : Prop where
  labelled : Labelled s
  kept : Kept 5 20 s.lcpView
  magical : Magical s.lcpView

theorem magicKept_start (c : Config) : MagicKept (start c) := by
  have hr := start_reached c
  have hborn : Magical (newborn c.authType 5 20) := .of_resting trivial rfl
  exact ⟨hr.labelled, (watched_start c 5 20).kept, hborn.deeds hr.deeds⟩

theorem MagicKept.pings {s : Exec} (h : MagicKept s) : s.lcpView.lcp.echoInterval ≠ 0 := by
  rw [show s.lcpView.lcp.echoInterval = 20 from h.kept.interval]
  decide

/-- The condition for the echo packets: LCP comes up only with `m_magicnumber` being the number
    its last request asked for, and no Echo-Request of less than four bytes comes while it is
    open. -/
def echoOk (s : Exec) (e : Event) : Prop := Truthful s.lcpView (lcpEvent s e)

/-- **The magic number of the echo packets.** -/
theorem echoes_true_iff (c : Config) (es : List Event) :
    Throughout step (fun s => EchoesTrue (s.protocolLog PPP_LCP)) (start c) es ↔
      Along step echoOk (start c) es := by
  refine throughout_iff_along (I := MagicKept) (fun s e h hok => ?_) (fun s h => h.magical.log)
    (fun s e h hp => ?_) (magicKept_start c) es
  · obtain ⟨hl, hstep⟩ := step_lcp h.labelled e
    exact ⟨hl, (beats_of_step (by decide) (by decide) h.kept hstep).kept,
      (magical_step h.magical h.pings hstep).1 hok⟩
  · obtain ⟨hl, hstep⟩ := step_lcp h.labelled e
    exact (magical_step h.magical h.pings hstep).2 hp

/-- The peer Naks our magic number 0 and acknowledges the request that asks for 1: the first
    Echo-Request carries 0. Rejected, the number is still in the echo packets of a run whose
    numbers are not 0. And an Echo-Request of two bytes is answered with two. -/
theorem nakked_magic_not_echoed :
    ¬ EchoesTrue ((run step (start (.sample PPP_PAP))
      [.control PPP_LCP CONFNAK 1 [5, 6, 0, 0, 0, 7],
       .control PPP_LCP CONFACK 2 [1, 4, 5, 212, 3, 4, 192, 35, 5, 6, 0, 0, 0, 1],
       .control PPP_LCP CONFREQ 1 []]).protocolLog PPP_LCP) ∧
    ¬ EchoesTrue ((run step (start { Config.sample PPP_PAP with rand := fun _ => 9 })
      [.control PPP_LCP CONFREJ 1 [5, 6, 0, 0, 0, 9],
       .control PPP_LCP CONFACK 2 [1, 4, 5, 212, 3, 4, 192, 35],
       .control PPP_LCP CONFREQ 1 []]).protocolLog PPP_LCP) ∧
    ¬ EchoesTrue ((run step (start (.sample PPP_PAP))
      (Event.papRequested ++ [.control PPP_LCP ECHOREQ 1 [1, 2]])).protocolLog PPP_LCP) := by
  decide +kernel

end Exec

end OpenBras
