/-
  File:      OpenBras/PPP/FsmRun.lean
  Subject:   RUNS OF THE AUTOMATON ALONE: any events, any packets, any answers of the sink.

  The owner is reduced to what it answers. `Answers` fixes, for one event, the verdicts of
  `Ackci`, `Nakci`, `Rejci`, `Reqci` and `ExtCode`, the option bytes of `Cilen`/`Addci`, and
  which of the calls back into the automaton the owners of this program make from inside a
  callback (`Starting` to `LowerUp`, `Finished` to `LowerDown`, `Up` and `Nakci` to `Close`).
  The world keeps the automaton and a log of what passed between it and the owner and the peer,
  newest first.

  **Notifications.** `up_down_paired_iff`: `Up` and `Down` alternate and match the state
  `OPENED` along a run if and only if `Close` is never called while the automaton negotiates.
  `TerminateLayer` delivers `Down` there although no `Up` went before.

  **Agreement.** `opened_agreed`: in every run, a state `OPENED` has our last
  Configure-Request acknowledged under its id, after it was sent, with a body `Ackci` accepted,
  and the peer's last Configure-Request answered by a Configure-Ack of ours.

  **Late answers.** `acked_states_seen`: in every run, `ACKRCVD` and `OPENED` have `m_seen_ack`
  set, so a further Ack, Nak or Reject never gets to the switches that would start over there.
-/
import OpenBras.Lib.Alternation
import OpenBras.Lib.Run
import OpenBras.PPP.FsmRules

namespace OpenBras

open Wire
open FsmState (resting stand)

/-! ## 1. The world of one automaton -/

/-- What passes between the automaton, its owner and the peer. -/
inductive Note where
  | up | down
  | sent (code id : UInt8) (data : Bytes)
  | rcvd (code id : UInt8) (body : Bytes)
  | ackci (body : Bytes) (ok : Bool)
  deriving DecidableEq, Repr

structure FsmWorld where
  fsm : CPPPFsm
  log : List Note := []
  deriving DecidableEq, Repr

namespace FsmWorld

def note (n : Note) (w : FsmWorld) : FsmWorld := { w with log := n :: w.log }

/-- The place of the automaton. -/
def lens : Lens FsmWorld CPPPFsm where
  get w := w.fsm
  set f w := { w with fsm := f }
  get_set _ _ := rfl
  set_set _ _ _ := rfl
  set_get _ := rfl

end FsmWorld

/-- The verdicts `Reqci` may return. -/
inductive Verdict where
  | ack | nak | rej | all
  deriving DecidableEq, Repr

def Verdict.code : Verdict → Int
  | .ack => confAck
  | .nak => confNak
  | .rej => confRej
  | .all => -1

/-- The owner's part in one event. -/
structure Answers where
  cilen : Nat := 0
  addci : Bytes × Nat := ([], 0)
  ackci : Bool := true
  nakci : Int := 1
  rejci : Int := 1
  reqci : Verdict × Bytes := (.ack, [])
  extCode : Bool := true
  /-- `Starting` calls `LowerUp` -/
  startingLowerUp : Bool := false
  /-- `Finished` calls `LowerDown` -/
  finishedLowerDown : Bool := false
  /-- `Up` calls `Close` -/
  upClose : Option String := none
  /-- `Nakci` calls `Close` -/
  nakClose : Option String := none
  deriving DecidableEq, Repr

namespace Answers

open FsmWorld

/-- A packet handed to `OutputPacket`, logged by its code, id and data. -/
def ciSink (a : Answers) : CiSink FsmWorld where
  resetci w := w
  cilen w := (a.cilen, w)
  addci _ w := (a.addci, w)
  outputPacket p w := w.note (.sent (byteAt p 4) (byteAt p 5) (p.drop 8))

def layerSink (a : Answers) : LayerSink FsmWorld where
  toCiSink := a.ciSink
  starting w := if a.startingLowerUp then CPPPFsm.lowerUp lens a.ciSink w else w
  down w := w.note .down

def closeSink (a : Answers) : CloseSink FsmWorld where
  toLayerSink := a.layerSink
  finished w := if a.finishedLowerDown then CPPPFsm.lowerDown lens a.layerSink w else w

def callClose (a : Answers) (reason : Option String) (w : FsmWorld) : FsmWorld :=
  match reason with
  | some r => CPPPFsm.close lens a.closeSink r w
  | none => w

def sink (a : Answers) : IFsmSink FsmWorld where
  toCloseSink := a.closeSink
  ackci p n w := (a.ackci, w.note (.ackci (p.take n) a.ackci))
  nakci _ _ _ w := (a.nakci, a.callClose a.nakClose w)
  rejci _ _ w := (a.rejci, w)
  reqci _ _ _ w := ((a.reqci.1.code, a.reqci.2), w)
  up w := a.callClose a.upClose (w.note .up)
  retransmit w := w
  extCode _ _ _ _ w := (a.extCode, w)

end Answers

inductive FsmEvent where
  | openLink
  | close (reason : String)
  | lowerUp
  | lowerDown
  | timeout
  | protReject
  | input (inpacket : Bytes) (l : Nat)
  deriving DecidableEq, Repr

namespace FsmWorld

/-- A packet with a sound header is logged as received before the automaton acts on it. -/
def receive (inpacket : Bytes) (l : Nat) (w : FsmWorld) : FsmWorld :=
  match CPPPFsm.header inpacket l with
  | some (code, id, len) => w.note (.rcvd code id ((inpacket.drop HEADERLEN).take len))
  | none => w

def step (w : FsmWorld) : FsmEvent × Answers → FsmWorld
  | (.openLink, a) => CPPPFsm.fsmOpen lens a.layerSink w
  | (.close reason, a) => CPPPFsm.close lens a.closeSink reason w
  | (.lowerUp, a) => CPPPFsm.lowerUp lens a.ciSink w
  | (.lowerDown, a) => CPPPFsm.lowerDown lens a.layerSink w
  | (.timeout, a) => CPPPFsm.timeout lens a.sink w
  | (.protReject, a) => CPPPFsm.protReject lens a.sink w
  | (.input inpacket l, a) => CPPPFsm.input lens a.sink inpacket l (receive inpacket l w)

@[simp] theorem fsm_note (n : Note) (w : FsmWorld) : (w.note n).fsm = w.fsm := rfl

@[simp] theorem log_note (n : Note) (w : FsmWorld) : (w.note n).log = n :: w.log := rfl

@[simp] theorem lens_get (w : FsmWorld) : lens.get w = w.fsm := rfl

@[simp] theorem fsm_upd (g : CPPPFsm → CPPPFsm) (w : FsmWorld) : (lens.upd g w).fsm = g w.fsm := rfl

theorem fsm_receive (inpacket : Bytes) (l : Nat) (w : FsmWorld) :
    (receive inpacket l w).fsm = w.fsm := by
  unfold receive
  split <;> rfl

end FsmWorld

/-! ## 2. `Up` and `Down` -/

/-- The notifications in the log: `Up` is `true`, `Down` is `false`. -/
def Note.notification : Note → Option Bool
  | .up => some true
  | .down => some false
  | _ => none

namespace FsmWorld

def notifications (w : FsmWorld) : List Bool := w.log.filterMap Note.notification

/-- `Up` and `Down` alternate, begin with `Up`, the last one is an `Up` exactly in `OPENED`, and
    there is one `Down` for each `Up` whose `OPENED` has been left. -/
def Paired (w : FsmWorld) : Prop :=
  Alternates w.notifications ∧ (w.fsm.state = .opened ↔ Pending w.notifications) ∧
    w.notifications.count true =
      w.notifications.count false + if w.fsm.state = .opened then 1 else 0

instance (w : FsmWorld) : Decidable w.Paired := inferInstanceAs (Decidable (_ ∧ _ ∧ _))

/-- The event calls `Close`: from outside, or from `Nakci` when a Configure-Nak of the current
    request reaches it. -/
def Closes (w : FsmWorld) : FsmEvent × Answers → Prop
  | (.close _, _) => True
  | (.input inpacket l, a) =>
    a.nakClose ≠ none ∧ CPPPFsm.NakHeard lens inpacket l w ∧
      w.fsm.state ≠ .initial ∧ w.fsm.state ≠ .starting
  | _ => False

/-- `Close` is not called while a Configure-Request of ours is on its way. -/
def CloseOk (w : FsmWorld) (e : FsmEvent × Answers) : Prop :=
  w.fsm.state.negotiating = true → ¬ w.Closes e

/-- The invariant as the automaton's owner keeps it, by where the automaton stands. -/
def Told (c : Stand) (w : FsmWorld) : Prop :=
  Alternates w.notifications ∧ (c = .up ↔ Pending w.notifications)

variable {w : FsmWorld}

/-- What `Told` says of a standing other than `up` it says of all of them. -/
theorem Told.flat {c d : Stand} (hc : c ≠ .up) (hd : d ≠ .up) (h : Told c w) : Told d w :=
  ⟨h.1, by simpa [hc, hd] using h.2⟩

theorem Told.up {c : Stand} (hc : c ≠ .up) (h : Told c w) : Told .up (w.note .up) := by
  have hp : ¬ Pending w.notifications := by simpa [hc] using h.2
  exact ⟨h.1.begin hp, by simp [notifications, Note.notification]⟩

theorem Told.down (h : Told .up w) {c : Stand} (hc : c ≠ .up) : Told c (w.note .down) := by
  have hp : Pending w.notifications := by simpa using h.2
  exact ⟨h.1.finish hp, by simp [notifications, Note.notification, hc]⟩

theorem paired_of_told (h : CPPPFsm.Inv lens Told w) : w.Paired := by
  have hst : w.fsm.state = .opened ↔ w.fsm.state.stand = .up := by
    cases w.fsm.state <;> simp [stand]
  have hp : w.fsm.state = .opened ↔ Pending w.notifications := hst.trans h.2
  refine ⟨h.1, hp, ?_⟩
  rw [h.1.count]
  simp only [hp]

end FsmWorld

namespace Answers

open FsmWorld CPPPFsm

variable (a : Answers)

theorem ciRules : CiRules lens a.ciSink Told where
  fsm _ _ _ h := h
  acked _ h := h.flat (by decide) (by decide)
  resetci _ := ⟨rfl, fun _ h => h⟩
  cilen _ := ⟨rfl, fun _ h => h⟩
  addci _ _ := ⟨rfl, fun _ h => h⟩
  outputPacket _ _ := ⟨rfl, fun _ h => h⟩

theorem layerRules : LayerRules lens a.layerSink Told where
  toCiRules := a.ciRules
  ending _ h := h.flat (by decide) (by decide)
  starting w hw h := by
    have hi : Inv lens Told w := by
      unfold CPPPFsm.Inv
      rw [hw]
      exact h
    show Inv lens Told (if a.startingLowerUp then lowerUp lens a.ciSink w else w)
    split
    · exact lowerUp_keeps a.ciRules hi
    · exact hi
  down_fsm _ := rfl
  down _ h := ⟨h.down (by decide), h.down (by decide)⟩

theorem finished_keeps {w : FsmWorld}
    (hw : (lens.get w).state = .closed ∨ (lens.get w).state = .stopped) (h : Told .idle w) :
    Inv lens Told (a.closeSink.finished w) := by
  have hi : Inv lens Told w := by
    unfold CPPPFsm.Inv
    rcases hw with hw | hw <;> rw [hw] <;> exact h
  show Inv lens Told (if a.finishedLowerDown then lowerDown lens a.layerSink w else w)
  split
  · exact lowerDown_keeps a.layerRules hi
  · exact hi

theorem closeRules : CloseRules lens a.closeSink Told where
  toLayerRules := a.layerRules
  finished _ hw h := a.finished_keeps hw (h.flat (by decide) (by decide))

theorem callClose_keeps (r : Option String) {w : FsmWorld}
    (hn : w.fsm.state.negotiating = false) (h : Inv lens Told w) :
    Inv lens Told (a.callClose r w) := by
  cases r with
  | none => exact h
  | some r =>
    refine close_keeps a.closeRules r (fun hn' => ?_) h
    rw [lens_get, hn] at hn'
    cases hn'

theorem rules : FsmRules lens a.sink Told where
  toCloseRules := a.closeRules
  ackci _ _ _ := ⟨rfl, fun _ h => h⟩
  rejci _ _ _ := ⟨rfl, fun _ h => h⟩
  retransmit _ := ⟨rfl, fun _ h => h⟩
  extCode _ _ _ _ _ := ⟨rfl, fun _ h => h⟩
  reqci_fsm _ _ _ _ := rfl
  reqci _ _ _ _ h := h
  reqci_ack _ _ _ _ h _ := h.flat (by decide) (by decide)
  up w hw h := by
    rw [lens_get] at hw
    refine a.callClose_keeps a.upClose (by rw [fsm_note, hw]; rfl) ?_
    unfold CPPPFsm.Inv
    rw [lens_get, fsm_note, hw]
    exact h.up (by decide)

end Answers

namespace FsmWorld

open CPPPFsm

variable {w : FsmWorld}

theorem step_told {e : FsmEvent × Answers} (hok : w.CloseOk e) (h : Inv lens Told w) :
    Inv lens Told (w.step e) := by
  obtain ⟨e, a⟩ := e
  cases e with
  | openLink => exact fsmOpen_keeps a.layerRules h
  | close reason =>
    refine close_keeps a.closeRules reason (fun hn => ?_) h
    exact absurd trivial (hok hn)
  | lowerUp => exact lowerUp_keeps a.ciRules h
  | lowerDown => exact lowerDown_keeps a.layerRules h
  | timeout =>
    refine timeout_keeps a.rules.toTimerRules (fun hn _ _ => ?_) h
    refine a.finished_keeps (Or.inr (by rw [get_setState])) ?_
    refine Told.flat (c := w.fsm.state.stand) ?_ (by decide) h
    rw [lens_get] at hn
    cases hq : w.fsm.state <;> rw [hq] at hn <;> first | decide | cases hn
  | protReject => exact protReject_keeps a.rules (fun _ hw ht => a.finished_keeps hw ht) h
  | input inpacket l =>
    have hr : Inv lens Told (receive inpacket l w) := by
      unfold receive
      split <;> exact h
    by_cases hq : w.fsm.state = .initial ∨ w.fsm.state = .starting
    · -- the packet is dropped
      show Inv lens Told (input lens a.sink inpacket l (receive inpacket l w))
      unfold input
      rw [lens_get, fsm_receive]
      split
      · exact hr
      · rw [if_pos hq]
        exact hr
    · refine input_keeps a.rules inpacket l (fun heard p n r t ht hi => ?_) hr
      rw [lens_get, lens_get, fsm_receive] at ht
      show Inv lens Told (a.callClose a.nakClose t)
      cases hn : a.nakClose with
      | none => exact hi
      | some reason =>
        refine a.callClose_keeps _ ?_ hi
        rw [ht, ← Bool.not_eq_true]
        intro hneg
        refine hok hneg ⟨by simp [hn], ?_, by tauto, by tauto⟩
        unfold NakHeard at heard ⊢
        simpa only [lens_get, fsm_receive] using heard

theorem finished_closed (a : Answers) (hw : w.fsm.state = .closed) :
    (a.closeSink.finished w).notifications = w.notifications ∧
      ((a.closeSink.finished w).fsm.state = .closed ∨
        (a.closeSink.finished w).fsm.state = .initial) := by
  show (if a.finishedLowerDown then lowerDown lens a.layerSink w else w).notifications = _ ∧
    ((if a.finishedLowerDown then lowerDown lens a.layerSink w else w).fsm.state = _ ∨
      (if a.finishedLowerDown then lowerDown lens a.layerSink w else w).fsm.state = _)
  split
  · unfold lowerDown
    simp only [lens_get, hw]
    exact ⟨rfl, Or.inr rfl⟩
  · exact ⟨rfl, Or.inl hw⟩

theorem terminateLayer_closing (a : Answers) (w : FsmWorld) :
    (terminateLayer lens a.closeSink .closing w).notifications = false :: w.notifications ∧
      ((terminateLayer lens a.closeSink .closing w).fsm.state = .closing ∨
        (terminateLayer lens a.closeSink .closing w).fsm.state = .closed ∨
        (terminateLayer lens a.closeSink .closing w).fsm.state = .initial) := by
  have hc : (stopTimer lens w).notifications = w.notifications := by
    unfold stopTimer
    split <;> rfl
  unfold terminateLayer
  dsimp only
  generalize stopTimer lens w = u at hc ⊢
  rw [← hc]
  split
  · exact (finished_closed a rfl).imp id Or.inr
  · exact ⟨rfl, Or.inl rfl⟩

/-- `Close` while negotiating delivers exactly one `Down`, and the automaton is then closed or
    on its way there. -/
theorem close_negotiating (a : Answers) (reason : String) (hn : w.fsm.state.negotiating = true) :
    (close lens a.closeSink reason w).notifications = false :: w.notifications ∧
      ((close lens a.closeSink reason w).fsm.state = .closing ∨
        (close lens a.closeSink reason w).fsm.state = .closed ∨
        (close lens a.closeSink reason w).fsm.state = .initial) := by
  unfold close reasoned
  simp only [lens_get, fsm_upd]
  cases hq : w.fsm.state <;> rw [hq] at hn <;>
    first | exact terminateLayer_closing a _ | cases hn

/-- A `Down` delivered in a state that is not `OPENED` breaks the pairing for good. -/
theorem not_paired_of_down {v : FsmWorld} (h : Inv lens Told w) (hq : w.fsm.state ≠ .opened)
    (hv : v.notifications = false :: w.notifications) : ¬ v.Paired := by
  intro hp
  have hst : w.fsm.state.stand ≠ .up := by
    cases hs : w.fsm.state <;> simp_all [stand]
  have hpend : ¬ Pending w.notifications := fun hw => hst (h.2.mpr hw)
  have halt := hp.1
  rw [hv] at halt
  exact hpend halt.1

theorem afterNakRej_closed (a : Answers) (id : UInt8) (ret : Int)
    (hw : w.fsm.state = .closing ∨ w.fsm.state = .closed ∨ w.fsm.state = .initial) :
    (afterNakRej lens a.sink id ret w).notifications = w.notifications := by
  unfold afterNakRej
  rcases hw with hw | hw | hw <;> simp only [lens_get, fsm_upd, hw] <;> rfl

/-- **Every `Close` while negotiating breaks the pairing.** -/
theorem closeOk_of_paired {e : FsmEvent × Answers} (h : Inv lens Told w) (hp : (w.step e).Paired) :
    w.CloseOk e := by
  obtain ⟨e, a⟩ := e
  intro hn hc
  have hne : w.fsm.state ≠ .opened := by
    intro e
    rw [e] at hn
    cases hn
  cases e with
  | close reason => exact not_paired_of_down h hne (close_negotiating a reason hn).1 hp
  | input inpacket l =>
    obtain ⟨hclose, ⟨⟨len, hhead⟩, hseen⟩, hi, hst⟩ := hc
    obtain ⟨reason, hr⟩ := Option.ne_none_iff_exists'.mp hclose
    rw [lens_get] at hhead hseen
    refine not_paired_of_down h hne ?_ hp
    have hrec : receive inpacket l w =
        w.note (.rcvd CONFNAK w.fsm.reqid ((inpacket.drop HEADERLEN).take len)) := by
      unfold receive
      rw [hhead]
    show (input lens a.sink inpacket l (receive inpacket l w)).notifications = _
    rw [hrec]
    unfold input
    rw [hhead]
    simp only [lens_get, fsm_note, hi, hst, or_self, if_false]
    show (rcvConfNakRej lens a.sink CONFNAK w.fsm.reqid (inpacket.drop HEADERLEN) len
      (w.note _)).notifications = _
    obtain ⟨hl, hs⟩ := close_negotiating a reason
      (w := lens.upd (fun f => { f with rnakloops := f.rnakloops + 1 })
        (w.note (.rcvd CONFNAK w.fsm.reqid ((inpacket.drop HEADERLEN).take len)))) hn
    have hnak : ∀ p n r v, a.sink.nakci p n r v = (a.nakci, close lens a.closeSink reason v) := by
      intro p n r v
      show (a.nakci, a.callClose a.nakClose v) = _
      rw [hr]
      rfl
    unfold rcvConfNakRej
    rw [if_neg (by simp [hseen]), if_pos rfl]
    simp only [hnak]
    split
    · exact hl
    · rw [afterNakRej_closed a _ _ hs]
      exact hl
  | _ => exact hc

/-- **`Up` and `Down` stay paired along a run if and only if no `Close` meets a negotiation**,
    for every event, packet and answer of the owner, from every automaton in `INITIAL`. -/
theorem up_down_paired_iff (f : CPPPFsm) (hf : f.state = .initial)
    (es : List (FsmEvent × Answers)) :
    Throughout step Paired { fsm := f } es ↔ Along step CloseOk { fsm := f } es := by
  refine throughout_iff_along (I := Inv lens Told) (fun w e hI hok => step_told hok hI)
    (fun w => paired_of_told) (fun w e => closeOk_of_paired) ?_ es
  unfold CPPPFsm.Inv
  rw [lens_get, hf]
  exact ⟨trivial, by simp [notifications, stand]⟩

/-- One request and one acknowledgement each way. -/
def exchange : List (FsmEvent × Answers) :=
  [(.openLink, {}), (.lowerUp, {}), (.input [1, 7, 0, 4] 4, {}), (.input [2, 1, 0, 4] 4, {})]

/-- An exchange that brings the link up and a `LowerDown` that takes it down stay paired. -/
theorem up_down_paired_exchange :
    Throughout step Paired { fsm := { protocol := 0xc021 } } (exchange.concat (.lowerDown, {})) :=
  (up_down_paired_iff { protocol := 0xc021 } rfl _).mpr
    ⟨fun _ h => h, fun _ h => h, fun _ h => h.1 rfl, fun _ h => h.1 rfl, fun _ h => h, trivial⟩

/-- **`Close` while negotiating delivers a `Down` without an `Up`.** -/
theorem close_negotiating_unpaired :
    let w := run step { fsm := { protocol := 0xc021 } } [(.openLink, {}), (.lowerUp, {})]
    w.fsm.state = .reqSent ∧ w.notifications = [] ∧
      (w.step (.close "Loopback detected", {})).notifications = [false] ∧
      ¬ (w.step (.close "Loopback detected", {})).Paired := by
  decide +kernel

end FsmWorld

/-! ## 3. Both directions are agreed in `OPENED` -/

/-- A Configure-Request of ours. -/
def Note.isRequest : Note → Bool
  | .sent code _ _ => code == CONFREQ
  | _ => false

/-- A Configure-Request of the peer. -/
def Note.isPeerRequest : Note → Bool
  | .rcvd code _ _ => code == CONFREQ
  | _ => false

/-- Our last Configure-Request has the id `id`. -/
def LastRequest (id : UInt8) (log : List Note) : Prop :=
  ∃ later d earlier, log = later ++ .sent CONFREQ id d :: earlier ∧
    ∀ n ∈ later, n.isRequest = false

/-- Our last Configure-Request has the id `id`; after it was sent a Configure-Ack with that id
    arrived, and `Ackci` accepted its body. -/
def OwnAgreed (id : UInt8) (log : List Note) : Prop :=
  ∃ later body between d earlier,
    log = later ++ .ackci body true :: .rcvd CONFACK id body ::
      (between ++ .sent CONFREQ id d :: earlier) ∧
    (∀ n ∈ later, n.isRequest = false) ∧ ∀ n ∈ between, n.isRequest = false

/-- The peer's last Configure-Request has the id `id`. -/
def LastPeerRequest (id : UInt8) (log : List Note) : Prop :=
  ∃ later body earlier, log = later ++ .rcvd CONFREQ id body :: earlier ∧
    ∀ n ∈ later, n.isPeerRequest = false

/-- The peer's last Configure-Request was answered by a Configure-Ack with its id. -/
def PeerAgreed (log : List Note) : Prop :=
  ∃ later id d between body earlier,
    log = later ++ .sent CONFACK id d :: (between ++ .rcvd CONFREQ id body :: earlier) ∧
    (∀ n ∈ later, n.isPeerRequest = false) ∧ ∀ n ∈ between, n.isPeerRequest = false

/-- What the log must hold in each state of the automaton. -/
structure Agreed (q : FsmState) (id : UInt8) (log : List Note) : Prop where
  request : q.negotiating = true → LastRequest id log
  own : q = .ackRcvd ∨ q = .opened → OwnAgreed id log
  peer : q = .ackSent ∨ q = .opened → PeerAgreed log

/-- Beside the agreement: `m_seen_ack` is set where our request stands acknowledged. -/
structure Stands (q : FsmState) (seen : Bool) (id : UInt8) (log : List Note) : Prop
    extends Agreed q id log where
  seen : q = .ackRcvd ∨ q = .opened → seen = true

theorem LastRequest.cons {id : UInt8} {log : List Note} {n : Note} (hn : n.isRequest = false)
    (h : LastRequest id log) : LastRequest id (n :: log) := by
  obtain ⟨later, d, earlier, rfl, hl⟩ := h
  exact ⟨n :: later, d, earlier, rfl, by simpa [hn] using hl⟩

theorem OwnAgreed.cons {id : UInt8} {log : List Note} {n : Note} (hn : n.isRequest = false)
    (h : OwnAgreed id log) : OwnAgreed id (n :: log) := by
  obtain ⟨later, body, between, d, earlier, rfl, hl, hb⟩ := h
  exact ⟨n :: later, body, between, d, earlier, rfl, by simpa [hn] using hl, hb⟩

theorem LastPeerRequest.cons {id : UInt8} {log : List Note} {n : Note}
    (hn : n.isPeerRequest = false) (h : LastPeerRequest id log) : LastPeerRequest id (n :: log) := by
  obtain ⟨later, body, earlier, rfl, hl⟩ := h
  exact ⟨n :: later, body, earlier, rfl, by simpa [hn] using hl⟩

theorem PeerAgreed.cons {log : List Note} {n : Note} (hn : n.isPeerRequest = false)
    (h : PeerAgreed log) : PeerAgreed (n :: log) := by
  obtain ⟨later, id, d, between, body, earlier, rfl, hl, hb⟩ := h
  exact ⟨n :: later, id, d, between, body, earlier, rfl, by simpa [hn] using hl, hb⟩

theorem LastRequest.ack {id : UInt8} {log : List Note} (body : Bytes) (h : LastRequest id log) :
    OwnAgreed id (.ackci body true :: .rcvd CONFACK id body :: log) := by
  obtain ⟨later, d, earlier, rfl, hl⟩ := h
  exact ⟨[], body, later, d, earlier, rfl, by simp, hl⟩

theorem LastPeerRequest.ack {id : UInt8} {log : List Note} (d : Bytes)
    (h : LastPeerRequest id log) : PeerAgreed (.sent CONFACK id d :: log) := by
  obtain ⟨later, body, earlier, rfl, hl⟩ := h
  exact ⟨[], id, d, later, body, earlier, rfl, by simp, hl⟩

namespace Stands

variable {q : FsmState} {b : Bool} {id : UInt8} {log : List Note}

theorem flat (hq : q.resting = true) : Stands q b id log := by
  have hq : q.negotiating = false ∧ q ≠ .ackRcvd ∧ q ≠ .ackSent ∧ q ≠ .opened := by
    cases q <;> simp_all [resting, FsmState.negotiating]
  exact ⟨⟨by simp [hq], by simp [hq], by simp [hq]⟩, by simp [hq]⟩

theorem cons {n : Note} (h : Stands q b id log) (hr : n.isRequest = false)
    (hp : n.isPeerRequest = false) : Stands q b id (n :: log) where
  request hq := (h.request hq).cons hr
  own hq := (h.own hq).cons hr
  peer hq := (h.peer hq).cons hp
  seen := h.seen

theorem reqSent (h : LastRequest id log) : Stands .reqSent b id log :=
  ⟨⟨fun _ => h, nofun, nofun⟩, nofun⟩

theorem ackSent (h : LastRequest id log) (hp : PeerAgreed log) : Stands .ackSent b id log :=
  ⟨⟨fun _ => h, nofun, fun _ => hp⟩, nofun⟩

theorem ackRcvd (hb : b = true) (h : LastRequest id log) (ho : OwnAgreed id log) :
    Stands .ackRcvd b id log :=
  ⟨⟨fun _ => h, fun _ => ho, nofun⟩, fun _ => hb⟩

theorem opened (hb : b = true) (ho : OwnAgreed id log) (hp : PeerAgreed log) :
    Stands .opened b id log :=
  ⟨⟨nofun, fun _ => ho, fun _ => hp⟩, fun _ => hb⟩

end Stands

namespace FsmWorld

open CPPPFsm

/-- The invariant of every run. -/
def Standing (w : FsmWorld) : Prop := Stands w.fsm.state w.fsm.seenAck w.fsm.reqid w.log

variable (a : Answers)

theorem sendData_eq (code id : UInt8) (data : Bytes) (n : Nat) (w : FsmWorld) :
    sendData lens a.ciSink code id data n w =
      w.note (.sent code id (data.take (min n (PPP_MRU - HEADERLEN)))) := rfl

/-- `SendConfReq` logs one Configure-Request, under the id it leaves in `m_reqid`. -/
theorem sendConfReq_log (r : Bool) (w : FsmWorld) :
    (sendConfReq lens a.ciSink r w).fsm.state = w.fsm.state ∧
      ∃ d, (sendConfReq lens a.ciSink r w).log =
        .sent CONFREQ (sendConfReq lens a.ciSink r w).fsm.reqid d :: w.log := by
  have hsame : (confReq lens a.ciSink r w).2.fsm.state = w.fsm.state ∧
      (confReq lens a.ciSink r w).2.log = w.log := by
    unfold confReq
    split <;> split <;> exact ⟨rfl, rfl⟩
  rw [sendConfReq_eq, sendData_eq]
  generalize confReq lens a.ciSink r w = x at hsame ⊢
  exact ⟨hsame.1, _, congrArg _ hsame.2⟩

theorem lastRequest_sendConfReq (r : Bool) (w : FsmWorld) :
    LastRequest (sendConfReq lens a.ciSink r w).fsm.reqid (sendConfReq lens a.ciSink r w).log := by
  obtain ⟨d, hd⟩ := (sendConfReq_log a r w).2
  exact ⟨[], d, w.log, hd, by simp⟩

variable (id : UInt8) {w : FsmWorld}

theorem peerAgreed_sendConfReq (r : Bool) (h : PeerAgreed w.log) :
    PeerAgreed (sendConfReq lens a.ciSink r w).log := by
  obtain ⟨d, hd⟩ := (sendConfReq_log a r w).2
  rw [hd]
  exact h.cons rfl

theorem lastPeerRequest_sendConfReq (r : Bool) {id : UInt8} (h : LastPeerRequest id w.log) :
    LastPeerRequest id (sendConfReq lens a.ciSink r w).log := by
  obtain ⟨d, hd⟩ := (sendConfReq_log a r w).2
  rw [hd]
  exact h.cons rfl

/-- A fresh Configure-Request and `REQSENT`: agreement starts over. -/
theorem restart_agrees (w : FsmWorld) :
    Standing (setState lens .reqSent (sendConfReq lens a.ciSink false w)) :=
  Stands.reqSent (lastRequest_sendConfReq a false w)

theorem Standing.still {g : CPPPFsm → CPPPFsm} (hg : Still g) (h : Standing w) :
    Standing (lens.upd g w) := by
  have hid : (g w.fsm).reqid = w.fsm.reqid := (congrArg CPPPFsm.reqid (hg.rest w.fsm) :)
  show Stands (g w.fsm).state (g w.fsm).seenAck (g w.fsm).reqid w.log
  rw [hg.state, hid]
  exact ⟨h.toAgreed, fun hq => hg.seen _ (h.seen hq)⟩

theorem ciStands : CiActs lens a.ciSink Standing where
  still := Standing.still
  goto hq _ := Stands.flat (FsmState.resting_of_kin hq).2
  fresh _ _ := restart_agrees a _

theorem layerStands : LayerActs lens a.layerSink Standing where
  toCiActs := ciStands a
  starts {w} _ h := by
    show Standing (if a.startingLowerUp then lowerUp lens a.ciSink w else w)
    split
    · exact (ciStands a).lowerUp h
    · exact h
  halt _ hq _ := Stands.flat (FsmState.resting_of_quiet hq)
  falls _ _ := Stands.flat rfl

theorem finished_agrees (hw : w.fsm.state = .closed ∨ w.fsm.state = .stopped) :
    Standing (a.closeSink.finished w) := by
  have hi : Standing w := by
    unfold Standing
    rcases hw with hw | hw <;> rw [hw] <;> exact Stands.flat rfl
  show Standing (if a.finishedLowerDown then lowerDown lens a.layerSink w else w)
  split
  · exact (layerStands a).lowerDown hi
  · exact hi

theorem terminateLayer_agrees {next : FsmState} (hn : next = .closing ∨ next = .stopping)
    (w : FsmWorld) : Standing (terminateLayer lens a.closeSink next w) := by
  unfold terminateLayer
  dsimp only
  generalize a.closeSink.down (stopTimer lens w) = u
  split
  · refine finished_agrees a ?_
    rcases hn with rfl | rfl
    · exact Or.inl rfl
    · exact Or.inr rfl
  · rcases hn with rfl | rfl <;> exact Stands.flat rfl

theorem close_agrees (reason : String) (h : Standing w) :
    Standing (close lens a.closeSink reason w) :=
  (ciStands a).close reason (fun _ => terminateLayer_agrees a (Or.inl rfl) _) fun _ _ => h

theorem callClose_agrees (r : Option String) (h : Standing w) :
    Standing (a.callClose r w) := by
  cases r with
  | none => exact h
  | some r => exact close_agrees a r h

/-- Resending the request in a negotiating state: what the peer was told stands, an
    acknowledgement of the earlier copy does not. -/
theorem resend_agrees (hn : w.fsm.state.negotiating = true) (h : Standing w) :
    Standing (resend lens a.sink w) := by
  have hst := (sendConfReq_log a true w).1
  have hlast := lastRequest_sendConfReq a true w
  show Standing (if (sendConfReq lens a.ciSink true w).fsm.state = .ackRcvd then _ else _)
  split
  · exact Stands.reqSent hlast
  rename_i hne
  rw [hst] at hne
  show Stands (sendConfReq lens a.ciSink true w).fsm.state _ _ _
  rw [hst]
  cases hq : w.fsm.state
  case reqSent => exact Stands.reqSent hlast
  case ackRcvd => exact absurd hq hne
  case ackSent => exact Stands.ackSent hlast (peerAgreed_sendConfReq a true (h.peer (Or.inl hq)))
  all_goals
    rw [hq] at hn
    cases hn

theorem timeout_agrees (h : Standing w) : Standing (timeout lens a.sink w) :=
  timeout_acts (fun _ _ _ hq => finished_agrees a hq)
    (fun ht _ _ _ => Stands.flat (FsmState.resting_of_terminating ht))
    (fun _ _ => ⟨Stands.flat rfl, fun _ => finished_agrees a (Or.inr rfl)⟩)
    (fun hn _ => resend_agrees a hn h) h

theorem stands : FsmActs lens a.sink Standing Standing where
  toLayerActs := layerStands a
  takenStill := Standing.still
  back hq h := Stands.reqSent (h.request hq)
  again {w} hq h := by
    have hst := (sendConfReq_log a false (cancelTimer lens w)).1
    show Stands (sendConfReq lens a.ciSink false (cancelTimer lens w)).fsm.state _ _ _
    rcases hq with hq | hq <;> rw [hst.trans hq]
    · exact Stands.reqSent (lastRequest_sendConfReq a false _)
    · exact Stands.ackSent (lastRequest_sendConfReq a false _)
        (peerAgreed_sendConfReq a false (h.peer (Or.inl hq)))
  renew _ _ := restart_agrees a _
  renegotiate _ _ := restart_agrees a _
  termAck _ h := Stands.cons h rfl rfl
  quits _ _ _ := Stands.flat rfl
  ends _ hq _ := finished_agrees a hq

theorem protReject_agrees (h : Standing w) : Standing (protReject lens a.sink w) :=
  (layerStands a).protReject (K := a.sink) (fun _ hq _ => finished_agrees a hq)
    (fun _ => terminateLayer_agrees a (Or.inr rfl) w) h

/-- What is known of our direction while we negotiate. -/
def Asked (w : FsmWorld) : Prop :=
  LastRequest w.fsm.reqid w.log ∧
    (w.fsm.state = .ackRcvd → w.fsm.seenAck = true ∧ OwnAgreed w.fsm.reqid w.log)

theorem Asked.note {n : Note} (hn : n.isRequest = false) (h : Asked w) : Asked (w.note n) :=
  ⟨h.1.cons hn, fun hq => ⟨(h.2 hq).1, (h.2 hq).2.cons hn⟩⟩

theorem isRequest_answer (v : Verdict) (out data : Bytes) (id : UInt8) : (Note.sent
    (UInt8.ofNat ((if v.code = -1 then (if out.length ≠ 0 then confRej else confAck)
      else v.code).emod 256).toNat) id data).isRequest = false := by
  cases v <;> first | rfl | (by_cases hl : out.length = 0 <;> simp [hl] <;> rfl)

theorem answerConfReq_agrees (inp : Bytes) (len : Nat) (hask : Asked w)
    (hpeer : LastPeerRequest id w.log) :
    Standing (answerConfReq lens a.sink id inp len w) := by
  refine (ciStands a).answerConfReq (fun u => Asked u ∧ PeerAgreed u.log) Asked id
    inp len ?_ ?_ ?_ ?_ ?_
  · rintro r code rfl u rfl
    have asked := fun data => hask.note (isRequest_answer a.reqci.1 a.reqci.2 data id)
    refine ⟨fun hc => ⟨asked _, ?_⟩, fun _ => asked _⟩
    rw [hc]
    exact hpeer.ack _
  · intro u hq hu
    refine callClose_agrees a a.upClose (Stands.cons ?_ rfl rfl)
    exact .opened (hu.1.2 hq).1 (hu.1.2 hq).2 hu.2
  · exact fun u _ hu => Stands.ackSent hu.1.1 hu.2
  · exact fun u _ hu => Stands.reqSent hu.1
  · intro u hq hu
    unfold Standing
    rw [show u.fsm.state = .ackRcvd from hq]
    exact Stands.ackRcvd (hu.2 hq).1 hu.1 (hu.2 hq).2

/-- **The peer's Configure-Request keeps the agreement**: it is the last one now. -/
theorem rcvConfReq_agrees (inp : Bytes) (len : Nat) (body : Bytes)
    (hq : w.fsm.state ≠ .initial ∧ w.fsm.state ≠ .starting) (h : Standing w) :
    Standing (rcvConfReq lens a.sink id inp len (w.note (.rcvd CONFREQ id body))) := by
  have hlast : LastPeerRequest id (w.note (.rcvd CONFREQ id body)).log :=
    ⟨[], body, w.log, rfl, by simp⟩
  -- a fresh request of ours first: nothing of our own direction is left
  have fresh : ∀ v : FsmWorld, LastPeerRequest id v.log → Standing (answerConfReq lens a.sink id
      inp len (setState lens .reqSent (sendConfReq lens a.ciSink false v))) := by
    intro v hv
    have hreq := lastRequest_sendConfReq a false v
    have hpeer := lastPeerRequest_sendConfReq a false hv
    generalize sendConfReq lens a.ciSink false v = u at hreq hpeer ⊢
    exact answerConfReq_agrees a id inp len (w := setState lens .reqSent u)
      ⟨hreq, fun hq => by cases hq⟩ hpeer
  have going : w.fsm.state.negotiating = true → Standing (answerConfReq lens a.sink id inp len
      (w.note (.rcvd CONFREQ id body))) := fun hn =>
    answerConfReq_agrees a id inp len
      (Asked.note rfl ⟨h.request hn, fun hq => ⟨h.seen (Or.inl hq), h.own (Or.inl hq)⟩⟩) hlast
  unfold rcvConfReq
  rw [lens_get, fsm_note]
  cases hs : w.fsm.state <;> dsimp only
  case initial => exact absurd hs hq.1
  case starting => exact absurd hs hq.2
  case closed => exact Stands.flat (congrArg resting hs)
  case closing => exact Stands.flat (congrArg resting hs)
  case stopping => exact Stands.flat (congrArg resting hs)
  case stopped => exact fresh _ hlast
  case opened => exact fresh _ (hlast.cons rfl)
  all_goals exact going (congrArg FsmState.negotiating hs)

theorem rcvConfAck_agrees (inp : Bytes) (len : Nat) (h : Standing w) :
    Standing (rcvConfAck lens a.sink id inp len (w.note (.rcvd CONFACK id (inp.take len)))) := by
  have hquiet : Standing (w.note (.rcvd CONFACK id (inp.take len))) := Stands.cons h rfl rfl
  unfold rcvConfAck
  split
  · exact hquiet
  rename_i heard
  have hid : id = w.fsm.reqid := not_ne_iff.mp (not_or.mp heard).1
  cases hok : a.ackci with
  | false =>
    simp only [Answers.sink, hok, Bool.not_false, if_true]
    exact Stands.cons hquiet rfl rfl
  | true =>
    simp only [Answers.sink, hok, Bool.not_true, Bool.false_eq_true, if_false]
    -- the acknowledgement stands right after the packet that carried it
    have own : w.fsm.state.negotiating = true → OwnAgreed w.fsm.reqid
        (.ackci (inp.take len) true :: .rcvd CONFACK id (inp.take len) :: w.log) := by
      intro hn
      rw [hid]
      exact (h.request hn).ack _
    have hreq : w.fsm.state.negotiating = true → LastRequest w.fsm.reqid
        (.ackci (inp.take len) true :: .rcvd CONFACK id (inp.take len) :: w.log) :=
      fun hn => ((h.request hn).cons rfl).cons rfl
    have peer : w.fsm.state = .ackSent → PeerAgreed
        (.ackci (inp.take len) true :: .rcvd CONFACK id (inp.take len) :: w.log) :=
      fun hs => ((h.peer (Or.inl hs)).cons rfl).cons rfl
    simp only [lens_get, fsm_upd, fsm_note]
    cases hq : w.fsm.state <;> rw [hq] at own hreq peer <;> dsimp only
    case closed => exact Stands.flat (congrArg resting hq)
    case stopped => exact Stands.flat (congrArg resting hq)
    case reqSent => exact Stands.ackRcvd rfl (hreq rfl) (own rfl)
    case ackRcvd => exact restart_agrees a _
    case ackSent =>
      refine callClose_agrees a a.upClose (Stands.cons ?_ rfl rfl)
      exact Stands.opened rfl (own rfl) (peer rfl)
    case opened => exact restart_agrees a _
    all_goals exact Stands.flat (congrArg resting hq)

theorem rcvConfNakRej_agrees (code id : UInt8) (inp : Bytes) (len : Nat) (h : Standing w) :
    Standing (rcvConfNakRej lens a.sink code id inp len w) := by
  have nak : Standing (a.callClose a.nakClose
      (lens.upd (fun f => { f with rnakloops := f.rnakloops + 1 }) w)) :=
    callClose_agrees a a.nakClose (h.still ⟨fun _ h => h, fun _ => rfl⟩)
  have rej : Standing (lens.upd (fun f => { f with rnakloops := 0 }) w) :=
    h.still ⟨fun _ h => h, fun _ => rfl⟩
  exact (stands a).rcvConfNakRej code id inp len (fun _ _ _ _ => ⟨nak, fun _ => nak, fun _ => nak⟩)
    ⟨rej, fun _ => rej, fun _ => rej⟩ h

theorem input_agrees (inpacket : Bytes) (l : Nat) (h : Standing w) :
    Standing (input lens a.sink inpacket l (receive inpacket l w)) := by
  unfold input receive
  split
  · rename_i hh
    rw [hh]
    exact h
  · rename_i code id len hh
    rw [hh]
    dsimp only
    have quiet : code ≠ CONFREQ → Standing
        (w.note (.rcvd code id ((inpacket.drop HEADERLEN).take len))) := fun hc =>
      Stands.cons h rfl (beq_false_of_ne hc)
    split
    · rename_i hq
      rcases hq with hq | hq <;> exact Stands.flat (congrArg resting hq)
    rename_i hq
    unfold dispatch
    dsimp only
    split
    · rename_i hc
      rw [hc]
      exact rcvConfReq_agrees a id _ len _ (not_or.mp hq) h
    · rename_i hc
      have hw := quiet hc
      split
      · rename_i hc
        rw [hc]
        exact rcvConfAck_agrees a id _ len h
      split
      · exact rcvConfNakRej_agrees a code id _ len hw
      split
      · exact (stands a).rcvTermReq id hw
      split
      · exact (stands a).rcvTermack (fun h => h) hw
      split
      · exact (stands a).rcvCodeReject len hw
      split
      · exact hw
      · exact Stands.cons hw rfl rfl

theorem step_agrees (e : FsmEvent × Answers) (h : Standing w) : Standing (w.step e) := by
  obtain ⟨e, a⟩ := e
  cases e with
  | openLink => exact (layerStands a).fsmOpen h
  | close reason => exact close_agrees a reason h
  | lowerUp => exact (ciStands a).lowerUp h
  | lowerDown => exact (layerStands a).lowerDown h
  | timeout => exact timeout_agrees a h
  | protReject => exact protReject_agrees a h
  | input inpacket l => exact input_agrees a inpacket l h

theorem run_standing {f : CPPPFsm} (hf : f.state = .initial) (es : List (FsmEvent × Answers)) :
    Standing (run step { fsm := f } es) :=
  run_keeps (fun w e => step_agrees e (w := w)) (Stands.flat (congrArg resting hf)) es

/-- **Whenever the state is `OPENED`, both directions are agreed**: our last Configure-Request
    was acknowledged under its own id after it was sent, with a body `Ackci` accepted, and the
    peer's last one was answered by a Configure-Ack of ours. No stale, duplicated or reordered
    packet reaches `OPENED`. -/
theorem opened_agreed (f : CPPPFsm) (hf : f.state = .initial) (es : List (FsmEvent × Answers))
    (ho : (run step { fsm := f } es).fsm.state = .opened) :
    OwnAgreed (run step { fsm := f } es).fsm.reqid (run step { fsm := f } es).log ∧
      PeerAgreed (run step { fsm := f } es).log := by
  have hrun := run_standing hf es
  exact ⟨hrun.own (Or.inr ho), hrun.peer (Or.inr ho)⟩

/-- The exchange reaches `OPENED`. -/
theorem opened_agreed_exchange :
    let w := run step { fsm := { protocol := 0xc021 } } exchange
    w.fsm.state = .opened ∧ w.fsm.reqid = 1 ∧ OwnAgreed 1 w.log ∧ PeerAgreed w.log :=
  ⟨by decide +kernel, by decide +kernel,
    opened_agreed { protocol := 0xc021 } rfl exchange (by decide +kernel)⟩

/-! ## 4. An Ack, Nak or Reject that comes too late -/

/-- `RcvConfAck` enters the cases `ACKRCVD` and `OPENED` of its switch, the "extra Ack". -/
def ExtraAck (a : Answers) (id : UInt8) (inp : Bytes) (len : Nat) (w : FsmWorld) : Prop :=
  ¬ (id ≠ w.fsm.reqid ∨ w.fsm.seenAck = true) ∧ (a.sink.ackci inp len w).1 = true ∧
    ((a.sink.ackci inp len w).2.fsm.state = .ackRcvd ∨
      (a.sink.ackci inp len w).2.fsm.state = .opened)

/-- What `Nakci` or `Rejci` returns to `RcvConfNakRej`. -/
def nakRejci (a : Answers) (code : UInt8) (inp : Bytes) (len : Nat) (w : FsmWorld) :
    Int × FsmWorld :=
  if code = CONFNAK then
    a.sink.nakci inp len (decide (w.fsm.rnakloops + 1 ≥ w.fsm.maxnakloops))
      (lens.upd (fun f => { f with rnakloops := f.rnakloops + 1 }) w)
  else a.sink.rejci inp len (lens.upd (fun f => { f with rnakloops := 0 }) w)

/-- `RcvConfNakRej` enters the cases `ACKRCVD` and `OPENED` of its switch. -/
def LateNakRej (a : Answers) (code id : UInt8) (inp : Bytes) (len : Nat) (w : FsmWorld) : Prop :=
  ¬ (id ≠ w.fsm.reqid ∨ w.fsm.seenAck = true) ∧ (nakRejci a code inp len w).1 ≠ 0 ∧
    ((nakRejci a code inp len w).2.fsm.state = .ackRcvd ∨
      (nakRejci a code inp len w).2.fsm.state = .opened)

/-- The two cases start the negotiation over. -/
theorem rcvConfAck_extra (inp : Bytes) (len : Nat) (h : ExtraAck a id inp len w) :
    ∃ v, rcvConfAck lens a.sink id inp len w =
      setState lens .reqSent (sendConfReq lens a.ciSink false v) := by
  obtain ⟨hid, hok, hq⟩ := h
  unfold rcvConfAck
  rw [lens_get, if_neg hid]
  simp only [hok, Bool.not_true, Bool.false_eq_true, if_false, lens_get, fsm_upd]
  rcases hq with hq | hq <;> rw [hq] <;> exact ⟨_, rfl⟩

theorem rcvConfNakRej_late (code : UInt8) (inp : Bytes) (len : Nat)
    (h : LateNakRej a code id inp len w) :
    ∃ v, rcvConfNakRej lens a.sink code id inp len w =
      setState lens .reqSent (sendConfReq lens a.ciSink false v) := by
  obtain ⟨hid, hret, hq⟩ := h
  have heq : rcvConfNakRej lens a.sink code id inp len w =
      afterNakRej lens a.sink id (nakRejci a code inp len w).1 (nakRejci a code inp len w).2 := by
    unfold rcvConfNakRej nakRejci
    unfold nakRejci at hret
    rw [lens_get, if_neg hid]
    split <;> rename_i hc <;> simp only [hc, if_true, if_false] at hret ⊢ <;> exact if_neg hret
  rw [heq]
  unfold afterNakRej
  simp only [lens_get, fsm_upd]
  rcases hq with hq | hq <;> rw [hq] <;> exact ⟨_, rfl⟩

/-- After `Close` the automaton neither negotiates nor is open. -/
theorem close_settled (reason : String) (w : FsmWorld) :
    (close lens a.closeSink reason w).fsm.state.resting = true := by
  have term : ∀ v, (terminateLayer lens a.closeSink .closing v).fsm.state.resting = true := by
    intro v
    rcases (terminateLayer_closing a v).2 with h | h | h <;> rw [h] <;> rfl
  unfold close reasoned
  cases hq : w.fsm.state <;> simp only [lens_get, fsm_upd, hq] <;>
    first | exact term _ | exact congrArg resting hq | rfl

theorem callClose_state (r : Option String) (w : FsmWorld) :
    (a.callClose r w).fsm.state = w.fsm.state ∨ (a.callClose r w).fsm.state.resting = true := by
  cases r with
  | none => exact Or.inl rfl
  | some r => exact Or.inr (close_settled a r w)

section Late

variable (h : w.fsm.state = .ackRcvd ∨ w.fsm.state = .opened → w.fsm.seenAck = true)
include h

theorem not_extraAck (inp : Bytes) (len : Nat) : ¬ ExtraAck a id inp len w := by
  rintro ⟨hid, -, hq⟩
  exact hid (Or.inr (h hq))

theorem not_lateNakRej (code : UInt8) (inp : Bytes) (len : Nat) :
    ¬ LateNakRej a code id inp len w := by
  rintro ⟨hid, -, hq⟩
  refine hid (Or.inr (h ?_))
  unfold nakRejci at hq
  split at hq
  · -- `Nakci` may have called `Close`
    rcases callClose_state a a.nakClose
      (lens.upd (fun f => { f with rnakloops := f.rnakloops + 1 }) w) with hs | hs
    · exact hs ▸ hq
    · rcases hq with hq | hq <;> exact nomatch hq ▸ hs
  · exact hq

/-- In `OPENED` an Ack, Nak or Reject is tossed. -/
theorem dispatch_late (ho : w.fsm.state = .opened) {code : UInt8}
    (hc : code = CONFACK ∨ code = CONFNAK ∨ code = CONFREJ) (p : Bytes) (len : Nat) :
    dispatch lens a.sink p code id len w = w := by
  have hs : id ≠ (lens.get w).reqid ∨ (lens.get w).seenAck = true := Or.inr (h (Or.inr ho))
  have ack : rcvConfAck lens a.sink id (p.drop HEADERLEN) len w = w := if_pos hs
  have nak : rcvConfNakRej lens a.sink code id (p.drop HEADERLEN) len w = w := if_pos hs
  rcases hc with rfl | rfl | rfl
  · exact ack
  · exact nak
  · exact nak

end Late

/-- **`ACKRCVD` and `OPENED` have `m_seen_ack` set**, in every state a run reaches. So neither
    switch is entered there, whatever packet came, and an Ack, Nak or Reject leaves an open link
    as it is: it is logged as received and tossed. -/
theorem acked_states_seen (f : CPPPFsm) (hf : f.state = .initial)
    (es : List (FsmEvent × Answers)) :
    let w := run step { fsm := f } es
    (w.fsm.state = .ackRcvd ∨ w.fsm.state = .opened → w.fsm.seenAck = true) ∧
      (∀ p l a id inp len, ¬ ExtraAck a id inp len (receive p l w)) ∧
      (∀ p l a code id inp len, ¬ LateNakRej a code id inp len (receive p l w)) ∧
      (w.fsm.state = .opened → ∀ p l a code id len, header p l = some (code, id, len) →
        code = CONFACK ∨ code = CONFNAK ∨ code = CONFREJ →
        w.step (.input p l, a) = receive p l w) := by
  intro w
  have hseen := (run_standing hf es).seen
  have hrec : ∀ p l, (receive p l w).fsm.state = .ackRcvd ∨ (receive p l w).fsm.state = .opened →
      (receive p l w).fsm.seenAck = true := by
    intro p l
    rw [fsm_receive]
    exact hseen
  refine ⟨hseen, fun p l a id inp len => not_extraAck a id (hrec p l) inp len,
    fun p l a code id inp len => not_lateNakRej a id (hrec p l) code inp len, ?_⟩
  intro ho p l a code id len hh hc
  have hopen : (receive p l w).fsm.state = .opened := by rw [fsm_receive, ho]
  show input lens a.sink p l (receive p l w) = _
  unfold input
  rw [hh]
  simp only [lens_get, hopen, reduceCtorEq, or_self, if_false]
  exact dispatch_late a id (hrec p l) hopen hc p len

/-- A Nak with the id of our request does nothing to the link the exchange has opened. -/
theorem acked_states_seen_exchange :
    let w := run step { fsm := { protocol := 0xc021 } } exchange
    w.fsm.state = .opened ∧ w.fsm.seenAck = true ∧
      w.step (.input [3, 1, 0, 4] 4, {}) = receive [3, 1, 0, 4] 4 w := by
  have h := acked_states_seen { protocol := 0xc021 } rfl exchange
  have ho : (run step { fsm := { protocol := 0xc021 } } exchange).fsm.state = .opened := by
    decide +kernel
  exact ⟨ho, h.1 (Or.inr ho), h.2.2.2 ho _ _ _ CONFNAK 1 0 (by decide) (Or.inr (Or.inl rfl))⟩

end FsmWorld

end OpenBras
