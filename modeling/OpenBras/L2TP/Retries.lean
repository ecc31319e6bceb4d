/-
  File:      OpenBras/L2TP/Retries.lean
  Subject:   ASKING FOR A TUNNEL: how often a tunnel sends its SCCRQ, with which `Ns`, and when it
             goes and is reported.

  A tunnel sends at most eleven SCCRQs, whatever the server sends. But every one takes the next
  `Ns`. An SCCRP that names another tunnel stops the timer of a tunnel that is still waiting, for
  good; and a StopCCN that names the tunnel, from the tunnel id 0, removes it without a report.
  A datagram whose AVPs are never left, or are copied past the end of an array, ends them all.

  * `Attempt`, `Traced`  -- the concentrator with a record of the last tunnel made for a server;
  * `Turn`, `turn`       -- what an event does to a tunnel that is not connected;
  * `Sound`              -- the invariant, kept by every event;
  * `tunnel_requests_iff` -- the exact conditions: of the timer, the reports and the number of
                            requests on one side, of the `Ns` on the other.
-/
import OpenBras.L2TP.Lac

namespace OpenBras

open Wire CL2TPControllMessage CL2TPTunnel

/-! ## 1. The record of an attempt -/

namespace CL2TPTunnel

/-- The retry timer expires. -/
def expires (t : CL2TPTunnel) : Event → Bool
  | .timeout => t.timer
  | _ => false

/-- An SCCRP to this tunnel arrives. -/
def replies (fuel : Nat) (t : CL2TPTunnel) (e : Event) : Bool :=
  (t.arriving fuel e).any fun m => decide (OwnReply t m)

end CL2TPTunnel

namespace CL2TPLAC

/-- What the last tunnel made for a server has done: the `Ns` of its SCCRQs (newest first), how
    often its timer expired, whether an SCCRP to it arrived, and how often its failure was
    reported. -/
structure Attempt where
  made : Bool := false
  sccrqs : List UInt16 := []
  expiries : Nat := 0
  answered : Bool := false
  failures : Nat := 0

/-- An event of the tunnel. -/
def Attempt.goesOn (fuel : Nat) (t : CL2TPTunnel) (e : CL2TPTunnel.Event) (a : Attempt) :
    Attempt where
  made := a.made
  sccrqs := sccrqNs (t.step fuel e).2 ++ a.sccrqs
  expiries := a.expiries + (expires t e).toNat
  answered := a.answered || replies fuel t e
  failures := a.failures + CL2TPTunnel.failures (t.step fuel e).2

structure Traced (α : Type) where
  lac : CL2TPLAC α := {}
  attempt : α → Attempt := fun _ => {}

variable {α : Type} [DecidableEq α]

def trace (fuel : Nat) (w : Traced α) (ev : Event α) : Traced α where
  lac := (w.lac.step fuel ev).1
  attempt :=
    if w.lac.fault.isSome then w.attempt
    else
      match ev with
      | .makeTunnel _ serveraddr =>
        match w.lac.l2tpServers serveraddr with
        | none =>
          Function.update w.attempt serveraddr
            { made := true, sccrqs := sccrqNs (w.lac.step fuel ev).2 }
        | some _ => w.attempt
      | .tunnel serveraddr e =>
        match w.lac.l2tpServers serveraddr with
        | none => w.attempt
        | some t =>
          if reaches t e then
            Function.update w.attempt serveraddr
              ((w.attempt serveraddr).goesOn fuel { t with indication := w.lac.psink } e)
          else w.attempt

/-! ## 2. A tunnel that is not connected -/

/-- The tunnel of the table after an event of its own. -/
def left (fuel : Nat) (t : CL2TPTunnel) (e : CL2TPTunnel.Event) : Option CL2TPTunnel :=
  if (t.step fuel e).1.removed then none else some (t.step fuel e).1

/-- Neither an SCCRP that names another tunnel nor a StopCCN that names this one. -/
def Unharmed (fuel : Nat) (t : CL2TPTunnel) (e : CL2TPTunnel.Event) : Prop :=
  ∀ m, t.arriving fuel e = some m → ¬ ForeignReply t m ∧ ¬ OwnStop t m

/-- What an event does to a tunnel that is not connected, and to its record. -/
inductive Turn (fuel : Nat) (t : CL2TPTunnel) (e : CL2TPTunnel.Event) : Prop where
  | rests (u : CL2TPTunnel) (hleft : left fuel t e = some u) (htrial : trial u = trial t)
      (hgoes : ∀ a : Attempt, a.goesOn fuel t e = a) (hexp : expires t e = false)
      (hm : Unharmed fuel t e)
  | foreign (m : CL2TPControllMessage) (hm : t.arriving fuel e = some m) (hf : ForeignReply t m)
      (hleft : left fuel t e = some { t with timer := false, requestcount := 0 })
      (hgoes : ∀ a : Attempt, a.goesOn fuel t e = a)
  | answered (u : CL2TPTunnel) (hleft : left fuel t e = some u) (hcon : u.isconnected = true)
      (htimer : u.timer = false) (hkept : u.halted = false)
      (hgoes : ∀ a : Attempt, a.goesOn fuel t e = { a with answered := true })
      (hexp : expires t e = false) (hm : Unharmed fuel t e)
  | stopped (m : CL2TPControllMessage) (hm : t.arriving fuel e = some m) (hs : OwnStop t m)
      (hleft : left fuel t e = none) (hgoes : ∀ a : Attempt, a.goesOn fuel t e = a)
  | asks (hcount : t.requestcount ≤ 10) (hleft : left fuel t e = some t.startConnectRequest.1)
      (hgoes : ∀ a : Attempt, a.goesOn fuel t e =
        { a with sccrqs := t.controlSeqNum :: a.sccrqs, expiries := a.expiries + 1 })
      (hexp : expires t e = true) (hm : Unharmed fuel t e)
  | givesUp (hcount : t.requestcount > 10) (hleft : left fuel t e = none)
      (hgoes : ∀ a : Attempt, a.goesOn fuel t e =
        { a with expiries := a.expiries + 1, failures := a.failures + t.indication.toNat })
      (hexp : expires t e = true) (hm : Unharmed fuel t e)

section Turn

variable {fuel : Nat} {t : CL2TPTunnel} {e : CL2TPTunnel.Event}

theorem left_kept (h : (t.step fuel e).1.removed = false) :
    left fuel t e = some (t.step fuel e).1 := if_neg (by rw [h]; exact Bool.false_ne_true)

theorem left_gone (h : (t.step fuel e).1.removed = true) : left fuel t e = none := if_pos h

theorem goesOn_of_mute (hmute : Mute (t.step fuel e).2) (hexp : expires t e = false)
    (a : Attempt) :
    a.goesOn fuel t e = { a with answered := a.answered || replies fuel t e } := by
  unfold Attempt.goesOn
  rw [hmute.1, hmute.2, hexp]
  rfl

theorem goesOn_unanswered (hmute : Mute (t.step fuel e).2) (hexp : expires t e = false)
    (hrep : replies fuel t e = false) (a : Attempt) : a.goesOn fuel t e = a := by
  rw [goesOn_of_mute hmute hexp, hrep, Bool.or_false]

theorem not_removed (h : t.halted = false) : t.removed = false := (halted_eq_false.mp h).1

theorem turn_input (hr : t.halted = false) (hs : ∀ c, t.sessions c = none) {buffer : Bytes}
    {n : Nat} (hf : faultOf fuel buffer n = none) : Turn fuel t (.input buffer n) := by
  have harr : t.arriving fuel (.input buffer n) = controlMessage fuel buffer n := by
    rw [arriving, hr, if_neg Bool.false_ne_true]
  have hstep : t.step fuel (.input buffer n) = t.input fuel buffer n := by
    rw [CL2TPTunnel.step, hr, if_neg Bool.false_ne_true]
  have hrep : replies fuel t (.input buffer n) =
      (controlMessage fuel buffer n).any fun m => decide (OwnReply t m) := by rw [replies, harr]
  have hrests : trial (t.step fuel (.input buffer n)).1 = trial t →
      (t.step fuel (.input buffer n)).1.removed = false := fun h =>
    not_removed ((congrArg (·.2.2.2.2.1) h).trans hr)
  cases hm : controlMessage fuel buffer n with
  | none =>
    rw [hm] at harr hrep
    obtain ⟨hsame, hmute⟩ := input_quiet (t := t) hm hf
    rw [← hstep] at hsame hmute
    have htrial : trial (t.step fuel (.input buffer n)).1 = trial t := by rw [hsame]
    refine .rests _ (left_kept (hrests htrial)) htrial (goesOn_unanswered hmute rfl hrep) rfl ?_
    intro m h
    rw [harr] at h
    cases h
  | some m =>
    rw [hm] at harr hrep
    replace hrep : replies fuel t (.input buffer n) = decide (OwnReply t m) := hrep
    rw [input_control hm] at hstep
    have hmute : Mute (t.step fuel (.input buffer n)).2 := by
      rw [hstep]
      exact mute_handleControllMessage
    by_cases hf : ForeignReply t m
    · have ho : ¬ OwnReply t m := fun ho => hf.2.2 ho.2.2
      refine .foreign m harr hf ?_
        (goesOn_unanswered hmute rfl (hrep.trans (decide_eq_false ho)))
      rw [left, hstep, handleControllMessage_foreign hf]
      exact if_neg (by rw [not_removed hr]; exact Bool.false_ne_true)
    by_cases hstop : OwnStop t m
    · have ho : ¬ OwnReply t m := fun ho =>
        absurd (hstop.2.1.symm.trans ho.2.1) (by decide)
      refine .stopped m harr hstop (left_gone ?_)
        (goesOn_unanswered hmute rfl (hrep.trans (decide_eq_false ho)))
      rw [hstep, handleControllMessage_stop hstop]
    have hm : Unharmed fuel t (.input buffer n) := fun m' hm' => by
      cases harr.symm.trans hm'
      exact ⟨hf, hstop⟩
    by_cases ho : OwnReply t m
    · obtain ⟨hcon, htimer, hkept⟩ := handleControllMessage_own ho
      rw [← hstep] at hcon htimer hkept
      refine .answered _ (left_kept (not_removed (hkept.trans hr))) hcon htimer (hkept.trans hr)
        (fun a => ?_) rfl hm
      rw [goesOn_of_mute hmute rfl, hrep, decide_eq_true ho, Bool.or_true]
    · have htrial := handleControllMessage_other hs hf ho hstop
      rw [← hstep] at htrial
      exact .rests _ (left_kept (hrests htrial)) htrial
        (goesOn_unanswered hmute rfl (hrep.trans (decide_eq_false ho))) rfl hm

theorem turn_timeout (hr : t.halted = false) : Turn fuel t .timeout := by
  have hstep : t.step fuel .timeout = if t.timer then t.handleTimeout else (t, []) := by
    rw [CL2TPTunnel.step, hr, if_neg Bool.false_ne_true]
  cases ht : t.timer with
  | false =>
    rw [ht, if_neg Bool.false_ne_true] at hstep
    have hmute : Mute (t.step fuel .timeout).2 := by
      rw [hstep]
      exact mute_nil
    refine .rests t ?_ rfl (goesOn_unanswered hmute ht rfl) ht fun _ h => by cases h
    rw [left_kept (by rw [hstep]; exact not_removed hr), hstep]
  | true =>
    rw [ht, if_pos rfl] at hstep
    by_cases hcount : t.requestcount > 10
    · rw [handleTimeout, if_pos hcount] at hstep
      refine .givesUp hcount (left_gone (by rw [hstep]; rfl)) (fun a => ?_) ht fun _ h => by cases h
      unfold Attempt.goesOn
      rw [show expires t .timeout = true from ht, hstep, onTunnelResult]
      cases t.indication <;> simp [sccrqNs, failures, replies, arriving]
    · rw [handleTimeout, if_neg hcount] at hstep
      refine .asks (not_lt.mp hcount) ?_ (fun a => ?_) ht fun _ h => by cases h
      · rw [left, hstep]
        exact if_neg (by
          rw [show t.startConnectRequest.1.removed = t.removed from rfl, not_removed hr]
          decide)
      · unfold Attempt.goesOn
        rw [show expires t .timeout = true from ht, hstep, startConnectRequest_acts.1,
          startConnectRequest_acts.2]
        simp [replies, arriving]

/-- **What an event does to a tunnel that is not connected**, if it does the process no harm. -/
theorem turn (hf : faults fuel e = none) (hr : t.halted = false) (hc : t.isconnected = false)
    (hs : ∀ c, t.sessions c = none) (hreach : reaches t e) : Turn fuel t e := by
  cases e with
  | input buffer n => exact turn_input hr hs hf
  | timeout => exact turn_timeout hr
  | startConnectRequest => cases hreach
  | _ => exact absurd hreach (by rw [reaches, hc]; decide)

/-- A datagram that ends the process is not recorded. -/
theorem goesOn_fault {fault : L2tpFault} (hf : faults fuel e = some fault) (a : Attempt) :
    a.goesOn fuel t e = a := by
  cases e with
  | input buffer n =>
    have hnone : controlMessage fuel buffer n = none :=
      (faultOf_or_controlMessage fuel buffer n).resolve_left (fun h => by cases h.symm.trans hf)
    refine goesOn_unanswered ?_ rfl ?_ a
    · rw [CL2TPTunnel.step.eq_def]
      split
      · exact mute_nil
      · exact input_cases (P := fun r => Mute r.2) (fun _ hm => by cases hnone.symm.trans hm)
          (fun msg _ _ => mute_handlePayLoadMessage msg) (fun _ _ => mute_nil) fun _ _ _ => mute_nil
    · rw [replies, arriving, hnone, ite_self]
      rfl
  | _ => cases hf

end Turn

/-! ## 3. The invariant -/

/-- The numbers `n - 1`, ..., 1, 0. -/
def countdown : Nat → List UInt16
  | 0 => []
  | n + 1 => n.toUInt16 :: countdown n

theorem length_countdown (n : Nat) : (countdown n).length = n := by
  induction n with
  | zero => rfl
  | succ n ih => exact congrArg (· + 1) ih

/-- A tunnel whose timer is scheduled: one SCCRQ from `MakeTunnel` and one for each expiry, each
    with the next `Ns`. -/
structure Asking (t : CL2TPTunnel) (a : Attempt) : Prop where
  count : t.requestcount = a.expiries + 1
  number : t.controlSeqNum = (a.expiries + 1).toUInt16
  sent : a.sccrqs = countdown (a.expiries + 1)
  early : a.expiries ≤ 10

/-- A tunnel of the table and its record. -/
structure Sound (t : CL2TPTunnel) (a : Attempt) : Prop where
  made : a.made = true
  kept : t.halted = false
  silent : a.failures = 0
  few : a.sccrqs.length ≤ 11
  connected : t.isconnected = true → t.timer = false ∧ a.answered = true
  waiting : t.isconnected = false →
    (∀ c, t.sessions c = none) ∧ t.peertid = 0 ∧ a.answered = false
  asking : t.timer = true → Asking t a

/-- The record of a server: that of the tunnel in the table, if there is one. -/
def SoundAt (o : Option CL2TPTunnel) (a : Attempt) : Prop :=
  match o with
  | some t => Sound t a
  | none => a.sccrqs.length ≤ 11

variable {fuel : Nat} {t : CL2TPTunnel} {a : Attempt} {e : CL2TPTunnel.Event}

/-- What asking depends on is all that the invariant speaks of. -/
theorem Sound.congr {u : CL2TPTunnel} (h : Sound t a) (htrial : trial u = trial t) :
    Sound u a := by
  simp only [trial, Prod.mk.injEq] at htrial
  obtain ⟨htimer, hcount, hcon, hseq, hrem, -, hpeer, hsess⟩ := htrial
  exact { h with
    kept := hrem ▸ h.kept
    connected := fun hc => htimer ▸ h.connected (hcon ▸ hc)
    waiting := fun hc => by
      rw [hsess, hpeer]
      exact h.waiting (hcon ▸ hc)
    asking := fun ht =>
      have ha := h.asking (htimer ▸ ht)
      ⟨hcount.trans ha.count, hseq.trans ha.number, ha.sent, ha.early⟩ }

theorem sound_made (tid : UInt16) (psink : Bool) :
    let t : CL2TPTunnel := { ourtid := tid, indication := psink }
    Sound t.startConnectRequest.1
      { made := true, sccrqs := sccrqNs t.startConnectRequest.2 } := by
  intro t
  rw [(startConnectRequest_acts (t := t)).1]
  exact {
    made := rfl
    kept := rfl
    silent := rfl
    few := Nat.le_add_left 1 10
    connected := nofun
    waiting := fun _ => ⟨fun _ => rfl, rfl, rfl⟩
    asking := fun _ => ⟨rfl, rfl, rfl, Nat.zero_le 10⟩ }

/-- An event of a connected tunnel. -/
theorem goes_connected (fuel : Nat) (h : Sound t a) (hc : t.isconnected = true)
    (hr : reaches t e) : a.goesOn fuel t e = a ∧ (t.step fuel e).1.timer = false ∧
      (t.step fuel e).1.isconnected = true := by
  obtain ⟨htimer, hans⟩ := h.connected hc
  obtain ⟨hc', ht', hmute⟩ := step_connected fuel hc htimer hr
  have hexp : expires t e = false := by
    cases e <;> first | rfl | exact htimer
  refine ⟨?_, ht', hc'⟩
  rw [goesOn_of_mute hmute hexp, hans, Bool.true_or, ← hans]

theorem soundAt_connected (hf : faults fuel e = none) (h : Sound t a) (hc : t.isconnected = true)
    (hr : reaches t e) : SoundAt (left fuel t e) (a.goesOn fuel t e) := by
  obtain ⟨hgoes, ht', hc'⟩ := goes_connected fuel h hc hr
  rw [hgoes]
  cases hrem : (t.step fuel e).1.removed with
  | true =>
    rw [left_gone hrem]
    exact h.few
  | false =>
    rw [left_kept hrem]
    exact { h with
      kept := halted_eq_false.mpr ⟨hrem, (fault_step fuel h.kept e).trans hf⟩
      connected := fun _ => ⟨ht', (h.connected hc).2⟩
      waiting := fun hn => absurd (hc'.symm.trans hn) (by decide)
      asking := fun ht => absurd (ht'.symm.trans ht) (by decide) }

theorem sound_asks (h : Sound t a) (hc : t.isconnected = false) (ht : t.timer = true)
    (hcount : t.requestcount ≤ 10) : Sound t.startConnectRequest.1
      { a with sccrqs := t.controlSeqNum :: a.sccrqs, expiries := a.expiries + 1 } := by
  obtain ⟨hcount', hnumber, hsent, -⟩ := h.asking ht
  have hlate : a.expiries + 1 ≤ 10 := by omega
  have hsccrqs : t.controlSeqNum :: a.sccrqs = countdown (a.expiries + 1 + 1) := by
    rw [hnumber, hsent]
    rfl
  exact { h with
    few := by
      dsimp only
      rw [hsccrqs, length_countdown]
      omega
    connected := fun hn => absurd (hc.symm.trans hn) (by decide)
    asking := fun _ => {
      count := by
        show t.requestcount + 1 = _
        rw [hcount']
        rfl
      number := by
        show t.controlSeqNum + 1 = _
        rw [hnumber]
        exact (UInt16.ofNat_add (a.expiries + 1) 1).symm
      sent := hsccrqs
      early := hlate } }

theorem timer_of_expires (h : expires t e = true) : t.timer = true := by
  cases e <;> first | exact h | cases h

/-- **Every event leaves a sound record**, whatever the server sends. -/
theorem soundAt_left (hf : faults fuel e = none) (h : Sound t a) (hr : reaches t e) :
    SoundAt (left fuel t e) (a.goesOn fuel t e) := by
  cases hc : t.isconnected with
  | true => exact soundAt_connected hf h hc hr
  | false =>
    have hoff : ∀ {P : Prop}, t.isconnected = true → P := fun hn =>
      absurd (hc.symm.trans hn) (by decide)
    cases turn hf h.kept hc (h.waiting hc).1 hr with
    | rests u hleft htrial hgoes =>
      rw [hleft, hgoes]
      exact h.congr htrial
    | foreign m hm hf hleft hgoes =>
      rw [hleft, hgoes]
      exact { h with connected := hoff, asking := nofun }
    | answered u hleft hcon htimer hkept hgoes =>
      rw [hleft, hgoes]
      exact { h with
        kept := hkept
        connected := fun _ => ⟨htimer, rfl⟩
        waiting := fun hn => absurd (hcon.symm.trans hn) (by decide)
        asking := fun ht => absurd (htimer.symm.trans ht) (by decide) }
    | stopped m hm hs hleft hgoes =>
      rw [hleft, hgoes]
      exact h.few
    | asks hcount hleft hgoes hexp =>
      rw [hleft, hgoes]
      exact sound_asks h hc (timer_of_expires hexp) hcount
    | givesUp hcount hleft hgoes =>
      rw [hleft, hgoes]
      exact h.few

/-! ## 4. One event of the concentrator, seen from one server -/

/-- What an event means for a server: nothing, a new tunnel, or an event of its tunnel. -/
inductive Moves (fuel : Nat) (w : Traced α) (ev : Event α) (serveraddr : α) : Prop where
  | stays
      (hserver : (trace fuel w ev).lac.l2tpServers serveraddr = w.lac.l2tpServers serveraddr)
      (hattempt : (trace fuel w ev).attempt serveraddr = w.attempt serveraddr)
  | made (psink : Bool) (t : CL2TPTunnel)
      (ht : t = { ourtid := w.lac.tunnelidbase, indication := psink })
      (hev : ev = .makeTunnel psink serveraddr)
      (hserver : (trace fuel w ev).lac.l2tpServers serveraddr = some t.startConnectRequest.1)
      (hattempt : (trace fuel w ev).attempt serveraddr =
        { made := true, sccrqs := sccrqNs t.startConnectRequest.2 })
  | goes (t : CL2TPTunnel) (e : CL2TPTunnel.Event) (hev : ev = .tunnel serveraddr e)
      (hs : w.lac.l2tpServers serveraddr = some t) (hr : reaches t e)
      (hrun : w.lac.fault = none) (hf : faults fuel e = none)
      (hserver : (trace fuel w ev).lac.l2tpServers serveraddr =
        left fuel { t with indication := w.lac.psink } e)
      (hattempt : (trace fuel w ev).attempt serveraddr =
        (w.attempt serveraddr).goesOn fuel { t with indication := w.lac.psink } e)

/-- The record of every server is sound. -/
def AllSound (w : Traced α) : Prop :=
  ∀ serveraddr, SoundAt (w.lac.l2tpServers serveraddr) (w.attempt serveraddr)

omit [DecidableEq α] in
theorem allSound_start : AllSound ({} : Traced α) := fun _ => Nat.zero_le 11

variable {w : Traced α} {ev : Event α}

omit [DecidableEq α] in
theorem AllSound.tunnel (h : AllSound w) {serveraddr : α}
    (hs : w.lac.l2tpServers serveraddr = some t) (psink : Bool) :
    Sound { t with indication := psink } (w.attempt serveraddr) := by
  have hsound := h serveraddr
  rw [hs] at hsound
  exact hsound.congr rfl

section Moves

variable (hrun : w.lac.fault = none)
include hrun

theorem moves_makeTunnel (fuel : Nat) (psink : Bool) (addr serveraddr : α) :
    Moves fuel w (.makeTunnel psink addr) serveraddr := by
  cases hs : w.lac.l2tpServers addr with
  | some t =>
    refine .stays ?_ ?_
    · simp [trace, step, makeTunnel, hs, hrun]
    · simp [trace, hs, hrun]
  | none =>
    by_cases ha : serveraddr = addr
    · subst ha
      refine .made psink _ rfl rfl ?_ ?_
      · simp [trace, step, makeTunnel, hs, hrun]
      · simp [trace, step, makeTunnel, hs, hrun]
    · refine .stays ?_ ?_
      · simp [trace, step, makeTunnel, hs, hrun, ha]
      · simp [trace, hs, hrun, ha]

/-- What a tunnel that is reached means for its server, and for the process. -/
theorem trace_goes (hsound : AllSound w) (fuel : Nat) {serveraddr : α}
    (hs : w.lac.l2tpServers serveraddr = some t) (hr : reaches t e = true) :
    (trace fuel w (.tunnel serveraddr e)).lac.fault = faults fuel e ∧
      (faults fuel e = none → (trace fuel w (.tunnel serveraddr e)).lac.l2tpServers serveraddr =
        left fuel { t with indication := w.lac.psink } e) ∧
      (trace fuel w (.tunnel serveraddr e)).attempt serveraddr =
        (w.attempt serveraddr).goesOn fuel { t with indication := w.lac.psink } e := by
  have hfault := fault_step fuel (hsound.tunnel hs w.lac.psink).kept e
  refine ⟨?_, fun hf => ?_, by simp [trace, hs, hr, hrun]⟩
  · cases hf : faults fuel e with
    | none | some => simp [trace, step, tunnelStep, hs, hr, hrun, hfault, hf]
  · simp [trace, step, tunnelStep, hs, hr, hrun, hfault, hf, left]

theorem moves_tunnel (hsound : AllSound w) (fuel : Nat) (addr serveraddr : α)
    (e : CL2TPTunnel.Event) : Moves fuel w (.tunnel addr e) serveraddr := by
  cases hs : w.lac.l2tpServers addr with
  | none =>
    refine .stays ?_ ?_
    · simp [trace, step, tunnelStep, hs, hrun]
    · simp [trace, hs, hrun]
  | some t =>
    have hfault := fault_step fuel (hsound.tunnel hs w.lac.psink).kept e
    cases hr : reaches t e with
    | false =>
      refine .stays ?_ ?_
      · simp [trace, step, tunnelStep, hs, hr, hrun]
      · simp [trace, hs, hr, hrun]
    | true =>
      cases hf : faults fuel e with
      | some fault =>
        refine .stays ?_ ?_
        · simp [trace, step, tunnelStep, hs, hr, hrun, hfault, hf]
        · simp [trace, hs, hr, hrun, goesOn_fault hf]
      | none =>
        by_cases ha : serveraddr = addr
        · subst ha
          obtain ⟨-, hserver, hattempt⟩ := trace_goes hrun hsound fuel hs hr
          exact .goes t e rfl hs hr hrun hf (hserver hf) hattempt
        · refine .stays ?_ ?_
          · simp [trace, step, tunnelStep, hs, hr, hrun, hfault, hf, ha]
          · simp [trace, hs, hr, hrun, ha]

end Moves

theorem moves (hsound : AllSound w) (fuel : Nat) (ev : Event α) (serveraddr : α) :
    Moves fuel w ev serveraddr := by
  cases hrun : w.lac.fault with
  | some fault =>
    refine .stays ?_ ?_
    · simp [trace, step, hrun]
    · simp [trace, hrun]
  | none =>
    cases ev with
    | makeTunnel psink addr => exact moves_makeTunnel hrun fuel psink addr serveraddr
    | tunnel addr e => exact moves_tunnel hrun hsound fuel addr serveraddr e

/-- **Every event keeps the records sound.** -/
theorem allSound_trace (h : AllSound w) (ev : Event α) : AllSound (trace fuel w ev) := by
  intro serveraddr
  cases moves h fuel ev serveraddr with
  | stays hserver hattempt =>
    rw [hserver, hattempt]
    exact h serveraddr
  | made psink t ht hev hserver hattempt =>
    rw [hserver, hattempt, ht]
    exact sound_made _ psink
  | goes t e hev hs hr _ hf hserver hattempt =>
    rw [hserver, hattempt]
    exact soundAt_left hf (h.tunnel hs w.lac.psink) hr

/-! ## 5. Timer, reports and number of requests -/

/-- At most eleven SCCRQs; a tunnel of the table that is not connected has its timer, which has
    not expired eleven times, and no failure was reported; a tunnel that is gone and was not
    answered was reported once. -/
def Served (o : Option CL2TPTunnel) (a : Attempt) : Prop :=
  a.sccrqs.length ≤ 11 ∧
    (∀ t, o = some t → t.isconnected = false →
      t.timer = true ∧ a.expiries ≤ 10 ∧ a.failures = 0) ∧
    (o = none → a.made = true → a.answered = false → a.failures = 1)

/-- The process runs, and every server is served. -/
def AllServed (w : Traced α) : Prop :=
  w.lac.fault = none ∧
    ∀ serveraddr, Served (w.lac.l2tpServers serveraddr) (w.attempt serveraddr)

/-- The event brings the tunnel neither an SCCRP that names another tunnel nor a StopCCN that
    names it, and when it gives up there is a sink to report to. -/
def Calm (fuel : Nat) (psink : Bool) (t : CL2TPTunnel) (e : CL2TPTunnel.Event) : Prop :=
  Unharmed fuel t e ∧ (expires t e = true → t.requestcount > 10 → psink = true)

/-- No datagram to a tunnel of the table harms the process, and the tunnel an event concerns is
    connected, or the event is a calm one. -/
def Undisturbed (fuel : Nat) (w : Traced α) (ev : Event α) : Prop :=
  ∀ serveraddr e t, ev = .tunnel serveraddr e → w.lac.l2tpServers serveraddr = some t →
    faults fuel e = none ∧ (t.isconnected = false → Calm fuel w.lac.psink t e)

theorem calm_indication (fuel : Nat) (psink indication : Bool) (t : CL2TPTunnel)
    (e : CL2TPTunnel.Event) : Calm fuel psink { t with indication } e ↔ Calm fuel psink t e := by
  cases e <;> exact Iff.rfl

theorem served_of_sound (h : Sound t a) (ht : t.isconnected = false → t.timer = true) :
    Served (some t) a := by
  refine ⟨h.few, ?_, nofun⟩
  rintro _ ⟨⟩ hc
  exact ⟨ht hc, (h.asking (ht hc)).early, h.silent⟩

theorem served_of_gone (hfew : a.sccrqs.length ≤ 11) (h : a.answered = false → a.failures = 1) :
    Served none a :=
  ⟨hfew, nofun, fun _ _ ha => h ha⟩

theorem served_connected (hf : faults fuel e = none) (h : Sound t a) (hc : t.isconnected = true)
    (hr : reaches t e) : Served (left fuel t e) (a.goesOn fuel t e) := by
  have hsound := soundAt_connected hf h hc hr
  obtain ⟨hgoes, -, hc'⟩ := goes_connected fuel h hc hr
  cases hrem : (t.step fuel e).1.removed with
  | true =>
    rw [left_gone hrem, hgoes]
    exact served_of_gone h.few fun hno => absurd ((h.connected hc).2.symm.trans hno) (by decide)
  | false =>
    rw [left_kept hrem] at hsound ⊢
    exact served_of_sound hsound fun hno => absurd (hc'.symm.trans hno) (by decide)

/-- **An event of a waiting tunnel leaves the server served exactly if it is undisturbed.** -/
theorem served_waiting_iff (hf : faults fuel e = none) (h : Sound t a)
    (hc : t.isconnected = false) (htimer : t.timer = true) (hr : reaches t e) :
    Served (left fuel t e) (a.goesOn fuel t e) ↔ Calm fuel t.indication t e := by
  have hsound := soundAt_left hf h hr
  have hans := (h.waiting hc).2.2
  cases turn hf h.kept hc (h.waiting hc).1 hr with
  | rests u hleft htrial hgoes hexp hm =>
    rw [hleft] at hsound ⊢
    exact iff_of_true (served_of_sound hsound fun _ => (congrArg (·.1) htrial).trans htimer)
      ⟨hm, fun he => absurd (hexp.symm.trans he) (by decide)⟩
  | foreign m hm hf hleft hgoes =>
    exact iff_of_false (fun hserved => Bool.false_ne_true (hserved.2.1 _ hleft hc).1)
      fun hok => (hok.1 m hm).1 hf
  | answered u hleft hcon htimer' hkept hgoes hexp hm =>
    rw [hleft] at hsound ⊢
    exact iff_of_true (served_of_sound hsound fun hno => absurd (hcon.symm.trans hno) (by decide))
      ⟨hm, fun he => absurd (hexp.symm.trans he) (by decide)⟩
  | stopped m hm hs hleft hgoes =>
    rw [hleft, hgoes]
    refine iff_of_false (fun hserved => ?_) fun hok => (hok.1 m hm).2 hs
    have hone := hserved.2.2 rfl h.made hans
    rw [h.silent] at hone
    cases hone
  | asks hcount hleft hgoes hexp hm =>
    rw [hleft] at hsound ⊢
    exact iff_of_true (served_of_sound hsound fun _ => htimer)
      ⟨hm, fun _ hlate => absurd hcount (not_le.mpr hlate)⟩
  | givesUp hcount hleft hgoes hexp hm =>
    rw [hleft, hgoes]
    have hfail : a.failures + t.indication.toNat = 1 ↔ t.indication = true := by
      rw [h.silent]
      cases t.indication <;> decide
    exact ⟨fun hserved => ⟨hm, fun _ _ => hfail.mp (hserved.2.2 rfl h.made hans)⟩,
      fun hok => served_of_gone h.few fun _ => hfail.mpr (hok.2 hexp hcount)⟩

/-- An event that reaches no tunnel, or does the process no harm, leaves it running. -/
theorem fault_trace (hsound : AllSound w) (hrun : w.lac.fault = none)
    (hok : Undisturbed fuel w ev) : (trace fuel w ev).lac.fault = none := by
  cases ev with
  | makeTunnel psink addr =>
    cases hs : w.lac.l2tpServers addr <;> simp [trace, step, makeTunnel, hs, hrun]
  | tunnel addr e =>
    cases hs : w.lac.l2tpServers addr with
    | none => simp [trace, step, tunnelStep, hs, hrun]
    | some t =>
      cases hr : reaches t e with
      | false => simp [trace, step, tunnelStep, hs, hr, hrun]
      | true => exact (trace_goes hrun hsound fuel hs hr).1.trans (hok addr e t rfl hs).1

/-- **One event keeps every server served**, if it disturbs no waiting tunnel. -/
theorem allServed_trace (hsound : AllSound w) (h : AllServed w) (hok : Undisturbed fuel w ev) :
    AllServed (trace fuel w ev) := by
  refine ⟨fault_trace hsound h.1 hok, fun serveraddr => ?_⟩
  cases moves hsound fuel ev serveraddr with
  | stays hserver hattempt =>
    rw [hserver, hattempt]
    exact h.2 serveraddr
  | made psink t ht hev hserver hattempt =>
    rw [hserver, hattempt]
    subst ht
    exact served_of_sound (sound_made _ psink) fun _ => rfl
  | goes t e hev hs hr _ hf hserver hattempt =>
    have ht := hsound.tunnel hs w.lac.psink
    rw [hserver, hattempt]
    by_cases hc : t.isconnected = true
    · exact served_connected hf ht hc hr
    have hc := eq_false_of_ne_true hc
    have htimer : t.timer = true := ((h.2 serveraddr).2.1 t hs hc).1
    have hcalm := (calm_indication fuel w.lac.psink w.lac.psink t e).mpr
      ((hok serveraddr e t hev hs).2 hc)
    exact (served_waiting_iff hf ht hc htimer hr).mpr hcalm

/-- An event that ends the process or disturbs a waiting tunnel is felt at once. -/
theorem undisturbed_of_served (hsound : AllSound w) (h : AllServed w)
    (h' : AllServed (trace fuel w ev)) : Undisturbed fuel w ev := by
  intro serveraddr e t hev hs
  have ht := hsound.tunnel hs w.lac.psink
  cases hr : reaches t e with
  | false =>
    -- datagrams and the timer reach every tunnel
    cases e with
    | input buffer n => cases hr
    | timeout => cases hr
    | _ => exact ⟨rfl, fun _ => ⟨nofun, nofun⟩⟩
  | true =>
    obtain ⟨hfault, hserver, hattempt⟩ := trace_goes h.1 hsound fuel hs hr
    rw [hev] at h'
    have hf : faults fuel e = none := hfault.symm.trans h'.1
    refine ⟨hf, fun hc => ?_⟩
    have htimer : t.timer = true := ((h.2 serveraddr).2.1 t hs hc).1
    have hserved := h'.2 serveraddr
    rw [hserver hf, hattempt] at hserved
    exact (calm_indication fuel w.lac.psink w.lac.psink t e).mp
      ((served_waiting_iff hf ht hc htimer hr).mp hserved)

/-! ## 6. The numbers of the requests -/

/-- All SCCRQs of the last tunnel made for a server carry the same `Ns`. -/
def SameNs (w : Traced α) : Prop :=
  ∀ serveraddr, ∀ x ∈ (w.attempt serveraddr).sccrqs, ∀ y ∈ (w.attempt serveraddr).sccrqs, x = y

/-- No retry timer expires while the process runs. -/
def InTime (w : Traced α) (ev : Event α) : Prop :=
  w.lac.fault = none → ∀ serveraddr t, ev = .tunnel serveraddr .timeout →
    w.lac.l2tpServers serveraddr = some t → t.timer = false

theorem mem_countdown {k n : Nat} (h : k < n) : k.toUInt16 ∈ countdown n := by
  induction n with
  | zero => exact absurd h (Nat.not_lt_zero k)
  | succ n ih =>
    rcases Nat.lt_succ_iff_lt_or_eq.mp h with hlt | rfl
    · exact List.mem_cons_of_mem _ (ih hlt)
    · exact List.mem_cons_self

theorem countdown_not_same {n : Nat} (hn : 2 ≤ n)
    (h : ∀ x ∈ countdown n, ∀ y ∈ countdown n, x = y) : False := by
  have h01 := h _ (mem_countdown (k := 0) (by omega)) _ (mem_countdown (k := 1) (by omega))
  exact absurd h01 (by decide)

theorem sccrqs_goesOn (hf : faults fuel e = none) (h : Sound t a) (hr : reaches t e)
    (hexp : expires t e = false) : (a.goesOn fuel t e).sccrqs = a.sccrqs := by
  cases hc : t.isconnected with
  | true => rw [(goes_connected fuel h hc hr).1]
  | false =>
    cases turn hf h.kept hc (h.waiting hc).1 hr with
    | rests _ _ _ hgoes => rw [hgoes]
    | foreign _ _ _ _ hgoes => rw [hgoes]
    | answered _ _ _ _ _ hgoes => rw [hgoes]
    | stopped _ _ _ _ hgoes => rw [hgoes]
    | asks _ _ _ hexp' => exact absurd (hexp.symm.trans hexp') (by decide)
    | givesUp _ _ _ hexp' => exact absurd (hexp.symm.trans hexp') (by decide)

theorem sameNs_trace (hsound : AllSound w) (h : SameNs w) (hok : InTime w ev) :
    SameNs (trace fuel w ev) := by
  intro serveraddr
  cases moves hsound fuel ev serveraddr with
  | stays hserver hattempt =>
    rw [hattempt]
    exact h serveraddr
  | made psink t ht hev hserver hattempt =>
    rw [hattempt, startConnectRequest_acts.1]
    intro x hx y hy
    rw [List.mem_singleton.mp hx, List.mem_singleton.mp hy]
  | goes t e hev hs hr hrun hf hserver hattempt =>
    have hexp : expires { t with indication := w.lac.psink } e = false := by
      cases e with
      | timeout => exact hok hrun serveraddr t hev hs
      | _ => rfl
    rw [hattempt, sccrqs_goesOn hf (hsound.tunnel hs w.lac.psink) hr hexp]
    exact h serveraddr

/-- After an expiry there are two requests, with different numbers. -/
theorem inTime_of_sameNs (hsound : AllSound w) (h' : SameNs (trace fuel w ev)) : InTime w ev := by
  intro hrun serveraddr t hev hs
  refine eq_false_of_ne_true fun htimer => ?_
  have ht := hsound.tunnel hs w.lac.psink
  obtain ⟨hcount', hnumber, hsent, -⟩ := ht.asking htimer
  have hsame := h' serveraddr
  rw [hev, (trace_goes hrun hsound fuel hs rfl).2.2] at hsame
  have hc : t.isconnected = false := eq_false_of_ne_true fun hcon =>
    absurd ((ht.connected hcon).1.symm.trans htimer) (by decide)
  have hturn : Turn fuel _ .timeout := turn rfl ht.kept hc (ht.waiting hc).1 rfl
  cases hturn with
  | rests _ _ _ _ hexp => exact absurd (hexp.symm.trans htimer) (by decide)
  | foreign _ hm => cases hm
  | answered _ _ _ _ _ _ hexp => exact absurd (hexp.symm.trans htimer) (by decide)
  | stopped _ hm => cases hm
  | asks _ _ hgoes =>
    rw [hgoes, hnumber, hsent] at hsame
    exact countdown_not_same (n := (w.attempt serveraddr).expiries + 1 + 1) (by omega) hsame
  | givesUp hcount _ hgoes =>
    rw [hgoes, hsent] at hsame
    refine countdown_not_same ?_ hsame
    have hlate : t.requestcount > 10 := hcount
    have hcount' : t.requestcount = _ := hcount'
    omega

/-! ## 7. Runs -/

/-- **Asking for tunnels, for every run of the concentrator and whatever the servers send.**
    Timers, reports and the number of requests are as they should be exactly while no datagram
    ends the process and no waiting tunnel is disturbed; the requests of a tunnel carry the same
    `Ns` exactly while no retry timer expires. -/
theorem tunnel_requests_iff (fuel : Nat) (evs : List (Event α)) :
    (Throughout (trace fuel) AllServed {} evs ↔ Along (trace fuel) (Undisturbed fuel) {} evs) ∧
      (Throughout (trace fuel) SameNs {} evs ↔ Along (trace fuel) InTime {} evs) := by
  constructor
  · refine throughout_iff_along (I := fun w => AllSound w ∧ AllServed w) ?_ ?_ ?_ ?_ evs
    · exact fun _ ev h hok => ⟨allSound_trace h.1 ev, allServed_trace h.1 h.2 hok⟩
    · exact fun _ h => h.2
    · exact fun _ _ h h' => undisturbed_of_served h.1 h.2 h'
    · exact ⟨allSound_start, rfl, fun _ => ⟨Nat.zero_le 11, nofun, nofun⟩⟩
  · refine throughout_iff_along (I := fun w => AllSound w ∧ SameNs w) ?_ ?_ ?_ ?_ evs
    · exact fun _ ev h hok => ⟨allSound_trace h.1 ev, sameNs_trace h.1 h.2 hok⟩
    · exact fun _ h => h.2
    · exact fun _ _ h h' => inTime_of_sameNs h.1 h'
    · exact ⟨allSound_start, fun _ _ hx => by cases hx⟩

/-- **One SCCRP that names tunnel 2 stops the timer of tunnel 1, which is not connected and stays
    in the table; and a retry takes the next `Ns`.** -/
theorem foreign_reply_strands :
    let w := run (trace 4) ({} : Traced Unit)
      [.makeTunnel true (), .tunnel () .timeout, .tunnel () (.input foreignReply 28)]
    (w.lac.l2tpServers ()).any (fun t => !t.isconnected && !t.timer) ∧
      (w.attempt ()).sccrqs = [1, 0] ∧ ¬ AllServed w ∧ ¬ SameNs w := by
  intro w
  have hstranded : (w.lac.l2tpServers ()).any (fun t => !t.isconnected && !t.timer) = true := by
    decide +kernel
  have hsent : (w.attempt ()).sccrqs = [1, 0] := by decide +kernel
  refine ⟨hstranded, hsent, fun h => ?_, fun h => ?_⟩
  · obtain ⟨t, ht, hno⟩ := (Option.any_eq_true ..).mp hstranded
    rw [Bool.and_eq_true, Bool.not_eq_true', Bool.not_eq_true'] at hno
    exact absurd (hno.2.symm.trans ((h.2 ()).2.1 t ht hno.1).1) (by decide)
  · have h01 := h ()
    rw [hsent] at h01
    exact absurd (h01 1 (by decide) 0 (by decide)) (by decide)

end CL2TPLAC

end OpenBras
