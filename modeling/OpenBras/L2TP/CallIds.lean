/-
  File:      OpenBras/L2TP/CallIds.lean
  Subject:   THE NUMBERS OF THE CALLS: when the call id that an ICRQ announces is one under which
             the new session is filed.

  `GetIncreaseCid` counts in 16 bits and never looks at the table, and `MakeIncomingCall` does not
  look at the answer of `AddSession`. After 65535 calls the id is 0, which RFC 2661 does not
  allow, and after that it can be that of a session that is still there: the ICRQ then announces
  the number of the old session, and the new one is in no table.

  * `Numbered`  -- a tunnel with a clock and, for each call id, the moment its session was filed;
  * `Announced` -- one step: what its ICRQ announces, and the live sessions behind it;
  * `calls_numbered_iff` -- a run announces as it should exactly if at every call the next number
                   is neither 0 nor in use.
-/
import OpenBras.L2TP.Calls

namespace OpenBras

open Wire CL2TPControllMessage

namespace CL2TPTunnel

open Calls

/-! ## 1. The record -/

/-- The call id that an ICRQ announces: the value of the AVP behind the message type. -/
def announcedCall (d : Bytes) : Option UInt16 :=
  if sentType d = some ICRQ then some (getShort d (CONTROL_HDR + 8 + AVP_HDR)) else none

/-- A tunnel, how many events it has seen, and when the session under each number was filed. -/
structure Numbered where
  tunnel : CL2TPTunnel
  clock : Nat := 0
  filed : UInt16 → Option Nat := fun _ => none

/-- The moment of filing, for the session that was there before and the one that is there now. -/
def filedAt (clock : Nat) (before after : Option CL2TPSession) (filed : Option Nat) : Option Nat :=
  match before, after with
  | _, none => none
  | none, some _ => some clock
  | some _, some _ => filed

def number (fuel : Nat) (w : Numbered) (e : Event) : Numbered where
  tunnel := (w.tunnel.step fuel e).1
  clock := w.clock + 1
  filed := fun cid =>
    filedAt w.clock (live w.tunnel cid) (live (w.tunnel.step fuel e).1 cid) (w.filed cid)

/-- Sessions that are there have different call ids. -/
def Distinct (t : CL2TPTunnel) : Prop :=
  ∀ c c' s s', live t c = some s → live t c' = some s' → s.localcid = s'.localcid → c = c'

/-- **One step as it should be**: an ICRQ announces a call id other than 0 under which a session
    is filed at this moment, and the sessions that are there then have different ids. -/
structure Announced (fuel : Nat) (w : Numbered) (e : Event) : Prop where
  stored : ∀ d c, L2tpAct.sendData d ∈ (w.tunnel.step fuel e).2 → announcedCall d = some c →
    c ≠ 0 ∧ (number fuel w e).filed c = some w.clock
  distinct : Distinct (number fuel w e).tunnel

/-- The next number is neither 0 nor in use. -/
def Free (t : CL2TPTunnel) : Event → Prop
  | .makeIncomingCall _ _ =>
    t.halted = false → t.sessionidbase ≠ 0 ∧ t.sessions t.sessionidbase = none
  | _ => True

/-! ## 2. One step -/

/-- What the record is sure of. -/
structure Sure (w : Numbered) : Prop where
  key : Filed w.tunnel
  past : ∀ cid k, w.filed cid = some k → k < w.clock

variable {fuel : Nat} {w : Numbered} {e : Event}

theorem sure_number (fuel : Nat) (h : Sure w) (e : Event) : Sure (number fuel w e) := by
  refine ⟨filed_step h.key fuel e, fun cid k hk => ?_⟩
  have hk : filedAt _ _ _ _ = some k := hk
  show k < w.clock + 1
  unfold filedAt at hk
  split at hk
  · cases hk
  · cases hk
    exact Nat.lt_succ_self _
  · exact Nat.lt_succ_of_lt (h.past cid k hk)

theorem distinct_number (h : Sure w) (e : Event) : Distinct (number fuel w e).tunnel := by
  intro c c' s s' hs hs' heq
  have hkey := (sure_number fuel h e).key
  rw [← hkey c s (live_eq_some.mp hs).2, ← hkey c' s' (live_eq_some.mp hs').2, heq]

theorem sentType_of_datagram {nr : UInt16} {type : Option UInt16} {d : Bytes}
    (h : Datagram nr type d) : sentType d = type := by
  cases h with
  | control type avps tid cid ns => exact sentType_control ..
  | zlb tid cid ns => exact sentType_zlb ..
  | data length tid cid payload =>
    rw [sentType, List.append_assoc, List.append_assoc, List.append_assoc, getShort_putShort,
      if_neg (by rintro ⟨h, -⟩; exact absurd h (by decide))]

theorem announcedCall_icrq (callid : UInt16) (avps : Bytes) (tid cid ns nr : UInt16) :
    announcedCall (add_control_hdr (add_message_type_avp ICRQ ++ (add_callid_avp callid ++ avps))
      tid cid ns nr) = some callid := by
  rw [announcedCall, sentType_control, if_pos rfl]
  exact congrArg some (getShort_putShort callid avps)

theorem announcedCall_startCall (s : CL2TPSession) (t : CL2TPTunnel) :
    ∃ d, (t.startCall s).2 = [.sendData d] ∧ announcedCall d = some s.localcid := by
  simp only [startCall, sendControl, List.append_assoc]
  exact ⟨_, rfl, announcedCall_icrq ..⟩

theorem announcedCall_of_sent {t : CL2TPTunnel} {d : Bytes} {c : UInt16}
    (hd : L2tpAct.sendData d ∈ (t.step fuel e).2) (hc : announcedCall d = some c) :
    ∃ proxy b, e = .makeIncomingCall proxy b := by
  have hicrq : sentType d = some ICRQ := by
    unfold announcedCall at hc
    split at hc
    · assumption
    · cases hc
  obtain ⟨type, hdatagram, htypes⟩ := step_sends fuel t e d hd
  have hmem : ICRQ ∈ sentTypes e := htypes ICRQ ((sentType_of_datagram hdatagram).symm.trans hicrq)
  cases e with
  | makeIncomingCall proxy b => exact ⟨proxy, b, rfl⟩
  | _ =>
    change ICRQ ∈ [SCCRQ, StopCCN, SCCCN, ICCN] at hmem
    exact absurd hmem (by decide)

theorem makeIncomingCall_eq {t : CL2TPTunnel} (hr : t.removed = false) (proxy : L2tpSessionProxy)
    (b : Bool) :
    ∃ d, (t.makeIncomingCall proxy b).2 = [.sendData d] ∧
      announcedCall d = some t.sessionidbase ∧
      (live (t.makeIncomingCall proxy b).1 t.sessionidbase).isSome := by
  obtain ⟨d, hd, hc⟩ := announcedCall_startCall
    { localcid := t.sessionidbase, proxy := proxy, bisProxy := b }
    (addSession t.sessionidbase { localcid := t.sessionidbase, proxy := proxy, bisProxy := b }
      { t with sessionidbase := t.sessionidbase + 1 })
  refine ⟨d, hd, hc, ?_⟩
  simp only [makeIncomingCall, startCall, sendControl, addSession]
  cases hs : t.sessions t.sessionidbase with
  | none =>
    simp only [live, hr, Bool.false_eq_true, if_false, Function.update_self,
      Option.isSome_some]
  | some s => simp only [live, hr, Bool.false_eq_true, if_false, hs, Option.isSome_some]

/-- The session of a call is filed by it exactly if there was none under its number. -/
theorem filed_makeIncomingCall (fuel : Nat) (h : Sure w) (hr : w.tunnel.halted = false)
    (proxy : L2tpSessionProxy) (b : Bool) :
    (number fuel w (.makeIncomingCall proxy b)).filed w.tunnel.sessionidbase = some w.clock ↔
      w.tunnel.sessions w.tunnel.sessionidbase = none := by
  have hkept := (halted_eq_false.mp hr).1
  obtain ⟨-, -, -, hthere⟩ := makeIncomingCall_eq hkept proxy b
  have hstep : w.tunnel.step fuel (.makeIncomingCall proxy b) =
      w.tunnel.makeIncomingCall proxy b := if_neg (ne_true_of_eq_false hr)
  obtain ⟨s, hs⟩ := Option.isSome_iff_exists.mp hthere
  rw [number, hstep]
  dsimp only
  rw [hs, live_of_kept hkept]
  cases hold : w.tunnel.sessions w.tunnel.sessionidbase with
  | none => exact iff_of_true rfl rfl
  | some old =>
    refine iff_of_false (fun hclock => ?_) (fun hnone => by cases hnone)
    exact absurd (h.past _ _ hclock) (Nat.lt_irrefl _)

/-- **A step is as it should be exactly if the next number is free when it is needed.** -/
theorem announced_iff_free (h : Sure w) (e : Event) : Announced fuel w e ↔ Free w.tunnel e := by
  cases e with
  | makeIncomingCall proxy b =>
    cases hr : w.tunnel.halted with
    | true =>
      have hstep : w.tunnel.step fuel (.makeIncomingCall proxy b) = (w.tunnel, []) := if_pos hr
      refine iff_of_true ⟨fun d c hd _ => ?_, distinct_number h _⟩ fun hkept => ?_
      · rw [hstep] at hd
        cases hd
      · exact absurd (hr.symm.trans hkept) (by decide)
    | false =>
      obtain ⟨d, hd, hc, -⟩ := makeIncomingCall_eq (halted_eq_false.mp hr).1 proxy b
      have hstep : w.tunnel.step fuel (.makeIncomingCall proxy b) =
          w.tunnel.makeIncomingCall proxy b := if_neg (ne_true_of_eq_false hr)
      have hfiled := filed_makeIncomingCall fuel h hr proxy b
      constructor
      · intro hann _
        have hstored := hann.stored d _ (by rw [hstep, hd]; exact List.mem_singleton_self _) hc
        exact ⟨hstored.1, hfiled.mp hstored.2⟩
      · intro hfree
        obtain ⟨hzero, hnone⟩ := hfree hr
        refine ⟨fun d' c' hd' hc' => ?_, distinct_number h _⟩
        rw [hstep, hd, List.mem_singleton, L2tpAct.sendData.injEq] at hd'
        subst hd'
        cases hc.symm.trans hc'
        exact ⟨hzero, hfiled.mpr hnone⟩
  | _ =>
    refine iff_of_true ⟨fun d c hd hc => ?_, distinct_number h _⟩ trivial
    obtain ⟨proxy, b, he⟩ := announcedCall_of_sent hd hc
    cases he

/-! ## 3. Runs -/

theorem sure_start (tid peertid : UInt16) :
    Sure { tunnel := { ourtid := tid, peertid := peertid } } := ⟨nofun, nofun⟩

/-- **Every ICRQ announces a number other than 0 under which its session is filed, exactly in the
    runs in which at every call the next number is neither 0 nor in use.** -/
theorem calls_numbered_iff (fuel : Nat) (tid peertid : UInt16) (es : List Event) :
    Along (number fuel) (Announced fuel) { tunnel := { ourtid := tid, peertid := peertid } } es ↔
      Along (next fuel) Free { ourtid := tid, peertid := peertid } es := by
  have hstep : Along (number fuel) (Announced fuel)
      { tunnel := { ourtid := tid, peertid := peertid } } es ↔
        Along (number fuel) (fun w => Free w.tunnel) _ es :=
    along_congr_of_keeps (I := Sure) (fun w e h => sure_number fuel h e)
      (fun w e h => announced_iff_free h e) (sure_start tid peertid) es
  exact hstep.trans (along_part Numbered.tunnel (fun _ _ => rfl) _ es)

theorem tunnel_run (fuel : Nat) (w : Numbered) (es : List Event) :
    (run (number fuel) w es).tunnel = run (next fuel) w.tunnel es := by
  induction es generalizing w with
  | nil => rfl
  | cons e es ih => exact ih (number fuel w e)

theorem makeIncomingCall_counts (proxy : L2tpSessionProxy) (b : Bool) (t : CL2TPTunnel) :
    (t.makeIncomingCall proxy b).1.halted = t.halted ∧
      (t.makeIncomingCall proxy b).1.sessionidbase = t.sessionidbase + 1 := by
  simp only [makeIncomingCall, startCall, sendControl, addSession]
  split <;> exact ⟨rfl, rfl⟩

/-- A call without a proxy. -/
def call : Event := .makeIncomingCall {} false

theorem run_calls (fuel : Nat) (n : Nat) :
    let t := run (next fuel) { ourtid := 1 } (List.replicate n call)
    t.halted = false ∧ t.sessionidbase = 1 + UInt16.ofNat n ∧
      (0 < n → (t.sessions 1).isSome) := by
  induction n with
  | zero => exact ⟨rfl, rfl, fun h => absurd h (Nat.lt_irrefl 0)⟩
  | succ n ih =>
    rw [List.replicate_succ', run_append]
    generalize run (next fuel) { ourtid := 1 } (List.replicate n call) = t at ih ⊢
    obtain ⟨hr, hbase, hfirst⟩ := ih
    have hstep : run (next fuel) t [call] = (t.makeIncomingCall {} false).1 :=
      congrArg Prod.fst (if_neg (ne_true_of_eq_false hr))
    obtain ⟨hr', hbase'⟩ := makeIncomingCall_counts {} false t
    rw [hstep]
    refine ⟨hr'.trans hr, ?_, fun _ => ?_⟩
    · rw [hbase', hbase, UInt16.ofNat_add, ← UInt16.add_assoc]
      rfl
    obtain rfl | hpos := Nat.eq_zero_or_pos n
    · obtain ⟨-, -, -, hthere⟩ := makeIncomingCall_eq (halted_eq_false.mp hr).1 {} false
      rw [live_of_kept (halted_eq_false.mp (hr'.trans hr)).1, hbase] at hthere
      exact hthere
    · obtain ⟨s, hs⟩ := Option.isSome_iff_exists.mp (hfirst hpos)
      rw [(makeIncomingCall_sessions {} false hs).2]
      rfl

/-- The call after `n` calls, all of them still there. -/
theorem announced_after {n : Nat}
    (h : Announced 0 (run (number 0) { tunnel := { ourtid := 1 } } (List.replicate n call)) call) :
    1 + UInt16.ofNat n ≠ 0 ∧ (0 < n → 1 + UInt16.ofNat n ≠ 1) := by
  have hsure : Sure (run (number 0) { tunnel := { ourtid := 1 } } (List.replicate n call)) :=
    run_keeps (I := Sure) (fun w e h => sure_number 0 h e) (sure_start 1 0) _
  have hfree := (announced_iff_free hsure call).mp h
  rw [tunnel_run] at hfree
  obtain ⟨hr, hbase, hfirst⟩ := run_calls 0 n
  obtain ⟨hzero, hnone⟩ := hfree hr
  rw [hbase] at hzero hnone
  refine ⟨hzero, fun hpos hone => ?_⟩
  rw [hone] at hnone
  exact absurd (hfirst hpos) (by rw [hnone]; decide)

/-- **The 65536th call is announced under the number 0, and the one after it under that of the
    first, which is still there.** -/
theorem numbers_run_out :
    let w (n : Nat) := run (number 0) { tunnel := { ourtid := 1 } } (List.replicate n call)
    ¬ Announced 0 (w 65535) call ∧ ¬ Announced 0 (w 65536) call := by
  constructor
  · exact fun h => (announced_after h).1 (by decide)
  · exact fun h => (announced_after h).2 (by decide) (by decide)

end CL2TPTunnel

end OpenBras
