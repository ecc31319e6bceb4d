/-
  File:      OpenBras/L2TP/Calls.lean
  Subject:   THE CALLS OF A TUNNEL: when a session is indicated up at most once, and its sink hears
             of its end.

  An ICRP indicates the session it names up, and so does every further one. A CDN tells the sink
  of the session it removes. A tunnel that goes, by a StopCCN or because it gives up, takes its
  sessions along and tells nobody.

  * `Life`, `Monitored` -- a tunnel with a record of its sessions;
  * `Turn`, `turn`      -- what an event does to a session;
  * `calls_reported_iff` -- the calls are reported as they should be exactly in the runs in which
                          no session gets a second ICRP, and no tunnel goes with a session that was
                          indicated up and has a sink.
-/
import OpenBras.L2TP.Retries
import OpenBras.Lib.Table

namespace OpenBras

open Wire CL2TPControllMessage

namespace CL2TPTunnel

namespace Calls

/-! ## 1. Sessions and their record -/

/-- The session filed under `cid` in a tunnel that is not gone. -/
def live (t : CL2TPTunnel) (cid : UInt16) : Option CL2TPSession :=
  if t.removed then none else t.sessions cid

/-- How often `OnCallIndication(0, ..)` is called for the session. -/
def upsOf (cid : UInt16) (as : List L2tpAct) : Nat := as.count (.onCallIndication 0 cid)

/-- How often `OnSessionDisconnect` is called for the session. -/
def downsOf (cid : UInt16) (as : List L2tpAct) : Nat :=
  as.countP fun
    | .onSessionDisconnect _ c => c == cid
    | _ => false

/-- The last session filed under a number: how often it was indicated up, how often its sink
    heard of its end, and whether it was removed after it was up, with a sink. -/
structure Life where
  ups : Nat := 0
  downs : Nat := 0
  left : Bool := false

structure Monitored where
  tunnel : CL2TPTunnel
  life : UInt16 → Life := fun _ => {}

/-- An event of the session `s`, of which `after` is left. -/
def Life.goesOn (cid : UInt16) (s : CL2TPSession) (after : Option CL2TPSession)
    (as : List L2tpAct) (l : Life) : Life where
  ups := l.ups + upsOf cid as
  downs := l.downs + downsOf cid as
  left := after.isNone && decide (0 < l.ups) && s.psink

def monitor (fuel : Nat) (w : Monitored) (e : Event) : Monitored where
  tunnel := (w.tunnel.step fuel e).1
  life := fun cid =>
    match live w.tunnel cid with
    | some s =>
      (w.life cid).goesOn cid s (live (w.tunnel.step fuel e).1 cid) (w.tunnel.step fuel e).2
    | none => if (live (w.tunnel.step fuel e).1 cid).isSome then {} else w.life cid

/-- No session was indicated up twice, and one that was removed after it was up, with a sink, has
    had its sink told exactly once. -/
def Reported (w : Monitored) : Prop :=
  ∀ cid, (w.life cid).ups ≤ 1 ∧ ((w.life cid).left = true → (w.life cid).downs = 1)

/-- The tunnel goes: by a StopCCN, or because it gives up. -/
def Goes (fuel : Nat) (t : CL2TPTunnel) (e : Event) : Prop :=
  (∃ m, t.arriving fuel e = some m ∧ OwnStop t m) ∨
    (t.fault = none ∧ expires t e = true ∧ t.requestcount > 10)

/-- The message is an ICRP. -/
def CallReply (m : CL2TPControllMessage) : Prop := m.bzlb = false ∧ m.messatetype = ICRP

/-- An ICRP for a session that was indicated up does not arrive while there is a sink to indicate
    it to; and the tunnel does not go while a session that was indicated up has a sink. -/
def Careful (fuel : Nat) (w : Monitored) (e : Event) : Prop :=
  (∀ m, w.tunnel.arriving fuel e = some m → CallReply m →
    (w.tunnel.sessions m.cid).isSome → w.tunnel.pTunnelSink = true → (w.life m.cid).ups = 0) ∧
  (w.tunnel.removed = false → Goes fuel w.tunnel e → ∀ cid s, w.tunnel.sessions cid = some s →
    s.psink = true → (w.life cid).ups = 0)

/-! ## 2. What an event does to a session -/

/-- Nothing is said about the session. -/
def Hushed (cid : UInt16) (as : List L2tpAct) : Prop := upsOf cid as = 0 ∧ downsOf cid as = 0

/-- An ICRP for the session arrives. -/
def Replied (fuel : Nat) (t : CL2TPTunnel) (e : Event) (cid : UInt16) : Prop :=
  ∃ m, t.arriving fuel e = some m ∧ CallReply m ∧ m.cid = cid

/-- What an event of a tunnel that is not gone does to the session `s` filed under `cid`: it stays
    or is disconnected; or the tunnel goes, and takes it along. -/
structure Turn (fuel : Nat) (t : CL2TPTunnel) (e : Event) (cid : UInt16) (s : CL2TPSession) :
    Prop where
  replied : Replied fuel t e cid → upsOf cid (t.step fuel e).2 = t.pTunnelSink.toNat
  other : ¬ Replied fuel t e cid → upsOf cid (t.step fuel e).2 = 0
  goes : Goes fuel t e → live (t.step fuel e).1 cid = none ∧ downsOf cid (t.step fuel e).2 = 0
  stays : ¬ Goes fuel t e →
    ((live (t.step fuel e).1 cid).isSome ∧ downsOf cid (t.step fuel e).2 = 0) ∨
      (live (t.step fuel e).1 cid = none ∧ downsOf cid (t.step fuel e).2 = s.psink.toNat)

/-- The sessions are filed under their own numbers. -/
def Filed (t : CL2TPTunnel) : Prop := ∀ cid s, t.sessions cid = some s → s.localcid = cid

theorem filed_step {t : CL2TPTunnel} (h : Filed t) (fuel : Nat) (e : Event) :
    Filed (t.step fuel e).1 := by
  have hput : ∀ {c : UInt16} {o : Option CL2TPSession}, (∀ s, o = some s → s.localcid = c) →
      ∀ cid s, Function.update t.sessions c o cid = some s → s.localcid = cid := by
    intro c o ho cid s hs
    obtain ⟨rfl, ho'⟩ | ⟨-, hs⟩ := update_some hs
    · exact ho s ho'
    · exact h cid s hs
  unfold CL2TPTunnel.step
  split
  · exact h
  cases e with
  | input buffer n =>
    refine input_cases (P := fun r => Filed r.1) (fun m _ => ?_) (fun _ _ _ => h) (fun _ _ => h)
      fun _ _ _ => h
    have hm := handled t m
    generalize t.handleControllMessage m = r at hm ⊢
    cases hm with
    | callReply u _ _ hu => exact hput fun _ hs => Option.some.inj hs ▸ h m.cid u hu
    | callDown u _ _ hu => exact hput nofun
    | _ => exact h
  | timeout =>
    dsimp only
    split
    · unfold handleTimeout
      split <;> exact h
    · exact h
  | openWithSink c sink =>
    dsimp only [openWithSink]
    split
    · next u hu => exact hput fun _ hs => Option.some.inj hs ▸ h c u hu
    · exact h
  | makeIncomingCall proxy bUserProxy =>
    simp only [makeIncomingCall, startCall, sendControl, addSession]
    split
    · exact h
    · exact hput fun _ hs => Option.some.inj hs ▸ rfl
  | _ => exact h

variable (cid : UInt16) {t : CL2TPTunnel}

theorem hushed_nil : Hushed cid [] := ⟨rfl, rfl⟩

theorem hushed_append {cid : UInt16} {as bs : List L2tpAct} (ha : Hushed cid as)
    (hb : Hushed cid bs) : Hushed cid (as ++ bs) := by
  unfold Hushed upsOf downsOf at *
  rw [List.count_append, List.countP_append, ha.1, hb.1, ha.2, hb.2]
  exact ⟨rfl, rfl⟩

theorem hushed_send (d : Bytes) : Hushed cid [.sendData d] := by
  refine ⟨?_, rfl⟩
  exact List.count_eq_zero.mpr (by simp)

theorem hushed_onTunnelResult (result : Int) (tunnel : Bool) :
    Hushed cid (t.onTunnelResult result tunnel) := by
  unfold onTunnelResult
  split
  · exact ⟨List.count_eq_zero.mpr (by simp), rfl⟩
  · exact hushed_nil cid

theorem hushed_handlePayLoadMessage (msg : CL2TPDataMessage) :
    Hushed cid (t.handlePayLoadMessage msg) := by
  unfold handlePayLoadMessage
  split
  · exact hushed_nil cid
  split
  · split
    · exact ⟨List.count_eq_zero.mpr (by simp), rfl⟩
    · exact hushed_nil cid
  · exact hushed_nil cid

theorem upsOf_onSessionCallBack (c : UInt16) :
    upsOf cid (t.onSessionCallBack 0 c) = if c = cid then t.pTunnelSink.toNat else 0 := by
  unfold onSessionCallBack upsOf
  by_cases hc : c = cid
  · subst hc
    cases t.pTunnelSink <;> simp
  · rw [if_neg hc]
    cases t.pTunnelSink <;> simp [hc]

theorem downsOf_onSessionCallBack (c : UInt16) (result : Int) :
    downsOf cid (t.onSessionCallBack result c) = 0 := by
  unfold onSessionCallBack
  split <;> rfl

section Turn

variable {fuel : Nat} {t : CL2TPTunnel} {e : Event} {cid : UInt16} {s : CL2TPSession}
  {m : CL2TPControllMessage}

theorem live_of_kept {u : CL2TPTunnel} (h : u.removed = false) : live u cid = u.sessions cid := by
  rw [live, h, if_neg Bool.false_ne_true]

theorem turn_kept {r : CL2TPTunnel × List L2tpAct} (hstep : t.step fuel e = r)
    (hr : r.1.removed = false) (hs : (r.1.sessions cid).isSome) (has : Hushed cid r.2)
    (hno : ¬ Replied fuel t e cid) (hstays : ¬ Goes fuel t e) : Turn fuel t e cid s := by
  subst hstep
  exact ⟨fun h => absurd h hno, fun _ => has.1, fun h => absurd h hstays,
    fun _ => .inl ⟨by rw [live_of_kept hr]; exact hs, has.2⟩⟩

theorem turn_gone {r : CL2TPTunnel × List L2tpAct} (hstep : t.step fuel e = r)
    (hr : r.1.removed = true) (has : Hushed cid r.2) (hno : ¬ Replied fuel t e cid)
    (hgoes : Goes fuel t e) : Turn fuel t e cid s := by
  subst hstep
  exact ⟨fun h => absurd h hno, fun _ => has.1, fun _ => ⟨if_pos hr, has.2⟩,
    fun h => absurd hgoes h⟩

theorem handleIncomingCallReply_acts (cid c : UInt16) (u : CL2TPSession) :
    upsOf cid (t.handleIncomingCallReply m c u).2 =
        (if u.localcid = cid then t.pTunnelSink.toNat else 0) ∧
      downsOf cid (t.handleIncomingCallReply m c u).2 = 0 := by
  constructor
  · refine (List.count_cons_of_ne (by simp)).trans ?_
    exact upsOf_onSessionCallBack cid u.localcid
  · refine (List.countP_cons_of_neg (by simp)).trans ?_
    exact downsOf_onSessionCallBack cid u.localcid 0

theorem handleCallDisconnectNotify_acts (cid : UInt16) (u : CL2TPSession) :
    upsOf cid (t.handleCallDisconnectNotify m u).2 = 0 ∧
      downsOf cid (t.handleCallDisconnectNotify m u).2 =
        if u.localcid = cid then u.psink.toNat else 0 := by
  have hups : ∀ {d : Bytes} {as : List L2tpAct}, upsOf cid (.sendData d :: as) = upsOf cid as :=
    List.count_cons_of_ne (by simp)
  have hdowns : ∀ {d : Bytes} {as : List L2tpAct},
      downsOf cid (.sendData d :: as) = downsOf cid as := List.countP_cons_of_neg (by simp)
  rw [handleCallDisconnectNotify, controlZLB, hups, hdowns]
  by_cases hc : u.localcid = cid
  · rw [if_pos hc]
    cases u.psink <;> simp [upsOf, downsOf, hc]
  · rw [if_neg hc]
    cases u.psink <;> simp [upsOf, downsOf, hc]

theorem handleIncomingCallReply_live (hr : t.removed = false) (cid c : UInt16)
    (u : CL2TPSession) :
    live (t.handleIncomingCallReply m c u).1 cid =
      if cid = c then some { u with peercid := m.assigcallid } else t.sessions cid := by
  refine (live_of_kept (u := (t.handleIncomingCallReply m c u).1) hr).trans ?_
  exact Function.update_apply ..

theorem handleCallDisconnectNotify_live (hr : t.removed = false) (cid : UInt16)
    (u : CL2TPSession) :
    live (t.handleCallDisconnectNotify m u).1 cid =
      if cid = m.cid then none else t.sessions cid := by
  refine (live_of_kept (u := (t.handleCallDisconnectNotify m u).1) hr).trans ?_
  exact Function.update_apply ..

theorem turn_callReply {u : CL2TPSession} (hr : t.removed = false) (hs : t.sessions cid = some s)
    (hucid : u.localcid = m.cid) (harr : t.arriving fuel e = some m) (hreply : CallReply m)
    (hstep : t.step fuel e = (t.checkControlMessage m).handleIncomingCallReply m m.cid u)
    (hstays : ¬ Goes fuel t e) : Turn fuel t e cid s := by
  have hlive := handleIncomingCallReply_live (t := t.checkControlMessage m) (m := m) hr cid
    m.cid u
  obtain ⟨hups, hdowns⟩ := handleIncomingCallReply_acts (t := t.checkControlMessage m) (m := m)
    cid m.cid u
  rw [← hstep] at hlive hups hdowns
  refine ⟨?_, fun hno => ?_, fun h => absurd h hstays, fun _ => .inl ⟨?_, hdowns⟩⟩
  · rintro ⟨m', hm', -, rfl⟩
    cases harr.symm.trans hm'
    exact hups.trans (if_pos hucid)
  · exact hups.trans (if_neg fun hc => hno ⟨m, harr, hreply, hucid.symm.trans hc⟩)
  · rw [hlive]
    split
    · rfl
    · exact Option.isSome_of_eq_some hs

theorem turn_callDown {u : CL2TPSession} (hr : t.removed = false) (hs : t.sessions cid = some s)
    (hu : t.sessions m.cid = some u) (hucid : u.localcid = m.cid) (hno : ¬ Replied fuel t e cid)
    (hstep : t.step fuel e = (t.checkControlMessage m).handleCallDisconnectNotify m u)
    (hstays : ¬ Goes fuel t e) : Turn fuel t e cid s := by
  have hlive := handleCallDisconnectNotify_live (t := t.checkControlMessage m) (m := m) hr cid u
  obtain ⟨hups, hdowns⟩ := handleCallDisconnectNotify_acts (t := t.checkControlMessage m)
    (m := m) cid u
  rw [← hstep] at hlive hups hdowns
  refine ⟨fun h => absurd h hno, fun _ => hups, fun h => absurd h hstays, fun _ => ?_⟩
  by_cases hc : m.cid = cid
  · subst hc
    cases hs.symm.trans hu
    exact .inr ⟨hlive.trans (if_pos rfl), hdowns.trans (if_pos hucid)⟩
  · refine .inl ⟨?_, hdowns.trans (if_neg fun h => hc (hucid.symm.trans h))⟩
    rw [hlive, if_neg (Ne.symm hc)]
    exact Option.isSome_of_eq_some hs

theorem turn_control (hr : t.removed = false) (hfiled : Filed t) (hs : t.sessions cid = some s)
    (harr : t.arriving fuel e = some m) (hexp : expires t e = false)
    (hstep : t.step fuel e = t.handleControllMessage m) : Turn fuel t e cid s := by
  have hgoes : Goes fuel t e → OwnStop t m := by
    rintro (⟨m', hm', hstop⟩ | ⟨-, he, -⟩)
    · cases harr.symm.trans hm'
      exact hstop
    · exact absurd (hexp.symm.trans he) (by decide)
  have hother : ¬ (CallReply m ∧ m.cid = cid) → ¬ Replied fuel t e cid := by
    rintro hno ⟨m', hm', h⟩
    cases harr.symm.trans hm'
    exact hno h
  have htype : ∀ {k : UInt16}, m.messatetype = k → k ≠ ICRP → ¬ Replied fuel t e cid :=
    fun hk hne => hother fun hc => hne (hk.symm.trans hc.1.2)
  have hstay : ∀ {k : UInt16}, m.messatetype = k → k ≠ StopCCN → ¬ Goes fuel t e :=
    fun hk hne hg => hne (hk.symm.trans (hgoes hg).2.1)
  have hs' : (t.sessions cid).isSome := Option.isSome_of_eq_some hs
  have h := handled t m
  rw [← hstep] at h
  generalize hstep' : t.step fuel e = r at h
  cases h with
  | zlb hz =>
    refine turn_kept hstep' hr hs' (hushed_nil cid) (hother fun h => ?_) fun hg => ?_
    · exact absurd (h.1.1.symm.trans hz) (by decide)
    · exact absurd ((hgoes hg).1.symm.trans hz) (by decide)
  | foreignReply _ hm =>
    exact turn_kept hstep' hr hs' (hushed_nil cid) (htype hm (by decide)) (hstay hm (by decide))
  | reply _ hm =>
    refine turn_kept hstep' hr hs' ?_ (htype hm (by decide)) (hstay hm (by decide))
    exact hushed_append (hushed_send cid _) (hushed_onTunnelResult cid 0 true)
  | stop hz hm htid hpeer =>
    exact turn_gone hstep' rfl (hushed_send cid _) (htype hm (by decide))
      (.inl ⟨m, harr, hz, hm, htid, hpeer⟩)
  | hello _ hm =>
    exact turn_kept hstep' hr hs' (hushed_send cid _) (htype hm (by decide)) (hstay hm (by decide))
  | callReply u hz hm hu =>
    exact turn_callReply hr hs (hfiled m.cid u hu) harr ⟨hz, hm⟩ hstep' (hstay hm (by decide))
  | callDown u _ hm hu =>
    exact turn_callDown hr hs hu (hfiled m.cid u hu) (htype hm (by decide)) hstep'
      (hstay hm (by decide))
  | noted _ hm hno =>
    refine turn_kept hstep' hr hs' (hushed_nil cid) (hother fun h => ?_) fun hg => ?_
    · rcases hno with hnone | hno
      · rw [h.2, hs] at hnone
        cases hnone
      · exact hno (by simp [h.1.2])
    · rw [(hgoes hg).2.1] at hm
      exact absurd hm (by decide)
  | passed _ _ hstop _ hm =>
    refine turn_kept hstep' hr hs' (hushed_nil cid) (hother fun h => hm ?_)
      fun hg => hstop (hgoes hg).2.1 (hgoes hg).2.2
    rw [h.1.2]
    decide

theorem makeIncomingCall_sessions (proxy : L2tpSessionProxy) (bUserProxy : Bool)
    (hs : t.sessions cid = some s) :
    (t.makeIncomingCall proxy bUserProxy).1.removed = t.removed ∧
      (t.makeIncomingCall proxy bUserProxy).1.sessions cid = some s := by
  simp only [makeIncomingCall, startCall, sendControl, addSession]
  split
  · exact ⟨rfl, hs⟩
  next hnone =>
    refine ⟨rfl, ?_⟩
    have hc : cid ≠ t.sessionidbase := fun hc => by
      rw [← hc, hs] at hnone
      cases hnone
    exact (Function.update_of_ne hc ..).trans hs

theorem openWithSink_sessions (hr : t.removed = false) (hs : t.sessions cid = some s)
    (c : UInt16) (sink : Bool) : (t.openWithSink c sink).removed = false ∧
      ((t.openWithSink c sink).sessions cid).isSome := by
  have hs : (t.sessions cid).isSome := Option.isSome_of_eq_some hs
  unfold openWithSink
  split
  · refine ⟨hr, ?_⟩
    dsimp only
    rw [Function.update_apply]
    split
    · rfl
    · exact hs
  · exact ⟨hr, hs⟩

/-- **What an event does to a session.** -/
theorem turn (hr : t.removed = false) (hfiled : Filed t) (hs : t.sessions cid = some s)
    (e : Event) : Turn fuel t e cid s := by
  have hs' : (t.sessions cid).isSome := Option.isSome_of_eq_some hs
  have hquiet : ∀ {e : Event}, t.arriving fuel e = none →
      ¬ (t.fault = none ∧ expires t e = true ∧ t.requestcount > 10) → ¬ Goes fuel t e := by
    rintro e harr hexp (⟨m, hm, -⟩ | h)
    · cases harr.symm.trans hm
    · exact hexp h
  have hcalm : ∀ {e : Event}, t.arriving fuel e = none → expires t e = false → ¬ Goes fuel t e :=
    fun harr hexp => hquiet harr fun h => by cases hexp.symm.trans h.2.1
  have hnone : ∀ {e : Event}, t.arriving fuel e = none → ¬ Replied fuel t e cid := by
    rintro e harr ⟨m, hm, -⟩
    cases harr.symm.trans hm
  have hstep := CL2TPTunnel.step.eq_def fuel t e
  cases hf : t.fault with
  | some fault =>
    -- the process does nothing more
    have hh : t.halted = true := by rw [halted, hr, hf]; rfl
    rw [if_pos hh] at hstep
    have harr : t.arriving fuel e = none := by cases e <;> first | rfl | exact if_pos hh
    exact turn_kept hstep hr hs' (hushed_nil cid) (hnone harr)
      (hquiet harr fun h => by cases hf.symm.trans h.1)
  | none =>
  have hh : t.halted = false := halted_eq_false.mpr ⟨hr, hf⟩
  rw [if_neg (ne_true_of_eq_false hh)] at hstep
  cases e with
  | input buffer n =>
    have harr : t.arriving fuel (.input buffer n) = controlMessage fuel buffer n := by
      rw [arriving, hh, if_neg Bool.false_ne_true]
    dsimp only at hstep
    cases hm : controlMessage fuel buffer n with
    | some m =>
      rw [input_control hm] at hstep
      exact turn_control hr hfiled hs (harr.trans hm) rfl hstep
    | none =>
      have harr := harr.trans hm
      have hkept : (t.input fuel buffer n).1.removed = false ∧
          ((t.input fuel buffer n).1.sessions cid).isSome ∧ Hushed cid (t.input fuel buffer n).2 :=
        input_cases (P := fun r => r.1.removed = false ∧ (r.1.sessions cid).isSome ∧ Hushed cid r.2)
          (fun _ h => by cases hm.symm.trans h)
          (fun msg _ _ => ⟨hr, hs', hushed_handlePayLoadMessage cid msg⟩)
          (fun _ _ => ⟨hr, hs', hushed_nil cid⟩) fun _ _ _ => ⟨hr, hs', hushed_nil cid⟩
      exact turn_kept hstep hkept.1 hkept.2.1 hkept.2.2 (hnone harr) (hcalm harr rfl)
  | timeout =>
    dsimp only at hstep
    cases ht : t.timer with
    | false =>
      rw [ht, if_neg Bool.false_ne_true] at hstep
      exact turn_kept hstep hr hs' (hushed_nil cid) (hnone rfl) (hcalm rfl ht)
    | true =>
      rw [ht, if_pos rfl, handleTimeout] at hstep
      by_cases hcount : t.requestcount > 10
      · rw [if_pos hcount] at hstep
        exact turn_gone hstep rfl (hushed_onTunnelResult cid (-1) false) (hnone rfl)
          (.inr ⟨hf, ht, hcount⟩)
      · rw [if_neg hcount] at hstep
        exact turn_kept hstep hr hs' (hushed_send cid _) (hnone rfl)
          (hquiet rfl fun h => hcount h.2.2)
  | openWithSink c sink =>
    obtain ⟨hr', hs'⟩ := openWithSink_sessions hr hs c sink
    exact turn_kept hstep hr' hs' (hushed_nil cid) (hnone rfl) (hcalm rfl rfl)
  | makeIncomingCall proxy bUserProxy =>
    obtain ⟨hr', hs'⟩ := makeIncomingCall_sessions proxy bUserProxy hs
    exact turn_kept hstep (hr'.trans hr) (Option.isSome_of_eq_some hs') (hushed_send cid _)
      (hnone rfl) (hcalm rfl rfl)
  | sessionSendData c data =>
    refine turn_kept hstep hr hs' ?_ (hnone rfl) (hcalm rfl rfl)
    dsimp only [sessionSendData]
    split
    · split
      · exact hushed_nil cid
      · exact hushed_send cid _
    · exact hushed_nil cid
  | openSink sink => exact turn_kept hstep hr hs' (hushed_nil cid) (hnone rfl) (hcalm rfl rfl)
  | _ => exact turn_kept hstep hr hs' (hushed_send cid _) (hnone rfl) (hcalm rfl rfl)

end Turn

/-! ## 3. Runs -/

/-- The sessions are filed under their own numbers, and no sink of one that is there has heard of
    its end. -/
structure Kept (w : Monitored) : Prop where
  filed : Filed w.tunnel
  silent : ∀ cid s, live w.tunnel cid = some s → (w.life cid).downs = 0

variable {fuel : Nat} {w : Monitored} {e : Event}

theorem live_eq_some {cid : UInt16} {s : CL2TPSession} :
    live t cid = some s ↔ t.removed = false ∧ t.sessions cid = some s := by
  unfold live
  cases t.removed <;> simp

theorem Kept.turn (h : Kept w) (fuel : Nat) {cid : UInt16} {s : CL2TPSession}
    (hs : live w.tunnel cid = some s) : Turn fuel w.tunnel e cid s := by
  obtain ⟨hr, hs⟩ := live_eq_some.mp hs
  exact Calls.turn hr h.filed hs e

theorem life_of_live {cid : UInt16} {s : CL2TPSession} (hs : live w.tunnel cid = some s) :
    (monitor fuel w e).life cid = (w.life cid).goesOn cid s
      (live (w.tunnel.step fuel e).1 cid) (w.tunnel.step fuel e).2 := by
  simp only [monitor, hs]

theorem life_of_absent {cid : UInt16} (hs : live w.tunnel cid = none) :
    (monitor fuel w e).life cid =
      if (live (w.tunnel.step fuel e).1 cid).isSome then {} else w.life cid := by
  simp only [monitor, hs]

/-- **Every event keeps the record.** -/
theorem kept_monitor (h : Kept w) (e : Event) : Kept (monitor fuel w e) := by
  refine ⟨filed_step h.filed fuel e, fun cid s' hs' => ?_⟩
  have hs' : live (w.tunnel.step fuel e).1 cid = some s' := hs'
  cases hs : live w.tunnel cid with
  | none =>
    rw [life_of_absent hs, hs', Option.isSome_some, if_pos rfl]
  | some s =>
    have ht : Turn fuel w.tunnel e cid s := h.turn fuel hs
    rw [life_of_live hs]
    show (w.life cid).downs + downsOf cid (w.tunnel.step fuel e).2 = 0
    rw [h.silent cid s hs, Nat.zero_add]
    by_cases hgoes : Goes fuel w.tunnel e
    · exact (ht.goes hgoes).2
    · obtain ⟨-, hdowns⟩ | ⟨hnone, -⟩ := ht.stays hgoes
      · exact hdowns
      · cases hs'.symm.trans hnone

/-- One event reports as it should, if it is a careful one. -/
theorem reported_monitor (h : Kept w) (hrep : Reported w) (hok : Careful fuel w e) :
    Reported (monitor fuel w e) := by
  intro cid
  cases hs : live w.tunnel cid with
  | none =>
    rw [life_of_absent hs]
    split
    · exact ⟨Nat.zero_le 1, nofun⟩
    · exact hrep cid
  | some s =>
    obtain ⟨hr, hsess⟩ := live_eq_some.mp hs
    have ht : Turn fuel w.tunnel e cid s := h.turn fuel hs
    rw [life_of_live hs]
    constructor
    · show (w.life cid).ups + upsOf cid _ ≤ 1
      by_cases hup : Replied fuel w.tunnel e cid
      · rw [ht.replied hup]
        obtain ⟨m, hm, hreply, rfl⟩ := hup
        cases hsink : w.tunnel.pTunnelSink with
        | false => exact (hrep m.cid).1
        | true =>
          rw [hok.1 m hm hreply (Option.isSome_of_eq_some hsess) hsink]
          exact Nat.le_refl 1
      · rw [ht.other hup]
        exact (hrep cid).1
    · intro hleft
      have hleft : (Option.isNone _ && decide (0 < (w.life cid).ups) && s.psink) = true := hleft
      rw [Bool.and_eq_true, Bool.and_eq_true, decide_eq_true_iff, Option.isNone_iff_eq_none]
        at hleft
      obtain ⟨⟨hgone, hpos⟩, hpsink⟩ := hleft
      show (w.life cid).downs + downsOf cid _ = 1
      by_cases hgoes : Goes fuel w.tunnel e
      · rw [hok.2 hr hgoes cid s hsess hpsink] at hpos
        exact absurd hpos (Nat.lt_irrefl 0)
      · obtain ⟨hstays, -⟩ | ⟨-, hdowns⟩ := ht.stays hgoes
        · rw [hgone] at hstays
          cases hstays
        · rw [h.silent cid s hs, hdowns, hpsink]
          rfl

/-- An event that is not careful breaks the reporting at once. -/
theorem careful_of_reported (h : Kept w) (hrep : Reported (monitor fuel w e)) :
    Careful fuel w e := by
  constructor
  · intro m hm hreply hsome hsink
    obtain ⟨s, hsess⟩ := Option.isSome_iff_exists.mp hsome
    have hs := live_eq_some.mpr ⟨(halted_eq_false.mp (step_arriving hm).1).1, hsess⟩
    have hups := (hrep m.cid).1
    rw [life_of_live hs] at hups
    have hups : (w.life m.cid).ups + upsOf m.cid (w.tunnel.step fuel e).2 ≤ 1 := hups
    rw [(h.turn fuel hs).replied ⟨m, hm, hreply, rfl⟩, hsink] at hups
    exact Nat.le_zero.mp (Nat.le_of_succ_le_succ hups)
  · intro hr hgoes cid s hsess hsink
    have hs := live_eq_some.mpr ⟨hr, hsess⟩
    obtain ⟨hlive, hsilent⟩ := (h.turn fuel hs).goes hgoes
    refine Nat.eq_zero_of_not_pos fun hpos => ?_
    have hone := (hrep cid).2
    rw [life_of_live hs] at hone
    have hleft : ((w.life cid).goesOn cid s (live (w.tunnel.step fuel e).1 cid)
        (w.tunnel.step fuel e).2).left = true := by
      show ((live (w.tunnel.step fuel e).1 cid).isNone && decide (0 < (w.life cid).ups) &&
        s.psink) = true
      rw [hlive, hsink, decide_eq_true hpos]
      rfl
    have hdowns : (w.life cid).downs + downsOf cid (w.tunnel.step fuel e).2 = 1 := hone hleft
    rw [h.silent cid s hs, hsilent] at hdowns
    cases hdowns

/-- **Every session is indicated up at most once, and one that was up and has a sink has it told
    exactly once when it is removed, exactly in the runs whose events are all careful.** -/
theorem calls_reported_iff (fuel : Nat) (tid : UInt16) (es : List Event) :
    Throughout (monitor fuel) Reported { tunnel := { ourtid := tid } } es ↔
      Along (monitor fuel) (Careful fuel) { tunnel := { ourtid := tid } } es := by
  refine throughout_iff_along (I := fun w => Kept w ∧ Reported w) ?_ ?_ ?_ ?_ es
  · exact fun _ e h hok => ⟨kept_monitor h.1 e, reported_monitor h.1 h.2 hok⟩
  · exact fun _ h => h.2
  · exact fun _ _ h h' => careful_of_reported h.1 h'
  · exact ⟨⟨nofun, nofun⟩, fun _ => ⟨Nat.zero_le 1, nofun⟩⟩

/-- An ICRP for call 1 of tunnel 1. -/
def callReply (ns : UInt16) : Bytes :=
  add_control_hdr (add_message_type_avp ICRP ++ add_callid_avp 5) 1 1 ns 1

/-- A StopCCN of the peer's tunnel 7. -/
def stopNotification : Bytes :=
  add_control_hdr (add_message_type_avp StopCCN ++ add_tunnelid_avp 7) 1 0 2 1

/-- **The second ICRP indicates the session up again; and the StopCCN takes the session away
    without a word to its sink.** -/
theorem repeated_reply_and_stop :
    ¬ Reported (run (monitor 4) { tunnel := { ourtid := 1 } }
        [.input ownReply 28, .openSink true, .makeIncomingCall {} false, .input (callReply 1) 28,
          .input (callReply 2) 28]) ∧
      ¬ Reported (run (monitor 4) { tunnel := { ourtid := 1 } }
        [.input ownReply 28, .openSink true, .makeIncomingCall {} false, .input (callReply 1) 28,
          .openWithSink 1 true, .input stopNotification 28]) := by
  constructor
  · intro h
    exact absurd (h 1).1 (by decide +kernel)
  · intro h
    exact absurd ((h 1).2 (by decide +kernel)) (by decide +kernel)

end Calls

end CL2TPTunnel

end OpenBras
