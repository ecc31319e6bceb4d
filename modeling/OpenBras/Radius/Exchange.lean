/-
  File:      OpenBras/Radius/Exchange.lean
  Subject:   REQUESTS AND THEIR CALLBACKS: over every history of a `CRadiusConnector`, the
             callback of a request is invoked exactly once, and the request is sent at most
             once more than the configured number of retransmissions.

  `SendMessage` returns -1 in two cases. If the identifier is taken, the transaction is
  destroyed and nothing is left of it. If `sendto` fails, the transaction stays in the table,
  and its timer, too, although the caller was told that nothing was sent: the callback comes
  later (`failed_send_called_back`). As long as `sendto` does not fail there, the exchange is as
  it should be (`exchange_sound`), with one proviso: the reactor repeats a timer only if its
  interval is not 0.

  A response is taken here as it reaches `RecvResponse`; what `handle_input` does before that is
  the subject of OpenBras/Radius/Connector.lean.
-/
import OpenBras.Lib.Run
import OpenBras.Lib.Table
import OpenBras.Radius.Connector

namespace OpenBras

namespace CRadiusConnector

open CRadiusMessage (sampleEnv)

variable (e : RadiusEnv)

/-! ## 1. Histories -/

inductive Event where
  /-- A call of `SendMessage`, at a time, with or without a callback; `sendto` succeeds or not. -/
  | sendMessage (time : UInt32) (msg : CRadiusMessage) (callback sendto : Bool)
  /-- A response for the transaction under an identifier. -/
  | response (id : UInt8)
  /-- The timer of the transaction under an identifier expires. -/
  | timeout (id : UInt8) (sendto : Bool)

/-- One event. A call of `SendMessage` and its result are recorded here; a fault in it ends the
    process, and there is nothing left to follow. -/
def step (c : CRadiusConnector) : Event → CRadiusConnector
  | .sendMessage time msg callback sendto =>
    match c.sendMessage e time msg callback sendto with
    | .ok (result, c') =>
      { c' with calls := c.calls ++ [{ callback := callback, result := result }] }
    | .error _ => c
  | .response id =>
    match c.findTransaction id with
    | some t => t.recvResponse c
    | none => c
  | .timeout id sendto =>
    match c.m_trans id with
    | some t => if t.timer then t.handleTimeout sendto c else c
    | none => c

/-- How often the callback of the `n`-th call of `SendMessage` was invoked. -/
def invocations (n : Nat) (c : CRadiusConnector) : Nat := c.invoked.countP fun p => p.1 = n

/-- A transaction of the `n`-th call is outstanding. -/
def Outstanding (n : Nat) (c : CRadiusConnector) : Prop :=
  ∃ id t, c.m_trans id = some t ∧ t.call = n

/-- The exchange is sound: identifiers are not shared; a callback whose call returned 0 has been
    invoked once, or not yet and then it will be after the next expirations of the timer; one
    whose call returned -1 has not been invoked, and nothing is left that could; and no request
    was sent more often than it may. -/
structure Sound (c : CRadiusConnector) : Prop where
  distinct : ∀ id id' t t', c.m_trans id = some t → c.m_trans id' = some t' →
    t.m_identifier = t'.m_identifier → id = id'
  once : ∀ n call, c.calls[n]? = some call → call.callback = true → call.result = 0 →
    c.invocations n = 1 ∨ c.invocations n = 0 ∧ ∃ id, ∀ sendtos : List Bool,
      e.retransmit.toNat < sendtos.length →
        (run (step e) c (sendtos.map (.timeout id))).invocations n = 1
  never : ∀ n call, c.calls[n]? = some call → call.result ≠ 0 →
    c.invocations n = 0 ∧ ¬ c.Outstanding n
  kinds : ∀ p ∈ c.invoked, p.2 = TRRESPONSE ∨ p.2 = TRTIMEOUT
  sends : ∀ n, c.transmitted.count n ≤ 1 + e.retransmit.toNat

/-! ## 2. The invariant -/

/-- A transaction in the table. -/
structure Stored (c : CRadiusConnector) (id : UInt8) (t : CRadiusTransaction) : Prop where
  identifier : t.m_identifier = id
  retrans : t.m_retrans = e.retransmit
  timeout : t.m_timeout = e.responsetimeout
  timer : t.timer = true
  count : t.m_requestcount ≤ e.retransmit
  call : c.calls[t.call]? = some { callback := t.m_callback, result := 0 }
  sent : c.transmitted.count t.call = t.m_requestcount.toNat + 1
  waiting : c.invocations t.call = 0

structure Inv (c : CRadiusConnector) : Prop where
  stored : ∀ id t, c.m_trans id = some t → Stored e c id t
  single : ∀ id id' t t', c.m_trans id = some t → c.m_trans id' = some t' →
    t.call = t'.call → id = id'
  answered : ∀ n call, c.calls[n]? = some call → call.callback = true → call.result = 0 →
    c.invocations n = 1 ∨ c.Outstanding n
  refused : ∀ n call, c.calls[n]? = some call → call.result ≠ 0 →
    c.invocations n = 0 ∧ ¬ c.Outstanding n
  kinds : ∀ p ∈ c.invoked, p.2 = TRRESPONSE ∨ p.2 = TRTIMEOUT
  sends : ∀ n, c.transmitted.count n ≤ 1 + e.retransmit.toNat
  fresh : ∀ n, c.calls.length ≤ n → c.transmitted.count n = 0 ∧ c.invocations n = 0

theorem inv_start : Inv e {} where
  stored := nofun
  single := nofun
  answered := nofun
  refused := nofun
  kinds := nofun
  sends := fun _ => Nat.zero_le _
  fresh := fun _ _ => ⟨rfl, rfl⟩

variable {e} {c : CRadiusConnector} {id : UInt8} {t u : CRadiusTransaction}

theorem Stored.call_lt (h : Stored e c id t) :
    t.call < c.calls.length := (List.getElem?_eq_some_iff.mp h.call).1

theorem Inv.call_ne (h : Inv e c) {i : UInt8} (ht : c.m_trans id = some t)
    (hu : c.m_trans i = some u) (hne : i ≠ id) : t.call ≠ u.call :=
  fun hc => hne (h.single i id u t hu ht hc.symm)

theorem setTransaction_self (id : UInt8) (t : Option CRadiusTransaction) (c : CRadiusConnector) :
    (c.setTransaction id t).m_trans id = t := Function.update_self ..

theorem setTransaction_of_ne {i : UInt8} (h : i ≠ id) (t : Option CRadiusTransaction)
    (c : CRadiusConnector) : (c.setTransaction id t).m_trans i = c.m_trans i :=
  Function.update_of_ne h ..

theorem setTransaction_some {i : UInt8} {t : Option CRadiusTransaction}
    (h : (c.setTransaction id t).m_trans i = some u) :
    i = id ∧ t = some u ∨ i ≠ id ∧ c.m_trans i = some u := update_some h

/-- The end of a transaction, by a response or by the last expiration of its timer. -/
def finish (t : CRadiusTransaction) (type : Int) (c : CRadiusConnector) : CRadiusConnector :=
  { c.setTransaction t.m_identifier none with
    invoked := if t.m_callback then (t.call, type) :: c.invoked else c.invoked }

theorem finish_eq (t : CRadiusTransaction) (type : Int) (c : CRadiusConnector) :
    (c.invoke t type).removeTransaction t.m_identifier = c.finish t type := by
  unfold finish invoke
  split <;> rfl

theorem finish_invocations (t : CRadiusTransaction) (type : Int) (c : CRadiusConnector) (n : Nat) :
    (c.finish t type).invocations n =
      c.invocations n + if t.m_callback = true ∧ t.call = n then 1 else 0 := by
  unfold invocations finish
  by_cases hc : t.m_callback = true
  · simp [hc, List.countP_cons]
  · simp [hc]

theorem finish_some {type : Int} (h : (c.finish t type).m_trans id = some u) :
    id ≠ t.m_identifier ∧ c.m_trans id = some u := by
  obtain ⟨-, hn⟩ | h := setTransaction_some h
  · cases hn
  · exact h

/-- **The end of a transaction keeps the invariant.** -/
theorem Inv.finish (h : Inv e c) (ht : c.m_trans id = some t) {type : Int}
    (htype : type = TRRESPONSE ∨ type = TRTIMEOUT) : Inv e (c.finish t type) := by
  have st := h.stored id t ht
  refine ⟨?_, ?_, ?_, ?_, ?_, h.sends, ?_⟩
  · intro i u hu
    obtain ⟨hi, hu⟩ := finish_some hu
    refine { h.stored i u hu with waiting := ?_ }
    rw [finish_invocations, if_neg fun hc => h.call_ne ht hu (st.identifier ▸ hi) hc.2]
    exact (h.stored i u hu).waiting
  · intro i j u v hu hv
    exact h.single i j u v (finish_some hu).2 (finish_some hv).2
  · intro n call hn hcb hr
    rw [finish_invocations]
    by_cases hc : t.call = n
    · subst hc
      obtain rfl : _ = call := Option.some.inj (st.call.symm.trans hn)
      rw [if_pos ⟨hcb, rfl⟩, st.waiting]
      exact .inl rfl
    · rw [if_neg fun h => hc h.2]
      refine (h.answered n call hn hcb hr).imp (fun h => h) ?_
      rintro ⟨i, u, hu, rfl⟩
      refine ⟨i, u, (setTransaction_of_ne ?_ ..).trans hu, rfl⟩
      rintro rfl
      rw [st.identifier, ht] at hu
      cases hu
      exact hc rfl
  · intro n call hn hr
    obtain ⟨h0, hno⟩ := h.refused n call hn hr
    refine ⟨?_, ?_⟩
    · rw [finish_invocations, if_neg fun hc => hno ⟨id, t, ht, hc.2⟩]
      exact h0
    · rintro ⟨i, u, hu, hc⟩
      exact hno ⟨i, u, (finish_some hu).2, hc⟩
  · intro p hp
    have hp : p ∈ if t.m_callback then (t.call, type) :: c.invoked else c.invoked := hp
    split at hp
    · obtain rfl | hp := List.mem_cons.mp hp
      · exact htype
      · exact h.kinds p hp
    · exact h.kinds p hp
  · intro n hn
    have hn : c.calls.length ≤ n := hn
    have hlt := st.call_lt
    rw [finish_invocations, if_neg (by omega)]
    exact h.fresh n hn

/-- The retransmission of a request. -/
def resend (t : CRadiusTransaction) (c : CRadiusConnector) : CRadiusConnector :=
  { c with transmitted := t.call :: c.transmitted }.setTransaction t.m_identifier
    (some { t with m_requestcount := t.m_requestcount + 1, timer := t.m_timeout ≠ 0 })

theorem resend_some (h : (c.resend t).m_trans id = some u) :
    id = t.m_identifier ∧
        u = { t with m_requestcount := t.m_requestcount + 1, timer := t.m_timeout ≠ 0 } ∨
      id ≠ t.m_identifier ∧ c.m_trans id = some u :=
  (setTransaction_some h).imp (fun h => ⟨h.1, (Option.some.inj h.2).symm⟩) (fun h => h)

theorem resend_count (t : CRadiusTransaction) (c : CRadiusConnector) (n : Nat) :
    (c.resend t).transmitted.count n = c.transmitted.count n + if t.call = n then 1 else 0 := by
  simp [resend, setTransaction, List.count_cons]

theorem resend_outstanding (ht : c.m_trans t.m_identifier = some t) (n : Nat) :
    (c.resend t).Outstanding n ↔ c.Outstanding n := by
  constructor
  · rintro ⟨i, u, hu, hc⟩
    obtain ⟨-, rfl⟩ | ⟨-, hu⟩ := resend_some hu
    · exact ⟨_, t, ht, hc⟩
    · exact ⟨i, u, hu, hc⟩
  · rintro ⟨i, u, hu, hc⟩
    by_cases hi : i = t.m_identifier
    · rw [hi, ht] at hu
      cases hu
      exact ⟨_, _, setTransaction_self .., hc⟩
    · exact ⟨i, u, (setTransaction_of_ne hi ..).trans hu, hc⟩

/-- The counter does not wrap. -/
theorem requestcount_succ (hlt : t.m_requestcount < t.m_retrans) :
    (t.m_requestcount + 1).toNat = t.m_requestcount.toNat + 1 := by
  have hnat := UInt32.lt_iff_toNat_lt.mp hlt
  have := t.m_retrans.toNat_lt
  rw [UInt32.toNat_add, UInt32.toNat_one, Nat.mod_eq_of_lt (by omega)]

/-- **A retransmission keeps the invariant.** -/
theorem Inv.resend (h : Inv e c) (hrep : e.responsetimeout ≠ 0 ∨ e.retransmit = 0)
    (ht : c.m_trans t.m_identifier = some t) (hlt : t.m_requestcount < t.m_retrans) :
    Inv e (c.resend t) := by
  have st := h.stored _ t ht
  have hsucc := requestcount_succ hlt
  rw [st.retrans] at hlt
  have hnat := UInt32.lt_iff_toNat_lt.mp hlt
  have hne : e.responsetimeout ≠ 0 := by
    refine hrep.resolve_right fun h0 => ?_
    rw [h0] at hnat
    exact absurd hnat (Nat.not_lt_zero _)
  refine ⟨?_, ?_, ?_, ?_, h.kinds, ?_, ?_⟩
  · intro i u hu
    obtain ⟨rfl, rfl⟩ | ⟨hi, hu⟩ := resend_some hu
    · refine { st with timer := ?_, count := ?_, sent := ?_ }
      · simpa [st.timeout] using hne
      · rw [UInt32.le_iff_toNat_le, hsucc]
        exact hnat
      · rw [resend_count, if_pos rfl, st.sent, hsucc]
    · refine { h.stored i u hu with sent := ?_ }
      rw [resend_count, if_neg (h.call_ne ht hu hi)]
      exact (h.stored i u hu).sent
  · intro i j u v hu hv hc
    obtain ⟨rfl, rfl⟩ | ⟨hi, hu⟩ := resend_some hu
    · obtain ⟨rfl, -⟩ | ⟨-, hv⟩ := resend_some hv
      · rfl
      · exact h.single _ _ t v ht hv hc
    · obtain ⟨rfl, rfl⟩ | ⟨-, hv⟩ := resend_some hv
      · exact h.single _ _ u t hu ht hc
      · exact h.single i j u v hu hv hc
  · intro n call hn hcb hr
    rw [resend_outstanding ht]
    exact h.answered n call hn hcb hr
  · intro n call hn hr
    rw [resend_outstanding ht]
    exact h.refused n call hn hr
  · intro n
    rw [resend_count]
    by_cases hc : t.call = n
    · subst hc
      rw [if_pos rfl, st.sent]
      omega
    · rw [if_neg hc]
      exact h.sends n
  · intro n hn
    have hlt := st.call_lt
    have hn : c.calls.length ≤ n := hn
    rw [resend_count, if_neg (by omega)]
    exact h.fresh n hn

/-- The identifier of the next request. -/
def nextId (c : CRadiusConnector) : UInt8 := (c.m_nIdentifierBase + 1).toUInt8

/-- After a call of `SendMessage` that is refused. -/
def refuse (callback : Bool) (c : CRadiusConnector) : CRadiusConnector :=
  { c with
    m_nIdentifierBase := c.m_nIdentifierBase + 1,
    calls := c.calls ++ [{ callback := callback, result := -1 }] }

/-- After a call of `SendMessage` that makes a transaction. -/
def accept (e : RadiusEnv) (msg : CRadiusMessage) (callback : Bool) (result : Int)
    (c : CRadiusConnector) : CRadiusConnector :=
  { c.setTransaction c.nextId (some (.make e c.nextId msg callback c.calls.length)) with
    m_nIdentifierBase := c.m_nIdentifierBase + 1,
    transmitted := c.calls.length :: c.transmitted,
    calls := c.calls ++ [{ callback := callback, result := result }] }

/-- **What a call of `SendMessage` does.** -/
theorem step_sendMessage (time : UInt32) (msg : CRadiusMessage) (callback sendto : Bool) :
    c.step e (.sendMessage time msg callback sendto) = c ∨
      c.m_trans c.nextId ≠ none ∧
        c.step e (.sendMessage time msg callback sendto) = c.refuse callback ∨
      c.m_trans c.nextId = none ∧ ∃ m, c.step e (.sendMessage time msg callback sendto) =
        c.accept e m callback (if sendto then 0 else -1) := by
  simp only [nextId, step]
  cases hm : CRadiusMessage.calcAuthenticator e time e.sharedKey
      (msg.setIdentifier (c.m_nIdentifierBase + 1).toUInt8) with
  | error f =>
    simp only [sendMessage, hm]
    exact .inl rfl
  | ok m =>
    cases ht : c.m_trans (c.m_nIdentifierBase + 1).toUInt8 with
    | some t =>
      simp only [sendMessage, hm, addTransaction, ht]
      exact .inr (.inl ⟨nofun, rfl⟩)
    | none =>
      simp only [sendMessage, hm, addTransaction, ht]
      exact .inr (.inr ⟨trivial, m, rfl⟩)

theorem calls_append {call call' : Call} {n : Nat} (h : (c.calls ++ [call'])[n]? = some call) :
    c.calls[n]? = some call ∨ n = c.calls.length ∧ call = call' := by
  obtain hlt | hge := Nat.lt_or_ge n c.calls.length
  · rw [List.getElem?_append_left hlt] at h
    exact .inl h
  rw [List.getElem?_append_right hge, List.getElem?_singleton] at h
  split at h
  · exact .inr ⟨by omega, (Option.some.inj h).symm⟩
  · cases h

theorem calls_keep {call call' : Call} {n : Nat} (h : c.calls[n]? = some call) :
    (c.calls ++ [call'])[n]? = some call := by
  rw [List.getElem?_append_left (List.getElem?_eq_some_iff.mp h).1]
  exact h

theorem Inv.not_outstanding (h : Inv e c) {n : Nat} (hn : c.calls.length ≤ n) :
    ¬ c.Outstanding n := by
  rintro ⟨i, u, hu, rfl⟩
  have := (List.getElem?_eq_some_iff.mp (h.stored i u hu).call).1
  omega

/-- **A refused call keeps the invariant.** -/
theorem Inv.refuse (h : Inv e c) (callback : Bool) : Inv e (c.refuse callback) := by
  refine ⟨?_, h.single, ?_, ?_, h.kinds, h.sends, ?_⟩
  · intro i u hu
    exact { h.stored i u hu with call := calls_keep (h.stored i u hu).call }
  · intro n call hn hcb hr
    obtain hn | ⟨-, rfl⟩ := calls_append hn
    · exact h.answered n call hn hcb hr
    · cases hr
  · intro n call hn hr
    obtain hn | ⟨rfl, -⟩ := calls_append hn
    · exact h.refused n call hn hr
    · exact ⟨(h.fresh _ le_rfl).2, h.not_outstanding le_rfl⟩
  · intro n hn
    have hn : c.calls.length + 1 ≤ n := by simpa [CRadiusConnector.refuse] using hn
    exact h.fresh n (by omega)

theorem accept_some {m : CRadiusMessage} {callback : Bool} {result : Int} {i : UInt8}
    (h : (c.accept e m callback result).m_trans i = some u) :
    i = c.nextId ∧ u = .make e c.nextId m callback c.calls.length ∨
      i ≠ c.nextId ∧ c.m_trans i = some u :=
  (setTransaction_some h).imp (fun h => ⟨h.1, (Option.some.inj h.2).symm⟩) (fun h => h)

/-- **A call that makes a transaction and returns 0 keeps the invariant.** -/
theorem Inv.accept (h : Inv e c) (hfree : c.m_trans c.nextId = none) (m : CRadiusMessage)
    (callback : Bool) : Inv e (c.accept e m callback 0) := by
  have hcount : ∀ n, (c.accept e m callback 0).transmitted.count n =
      c.transmitted.count n + if c.calls.length = n then 1 else 0 := by
    simp [CRadiusConnector.accept, List.count_cons]
  have hnew := h.fresh _ (le_refl c.calls.length)
  have older : ∀ i u, c.m_trans i = some u → u.call ≠ c.calls.length :=
    fun i u hu hc => h.not_outstanding le_rfl ⟨i, u, hu, hc⟩
  refine ⟨?_, ?_, ?_, ?_, h.kinds, ?_, ?_⟩
  · intro i u hu
    obtain ⟨rfl, rfl⟩ | ⟨-, hu⟩ := accept_some hu
    · refine ⟨rfl, rfl, rfl, rfl, UInt32.zero_le, ?_, ?_, hnew.2⟩
      · show (c.calls ++ [_])[c.calls.length]? = _
        rw [List.getElem?_append_right le_rfl, Nat.sub_self]
        rfl
      · rw [hcount, CRadiusTransaction.make, if_pos rfl, hnew.1]
        rfl
    · have su := h.stored i u hu
      refine { su with call := calls_keep su.call, sent := ?_ }
      rw [hcount, if_neg (older i u hu).symm]
      exact su.sent
  · intro i j u v hu hv hc
    obtain ⟨rfl, rfl⟩ | ⟨-, hu⟩ := accept_some hu
    · obtain ⟨rfl, -⟩ | ⟨-, hv⟩ := accept_some hv
      · rfl
      · exact absurd hc.symm (older j v hv)
    · obtain ⟨rfl, rfl⟩ | ⟨-, hv⟩ := accept_some hv
      · exact absurd hc (older i u hu)
      · exact h.single i j u v hu hv hc
  · intro n call hn hcb hr
    obtain hn | ⟨rfl, -⟩ := calls_append hn
    · refine (h.answered n call hn hcb hr).imp (fun h => h) ?_
      rintro ⟨i, u, hu, hc⟩
      refine ⟨i, u, (setTransaction_of_ne ?_ ..).trans hu, hc⟩
      rintro rfl
      rw [hfree] at hu
      cases hu
    · exact .inr ⟨c.nextId, _, setTransaction_self .., rfl⟩
  · intro n call hn hr
    obtain hn | ⟨-, rfl⟩ := calls_append hn
    · obtain ⟨h0, hno⟩ := h.refused n call hn hr
      refine ⟨h0, ?_⟩
      rintro ⟨i, u, hu, hc⟩
      obtain ⟨-, rfl⟩ | ⟨-, hu⟩ := accept_some hu
      · have hlt := (List.getElem?_eq_some_iff.mp hn).1
        exact absurd hc hlt.ne'
      · exact hno ⟨i, u, hu, hc⟩
    · exact absurd rfl hr
  · intro n
    rw [hcount]
    by_cases hc : c.calls.length = n
    · rw [← hc, if_pos rfl, hnew.1]
      omega
    · rw [if_neg hc]
      exact h.sends n
  · intro n hn
    have hn : c.calls.length + 1 ≤ n := by simpa [CRadiusConnector.accept] using hn
    rw [hcount, if_neg (by omega)]
    exact h.fresh n (by omega)

/-! ## 3. Steps and runs -/

/-- `sendto` does not fail in `SendMessage`. -/
def SendsOk (c : CRadiusConnector) : Event → Prop
  | .sendMessage _ _ _ sendto => sendto = true ∨ c.m_trans c.nextId ≠ none
  | .response _ => True
  | .timeout _ _ => True

instance (c : CRadiusConnector) : ∀ ev, Decidable (c.SendsOk ev)
  | .sendMessage _ _ _ _ => inferInstanceAs (Decidable (_ ∨ _))
  | .response _ => isTrue trivial
  | .timeout _ _ => isTrue trivial

theorem step_response (ht : c.m_trans id = some t) :
    step e c (.response id) = { c with handed := t :: c.handed }.finish t TRRESPONSE := by
  simp only [step, findTransaction, ht]
  exact finish_eq ..

theorem step_timeout (ht : c.m_trans id = some t) (htimer : t.timer = true) (sendto : Bool) :
    step e c (.timeout id sendto) =
      if t.m_requestcount ≥ t.m_retrans then c.finish t TRTIMEOUT else c.resend t := by
  simp only [step, ht, htimer, if_true, CRadiusTransaction.handleTimeout, finish_eq]
  rfl

theorem step_timeout_none (ht : c.m_trans id = none) (sendto : Bool) :
    step e c (.timeout id sendto) = c := by
  simp only [step, ht]

theorem Inv.handed (h : Inv e c) (ts : List CRadiusTransaction) :
    Inv e { c with handed := ts } :=
  { h with stored := fun i u hu => { h.stored i u hu with } }

/-- **One event keeps the invariant**, if `sendto` does not fail in `SendMessage`. -/
theorem Inv.step (h : Inv e c) (hrep : e.responsetimeout ≠ 0 ∨ e.retransmit = 0) {ev : Event}
    (hok : c.SendsOk ev) : Inv e (step e c ev) := by
  cases ev with
  | sendMessage time msg callback sendto =>
    obtain hs | ⟨-, hs⟩ | ⟨hfree, m, hs⟩ := step_sendMessage (c := c) (e := e) time msg callback sendto
    · rw [hs]
      exact h
    · rw [hs]
      exact h.refuse callback
    · rw [hs]
      obtain rfl | hne := hok
      · exact h.accept hfree m callback
      · exact absurd hfree hne
  | response id =>
    cases ht : c.m_trans id with
    | none =>
      simp only [CRadiusConnector.step, findTransaction, ht]
      exact h
    | some t =>
      rw [step_response ht]
      exact (h.handed (t :: c.handed)).finish ht (.inl rfl)
  | timeout id sendto =>
    cases ht : c.m_trans id with
    | none =>
      rw [step_timeout_none ht]
      exact h
    | some t =>
      have st := h.stored id t ht
      rw [step_timeout ht st.timer]
      split
      · exact h.finish ht (.inr rfl)
      · rename_i hlt
        exact h.resend hrep (st.identifier.symm ▸ ht) (UInt32.not_le.mp hlt)

theorem run_timeouts_none (ht : c.m_trans id = none) (sendtos : List Bool) :
    run (CRadiusConnector.step e) c (sendtos.map (.timeout id)) = c := by
  induction sendtos with
  | nil => rfl
  | cons sendto sendtos ih =>
    rw [List.map_cons, run_cons, step_timeout_none ht]
    exact ih

/-- **The timer brings the callback**: after as many expirations as there are retransmissions
    left, and one more, whether or not the retransmissions succeed. -/
theorem Inv.eventually (h : Inv e c) (hrep : e.responsetimeout ≠ 0 ∨ e.retransmit = 0)
    (ht : c.m_trans id = some t) (hcb : t.m_callback = true) {sendtos : List Bool}
    (hlen : e.retransmit.toNat < t.m_requestcount.toNat + sendtos.length) :
    (run (CRadiusConnector.step e) c (sendtos.map (.timeout id))).invocations t.call = 1 := by
  induction sendtos generalizing c t with
  | nil =>
    have := UInt32.le_iff_toNat_le.mp (h.stored id t ht).count
    simp only [List.length_nil] at hlen
    omega
  | cons sendto sendtos ih =>
    have st := h.stored id t ht
    obtain rfl := st.identifier
    rw [List.map_cons, run_cons, step_timeout ht st.timer]
    split
    · -- the last expiration; the ones behind it find nobody
      have hnone : (c.finish t TRTIMEOUT).m_trans t.m_identifier = none := setTransaction_self ..
      rw [run_timeouts_none hnone, finish_invocations, if_pos ⟨hcb, rfl⟩, st.waiting]
    · rename_i hlt
      have hlt := UInt32.not_le.mp hlt
      have hsucc := requestcount_succ hlt
      have hnext : (c.resend t).m_trans t.m_identifier = some _ := setTransaction_self ..
      have hleft : e.retransmit.toNat < (t.m_requestcount + 1).toNat + sendtos.length := by
        simp only [List.length_cons] at hlen
        omega
      have hrest := ih (h.resend hrep ht hlt) hnext hcb hleft
      exact hrest

theorem Inv.sound (h : Inv e c) (hrep : e.responsetimeout ≠ 0 ∨ e.retransmit = 0) : Sound e c where
  distinct := by
    intro id id' t t' ht ht' hid
    rw [← (h.stored id t ht).identifier, ← (h.stored id' t' ht').identifier]
    exact hid
  once := by
    intro n call hn hcb hr
    refine (h.answered n call hn hcb hr).imp (fun h => h) ?_
    rintro ⟨id, t, ht, rfl⟩
    have st := h.stored id t ht
    refine ⟨st.waiting, id, fun sendtos hlen => h.eventually hrep ht ?_ (by omega)⟩
    obtain rfl : _ = call := Option.some.inj (st.call.symm.trans hn)
    exact hcb
  never := h.refused
  kinds := h.kinds
  sends := h.sends

/-- **Every history in which `sendto` does not fail in `SendMessage` is sound throughout.** -/
theorem exchange_sound (e : RadiusEnv) (hrep : e.responsetimeout ≠ 0 ∨ e.retransmit = 0)
    (evs : List Event) (hok : Along (step e) SendsOk {} evs) :
    Throughout (step e) (Sound e) {} evs :=
  throughout_of_along (I := Inv e) (fun _ _ h hok => h.step hrep hok) (fun _ h => h.sound hrep)
    (inv_start e) hok

/-- An accounting request. -/
def accountingRequest : CRadiusMessage where
  myRequestAuthenticator := List.replicate RadiusAuthenticatorLength 0
  myAttributes := []
  myData := [RP_ACCOUNTING_REQUEST, 0, 0, 20] ++ List.replicate RadiusAuthenticatorLength 0

/-- A request, retransmitted once, with its response and an expiration that comes too late. -/
theorem exchange_sound_answered :
    Along (step sampleEnv) SendsOk {} [.sendMessage 0 accountingRequest true true,
        .timeout 1 false, .response 1, .timeout 1 true] ∧
      Throughout (step sampleEnv) (Sound sampleEnv) {} [.sendMessage 0 accountingRequest true true,
        .timeout 1 false, .response 1, .timeout 1 true] := by
  have h : Along (step sampleEnv) SendsOk {} [.sendMessage 0 accountingRequest true true,
      .timeout 1 false, .response 1, .timeout 1 true] := by
    decide +kernel
  exact ⟨h, exchange_sound sampleEnv (by decide) _ h⟩

/-- **`sendto` fails, `SendMessage` returns -1, and the callback is invoked all the same.** -/
theorem failed_send_called_back :
    ¬ Throughout (step sampleEnv) (Sound sampleEnv) {} [.sendMessage 0 accountingRequest true false,
        .timeout 1 true, .timeout 1 true, .timeout 1 true] := by
  intro h
  have hlast := (throughout_last h).never 0 { callback := true, result := -1 }
  exact absurd (hlast (by decide +kernel) (by decide)).1 (by decide +kernel)

end CRadiusConnector

end OpenBras
