/-
  File:      OpenBras/IPOE/LeaseTime.lean
  Subject:   THE LEASE AND ITS TIMER: when the removal timer of a session runs at least as long as
             the lease the client was promised.

  The lease time of an answer goes through `htonl` into the configuration, from there as it is
  into the option of an offer or an acknowledgement, and through `ntohl` into an `int`, to which
  10 is added. From 2147483638 seconds on the sum is negative or less than 10
  (`lease_le_delay_iff`).
-/
import OpenBras.IPOE.Lease

namespace OpenBras

open Wire

namespace CDHCPServer

/-! ## 1. The delay -/

/-- The lease time of a configuration, in host byte order. -/
def leaseOf (config : DHCPNetworkConfig) : UInt32 := swapLong config.leasetime

/-- The longest lease to which 10 seconds can be added. -/
def longestLease : Nat := 2147483637

/-- **The delay covers the lease exactly up to the longest one.** -/
theorem lease_le_delay_iff (config : DHCPNetworkConfig) :
    ((leaseOf config).toNat : Int) ≤ (leaseDelay config).toInt ↔
      (leaseOf config).toNat ≤ longestLease := by
  have hint : (leaseOf config).toInt32.toInt =
      if 2 * (leaseOf config).toNat < 2 ^ 32 then ((leaseOf config).toNat : Int)
      else (leaseOf config).toNat - 2 ^ 32 := by
    change (leaseOf config).toBitVec.toInt = _
    rw [BitVec.toInt_eq_toNat_cond]
    rfl
  have hlt := (leaseOf config).toNat_lt
  have hdelay : (leaseDelay config).toInt =
      ((leaseOf config).toInt32.toInt + 10).bmod (2 ^ 32) := Int32.toInt_add _ _
  rw [hdelay, hint, longestLease, Int.bmod_def]
  split <;> omega

/-! ## 2. What is announced -/

/-- The lease time that an offer or an acknowledgement announces. -/
def announces : DhcpOutput → Option UInt32
  | .send packet _ =>
    if packet.messageType = DHCP_OFFER ∨ packet.messageType = DHCP_ACK then
      (packet.option DHO_DHCP_LEASE_TIME (· == 4)).map (getLong · 0)
    else none
  | _ => none

/-- The lease times announced so far, the last one first. -/
def leases (log : List DhcpOutput) : List UInt32 := log.filterMap announces

/-- The lease time an event of the client announces, if the client has a session. -/
def announcement (session : CDHCPSession) (ce : ClientEvent) : Option UInt32 :=
  if arms session ce then some (leaseOf (configAfter session ce)) else none

section
variable {env : DhcpEnv} {s : CDHCPServer}

theorem announces_reply {type : UInt8} (h : type = DHCP_OFFER ∨ type = DHCP_ACK)
    (request : DhcpPacket) (yiaddr : Bytes) (config : DHCPNetworkConfig) (clientip : UInt32) :
    announces (.send (replyTo request yiaddr (configOptions env type config)) clientip) =
      some (leaseOf config) := by
  have htype : (replyTo request yiaddr (configOptions env type config)).messageType = type := rfl
  have hoption : (replyTo request yiaddr (configOptions env type config)).option
      DHO_DHCP_LEASE_TIME (· == 4) = some (hostLong config.leasetime) := rfl
  have hlease : getLong (hostLong config.leasetime) 0 = leaseOf config := by
    rw [← swapLong_swapLong config.leasetime, hostLong_swapLong, ← List.append_nil (putLong _),
      getLong_putLong]
    rfl
  rw [announces, htype, if_pos h, hoption, Option.map_some, hlease]

variable {mac : Bytes} {p : DhcpPacket}

/-- A reply that grants a configuration announces its lease. -/
theorem leases_granting {c : Prop} [Decidable c] {b : Bool} (hb : b = true ↔ c) {type : UInt8}
    (h : type = DHCP_OFFER ∨ type = DHCP_ACK) (config : DHCPNetworkConfig) :
    leases (if c then [granting env type p config] else []) =
      (if b then some (leaseOf config) else none).toList := by
  by_cases hc : c
  · rw [if_pos hc, if_pos (hb.mpr hc), leases, granting, replied]
    simp only [List.filterMap_cons, announces_reply h, List.filterMap_nil]
    rfl
  · rw [if_neg hc, if_neg (mt hb.mp hc)]
    rfl

theorem leases_emits (o : Option CDHCPSession) (ce : ClientEvent) :
    leases (emits env mac p o ce) = (o.bind (announcement · ce)).toList := by
  cases o with
  | none =>
    cases ce with
    | request mem asked => cases mem <;> rfl
    | _ => rfl
  | some session =>
    rw [Option.bind_some]
    cases ce with
    | discover mem d =>
      have harms : arms session (.discover mem d) = true ↔ mem ∧ session.m_config ≠ {} := by
        simp [arms]
      simp only [emits, announcement]
      exact leases_granting harms (.inl rfl) session.m_config
    | request mem asked =>
      simp only [emits]
      cases mem with
      | false => rfl
      | true =>
        by_cases hask : hostLong session.m_config.ip_address = asked
        · have harms : arms session (.request true asked) = true := beq_iff_eq.mpr hask
          have hnone : leases (addUser session {}).log = [] := by
            unfold addUser
            split <;> rfl
          rw [if_pos rfl, if_pos hask, announcement, if_pos harms]
          simp only [leases, replied, List.filterMap_append, List.filterMap_cons,
            announces_reply (.inr rfl)] at hnone ⊢
          rw [hnone]
          rfl
        · have harms : ¬ arms session (.request true asked) = true := fun h =>
            hask (beq_iff_eq.mp h)
          rw [if_pos rfl, if_neg hask, announcement, if_neg harms]
          rfl
    | inform mem =>
      simp only [emits, announcement]
      exact leases_granting (Iff.rfl : arms session (.inform mem) = true ↔ mem) (.inr rfl)
        session.m_config
    | leave => rfl
    | answer mem config =>
      have harms : arms session (.answer mem config) = true ↔
          mem ∧ session.m_discovery.isSome := by
        simp [arms]
      simp only [emits, announcement]
      exact leases_granting harms (.inl rfl) config
    | leaseTimeOut =>
      simp only [emits]
      split <;> rfl

/-- **What an event announces.** -/
theorem leases_step (f : Fresh s) (ev : Event) :
    leases (s.step env ev).log =
      ((clientOf env s.next ev).bind fun c =>
        (s.m_DhcpSessions c.1).bind (announcement · c.2)).toList ++ leases s.log := by
  rw [log_step f, outputs, leases, List.filterMap_append]
  cases clientOf env s.next ev with
  | none => rfl
  | some c => exact congrArg (· ++ _) (leases_emits ..)

/-! ## 3. Runs -/

/-- **The timer is scheduled for the configuration that is announced.** -/
theorem timer_of_arms {session t : CDHCPSession} {ce : ClientEvent} (harms : arms session ce = true)
    (h : clientStep (some session) ce = some t) : t.timer = some (leaseDelay t.m_config) := by
  cases ce with
  | discover mem d =>
    obtain ⟨rfl, hc⟩ := Bool.and_eq_true_iff.mp harms
    rw [clientStep, if_neg (bne_iff_ne.mp hc)] at h
    cases h
    rfl
  | request mem asked =>
    obtain ⟨rfl, hask⟩ := Bool.and_eq_true_iff.mp harms
    rw [clientStep, if_pos ⟨rfl, beq_iff_eq.mp hask⟩] at h
    cases h
    rfl
  | inform mem =>
    obtain rfl : mem = true := harms
    cases h
    rfl
  | leave => cases harms
  | answer mem config =>
    cases h
    exact if_pos harms
  | leaseTimeOut => cases harms

theorem response_of_answer {h : Nat} {ev : Event} {mac : Bytes} {mem : Bool}
    {config : DHCPNetworkConfig} (hc : clientOf env h ev = some (mac, .answer mem config)) :
    ∃ r, ev = .response mem r ∧ r.mac = mac ∧ config = getConfigFromResponse r := by
  cases ev with
  | packet mem' request =>
    simp only [clientOf] at hc
    repeat' split at hc
    all_goals cases hc
  | response mem' r =>
    cases hc
    exact ⟨r, rfl, rfl, rfl⟩
  | kick mac' => cases hc
  | leaseTimeOut mac' => cases hc

/-- The configuration of a session is that of an answer for its client, or still empty. -/
def ConfigFrom (evs : List Event) (mac : Bytes) (config : DHCPNetworkConfig) : Prop :=
  config = {} ∨ ∃ mem r, Event.response mem r ∈ evs ∧ r.mac = mac ∧
    config = getConfigFromResponse r

theorem configFrom_run {evs : List Event} {mac : Bytes} {session : CDHCPSession}
    (hs : (run (step env) {} evs).m_DhcpSessions mac = some session) :
    ConfigFrom evs mac session.m_config := by
  induction evs using List.reverseRecOn generalizing session with
  | nil => cases hs
  | append_singleton evs ev ih =>
    have f : Fresh (run (step env) {} evs) := fresh_run evs
    have hmono : ∀ {config}, ConfigFrom evs mac config → ConfigFrom (evs ++ [ev]) mac config := by
      rintro config (h | ⟨mem, r, hr, hrest⟩)
      · exact .inl h
      · exact .inr ⟨mem, r, List.mem_append_left _ hr, hrest⟩
    rw [run_append] at hs
    by_cases hsil : ∀ ce, clientOf env (run (step env) {} evs).next ev ≠ some (mac, ce)
    · exact hmono (ih ((session_of_silent f hsil).symm.trans hs))
    obtain ⟨ce, hc⟩ := not_forall.mp hsil
    have hc := not_not.mp hc
    have hstep := (session_of_client f hc).symm.trans hs
    cases hold : (run (step env) {} evs).m_DhcpSessions mac with
    | none =>
      rw [hold] at hstep
      refine .inl ?_
      cases ce <;> cases hstep
      rfl
    | some old =>
      rw [hold] at hstep
      rw [config_clientStep hstep]
      cases ce with
      | answer mem config =>
        obtain ⟨r, rfl, hmac, hconfig⟩ := response_of_answer hc
        exact .inr ⟨mem, r, by simp, hmac, hconfig⟩
      | discover | request | inform | leave | leaseTimeOut => exact hmono (ih hold)

theorem some_of_toList {α : Type} {o : Option α} {x : α} {l : List α}
    (h : o.toList ++ l = x :: l) : o = some x := by
  cases o with
  | none => exact absurd h (by simp)
  | some y => exact congrArg some (List.cons.inj h).1

/-- **The lease and the timer.** In every run, when an offer or an acknowledgement announces the
    lease time `L`, it is that of an answer for the client (0 before the first one), the timer of
    the client's session is scheduled, and its delay is at least `L` exactly if `L` is not above
    the longest lease. -/
theorem lease_outlasted_iff (env : DhcpEnv) (evs : List Event) (ev : Event) {L : UInt32}
    (h : leases ((run (step env) {} evs).step env ev).log =
      L :: leases (run (step env) {} evs).log) :
    ∃ mac ce session delay,
      clientOf env (run (step env) {} evs).next ev = some (mac, ce) ∧
      ((run (step env) {} evs).step env ev).m_DhcpSessions mac = some session ∧
      session.timer = some delay ∧
      (L = 0 ∨ ∃ mem r, Event.response mem r ∈ evs ++ [ev] ∧ r.mac = mac ∧ r.leaseTime = L) ∧
      ((L.toNat : Int) ≤ delay.toInt ↔ L.toNat ≤ longestLease) := by
  have f : Fresh (run (step env) {} evs) := fresh_run evs
  have hafter : ∀ {mac session},
      ((run (step env) {} evs).step env ev).m_DhcpSessions mac = some session →
        ConfigFrom (evs ++ [ev]) mac session.m_config := by
    intro mac session hs
    have hrun : run (step env) {} (evs ++ [ev]) = (run (step env) {} evs).step env ev :=
      run_append ..
    exact configFrom_run (hrun.symm ▸ hs)
  generalize run (step env) {} evs = s at h f hafter ⊢
  rw [leases_step f] at h
  obtain ⟨⟨mac, ce⟩, hc, hsession⟩ := Option.bind_eq_some_iff.mp (some_of_toList h)
  obtain ⟨session, hs, hann⟩ := Option.bind_eq_some_iff.mp hsession
  obtain ⟨harms, hL⟩ : arms session ce = true ∧ leaseOf (configAfter session ce) = L := by
    unfold announcement at hann
    split at hann
    · exact ⟨‹_›, Option.some.inj hann⟩
    · cases hann
  obtain ⟨t, ht⟩ := Option.isSome_iff_exists.mp (clientStep_of_arms harms)
  have hstep : (s.step env ev).m_DhcpSessions mac = some t := by
    rw [session_of_client f hc, hs, ht]
  rw [← config_clientStep ht] at hL
  subst hL
  refine ⟨mac, ce, t, _, hc, hstep, timer_of_arms harms ht, ?_, lease_le_delay_iff t.m_config⟩
  obtain hempty | ⟨mem, r, hr, hmac, hconfig⟩ := hafter hstep
  · exact .inl (by rw [hempty]; rfl)
  · refine .inr ⟨mem, r, hr, hmac, ?_⟩
    rw [hconfig, leaseOf, getConfigFromResponse, swapLong_swapLong]

/-- The manager's answer for the client, with a lease time. -/
def answerLease (leaseTime : UInt32) : IpoeAuthResponse where
  session := 0
  mac := discover.mac
  authResult := 0
  subscriberIP := 0x0a000009
  leaseTime := leaseTime

/-- A lease of an hour. -/
theorem lease_outlasted_hour :
    leases ((run (step sampleEnv) {} [.packet true discover]).step sampleEnv
        (.response true (answerLease 3600))).log =
      3600 :: leases (run (step sampleEnv) {} [.packet true discover]).log ∧
    ∃ mac ce session delay,
      clientOf sampleEnv (run (step sampleEnv) {} [.packet true discover]).next
        (.response true (answerLease 3600)) = some (mac, ce) ∧
      ((run (step sampleEnv) {} [.packet true discover]).step sampleEnv
        (.response true (answerLease 3600))).m_DhcpSessions mac = some session ∧
      session.timer = some delay ∧
      ((3600 : UInt32) = 0 ∨ ∃ mem r, Event.response mem r ∈ [.packet true discover] ++
        [.response true (answerLease 3600)] ∧ r.mac = mac ∧ r.leaseTime = 3600) ∧
      (((3600 : UInt32).toNat : Int) ≤ delay.toInt ↔ (3600 : UInt32).toNat ≤ longestLease) := by
  have h : leases ((run (step sampleEnv) {} [.packet true discover]).step sampleEnv
      (.response true (answerLease 3600))).log =
        3600 :: leases (run (step sampleEnv) {} [.packet true discover]).log := by
    decide +kernel
  exact ⟨h, lease_outlasted_iff sampleEnv [.packet true discover] _ h⟩

/-- **The infinite lease is over after 9 seconds.** -/
theorem infinite_lease_ends :
    let s := run (step sampleEnv) {}
      [.packet true discover, .response true (answerLease 0xffffffff)]
    leases s.log = [0xffffffff] ∧
      (s.m_DhcpSessions discover.mac).map (·.timer) = some (some 9) := by
  constructor <;> decide +kernel

end

end CDHCPServer

end OpenBras
