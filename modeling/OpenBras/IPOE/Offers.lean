/-
  File:      OpenBras/IPOE/Offers.lean
  Subject:   WHAT THE DHCP SERVER HANDS OUT: an address is offered, acknowledged and reported
             only if the authentication manager accepted the client with this address.

  A session keeps the configuration of the last answer for its client; before the first one all
  of it is zero. `Kept` says where the configuration of every session comes from, and
  every event keeps that, with these exceptions (`Unauthorised`):
    * `HandleAuthResponse` does not look at the result, so a rejected client gets an offer;
    * a DHCPREQUEST for 0.0.0.0, and any DHCPINFORM, is acknowledged before the answer is in
      (the address of the session still is 0.0.0.0);
    * a second DHCPDISCOVER before the answer leaves a dangling pointer
      (OpenBras/IPOE/Handles.lean), and the offer is made from what lies there.
-/
import OpenBras.IPOE.Handles

namespace OpenBras

open Wire

namespace CDHCPServer

variable {env : DhcpEnv}

/-! ## 1. What may be put out -/

/-- The manager has accepted the client `mac` and given it the address `ip`. -/
def Granted (rs : List IpoeAuthResponse) (mac : Bytes) (ip : UInt32) : Prop :=
  ∃ r ∈ rs, r.mac = mac ∧ r.authResult = 0 ∧ r.subscriberIP = ip

/-- An output that the answers so far permit. -/
def Permitted (rs : List IpoeAuthResponse) : DhcpOutput → Prop
  | .send packet _ =>
    packet.messageType = DHCP_OFFER ∨ packet.messageType = DHCP_ACK →
      ∃ ip, Granted rs packet.mac ip ∧ packet.yiaddr = putLong ip
  | .addUser user => Granted rs user.mac user.userIp
  | .authRequest _ => True
  | .deleteUser _ => True

/-- Everything put out so far was permitted. -/
def Authorised (s : CDHCPServer) : Prop := ∀ o ∈ s.log, Permitted s.responses o

/-- The configuration `config` of the client `mac` is that of an accepting answer. -/
def ConfigOf (rs : List IpoeAuthResponse) (mac : Bytes) (config : DHCPNetworkConfig) : Prop :=
  ∃ r ∈ rs, r.mac = mac ∧ r.authResult = 0 ∧ config = getConfigFromResponse r

structure Kept (s : CDHCPServer) : Prop where
  discovery : ∀ mac session d, s.m_DhcpSessions mac = some session →
    session.m_discovery = some d → (s.heap d).mac = mac
  config : ∀ mac session, s.m_DhcpSessions mac = some session →
    session.m_config = {} ∨ ConfigOf s.responses mac session.m_config
  authorised : Authorised s

/-! ## 2. One event -/

/-- An event after which more may be put out than the manager permits. -/
def Unauthorised (env : DhcpEnv) (s : CDHCPServer) : Event → Prop
  | .packet _ request =>
    Accepted env request ∧ (∃ session ∈ s.m_DhcpSessions request.mac, session.m_config = {}) ∧
      (request.messageType = DHCP_DISCOVER ∨ request.messageType = DHCP_INFORM ∨
        request.messageType = DHCP_REQUEST ∧ request.requestedAddress = hostLong 0)
  | .response _ r => (s.m_DhcpSessions r.mac).isSome ∧ r.authResult ≠ 0
  | _ => False

instance (s : CDHCPServer) (ev : Event) : Decidable (Unauthorised env s ev) :=
  match ev with
  | .packet _ _ => inferInstanceAs (Decidable (_ ∧ _ ∧ _))
  | .response _ _ => inferInstanceAs (Decidable (_ ∧ _))
  | .kick _ => inferInstanceAs (Decidable False)
  | .leaseTimeOut _ => inferInstanceAs (Decidable False)

section
variable {s : CDHCPServer} {mac : Bytes} {ce : ClientEvent} {p : DhcpPacket}
  {rs : List IpoeAuthResponse} {config : DHCPNetworkConfig} {hs : List Nat}

theorem Permitted.mono {o : DhcpOutput} (h : Permitted rs o)
    (r : IpoeAuthResponse) : Permitted (r :: rs) o := by
  have hgrant : ∀ mac ip, Granted rs mac ip → Granted (r :: rs) mac ip :=
    fun mac ip ⟨r', hr', h⟩ => ⟨r', List.mem_cons_of_mem _ hr', h⟩
  cases o with
  | send packet ip => exact fun ht => (h ht).imp fun ip hg => ⟨hgrant _ _ hg.1, hg.2⟩
  | addUser user => exact hgrant _ _ h
  | authRequest mac => trivial
  | deleteUser mac => trivial

theorem Kept.arrived (k : Kept s) (f : Fresh s) (ev : Event) : Kept (s.arrived ev) := by
  cases ev with
  | packet mem request =>
    refine ⟨?_, k.config, k.authorised⟩
    intro mac session d hs hd
    have hne : d ≠ s.next := (f.held mac session d hs hd).ne
    show (Function.update s.heap s.next request d).mac = mac
    rw [Function.update_of_ne hne]
    exact k.discovery mac session d hs hd
  | response mem r =>
    refine ⟨k.discovery, ?_, fun o ho => (k.authorised o ho).mono r⟩
    intro mac session hs
    refine (k.config mac session hs).imp (fun h => h) ?_
    rintro ⟨r', hr', h⟩
    exact ⟨r', List.mem_cons_of_mem _ hr', h⟩
  | _ => exact k

theorem Kept.happen (k : Kept s) (hd : ∀ mem d, ce = .discover mem d → (s.heap d).mac = mac)
    (hc : ∀ mem config, ce = .answer mem config → (s.m_DhcpSessions mac).isSome →
      ConfigOf s.responses mac config)
    (ho : ∀ o ∈ emits env mac p (s.m_DhcpSessions mac) ce, Permitted s.responses o) :
    Kept (s.happen env mac ce p hs) := by
  refine ⟨?_, ?_, ?_⟩
  · intro mac' t d ht hd'
    obtain ⟨rfl, ht⟩ | ⟨-, ht⟩ := update_some ht
    · obtain ⟨mem, rfl⟩ | ⟨old, hold, hd'⟩ := discovery_clientStep ht hd'
      · exact hd mem d rfl
      · exact k.discovery _ old d hold hd'
    · exact k.discovery mac' t d ht hd'
  · intro mac' t ht
    obtain ⟨rfl, ht⟩ | ⟨-, ht⟩ := update_some ht
    · cases hs : s.m_DhcpSessions mac' with
      | none =>
        rw [hs] at ht
        cases ce <;> cases ht
        exact .inl rfl
      | some session =>
        rw [hs] at ht
        rw [config_clientStep ht]
        cases ce with
        | answer mem config => exact .inr (hc mem config rfl (Option.isSome_of_eq_some hs))
        | _ => exact k.config mac' session hs
    · exact k.config mac' t ht
  · intro o ho'
    obtain ho' | ho' := List.mem_append.mp ho'
    · exact ho o ho'
    · exact k.authorised o ho'

/-- An offer or an acknowledgement to a client with the address it was granted. -/
theorem permitted_reply {type : UInt8} {clientip : UInt32} (hmac : p.mac = mac)
    (hc : ConfigOf rs mac config) :
    Permitted rs (replied p (hostLong config.ip_address) (configOptions env type config)
      clientip) := by
  obtain ⟨r, hr, rfl, h0, rfl⟩ := hc
  exact fun _ => ⟨r.subscriberIP, ⟨r, hr, hmac.symm, h0, rfl⟩, hostLong_swapLong _⟩

theorem permitted_nak {yiaddr : Bytes} {options : List DhcpOption} {clientip : UInt32}
    (htype : (replyTo p yiaddr options).messageType = DHCP_NAK) :
    Permitted rs (replied p yiaddr options clientip) := by
  intro ht
  rw [htype] at ht
  exact absurd ht (by decide)

theorem permitted_addUser {session : CDHCPSession} (hc : ConfigOf rs mac session.m_config) :
    ∀ o ∈ (addUser session {}).log, Permitted rs o := by
  unfold CDHCPServer.addUser
  split
  · exact nofun
  obtain ⟨r, hr, hm, h0, hconf⟩ := hc
  refine List.forall_mem_singleton.mpr ?_
  rw [hconf]
  exact ⟨r, hr, rfl, h0, (swapLong_swapLong _).symm⟩

theorem permitted_leave (o : Option CDHCPSession) :
    ∀ x ∈ emits env mac p o .leave, Permitted rs x := by
  cases o with
  | none => exact nofun
  | some session => exact List.forall_mem_singleton.mpr trivial

theorem permitted_leaseTimeOut (o : Option CDHCPSession) :
    ∀ x ∈ emits env mac p o .leaseTimeOut, Permitted rs x := by
  cases o with
  | none => exact List.forall_mem_nil _
  | some session =>
    simp only [emits]
    split
    · exact List.forall_mem_singleton.mpr trivial
    · exact List.forall_mem_nil _

theorem permitted_packet {request : DhcpPacket} {mem : Bool} (k : Kept s)
    (hc : clientOf env s.next (.packet mem request) = some (mac, ce))
    (hne : ¬ Unauthorised env s (.packet mem request)) :
    ∀ o ∈ emits env mac request (s.m_DhcpSessions mac) ce, Permitted s.responses o := by
  obtain ⟨rfl, hacc, hce⟩ := clientOf_packet hc
  cases hs : s.m_DhcpSessions request.mac with
  | none =>
    obtain ⟨-, rfl⟩ | ⟨-, rfl⟩ | ⟨-, rfl⟩ | rfl := hce
    · exact List.forall_mem_singleton.mpr trivial
    · exact List.forall_mem_nil _
    · simp only [emits]
      split
      · exact List.forall_mem_singleton.mpr (permitted_nak rfl)
      · exact List.forall_mem_nil _
    · exact List.forall_mem_nil _
  | some session =>
    have hconf := k.config _ session hs
    obtain ⟨-, rfl⟩ | ⟨htype, rfl⟩ | ⟨htype, rfl⟩ | rfl := hce
    · simp only [emits]
      split
      · rename_i h
        exact List.forall_mem_singleton.mpr (permitted_reply rfl (hconf.resolve_left h.2))
      · exact List.forall_mem_nil _
    · have hgranted := hconf.resolve_left fun h0 =>
        hne ⟨hacc, ⟨session, hs, h0⟩, .inr (.inl htype)⟩
      simp only [emits]
      split
      · exact List.forall_mem_singleton.mpr (permitted_reply rfl hgranted)
      · exact List.forall_mem_nil _
    · simp only [emits]
      split
      · split
        · rename_i heq
          -- the address of the session is that of an answer, or it would not have been asked for
          have hgranted := hconf.resolve_left fun h0 =>
            hne ⟨hacc, ⟨session, hs, h0⟩, .inr (.inr ⟨htype, by rw [← heq, h0]⟩)⟩
          rw [← heq]
          exact List.forall_mem_append.mpr
            ⟨permitted_addUser hgranted, List.forall_mem_singleton.mpr (permitted_reply rfl hgranted)⟩
        · exact List.forall_mem_singleton.mpr (permitted_nak rfl)
      · exact List.forall_mem_nil _
    · exact permitted_leave _

/-- **An offer** for a session whose packet is still there. -/
theorem permitted_response {r : IpoeAuthResponse} {mem : Bool} (k : Kept s)
    (a : s.custody.Accounted)
    (hc : (s.m_DhcpSessions r.mac).isSome → ConfigOf rs r.mac (getConfigFromResponse r)) :
    ∀ o ∈ emits env r.mac (s.answered env (.response mem r)) (s.m_DhcpSessions r.mac)
      (.answer mem (getConfigFromResponse r)), Permitted rs o := by
  cases hs : s.m_DhcpSessions r.mac with
  | none => exact List.forall_mem_nil _
  | some session =>
    simp only [emits]
    split
    · rename_i h
      obtain ⟨d, hd⟩ := Option.isSome_iff_exists.mp h.2
      have hread : s.answered env (.response mem r) = s.heap d := by
        simp only [answered, hs, Option.bind_some, hd, Option.elim_some]
        exact if_neg (a.unreleased (held_of_session hs hd))
      refine List.forall_mem_singleton.mpr (permitted_reply ?_ (hc (Option.isSome_of_eq_some hs)))
      rw [hread]
      exact k.discovery _ session d hs hd
    · exact List.forall_mem_nil _

end

/-- **One event keeps it**, unless it is one of the exceptions. -/
theorem kept_step {s : CDHCPServer} {ev : Event} (k : Kept s) (a : s.custody.Accounted)
    (hne : ¬ Unauthorised env s ev) : Kept (s.step env ev) := by
  have f := fresh_of_accounted a
  have k' := k.arrived f ev
  rw [step_eq f]
  cases hc : clientOf env s.next ev with
  | none => exact ⟨k'.discovery, k'.config, k'.authorised⟩
  | some c =>
    obtain ⟨mac, ce⟩ := c
    cases ev with
    | packet mem request =>
      refine k'.happen ?_ ?_ (permitted_packet (s := s) k hc hne)
      · rintro mem d rfl
        obtain ⟨rfl, _, ⟨⟩, rfl, -⟩ := packet_of_discover hc
        exact congrArg DhcpPacket.mac (Function.update_self ..)
      · rintro mem config rfl
        obtain ⟨-, -, ⟨-, hce⟩ | ⟨-, hce⟩ | ⟨-, hce⟩ | hce⟩ := clientOf_packet hc <;> cases hce
    | response mem r =>
      cases hc
      have hgranted : (s.m_DhcpSessions r.mac).isSome →
          ConfigOf (r :: s.responses) r.mac (getConfigFromResponse r) := fun hs =>
        ⟨r, List.mem_cons_self, rfl, not_not.mp fun h0 => hne ⟨hs, h0⟩, rfl⟩
      refine k'.happen ?_ ?_ (permitted_response (s := s) k a hgranted)
      · rintro mem d ⟨⟩
      · rintro mem config ⟨⟩
        exact hgranted
    | kick mac =>
      cases hc
      exact k'.happen (by rintro mem d ⟨⟩) (by rintro mem config ⟨⟩) (permitted_leave _)
    | leaseTimeOut mac =>
      cases hc
      exact k'.happen (by rintro mem d ⟨⟩) (by rintro mem config ⟨⟩) (permitted_leaseTimeOut _)

theorem not_early {s : CDHCPServer} {ev : Event} (hne : ¬ Unauthorised env s ev) :
    ¬ EarlyDiscover env s ev := by
  intro he
  cases ev with
  | packet mem request =>
    obtain ⟨hacc, htype, hs⟩ := he
    exact hne ⟨hacc, hs, .inl htype⟩
  | response mem r => exact he
  | kick mac => exact he
  | leaseTimeOut mac => exact he

/-! ## 3. Runs -/

theorem kept_start : Kept {} where
  discovery := fun _ _ _ hs => nomatch hs
  config := fun _ _ hs => nomatch hs
  authorised := fun _ ho => nomatch ho

/-- **Offers, acknowledgements and reports of users are authorised**, with the address of the
    accepting answer, in every run without the events of `Unauthorised`. -/
theorem authorised_throughout {env : DhcpEnv} {evs : List Event}
    (h : Along (step env) (fun s ev => ¬ Unauthorised env s ev) {} evs) :
    Throughout (step env) Authorised {} evs := by
  refine throughout_of_along (I := fun s => s.custody.Accounted ∧ Kept s) ?_
    (fun s i => i.2.authorised) ⟨accounted_start, kept_start⟩ h
  intro s ev i hne
  exact ⟨accounted_step i.1 (not_early hne), kept_step i.2 i.1 hne⟩

/-- The client asks for 10.0.0.9. -/
def requestFor9 : DhcpPacket :=
  { discover with
    options := [{ code := DHO_DHCP_MESSAGE_TYPE, value := [DHCP_REQUEST] },
      { code := DHO_DHCP_REQUESTED_ADDRESS, value := [10, 0, 0, 9] }] }

/-- The manager's answer for the client, with the address 10.0.0.9. -/
def answer9 (authResult : UInt32) : IpoeAuthResponse where
  session := 0
  mac := [2, 0, 0, 0, 0, 1]
  authResult := authResult
  subscriberIP := 0x0a000009

/-- The client is accepted, asks for the address and has it. -/
theorem authorised_acknowledged :
    Along (step sampleEnv) (fun s ev => ¬ Unauthorised sampleEnv s ev) {}
      [.packet true discover, .response true (answer9 0), .packet true requestFor9] ∧
    Throughout (step sampleEnv) Authorised {}
      [.packet true discover, .response true (answer9 0), .packet true requestFor9] := by
  have h : Along (step sampleEnv) (fun s ev => ¬ Unauthorised sampleEnv s ev) {}
      [.packet true discover, .response true (answer9 0), .packet true requestFor9] := by
    decide +kernel
  exact ⟨h, authorised_throughout h⟩

/-- **A rejected client is offered an address.** -/
theorem rejected_client_offered :
    ¬ Throughout (step sampleEnv) Authorised {}
      [.packet true discover, .response true (answer9 1)] := by
  intro h
  have hoffer : DhcpOutput.send (replyTo discover [10, 0, 0, 9]
      (configOptions sampleEnv DHCP_OFFER (getConfigFromResponse (answer9 1)))) 0x0a000009 ∈
      (run (step sampleEnv) {} [.packet true discover, .response true (answer9 1)]).log := by
    decide +kernel
  have hnone : ∀ r ∈ (run (step sampleEnv) {}
      [.packet true discover, .response true (answer9 1)]).responses, r.authResult ≠ 0 := by
    decide +kernel
  obtain ⟨ip, ⟨r, hr, -, h0, -⟩, -⟩ := throughout_last h _ hoffer (.inl rfl)
  exact hnone r hr h0

end CDHCPServer

end OpenBras
