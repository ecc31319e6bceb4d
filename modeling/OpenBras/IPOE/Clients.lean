/-
  File:      OpenBras/IPOE/Clients.lean
  Subject:   THE DHCP SERVER, CLIENT BY CLIENT: an event concerns at most one client, and what it
             does to that client's session does not depend on the others.

  * `clientOf`    -- whom an event concerns, and what it is to the session;
  * `clientStep`, `emits`, `frees` -- what becomes of the session, what is put out and which
    packets are released;
  * `step_eq`     -- the server does just that (`happen`), from every state in which the handle
    of the next packet is new (`Fresh`), which every step keeps (`fresh_step`);
  * `report`      -- the AddUserRequest or DeleteUserRequest among what is put out;
  * `client_alone` -- so a client is served as if there were no other, as long as nobody makes
    the server release a packet twice (OpenBras/IPOE/Handles.lean says when that is).
-/
import OpenBras.IPOE.Server
import OpenBras.Lib.Run
import OpenBras.Lib.Table

namespace OpenBras

open Wire

namespace CDHCPServer

/-! ## 1. One client -/

/-- What an event is to the session of the client it concerns. -/
inductive ClientEvent where
  /-- A DHCPDISCOVER, with the handle of its packet. -/
  | discover (mem : Bool) (h : Nat)
  /-- A DHCPREQUEST, with the address asked for. -/
  | request (mem : Bool) (asked : Bytes)
  | inform (mem : Bool)
  /-- A DHCPRELEASE, a DHCPDECLINE or a kick. -/
  | leave
  | answer (mem : Bool) (config : DHCPNetworkConfig)
  | leaseTimeOut

/-- Whom an event concerns, if its packet gets the handle `h`. -/
def clientOf (env : DhcpEnv) (h : Nat) : Event → Option (Bytes × ClientEvent)
  | .packet mem request =>
    if request.getServerId ≠ 0 ∧ request.getServerId ≠ env.localaddr then none
    else if request.op ≠ BOOT_REQUEST then none
    else if request.messageType = DHCP_DISCOVER then some (request.mac, .discover mem h)
    else if request.messageType = DHCP_RELEASE then some (request.mac, .leave)
    else if request.messageType = DHCP_INFORM then some (request.mac, .inform mem)
    else if request.messageType = DHCP_REQUEST then
      some (request.mac, .request mem request.requestedAddress)
    else if request.messageType = DHCP_DECLINE then some (request.mac, .leave)
    else none
  | .response mem r => some (r.mac, .answer mem (getConfigFromResponse r))
  | .kick mac => some (mac, .leave)
  | .leaseTimeOut mac => some (mac, .leaseTimeOut)

/-- The lease timer after a reply, if there was memory for one. -/
def rearm (mem : Bool) (config : DHCPNetworkConfig) (timer : Option Int32) : Option Int32 :=
  if mem then some (leaseDelay config) else timer

/-- The session after the event. -/
def clientStep : Option CDHCPSession → ClientEvent → Option CDHCPSession
  | none, .discover _ h => some { m_discovery := some h }
  | none, _ => none
  | some session, .discover mem h =>
    if session.m_config = {} then some { session with m_discovery := some h }
    else some { session with
      m_discovery := some h, timer := rearm mem session.m_config session.timer }
  | some session, .request mem asked =>
    if mem ∧ hostLong session.m_config.ip_address = asked then
      some { session with timer := some (leaseDelay session.m_config), m_isAddUser := true }
    else some session
  | some session, .inform mem =>
    some { session with timer := rearm mem session.m_config session.timer }
  | some _, .leave => none
  | some session, .answer mem config =>
    some { session with
      m_config := config
      timer := rearm (mem && session.m_discovery.isSome) config session.timer }
  | some session, .leaseTimeOut => if session.timer.isSome then none else some session

/-- A reply to the packet `p`, by `SendBroadcastReply` or `SendDHCP`. -/
def replied (p : DhcpPacket) (yiaddr : Bytes) (options : List DhcpOption) (clientip : UInt32) :
    DhcpOutput :=
  .send (replyTo p yiaddr options) (if p.isBroadcast then 0xffffffff else clientip)

/-- An offer or an acknowledgement of the address in the configuration. -/
def granting (env : DhcpEnv) (type : UInt8) (p : DhcpPacket) (config : DHCPNetworkConfig) :
    DhcpOutput :=
  replied p (hostLong config.ip_address) (configOptions env type config) (swapLong config.ip_address)

/-- What is put out for the event, the last first, in answer to the packet `p`. -/
def emits (env : DhcpEnv) (mac : Bytes) (p : DhcpPacket) :
    Option CDHCPSession → ClientEvent → List DhcpOutput
  | none, .discover _ _ => [.authRequest mac]
  | none, .request mem _ =>
    if mem then
      [replied p p.yiaddr [{ code := DHO_DHCP_MESSAGE_TYPE, value := [DHCP_NAK] },
        { code := DHO_DHCP_SERVER_IDENTIFIER, value := hostLong (swapLong env.localaddr) }]
        p.getRequestIp]
    else []
  | none, _ => []
  | some session, .discover mem _ =>
    if mem ∧ session.m_config ≠ {} then [granting env DHCP_OFFER p session.m_config] else []
  | some session, .request mem asked =>
    if mem then
      if hostLong session.m_config.ip_address = asked then
        (addUser session {}).log ++
          [replied p asked (configOptions env DHCP_ACK session.m_config) (getLong asked 0)]
      else [replied p asked (configOptions env DHCP_NAK session.m_config) (getLong asked 0)]
    else []
  | some session, .inform mem =>
    if mem then [granting env DHCP_ACK p session.m_config] else []
  | some session, .leave => [.deleteUser session.m_config.hardware_address]
  | some session, .answer mem config =>
    if mem ∧ session.m_discovery.isSome then [granting env DHCP_OFFER p config] else []
  | some session, .leaseTimeOut =>
    if session.timer.isSome then [.deleteUser session.m_config.hardware_address] else []

/-- The packets that are released, the last first; `hs` is the one that came, if one did. -/
def frees (hs : List Nat) : Option CDHCPSession → ClientEvent → List Nat
  | none, .discover _ _ => []
  | some session, .discover _ _ =>
    (if session.m_config = {} then hs else []) ++ session.m_discovery.toList
  | some session, .leave => hs ++ session.m_discovery.toList
  | some session, .leaseTimeOut =>
    if session.timer.isSome then hs ++ session.m_discovery.toList else hs
  | _, _ => hs

/-- The event `ce` happens to the client `mac`. -/
def happen (env : DhcpEnv) (mac : Bytes) (ce : ClientEvent) (p : DhcpPacket) (hs : List Nat)
    (s : CDHCPServer) : CDHCPServer :=
  { s with
    m_DhcpSessions := Function.update s.m_DhcpSessions mac (clientStep (s.m_DhcpSessions mac) ce)
    log := emits env mac p (s.m_DhcpSessions mac) ce ++ s.log
    released := frees hs (s.m_DhcpSessions mac) ce ++ s.released }

/-- The packet is accepted by `HandleDHCP`. -/
def Accepted (env : DhcpEnv) (request : DhcpPacket) : Prop :=
  ¬ (request.getServerId ≠ 0 ∧ request.getServerId ≠ env.localaddr) ∧ request.op = BOOT_REQUEST

instance (env : DhcpEnv) (request : DhcpPacket) : Decidable (Accepted env request) :=
  inferInstanceAs (Decidable (_ ∧ _))

/-- The server with a new packet, before anything is done with it. -/
def received (request : DhcpPacket) (s : CDHCPServer) : CDHCPServer :=
  { s with heap := Function.update s.heap s.next request, next := s.next + 1 }

/-- The server with what the event brings. -/
def arrived (s : CDHCPServer) : Event → CDHCPServer
  | .packet _ request => s.received request
  | .response _ r => { s with responses := r :: s.responses }
  | _ => s

/-- The packet that is answered: the one that came, or the one the session keeps. -/
def answered (env : DhcpEnv) (s : CDHCPServer) : Event → DhcpPacket
  | .packet _ request => request
  | .response _ r => ((s.m_DhcpSessions r.mac).bind (·.m_discovery)).elim { op := 0 } (s.read env)
  | _ => { op := 0 }

/-- The packet that came. -/
def came (s : CDHCPServer) : Event → List Nat
  | .packet _ _ => [s.next]
  | _ => []

/-! ## 2. What the handlers do -/

/-- The handles released and held are those of packets received. -/
structure Fresh (s : CDHCPServer) : Prop where
  released : ∀ h ∈ s.released, h < s.next
  held : ∀ mac session d, s.m_DhcpSessions mac = some session →
    session.m_discovery = some d → d < s.next

theorem fresh_start : Fresh {} where
  released := nofun
  held := nofun

variable {env : DhcpEnv} {s : CDHCPServer} {mac : Bytes} {session : CDHCPSession} {h : Nat}
  {ce : ClientEvent} {p : DhcpPacket} {hs : List Nat}

theorem happen_eq {o : Option CDHCPSession} (ho : s.m_DhcpSessions mac = o) :
    s.happen env mac ce p hs =
      { s with
        m_DhcpSessions := Function.update s.m_DhcpSessions mac (clientStep o ce)
        log := emits env mac p o ce ++ s.log
        released := frees hs o ce ++ s.released } := by
  rw [← ho]
  rfl

/-- The event leaves the session as it is. -/
theorem happen_still {o : Option CDHCPSession} (ho : s.m_DhcpSessions mac = o)
    (hce : clientStep o ce = o) :
    s.happen env mac ce p hs =
      { s with log := emits env mac p o ce ++ s.log, released := frees hs o ce ++ s.released } := by
  rw [happen_eq ho, hce, ← ho, Function.update_eq_self]

theorem removeSession_eq (env : DhcpEnv) (p : DhcpPacket) (s : CDHCPServer) (mac : Bytes) :
    s.removeSession mac = s.happen env mac .leave p [] := by
  cases ho : s.m_DhcpSessions mac with
  | none =>
    rw [happen_still ho rfl]
    simp only [removeSession, ho]
    rfl
  | some session =>
    rw [happen_eq ho]
    simp only [removeSession, ho, clientStep, emits, frees]
    cases session.m_discovery <;> rfl

theorem leaseTimeOut_eq (s : CDHCPServer) (mac : Bytes) :
    s.step env (.leaseTimeOut mac) = s.happen env mac .leaseTimeOut p [] := by
  show (if (s.m_DhcpSessions mac).any (·.timer.isSome) then s.removeSession mac else s) = _
  cases ho : s.m_DhcpSessions mac with
  | none =>
    rw [happen_still ho rfl]
    rfl
  | some session =>
    cases ht : session.timer.isSome with
    | true =>
      rw [Option.any_some, ht, if_pos rfl, removeSession_eq env p, happen_eq ho,
        happen_eq ho]
      simp only [clientStep, emits, frees, ht, if_true]
    | false =>
      rw [Option.any_some, ht, if_neg Bool.false_ne_true, happen_still ho]
      · simp only [emits, frees, ht, Bool.false_eq_true, if_false]
        rfl
      · simp only [clientStep, ht, Bool.false_eq_true, if_false]

theorem sessionDiscover_eq (ho : s.m_DhcpSessions mac = some session) (mem : Bool)
    (config : DHCPNetworkConfig) :
    s.sessionDiscover env mem mac session config =
      s.happen env mac (.answer mem config)
        (session.m_discovery.elim { op := 0 } (s.read env)) [] := by
  rw [happen_eq ho]
  obtain ⟨d, c, added, timer⟩ := session
  cases d <;> cases mem <;> rfl

theorem handleAuthResponse_eq (mem : Bool) (r : IpoeAuthResponse) :
    s.handleAuthResponse env mem r =
      (s.arrived (.response mem r)).happen env r.mac (.answer mem (getConfigFromResponse r))
        (s.answered env (.response mem r)) [] := by
  cases ho : s.m_DhcpSessions r.mac with
  | none =>
    rw [happen_still (s := s.arrived (.response mem r)) ho rfl]
    simp only [handleAuthResponse, ho]
    rfl
  | some session =>
    have hanswered : s.answered env (.response mem r) =
        session.m_discovery.elim { op := 0 } (s.read env) := by
      simp only [answered, ho, Option.bind_some]
    simp only [handleAuthResponse, ho]
    rw [hanswered]
    exact sessionDiscover_eq (s := s.arrived (.response mem r)) ho mem _

theorem Fresh.new (f : Fresh s) : s.next ∉ s.released := fun hr =>
  absurd (f.released _ hr) (Nat.lt_irrefl _)

theorem Fresh.read_received (f : Fresh s) (env : DhcpEnv) (request : DhcpPacket) :
    (s.received request).read env s.next = request :=
  (if_neg f.new).trans (Function.update_self ..)

section Packet

variable {request : DhcpPacket} {mem : Bool}

theorem handleRelease_eq (f : Fresh s) :
    (s.received request).handleRelease env s.next =
      (s.received request).happen env request.mac .leave request [s.next] := by
  unfold handleRelease
  rw [f.read_received, removeSession_eq env request]
  cases ho : (s.received request).m_DhcpSessions request.mac with
  | none =>
    rw [happen_still ho rfl, happen_still ho rfl]
    rfl
  | some session =>
    rw [happen_eq ho, happen_eq ho]
    rfl

theorem handleInform_eq (f : Fresh s) :
    (s.received request).handleInform env mem s.next =
      (s.received request).happen env request.mac (.inform mem) request [s.next] := by
  have hread := f.read_received env request
  cases ho : (s.received request).m_DhcpSessions request.mac with
  | none =>
    rw [handleInform_none mem (congrArg DhcpPacket.mac hread) ho, happen_still ho rfl]
    rfl
  | some session =>
    rw [handleInform_some mem (congrArg DhcpPacket.mac hread) ho]
    unfold sessionInform
    rw [hread]
    cases mem with
    | false =>
      rw [happen_still ho rfl]
      rfl
    | true =>
      rw [happen_eq ho]
      rfl

theorem addUser_eq (session : CDHCPSession) (s : CDHCPServer) :
    s.addUser session = { s with log := (addUser session {}).log ++ s.log } := by
  cases hadd : session.m_isAddUser <;> simp only [addUser, hadd] <;> rfl

theorem handleRequest_eq (f : Fresh s) :
    (s.received request).handleRequest env mem s.next =
      (s.received request).happen env request.mac (.request mem request.requestedAddress) request
        [s.next] := by
  have hread := f.read_received env request
  cases ho : (s.received request).m_DhcpSessions request.mac with
  | none =>
    rw [handleRequest_none mem (congrArg DhcpPacket.mac hread) ho, happen_still ho rfl]
    unfold nakRequest
    rw [hread]
    cases mem <;> rfl
  | some session =>
    rw [handleRequest_some mem (congrArg DhcpPacket.mac hread) ho]
    cases mem with
    | false =>
      rw [happen_still ho (by simp [clientStep])]
      rfl
    | true =>
      by_cases hask : hostLong session.m_config.ip_address = request.requestedAddress
      · rw [sessionRequest_ack (by rw [hread]; exact hask), hread, addUser_eq, happen_eq ho]
        simp only [clientStep, emits, hask, true_and, if_true]
        rw [List.append_assoc]
        rfl
      · rw [sessionRequest_nak (by rw [hread]; exact hask), hread, happen_still ho]
        · simp only [emits, if_neg hask, if_true]
          rfl
        · simp only [clientStep, hask, and_false, if_false]

theorem handleDiscover_eq (f : Fresh s) :
    (s.received request).handleDiscover env mem s.next =
      (s.received request).happen env request.mac (.discover mem s.next) request [s.next] := by
  have hmac := congrArg DhcpPacket.mac (f.read_received env request)
  cases ho : (s.received request).m_DhcpSessions request.mac with
  | none =>
    rw [handleDiscover_none mem hmac ho, happen_eq ho, setDiscoverRequest]
    simp only [setSession, Function.update_idem]
    rfl
  | some session =>
    have hset : (s.received request).setDiscoverRequest request.mac session s.next =
        { s.received request with
          m_DhcpSessions := Function.update s.m_DhcpSessions request.mac
            (some { session with m_discovery := some s.next })
          released := session.m_discovery.toList ++ s.released } := by
      unfold setDiscoverRequest
      cases session.m_discovery <;> rfl
    by_cases hc : session.m_config = {}
    · rw [handleDiscover_early mem hmac ho hc, hset, happen_eq ho]
      simp only [clientStep, emits, frees, hc, ne_eq, not_true_eq_false, and_false, if_true,
        if_false]
      rfl
    · rw [handleDiscover_again mem hmac ho hc, hset, sessionDiscover_eq (Function.update_self ..),
        happen_eq (Function.update_self ..), happen_eq ho]
      -- the packet has just come, so it has not been released
      have hnot : s.next ∉ session.m_discovery.toList ++ s.released := by
        rw [List.mem_append, not_or]
        refine ⟨fun hd => ?_, f.new⟩
        exact absurd (f.held _ session _ ho (Option.mem_toList.mp hd)) (Nat.lt_irrefl _)
      simp only [clientStep, emits, frees, Function.update_idem, Option.isSome_some,
        Option.elim_some, and_true, ne_eq, hc, not_false_eq_true, List.nil_append, read,
        if_neg hnot]
      rw [show (s.received request).heap s.next = request from Function.update_self ..]
      cases mem <;> rfl

end Packet

/-! ## 3. One event -/

/-- **What a packet can be**: one that is dropped, or one for the client that sent it. -/
theorem handleDHCP_cases {P : CDHCPServer → Option (Bytes × ClientEvent) → Prop} (mem : Bool)
    (request : DhcpPacket) (hdrop : P ((s.received request).freePacket s.next) none)
    (hdiscover : P ((s.received request).handleDiscover env mem s.next)
      (some (request.mac, .discover mem s.next)))
    (hleave : P ((s.received request).handleRelease env s.next) (some (request.mac, .leave)))
    (hinform : P ((s.received request).handleInform env mem s.next)
      (some (request.mac, .inform mem)))
    (hrequest : P ((s.received request).handleRequest env mem s.next)
      (some (request.mac, .request mem request.requestedAddress))) :
    P (s.handleDHCP env mem request) (clientOf env s.next (.packet mem request)) := by
  unfold clientOf handleDHCP
  dsimp only
  refine iteInduction₂ (fun _ => hdrop) fun _ => ?_
  refine iteInduction₂ (fun _ => hdrop) fun _ => ?_
  refine iteInduction₂ (fun _ => hdiscover) fun _ => ?_
  refine iteInduction₂ (fun _ => hleave) fun _ => ?_
  refine iteInduction₂ (fun _ => hinform) fun _ => ?_
  refine iteInduction₂ (fun _ => hrequest) fun _ => ?_
  exact iteInduction₂ (fun _ => hleave) fun _ => hdrop

/-- **What an event does**: a packet is dropped, or something happens to one client. -/
theorem step_eq (f : Fresh s) (env : DhcpEnv) (ev : Event) :
    s.step env ev = (clientOf env s.next ev).elim ((s.arrived ev).freePacket s.next) fun c =>
      (s.arrived ev).happen env c.1 c.2 (s.answered env ev) (s.came ev) := by
  cases ev with
  | packet mem request =>
    exact handleDHCP_cases (P := fun t c => t = c.elim ((s.received request).freePacket s.next)
      fun c => (s.received request).happen env c.1 c.2 request [s.next]) mem request rfl
      (handleDiscover_eq f) (handleRelease_eq f) (handleInform_eq f) (handleRequest_eq f)
  | response mem r => exact handleAuthResponse_eq mem r
  | kick mac => exact removeSession_eq env _ s mac
  | leaseTimeOut mac => exact leaseTimeOut_eq s mac

/-- A session keeps its packet, but for a DHCPDISCOVER. -/
theorem discovery_clientStep {o : Option CDHCPSession} {t : CDHCPSession} {d : Nat}
    (ht : clientStep o ce = some t) (hd : t.m_discovery = some d) :
    (∃ mem, ce = .discover mem d) ∨ ∃ old, o = some old ∧ old.m_discovery = some d := by
  cases o with
  | none =>
    cases ce with
    | discover mem h =>
      cases ht
      cases hd
      exact .inl ⟨mem, rfl⟩
    | _ => cases ht
  | some session =>
    cases ce with
    | discover mem h =>
      simp only [clientStep] at ht
      split at ht <;> cases ht <;> cases hd <;> exact .inl ⟨mem, rfl⟩
    | request mem asked =>
      simp only [clientStep] at ht
      split at ht <;> cases ht <;> exact .inr ⟨_, rfl, hd⟩
    | leave => cases ht
    | leaseTimeOut =>
      simp only [clientStep] at ht
      split at ht <;> cases ht
      exact .inr ⟨_, rfl, hd⟩
    | _ =>
      cases ht
      exact .inr ⟨session, rfl, hd⟩

/-- The configuration of the session after the event. -/
def configAfter (session : CDHCPSession) : ClientEvent → DHCPNetworkConfig
  | .answer _ config => config
  | _ => session.m_config

theorem config_clientStep {t : CDHCPSession}
    (h : clientStep (some session) ce = some t) : t.m_config = configAfter session ce := by
  cases ce with
  | discover | request =>
    simp only [clientStep] at h
    split at h <;> cases h <;> rfl
  | inform mem => cases h; rfl
  | leave => cases h
  | answer mem config => cases h; rfl
  | leaseTimeOut =>
    simp only [clientStep] at h
    split at h <;> cases h
    rfl

/-- What is released came with the event or was held by the session. -/
theorem mem_frees {o : Option CDHCPSession} (hh : h ∈ frees hs o ce) :
    h ∈ hs ∨ ∃ session, o = some session ∧ session.m_discovery = some h := by
  have hold : ∀ (session : CDHCPSession) (l : List Nat), l ⊆ hs →
      h ∈ l ++ session.m_discovery.toList → h ∈ hs ∨ ∃ t, some session = some t ∧
        t.m_discovery = some h := by
    intro session l hl hh
    exact (List.mem_append.mp hh).imp (fun h => hl h) fun hd =>
      ⟨session, rfl, Option.mem_toList.mp hd⟩
  cases o with
  | none =>
    cases ce with
    | discover mem d => cases hh
    | _ => exact .inl hh
  | some session =>
    cases ce with
    | discover mem d =>
      refine hold session _ ?_ hh
      split
      · exact List.Subset.refl _
      · exact List.nil_subset _
    | leave => exact hold session _ (List.Subset.refl _) hh
    | leaseTimeOut =>
      simp only [frees] at hh
      split at hh
      · exact hold session _ (List.Subset.refl _) hh
      · exact .inl hh
    | _ => exact .inl hh

theorem Fresh.happen (f : Fresh s) (hh : ∀ h ∈ hs, h < s.next)
    (hd : ∀ mem d, ce = .discover mem d → d < s.next) : Fresh (s.happen env mac ce p hs) where
  released h hr := by
    obtain hr | hr := List.mem_append.mp hr
    · obtain hr | ⟨session, ho, hd⟩ := mem_frees hr
      · exact hh h hr
      · exact f.held mac session h ho hd
    · exact f.released h hr
  held m t d ht htd := by
    obtain ⟨rfl, ht⟩ | ⟨-, ht⟩ := update_some ht
    · obtain ⟨mem, hce⟩ | ⟨old, ho, hod⟩ := discovery_clientStep ht htd
      · exact hd mem d hce
      · exact f.held _ old d ho hod
    · exact f.held m t d ht htd

/-- What an accepted packet is to the client that sent it. -/
theorem clientOf_packet {mem : Bool} {request : DhcpPacket}
    (hc : clientOf env h (.packet mem request) = some (mac, ce)) :
    request.mac = mac ∧ Accepted env request ∧
      (request.messageType = DHCP_DISCOVER ∧ ce = .discover mem h ∨
        request.messageType = DHCP_INFORM ∧ ce = .inform mem ∨
        request.messageType = DHCP_REQUEST ∧ ce = .request mem request.requestedAddress ∨
        ce = .leave) := by
  simp only [clientOf] at hc
  split at hc
  · cases hc
  rename_i hid
  split at hc
  · cases hc
  rename_i hop
  have hacc : Accepted env request := ⟨hid, not_not.mp hop⟩
  split at hc
  · cases hc
    exact ⟨rfl, hacc, .inl ⟨‹_›, rfl⟩⟩
  split at hc
  · cases hc
    exact ⟨rfl, hacc, .inr (.inr (.inr rfl))⟩
  split at hc
  · cases hc
    exact ⟨rfl, hacc, .inr (.inl ⟨‹_›, rfl⟩)⟩
  split at hc
  · cases hc
    exact ⟨rfl, hacc, .inr (.inr (.inl ⟨‹_›, rfl⟩))⟩
  split at hc
  · cases hc
    exact ⟨rfl, hacc, .inr (.inr (.inr rfl))⟩
  · cases hc

theorem packet_of_discover {ev : Event} {mem : Bool} {d : Nat}
    (hc : clientOf env h ev = some (mac, .discover mem d)) :
    d = h ∧ ∃ request, ev = .packet mem request ∧ request.mac = mac ∧ Accepted env request ∧
      request.messageType = DHCP_DISCOVER := by
  cases ev with
  | packet mem' request =>
    obtain ⟨hmac, hacc, ⟨htype, hce⟩ | ⟨-, hce⟩ | ⟨-, hce⟩ | hce⟩ := clientOf_packet hc <;> cases hce
    exact ⟨rfl, request, rfl, hmac, hacc, htype⟩
  | _ => cases hc

theorem fresh_step (f : Fresh s) (ev : Event) : Fresh (s.step env ev) := by
  have harrived : Fresh (s.arrived ev) ∧ ∀ h ∈ s.came ev, h < (s.arrived ev).next := by
    cases ev with
    | packet mem request =>
      refine ⟨⟨fun h hr => Nat.lt_succ_of_lt (f.released h hr),
        fun m t d ht hd => Nat.lt_succ_of_lt (f.held m t d ht hd)⟩, ?_⟩
      exact List.forall_mem_singleton.mpr (Nat.lt_succ_self _)
    | _ => exact ⟨⟨f.released, f.held⟩, nofun⟩
  rw [step_eq f]
  cases hc : clientOf env s.next ev with
  | none =>
    cases ev with
    | packet mem request =>
      exact ⟨List.forall_mem_cons.mpr ⟨Nat.lt_succ_self _, harrived.1.released⟩, harrived.1.held⟩
    | _ => cases hc
  | some c =>
    refine harrived.1.happen harrived.2 fun mem d hce => ?_
    obtain ⟨mac, ce⟩ := c
    cases hce
    obtain ⟨rfl, request, rfl, -⟩ := packet_of_discover hc
    exact Nat.lt_succ_self _

/-- What is put out for an event. -/
def outputs (env : DhcpEnv) (s : CDHCPServer) (ev : Event) : List DhcpOutput :=
  (clientOf env s.next ev).elim [] fun c =>
    emits env c.1 (s.answered env ev) (s.m_DhcpSessions c.1) c.2

theorem log_step (f : Fresh s) (ev : Event) : (s.step env ev).log = s.outputs env ev ++ s.log := by
  rw [step_eq f, outputs]
  cases clientOf env s.next ev <;> cases ev <;> rfl

/-- The session of a client after an event: that of the client the event concerns goes on, the
    others stay. -/
theorem session_step (f : Fresh s) (ev : Event) (mac : Bytes) :
    (s.step env ev).m_DhcpSessions mac =
      match clientOf env s.next ev with
      | none => s.m_DhcpSessions mac
      | some (m, ce) =>
        if m = mac then clientStep (s.m_DhcpSessions mac) ce else s.m_DhcpSessions mac := by
  have hsame : (s.arrived ev).m_DhcpSessions = s.m_DhcpSessions := by cases ev <;> rfl
  rw [step_eq f]
  cases hc : clientOf env s.next ev with
  | none => exact congrFun hsame mac
  | some c =>
    obtain ⟨m, ce⟩ := c
    show Function.update (s.arrived ev).m_DhcpSessions m
      (clientStep ((s.arrived ev).m_DhcpSessions m) ce) mac = _
    rw [hsame]
    by_cases hm : m = mac
    · rw [hm, Function.update_self]
      exact (if_pos rfl).symm
    · rw [Function.update_of_ne (Ne.symm hm)]
      exact (if_neg hm).symm

/-! ### The users that are reported -/

/-- The request to the session manager: `true` for AddUserRequest, `false` for
    DeleteUserRequest, and the MAC in it. -/
def report : Option CDHCPSession → ClientEvent → Option (Bool × Bytes)
  | some session, .request mem asked =>
    if mem ∧ hostLong session.m_config.ip_address = asked ∧ session.m_isAddUser = false then
      some (true, session.m_config.hardware_address)
    else none
  | some session, .leave => some (false, session.m_config.hardware_address)
  | some session, .leaseTimeOut =>
    if session.timer.isSome then some (false, session.m_config.hardware_address) else none
  | _, _ => none

/-- The requests to the session manager among the outputs. -/
def userRequests (log : List DhcpOutput) : List (Bool × Bytes) :=
  log.filterMap fun
    | .addUser user => some (true, user.mac)
    | .deleteUser mac => some (false, mac)
    | _ => none

theorem userRequests_emits (o : Option CDHCPSession) (ce : ClientEvent) :
    userRequests (emits env mac p o ce) = (report o ce).toList := by
  cases o with
  | none =>
    cases ce with
    | request mem asked => cases mem <;> rfl
    | _ => rfl
  | some session =>
    cases ce with
    | discover mem d => simp only [emits]; split <;> rfl
    | request mem asked =>
      simp only [emits, report]
      cases mem with
      | false => simp only [Bool.false_eq_true, false_and, if_false]; rfl
      | true =>
        by_cases hask : hostLong session.m_config.ip_address = asked
        · cases hadd : session.m_isAddUser <;> simp [hask, addUser, hadd, userRequests, out, replied]
        · simp only [hask, false_and, and_false, if_false, if_true]
          rfl
    | inform mem => cases mem <;> rfl
    | leave => rfl
    | answer mem config => simp only [emits]; split <;> rfl
    | leaseTimeOut => simp only [emits, report]; split <;> rfl

/-- **The requests to the session manager**, event by event. -/
theorem userRequests_step (f : Fresh s) (ev : Event) :
    userRequests (s.step env ev).log =
      ((clientOf env s.next ev).bind fun c => report (s.m_DhcpSessions c.1) c.2).toList ++
        userRequests s.log := by
  rw [log_step f, outputs, userRequests, List.filterMap_append]
  cases clientOf env s.next ev with
  | none => rfl
  | some c => exact congrArg (· ++ _) (userRequests_emits ..)

/-! ### A DHCPDISCOVER that comes too early -/

/-- A DHCPDISCOVER for a session the authentication manager has not answered for. -/
def EarlyDiscover (env : DhcpEnv) (s : CDHCPServer) : Event → Prop
  | .packet _ request =>
    Accepted env request ∧ request.messageType = DHCP_DISCOVER ∧
      ∃ session ∈ s.m_DhcpSessions request.mac, session.m_config = {}
  | _ => False

instance (env : DhcpEnv) (s : CDHCPServer) : ∀ ev, Decidable (EarlyDiscover env s ev)
  | .packet _ request => inferInstanceAs (Decidable (_ ∧ _ ∧
      ∃ session ∈ s.m_DhcpSessions request.mac, session.m_config = {}))
  | .response _ _ => isFalse id
  | .kick _ => isFalse id
  | .leaseTimeOut _ => isFalse id

/-- A DHCPDISCOVER from the client 02:00:00:00:00:01. -/
def discover : DhcpPacket where
  op := BOOT_REQUEST
  chaddr := [2, 0, 0, 0, 0, 1] ++ List.replicate 10 0
  options := [{ code := DHO_DHCP_MESSAGE_TYPE, value := [DHCP_DISCOVER] }]

/-- A server at 10.0.0.1. -/
def sampleEnv : DhcpEnv where
  localaddr := 0x0a000001
  freed _ _ := { op := 0 }

/-! ## 4. A client alone -/

/-- An event without the number of its packet. -/
def ClientEvent.unnumbered : ClientEvent → ClientEvent
  | .discover mem _ => .discover mem 0
  | ce => ce

/-- What the event is to the client, if it concerns it. -/
def own (env : DhcpEnv) (mac : Bytes) (ev : Event) : Option ClientEvent :=
  (clientOf env 0 ev).bind fun p => if p.1 = mac then some p.2 else none

/-- A session without the number of the packet it keeps. -/
def seen : Option CDHCPSession → Option (Bool × DHCPNetworkConfig × Bool × Option Int32) :=
  Option.map fun session =>
    (session.m_discovery.isSome, session.m_config, session.m_isAddUser, session.timer)

theorem clientOf_unnumbered (env : DhcpEnv) (h : Nat) (ev : Event) :
    (clientOf env h ev).map (fun p => (p.1, p.2.unnumbered)) = clientOf env 0 ev := by
  cases ev with
  | packet mem request =>
    unfold clientOf
    repeat' refine (apply_ite ..).trans (congr (congr rfl ?_) ?_)
    all_goals rfl
  | _ => rfl

theorem seen_clientStep {o o' : Option CDHCPSession} (h : seen o = seen o') (ce : ClientEvent) :
    seen (clientStep o ce) = seen (clientStep o' ce.unnumbered) := by
  cases o <;> cases o' <;> simp [seen] at h
  · cases ce <;> rfl
  · obtain ⟨hd, hc, ha, ht⟩ := h
    cases ce <;> simp only [clientStep, ClientEvent.unnumbered, hd, hc, ht] <;> (try split) <;>
      simp [seen, hd, hc, ha, ht]

/-- What the session looks like after an event. -/
theorem seen_step (f : Fresh s) (ev : Event) {mac : Bytes} {o : Option CDHCPSession}
    (h : seen (s.m_DhcpSessions mac) = seen o) :
    seen ((s.step env ev).m_DhcpSessions mac) =
      seen ((own env mac ev).elim o (clientStep o)) := by
  rw [session_step f, own, ← clientOf_unnumbered env s.next]
  cases clientOf env s.next ev with
  | none => exact h
  | some p =>
    dsimp only [Option.map_some, Option.bind_some]
    split
    · exact seen_clientStep h p.2
    · exact h

/-- Whether a DHCPDISCOVER comes too early is a matter of its client's session. -/
theorem EarlyDiscover.of_seen {t : CDHCPServer} {ev : Event} {mac : Bytes}
    (hev : (own env mac ev).isSome) (h : seen (s.m_DhcpSessions mac) = seen (t.m_DhcpSessions mac))
    (he : EarlyDiscover env t ev) : EarlyDiscover env s ev := by
  cases ev with
  | packet mem request =>
    obtain ⟨⟨hid, hop⟩, htype, session, hs, hc⟩ := he
    have hmac : request.mac = mac := by
      by_contra hne
      rw [own, clientOf, if_neg hid, if_neg (not_not.mpr hop), if_pos htype, Option.bind_some,
        if_neg hne] at hev
      cases hev
    refine ⟨⟨hid, hop⟩, htype, ?_⟩
    rw [hmac] at hs ⊢
    rw [hs] at h
    obtain ⟨x, hx, hcx⟩ := Option.map_eq_some_iff.mp h
    exact ⟨x, hx, (congrArg (·.2.1) hcx).trans hc⟩
  | _ => exact he

/-- **A client is served as if it were alone**, in every run in which no packet is released
    twice: the run without the events of others is such a run too, and the client's session is
    the same after it, but for the number of the packet it keeps. -/
theorem client_alone (env : DhcpEnv) (mac : Bytes) (evs : List Event)
    (h : Along (step env) (fun s ev => ¬ EarlyDiscover env s ev) {} evs) :
    seen ((run (step env) {} evs).m_DhcpSessions mac) =
      seen ((run (step env) {} (evs.filter fun ev => (own env mac ev).isSome)).m_DhcpSessions
        mac) ∧
    Along (step env) (fun s ev => ¬ EarlyDiscover env s ev) {}
      (evs.filter fun ev => (own env mac ev).isSome) := by
  have hfresh : ∀ s ev, Fresh s → Fresh (step env s ev) := fun _ ev f => fresh_step f ev
  refine run_filter (fun s => seen (s.m_DhcpSessions mac)) hfresh (fun s ev f hev => ?_)
    (fun s t ev fs ft hev h => ⟨?_, ?_⟩) fresh_start fresh_start rfl h
  · have hnone : own env mac ev = none := by simpa using hev
    rw [seen_step f ev rfl, hnone]
    rfl
  · rw [seen_step fs ev h, seen_step ft ev rfl]
  · exact mt (EarlyDiscover.of_seen hev h)

/-- Two clients side by side: the first is offered an address while the second waits for its
    answer. -/
theorem client_alone_two :
    let evs : List Event := [.packet true discover,
      .packet true { discover with chaddr := [2, 0, 0, 0, 0, 2] ++ List.replicate 10 0 },
      .response true { session := 1, mac := [2, 0, 0, 0, 0, 1], authResult := 0,
                       subscriberIP := 0x0a000002, leaseTime := 60 },
      .packet true discover]
    Along (step sampleEnv) (fun s ev => ¬ EarlyDiscover sampleEnv s ev) {} evs ∧
      seen ((run (step sampleEnv) {} evs).m_DhcpSessions [2, 0, 0, 0, 0, 1]) =
        seen ((run (step sampleEnv) {} (evs.filter fun ev =>
          (own sampleEnv [2, 0, 0, 0, 0, 1] ev).isSome)).m_DhcpSessions [2, 0, 0, 0, 0, 1]) := by
  intro evs
  have h : Along (step sampleEnv) (fun s ev => ¬ EarlyDiscover sampleEnv s ev) {} evs := by
    decide +kernel
  exact ⟨h, (client_alone sampleEnv [2, 0, 0, 0, 0, 1] evs h).1⟩

end CDHCPServer

end OpenBras
