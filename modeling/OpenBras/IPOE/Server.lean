/-
  File:      OpenBras/IPOE/Server.lean
  Subject:   THE DHCP SERVER: `CDHCPServer` and `CDHCPSession` (src/IPOE).

  A session belongs to a hardware address. The first DHCPDISCOVER makes it and asks the
  authentication manager; the manager's answer is offered to the client; a DHCPREQUEST for the
  offered address is acknowledged and reported to the session manager. Received packets are
  heap objects: `marshall` makes one for each datagram, and every path has to release it with
  `free_packet`. They are handles here; what is found behind a handle that has been released
  is not determined (`DhcpEnv.freed`). An event carries the packet `marshall` made
  (OpenBras/IPOE/Packet.lean).

  The key of a session is the number made of the six octets of the address; the model keeps
  the octets. `mem` says whether the memory for a reply could be allocated.
-/
import OpenBras.PPP.State

namespace OpenBras

open Wire

/-! ## 1. Packets (src/IPOE/DHCPPacket.h) -/

def BOOT_REQUEST : UInt8 := 1
def BOOT_REPLY : UInt8 := 2

def DHCP_DISCOVER : UInt8 := 1
def DHCP_OFFER : UInt8 := 2
def DHCP_REQUEST : UInt8 := 3
def DHCP_DECLINE : UInt8 := 4
def DHCP_ACK : UInt8 := 5
def DHCP_NAK : UInt8 := 6
def DHCP_RELEASE : UInt8 := 7
def DHCP_INFORM : UInt8 := 8

def DHO_SUBNET : UInt8 := 1
def DHO_ROUTERS : UInt8 := 3
def DHO_DOMAIN_NAME_SERVERS : UInt8 := 6
def DHO_DHCP_REQUESTED_ADDRESS : UInt8 := 50
def DHO_DHCP_LEASE_TIME : UInt8 := 51
def DHO_DHCP_MESSAGE_TYPE : UInt8 := 53
def DHO_DHCP_SERVER_IDENTIFIER : UInt8 := 54

structure DhcpOption where
  code : UInt8
  value : Bytes
  deriving DecidableEq, Repr

structure DhcpPacket where
  op : UInt8
  htype : UInt8 := 0
  hlen : UInt8 := 0
  hops : UInt8 := 0
  xid : Bytes := List.replicate 4 0
  flags : Bytes := List.replicate 2 0
  ciaddr : Bytes := List.replicate 4 0
  yiaddr : Bytes := List.replicate 4 0
  chaddr : Bytes := List.replicate 16 0
  options : List DhcpOption := []
  deriving DecidableEq, Repr

namespace DhcpPacket

/-- The value of the first option with the given code whose length is as it should be. -/
def option (code : UInt8) (fits : Nat → Bool) (p : DhcpPacket) : Option Bytes :=
  (p.options.find? fun o => o.code == code && fits o.value.length).map (·.value)

def isBroadcast (p : DhcpPacket) : Bool := getShort p.flags 0 &&& 0x8000 == 0x8000

/-- `ntohl(get_server_id(request))`; 0 if there is none. -/
def getServerId (p : DhcpPacket) : UInt32 :=
  ((p.option DHO_DHCP_SERVER_IDENTIFIER (· == 4)).map (getLong · 0)).getD 0

/-- `ntohl(get_request_ip(request))`; 0 if there is none. -/
def getRequestIp (p : DhcpPacket) : UInt32 :=
  ((p.option DHO_DHCP_REQUESTED_ADDRESS (· == 4)).map (getLong · 0)).getD 0

/-- The message type; 0 if there is none. (The source takes the octet behind the pointer even if
    the option is empty.) -/
def messageType (p : DhcpPacket) : UInt8 :=
  ((p.option DHO_DHCP_MESSAGE_TYPE fun _ => true).map (byteAt · 0)).getD 0

/-- `GetSessionID`. -/
def mac (p : DhcpPacket) : Bytes := p.chaddr.take 6

/-- The address `HandleRequest` takes the client to ask for. -/
def requestedAddress (p : DhcpPacket) : Bytes :=
  if p.ciaddr ≠ List.replicate 4 0 then p.ciaddr
  else ((p.option DHO_DHCP_REQUESTED_ADDRESS (4 ≤ ·)).map (·.take 4)).getD (List.replicate 4 0)

end DhcpPacket

/-! ## 2. Sessions and the server -/

/-- The answer of the authentication manager, with the fields only the DHCP server uses. -/
structure IpoeAuthResponse extends AuthResponse where
  subscriberIPMask : UInt32 := 0
  leaseTime : UInt32 := 0
  gatewayaddr : UInt32 := 0
  deriving DecidableEq, Repr

/-- The numbers are in network byte order. -/
structure DHCPNetworkConfig where
  hardware_address : Bytes := List.replicate 6 0
  ip_address : UInt32 := 0
  router : UInt32 := 0
  netmask : UInt32 := 0
  dns1 : UInt32 := 0
  dns2 : UInt32 := 0
  leasetime : UInt32 := 0
  deriving DecidableEq, Repr

/-- `timer` is the delay of the lease timer, if it is scheduled. -/
structure CDHCPSession where
  m_discovery : Option Nat := none
  m_config : DHCPNetworkConfig := {}
  m_isAddUser : Bool := false
  timer : Option Int32 := none
  deriving DecidableEq, Repr

inductive DhcpOutput where
  /-- A reply, to an address. -/
  | send (packet : DhcpPacket) (clientip : UInt32)
  | authRequest (mac : Bytes)
  | addUser (user : SessionUserEx)
  | deleteUser (mac : Bytes)
  deriving DecidableEq, Repr

/-- Our address, and what is found behind a released handle (after the given releases). -/
structure DhcpEnv where
  localaddr : UInt32
  freed : List Nat → Nat → DhcpPacket

/-- The server; with the heap of received packets and the record of what it has put out and of
    the answers it has got. -/
structure CDHCPServer where
  m_DhcpSessions : Bytes → Option CDHCPSession := fun _ => none
  heap : Nat → DhcpPacket := fun _ => { op := 0 }
  next : Nat := 0
  released : List Nat := []
  log : List DhcpOutput := []
  responses : List IpoeAuthResponse := []

namespace CDHCPServer

variable (env : DhcpEnv)

def out (o : DhcpOutput) (s : CDHCPServer) : CDHCPServer := { s with log := o :: s.log }

def freePacket (h : Nat) (s : CDHCPServer) : CDHCPServer := { s with released := h :: s.released }

/-- The packet behind a handle. -/
def read (h : Nat) (s : CDHCPServer) : DhcpPacket :=
  if h ∈ s.released then env.freed s.released h else s.heap h

def setSession (mac : Bytes) (session : Option CDHCPSession) (s : CDHCPServer) : CDHCPServer :=
  { s with m_DhcpSessions := Function.update s.m_DhcpSessions mac session }

/-- `SendBroadcastReply` or `SendDHCP`. -/
def reply (response : DhcpPacket) (broadcast : Bool) (clientip : UInt32) (s : CDHCPServer) :
    CDHCPServer :=
  s.out (.send response (if broadcast then 0xffffffff else clientip))

/-! ### `CDHCPSession` -/

/-- The delay `StartLeaseTimer` schedules, in 32 bits. -/
def leaseDelay (config : DHCPNetworkConfig) : Int32 := (swapLong config.leasetime).toInt32 + 10

/-- The options of an offer or an acknowledgement. -/
def configOptions (type : UInt8) (config : DHCPNetworkConfig) : List DhcpOption :=
  [{ code := DHO_DHCP_MESSAGE_TYPE, value := [type] },
   { code := DHO_DHCP_SERVER_IDENTIFIER, value := hostLong (swapLong env.localaddr) },
   { code := DHO_DHCP_LEASE_TIME, value := hostLong config.leasetime },
   { code := DHO_ROUTERS, value := hostLong config.router },
   { code := DHO_SUBNET, value := hostLong config.netmask },
   { code := DHO_DOMAIN_NAME_SERVERS, value := hostLong config.dns1 ++ hostLong config.dns2 }]

/-- The reply to a request, without its options. -/
def replyTo (request : DhcpPacket) (yiaddr : Bytes) (options : List DhcpOption) : DhcpPacket :=
  { op := BOOT_REPLY, htype := request.htype, hlen := request.hlen, hops := 1, xid := request.xid,
    yiaddr := yiaddr, flags := request.flags, chaddr := request.chaddr, options := options }

/-- `CDHCPSession::SetDiscoverRequest`. A packet may be released here for the second time, which
    `released` then shows; what the allocator does in that case is not modelled. -/
def setDiscoverRequest (mac : Bytes) (session : CDHCPSession) (h : Nat) (s : CDHCPServer) :
    CDHCPServer :=
  let s := match session.m_discovery with
    | some d => s.freePacket d
    | none => s
  s.setSession mac (some { session with m_discovery := some h })

/-- `CDHCPSession::HandleDiscover`. -/
def sessionDiscover (mem : Bool) (mac : Bytes) (session : CDHCPSession)
    (config : DHCPNetworkConfig) (s : CDHCPServer) : CDHCPServer :=
  match session.m_discovery, mem with
  | some d, true =>
    let discovery := s.read env d
    let response := replyTo discovery (hostLong config.ip_address)
      (configOptions env DHCP_OFFER config)
    (s.reply response discovery.isBroadcast (swapLong config.ip_address)).setSession mac
      (some { session with m_config := config, timer := leaseDelay config })
  | _, _ => s.setSession mac (some { session with m_config := config })

/-- `CDHCPSession::AddUser`: what is reported, unless it has been. -/
def addUser (session : CDHCPSession) (s : CDHCPServer) : CDHCPServer :=
  if session.m_isAddUser then s
  else
    s.out (.addUser
      { session := 0, mac := session.m_config.hardware_address, authType := 0, userName := [],
        userIp := swapLong session.m_config.ip_address,
        primaryDns := swapLong session.m_config.dns1,
        secondaryDns := swapLong session.m_config.dns2 })

/-- `CDHCPSession::HandleRequest`. -/
def sessionRequest (mem : Bool) (mac : Bytes) (session : CDHCPSession) (h : Nat)
    (s : CDHCPServer) : CDHCPServer :=
  let request := s.read env h
  let config := session.m_config
  let requested := request.requestedAddress
  let type := if hostLong config.ip_address ≠ requested then DHCP_NAK else DHCP_ACK
  if mem then
    let response := replyTo request requested (configOptions env type config)
    let s := (s.reply response request.isBroadcast (getLong requested 0)).freePacket h
    if type = DHCP_ACK then
      (s.addUser session).setSession mac
        (some { session with timer := leaseDelay config, m_isAddUser := true })
    else s
  else s.freePacket h

/-- `CDHCPSession::HandleInform`. -/
def sessionInform (mem : Bool) (mac : Bytes) (session : CDHCPSession) (h : Nat)
    (s : CDHCPServer) : CDHCPServer :=
  let request := s.read env h
  let config := session.m_config
  if mem then
    let response := replyTo request (hostLong config.ip_address) (configOptions env DHCP_ACK config)
    ((s.reply response request.isBroadcast (swapLong config.ip_address)).freePacket h).setSession
      mac (some { session with timer := leaseDelay config })
  else s.freePacket h

/-- `RemoveSession`, with the destructor of the session. -/
def removeSession (mac : Bytes) (s : CDHCPServer) : CDHCPServer :=
  match s.m_DhcpSessions mac with
  | none => s
  | some session =>
    let s := s.setSession mac none
    let s := match session.m_discovery with
      | some d => s.freePacket d
      | none => s
    s.out (.deleteUser session.m_config.hardware_address)

/-! ### `CDHCPServer` -/

def handleDiscover (mem : Bool) (h : Nat) (s : CDHCPServer) : CDHCPServer :=
  let mac := (s.read env h).mac
  match s.m_DhcpSessions mac with
  | none => ((s.setSession mac (some {})).setDiscoverRequest mac {} h).out (.authRequest mac)
  | some session =>
    let s := s.setDiscoverRequest mac session h
    -- no answer yet: the packet is dropped, though the session has it now
    if session.m_config = {} then s.freePacket h
    else s.sessionDiscover env mem mac { session with m_discovery := some h } session.m_config

def nakRequest (mem : Bool) (h : Nat) (s : CDHCPServer) : CDHCPServer :=
  let request := s.read env h
  if mem then
    let response := replyTo request request.yiaddr
      [{ code := DHO_DHCP_MESSAGE_TYPE, value := [DHCP_NAK] },
       { code := DHO_DHCP_SERVER_IDENTIFIER, value := hostLong (swapLong env.localaddr) }]
    (s.reply response request.isBroadcast request.getRequestIp).freePacket h
  else s.freePacket h

def handleRequest (mem : Bool) (h : Nat) (s : CDHCPServer) : CDHCPServer :=
  let mac := (s.read env h).mac
  match s.m_DhcpSessions mac with
  | none => s.nakRequest env mem h
  | some session => s.sessionRequest env mem mac session h

/-- Without a session the packet is dropped, with one the session goes. -/
def handleRelease (h : Nat) (s : CDHCPServer) : CDHCPServer :=
  (s.removeSession (s.read env h).mac).freePacket h

/-- The same as `handleRelease`. -/
def handleDecline (h : Nat) (s : CDHCPServer) : CDHCPServer := s.handleRelease env h

def handleInform (mem : Bool) (h : Nat) (s : CDHCPServer) : CDHCPServer :=
  let mac := (s.read env h).mac
  match s.m_DhcpSessions mac with
  | none => s.freePacket h
  | some session => s.sessionInform env mem mac session h

/-- `HandleDHCP`, on what `marshall` returned. -/
def handleDHCP (mem : Bool) (request : DhcpPacket) (s : CDHCPServer) : CDHCPServer :=
  let h := s.next
  let s := { s with heap := Function.update s.heap h request, next := s.next + 1 }
  if request.getServerId ≠ 0 ∧ request.getServerId ≠ env.localaddr then s.freePacket h
  else if request.op ≠ BOOT_REQUEST then s.freePacket h
  else if request.messageType = DHCP_DISCOVER then s.handleDiscover env mem h
  else if request.messageType = DHCP_RELEASE then s.handleRelease env h
  else if request.messageType = DHCP_INFORM then s.handleInform env mem h
  else if request.messageType = DHCP_REQUEST then s.handleRequest env mem h
  else if request.messageType = DHCP_DECLINE then s.handleDecline env h
  else s.freePacket h

/-- `GetConfigFromResponse`. -/
def getConfigFromResponse (r : IpoeAuthResponse) : DHCPNetworkConfig where
  hardware_address := r.mac
  ip_address := swapLong r.subscriberIP
  router := swapLong r.gatewayaddr
  netmask := swapLong r.subscriberIPMask
  dns1 := swapLong r.primaryDNS
  dns2 := swapLong r.secondaryDNS
  leasetime := swapLong r.leaseTime

/-- `HandleAuthResponse`. The result of the authentication is not looked at. -/
def handleAuthResponse (mem : Bool) (r : IpoeAuthResponse) (s : CDHCPServer) : CDHCPServer :=
  let s := { s with responses := r :: s.responses }
  match s.m_DhcpSessions r.mac with
  | none => s
  | some session => s.sessionDiscover env mem r.mac session (getConfigFromResponse r)

/-! ### `CDHCPSession::HandleRequest`, by its answer -/

section
variable {env} {s : CDHCPServer} {mac : Bytes} {session : CDHCPSession} {h : Nat}

theorem sessionRequest_nak
    (hne : hostLong session.m_config.ip_address ≠ (s.read env h).requestedAddress) :
    s.sessionRequest env true mac session h =
      (s.reply (replyTo (s.read env h) (s.read env h).requestedAddress
        (configOptions env DHCP_NAK session.m_config)) (s.read env h).isBroadcast
        (getLong (s.read env h).requestedAddress 0)).freePacket h := by
  have htype : DHCP_NAK ≠ DHCP_ACK := by decide
  simp only [sessionRequest, if_pos hne, if_neg htype, if_true]

theorem sessionRequest_ack
    (heq : hostLong session.m_config.ip_address = (s.read env h).requestedAddress) :
    s.sessionRequest env true mac session h =
      (((s.reply (replyTo (s.read env h) (s.read env h).requestedAddress
        (configOptions env DHCP_ACK session.m_config)) (s.read env h).isBroadcast
        (getLong (s.read env h).requestedAddress 0)).freePacket h).addUser session).setSession mac
        (some { session with timer := leaseDelay session.m_config, m_isAddUser := true }) := by
  simp only [sessionRequest, if_neg (not_not.mpr heq), if_true]

end

/-! ### The handlers, by the session they find -/

section
variable {env} {s : CDHCPServer} {session : CDHCPSession} {h : Nat} {mac : Bytes} (mem : Bool)

theorem handleDiscover_none (hm : (s.read env h).mac = mac) (hs : s.m_DhcpSessions mac = none) :
    s.handleDiscover env mem h =
      ((s.setSession mac (some {})).setDiscoverRequest mac {} h).out (.authRequest mac) := by
  simp only [handleDiscover, hm, hs]

theorem handleDiscover_early (hm : (s.read env h).mac = mac)
    (hs : s.m_DhcpSessions mac = some session) (hc : session.m_config = {}) :
    s.handleDiscover env mem h = (s.setDiscoverRequest mac session h).freePacket h := by
  simp only [handleDiscover, hm, hs, if_pos hc]

theorem handleDiscover_again (hm : (s.read env h).mac = mac)
    (hs : s.m_DhcpSessions mac = some session) (hc : session.m_config ≠ {}) :
    s.handleDiscover env mem h =
      (s.setDiscoverRequest mac session h).sessionDiscover env mem mac
        { session with m_discovery := some h } session.m_config := by
  simp only [handleDiscover, hm, hs, if_neg hc]

theorem handleRequest_none (hm : (s.read env h).mac = mac) (hs : s.m_DhcpSessions mac = none) :
    s.handleRequest env mem h = s.nakRequest env mem h := by
  simp only [handleRequest, hm, hs]

theorem handleRequest_some (hm : (s.read env h).mac = mac)
    (hs : s.m_DhcpSessions mac = some session) :
    s.handleRequest env mem h = s.sessionRequest env mem mac session h := by
  simp only [handleRequest, hm, hs]

theorem handleInform_none (hm : (s.read env h).mac = mac) (hs : s.m_DhcpSessions mac = none) :
    s.handleInform env mem h = s.freePacket h := by
  simp only [handleInform, hm, hs]

theorem handleInform_some (hm : (s.read env h).mac = mac)
    (hs : s.m_DhcpSessions mac = some session) :
    s.handleInform env mem h = s.sessionInform env mem mac session h := by
  simp only [handleInform, hm, hs]

end

/-! ## 3. Events -/

inductive Event where
  /-- A datagram, as `marshall` returned it. -/
  | packet (mem : Bool) (request : DhcpPacket)
  /-- An answer of the authentication manager. -/
  | response (mem : Bool) (r : IpoeAuthResponse)
  /-- The session manager kicks a user. -/
  | kick (mac : Bytes)
  /-- The lease timer of a session expires. -/
  | leaseTimeOut (mac : Bytes)

def step (s : CDHCPServer) : Event → CDHCPServer
  | .packet mem request => s.handleDHCP env mem request
  | .response mem r => s.handleAuthResponse env mem r
  | .kick mac => s.removeSession mac
  | .leaseTimeOut mac =>
    if (s.m_DhcpSessions mac).any (·.timer.isSome) then s.removeSession mac else s

end CDHCPServer

end OpenBras
