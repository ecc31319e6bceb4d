/-
  File:      OpenBras/Portal/Channel.lean
  Subject:   THE PORTAL PROTOCOL: `CPortalServerChannel`, `CPortalUserMgr`, and what
             `CPortalServerManager` and `CPortalManager` do with what arrives (src/Portal).

  A portal server asks for a challenge, for the authentication of a user and for its logout;
  each answer of version 2 carries an authenticator, an MD5 digest over the answer and the
  shared key. Authentication goes to the authentication manager, which answers by the address
  of the user alone.

  * MD5 is a parameter (`Md5`); whether the manager takes a request is part of the event;
  * `msg` is the memory from the start of the receive buffer on: behind the `msgsize` bytes
    received it holds what it held before;
  * `m_cfg.key` is the memory from the array on, read up to its first zero byte by `strlen`;
  * a record notes which request to the manager was made for it (`request`). The program does
    not keep this; the notes are read by statements only;
  * `SendData` succeeds, and the challenge `HandleChallengeRequest` draws is not modelled: it is
    filled in and never used.
-/
import OpenBras.Utils.Md5
import Mathlib.Logic.Function.Basic

namespace OpenBras

open Wire

/-! ## 1. Constants and records -/

def PORTAL_VERSION_ONE : UInt8 := 1
def PORTAL_VERSION_TWO : UInt8 := 2

def PORTAL_CHAP_AUTH : UInt8 := 0
def PORTAL_PAP_AUTH : UInt8 := 1

def PORTAL_CHALLENGE_REQUEST_OK : UInt8 := 0
def PORTAL_LOGOUT_ACK_OK : UInt8 := 0
def PORTAL_AUTH_ACK_OK : UInt8 := 0
def PORTAL_AUTH_ACK_ONLINE : UInt8 := 2
def PORTAL_AUTH_ACK_WAITING : UInt8 := 3
def PORTAL_AUTH_ACK_FAIL : UInt8 := 4

def PORTAL_REQ_CHALLENGE : UInt8 := 1
def PORTAL_ACK_CHALLENGE : UInt8 := 2
def PORTAL_REQ_AUTHEN : UInt8 := 3
def PORTAL_ACK_AUTHEN : UInt8 := 4
def PORTAL_REQ_LOGOUT : UInt8 := 5
def PORTAL_ACK_LOGOUT : UInt8 := 6
def PORTAL_NTF_LOGOUT : UInt8 := 8
def PORTAL_ACK_NTF_LOGOUT : UInt8 := 14

def PORTAL_USER_NAME : UInt8 := 1
def PORTAL_PASSWORD : UInt8 := 2
def PORTAL_CHAP_CHALLENGE : UInt8 := 3
def PORTAL_CHAP_PASSWORD : UInt8 := 4

def MAX_AUTHENTICATOR_LEN : Nat := 16
def MAX_PORTAL_AUTH_STR_LEN : Nat := 512
def PORTAL_SIZE_OF_ATTR_TYPE_AND_LEN_FIELDS : Nat := 2

/-- `sizeof(openportal_header)`. -/
def OPENPORTAL_HEADER : Nat := 32

def USER_TYPE_PORTAL : UInt8 := 2
def AUTH_PAP : UInt8 := 0
def AUTH_CHAP : UInt8 := 1

/-- MD5, of which only the length of a digest is known. -/
structure Md5 where
  run : Bytes → Bytes
  length_run : ∀ b, (run b).length = MAX_AUTHENTICATOR_LEN

/-- The one of src/Utils. -/
def Md5.utils : Md5 where
  run := md5
  length_run := length_md5

/-- `openportal_header`; numbers as they are read in network byte order. -/
structure OpenportalHeader where
  version : UInt8
  code : UInt8
  authType : UInt8
  reserverd : UInt8 := 0
  serialNo : UInt16
  reqId : UInt16 := 0
  ipAddress : UInt32
  userPort : UInt16 := 0
  errorCode : UInt8 := 0
  attrNum : UInt8 := 0
  authenticator : Bytes := List.replicate MAX_AUTHENTICATOR_LEN 0
  deriving DecidableEq, Repr

/-- The header in memory. -/
def OpenportalHeader.bytes (h : OpenportalHeader) : Bytes :=
  [h.version, h.code, h.authType, h.reserverd] ++ putShort h.serialNo ++ putShort h.reqId ++
    putLong h.ipAddress ++ putShort h.userPort ++ [h.errorCode, h.attrNum] ++ h.authenticator

/-- The header at the start of a packet. -/
def header (msg : Bytes) : OpenportalHeader where
  version := byteAt msg 0
  code := byteAt msg 1
  authType := byteAt msg 2
  reserverd := byteAt msg 3
  serialNo := getShort msg 4
  reqId := getShort msg 6
  ipAddress := getLong msg 8
  userPort := getShort msg 12
  errorCode := byteAt msg 14
  attrNum := byteAt msg 15
  authenticator := bytesAt msg 16 MAX_AUTHENTICATOR_LEN

/-- The members of `PortalServerCfg` the channel reads. -/
structure PortalServerCfg where
  version : UInt8
  key : Bytes
  deriving DecidableEq, Repr

/-- The text at a `char *`. -/
def cText (p : Bytes) : Bytes := p.takeWhile (· ≠ 0)

def strlen (p : Bytes) : Nat := (cText p).length

/-- An `ACE_INET_Addr`: address and port. -/
abbrev InetAddr := UInt32 × UInt16

structure CPortalUser where
  packet : Bytes
  isAuthOk : Bool := false
  portalServerAddr : InetAddr
  /-- The number of the request to the authentication manager that was made for the record. -/
  request : Option Nat := none
  deriving DecidableEq, Repr

/-- The table of users by address and VPN; `attempts` counts the requests made. -/
structure CPortalUserMgr where
  users : UInt32 × UInt32 → Option CPortalUser := fun _ => none
  attempts : Nat := 0

structure CPortalServerChannel where
  remoteAddr : InetAddr
  reqidbase : UInt16 := 0
  cfg : PortalServerCfg
  deriving DecidableEq, Repr

/-- The members of `Auth_Request` the channel sets; `authInfo` is the memory of the union. -/
structure PortalAuthRequest where
  userType : UInt8 := 0
  authtype : UInt8 := 0
  username : Bytes := List.replicate 32 0
  subIp : UInt32 := 0
  authInfo : Bytes := List.replicate 100 0
  deriving DecidableEq, Repr

/-- The members of `Auth_Response` the portal reads. -/
structure PortalAuthResponse where
  vrf : UInt32 := 0
  userIp : UInt32
  authResult : UInt32
  deriving DecidableEq, Repr

inductive PortalAct where
  | sendData (data : Bytes)
  | authRequest (r : PortalAuthRequest)
  deriving DecidableEq, Repr

namespace CPortalUserMgr

def findUser (ipaddr vpnid : UInt32) (u : CPortalUserMgr) : Option CPortalUser :=
  u.users (ipaddr, vpnid)

def removeUser (ipaddr vpnid : UInt32) (u : CPortalUserMgr) : CPortalUserMgr :=
  { u with users := Function.update u.users (ipaddr, vpnid) none }

/-- `CreateUser`, or a change of the record it made. -/
def putUser (ipaddr vpnid : UInt32) (user : CPortalUser) (u : CPortalUserMgr) : CPortalUserMgr :=
  { u with users := Function.update u.users (ipaddr, vpnid) (some user) }

end CPortalUserMgr

namespace CPortalServerChannel

/-! ## 2. Authenticators -/

/-- The loop over `attr_num` attributes that `CheckAuthenticator` and `AddAuthentication` share:
    the attributes from `pos` on are appended, unless the buffer overflows. -/
def attribBytes (mem : Bytes) : Nat → Nat → Bytes → Option Bytes
  | 0, _, s => some s
  | n + 1, pos, s =>
    let length := (byteAt mem (pos + 1)).toNat
    if s.length + length > MAX_PORTAL_AUTH_STR_LEN then none
    else attribBytes mem n (pos + length) (s ++ bytesAt mem pos length)

/-- `auth_str`: the header as given, the attributes of the packet and the key. -/
def authStr (head mem key : Bytes) : Option Bytes :=
  match attribBytes mem (byteAt mem 15).toNat OPENPORTAL_HEADER head with
  | none => none
  | some s =>
    if strlen key ≠ 0 ∧ s.length + strlen key > MAX_PORTAL_AUTH_STR_LEN then none
    else some (s ++ cText key)

/-- `CheckAuthenticator`. -/
def checkAuthenticator (H : Md5) (key msg : Bytes) : Bool :=
  if byteAt msg 0 = PORTAL_VERSION_ONE then true
  else
    match authStr (bytesAt msg 0 16 ++ List.replicate MAX_AUTHENTICATOR_LEN 0) msg key with
    | none => false
    | some s => H.run s = bytesAt msg 16 MAX_AUTHENTICATOR_LEN

/-- `AddAuthentication`, on the memory of the packet. -/
def addAuthentication (H : Md5) (key mem : Bytes) : Bytes :=
  match authStr (bytesAt mem 0 OPENPORTAL_HEADER) mem key with
  | none => mem
  | some s => memcpy mem 16 (H.run s)

/-- `AddAttribute` at `offset`. -/
def addAttribute (mem : Bytes) (offset : Nat) (type length : UInt8) (value : Bytes) : Bytes :=
  memcpy mem offset ([type, length] ++ bytesAt value 0 (length.toNat - 2))

/-! ## 3. Answers -/

/-- The fields of an answer to the request `q`, the authenticator still zero. -/
def response (q : OpenportalHeader) (code errorCode attrNum : UInt8) : OpenportalHeader where
  version := q.version
  code := code
  authType := q.authType
  serialNo := q.serialNo
  ipAddress := q.ipAddress
  errorCode := errorCode
  attrNum := attrNum

/-- The size of a header, by its version. -/
def headerSize (version : UInt8) : Nat :=
  if version = PORTAL_VERSION_ONE then OPENPORTAL_HEADER - MAX_AUTHENTICATOR_LEN
  else if version = PORTAL_VERSION_TWO then OPENPORTAL_HEADER
  else 0

/-- In version 2 the request's authenticator is copied into the answer before the digest is
    taken. -/
def authenticated (H : Md5) (key : Bytes) (q : OpenportalHeader) (mem : Bytes) : Bytes :=
  if q.version = PORTAL_VERSION_TWO then addAuthentication H key (memcpy mem 16 q.authenticator)
  else mem

/-- The answer to a request for authentication, at once or after the manager's response. -/
def authenAnswer (H : Md5) (key : Bytes) (q : OpenportalHeader) (errorCode : UInt8) : Bytes :=
  (authenticated H key q (response q PORTAL_ACK_AUTHEN errorCode 0).bytes).take
    (headerSize q.version)

/-- The answer to a request for a challenge: the challenge is the key. -/
def challengeAnswer (H : Md5) (key : Bytes) (q : OpenportalHeader) : Bytes :=
  let mem := (response q PORTAL_ACK_CHALLENGE PORTAL_CHALLENGE_REQUEST_OK 1).bytes
  let length := headerSize q.version
  let mem := addAttribute mem length PORTAL_CHAP_CHALLENGE 18 key
  (authenticated H key q mem).take (length + 18)

/-- The answer to a logout: here the request's authenticator is not copied. -/
def logoutAnswer (H : Md5) (key : Bytes) (q : OpenportalHeader) : Bytes :=
  let mem := (response q PORTAL_ACK_LOGOUT PORTAL_LOGOUT_ACK_OK 0).bytes
  let mem := if q.version = PORTAL_VERSION_TWO then addAuthentication H key mem else mem
  mem.take (headerSize q.version)

/-! ## 4. Requests -/

/-- `HandleChallengeRequest`. -/
def handleChallengeRequest (H : Md5) (msg : Bytes) (c : CPortalServerChannel)
    (u : CPortalUserMgr) : Int × CPortalUserMgr × List PortalAct :=
  if checkAuthenticator H c.cfg.key msg then
    (0, u, [.sendData (challengeAnswer H c.cfg.key (header msg))])
  else (-1, u, [])

/-- One turn of the loop over the attributes of a request for authentication: the attribute at
    `p_attrib` goes into its field, or does not fit. -/
def authAttribute (p : Bytes) (r : PortalAuthRequest) : Option PortalAuthRequest :=
  let type := byteAt p 0
  let length := (byteAt p 1).toNat - PORTAL_SIZE_OF_ATTR_TYPE_AND_LEN_FIELDS
  let value := bytesAt p 2 length
  let field (n : Nat) : Bytes := value ++ List.replicate (n - length) 0
  if type = PORTAL_USER_NAME then
    if length > 31 then none else some { r with username := field 32 }
  else if type = PORTAL_PASSWORD then
    if length > 31 then none else some { r with authInfo := memcpy r.authInfo 0 (field 32) }
  else if type = PORTAL_CHAP_CHALLENGE then
    if length > 16 then none else some { r with authInfo := memcpy r.authInfo 24 (field 16) }
  else if type = PORTAL_CHAP_PASSWORD then
    if length > 20 then none else some { r with authInfo := memcpy r.authInfo 0 (field 20) }
  else some r

/-- The loop. `p_attrib` is taken from `sendsize`, which does not move: every turn looks at the
    first attribute. -/
def authAttributes (p : Bytes) : Nat → PortalAuthRequest → Option PortalAuthRequest
  | 0, r => some r
  | n + 1, r =>
    match authAttribute p r with
    | none => none
    | some r => authAttributes p n r

/-- The request for the authentication manager, if every attribute fits. -/
def makeAuthRequest (msg : Bytes) : Option PortalAuthRequest :=
  let q := header msg
  authAttributes (msg.drop (headerSize q.version)) q.attrNum.toNat
    { userType := USER_TYPE_PORTAL, subIp := q.ipAddress,
      authtype := if q.authType = PORTAL_CHAP_AUTH then AUTH_CHAP else AUTH_PAP }

/-- `HandleAuthenRequest`; `am` says whether the authentication manager takes the request. -/
def handleAuthenRequest (H : Md5) (am : Bool) (msg : Bytes) (msgsize : Nat)
    (c : CPortalServerChannel) (u : CPortalUserMgr) : Int × CPortalUserMgr × List PortalAct :=
  let q := header msg
  if msgsize = 0 then (-1, u, [])
  else if !checkAuthenticator H c.cfg.key msg then (-1, u, [])
  else
    match u.findUser q.ipAddress 0 with
    | some user =>
      let errorCode := if user.isAuthOk then PORTAL_AUTH_ACK_ONLINE else PORTAL_AUTH_ACK_WAITING
      (0, u, [.sendData (authenAnswer H c.cfg.key q errorCode)])
    | none =>
      let user : CPortalUser :=
        { packet := bytesAt msg 0 msgsize, portalServerAddr := c.remoteAddr }
      match makeAuthRequest msg with
      | none => (-1, u.putUser q.ipAddress 0 user, [])
      | some r =>
        (if am then 0 else -1,
          { u.putUser q.ipAddress 0 { user with request := some u.attempts } with
            attempts := u.attempts + 1 },
          [.authRequest r])

/-- `HandleLogoutRequest`. -/
def handleLogoutRequest (H : Md5) (msg : Bytes) (c : CPortalServerChannel)
    (u : CPortalUserMgr) : Int × CPortalUserMgr × List PortalAct :=
  let q := header msg
  if checkAuthenticator H c.cfg.key msg then
    (0, u.removeUser q.ipAddress 0, [.sendData (logoutAnswer H c.cfg.key q)])
  else (-1, u, [])

/-- The loop of `RcvData` over the attributes, from `len` on. -/
def attributesFit (msg : Bytes) (msgsize : Nat) : Nat → Nat → Bool
  | 0, _ => true
  | n + 1, len =>
    let length := (byteAt msg (len + 1)).toNat
    if len = msgsize then false
    else if len + length > msgsize then false
    else if length < PORTAL_SIZE_OF_ATTR_TYPE_AND_LEN_FIELDS then false
    else attributesFit msg msgsize n (len + length)

/-- The checks of `RcvData` before its switch. -/
def accepts (cfg : PortalServerCfg) (msg : Bytes) (msgsize : Nat) : Bool :=
  let q := header msg
  (q.version = PORTAL_VERSION_ONE || q.version = PORTAL_VERSION_TWO) &&
    headerSize q.version ≤ msgsize &&
    (q.authType = PORTAL_CHAP_AUTH || q.authType = PORTAL_PAP_AUTH) &&
    attributesFit msg msgsize q.attrNum.toNat (headerSize q.version) &&
    q.version = cfg.version

/-- `RcvData`. The other handlers return 0 and do nothing. -/
def rcvData (H : Md5) (am : Bool) (msg : Bytes) (msgsize : Nat) (c : CPortalServerChannel)
    (u : CPortalUserMgr) : Int × CPortalUserMgr × List PortalAct :=
  let code := (header msg).code
  if !accepts c.cfg msg msgsize then (-1, u, [])
  else if code = PORTAL_REQ_CHALLENGE then c.handleChallengeRequest H msg u
  else if code = PORTAL_REQ_AUTHEN then c.handleAuthenRequest H am msg msgsize u
  else if code = PORTAL_REQ_LOGOUT then c.handleLogoutRequest H msg u
  else if 1 ≤ code ∧ code ≤ PORTAL_ACK_NTF_LOGOUT then (0, u, [])
  else (-1, u, [])

/-- `OnAuthResponse` of the channel. -/
def onAuthResponse (H : Md5) (r : PortalAuthResponse) (c : CPortalServerChannel)
    (u : CPortalUserMgr) :
    Int × CPortalUserMgr × List PortalAct :=
  match u.findUser r.userIp r.vrf with
  | none => (-1, u, [])
  | some user =>
    if user.packet.length = 0 then (-1, u, [])
    else
      let q := header user.packet
      if r.authResult = 0 then
        (0, u.putUser r.userIp r.vrf { user with isAuthOk := true },
          [.sendData (authenAnswer H c.cfg.key q PORTAL_AUTH_ACK_OK)])
      else
        (0, u.removeUser r.userIp r.vrf,
          [.sendData (authenAnswer H c.cfg.key q PORTAL_AUTH_ACK_FAIL)])

/-- A 16-bit number of the host, as it is read in network byte order. -/
def swapShort (v : UInt16) : UInt16 := v <<< 8 ||| v >>> 8

/-- `NotifyLogoutRequest`: request id and address go out in host byte order, and a header of
    version 1 goes out with its authenticator field. -/
def notifyLogoutRequest (H : Md5) (userid : UInt32) (c : CPortalServerChannel) :
    CPortalServerChannel × List PortalAct :=
  let c := { c with reqidbase := c.reqidbase + 1 }
  let h : OpenportalHeader :=
    { version := c.cfg.version, code := PORTAL_NTF_LOGOUT, authType := PORTAL_CHAP_AUTH,
      serialNo := 0, reqId := swapShort c.reqidbase, ipAddress := swapLong userid }
  let mem :=
    if c.cfg.version = PORTAL_VERSION_TWO then addAuthentication H c.cfg.key h.bytes else h.bytes
  (c, [.sendData (mem.take OPENPORTAL_HEADER)])

end CPortalServerChannel

/-! ## 5. The managers -/

/-- `CPortalManager` with its `CPortalServerManager`: the configured servers by address, the
    channels by the address of the server (the local address is fixed) and the users. -/
structure CPortalManager where
  serverCfg : UInt32 → Option PortalServerCfg
  channels : InetAddr → Option CPortalServerChannel := fun _ => none
  usrmgr : CPortalUserMgr := {}

namespace CPortalManager

/-- What can happen to the portal. A response of the authentication manager notes which request
    it answers; the program is not told. -/
inductive Event where
  | input (addrRecv : InetAddr) (msg : Bytes) (msgsize : Nat) (am : Bool)
  | authResponse (r : PortalAuthResponse) (request : Nat)
  | kickUser (userip vrf : UInt32)

/-- `handle_input`: the channel of the sender, made from its configuration if there is none. -/
def handleInput (H : Md5) (addrRecv : InetAddr) (msg : Bytes) (msgsize : Nat) (am : Bool)
    (p : CPortalManager) : CPortalManager × List PortalAct :=
  if msgsize = 0 then (p, [])
  else
    match p.serverCfg addrRecv.1 with
    | none => (p, [])
    | some cfg =>
      let c := (p.channels addrRecv).getD { remoteAddr := addrRecv, cfg }
      let (_, u, acts) := c.rcvData H am msg msgsize p.usrmgr
      ({ p with channels := Function.update p.channels addrRecv (some c), usrmgr := u }, acts)

/-- `OnAuthResponse`: the record of VPN 0 names the channel, which looks the user up again. -/
def onAuthResponse (H : Md5) (r : PortalAuthResponse) (p : CPortalManager) :
    CPortalManager × List PortalAct :=
  match p.usrmgr.findUser r.userIp 0 with
  | none => (p, [])
  | some user =>
    match p.channels user.portalServerAddr with
    | none => (p, [])
    | some c =>
      let (_, u, acts) := c.onAuthResponse H r p.usrmgr
      ({ p with usrmgr := u }, acts)

/-- `OnKickUserNotify`. -/
def onKickUserNotify (H : Md5) (userip vrf : UInt32) (p : CPortalManager) :
    CPortalManager × List PortalAct :=
  let removed := p.usrmgr.removeUser userip vrf
  match p.usrmgr.findUser userip vrf with
  | none => ({ p with usrmgr := removed }, [])
  | some user =>
    match p.channels user.portalServerAddr with
    | none => ({ p with usrmgr := removed }, [])
    | some c =>
      let (c, acts) := c.notifyLogoutRequest H userip
      ({ p with
          channels := Function.update p.channels user.portalServerAddr (some c),
          usrmgr := removed }, acts)

def step (H : Md5) (p : CPortalManager) : Event → CPortalManager × List PortalAct
  | .input addrRecv msg msgsize am => p.handleInput H addrRecv msg msgsize am
  | .authResponse r _ => p.onAuthResponse H r
  | .kickUser userip vrf => p.onKickUserNotify H userip vrf

/-- The portal after an event. -/
def next (H : Md5) (p : CPortalManager) (e : Event) : CPortalManager := (p.step H e).1

end CPortalManager

end OpenBras
