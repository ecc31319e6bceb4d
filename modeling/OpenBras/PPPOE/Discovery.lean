/-
  File:      OpenBras/PPPOE/Discovery.lean
  Subject:   THE PPPOE SERVER: the discovery stage (`CPPPOEDiscoveryHandler`), the session ids
             (`CAddSessionId`), the session table of `CPPPOE` and the way of everything that
             reaches a session, as one step function (src/PPPOE).

  What a session does is OpenBras/PPPOE/Session.lean. Here it is created, found and removed:
  `deliver` hands an event to the session of an id and takes a session that has gone out of the
  table, with the id going back to the free ones (`~CSession`).

  Two things have no meaning in C++ and end a run (`PppoeFault`): a method called on a null pointer,
  and a reply copied past the end of the packet's payload array.
-/
import OpenBras.Lib.Table
import OpenBras.PPPOE.Server
import OpenBras.PPPOE.Tags

namespace OpenBras

open Wire

/-! ## 1. The state -/

/-- What the discovery stage is configured with. The two names are C strings in arrays of 200. -/
structure DiscoveryConfig where
  acName : Bytes
  acName_lt : acName.length < 200
  svcName : Bytes
  svcName_lt : svcName.length < 200
  intfMac : Bytes
  intfMtu : UInt16
  cookieSeed : Bytes
  pid : UInt32
  md5 : Bytes → Bytes
  length_md5 : ∀ b, (md5 b).length = 16

/-- The configuration of the server, and what the environment hands out: the random numbers for the
    sessions, by the order in which these are created. -/
structure PppoeEnv extends DiscoveryConfig where
  intfIp : UInt32
  authType : UInt16
  hostName : Bytes := ascii "WFNEX"
  rand : Nat → Nat → UInt32

inductive PppoeFault where
  /-- a method called on a null pointer -/
  | nullSession
  /-- a copy past the end of a payload array -/
  | overrun
  deriving DecidableEq, Repr

/-- The process: the table, the free ids, the static tags; with the replies sent (newest first),
    the sessions that have gone and the number of those created. -/
structure PppoeServer extends CPPPOE where
  psessionid : List UInt16
  tags : Statics := {}
  sent : List Bytes := []
  gone : List Exec := []
  created : Nat := 0
  fault : Option PppoeFault := none

/-- `m_psessionid.InIt(1, 60000)`, and no session. -/
def PppoeServer.initial : PppoeServer where
  sessionMgr _ := none
  keyed h := nomatch h
  psessionid := (List.range' 1 60000).map UInt16.ofNat

/-- A session stands in the table, under its own id. -/
def CPPPOE.setSession (x : Exec) (p : CPPPOE) : CPPPOE where
  sessionMgr := Function.update p.sessionMgr x.sessionid (some x)
  keyed h := by
    obtain ⟨rfl, hx⟩ | ⟨-, hx⟩ := update_some h
    · cases hx
      rfl
    · exact p.keyed hx

def CPPPOE.erase (id : UInt16) (p : CPPPOE) : CPPPOE where
  sessionMgr := Function.update p.sessionMgr id none
  keyed h := by
    obtain ⟨-, hx⟩ | ⟨-, hx⟩ := update_some h
    · cases hx
    · exact p.keyed hx

namespace PppoeServer

variable (env : PppoeEnv)

/-! ## 2. Ids and sessions -/

/-- `CAddSessionId::GetId`: 0 if there is none. -/
def getId (s : PppoeServer) : UInt16 × PppoeServer :=
  match s.psessionid with
  | [] => (0, s)
  | id :: rest => (id, { s with psessionid := rest })

/-- `CAddSessionId::FreeId`. -/
def freeId (id : UInt16) (s : PppoeServer) : PppoeServer :=
  if 1 ≤ id ∧ id ≤ 60000 then { s with psessionid := s.psessionid ++ [id] } else s

/-- What is settled for a new session. -/
def config (id : UInt16) (source : Bytes) (s : PppoeServer) : Exec.Config where
  authType := env.authType
  hostName := env.hostName
  sessionid := id
  clientEth := source
  rand := env.rand s.created
  intfIp := env.intfIp
  intfMac := env.intfMac

/-- `CreateSession`, `AddSession` and `SetClientEth`. A session that finds its id taken is
    destroyed at once, and the caller has no session, as when there is no id. -/
def createSession (source : Bytes) (s : PppoeServer) : Option Exec × PppoeServer :=
  let (id, s) := s.getId
  if id = 0 then (none, s)
  else
    match s.findSession id with
    | some _ => (none, s.freeId id)
    | none =>
      let x := Exec.create (s.config env id source)
      (some x, { s with toCPPPOE := s.setSession x, created := s.created + 1 })

/-- `RemoveSession`, with the destructor. -/
def removeSession (x : Exec) (s : PppoeServer) : PppoeServer :=
  { s.freeId x.sessionid with
    toCPPPOE := s.erase x.sessionid, gone := x :: s.gone }

/-- `FindSession`, and then what the session does. -/
def deliver (id : UInt16) (e : Exec.SessEvent) (s : PppoeServer) : PppoeServer :=
  match s.findSession id with
  | none => s
  | some x =>
    let y := x.sessStep e
    if y.hist.removed then s.removeSession y else { s with toCPPPOE := s.setSession y }

/-! ## 3. Replies -/

variable (cfg : DiscoveryConfig)

def COOKIE_LEN : Nat := 20

/-- `genCookie`, as `processPADI` and `processPADR` call it. -/
def genCookie (peerEthAddr : Bytes) : Bytes :=
  cfg.md5 (peerEthAddr ++ cfg.intfMac ++ cfg.cookieSeed) ++ hostLong cfg.pid

/-- `SendPacket`, with what has been copied into the packet before. -/
def sendPacket (frame : Bytes) (s : PppoeServer) : PppoeServer :=
  { s with
    sent := frame :: s.sent,
    fault := if frame.length > HDR_SIZE + ETH_JUMBO_LEN then some .overrun else s.fault }

/-- `CHECK_ROOM` and the copy of a piece of the payload. -/
def checkRoom (piece payload : Bytes) : Option Bytes :=
  if payload.length + piece.length > MAX_PPPOE_PAYLOAD then none else some (payload ++ piece)

/-- `max_ppp_payload` made to fit the interface. The difference is an `int` when it is compared,
    and has 16 bits when it is stored. -/
def shrink (intfMtu m : UInt16) : UInt16 :=
  let m := if (m.toNat : Int) > intfMtu.toNat - (TOTAL_OVERHEAD : Int) then
    intfMtu - TOTAL_OVERHEAD.toUInt16 else m
  if m.toNat > ETH_JUMBO_LEN - TOTAL_OVERHEAD then (ETH_JUMBO_LEN - TOTAL_OVERHEAD).toUInt16 else m

/-- The client asks for a larger payload, and the interface has a size. -/
def wantsMtu (m : UInt16) : Bool := m > ETH_PPPOE_MTU && cfg.intfMtu > 0

/-- `max_ppp_payload` after it has been handled. -/
def answeredMtu (m : UInt16) : UInt16 := if wantsMtu cfg m then shrink cfg.intfMtu m else m

/-- The max-payload tag of a reply, if there is one. -/
def mtuTag (m : UInt16) : Option Bytes :=
  if wantsMtu cfg m && answeredMtu cfg m > ETH_PPPOE_MTU then
    some (tagBytes TAG_PPP_MAX_PAYLOAD (putShort (answeredMtu cfg m)))
  else none

/-- A tag that is echoed if the request has it. -/
def echoed (t : PPPoETag) : Bytes := if t.type ≠ 0 then t.bytes else []

/-- The service name of a request is one we offer. -/
def offers (t : PPPoETag) : Bool :=
  t.length.toNat == cfg.svcName.length && t.payload.take t.length.toNat == cfg.svcName

/-- The payload of the PADO. (The array `m_svcName` is never NULL.) -/
def padoPayload (source : Bytes) (t : Statics) : Option Bytes := do
  let c ← checkRoom (tagBytes TAG_AC_NAME cfg.acName) []
  let c ← match mtuTag cfg t.max_ppp_payload with
    | some tag => checkRoom tag c
    | none => some c
  let c ← checkRoom (tagBytes TAG_SERVICE_NAME cfg.svcName) c
  let c ← checkRoom (tagBytes TAG_AC_COOKIE (genCookie cfg source)) c
  let c ← if t.relayId.type ≠ 0 then checkRoom t.relayId.bytes c else some c
  if t.hostUniq.type ≠ 0 then checkRoom t.hostUniq.bytes c else some c

/-- A PADI asks for a service by name, and not for ours. -/
def unsupported (t : PPPoETag) : Bool := t.type != 0 && t.length != 0 && !offers cfg t

def processPADI (p : PPPoEPacket) (s : PppoeServer) : PppoeServer :=
  if notUnicast p.source then s
  else
    let t := (parsePacket parsePADITags p s.tags.cleared).2
    if unsupported env.toDiscoveryConfig t.requestedService then { s with tags := t }
    else
      let s := { s with
        tags := { t with
          max_ppp_payload := answeredMtu env.toDiscoveryConfig t.max_ppp_payload } }
      match padoPayload env.toDiscoveryConfig p.source t with
      | none => s
      | some payload => s.sendPacket (discoveryFrame p.source env.intfMac CODE_PADO 0 payload)

/-- The frame of `sendErrorPADS`. -/
def errorPADS (dest : Bytes) (errorTag : UInt16) (errorMsg : String) (t : Statics) : Bytes :=
  discoveryFrame dest cfg.intfMac CODE_PADS 0
    (tagBytes errorTag (ascii errorMsg) ++ echoed t.relayId ++ echoed t.hostUniq)

/-- What `processPADR` makes of a request. -/
inductive Verdict where
  | discard
  | errorPADS (errorMsg : String)
  | accept
  deriving DecidableEq, Repr

/-- The checks behind `parsePacket`. -/
def examine (source : Bytes) (t : Statics) : Verdict :=
  if t.receivedCookie.type = 0 then .discard
  else if t.receivedCookie.length.toNat ≠ COOKIE_LEN then .discard
  else if t.receivedCookie.payload.take COOKIE_LEN ≠ genCookie cfg source then .discard
  else if t.requestedService.type = 0 then .errorPADS "WFNEX-PPPoE: Server: No service name tag"
  else if t.requestedService.length ≠ 0 ∧ offers cfg t.requestedService = false then
    .errorPADS "WFNEX-PPPoE: Server: Invalid service name tag"
  else .accept

/-- The service tag of a PADS: without a name in the request, our name. -/
def servedTag (t : PPPoETag) : PPPoETag :=
  if t.length = 0 ∧ cfg.svcName.length ≠ 0 then
    { t with
      length := cfg.svcName.length.toUInt16,
      payload := cfg.svcName ++ t.payload.drop cfg.svcName.length }
  else t

/-- The payload of the PADS. There is one check, and three copies without. -/
def padsPayload (t : Statics) : Option Bytes := do
  let c := (servedTag cfg t.requestedService).bytes
  let c ← match mtuTag cfg t.max_ppp_payload with
    | some tag => checkRoom tag c
    | none => some c
  some (c ++ echoed t.relayId ++ echoed t.hostUniq)

def processPADR (p : PPPoEPacket) (s : PppoeServer) : PppoeServer :=
  let t := { s.tags with
    relayId := { s.tags.relayId with type := 0 }, hostUniq := { s.tags.hostUniq with type := 0 },
    receivedCookie := { s.tags.receivedCookie with type := 0 },
    requestedService := { s.tags.requestedService with type := 0 } }
  if p.dest ≠ env.intfMac then { s with tags := t }
  else if notUnicast p.source then { s with tags := t }
  else
    let t := (parsePacket parsePADRTags p { t with max_ppp_payload := 0 }).2
    let s := { s with tags := t }
    match examine env.toDiscoveryConfig p.source t with
    | .discard => s
    | .errorPADS errorMsg =>
      s.sendPacket
        (errorPADS env.toDiscoveryConfig p.source TAG_SERVICE_NAME_ERROR errorMsg t)
    | .accept =>
      match s.createSession env p.source with
      | (none, s) => { s with fault := some .nullSession }
      | (some x, s) =>
        let s := { s with
          tags := { t with
            requestedService := servedTag env.toDiscoveryConfig t.requestedService,
            max_ppp_payload := answeredMtu env.toDiscoveryConfig t.max_ppp_payload } }
        match padsPayload env.toDiscoveryConfig t with
        | none => s
        | some payload =>
          let s := s.sendPacket
            (discoveryFrame p.source env.intfMac CODE_PADS x.sessionid payload)
          -- CSession::Init
          { s with toCPPPOE := s.setSession (Exec.lcpOpen (Exec.pppInit x)) }

def processPADT (p : PPPoEPacket) (s : PppoeServer) : PppoeServer :=
  if p.dest ≠ env.intfMac then s else s.deliver p.session (.padt p.dest p.source)

/-- `CPPPOEDiscoveryHandler::ProcessPacket`: `frame` has been received into a buffer that still
    holds `stale` behind it. -/
def processDiscoveryPacket (frame stale : Bytes) (s : PppoeServer) : PppoeServer :=
  let p := PPPoEPacket.overlay (frame ++ stale)
  if frame.length < HDR_SIZE then s
  else if p.ver ≠ 1 ∨ p.type ≠ 1 then s
  else if p.length.toNat + HDR_SIZE > frame.length then s
  else if p.code = CODE_PADI then s.processPADI env p
  else if p.code = CODE_PADR then s.processPADR env p
  else if p.code = CODE_PADT then s.processPADT env p
  else s

/-! ## 4. The session stage -/

/-- `CPPPOESessionHandler::ProcessPacket`; `rest` is what earlier frames left in the buffer of
    `ProcessSessData`. -/
def processSessionPacket (frame stale rest : Bytes) (s : PppoeServer) : PppoeServer :=
  let p := PPPoEPacket.overlay (frame ++ stale)
  if frame.length < HDR_SIZE then s
  else if p.ver ≠ 1 ∨ p.type ≠ 1 then s
  else if p.code ≠ CODE_SESS then s
  else if p.length.toNat + HDR_SIZE > frame.length then s
  else
    s.deliver p.session (.sessData
      { dest := p.dest, source := p.source, length := p.length,
        payload := p.payload.take p.length.toNat ++ rest })

/-! ## 5. Events -/

inductive Event where
  | discovery (frame stale : Bytes)
  | session (frame stale rest : Bytes)
  /-- `HandleKickUserNotify` -/
  | kick (session : UInt16) (mac : Bytes)
  /-- `HandleAuthResponse`, for the session's own request `k` -/
  | response (k : Nat) (r : AuthResponse)
  /-- a protocol timer of a session -/
  | timer (session : UInt16) (t : Exec.Timer)
  /-- `CSession::handle_timeout` -/
  | oneOff (session : UInt16)

/-- One event. Nothing is said of a process after a fault. -/
def step (s : PppoeServer) (e : Event) : PppoeServer :=
  if s.fault.isSome then s
  else
    match e with
    | .discovery frame stale => s.processDiscoveryPacket env frame stale
    | .session frame stale rest => s.processSessionPacket frame stale rest
    | .kick session mac => s.deliver session (.kick mac)
    | .response k r => s.deliver r.session (.response k r)
    | .timer session t => s.deliver session (.timer t)
    | .oneOff session => s.deliver session .oneOff

end PppoeServer

end OpenBras
