/-
  File:      OpenBras/PPPOE/Replies.lean
  Subject:   WHAT THE SERVER ANSWERS TO A DISCOVERY FRAME: the PADO, PADS or error PADS is a
             function of the frame, the configuration and, for a PADS, the new session's id.

  The handlers read the tags of a request from static members that other clients' frames have
  filled before. `replyTo` is the answer to a frame, written without them: it sees the request
  (`Request`) and nothing else. **`reply_of_frame`**: in every history the server sends just
  that, so nothing of an earlier frame gets into a reply.
-/
import OpenBras.PPPOE.Ids

namespace OpenBras

open Wire
open PPPoEPacket (overlay)

namespace PppoeServer

variable (cfg : DiscoveryConfig)

/-! ## 1. The answer to a request -/

/-- The tag of a value that is echoed. -/
def echo (type : UInt16) (v : Option Bytes) : Bytes := (v.map (tagBytes type)).getD []

/-- `checkRoom`, if there is something to copy. -/
def checkRoomFor (piece : Option Bytes) (payload : Bytes) : Option Bytes :=
  match piece with
  | some piece => checkRoom piece payload
  | none => some payload

/-- The payload of the PADO for a request. -/
def padoFor (source : Bytes) (r : Request) : Option Bytes := do
  let c ← checkRoom (tagBytes TAG_AC_NAME cfg.acName) []
  let c ← checkRoomFor (mtuTag cfg r.max_ppp_payload) c
  let c ← checkRoom (tagBytes TAG_SERVICE_NAME cfg.svcName) c
  let c ← checkRoom (tagBytes TAG_AC_COOKIE (genCookie cfg source)) c
  let c ← checkRoomFor (r.relayId.map (tagBytes TAG_RELAY_SESSION_ID)) c
  checkRoomFor (r.hostUniq.map (tagBytes TAG_HOST_UNIQ)) c

/-- The service is ours, or none in particular. -/
def serves (v : Bytes) : Bool := v == [] || v == cfg.svcName

def answerPADI (source : Bytes) (r : Request) : Option Bytes :=
  if notUnicast source then none
  else if r.requestedService.all (serves cfg) then
    (padoFor cfg source r).map (discoveryFrame source cfg.intfMac CODE_PADO 0)
  else none

/-- What becomes of the service a PADR asks for. -/
def judgeService (v : Option Bytes) : Verdict :=
  match v with
  | none => .errorPADS "WFNEX-PPPoE: Server: No service name tag"
  | some v =>
    if serves cfg v then .accept
    else .errorPADS "WFNEX-PPPoE: Server: Invalid service name tag"

/-- What `processPADR` makes of a request. -/
def judge (source : Bytes) (r : Request) : Verdict :=
  if r.receivedCookie = some (genCookie cfg source) then judgeService cfg r.requestedService
  else .discard

/-- The payload of the error PADS for a request. -/
def errorFor (errorMsg : String) (r : Request) : Bytes :=
  tagBytes TAG_SERVICE_NAME_ERROR (ascii errorMsg) ++ echo TAG_RELAY_SESSION_ID r.relayId ++
    echo TAG_HOST_UNIQ r.hostUniq

/-- The payload of the PADS for a request. -/
def padsFor (r : Request) : Bytes :=
  tagBytes TAG_SERVICE_NAME cfg.svcName ++ (mtuTag cfg r.max_ppp_payload).getD [] ++
    echo TAG_RELAY_SESSION_ID r.relayId ++ echo TAG_HOST_UNIQ r.hostUniq

/-- What is sent for a PADR, the id of the new session given. -/
def answerPADR (dest source : Bytes) (r : Request) (id : Option UInt16) : Option Bytes :=
  if dest ≠ cfg.intfMac ∨ notUnicast source then none
  else
    match judge cfg source r with
    | .discard => none
    | .errorPADS errorMsg =>
      some (discoveryFrame source cfg.intfMac CODE_PADS 0 (errorFor errorMsg r))
    | .accept => id.map fun id => discoveryFrame source cfg.intfMac CODE_PADS id (padsFor cfg r)

/-- The frame has a header, and the payload the header speaks of. -/
def wellFormed (frame : Bytes) : Bool :=
  let p := overlay frame
  HDR_SIZE ≤ frame.length && p.ver == 1 && p.type == 1 &&
    p.length.toNat + HDR_SIZE ≤ frame.length

/-- The answer to a frame, the id of the new session given. -/
def replyTo (frame : Bytes) (id : Option UInt16) : Option Bytes :=
  let p := overlay frame
  if wellFormed frame = false then none
  else if p.code = CODE_PADI then answerPADI cfg p.source p.request
  else if p.code = CODE_PADR then answerPADR cfg p.dest p.source p.request id
  else none

/-- The id an event has taken from the free ones, if it has. -/
def allocated (s t : PppoeServer) : Option UInt16 :=
  if t.psessionid = s.psessionid then none else s.psessionid.head?

/-! ## 2. The static members give the same -/

variable {cfg}

variable {type : UInt16} {t : PPPoETag} {v : Bytes} {r : Request}

theorem bytes_of_holds (h : t.Holds type (some v)) : t.bytes = tagBytes type v := by
  obtain ⟨htype, hlen, hpay⟩ := h
  unfold PPPoETag.bytes tagBytes
  rw [htype, hlen, hpay, ← hlen]
  simp

theorem echoed_of_holds (hne : type ≠ 0) {v : Option Bytes} (h : t.Holds type v) :
    echoed t = echo type v := by
  unfold echoed
  cases v with
  | none =>
    have htype : t.type = 0 := h
    rw [if_neg (not_not.mpr htype)]
    rfl
  | some v =>
    rw [if_pos (by rw [h.1]; exact hne)]
    exact bytes_of_holds h

theorem offers_of_holds (h : t.Holds type (some v)) : offers cfg t = (v == cfg.svcName) := by
  obtain ⟨-, hlen, hpay⟩ := h
  unfold offers
  rw [hlen, hpay]
  by_cases hv : v = cfg.svcName
  · simp [hv]
  · rw [beq_false_of_ne hv, Bool.and_false]

theorem length_eq_zero_of_holds (h : t.Holds type (some v)) : t.length = 0 ↔ v = [] := by
  rw [← List.length_eq_zero_iff, ← h.2.1]
  exact UInt16.toNat_inj.symm

/-- **A PADI is answered by its request.** -/
theorem padoPayload_eq {source : Bytes} {t : Statics} (h : t.Holds false r) :
    padoPayload cfg source t = padoFor cfg source r := by
  have hrelay := h.relayId
  have hhost := h.hostUniq
  unfold padoPayload padoFor
  rw [h.max_ppp_payload]
  -- one case for each tag that may be there
  cases hr : r.relayId <;> cases hu : r.hostUniq <;> rw [hr] at hrelay <;> rw [hu] at hhost
  case none.none =>
    simp only [show t.relayId.type = 0 from hrelay, show t.hostUniq.type = 0 from hhost]
    cases mtuTag cfg r.max_ppp_payload <;> rfl
  case none.some =>
    simp only [show t.relayId.type = 0 from hrelay, hhost.1, bytes_of_holds hhost]
    cases mtuTag cfg r.max_ppp_payload <;> rfl
  case some.none =>
    simp only [hrelay.1, bytes_of_holds hrelay, show t.hostUniq.type = 0 from hhost]
    cases mtuTag cfg r.max_ppp_payload <;> rfl
  case some.some =>
    simp only [hrelay.1, bytes_of_holds hrelay, hhost.1, bytes_of_holds hhost]
    cases mtuTag cfg r.max_ppp_payload <;> rfl

theorem unsupported_eq {t : Statics} (h : t.Holds false r) :
    unsupported cfg t.requestedService = !r.requestedService.all (serves cfg) := by
  have hs := h.requestedService
  unfold unsupported
  cases hv : r.requestedService with
  | none =>
    rw [hv] at hs
    rw [show t.requestedService.type = 0 from hs]
    rfl
  | some v =>
    rw [hv] at hs
    have htype : (t.requestedService.type != 0) = true := by
      rw [hs.1]
      decide
    rw [htype, offers_of_holds hs, Bool.true_and, Option.all_some, serves, Bool.not_or]
    congr 1
    rw [Bool.eq_iff_iff]
    simp [length_eq_zero_of_holds hs]

theorem examine_service {v : Option Bytes} (h : t.Holds TAG_SERVICE_NAME v) :
    (if t.type = 0 then Verdict.errorPADS "WFNEX-PPPoE: Server: No service name tag"
      else if t.length ≠ 0 ∧ offers cfg t = false then
        .errorPADS "WFNEX-PPPoE: Server: Invalid service name tag"
      else .accept) = judgeService cfg v := by
  cases v with
  | none => exact if_pos h
  | some v =>
    have hzero := length_eq_zero_of_holds h
    rw [if_neg (by rw [h.1]; decide), offers_of_holds h]
    dsimp only [judgeService]
    by_cases hs : serves cfg v
    · rw [if_pos hs, if_neg]
      rintro ⟨hne, hno⟩
      simp [serves, mt hzero.mpr hne, hno] at hs
    · have hno : (v == []) = false ∧ (v == cfg.svcName) = false := by simpa [serves] using hs
      rw [if_neg hs, if_pos ⟨mt hzero.mp (ne_of_beq_false hno.1), hno.2⟩]

/-- **A PADR is judged by its request.** -/
theorem examine_eq {source : Bytes} {t : Statics} (h : t.Holds true r) :
    examine cfg source t = judge cfg source r := by
  have hcookie := h.receivedCookie rfl
  have hserv := h.requestedService
  unfold examine judge
  cases hc : r.receivedCookie with
  | none =>
    rw [hc] at hcookie
    rw [if_pos (show t.receivedCookie.type = 0 from hcookie), if_neg nofun]
  | some c =>
    rw [hc] at hcookie
    obtain ⟨htype, hlen, hpay⟩ := hcookie
    have hgen : (genCookie cfg source).length = COOKIE_LEN := by
      simp [genCookie, cfg.length_md5, hostLong, putLong, COOKIE_LEN]
    rw [if_neg (by rw [htype]; decide), hlen]
    by_cases hl : c.length ≠ COOKIE_LEN
    · rw [if_pos hl, if_neg]
      rintro ⟨rfl⟩
      exact hl hgen
    rw [if_neg hl]
    rw [not_not] at hl
    rw [← hl, hpay]
    by_cases heq : c = genCookie cfg source
    · rw [if_neg (not_not.mpr heq), if_pos (congrArg some heq)]
      exact examine_service hserv
    · rw [if_pos heq, if_neg fun h => heq (Option.some.inj h)]

theorem servedTag_holds (h : t.Holds TAG_SERVICE_NAME (some v)) (hs : serves cfg v) :
    (servedTag cfg t).Holds TAG_SERVICE_NAME (some cfg.svcName) := by
  have hzero := length_eq_zero_of_holds h
  have hlt := cfg.svcName_lt
  unfold servedTag
  split
  · refine ⟨h.1, UInt16.toNat_ofNat_of_lt' (by show _ < 65536; omega), ?_⟩
    exact List.take_left
  rename_i hnot
  -- no name is asked for only if we have none
  have hv : v = cfg.svcName := by
    rcases (by simpa [serves] using hs : v = [] ∨ v = cfg.svcName) with rfl | rfl
    · have hlen : cfg.svcName.length = 0 := not_not.mp fun hne => hnot ⟨hzero.mpr rfl, hne⟩
      exact (List.length_eq_zero_iff.mp hlen).symm
    · rfl
  exact hv ▸ h

/-- **An accepted PADR is answered by its request**: there is room for the one tag that is
    checked. -/
theorem padsPayload_eq {t : Statics} (h : t.Holds true r) (hr : r.requestedService = some v)
    (hs : serves cfg v) : padsPayload cfg t = some (padsFor cfg r) := by
  have hserved := bytes_of_holds (servedTag_holds (hr ▸ h.requestedService) hs)
  have hlt := cfg.svcName_lt
  unfold padsPayload padsFor
  dsimp only
  rw [hserved, echoed_of_holds (by decide) h.relayId, echoed_of_holds (by decide) h.hostUniq,
    h.max_ppp_payload]
  cases hm : mtuTag cfg r.max_ppp_payload with
  | none => simp
  | some tag =>
    have htag : tag.length = 6 := by
      unfold mtuTag at hm
      split at hm
      · rw [← Option.some.inj hm]
        rfl
      · cases hm
    have hroom : ¬ (tagBytes TAG_SERVICE_NAME cfg.svcName).length + tag.length >
        MAX_PPPOE_PAYLOAD := by
      rw [show MAX_PPPOE_PAYLOAD = 1502 from rfl, htag]
      simp only [tagBytes, putShort, List.length_append, List.length_cons, List.length_nil]
      omega
    simp only [checkRoom, if_neg hroom, Option.bind_eq_bind, Option.bind_some, Option.getD_some]

theorem judge_eq_accept {source : Bytes} (h : judge cfg source r = .accept) :
    ∃ v, r.requestedService = some v ∧ serves cfg v := by
  unfold judge judgeService at h
  split at h
  · split at h
    · cases h
    rename_i v hv
    split at h
    · exact ⟨v, hv, by assumption⟩
    · cases h
  · cases h

/-! ## 3. The server without the static members -/

def servePADI (env : PppoeEnv) (p : PPPoEPacket) (s : PppoeServer) : PppoeServer :=
  match answerPADI env.toDiscoveryConfig p.source p.request with
  | none => s
  | some frame => s.sendPacket frame

/-- An accepted request: the session is made, the PADS is sent and LCP is opened. -/
def enrol (env : PppoeEnv) (source : Bytes) (r : Request) (s : PppoeServer) : PppoeServer :=
  match s.createSession env source with
  | (none, s) => { s with fault := some .nullSession }
  | (some x, s) =>
    let s := s.sendPacket (discoveryFrame source env.intfMac CODE_PADS x.sessionid
      (padsFor env.toDiscoveryConfig r))
    { s with toCPPPOE := s.setSession (Exec.lcpOpen (Exec.pppInit x)) }

def servePADR (env : PppoeEnv) (p : PPPoEPacket) (s : PppoeServer) : PppoeServer :=
  if p.dest ≠ env.intfMac ∨ notUnicast p.source then s
  else
    match judge env.toDiscoveryConfig p.source p.request with
    | .discard => s
    | .errorPADS errorMsg =>
      s.sendPacket (discoveryFrame p.source env.intfMac CODE_PADS 0 (errorFor errorMsg p.request))
    | .accept => s.enrol env p.source p.request

/-- The discovery stage, with the frame for all it reads. -/
def serve (env : PppoeEnv) (frame : Bytes) (s : PppoeServer) : PppoeServer :=
  let p := overlay frame
  if wellFormed frame = false then s
  else if p.code = CODE_PADI then s.servePADI env p
  else if p.code = CODE_PADR then s.servePADR env p
  else if p.code = CODE_PADT then s.processPADT env p
  else s

variable {env : PppoeEnv} {s : PppoeServer} {p : PPPoEPacket}

theorem processPADI_eq (hlen : p.length.toNat ≤ p.payload.length) :
    ∃ t, s.processPADI env p = { s.servePADI env p with tags := t } := by
  have h := holds_parsePADI hlen s.tags
  unfold processPADI servePADI answerPADI
  split
  · exact ⟨s.tags, rfl⟩
  dsimp only
  rw [unsupported_eq h, padoPayload_eq h]
  cases p.request.requestedService.all (serves env.toDiscoveryConfig) with
  | false => exact ⟨_, rfl⟩
  | true =>
    cases padoFor env.toDiscoveryConfig p.source p.request with
    | none => exact ⟨_, rfl⟩
    | some payload => exact ⟨_, rfl⟩

theorem createSession_tags (t : Statics) (source : Bytes) :
    createSession env source { s with tags := t } =
      ((s.createSession env source).1, { (s.createSession env source).2 with tags := t }) := by
  obtain ⟨pppoe, ids, tags, sent, gone, created, fault⟩ := s
  cases ids with
  | nil => rfl
  | cons id rest =>
    unfold createSession getId
    dsimp only
    by_cases hz : id = 0
    · rw [if_pos hz, if_pos hz]
    rw [if_neg hz, if_neg hz]
    cases pppoe.findSession id with
    | none => rfl
    | some x =>
      unfold freeId
      dsimp only
      split <;> rfl

theorem processPADR_eq (hlen : p.length.toNat ≤ p.payload.length) :
    ∃ t, s.processPADR env p = { s.servePADR env p with tags := t } := by
  have h := holds_parsePADR hlen s.tags
  unfold processPADR servePADR
  by_cases hdest : p.dest = env.intfMac
  · rw [if_neg (not_not.mpr hdest)]
    cases hsource : notUnicast p.source with
    | true =>
      rw [if_pos rfl, if_pos (.inr rfl)]
      exact ⟨_, rfl⟩
    | false =>
      have hboth : ¬(p.dest ≠ env.intfMac ∨ false = true) := by simp [hdest]
      rw [if_neg hboth]
      dsimp only [Statics.cleared] at h
      dsimp only
      rw [examine_eq h]
      cases hj : judge env.toDiscoveryConfig p.source p.request with
      | discard => exact ⟨_, rfl⟩
      | errorPADS errorMsg =>
        unfold errorPADS errorFor
        rw [echoed_of_holds (by decide) h.relayId, echoed_of_holds (by decide) h.hostUniq]
        exact ⟨_, rfl⟩
      | accept =>
        obtain ⟨v, hr, hs⟩ := judge_eq_accept hj
        rw [createSession_tags, padsPayload_eq h hr hs]
        unfold enrol
        obtain ⟨x, t⟩ := s.createSession env p.source
        cases x with
        | none => exact ⟨_, rfl⟩
        | some x => exact ⟨_, rfl⟩
  · rw [if_pos hdest, if_pos (.inl hdest)]
    exact ⟨_, rfl⟩

theorem wellFormed_iff {frame : Bytes} :
    wellFormed frame = true ↔ HDR_SIZE ≤ frame.length ∧ (overlay frame).ver = 1 ∧
      (overlay frame).type = 1 ∧
      (overlay frame).length.toNat + HDR_SIZE ≤ frame.length := by
  simp [wellFormed, and_assoc]

theorem processDiscoveryPacket_malformed {frame : Bytes} (hw : wellFormed frame = false)
    (stale : Bytes) : s.processDiscoveryPacket env frame stale = s := by
  unfold processDiscoveryPacket
  dsimp only
  split
  · rfl
  rename_i hhdr
  rw [overlay_append (Nat.not_lt.mp hhdr)]
  dsimp only
  split
  · rfl
  rename_i hvt
  split
  · rfl
  rename_i hl
  rw [not_or, not_not, not_not] at hvt
  have htrue : wellFormed frame = true :=
    wellFormed_iff.mpr ⟨Nat.not_lt.mp hhdr, hvt.1, hvt.2, Nat.not_lt.mp hl⟩
  rw [hw] at htrue
  cases htrue

/-- **What a frame does depends on the frame**: not on what stands behind it in the buffer, and
    not on the static members. -/
theorem processDiscoveryPacket_eq (env : PppoeEnv) (s : PppoeServer) (frame stale : Bytes) :
    ∃ t, s.processDiscoveryPacket env frame stale = { s.serve env frame with tags := t } := by
  unfold serve
  dsimp only
  cases hw : wellFormed frame with
  | false => exact ⟨s.tags, processDiscoveryPacket_malformed hw stale⟩
  | true =>
    obtain ⟨hhdr, hver, htype, hl⟩ := wellFormed_iff.mp hw
    have hq := overlay_append hhdr stale
    have hreq := request_overlay hl stale
    unfold processDiscoveryPacket
    dsimp only
    generalize overlay (frame ++ stale) = q at hq hreq ⊢
    have hpay : q.length.toNat ≤ q.payload.length := by
      rw [hq, List.length_append, List.length_drop]
      dsimp only
      omega
    have hPADI : s.servePADI env q = s.servePADI env (overlay frame) := by
      unfold servePADI
      rw [hreq, hq]
    have hPADR : s.servePADR env q = s.servePADR env (overlay frame) := by
      unfold servePADR
      rw [hreq, hq]
    have hPADT : s.processPADT env q = s.processPADT env (overlay frame) := by
      rw [hq]
      rfl
    have hcode : q.code = (overlay frame).code := by rw [hq]
    rw [if_neg (Nat.not_lt.mpr hhdr), if_neg (by rw [hq]; simp [hver, htype]),
      if_neg (by rw [hq]; exact Nat.not_lt.mpr hl), if_neg (show ¬(true = false) by decide),
      ← hPADI, ← hPADR, ← hPADT, ← hcode]
    split
    · exact processPADI_eq hpay
    split
    · exact processPADR_eq hpay
    split
    · exact ⟨_, rfl⟩
    · exact ⟨_, rfl⟩

/-! ## 4. Runs -/

theorem sent_servePADI : (s.servePADI env p).sent =
    (answerPADI env.toDiscoveryConfig p.source p.request).toList ++ s.sent := by
  unfold servePADI
  cases answerPADI env.toDiscoveryConfig p.source p.request with
  | none => rfl
  | some frame => rfl

theorem allocated_of_eq {t : PppoeServer} (h : t.psessionid = s.psessionid) :
    allocated s t = none := if_pos h

theorem allocated_of_cons {t : PppoeServer} {id : UInt16} (h : s.psessionid = id :: t.psessionid) :
    allocated s t = some id := by
  unfold allocated
  rw [if_neg (by rw [h]; exact (List.cons_ne_self id _).symm), h]
  rfl

theorem enrol_some (env : PppoeEnv) {id : UInt16} (h : s.nextId = some id) (source : Bytes)
    (r : Request) :
    Admits s (s.enrol env source r) id
      (Exec.lcpOpen (Exec.pppInit (s.newSession env id source))) ∧
    s.enrol env source r = { s.sendPacket
        (discoveryFrame source env.intfMac CODE_PADS id (padsFor env.toDiscoveryConfig r)) with
      toCPPPOE := (s.enrol env source r).toCPPPOE, psessionid := s.psessionid.tail,
      created := s.created + 1 } := by
  obtain ⟨hids, hnew⟩ := createSession_some env h source
  unfold enrol
  rw [hnew]
  exact ⟨⟨hids, update_opened env id source, rfl⟩, rfl⟩

theorem enrol_nil (hids : s.psessionid = []) (source : Bytes) (r : Request) :
    s.enrol env source r = { s with fault := some .nullSession } := by
  unfold enrol
  rw [createSession_nil hids]

theorem sent_servePADR (h : IdsConserved s) : (s.servePADR env p).sent =
    (answerPADR env.toDiscoveryConfig p.dest p.source p.request
      (allocated s (s.servePADR env p))).toList ++ s.sent := by
  unfold servePADR answerPADR
  split
  · rfl
  cases judge env.toDiscoveryConfig p.source p.request with
  | discard => rfl
  | errorPADS errorMsg => rfl
  | accept =>
    dsimp only
    by_cases hnil : s.psessionid = []
    · have hnone : allocated s { s with fault := some .nullSession } = none := allocated_of_eq rfl
      rw [enrol_nil hnil, hnone]
      rfl
    · obtain ⟨id, rest, hcons⟩ := List.exists_cons_of_ne_nil hnil
      have hnext := h.nextId_eq.trans (congrArg List.head? hcons)
      obtain ⟨hadmits, henrol⟩ := enrol_some env hnext p.source p.request
      rw [allocated_of_cons hadmits.ids, henrol]
      rfl

theorem sent_deliver (id : UInt16) (e : Exec.SessEvent) : (s.deliver id e).sent = s.sent :=
  deliver_cases (P := fun t => t.sent = s.sent) id e (fun _ => rfl) (fun _ _ _ _ => rfl)
    fun x _ _ _ => by
    unfold removeSession freeId
    split <;> rfl

theorem sent_processPADT : (s.processPADT env p).sent = s.sent := by
  unfold processPADT
  split
  · rfl
  · exact sent_deliver _ _

theorem sent_serve (env : PppoeEnv) (h : IdsConserved s) (frame : Bytes) :
    (s.serve env frame).sent =
    (replyTo env.toDiscoveryConfig frame (allocated s (s.serve env frame))).toList ++ s.sent := by
  unfold serve replyTo
  dsimp only
  split
  · rfl
  split
  · exact sent_servePADI
  split
  · exact sent_servePADR h
  split
  · exact sent_processPADT
  · rfl

/-- **The reply to a frame is a function of the frame, the configuration of the discovery stage
    and the id taken for the new session**, in every history, and whatever stands behind the frame
    in the buffer. -/
theorem reply_of_frame (env : PppoeEnv) (es : List Event) (frame stale : Bytes) :
    let s := run (step env) initial es
    let t := s.processDiscoveryPacket env frame stale
    t.sent = (replyTo env.toDiscoveryConfig frame (allocated s t)).toList ++ s.sent := by
  intro s t
  have hbooks : IdsConserved s :=
    run_keeps (I := IdsConserved) (fun _ e h => conserved_step h e) conserved_initial es
  obtain ⟨tags, ht⟩ := processDiscoveryPacket_eq env s frame stale
  have hsent := sent_serve env hbooks frame
  rw [show t = _ from ht]
  exact hsent

end PppoeServer

end OpenBras
