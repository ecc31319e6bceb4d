/-
  File:      OpenBras/PPPOE/ReplySize.lean
  Subject:   WHAT A DISCOVERY REPLY IS MADE OF, and whether it fits into the packet it is built in.

  A PADO, PADS or error PADS is a list of tags, the last of which are the Relay-Session-Id and the
  Host-Uniq of the request (`ReplyFits`). A PADO is built with a look at the room before every tag
  and always fits. The other two copy what they echo without one: `parsePacket` lets a request
  have 1502 bytes of tags, and the service name or the error text comes on top of those that are
  echoed. **`replies_fit_iff`** has the condition.
-/
import OpenBras.PPPOE.Admission

namespace OpenBras

open Wire
open PPPoEPacket (overlay)

namespace PppoeServer

variable {cfg : DiscoveryConfig} {env : PppoeEnv} {s : PppoeServer} {p : PPPoEPacket}

/-! ## 1. Lists of tags -/

def payloadOf (tags : List (UInt16 × Bytes)) : Bytes :=
  (tags.map fun t => tagBytes t.1 t.2).flatten

/-- The sum of the tags. -/
def lengthOf (tags : List (UInt16 × Bytes)) : Nat :=
  (tags.map fun t => TAG_HDR_SIZE + t.2.length).sum

/-- The values of a type. -/
def valuesOf (type : UInt16) (tags : List (UInt16 × Bytes)) : List Bytes :=
  (tags.filter (·.1 == type)).map (·.2)

@[simp] theorem payloadOf_nil : payloadOf [] = [] := rfl

@[simp] theorem payloadOf_cons (t : UInt16 × Bytes) (tags : List (UInt16 × Bytes)) :
    payloadOf (t :: tags) = tagBytes t.1 t.2 ++ payloadOf tags := rfl

@[simp] theorem payloadOf_append (a b : List (UInt16 × Bytes)) :
    payloadOf (a ++ b) = payloadOf a ++ payloadOf b := by
  simp [payloadOf]

theorem length_payloadOf (tags : List (UInt16 × Bytes)) :
    (payloadOf tags).length = lengthOf tags := by
  induction tags with
  | nil => rfl
  | cons t tags ih =>
    rw [payloadOf_cons, List.length_append, length_tagBytes, ih]
    rfl

theorem valuesOf_append (type : UInt16) (a b : List (UInt16 × Bytes)) :
    valuesOf type (a ++ b) = valuesOf type a ++ valuesOf type b := by
  simp [valuesOf]

/-! ## 2. The last tag of a type -/

variable (r : Request) {payload : Bytes}

theorem hostUniq_note (tag : UInt16 × Bytes) :
    (r.note tag).hostUniq = if tag.1 = TAG_HOST_UNIQ then some tag.2 else r.hostUniq := by
  unfold Request.note
  by_cases htype : tag.1 = TAG_HOST_UNIQ
  · rw [htype]
    rfl
  · rw [if_neg htype, if_neg htype]
    split_ifs <;> rfl

theorem relayId_note (tag : UInt16 × Bytes) :
    (r.note tag).relayId = if tag.1 = TAG_RELAY_SESSION_ID then some tag.2 else r.relayId := by
  unfold Request.note
  by_cases htype : tag.1 = TAG_RELAY_SESSION_ID
  · rw [htype]
    rfl
  · rw [if_neg htype, if_neg htype]
    split_ifs <;> rfl

theorem last_of_foldl {get : Request → Option Bytes} {type : UInt16}
    (hset : ∀ r tag, get (r.note tag) = if tag.1 = type then some tag.2 else get r)
    (tags : List (UInt16 × Bytes)) (r : Request) :
    get (tags.foldl Request.note r) = ((valuesOf type tags).getLast?).or (get r) := by
  induction tags generalizing r with
  | nil => rfl
  | cons tag tags ih =>
    rw [List.foldl_cons, ih, hset]
    unfold valuesOf
    by_cases htype : tag.1 = type
    · rw [if_pos htype, List.filter_cons_of_pos (by simpa using htype), List.map_cons,
        List.getLast?_cons]
      cases (List.map (·.2) (List.filter (·.1 == type) tags)).getLast? <;> rfl
    · rw [if_neg htype, List.filter_cons_of_neg (by simpa using htype)]

/-- **The request has the last Host-Uniq and Relay-Session-Id tags of the frame.** -/
theorem request_last (p : PPPoEPacket) :
    p.request.hostUniq = (valuesOf TAG_HOST_UNIQ p.tagList).getLast? ∧
      p.request.relayId = (valuesOf TAG_RELAY_SESSION_ID p.tagList).getLast? := by
  have hh := last_of_foldl hostUniq_note p.tagList {}
  have hr := last_of_foldl relayId_note p.tagList {}
  rw [Option.or_none] at hh hr
  exact ⟨hh, hr⟩

/-! ## 3. The tags of a reply -/

/-- The Relay-Session-Id and the Host-Uniq of a request. -/
def echoTags (r : Request) : List (UInt16 × Bytes) :=
  r.relayId.toList.map (TAG_RELAY_SESSION_ID, ·) ++ r.hostUniq.toList.map (TAG_HOST_UNIQ, ·)

def mtuTags (cfg : DiscoveryConfig) (m : UInt16) : List (UInt16 × Bytes) :=
  if wantsMtu cfg m && answeredMtu cfg m > ETH_PPPOE_MTU then
    [(TAG_PPP_MAX_PAYLOAD, putShort (answeredMtu cfg m))]
  else []

theorem payloadOf_echoTags :
    payloadOf (echoTags r) = echo TAG_RELAY_SESSION_ID r.relayId ++ echo TAG_HOST_UNIQ r.hostUniq := by
  unfold echoTags
  rw [payloadOf_append]
  congr 1
  · cases r.relayId <;> simp [echo]
  · cases r.hostUniq <;> simp [echo]

theorem payloadOf_mtuTags (m : UInt16) :
    payloadOf (mtuTags cfg m) = (mtuTag cfg m).getD [] := by
  unfold mtuTags mtuTag
  split
  · exact List.append_nil _
  · rfl

/-- `f` is a reply to `p`: its tags fit into the payload array, the length field is their sum, and
    its Host-Uniq and Relay-Session-Id are the last ones of `p`, or there are none. -/
def ReplyFits (cfg : DiscoveryConfig) (p : PPPoEPacket) (f : Bytes) : Prop :=
  ∃ (code : UInt8) (session length : UInt16) (tags : List (UInt16 × Bytes)),
    f = p.source ++ cfg.intfMac ++ putShort ETH_PPPOE_DISCOVERY ++ [0x11, code] ++
      putShort session ++ putShort length ++ payloadOf tags ∧
    (payloadOf tags).length ≤ ETH_JUMBO_LEN ∧ length.toNat = lengthOf tags ∧
    valuesOf TAG_HOST_UNIQ tags = (valuesOf TAG_HOST_UNIQ p.tagList).getLast?.toList ∧
    valuesOf TAG_RELAY_SESSION_ID tags = (valuesOf TAG_RELAY_SESSION_ID p.tagList).getLast?.toList

/-- Tags that are not echoed. -/
def Own (tags : List (UInt16 × Bytes)) : Prop :=
  valuesOf TAG_HOST_UNIQ tags = [] ∧ valuesOf TAG_RELAY_SESSION_ID tags = []

theorem own_mtuTags (m : UInt16) : Own (mtuTags cfg m) := by
  unfold mtuTags
  split <;> exact ⟨rfl, rfl⟩

theorem Own.cons {type : UInt16} {v : Bytes} {tags : List (UInt16 × Bytes)} (h : Own tags)
    (hh : type ≠ TAG_HOST_UNIQ) (hr : type ≠ TAG_RELAY_SESSION_ID) : Own ((type, v) :: tags) := by
  refine ⟨?_, ?_⟩
  · unfold valuesOf
    rw [List.filter_cons_of_neg (by simpa using hh)]
    exact h.1
  · unfold valuesOf
    rw [List.filter_cons_of_neg (by simpa using hr)]
    exact h.2

theorem Own.append {a b : List (UInt16 × Bytes)} (ha : Own a) (hb : Own b) : Own (a ++ b) := by
  refine ⟨?_, ?_⟩
  · rw [valuesOf_append, ha.1, hb.1]
    rfl
  · rw [valuesOf_append, ha.2, hb.2]
    rfl

theorem valuesOf_echoTags :
    valuesOf TAG_HOST_UNIQ (echoTags r) = r.hostUniq.toList ∧
      valuesOf TAG_RELAY_SESSION_ID (echoTags r) = r.relayId.toList := by
  unfold echoTags
  rw [valuesOf_append, valuesOf_append]
  cases r.relayId <;> cases r.hostUniq <;> exact ⟨rfl, rfl⟩

/-- **A reply of our own tags and the echoed ones is right exactly if it fits.** -/
theorem replyFits_iff {own : List (UInt16 × Bytes)} (hown : Own own) (code : UInt8)
    (session : UInt16) :
    ReplyFits cfg p (discoveryFrame p.source cfg.intfMac code session
      (payloadOf (own ++ echoTags p.request))) ↔
      (payloadOf (own ++ echoTags p.request)).length ≤ ETH_JUMBO_LEN := by
  constructor
  · rintro ⟨code', session', length, tags, heq, hle, -, -, -⟩
    -- the headers have the same length, so the payloads are the same
    have hpayload : payloadOf (own ++ echoTags p.request) = payloadOf tags :=
      List.append_inj_right heq (by simp [putShort])
    rw [hpayload]
    exact hle
  · intro hle
    refine ⟨code, session, _, own ++ echoTags p.request, rfl, hle, ?_, ?_, ?_⟩
    · rw [← length_payloadOf]
      exact UInt16.toNat_ofNat_of_lt' (Nat.lt_of_le_of_lt hle (by decide))
    · rw [valuesOf_append, hown.1, (valuesOf_echoTags _).1, (request_last p).1]
      rfl
    · rw [valuesOf_append, hown.2, (valuesOf_echoTags _).2, (request_last p).2]
      rfl

/-! ## 4. The three replies -/

theorem checkRoom_eq_some {piece c : Bytes} (h : checkRoom piece payload = some c) :
    c = payload ++ piece ∧ c.length ≤ MAX_PPPOE_PAYLOAD := by
  unfold checkRoom at h
  split at h
  · cases h
  rename_i hroom
  cases h
  rw [List.length_append]
  exact ⟨rfl, Nat.not_lt.mp hroom⟩

theorem checkRoomFor_eq_some {piece : Option Bytes} {c : Bytes}
    (hroom : payload.length ≤ MAX_PPPOE_PAYLOAD) (h : checkRoomFor piece payload = some c) :
    c = payload ++ piece.getD [] ∧ c.length ≤ MAX_PPPOE_PAYLOAD := by
  cases piece with
  | none =>
    cases h
    exact ⟨(List.append_nil _).symm, hroom⟩
  | some piece => exact checkRoom_eq_some h

/-- The tags of a PADO but for the echoed ones. -/
def padoTags (cfg : DiscoveryConfig) (source : Bytes) (r : Request) : List (UInt16 × Bytes) :=
  (TAG_AC_NAME, cfg.acName) :: (mtuTags cfg r.max_ppp_payload ++
    [(TAG_SERVICE_NAME, cfg.svcName), (TAG_AC_COOKIE, genCookie cfg source)])

theorem own_padoTags (source : Bytes) (r : Request) : Own (padoTags cfg source r) :=
  .cons (.append (own_mtuTags _) ⟨rfl, rfl⟩) (by decide) (by decide)

/-- **A PADO fits.** -/
theorem padoFor_eq_some {source : Bytes} {r : Request} (h : padoFor cfg source r = some payload) :
    payload = payloadOf (padoTags cfg source r ++ echoTags r) ∧
      payload.length ≤ MAX_PPPOE_PAYLOAD := by
  unfold padoFor at h
  simp only [Option.bind_eq_bind, Option.bind_eq_some_iff] at h
  obtain ⟨c1, h1, c2, h2, c3, h3, c4, h4, c5, h5, h6⟩ := h
  obtain ⟨rfl, l1⟩ := checkRoom_eq_some h1
  obtain ⟨rfl, l2⟩ := checkRoomFor_eq_some l1 h2
  obtain ⟨rfl, l3⟩ := checkRoom_eq_some h3
  obtain ⟨rfl, l4⟩ := checkRoom_eq_some h4
  obtain ⟨rfl, l5⟩ := checkRoomFor_eq_some l4 h5
  obtain ⟨rfl, l6⟩ := checkRoomFor_eq_some l5 h6
  refine ⟨?_, l6⟩
  rw [payloadOf_append, payloadOf_echoTags]
  unfold padoTags echo
  rw [payloadOf_cons, payloadOf_append, payloadOf_mtuTags]
  simp only [payloadOf_cons, payloadOf_nil, List.append_assoc, List.nil_append, List.append_nil]

theorem padsFor_eq :
    padsFor cfg r = payloadOf ((TAG_SERVICE_NAME, cfg.svcName) :: mtuTags cfg r.max_ppp_payload ++
      echoTags r) := by
  unfold padsFor
  rw [payloadOf_append, payloadOf_cons, payloadOf_echoTags, payloadOf_mtuTags]
  simp only [List.append_assoc]

theorem errorFor_eq (errorMsg : String) (r : Request) :
    errorFor errorMsg r = payloadOf ([(TAG_SERVICE_NAME_ERROR, ascii errorMsg)] ++ echoTags r) := by
  unfold errorFor
  rw [payloadOf_append, payloadOf_cons, payloadOf_echoTags]
  simp only [payloadOf_nil, List.append_assoc, List.append_nil]

theorem pado_fits (h : padoFor cfg p.source p.request = some payload) :
    ReplyFits cfg p (discoveryFrame p.source cfg.intfMac CODE_PADO 0 payload) := by
  obtain ⟨rfl, hle⟩ := padoFor_eq_some h
  exact (replyFits_iff (own_padoTags _ _) CODE_PADO 0).mpr (hle.trans (by decide))

theorem pads_fits_iff (id : UInt16) :
    ReplyFits cfg p (discoveryFrame p.source cfg.intfMac CODE_PADS id (padsFor cfg p.request)) ↔
      TAG_HDR_SIZE + cfg.svcName.length + mtuLength cfg p.request.max_ppp_payload +
        echoLength p.request ≤ ETH_JUMBO_LEN := by
  have hown : Own ((TAG_SERVICE_NAME, cfg.svcName) :: mtuTags cfg p.request.max_ppp_payload) :=
    .cons (own_mtuTags _) (by decide) (by decide)
  rw [← length_padsFor, padsFor_eq]
  exact replyFits_iff hown CODE_PADS id

theorem error_fits_iff (errorMsg : String) :
    ReplyFits cfg p (discoveryFrame p.source cfg.intfMac CODE_PADS 0
      (errorFor errorMsg p.request)) ↔
      TAG_HDR_SIZE + (ascii errorMsg).length + echoLength p.request ≤ ETH_JUMBO_LEN := by
  have hown : Own [(TAG_SERVICE_NAME_ERROR, ascii errorMsg)] := ⟨rfl, rfl⟩
  rw [← length_errorFor, errorFor_eq]
  exact replyFits_iff hown CODE_PADS 0

/-! ## 5. Runs -/

/-- What has been sent between `s` and `t`. -/
def RepliesAre (P : Bytes → Prop) (s t : PppoeServer) : Prop :=
  ∀ replies, t.sent = replies ++ s.sent → ∀ f ∈ replies, P f

variable {P : Bytes → Prop} {t : PppoeServer}

theorem repliesAre_none (h : t.sent = s.sent) : RepliesAre P s t := by
  intro replies hsent f hf
  rw [h] at hsent
  rw [List.self_eq_append_left.mp hsent] at hf
  exact absurd hf List.not_mem_nil

theorem repliesAre_one {f : Bytes} (h : t.sent = f :: s.sent) : RepliesAre P s t ↔ P f := by
  refine ⟨fun hall => hall [f] h f List.mem_cons_self, fun hf replies hsent g hg => ?_⟩
  have hone : replies = [f] := List.append_cancel_right (hsent.symm.trans h)
  rw [hone, List.mem_singleton] at hg
  exact hg ▸ hf

/-- The echoed tags fit behind what the reply to a PADR has of its own. -/
def roomForEcho (cfg : DiscoveryConfig) (r : Request) (free : Bool) : Verdict → Bool
  | .discard => true
  | .errorPADS errorMsg =>
    TAG_HDR_SIZE + (ascii errorMsg).length + echoLength r ≤ ETH_JUMBO_LEN
  | .accept =>
    !free || TAG_HDR_SIZE + cfg.svcName.length + mtuLength cfg r.max_ppp_payload + echoLength r ≤
      ETH_JUMBO_LEN

/-- A PADR that is ours to answer leaves room for what is echoed. -/
def RoomForEcho (env : PppoeEnv) (frame : Bytes) (s : PppoeServer) : Prop :=
  let p := overlay frame
  wellFormed frame = true → p.code = CODE_PADR → p.dest = env.intfMac →
    notUnicast p.source = false →
    roomForEcho env.toDiscoveryConfig p.request (!s.psessionid.isEmpty)
      (judge env.toDiscoveryConfig p.source p.request) = true

theorem servePADI_fits : RepliesAre (ReplyFits env.toDiscoveryConfig p) s (s.servePADI env p) := by
  unfold servePADI answerPADI
  split
  · exact repliesAre_none rfl
  rename_i frame hanswer
  refine (repliesAre_one rfl).mpr ?_
  split_ifs at hanswer
  obtain ⟨payload, hpado, rfl⟩ := Option.map_eq_some_iff.mp hanswer
  exact pado_fits hpado

theorem servePADR_fits_iff (h : IdsConserved s) :
    RepliesAre (ReplyFits env.toDiscoveryConfig p) s (s.servePADR env p) ↔
      (p.dest = env.intfMac → notUnicast p.source = false →
        roomForEcho env.toDiscoveryConfig p.request (!s.psessionid.isEmpty)
          (judge env.toDiscoveryConfig p.source p.request) = true) := by
  unfold servePADR
  by_cases hmac : p.dest = env.intfMac
  · cases huni : notUnicast p.source with
    | true =>
      rw [if_pos (.inr rfl)]
      exact ⟨fun _ _ hno => (by cases hno), fun _ => repliesAre_none rfl⟩
    | false =>
      rw [if_neg (by simp [hmac])]
      refine Iff.trans ?_ ⟨fun hr _ _ => hr, fun hr => hr hmac rfl⟩
      cases judge env.toDiscoveryConfig p.source p.request with
      | discard => exact ⟨fun _ => rfl, fun _ => repliesAre_none rfl⟩
      | errorPADS errorMsg =>
        refine (repliesAre_one rfl).trans ((error_fits_iff errorMsg).trans ?_)
        exact decide_eq_true_iff.symm
      | accept =>
        dsimp only
        by_cases hnil : s.psessionid = []
        · rw [enrol_nil hnil, hnil]
          exact ⟨fun _ => rfl, fun _ => repliesAre_none rfl⟩
        obtain ⟨id, rest, hcons⟩ := List.exists_cons_of_ne_nil hnil
        have hnext := h.nextId_eq.trans (congrArg List.head? hcons)
        have hsent := congrArg PppoeServer.sent (enrol_some env hnext p.source p.request).2
        refine (repliesAre_one hsent).trans ((pads_fits_iff id).trans ?_)
        rw [hcons]
        exact decide_eq_true_iff.symm
  · rw [if_pos (.inl hmac)]
    exact ⟨fun _ hno => absurd hno hmac, fun _ => repliesAre_none rfl⟩

/-- **Every PADO, PADS and error PADS fits into its packet, has the length of its tags and echoes
    the last Host-Uniq and Relay-Session-Id of the request, exactly if a PADR that is answered
    leaves room for what is echoed.** -/
theorem replies_fit_iff (env : PppoeEnv) (es : List Event) (frame stale : Bytes) :
    let s := run (step env) initial es
    RepliesAre (ReplyFits env.toDiscoveryConfig (overlay frame)) s
      (s.processDiscoveryPacket env frame stale) ↔ RoomForEcho env frame s := by
  intro s
  have hbooks : IdsConserved s :=
    run_keeps (I := IdsConserved) (fun _ e h => conserved_step h e) conserved_initial es
  obtain ⟨tags, ht⟩ := processDiscoveryPacket_eq env s frame stale
  have htags : RepliesAre (ReplyFits env.toDiscoveryConfig (overlay frame)) s
      (s.processDiscoveryPacket env frame stale) ↔
      RepliesAre (ReplyFits env.toDiscoveryConfig (overlay frame)) s
        (s.serve env frame) := by
    rw [ht]
    exact Iff.rfl
  rw [htags]
  unfold serve RoomForEcho
  dsimp only
  split
  · rename_i hw
    exact ⟨fun _ hno => absurd (hw.symm.trans hno) Bool.false_ne_true, fun _ => repliesAre_none rfl⟩
  rename_i hw
  rw [Bool.not_eq_false] at hw
  split
  · rename_i hcode
    rw [hcode]
    exact ⟨fun _ _ hno => absurd hno (by decide), fun _ => servePADI_fits⟩
  split
  · rename_i hcode
    exact (servePADR_fits_iff hbooks).trans ⟨fun hr _ _ => hr, fun hr => hr hw hcode⟩
  rename_i hcode
  have hsent : (if (overlay frame).code = CODE_PADT then
      s.processPADT env (overlay frame) else s).sent = s.sent := by
    split
    · exact sent_processPADT
    · rfl
  exact ⟨fun _ _ hno => absurd hno hcode, fun _ => repliesAre_none hsent⟩

theorem ReplyFits.length_le {f : Bytes} (h : ReplyFits cfg p f) :
    f.length ≤ p.source.length + cfg.intfMac.length + 8 + ETH_JUMBO_LEN := by
  obtain ⟨code, session, length, tags, rfl, hle, -⟩ := h
  simp only [List.length_append, putShort, List.length_cons, List.length_nil]
  omega

/-- A PADR with the right cookie, a Host-Uniq of 1474 bytes and no service name. -/
def longPadr : Bytes :=
  discoveryFrame plain.intfMac [2, 0, 0, 0, 0, 9] CODE_PADR 0
    (tagBytes TAG_AC_COOKIE (genCookie plain.toDiscoveryConfig [2, 0, 0, 0, 0, 9]) ++
      tagBytes TAG_HOST_UNIQ (List.replicate 1474 0))

/-- Its error PADS has 1522 bytes of tags, in an array of 1508. -/
theorem long_host_uniq_overruns :
    ¬ RepliesAre (ReplyFits plain.toDiscoveryConfig (overlay longPadr)) initial
      (initial.processDiscoveryPacket plain longPadr []) ∧
    (initial.processDiscoveryPacket plain longPadr []).sent.map List.length = [HDR_SIZE + 1522] ∧
    (initial.processDiscoveryPacket plain longPadr []).fault = some .overrun := by
  have hlong : (initial.processDiscoveryPacket plain longPadr []).sent.map List.length =
      [HDR_SIZE + 1522] := by decide +kernel
  refine ⟨fun hall => ?_, hlong, by decide +kernel⟩
  have hfits := hall _ (List.append_nil _).symm
  obtain ⟨f, hf, hlen⟩ : ∃ f ∈ (initial.processDiscoveryPacket plain longPadr []).sent,
      f.length = HDR_SIZE + 1522 := by
    rw [← List.mem_map, hlong]
    exact List.mem_cons_self
  have hle := (hfits f hf).length_le
  rw [hlen] at hle
  exact absurd hle (by decide +kernel)

end PppoeServer

end OpenBras
