/-
  File:      OpenBras/PPPOE/Cookie.lean
  Subject:   THE AC-COOKIES THE SERVER HANDS OUT, in a PADO and in a PADT, and what `processPADR`
             makes of them when they come back.

  A cookie is bound to a client if every PADR of the client that carries it passes the check, and
  none of another station does. `processPADI` makes the cookie from the address of the client.
  `sendPADT` has filled in the header of its frame before and makes it from `h_source`, which is
  our own address by then: the check of a PADR takes the sender's address, so the cookie of a PADT
  is bound to ourselves (`cookie_bound_iff`).

  MD5 is a parameter. It tells two peers apart (`TellsApart`); that it is injective on all strings
  is not asked, no digest of 16 bytes is.
-/
import Mathlib.Algebra.Order.BigOperators.Group.List
import OpenBras.PPPOE.TagWalk

namespace OpenBras

open Wire
open PPPoEPacket (overlay tagList)

/-! ## 1. Tags that are read back -/

theorem Walk.tagsFrom {payload : Bytes} {len pos : Nat} {calls : List TagCall} {r : Int}
    (h : Walk payload len pos calls r) {n : Nat} (hn : len - pos < n) :
    tagsFrom payload len n pos = calls.map TagCall.tag := by
  induction h generalizing n with
  | leave hpos =>
    obtain ⟨n, rfl⟩ := Nat.exists_eq_add_one_of_ne_zero (by omega : n ≠ 0)
    exact if_neg fun hc => hpos hc.1
  | endOfList hpos htype =>
    obtain ⟨n, rfl⟩ := Nat.exists_eq_add_one_of_ne_zero (by omega : n ≠ 0)
    exact if_neg fun hc => hc.2.1 htype
  | misfit hpos htype hfit =>
    obtain ⟨n, rfl⟩ := Nat.exists_eq_add_one_of_ne_zero (by omega : n ≠ 0)
    exact if_neg fun hc => absurd hc.2.2 (Nat.not_le.mpr hfit)
  | tag hpos htype hfit rest ih =>
    obtain ⟨n, rfl⟩ := Nat.exists_eq_add_one_of_ne_zero (by omega : n ≠ 0)
    have hdr : TAG_HDR_SIZE = 4 := rfl
    refine (if_pos ⟨hpos, htype, Nat.not_lt.mp hfit⟩).trans ?_
    rw [ih (by omega)]
    rfl

namespace PppoeServer

variable {cfg : DiscoveryConfig} {env : PppoeEnv} {s : PppoeServer} {client : Bytes}

/-- **What has been written into a payload is read from it.** -/
theorem tagsFrom_payloadOf (tags : List (UInt16 × Bytes))
    (htypes : ∀ t ∈ tags, t.1 ≠ TAG_END_OF_LIST) (hlen : lengthOf tags < 2 ^ 16) :
    tagsFrom (payloadOf tags) (lengthOf tags) (lengthOf tags + 1) 0 = tags := by
  obtain ⟨calls, r, hw⟩ := Walk.total (payloadOf tags) (lengthOf tags) 0
  rw [hw.tagsFrom (by omega)]
  have hlongest := hw.longestTags (length_payloadOf tags).ge
  rw [List.take_of_length_le (length_payloadOf tags).le] at hlongest
  have hcomplete : CompleteTags (payloadOf tags) tags := by
    refine ⟨List.prefix_rfl, htypes, fun t ht => ?_⟩
    have hle : TAG_HDR_SIZE + t.2.length ≤ lengthOf tags :=
      List.single_le_sum (fun _ _ => Nat.zero_le _) _ (List.mem_map_of_mem ht)
    omega
  -- tags behind the written ones would have bytes of their own
  obtain ⟨more, hmore⟩ := hlongest.longest tags hcomplete
  have hprefix := hlongest.complete.starts.length_le
  rw [← hmore, payloadOf_append, List.length_append, length_payloadOf more] at hprefix
  cases more with
  | nil => rw [← hmore, List.append_nil]
  | cons t more =>
    have hpos : 0 < lengthOf (t :: more) := by
      show 0 < TAG_HDR_SIZE + t.2.length + _
      rw [show TAG_HDR_SIZE = 4 from rfl]
      omega
    omega

theorem overlay_discoveryFrame {dest source : Bytes} (hd : dest.length = ETH_ALEN)
    (hs : source.length = ETH_ALEN) (code : UInt8) (session : UInt16) (payload : Bytes) :
    overlay (discoveryFrame dest source code session payload) =
      { dest, source, ver := 1, type := 1, code, session, length := payload.length.toUInt16,
        payload } := by
  match dest, source, hd, hs with
  | [a, b, c, d, e, f], [g, h, i, j, k, l], _, _ =>
    have hsession := getShort_putShort session (putShort payload.length.toUInt16 ++ payload)
    have hlength := getShort_putShort payload.length.toUInt16 payload
    generalize hframe :
      discoveryFrame [a, b, c, d, e, f] [g, h, i, j, k, l] code session payload = frame
    have h14 : byteAt frame 14 = 0x11 := by rw [← hframe]; rfl
    have h16 : getShort frame 16 = session := by rw [← hframe]; exact hsession
    have h18 : getShort frame 18 = payload.length.toUInt16 := by rw [← hframe]; exact hlength
    unfold overlay
    rw [h14, h16, h18, ← hframe]
    rfl

theorem tagList_discoveryFrame {dest source : Bytes} (hd : dest.length = ETH_ALEN)
    (hs : source.length = ETH_ALEN) (code : UInt8) (session : UInt16)
    {tags : List (UInt16 × Bytes)} (htypes : ∀ t ∈ tags, t.1 ≠ TAG_END_OF_LIST)
    (hlen : (payloadOf tags).length ≤ MAX_PPPOE_PAYLOAD) :
    (overlay (discoveryFrame dest source code session (payloadOf tags))).tagList =
      tags := by
  rw [length_payloadOf, show MAX_PPPOE_PAYLOAD = 1502 from rfl] at hlen
  have hfield : (payloadOf tags).length.toUInt16.toNat = lengthOf tags := by
    rw [length_payloadOf]
    exact UInt16.toNat_ofNat_of_lt' (by show lengthOf tags < 2 ^ 16; omega)
  rw [overlay_discoveryFrame hd hs]
  unfold tagList
  dsimp only
  rw [hfield, if_neg, tagsFrom_payloadOf tags htypes (by omega)]
  rintro (hver | htype | hbig)
  · exact hver rfl
  · exact htype rfl
  · exact absurd hbig (Nat.not_lt.mpr hlen)

/-! ## 2. The check of a PADR -/

/-- What `processPADR` makes of a PADR that is for us and from a unicast address. -/
def verdictOn (cfg : DiscoveryConfig) (p : PPPoEPacket) (t : Statics) : Verdict :=
  examine cfg p.source (parsePacket parsePADRTags p
    { t.cleared with receivedCookie := { t.receivedCookie with type := 0 } }).2

/-- The PADR carries the cookie. (The last one counts.) -/
def Returns (p : PPPoEPacket) (cookie : Bytes) : Prop :=
  (valuesOf TAG_AC_COOKIE p.tagList).getLast? = some cookie

/-- The cookie is good for the client and for nobody else. -/
structure Bound (cfg : DiscoveryConfig) (client cookie : Bytes) : Prop where
  accepted : ∀ (p : PPPoEPacket) (t : Statics), p.length.toNat ≤ p.payload.length →
    p.source = client → Returns p cookie → verdictOn cfg p t ≠ .discard
  refused : ∀ (p : PPPoEPacket) (t : Statics), p.length.toNat ≤ p.payload.length →
    p.source.length = ETH_ALEN → p.source ≠ client → Returns p cookie →
    verdictOn cfg p t = .discard

/-- The digest of two peers' addresses, with ours and the seed, is not the same. -/
def TellsApart (cfg : DiscoveryConfig) : Prop :=
  ∀ a b : Bytes, a.length = ETH_ALEN → b.length = ETH_ALEN →
    cfg.md5 (a ++ cfg.intfMac ++ cfg.cookieSeed) = cfg.md5 (b ++ cfg.intfMac ++ cfg.cookieSeed) →
    a = b

theorem genCookie_inj (h : TellsApart cfg) {a b : Bytes} (ha : a.length = ETH_ALEN)
    (hb : b.length = ETH_ALEN) (heq : genCookie cfg a = genCookie cfg b) : a = b :=
  h a b ha hb (List.append_inj_left heq (by rw [cfg.length_md5, cfg.length_md5]))

theorem receivedCookie_note (r : Request) (tag : UInt16 × Bytes) :
    (r.note tag).receivedCookie =
      if tag.1 = TAG_AC_COOKIE then some tag.2 else r.receivedCookie := by
  unfold Request.note
  by_cases htype : tag.1 = TAG_AC_COOKIE
  · rw [htype]
    rfl
  · rw [if_neg htype, if_neg htype]
    split_ifs <;> rfl

theorem returns_iff {p : PPPoEPacket} {cookie : Bytes} :
    Returns p cookie ↔ p.request.receivedCookie = some cookie := by
  have hlast := last_of_foldl receivedCookie_note p.tagList {}
  rw [Option.or_none] at hlast
  rw [Returns, ← hlast]
  rfl

/-- **The check lets the cookie of the sender pass, and no other.** -/
theorem verdictOn_discard_iff {p : PPPoEPacket} {cookie : Bytes}
    (hlen : p.length.toNat ≤ p.payload.length) (hc : Returns p cookie) (t : Statics) :
    verdictOn cfg p t = .discard ↔ cookie ≠ genCookie cfg p.source := by
  unfold verdictOn
  rw [examine_eq (holds_parsePADR hlen t), judge, returns_iff.mp hc]
  by_cases heq : cookie = genCookie cfg p.source
  · rw [if_pos (congrArg some heq)]
    refine ⟨fun hd => absurd hd ?_, fun hne => absurd heq hne⟩
    unfold judgeService
    repeat' split
    all_goals exact Verdict.noConfusion
  · rw [if_neg fun h => heq (Option.some.inj h)]
    exact ⟨fun _ => heq, fun _ => rfl⟩

/-- A PADR with a cookie and nothing else. -/
def bareReturn (client cookie : Bytes) : PPPoEPacket where
  dest := []
  source := client
  ver := 1
  type := 1
  code := CODE_PADR
  session := 0
  length := (lengthOf [(TAG_AC_COOKIE, cookie)]).toUInt16
  payload := payloadOf [(TAG_AC_COOKIE, cookie)]

theorem length_genCookie (peer : Bytes) : (genCookie cfg peer).length = COOKIE_LEN := by
  rw [genCookie, List.length_append, cfg.length_md5]
  rfl

theorem returns_bareReturn (client peer : Bytes) :
    Returns (bareReturn client (genCookie cfg peer)) (genCookie cfg peer) := by
  have hlen : lengthOf [(TAG_AC_COOKIE, genCookie cfg peer)] = 24 := by
    show TAG_HDR_SIZE + (genCookie cfg peer).length + 0 = 24
    rw [length_genCookie]
    rfl
  have hlist : (bareReturn client (genCookie cfg peer)).tagList =
      [(TAG_AC_COOKIE, genCookie cfg peer)] := by
    have htags := tagsFrom_payloadOf [(TAG_AC_COOKIE, genCookie cfg peer)]
      (fun t ht => List.mem_singleton.mp ht ▸ (by decide : TAG_AC_COOKIE ≠ TAG_END_OF_LIST))
      (by rw [hlen]; decide)
    unfold tagList bareReturn
    rw [hlen] at htags ⊢
    refine (if_neg ?_).trans htags
    rintro (hver | htype | hbig)
    · exact hver rfl
    · exact htype rfl
    · exact absurd hbig (by decide : ¬ 24 > ETH_JUMBO_LEN - PPPOE_OVERHEAD)
  rw [Returns, hlist]
  rfl

/-- **The cookie of a peer is bound to this peer.** -/
theorem bound_iff (h : TellsApart cfg) {peer : Bytes} (hclient : client.length = ETH_ALEN)
    (hpeer : peer.length = ETH_ALEN) : Bound cfg client (genCookie cfg peer) ↔ client = peer := by
  constructor
  · intro hb
    -- the client returns the cookie: if it is let in, the cookie is its own
    have hlen : (bareReturn client (genCookie cfg peer)).length.toNat ≤
        (bareReturn client (genCookie cfg peer)).payload.length := by
      show (lengthOf _).toUInt16.toNat ≤ (payloadOf _).length
      rw [length_payloadOf]
      exact Nat.mod_le _ _
    have hin := hb.accepted (bareReturn client (genCookie cfg peer)) {} hlen rfl
      (returns_bareReturn client peer)
    rw [Ne, verdictOn_discard_iff hlen (returns_bareReturn client peer), not_not] at hin
    exact genCookie_inj h hclient hpeer hin.symm
  · rintro rfl
    refine ⟨fun p t hlen hsource hc => ?_, fun p t hlen hsize hsource hc => ?_⟩
    · rw [Ne, verdictOn_discard_iff hlen hc, not_not, hsource]
    · rw [verdictOn_discard_iff hlen hc]
      exact fun heq => hsource (genCookie_inj h hsize hclient heq.symm)

/-! ## 3. The cookies that are sent -/

def TAG_GENERIC_ERROR : UInt16 := 0x0203

/-- The frame of `sendPADT`. Its `h_source` is filled in before the cookie is made from it. -/
def padtFrame (cfg : DiscoveryConfig) (clientEth : Bytes) (session : UInt16) (msg : String) :
    Option Bytes :=
  let h_source := cfg.intfMac
  (checkRoom (tagBytes TAG_AC_COOKIE (genCookie cfg h_source))
    (tagBytes TAG_GENERIC_ERROR (ascii msg))).map
    (discoveryFrame clientEth h_source CODE_PADT session)

/-- The frames with a cookie that have gone to the client: the PADOs, and the PADTs of its
    sessions. -/
inductive SentTo (cfg : DiscoveryConfig) (s : PppoeServer) (client : Bytes) : Bytes → Prop where
  | pado {f : Bytes} (hsent : f ∈ s.sent) (hcode : (overlay f).code = CODE_PADO)
      (hdest : (overlay f).dest = client) : SentTo cfg s client f
  | padt {f : Bytes} {x : Exec} {msg : String}
      (hx : (∃ id, s.findSession id = some x) ∨ x ∈ s.gone) (hclient : x.clientEth = client)
      (hmsg : msg ∈ x.hist.padts) (hf : padtFrame cfg client x.sessionid msg = some f) :
      SentTo cfg s client f

/-- Everything in the log is the answer to some frame. -/
def Answered (cfg : DiscoveryConfig) (s : PppoeServer) : Prop :=
  ∀ f ∈ s.sent, ∃ frame id, replyTo cfg frame id = some f

theorem answered_step (hb : IdsConserved s) (h : Answered env.toDiscoveryConfig s) (e : Event) :
    Answered env.toDiscoveryConfig (s.step env e) := by
  have hdeliver : ∀ id e, Answered env.toDiscoveryConfig (s.deliver id e) := by
    intro id e f hf
    rw [sent_deliver] at hf
    exact h f hf
  unfold step
  split
  · exact h
  cases e with
  | discovery frame stale =>
    intro f hf
    obtain ⟨tags, ht⟩ := processDiscoveryPacket_eq env s frame stale
    have hsent : (s.processDiscoveryPacket env frame stale).sent = (s.serve env frame).sent := by
      rw [ht]
    dsimp only at hf
    rw [hsent, sent_serve env hb, List.mem_append, Option.mem_toList] at hf
    obtain hf | hf := hf
    · exact ⟨frame, _, hf⟩
    · exact h f hf
  | session frame stale rest =>
    dsimp only [processSessionPacket]
    repeat' split
    all_goals first | exact h | exact hdeliver _ _
  | kick | response | timer | oneOff => exact hdeliver _ _

theorem answered_run (env : PppoeEnv) (es : List Event) :
    Answered env.toDiscoveryConfig (run (step env) initial es) :=
  (run_keeps (I := fun s => IdsConserved s ∧ Answered env.toDiscoveryConfig s)
    (fun _ e h => ⟨conserved_step h.1 e, answered_step h.1 h.2 e⟩)
    ⟨conserved_initial, fun _ hf => absurd hf List.not_mem_nil⟩ es).2

theorem pado_of_replyTo (hmac : cfg.intfMac.length = ETH_ALEN) {frame f : Bytes}
    {id : Option UInt16} (h : replyTo cfg frame id = some f)
    (hcode : (overlay f).code = CODE_PADO) :
    ∃ source r payload, source.length = ETH_ALEN ∧ padoFor cfg source r = some payload ∧
      f = discoveryFrame source cfg.intfMac CODE_PADO 0 payload := by
  unfold replyTo at h
  dsimp only at h
  split at h
  · cases h
  rename_i hw
  have hsource : (overlay frame).source.length = ETH_ALEN := by
    have hhdr := (wellFormed_iff.mp ((Bool.not_eq_false _).mp hw)).1
    show ((frame.drop 6).take ETH_ALEN).length = ETH_ALEN
    rw [List.length_take, List.length_drop, show ETH_ALEN = 6 from rfl]
    rw [show HDR_SIZE = 20 from rfl] at hhdr
    omega
  have hpads : ∀ session payload,
      f ≠ discoveryFrame (overlay frame).source cfg.intfMac CODE_PADS session payload := by
    intro session payload heq
    rw [heq, overlay_discoveryFrame hsource hmac] at hcode
    exact absurd hcode (by decide : CODE_PADS ≠ CODE_PADO)
  split at h
  · unfold answerPADI at h
    split_ifs at h
    obtain ⟨payload, hpado, rfl⟩ := Option.map_eq_some_iff.mp h
    exact ⟨_, _, payload, hsource, hpado, rfl⟩
  split at h
  · unfold answerPADR at h
    split at h
    · cases h
    split at h
    · cases h
    · exact absurd (Option.some.inj h).symm (hpads _ _)
    · obtain ⟨id, -, rfl⟩ := Option.map_eq_some_iff.mp h
      exact absurd rfl (hpads _ _)
  · cases h

theorem types_mtuTags (m : UInt16) : ∀ t ∈ mtuTags cfg m, t.1 = TAG_PPP_MAX_PAYLOAD := by
  intro t ht
  unfold mtuTags at ht
  split at ht
  · rw [List.mem_singleton.mp ht]
  · exact absurd ht List.not_mem_nil

theorem types_echoTags (r : Request) :
    ∀ t ∈ echoTags r, t.1 = TAG_RELAY_SESSION_ID ∨ t.1 = TAG_HOST_UNIQ := by
  intro t ht
  unfold echoTags at ht
  rw [List.mem_append, List.mem_map, List.mem_map] at ht
  obtain ⟨v, -, rfl⟩ | ⟨v, -, rfl⟩ := ht
  · exact .inl rfl
  · exact .inr rfl

theorem valuesOf_eq_nil {type : UInt16} {tags : List (UInt16 × Bytes)}
    (h : ∀ t ∈ tags, t.1 ≠ type) : valuesOf type tags = [] := by
  unfold valuesOf
  rw [List.filter_eq_nil_iff.mpr fun t ht => by simpa using h t ht]
  rfl

theorem cookies_pado (hmac : cfg.intfMac.length = ETH_ALEN) {source payload : Bytes} {r : Request}
    (hs : source.length = ETH_ALEN) (h : padoFor cfg source r = some payload) :
    valuesOf TAG_AC_COOKIE (overlay
      (discoveryFrame source cfg.intfMac CODE_PADO 0 payload)).tagList = [genCookie cfg source] := by
  obtain ⟨rfl, hle⟩ := padoFor_eq_some h
  have hmtu : valuesOf TAG_AC_COOKIE (mtuTags cfg r.max_ppp_payload) = [] :=
    valuesOf_eq_nil fun t ht => types_mtuTags _ t ht ▸ (by decide)
  have hecho : valuesOf TAG_AC_COOKIE (echoTags r) = [] := by
    refine valuesOf_eq_nil fun t ht => ?_
    obtain htype | htype := types_echoTags r t ht <;> exact htype ▸ (by decide)
  have htypes : ∀ t ∈ padoTags cfg source r ++ echoTags r, t.1 ≠ TAG_END_OF_LIST := by
    intro t ht
    unfold padoTags at ht
    simp only [List.cons_append, List.append_assoc, List.mem_cons, List.mem_append,
      List.not_mem_nil, false_or] at ht
    obtain rfl | ht | rfl | rfl | ht := ht
    · exact (by decide : TAG_AC_NAME ≠ TAG_END_OF_LIST)
    · exact types_mtuTags _ t ht ▸ (by decide)
    · exact (by decide : TAG_SERVICE_NAME ≠ TAG_END_OF_LIST)
    · exact (by decide : TAG_AC_COOKIE ≠ TAG_END_OF_LIST)
    · obtain htype | htype := types_echoTags r t ht <;> exact htype ▸ (by decide)
  rw [tagList_discoveryFrame hs hmac CODE_PADO 0 htypes hle, valuesOf_append, hecho,
    List.append_nil]
  show valuesOf TAG_AC_COOKIE ([(TAG_AC_NAME, cfg.acName)] ++ (mtuTags cfg r.max_ppp_payload ++
    [(TAG_SERVICE_NAME, cfg.svcName), (TAG_AC_COOKIE, genCookie cfg source)])) = _
  rw [valuesOf_append, valuesOf_append, hmtu]
  rfl

theorem cookies_padt (hmac : cfg.intfMac.length = ETH_ALEN) (hclient : client.length = ETH_ALEN)
    {session : UInt16} {msg : String} {f : Bytes} (h : padtFrame cfg client session msg = some f) :
    (overlay f).code = CODE_PADT ∧
      valuesOf TAG_AC_COOKIE (overlay f).tagList = [genCookie cfg cfg.intfMac] := by
  obtain ⟨payload, hroom, rfl⟩ := Option.map_eq_some_iff.mp h
  obtain ⟨heq, hle⟩ := checkRoom_eq_some hroom
  have hpayload : payload = payloadOf
      [(TAG_GENERIC_ERROR, ascii msg), (TAG_AC_COOKIE, genCookie cfg cfg.intfMac)] := by
    rw [heq, payloadOf_cons, payloadOf_cons, payloadOf_nil, List.append_nil]
  refine ⟨by rw [overlay_discoveryFrame hclient hmac], ?_⟩
  rw [hpayload] at hle ⊢
  rw [tagList_discoveryFrame hclient hmac CODE_PADT session _ hle]
  · rfl
  intro t ht
  simp only [List.mem_cons, List.not_mem_nil, or_false] at ht
  obtain rfl | rfl := ht
  · exact (by decide : TAG_GENERIC_ERROR ≠ TAG_END_OF_LIST)
  · exact (by decide : TAG_AC_COOKIE ≠ TAG_END_OF_LIST)

/-! ## 4. Runs -/

/-- **A cookie that has been sent to a client is accepted from it and from nobody else exactly if
    it came in a PADO**, or if the client has our own address. -/
theorem cookie_bound_iff (env : PppoeEnv) (hmac : env.intfMac.length = ETH_ALEN)
    (hmd5 : TellsApart env.toDiscoveryConfig) (es : List Event) {client f cookie : Bytes}
    (hclient : client.length = ETH_ALEN)
    (hsent : SentTo env.toDiscoveryConfig (run (step env) initial es) client f)
    (hcookie : cookie ∈ valuesOf TAG_AC_COOKIE (overlay f).tagList) :
    Bound env.toDiscoveryConfig client cookie ↔
      (overlay f).code = CODE_PADO ∨ client = env.intfMac := by
  cases hsent with
  | pado hf hcode hdest =>
    obtain ⟨frame, id, hreply⟩ := answered_run env es f hf
    obtain ⟨source, r, payload, hsize, hpado, rfl⟩ := pado_of_replyTo hmac hreply hcode
    have hsource : source = client := by rwa [overlay_discoveryFrame hsize hmac] at hdest
    rw [cookies_pado hmac hsize hpado, List.mem_singleton] at hcookie
    subst hcookie
    rw [bound_iff hmd5 hclient hsize]
    exact ⟨fun _ => .inl hcode, fun _ => hsource.symm⟩
  | padt hx hx' hmsg hf =>
    obtain ⟨hcode, hcookies⟩ := cookies_padt hmac hclient hf
    rw [hcookies, List.mem_singleton] at hcookie
    subst hcookie
    rw [bound_iff hmd5 hclient hmac, hcode]
    exact ⟨.inr, fun h => h.resolve_left (by decide)⟩

/-- A server whose digest begins with the peer's address. -/
def telling : PppoeEnv :=
  { plain with
    md5 := fun b => (b ++ List.replicate 16 0).take 16
    length_md5 := fun b => by
      rw [List.length_take, List.length_append, List.length_replicate]
      omega }

theorem tellsApart_telling : TellsApart telling.toDiscoveryConfig := by
  intro a b ha hb h
  have h6 := congrArg (List.take 6) h
  have htake : ∀ x : Bytes, x.length = 6 →
      (telling.md5 (x ++ telling.intfMac ++ telling.cookieSeed)).take 6 = x := by
    intro x hx
    show (((x ++ _ ++ _) ++ List.replicate 16 0).take 16).take 6 = x
    rw [List.take_take, List.append_assoc, List.append_assoc]
    exact List.take_left' hx
  rwa [htake a ha, htake b hb] at h6

/-- A PADI for any service, and its PADO. -/
def padi : Bytes :=
  discoveryFrame (List.replicate 6 255) [2, 0, 0, 0, 0, 9] CODE_PADI 0 (tagBytes TAG_SERVICE_NAME [])

def pado : Bytes :=
  discoveryFrame [2, 0, 0, 0, 0, 9] telling.intfMac CODE_PADO 0
    (payloadOf (padoTags telling.toDiscoveryConfig [2, 0, 0, 0, 0, 9] {}))

theorem pado_cookie_bound :
    TellsApart telling.toDiscoveryConfig ∧
      Bound telling.toDiscoveryConfig [2, 0, 0, 0, 0, 9]
        (genCookie telling.toDiscoveryConfig [2, 0, 0, 0, 0, 9]) :=
  ⟨tellsApart_telling, (cookie_bound_iff telling rfl tellsApart_telling [.discovery padi []]
    (f := pado) rfl (.pado (by decide +kernel) (by decide +kernel) (by decide +kernel))
    (by decide +kernel)).mpr (.inl (by decide +kernel))⟩

/-- The client is let in and goes. -/
def comeAndGo : List Event :=
  [.discovery (discoveryFrame telling.intfMac [2, 0, 0, 0, 0, 9] CODE_PADR 0
      (payloadOf [(TAG_SERVICE_NAME, []),
        (TAG_AC_COOKIE, genCookie telling.toDiscoveryConfig [2, 0, 0, 0, 0, 9])])) [],
    .discovery (discoveryFrame telling.intfMac [2, 0, 0, 0, 0, 9] CODE_PADT 1 []) []]

/-- **The cookie of the PADT it gets is turned down when it returns it.** -/
theorem padt_cookie_turned_down :
    ∃ f cookie, SentTo telling.toDiscoveryConfig (run (step telling) initial comeAndGo)
        [2, 0, 0, 0, 0, 9] f ∧
      cookie ∈ valuesOf TAG_AC_COOKIE (overlay f).tagList ∧
      ¬ Bound telling.toDiscoveryConfig [2, 0, 0, 0, 0, 9] cookie ∧
      verdictOn telling.toDiscoveryConfig (bareReturn [2, 0, 0, 0, 0, 9] cookie) {} = .discard := by
  have hsession : ((run (step telling) initial comeAndGo).findSession 1).map
      (fun x => (x.clientEth, x.sessionid, x.hist.padts)) =
      some ([2, 0, 0, 0, 0, 9], 1, ["Received PADT"]) := by decide +kernel
  obtain ⟨x, hx, hfields⟩ := Option.map_eq_some_iff.mp hsession
  obtain ⟨hclient, hid, hpadts⟩ : x.clientEth = _ ∧ x.sessionid = 1 ∧ x.hist.padts = _ := by
    simpa using hfields
  obtain ⟨f, hf⟩ : ∃ f, padtFrame telling.toDiscoveryConfig [2, 0, 0, 0, 0, 9] 1 "Received PADT" =
      some f := Option.isSome_iff_exists.mp (by decide +kernel)
  have hcookies : valuesOf TAG_AC_COOKIE (overlay f).tagList =
      [genCookie telling.toDiscoveryConfig telling.intfMac] := (cookies_padt rfl rfl hf).2
  have hmsg : "Received PADT" ∈ x.hist.padts := by
    rw [hpadts]
    exact List.mem_cons_self
  refine ⟨f, genCookie telling.toDiscoveryConfig telling.intfMac,
    .padt (.inl ⟨1, hx⟩) hclient hmsg (hid ▸ hf), ?_, ?_, by decide +kernel⟩
  · rw [hcookies]
    exact List.mem_cons_self
  · rw [bound_iff tellsApart_telling rfl rfl]
    decide

end PppoeServer

end OpenBras
