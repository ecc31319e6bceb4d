/-
  File:      OpenBras/PPPOE/Tags.lean
  Subject:   DISCOVERY FRAMES AND THEIR TAGS: `parsePacket`, the tag parsers and the static tags
             of `CPPPOEDiscoveryHandler` (src/PPPOE/CPPPOEDiscoveryHandler.cpp, src/PPPOE/pppoe.h).

  A received frame lies in a buffer of 2048 bytes that still holds the ends of earlier, longer
  frames; `PPPoEPacket.payload` is the memory from the payload on. The tags of a request are
  kept in static members, which outlive the frame: a handler takes back their types, not what
  they hold.

  `parsePacket` calls its function for the tags in turn and stops at an End-Of-List tag or at
  the first one that does not fit. `tagList` is the list of the tags that fit, and `Request` what
  they ask for, the last tag of a kind counting. `holds_parsePADI` and `holds_parsePADR` say that
  the static members then hold the request, whatever they held before; `request_overlay` says
  that nothing behind the frame matters.
-/
import OpenBras.PPP.Ipcp

namespace OpenBras

open Wire

/-! ## 1. Frames (src/PPPOE/pppoe.h) -/

def ETH_ALEN : Nat := 6
def PPPOE_OVERHEAD : Nat := 6
def HDR_SIZE : Nat := 14 + PPPOE_OVERHEAD
def MAX_PPPOE_PAYLOAD : Nat := ETH_JUMBO_LEN - PPPOE_OVERHEAD
def TOTAL_OVERHEAD : Nat := 8
def ETH_PPPOE_MTU : UInt16 := 1492
def TAG_HDR_SIZE : Nat := 4

def ETH_PPPOE_DISCOVERY : UInt16 := 0x8863

def CODE_PADI : UInt8 := 0x09
def CODE_PADO : UInt8 := 0x07
def CODE_PADR : UInt8 := 0x19
def CODE_PADS : UInt8 := 0x65
def CODE_PADT : UInt8 := 0xA7
def CODE_SESS : UInt8 := 0x00

def TAG_END_OF_LIST : UInt16 := 0x0000
def TAG_SERVICE_NAME : UInt16 := 0x0101
def TAG_AC_NAME : UInt16 := 0x0102
def TAG_HOST_UNIQ : UInt16 := 0x0103
def TAG_AC_COOKIE : UInt16 := 0x0104
def TAG_RELAY_SESSION_ID : UInt16 := 0x0110
def TAG_PPP_MAX_PAYLOAD : UInt16 := 0x0120
def TAG_SERVICE_NAME_ERROR : UInt16 := 0x0201

/-- A received frame, with the memory from its payload on. -/
structure PPPoEPacket where
  dest : Bytes
  source : Bytes
  ver : UInt8
  type : UInt8
  code : UInt8
  session : UInt16
  length : UInt16
  payload : Bytes
  deriving DecidableEq, Repr

/-- The receive buffer, taken for a packet. (`ver` is the low half of its byte on a
    little-endian host.) -/
def PPPoEPacket.overlay (buffer : Bytes) : PPPoEPacket where
  dest := buffer.take ETH_ALEN
  source := (buffer.drop 6).take ETH_ALEN
  ver := byteAt buffer 14 &&& 0xF
  type := byteAt buffer 14 >>> 4
  code := byteAt buffer 15
  session := getShort buffer 16
  length := getShort buffer 18
  payload := buffer.drop HDR_SIZE

/-- The macro `NOT_UNICAST`. -/
def notUnicast (e : Bytes) : Bool := byteAt e 0 &&& 0x01 != 0

/-- A discovery frame to be sent. -/
def discoveryFrame (dest source : Bytes) (code : UInt8) (session : UInt16) (payload : Bytes) :
    Bytes :=
  dest ++ source ++ putShort ETH_PPPOE_DISCOVERY ++ [0x11, code] ++ putShort session ++
    putShort payload.length.toUInt16 ++ payload

/-! ## 2. Tags -/

/-- A tag in memory: `payload` is the whole array. -/
structure PPPoETag where
  type : UInt16 := 0
  length : UInt16 := 0
  payload : Bytes := List.replicate ETH_JUMBO_LEN 0
  deriving DecidableEq, Repr

namespace PPPoETag

/-- `memcpy` of `len` bytes into the tag, over what it held. -/
def fill (type len : UInt16) (data : Bytes) (t : PPPoETag) : PPPoETag where
  type := type
  length := len
  payload := data.take len.toNat ++ t.payload.drop len.toNat

/-- What `memcpy(cursor, &tag, length + TAG_HDR_SIZE)` copies. -/
def bytes (t : PPPoETag) : Bytes :=
  putShort t.type ++ putShort t.length ++ t.payload.take t.length.toNat

end PPPoETag

/-- A tag with its value. -/
def tagBytes (type : UInt16) (value : Bytes) : Bytes :=
  putShort type ++ putShort value.length.toUInt16 ++ value

/-- The static members of `CPPPOEDiscoveryHandler`. -/
structure Statics where
  hostUniq : PPPoETag := {}
  relayId : PPPoETag := {}
  receivedCookie : PPPoETag := {}
  requestedService : PPPoETag := {}
  max_ppp_payload : UInt16 := 0
  deriving DecidableEq, Repr

/-! ## 3. `parsePacket` -/

section Parse

variable {σ : Type} (func : UInt16 → UInt16 → Bytes → σ → σ)

/-- `while (curTag - packet->payload < len)`, with `pos = curTag - packet->payload`. A turn
    moves `pos` by at least a header, so `len + 1` turns are enough. -/
def parseLoop (payload : Bytes) (len : Nat) : Nat → Nat → σ → Int × σ
  | 0, _, s => (0, s)
  | n + 1, pos, s =>
    if pos < len then
      let tagType := getShort payload pos
      let tagLen := getShort payload (pos + 2)
      if tagType = TAG_END_OF_LIST then (0, s)
      else if pos + tagLen.toNat + TAG_HDR_SIZE > len then (-1, s)
      else
        parseLoop payload len n (pos + TAG_HDR_SIZE + tagLen.toNat)
          (func tagType tagLen (payload.drop (pos + TAG_HDR_SIZE)) s)
    else (0, s)

def parsePacket (packet : PPPoEPacket) (s : σ) : Int × σ :=
  let len := packet.length.toNat
  if packet.ver ≠ 1 then (-1, s)
  else if packet.type ≠ 1 then (-1, s)
  else if len > ETH_JUMBO_LEN - PPPOE_OVERHEAD then (-1, s)
  else parseLoop func packet.payload len (len + 1) 0 s

end Parse

/-- A value taken from a max-payload tag. -/
def maxPayloadOf (len : UInt16) (data : Bytes) (t : Statics) : Statics :=
  if len = 2 then
    { t with max_ppp_payload := if getShort data 0 ≤ ETH_PPPOE_MTU then 0 else getShort data 0 }
  else t

def parsePADITags (type len : UInt16) (data : Bytes) (t : Statics) : Statics :=
  if type = TAG_PPP_MAX_PAYLOAD then maxPayloadOf len data t
  else if type = TAG_SERVICE_NAME then
    { t with requestedService := t.requestedService.fill type len data }
  else if type = TAG_RELAY_SESSION_ID then { t with relayId := t.relayId.fill type len data }
  else if type = TAG_HOST_UNIQ then { t with hostUniq := t.hostUniq.fill type len data }
  else t

def parsePADRTags (type len : UInt16) (data : Bytes) (t : Statics) : Statics :=
  if type = TAG_PPP_MAX_PAYLOAD then maxPayloadOf len data t
  else if type = TAG_RELAY_SESSION_ID then { t with relayId := t.relayId.fill type len data }
  else if type = TAG_HOST_UNIQ then { t with hostUniq := t.hostUniq.fill type len data }
  else if type = TAG_AC_COOKIE then
    { t with receivedCookie := t.receivedCookie.fill type len data }
  else if type = TAG_SERVICE_NAME then
    { t with requestedService := t.requestedService.fill type len data }
  else t

/-! ## 4. The tags that fit -/

/-- The tags from `pos` on, each with its value, up to the end of the list or the first that
    does not fit. -/
def tagsFrom (payload : Bytes) (len : Nat) : Nat → Nat → List (UInt16 × Bytes)
  | 0, _ => []
  | n + 1, pos =>
    let tagType := getShort payload pos
    let tagLen := getShort payload (pos + 2)
    if pos < len ∧ tagType ≠ TAG_END_OF_LIST ∧ pos + tagLen.toNat + TAG_HDR_SIZE ≤ len then
      (tagType, (payload.drop (pos + TAG_HDR_SIZE)).take tagLen.toNat) ::
        tagsFrom payload len n (pos + TAG_HDR_SIZE + tagLen.toNat)
    else []

/-- The tags `parsePacket` reports. -/
def PPPoEPacket.tagList (packet : PPPoEPacket) : List (UInt16 × Bytes) :=
  let len := packet.length.toNat
  if packet.ver ≠ 1 ∨ packet.type ≠ 1 ∨ len > ETH_JUMBO_LEN - PPPOE_OVERHEAD then []
  else tagsFrom packet.payload len (len + 1) 0

/-- What follows the declared length is not looked at: a header that reaches behind it belongs
    to a tag that does not fit. -/
theorem tagsFrom_append {a b : Bytes} {len : Nat} (h : len ≤ a.length) (n pos : Nat) :
    tagsFrom (a ++ b) len n pos = tagsFrom a len n pos := by
  induction n generalizing pos with
  | zero => rfl
  | succ n ih =>
    unfold tagsFrom
    by_cases hfit : pos + TAG_HDR_SIZE ≤ len
    · have hpos : pos + 4 ≤ len := hfit
      rw [getShort_append (i := pos) (by omega),
        getShort_append (i := pos + 2) (by omega)]
      dsimp only
      split
      · rename_i hc
        have hlen := hc.2.2
        rw [ih, List.drop_append_of_le_length (by omega),
          List.take_append_of_le_length (by rw [List.length_drop]; omega)]
      · rfl
    · rw [if_neg (by omega), if_neg (by omega)]

/-! ## 5. What the tags ask for -/

/-- A request as its tags state it. -/
structure Request where
  hostUniq : Option Bytes := none
  relayId : Option Bytes := none
  receivedCookie : Option Bytes := none
  requestedService : Option Bytes := none
  max_ppp_payload : UInt16 := 0
  deriving DecidableEq, Repr

namespace Request

/-- The last tag of a kind counts. -/
def note (r : Request) (tag : UInt16 × Bytes) : Request :=
  if tag.1 = TAG_PPP_MAX_PAYLOAD then
    if tag.2.length = 2 then
      { r with
        max_ppp_payload := if getShort tag.2 0 ≤ ETH_PPPOE_MTU then 0 else getShort tag.2 0 }
    else r
  else if tag.1 = TAG_RELAY_SESSION_ID then { r with relayId := some tag.2 }
  else if tag.1 = TAG_HOST_UNIQ then { r with hostUniq := some tag.2 }
  else if tag.1 = TAG_AC_COOKIE then { r with receivedCookie := some tag.2 }
  else if tag.1 = TAG_SERVICE_NAME then { r with requestedService := some tag.2 }
  else r

end Request

/-- The request in a frame. -/
def PPPoEPacket.request (packet : PPPoEPacket) : Request := packet.tagList.foldl Request.note {}

/-- The tag in memory has the value, or none. -/
def PPPoETag.Holds (type : UInt16) (t : PPPoETag) : Option Bytes → Prop
  | none => t.type = 0
  | some v => t.type = type ∧ t.length.toNat = v.length ∧ t.payload.take v.length = v

/-- The static members hold the request, but for the cookie of a PADI. -/
structure Statics.Holds (padr : Bool) (r : Request) (t : Statics) : Prop where
  hostUniq : t.hostUniq.Holds TAG_HOST_UNIQ r.hostUniq
  relayId : t.relayId.Holds TAG_RELAY_SESSION_ID r.relayId
  receivedCookie : padr = true → t.receivedCookie.Holds TAG_AC_COOKIE r.receivedCookie
  requestedService : t.requestedService.Holds TAG_SERVICE_NAME r.requestedService
  max_ppp_payload : t.max_ppp_payload = r.max_ppp_payload

section Loop

/- A call of the function does to `I` what a tag does. -/
variable {σ ρ : Type} {func : UInt16 → UInt16 → Bytes → σ → σ} {note : ρ → UInt16 × Bytes → ρ}
  {I : ρ → σ → Prop} (hfunc : ∀ r s type len data, len.toNat ≤ data.length → I r s →
    I (note r (type, data.take len.toNat)) (func type len data s))
  {r : ρ} {s : σ}

include hfunc

/-- **The rule for the loop**: what a call of the function does to a relation, the tags do. -/
theorem parseLoop_keeps {payload : Bytes} {len : Nat} (hlen : len ≤ payload.length) (n pos : Nat)
    (h : I r s) :
    I ((tagsFrom payload len n pos).foldl note r) (parseLoop func payload len n pos s).2 := by
  induction n generalizing pos r s with
  | zero => exact h
  | succ n ih =>
    unfold tagsFrom parseLoop
    dsimp only
    by_cases hpos : pos < len
    · rw [if_pos hpos]
      by_cases htype : getShort payload pos = TAG_END_OF_LIST
      · rw [if_pos htype, if_neg fun hc => hc.2.1 htype]
        exact h
      rw [if_neg htype]
      by_cases hfit : pos + (getShort payload (pos + 2)).toNat + TAG_HDR_SIZE > len
      · rw [if_pos hfit, if_neg (by omega)]
        exact h
      rw [if_neg hfit, if_pos ⟨hpos, htype, by omega⟩]
      refine ih _ (hfunc _ _ _ _ _ ?_ h)
      rw [List.length_drop]
      have hdr : TAG_HDR_SIZE = 4 := rfl
      omega
    · rw [if_neg hpos, if_neg fun hc => hpos hc.1]
      exact h

theorem parsePacket_keeps {packet : PPPoEPacket}
    (hlen : packet.length.toNat ≤ packet.payload.length) (h : I r s) :
    I (packet.tagList.foldl note r) (parsePacket func packet s).2 := by
  unfold parsePacket PPPoEPacket.tagList
  dsimp only
  by_cases hver : packet.ver ≠ 1
  · rw [if_pos hver, if_pos (Or.inl hver)]
    exact h
  rw [if_neg hver]
  by_cases htype : packet.type ≠ 1
  · rw [if_pos htype, if_pos (Or.inr (Or.inl htype))]
    exact h
  rw [if_neg htype]
  by_cases hbig : packet.length.toNat > ETH_JUMBO_LEN - PPPOE_OVERHEAD
  · rw [if_pos hbig, if_pos (Or.inr (Or.inr hbig))]
    exact h
  rw [if_neg hbig, if_neg (by tauto)]
  exact parseLoop_keeps hfunc hlen _ _ h

end Loop

variable {packet : PPPoEPacket} {type len : UInt16} {data : Bytes}

theorem holds_fill (hlen : len.toNat ≤ data.length) (t : PPPoETag) :
    (t.fill type len data).Holds type (some (data.take len.toNat)) := by
  have hl : (data.take len.toNat).length = len.toNat := by
    rw [List.length_take]
    omega
  refine ⟨rfl, hl.symm, ?_⟩
  show (data.take len.toNat ++ t.payload.drop len.toNat).take (data.take len.toNat).length = _
  exact List.take_left

theorem maxPayloadOf_holds {padr : Bool} {r : Request} {t : Statics}
    (hlen : len.toNat ≤ data.length) (h : t.Holds padr r) :
    (maxPayloadOf len data t).Holds padr (r.note (TAG_PPP_MAX_PAYLOAD, data.take len.toNat)) := by
  have hl : (data.take len.toNat).length = len.toNat := by
    rw [List.length_take]
    omega
  unfold maxPayloadOf Request.note
  rw [if_pos rfl]
  dsimp only
  rw [hl]
  by_cases h2 : len = 2
  · have hn : len.toNat = 2 := by rw [h2]; rfl
    rw [if_pos h2, if_pos hn, getShort_take (by omega)]
    exact ⟨h.hostUniq, h.relayId, h.receivedCookie, h.requestedService, rfl⟩
  · have hn : len.toNat ≠ 2 := fun hn => h2 (UInt16.toNat_inj.mp hn)
    rw [if_neg h2, if_neg hn]
    exact h

theorem holds_parsePADRTags {padr : Bool} {r : Request} {t : Statics}
    (hlen : len.toNat ≤ data.length) (h : t.Holds padr r) :
    (parsePADRTags type len data t).Holds padr (r.note (type, data.take len.toNat)) := by
  have hfill : ∀ tag : PPPoETag, (tag.fill type len data).Holds type _ := holds_fill hlen
  unfold parsePADRTags
  by_cases hmax : type = TAG_PPP_MAX_PAYLOAD
  · rw [if_pos hmax, hmax]
    exact maxPayloadOf_holds hlen h
  unfold Request.note
  rw [if_neg hmax, if_neg hmax]
  by_cases hrelay : type = TAG_RELAY_SESSION_ID
  · rw [if_pos hrelay, if_pos hrelay]
    exact { h with relayId := hrelay ▸ hfill t.relayId }
  rw [if_neg hrelay, if_neg hrelay]
  by_cases huniq : type = TAG_HOST_UNIQ
  · rw [if_pos huniq, if_pos huniq]
    exact { h with hostUniq := huniq ▸ hfill t.hostUniq }
  rw [if_neg huniq, if_neg huniq]
  by_cases hcookie : type = TAG_AC_COOKIE
  · rw [if_pos hcookie, if_pos hcookie]
    exact { h with receivedCookie := fun _ => hcookie ▸ hfill t.receivedCookie }
  rw [if_neg hcookie, if_neg hcookie]
  by_cases hserv : type = TAG_SERVICE_NAME
  · rw [if_pos hserv, if_pos hserv]
    exact { h with requestedService := hserv ▸ hfill t.requestedService }
  · rw [if_neg hserv, if_neg hserv]
    exact h

/-- A PADI is read as a PADR, but for a cookie. -/
theorem parsePADITags_eq (h : type ≠ TAG_AC_COOKIE) (len : UInt16) (data : Bytes) (t : Statics) :
    parsePADITags type len data t = parsePADRTags type len data t := by
  unfold parsePADITags parsePADRTags
  rw [if_neg h]
  by_cases hserv : type = TAG_SERVICE_NAME
  · subst hserv
    rfl
  · rw [if_neg hserv, if_neg hserv]

theorem holds_parsePADITags {r : Request} {t : Statics} (hlen : len.toNat ≤ data.length)
    (h : t.Holds false r) :
    (parsePADITags type len data t).Holds false (r.note (type, data.take len.toNat)) := by
  by_cases hcookie : type = TAG_AC_COOKIE
  · subst hcookie
    exact ⟨h.hostUniq, h.relayId, nofun, h.requestedService, h.max_ppp_payload⟩
  · rw [parsePADITags_eq hcookie]
    exact holds_parsePADRTags hlen h

/-- The members a handler has taken the types of back from. -/
def Statics.cleared (t : Statics) : Statics :=
  { t with
    relayId := { t.relayId with type := 0 }, hostUniq := { t.hostUniq with type := 0 },
    requestedService := { t.requestedService with type := 0 }, max_ppp_payload := 0 }

/-- **After a PADI is parsed the static members hold its request**, whatever they held. -/
theorem holds_parsePADI (hlen : packet.length.toNat ≤ packet.payload.length) (t : Statics) :
    (parsePacket parsePADITags packet t.cleared).2.Holds false packet.request :=
  parsePacket_keeps (I := fun r (t : Statics) => t.Holds false r)
    (fun _ _ _ _ _ hdata h => holds_parsePADITags hdata h) hlen ⟨rfl, rfl, nofun, rfl, rfl⟩

/-- **After a PADR is parsed they hold its request, with the cookie.** -/
theorem holds_parsePADR (hlen : packet.length.toNat ≤ packet.payload.length) (t : Statics) :
    (parsePacket parsePADRTags packet { t.cleared with
      receivedCookie := { t.receivedCookie with type := 0 } }).2.Holds true packet.request :=
  parsePacket_keeps (I := fun r (t : Statics) => t.Holds true r)
    (fun _ _ _ _ _ hdata h => holds_parsePADRTags hdata h) hlen
    ⟨rfl, rfl, fun _ => rfl, rfl, rfl⟩

theorem overlay_append {frame : Bytes} (h : HDR_SIZE ≤ frame.length) (stale : Bytes) :
    PPPoEPacket.overlay (frame ++ stale) =
      { PPPoEPacket.overlay frame with payload := frame.drop HDR_SIZE ++ stale } := by
  have h20 : 20 ≤ frame.length := h
  unfold PPPoEPacket.overlay
  rw [byteAt_append (by omega), byteAt_append (by omega),
    getShort_append (by omega), getShort_append (by omega),
    List.take_append_of_le_length (show ETH_ALEN ≤ _ from Nat.le_trans (by decide) h20),
    List.drop_append_of_le_length (show 6 ≤ _ by omega),
    List.take_append_of_le_length (show ETH_ALEN ≤ _ by rw [List.length_drop, ETH_ALEN]; omega),
    List.drop_append_of_le_length h]

/-- **The request is a function of the frame.** -/
theorem request_overlay {frame : Bytes}
    (h : (PPPoEPacket.overlay frame).length.toNat + HDR_SIZE ≤ frame.length) (stale : Bytes) :
    (PPPoEPacket.overlay (frame ++ stale)).request = (PPPoEPacket.overlay frame).request := by
  unfold PPPoEPacket.request PPPoEPacket.tagList
  rw [overlay_append (by omega)]
  dsimp only
  rw [tagsFrom_append (by rw [List.length_drop]; omega)]
  rfl

end OpenBras
