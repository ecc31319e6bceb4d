/-
  File:      OpenBras/PPPOE/TagWalk.lean
  Subject:   THE WALK OF `parsePacket` OVER THE TAGS, and the grammar it follows.

  `Walk` is the `while` loop itself, without a bound on its turns: the calls it makes and what it
  returns. The loop always leaves (`Walk.total`), and `parsePacket` makes these calls for
  whatever function it is given (`Makes`).

  On the other side stands the grammar: a list of tags is complete if the declared bytes begin
  with it (`CompleteTags`). The calls are the longest such list -- every other one is a beginning
  of it (`LongestTags`). A header that reaches behind the declared length may be read, but no call
  comes of it; what the loop returns then depends on bytes behind the packet.

  `parsePacket` turns down a declared length of more than 1502 bytes, so what is said of the calls
  holds of the packets up to that length; of a longer one there is no call.
-/
import OpenBras.PPPOE.ReplySize

namespace OpenBras

open Wire PppoeServer

/-! ## 1. The loop -/

/-- A call of the parse function; `data` is the memory from the value on. -/
structure TagCall where
  type : UInt16
  length : UInt16
  data : Bytes
  deriving DecidableEq, Repr

def TagCall.value (c : TagCall) : Bytes := c.data.take c.length.toNat

/-- The tag a call is about. -/
def TagCall.tag (c : TagCall) : UInt16 × Bytes := (c.type, c.value)

/-- The call for the tag at `pos`. -/
def callAt (payload : Bytes) (pos : Nat) : TagCall where
  type := getShort payload pos
  length := getShort payload (pos + 2)
  data := payload.drop (pos + TAG_HDR_SIZE)

/-- From `pos` on the loop makes the calls and returns `r`. -/
inductive Walk (payload : Bytes) (len : Nat) : Nat → List TagCall → Int → Prop where
  | leave {pos : Nat} (hpos : ¬ pos < len) : Walk payload len pos [] 0
  | endOfList {pos : Nat} (hpos : pos < len) (htype : getShort payload pos = TAG_END_OF_LIST) :
      Walk payload len pos [] 0
  | misfit {pos : Nat} (hpos : pos < len) (htype : getShort payload pos ≠ TAG_END_OF_LIST)
      (hfit : pos + (getShort payload (pos + 2)).toNat + TAG_HDR_SIZE > len) :
      Walk payload len pos [] (-1)
  | tag {pos : Nat} {calls : List TagCall} {r : Int} (hpos : pos < len)
      (htype : getShort payload pos ≠ TAG_END_OF_LIST)
      (hfit : ¬ pos + (getShort payload (pos + 2)).toNat + TAG_HDR_SIZE > len)
      (rest : Walk payload len (pos + TAG_HDR_SIZE + (getShort payload (pos + 2)).toNat) calls r) :
      Walk payload len pos (callAt payload pos :: calls) r

namespace Walk

variable {payload : Bytes} {len pos : Nat} {calls : List TagCall} {r : Int}

/-- **The loop leaves**: every turn moves on by a header at least. -/
theorem total (payload : Bytes) (len pos : Nat) : ∃ calls r, Walk payload len pos calls r := by
  induction hm : len - pos using Nat.strong_induction_on generalizing pos with
  | _ m ih =>
    by_cases hpos : pos < len
    · by_cases htype : getShort payload pos = TAG_END_OF_LIST
      · exact ⟨_, _, .endOfList hpos htype⟩
      by_cases hfit : pos + (getShort payload (pos + 2)).toNat + TAG_HDR_SIZE > len
      · exact ⟨_, _, .misfit hpos htype hfit⟩
      have hdr : TAG_HDR_SIZE = 4 := rfl
      obtain ⟨calls, r, hrest⟩ := ih _ (by omega)
        (pos + TAG_HDR_SIZE + (getShort payload (pos + 2)).toNat) rfl
      exact ⟨_, _, .tag hpos htype hfit hrest⟩
    · exact ⟨_, _, .leave hpos⟩

theorem parseLoop {σ : Type} (func : UInt16 → UInt16 → Bytes → σ → σ)
    (h : Walk payload len pos calls r) {n : Nat} (hn : len - pos < n) (s : σ) :
    parseLoop func payload len n pos s =
      (r, calls.foldl (fun s c => func c.type c.length c.data s) s) := by
  induction h generalizing n s with
  | leave hpos =>
    obtain ⟨n, rfl⟩ := Nat.exists_eq_add_one_of_ne_zero (by omega : n ≠ 0)
    exact if_neg hpos
  | endOfList hpos htype =>
    obtain ⟨n, rfl⟩ := Nat.exists_eq_add_one_of_ne_zero (by omega : n ≠ 0)
    exact (if_pos hpos).trans (if_pos htype)
  | misfit hpos htype hfit =>
    obtain ⟨n, rfl⟩ := Nat.exists_eq_add_one_of_ne_zero (by omega : n ≠ 0)
    exact (if_pos hpos).trans ((if_neg htype).trans (if_pos hfit))
  | tag hpos htype hfit rest ih =>
    obtain ⟨n, rfl⟩ := Nat.exists_eq_add_one_of_ne_zero (by omega : n ≠ 0)
    have hdr : TAG_HDR_SIZE = 4 := rfl
    refine (if_pos hpos).trans ((if_neg htype).trans ((if_neg hfit).trans ?_))
    exact ih (by omega) _

theorem inside (h : Walk payload len pos calls r) {c : TagCall} (hc : c ∈ calls) :
    ∃ i, c = callAt payload i ∧ i + TAG_HDR_SIZE + c.length.toNat ≤ len := by
  induction h with
  | leave | endOfList | misfit => exact absurd hc List.not_mem_nil
  | @tag pos calls r hpos htype hfit rest ih =>
    rcases List.mem_cons.mp hc with rfl | hc
    · exact ⟨pos, rfl, by simp only [callAt]; omega⟩
    · exact ih hc

end Walk

/-! ## 2. The grammar -/

/-- The bytes begin with these tags, none of which ends the list. -/
structure CompleteTags (bytes : Bytes) (tags : List (UInt16 × Bytes)) : Prop where
  starts : payloadOf tags <+: bytes
  types : ∀ t ∈ tags, t.1 ≠ TAG_END_OF_LIST
  lengths : ∀ t ∈ tags, t.2.length < 2 ^ 16

/-- They are all the complete tags there are. -/
structure LongestTags (bytes : Bytes) (tags : List (UInt16 × Bytes)) : Prop where
  complete : CompleteTags bytes tags
  longest : ∀ tags', CompleteTags bytes tags' → tags' <+: tags

theorem LongestTags.unique {bytes : Bytes} {a b : List (UInt16 × Bytes)} (ha : LongestTags bytes a)
    (hb : LongestTags bytes b) : a = b :=
  have hab := hb.longest a ha.complete
  hab.eq_of_length_le (ha.longest b hb.complete).length_le

theorem tag_split {q : Bytes} (h : TAG_HDR_SIZE + (getShort q 2).toNat ≤ q.length) :
    q = tagBytes (getShort q 0) ((q.drop TAG_HDR_SIZE).take (getShort q 2).toNat) ++
      q.drop (TAG_HDR_SIZE + (getShort q 2).toNat) := by
  have hdr : TAG_HDR_SIZE = 4 := rfl
  have hlen : ((q.drop TAG_HDR_SIZE).take (getShort q 2).toNat).length.toUInt16 = getShort q 2 := by
    rw [List.length_take, List.length_drop, Nat.min_eq_left (by omega)]
    exact UInt16.ofNat_toNat
  rw [tagBytes, hlen, List.append_assoc, ← List.drop_drop, List.take_append_drop, hdr]
  obtain ⟨x, y, z, w, rest, rfl⟩ := exists_four (show 4 ≤ q.length by omega)
  have htype : putShort (getShort (x :: y :: z :: w :: rest) 0) = [x, y] := putShort_bytes x y
  have hsize : putShort (getShort (x :: y :: z :: w :: rest) 2) = [z, w] := putShort_bytes z w
  rw [htype, hsize]
  rfl

theorem read_tagBytes (type : UInt16) {v : Bytes} (hv : v.length < 2 ^ 16) (rest : Bytes) :
    getShort (tagBytes type v ++ rest) 0 = type ∧
      (getShort (tagBytes type v ++ rest) 2).toNat = v.length ∧
      (tagBytes type v ++ rest).drop TAG_HDR_SIZE = v ++ rest := by
  have hsize : getShort (tagBytes type v ++ rest) 2 = v.length.toUInt16 := by
    rw [show (2 : Nat) = 2 + 0 from rfl, ← getShort_drop]
    exact getShort_putShort _ (v ++ rest)
  refine ⟨?_, ?_, rfl⟩
  · rw [tagBytes, List.append_assoc, List.append_assoc]
    exact getShort_putShort _ _
  · rw [hsize]
    exact UInt16.toNat_ofNat_of_lt' hv

theorem CompleteTags.head {bytes : Bytes} {t : UInt16 × Bytes} {tags : List (UInt16 × Bytes)}
    (h : CompleteTags bytes (t :: tags)) :
    TAG_HDR_SIZE + t.2.length ≤ bytes.length ∧ getShort bytes 0 = t.1 ∧
      (getShort bytes 2).toNat = t.2.length ∧
      (bytes.drop TAG_HDR_SIZE).take t.2.length = t.2 ∧
      CompleteTags (bytes.drop (TAG_HDR_SIZE + t.2.length)) tags := by
  obtain ⟨rest, hrest⟩ := h.starts
  rw [payloadOf_cons, List.append_assoc] at hrest
  obtain ⟨htype, hsize, hdrop⟩ :=
    read_tagBytes t.1 (h.lengths t List.mem_cons_self) (payloadOf tags ++ rest)
  rw [hrest] at htype hsize hdrop
  refine ⟨?_, htype, hsize, ?_, ?_, fun t ht => h.types t (List.mem_cons_of_mem _ ht),
    fun t ht => h.lengths t (List.mem_cons_of_mem _ ht)⟩
  · rw [← hrest, List.length_append, length_tagBytes]
    omega
  · rw [hdrop]
    exact List.take_left
  · refine ⟨rest, ?_⟩
    rw [← List.drop_drop, hdrop]
    exact List.drop_left.symm

/-! ## 3. The loop reports the longest list -/

namespace Walk

variable {payload : Bytes} {len pos : Nat} {calls : List TagCall} {r : Int}

theorem getShort_rest {i : Nat} (h : pos + i + 2 ≤ len) :
    getShort ((payload.take len).drop pos) i = getShort payload (pos + i) := by
  rw [getShort_drop, getShort_take h]

theorem complete (h : Walk payload len pos calls r) (hlen : len ≤ payload.length) :
    CompleteTags ((payload.take len).drop pos) (calls.map TagCall.tag) := by
  induction h with
  | leave | endOfList | misfit =>
    exact ⟨List.nil_prefix, fun _ ht => absurd ht List.not_mem_nil,
      fun _ ht => absurd ht List.not_mem_nil⟩
  | @tag pos calls r hpos htype hfit rest ih =>
    have hdr : TAG_HDR_SIZE = 4 := rfl
    have h0 : getShort ((payload.take len).drop pos) 0 = getShort payload pos :=
      getShort_rest (by omega)
    have h2 : getShort ((payload.take len).drop pos) 2 = getShort payload (pos + 2) :=
      getShort_rest (by omega)
    have hsplit := tag_split (q := (payload.take len).drop pos) (by
      rw [h2, List.length_drop, List.length_take]
      omega)
    have hvalue : (((payload.take len).drop pos).drop TAG_HDR_SIZE).take
        (getShort payload (pos + 2)).toNat = (callAt payload pos).value := by
      rw [List.drop_drop, List.drop_take, List.take_take, Nat.min_eq_left (by omega)]
      rfl
    rw [h0, h2, hvalue, List.drop_drop, ← Nat.add_assoc] at hsplit
    refine ⟨?_, ?_, ?_⟩
    · rw [hsplit]
      exact (List.prefix_append_right_inj _).mpr ih.starts
    · intro t ht
      rcases List.mem_cons.mp ht with rfl | ht
      · exact htype
      · exact ih.types t ht
    · intro t ht
      rcases List.mem_cons.mp ht with rfl | ht
      · exact Nat.lt_of_le_of_lt (List.length_take_le _ _) (UInt16.toNat_lt _)
      · exact ih.lengths t ht

theorem reports_head {t : UInt16 × Bytes} {tags : List (UInt16 × Bytes)}
    (hc : CompleteTags ((payload.take len).drop pos) (t :: tags)) :
    pos + (getShort payload (pos + 2)).toNat + TAG_HDR_SIZE ≤ len ∧
      getShort payload pos ≠ TAG_END_OF_LIST ∧ (callAt payload pos).tag = t ∧
      CompleteTags ((payload.take len).drop
        (pos + TAG_HDR_SIZE + (getShort payload (pos + 2)).toNat)) tags := by
  have hdr : TAG_HDR_SIZE = 4 := rfl
  obtain ⟨hroom, htype, hsize, hvalue, htail⟩ := hc.head
  have hlen : ((payload.take len).drop pos).length ≤ len - pos := by
    rw [List.length_drop]
    exact Nat.sub_le_sub_right (List.length_take_le _ _) _
  rw [getShort_rest (by omega)] at htype hsize
  rw [List.drop_drop, List.drop_take, List.take_take, Nat.min_eq_left (by omega)] at hvalue
  rw [List.drop_drop, ← Nat.add_assoc] at htail
  rw [hsize]
  refine ⟨by omega, ?_, Prod.ext htype ?_, htail⟩
  · rw [show getShort payload pos = t.1 from htype]
    exact hc.types t List.mem_cons_self
  · show (payload.drop (pos + TAG_HDR_SIZE)).take (getShort payload (pos + 2)).toNat = t.2
    rw [hsize, hvalue]

/-- **Every complete list is a beginning of the calls**: the loop goes on as long as there is a
    complete tag. -/
theorem longest (h : Walk payload len pos calls r) {tags : List (UInt16 × Bytes)}
    (hc : CompleteTags ((payload.take len).drop pos) tags) : tags <+: calls.map TagCall.tag := by
  induction h generalizing tags with
  | leave hpos =>
    cases tags with
    | nil => exact List.nil_prefix
    | cons t tags =>
      have hfits := (reports_head hc).1
      have hdr : TAG_HDR_SIZE = 4 := rfl
      omega
  | endOfList hpos htype =>
    cases tags with
    | nil => exact List.nil_prefix
    | cons t tags => exact absurd htype (reports_head hc).2.1
  | misfit hpos htype hfit =>
    cases tags with
    | nil => exact List.nil_prefix
    | cons t tags => exact absurd (reports_head hc).1 (Nat.not_le.mpr hfit)
  | @tag pos calls r hpos htype hfit rest ih =>
    cases tags with
    | nil => exact List.nil_prefix
    | cons t tags =>
      obtain ⟨-, -, htag, htail⟩ := reports_head hc
      rw [List.map_cons, htag]
      exact List.cons_prefix_cons.mpr ⟨rfl, ih htail⟩

/-- The calls of the whole loop are the longest list of tags in the declared bytes. -/
theorem longestTags (h : Walk payload len 0 calls r) (hlen : len ≤ payload.length) :
    LongestTags (payload.take len) (calls.map TagCall.tag) :=
  ⟨h.complete hlen, fun _ hc => h.longest hc⟩

end Walk

/-! ## 4. `parsePacket` -/

/-- `parsePacket` returns `r` and makes the calls, in this order, whatever function it is given. -/
def Makes (packet : PPPoEPacket) (calls : List TagCall) (r : Int) : Prop :=
  ∀ (σ : Type) (func : UInt16 → UInt16 → Bytes → σ → σ) (s : σ),
    parsePacket func packet s = (r, calls.foldl (fun s c => func c.type c.length c.data s) s)

/-- What a callback gets to see. -/
def TagCall.report (c : TagCall) : UInt16 × UInt16 × Bytes := (c.type, c.length, c.value)

theorem foldl_noted (calls noted : List TagCall) :
    calls.foldl (fun s c => s ++ [TagCall.mk c.type c.length c.data]) noted = noted ++ calls := by
  induction calls generalizing noted with
  | nil => exact (List.append_nil noted).symm
  | cons c calls ih =>
    rw [List.foldl_cons, ih, List.append_assoc]
    rfl

theorem Makes.unique {packet : PPPoEPacket} {a b : List TagCall} {r r' : Int}
    (ha : Makes packet a r) (hb : Makes packet b r') : a = b := by
  have h := (ha _ (fun type length data s => s ++ [TagCall.mk type length data]) []).symm.trans
    (hb _ _ [])
  have hcalls := (Prod.ext_iff.mp h).2
  dsimp only at hcalls
  rwa [foldl_noted, foldl_noted] at hcalls

/-- The tests before the loop. -/
def PPPoEPacket.Parsed (packet : PPPoEPacket) : Prop :=
  packet.ver = 1 ∧ packet.type = 1 ∧ packet.length.toNat ≤ ETH_JUMBO_LEN - PPPOE_OVERHEAD

theorem makes_of_walk (packet : PPPoEPacket) {calls : List TagCall} {r : Int}
    (hp : packet.Parsed) (h : Walk packet.payload packet.length.toNat 0 calls r) :
    Makes packet calls r := by
  intro σ func s
  unfold parsePacket
  dsimp only
  rw [if_neg (not_not.mpr hp.1), if_neg (not_not.mpr hp.2.1), if_neg (Nat.not_lt.mpr hp.2.2)]
  exact h.parseLoop func (by omega) s

theorem makes_nothing (packet : PPPoEPacket) (hp : ¬ packet.Parsed) : Makes packet [] (-1) := by
  intro σ func s
  unfold parsePacket
  dsimp only
  by_cases hver : packet.ver = 1
  · by_cases htype : packet.type = 1
    · rw [if_neg (not_not.mpr hver), if_neg (not_not.mpr htype),
        if_pos (Nat.not_le.mp fun hlen => hp ⟨hver, htype, hlen⟩)]
      rfl
    · rw [if_neg (not_not.mpr hver), if_pos htype]
      rfl
  · rw [if_pos hver]
    rfl

theorem report_callAt {payload : Bytes} {i : Nat}
    (h : i + TAG_HDR_SIZE + (getShort payload (i + 2)).toNat ≤ payload.length) :
    (callAt payload i).report = ((callAt payload i).tag.1,
      (callAt payload i).tag.2.length.toUInt16, (callAt payload i).tag.2) := by
  have hvalue : (callAt payload i).value.length = (getShort payload (i + 2)).toNat := by
    show ((payload.drop (i + TAG_HDR_SIZE)).take (getShort payload (i + 2)).toNat).length = _
    rw [List.length_take, List.length_drop]
    omega
  have hlength : (callAt payload i).value.length.toUInt16 = (callAt payload i).length := by
    rw [hvalue]
    exact UInt16.ofNat_toNat
  show _ = ((callAt payload i).type, (callAt payload i).value.length.toUInt16, _)
  rw [hlength]
  rfl

theorem Walk.reports {payload : Bytes} {len : Nat} {calls : List TagCall} {r : Int}
    (h : Walk payload len 0 calls r) (hlen : len ≤ payload.length) :
    calls.map TagCall.report =
      (calls.map TagCall.tag).map fun t => (t.1, t.2.length.toUInt16, t.2) := by
  rw [List.map_map]
  refine List.map_congr_left fun c hc => ?_
  obtain ⟨i, rfl, hi⟩ := h.inside hc
  exact report_callAt (Nat.le_trans hi hlen)

theorem reports_agree {packet : PPPoEPacket} {memory : Bytes} {calls calls' : List TagCall}
    {r r' : Int} (hlen : packet.length.toNat ≤ packet.payload.length) (hp : packet.Parsed)
    (hmem : memory.take packet.length.toNat = packet.payload.take packet.length.toNat)
    (h : Walk packet.payload packet.length.toNat 0 calls r)
    (h' : Makes { packet with payload := memory } calls' r') :
    calls'.map TagCall.report = calls.map TagCall.report := by
  obtain ⟨calls'', r'', hw⟩ := Walk.total memory packet.length.toNat 0
  have hsame : calls' = calls'' :=
    h'.unique (makes_of_walk { packet with payload := memory } hp hw)
  have hlen' : packet.length.toNat ≤ memory.length := by
    have heq := congrArg List.length hmem
    rw [List.length_take, List.length_take] at heq
    omega
  have htags : calls''.map TagCall.tag = calls.map TagCall.tag :=
    (hw.longestTags hlen').unique (hmem ▸ h.longestTags hlen)
  rw [hsame, hw.reports hlen', h.reports hlen, htags]

/-- **The callbacks are the longest list of complete tags.** `parsePacket` turns a packet down
    without a callback if its version, type or length is out of order. Otherwise its loop leaves,
    every value lies in the declared bytes, and the memory behind them changes no callback. -/
theorem parsePacket_reports_longest (packet : PPPoEPacket)
    (hlen : packet.length.toNat ≤ packet.payload.length) :
    ∃ calls r, Makes packet calls r ∧
      (packet.Parsed → Walk packet.payload packet.length.toNat 0 calls r ∧
        LongestTags (packet.payload.take packet.length.toNat) (calls.map TagCall.tag)) ∧
      (¬ packet.Parsed → calls = [] ∧ r = -1) ∧
      (∀ c ∈ calls, ∃ i, c = callAt packet.payload i ∧
        i + TAG_HDR_SIZE + c.length.toNat ≤ packet.length.toNat) ∧
      (∀ memory calls' r',
        memory.take packet.length.toNat = packet.payload.take packet.length.toNat →
        Makes { packet with payload := memory } calls' r' →
        calls'.map TagCall.report = calls.map TagCall.report) := by
  by_cases hp : packet.Parsed
  · obtain ⟨calls, r, hw⟩ := Walk.total packet.payload packet.length.toNat 0
    exact ⟨calls, r, makes_of_walk packet hp hw, fun _ => ⟨hw, hw.longestTags hlen⟩,
      fun hn => absurd hp hn, fun c hc => hw.inside hc,
      fun _ _ _ hmem h' => reports_agree hlen hp hmem hw h'⟩
  · refine ⟨[], -1, makes_nothing packet hp, fun h => absurd h hp, fun _ => ⟨rfl, rfl⟩,
      fun c hc => absurd hc List.not_mem_nil, ?_⟩
    intro memory calls' r' _ h'
    rw [h'.unique (makes_nothing { packet with payload := memory } hp)]

/-- A Service-Name tag, cut-off bytes of another one, and memory behind the packet. -/
def clippedPacket : PPPoEPacket where
  dest := []
  source := []
  ver := 1
  type := 1
  code := CODE_PADI
  session := 0
  length := 7
  payload := tagBytes TAG_SERVICE_NAME [] ++ [1, 3, 0, 2, 9, 9]

theorem clipped_tag_not_reported :
    ∃ calls r, Makes clippedPacket calls r ∧ Walk clippedPacket.payload 7 0 calls r ∧
      LongestTags (clippedPacket.payload.take 7) (calls.map TagCall.tag) := by
  obtain ⟨calls, r, hmakes, hw, -⟩ := parsePacket_reports_longest clippedPacket (by decide)
  obtain ⟨hwalk, hlongest⟩ := hw ⟨rfl, rfl, by decide⟩
  exact ⟨calls, r, hmakes, hwalk, hlongest⟩

/-- An empty Service-Name tag in a packet of 1503 declared bytes. -/
def overlongPacket : PPPoEPacket :=
  { clippedPacket with
    length := 1503, payload := tagBytes TAG_SERVICE_NAME [] ++ List.replicate 1499 0 }

/-- The tag is complete, and there is no callback. -/
theorem overlong_packet_not_parsed :
    overlongPacket.length.toNat ≤ overlongPacket.payload.length ∧
      CompleteTags (overlongPacket.payload.take overlongPacket.length.toNat)
        [(TAG_SERVICE_NAME, [])] ∧
      Makes overlongPacket [] (-1) := by
  have hlen : overlongPacket.payload.length = 1503 := by
    show (tagBytes TAG_SERVICE_NAME [] ++ List.replicate 1499 0).length = 1503
    rw [List.length_append, List.length_replicate, length_tagBytes]
    rfl
  refine ⟨hlen.ge, ⟨?_, ?_, ?_⟩, ?_⟩
  · rw [show overlongPacket.length.toNat = 1503 from rfl, List.take_of_length_le hlen.le]
    exact ⟨List.replicate 1499 0, rfl⟩
  · decide
  · decide
  · exact makes_nothing _ fun h => absurd h.2.2 (by decide)

end OpenBras
