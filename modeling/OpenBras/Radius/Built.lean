/-
  File:      OpenBras/Radius/Built.lean
  Subject:   RADIUS MESSAGES AS THEY ARE BUILT: `add`, `calcAuthenticator`, and whether a receiver
             finds the attributes again.

  The buffer of a message is its header, the entries of its attributes and what lies behind them
  (`Laid`). `add` puts one more entry behind the others; `setIdentifier` and the authenticator are
  writes into the header, and `hideUserPassword` writes over the value of the password, which it
  finds by the lengths of the attributes before it. Of an Access-Request with one password the
  receiver gets the list that was built (`request_read_back`).

  `add` looks for room with the length in 16 bits, and `encode` writes it in 8. An attribute of 256
  bytes or more is appended under a wrong length, and the message cannot be read any more
  (`add_parses_iff`).
-/
import OpenBras.Radius.Received

namespace OpenBras

open Wire
open CRadiusAttribute (entryOf)

namespace CRadiusMessage

variable {e : RadiusEnv} {secret : Bytes} {m : CRadiusMessage} {a : CRadiusAttribute}

/-! ## 1. The buffer of a message -/

def header (code id : UInt8) (n : Nat) (auth : Bytes) : Bytes :=
  [code, id] ++ putShort n.toUInt16 ++ auth

/-- The header, the attributes, and what lies behind the message. -/
structure Laid (m : CRadiusMessage) (code id : UInt8) (auth body rest : Bytes) : Prop where
  sixteen : auth.length = RadiusAuthenticatorLength
  size : RadiusPacketHeaderSize + body.length ≤ RadiusMaxPacketSize
  data : m.myData = header code id (RadiusPacketHeaderSize + body.length) auth ++ body ++ rest

theorem header_append (code id : UInt8) (n : Nat) (auth body rest : Bytes) :
    header code id n auth ++ body ++ rest =
      ([code, id] ++ putShort n.toUInt16) ++ auth ++ (body ++ rest) :=
  List.append_assoc _ _ _

theorem memcpy_length (code id : UInt8) (n n' : Nat) (auth body rest : Bytes) :
    memcpy (header code id n auth ++ body ++ rest) 2 (putShort n'.toUInt16) =
      header code id n' auth ++ body ++ rest :=
  memcpy_middle (p := [code, id]) (q := putShort n.toUInt16) (r := auth ++ body ++ rest) rfl

variable {id : UInt8} {auth : Bytes} {xs : List (UInt8 × Bytes)} {as : List CRadiusAttribute}
  {p : CRadiusAttribute} {rest : Bytes}

theorem length_header {code : UInt8} {n : Nat} (h : auth.length = RadiusAuthenticatorLength) :
    (header code id n auth).length = RadiusPacketHeaderSize := by
  rw [header, List.length_append, h]
  rfl

namespace Laid

variable {code id : UInt8} {auth body rest : Bytes}

theorem code_eq (h : Laid m code id auth body rest) : m.code = code := by
  rw [CRadiusMessage.code, h.data]
  rfl

theorem authenticator_eq (h : Laid m code id auth body rest) : m.authenticator = auth := by
  rw [authenticator, h.data]
  exact (congrArg (List.take _) (List.append_assoc auth body rest)).trans (List.take_left' h.sixteen)

theorem msgLen_eq (h : Laid m code id auth body rest) :
    m.msgLen = RadiusPacketHeaderSize + body.length := by
  have hsize := h.size
  have hmax : RadiusMaxPacketSize = 4096 := rfl
  rw [msgLen, h.data]
  change (getShort ((putShort _ ++ auth) ++ body ++ rest) 0).toNat = _
  rw [List.append_assoc, List.append_assoc, getShort_putShort]
  exact Nat.mod_eq_of_lt (by omega)

theorem take_eq (h : Laid m code id auth body rest) :
    m.myData.take m.msgLen = header code id (RadiusPacketHeaderSize + body.length) auth ++ body := by
  rw [h.data, h.msgLen_eq]
  exact List.take_left' (by rw [List.length_append, length_header h.sixteen])

theorem setIdentifier (h : Laid m code id auth body rest) (id' : UInt8) :
    Laid (m.setIdentifier id') code id' auth body rest := by
  refine ⟨h.sixteen, h.size, ?_⟩
  rw [CRadiusMessage.setIdentifier, h.data]
  exact memcpy_middle (p := [code]) (q := [id]) (s := [id']) rfl

theorem setAuthenticator (h : Laid m code id auth body rest) {auth' : Bytes}
    (ha : auth'.length = RadiusAuthenticatorLength) :
    Laid (m.setAuthenticator auth') code id auth' body rest := by
  refine ⟨ha, h.size, ?_⟩
  rw [CRadiusMessage.setAuthenticator, h.data, header_append, header_append]
  exact memcpy_middle (p := [code, id] ++ putShort _) (ha.trans h.sixteen.symm)

end Laid

/-- A message in its buffer: the length in its header is one of a message, and those bytes are
    there. -/
structure InBuffer (m : CRadiusMessage) : Prop where
  min : RadiusMinPacketSize ≤ m.msgLen
  max : m.msgLen ≤ RadiusMaxPacketSize
  long : m.msgLen ≤ m.myData.length

theorem InBuffer.laid (h : m.InBuffer) :
    Laid m m.code m.identifier m.authenticator
      ((m.myData.take m.msgLen).drop RadiusPacketHeaderSize) (m.myData.drop m.msgLen) := by
  have hmin : 20 ≤ m.msgLen := h.min
  have hlong := h.long
  have hbody : RadiusPacketHeaderSize +
      ((m.myData.take m.msgLen).drop RadiusPacketHeaderSize).length = m.msgLen := by
    rw [List.length_drop, List.length_take, RadiusPacketHeaderSize]
    omega
  have hhead : m.myData.take RadiusPacketHeaderSize =
      header m.code m.identifier m.msgLen m.authenticator := by
    unfold CRadiusMessage.code identifier msgLen authenticator
    obtain ⟨c, i, x, y, q, hdata⟩ := exists_four (show 4 ≤ m.myData.length by omega)
    rw [hdata, header, Nat.toUInt16_eq, UInt16.ofNat_toNat]
    show _ = [c, i] ++ putShort (x.toUInt16 <<< 8 ||| y.toUInt16) ++ q.take 16
    rw [putShort_bytes]
    rfl
  refine ⟨?_, by rw [hbody]; exact h.max, ?_⟩
  · rw [authenticator, List.length_take, List.length_drop, RadiusAuthenticatorLength]
    omega
  rw [hbody, ← hhead]
  have hsplit : m.myData.take RadiusPacketHeaderSize ++
      (m.myData.take m.msgLen).drop RadiusPacketHeaderSize = m.myData.take m.msgLen := by
    have htake := List.take_append_drop RadiusPacketHeaderSize (m.myData.take m.msgLen)
    rwa [List.take_take, Nat.min_eq_left (show RadiusPacketHeaderSize ≤ m.msgLen from hmin)]
      at htake
  rw [hsplit, List.take_append_drop]

/-! ## 2. `add` -/

namespace Laid

variable {code id : UInt8} {auth body rest : Bytes}

theorem laid_ofCode (u : Uninitialized) (h : ofCode u RP_ACCESS_REQUEST = .ok m) :
    Laid m RP_ACCESS_REQUEST 0 (List.replicate RadiusAuthenticatorLength 0) []
      (u.myData.drop RadiusPacketHeaderSize) := by
  refine ⟨List.length_replicate, by decide, ?_⟩
  cases h
  exact memcpy_eq (Nat.zero_le _) _

theorem add_refused (h : Laid m code id auth body rest)
    (hfull : RadiusMaxPacketSize < RadiusPacketHeaderSize + body.length + a.length) :
    m.add a = (false, m) := by
  rw [CRadiusMessage.add, h.msgLen_eq]
  exact if_pos hfull

/-- **`add` puts the entry of the attribute behind the others.** -/
theorem add_appends (h : Laid m code id auth body rest) (ha : a.Made)
    (hroom : RadiusPacketHeaderSize + body.length + a.length ≤ RadiusMaxPacketSize) :
    ∃ m', m.add a = (true, m') ∧ m'.myAttributes = m.myAttributes ++ [a] ∧
      Laid m' code id auth (body ++ Tlv.bytes a.entryOf) (rest.drop a.length) := by
  have hlength : (Tlv.bytes a.entryOf).length = a.length := by
    rw [Tlv.length_bytes, a.length_eq ha]
  have hencode : a.encode.take a.length = Tlv.bytes a.entryOf := by
    rw [a.encode_eq ha (by omega), ← hlength, List.take_length]
  have hbody : RadiusPacketHeaderSize + (body ++ Tlv.bytes a.entryOf).length =
      RadiusPacketHeaderSize + body.length + a.length := by
    rw [List.length_append, hlength, Nat.add_assoc]
  have hadd : m.add a = (true, { m with
      myData := memcpy (memcpy m.myData m.msgLen (a.encode.take a.length)) 2
        (putShort (m.msgLen + a.length).toUInt16),
      myAttributes := m.myAttributes ++ [a] }) := by
    rw [CRadiusMessage.add]
    exact if_neg (by rw [h.msgLen_eq]; omega)
  refine ⟨_, hadd, rfl, h.sixteen, by omega, ?_⟩
  have hfront : (header code id (RadiusPacketHeaderSize + body.length) auth ++ body).length =
      RadiusPacketHeaderSize + body.length := by
    rw [List.length_append, length_header h.sixteen]
  have hcopy : memcpy m.myData m.msgLen (Tlv.bytes a.entryOf) =
      header code id (RadiusPacketHeaderSize + body.length) auth ++ body ++ Tlv.bytes a.entryOf ++
        rest.drop a.length := by
    have hbehind := memcpy_append (header code id (RadiusPacketHeaderSize + body.length) auth ++ body)
      rest (Tlv.bytes a.entryOf)
    rw [hfront, hlength, ← h.data] at hbehind
    rw [h.msgLen_eq]
    exact hbehind
  show memcpy (memcpy m.myData m.msgLen _) 2 _ = _
  rw [hencode, hcopy, hbody, h.msgLen_eq, List.append_assoc (header _ _ _ _), memcpy_length]

end Laid

/-! ## 3. What a receiver finds -/

variable (e) (secret) in
/-- The attribute as `decodeAttributes` gives it back: it takes a password to be hidden. -/
def seen (m : CRadiusMessage) (a : CRadiusAttribute) : CRadiusAttribute :=
  if a.myType = RA_USER_PASSWORD then
    { a with myValue := decodeBlocks e secret (a.myValue.length / 16) m.authenticator a.myValue }
  else a

variable (secret) in
/-- The entry of the attribute is not refused. -/
structure Readable (m : CRadiusMessage) (a : CRadiusAttribute) : Prop where
  vendor : a.myType = RA_VENDOR_SPECIFIC → 3 ≤ a.myValue.length
  password : a.myType = RA_USER_PASSWORD → m.code = RP_ACCESS_REQUEST ∧ secret.length < 256

theorem ofData_whole {type : UInt8} {value : Bytes} {vendorId : UInt32}
    (hvendor : (type ≠ RA_VENDOR_SPECIFIC ∧ vendorId = 0) ∨
      (type = RA_VENDOR_SPECIFIC ∧ vendorId ≠ 0))
    (hblocks : type = RA_USER_PASSWORD → value.length % 16 = 0) :
    CRadiusAttribute.ofData type value vendorId =
      .ok { myType := type, myValue := value, myVendorId := vendorId } := by
  unfold CRadiusAttribute.ofData assert
  rw [if_pos hvendor]
  exact if_neg fun h => h.2 (hblocks h.1)

/-- **The entry of an attribute gives the attribute.** -/
theorem decodeEntry_entryOf (ha : a.Made) (hread : Readable secret m a) :
    decodeEntry e secret m a.entryOf = .ok (some (seen e secret m a)) := by
  have h4 : (putLong a.myVendorId).length = 4 := rfl
  unfold decodeEntry seen entryOf
  dsimp only
  by_cases hv : a.myType = RA_VENDOR_SPECIFIC
  · have hp : a.myType ≠ RA_USER_PASSWORD := by
      rw [hv]
      decide
    have hlong := hread.vendor hv
    rw [if_pos hv, if_pos hv, List.length_append, if_pos (by omega), if_neg hp, getLong_putLong,
      List.drop_left' h4, ofData_whole ha.vendor fun hp' => absurd hp' hp]
    rfl
  rw [if_neg hv, if_neg hv]
  have hid : a.myVendorId = 0 := by
    obtain ⟨-, hid⟩ | ⟨hv', -⟩ := ha.vendor
    · exact hid
    · exact absurd hv' hv
  by_cases hp : a.myType = RA_USER_PASSWORD
  · obtain ⟨hcode, hsecret⟩ := hread.password hp
    have hmod := ha.blocks hp
    have hdecoded : decodeUserPassword e secret a.myValue m = .ok _ :=
      decodeUserPassword_eq_ok.mpr ⟨hsecret, hmod, rfl⟩
    have hlength := length_decodeUserPassword hdecoded
    rw [if_pos hp, if_pos hp, if_neg (fun h => h hcode), if_neg (fun h => h hmod), hdecoded]
    show some <$> CRadiusAttribute.ofData _ _ 0 = _
    rw [ofData_whole (.inl ⟨hv, rfl⟩) fun _ => by rw [hlength]; exact hmod,
      hid]
    rfl
  · rw [if_neg hp, if_neg hp, ofData_whole (.inl ⟨hv, rfl⟩) fun hp' => absurd hp' hp, ← hid]
    rfl

theorem decodeList_append (h : decodeList e secret m xs = .ok (0, as)) (ys : List (UInt8 × Bytes)) :
    decodeList e secret m (xs ++ ys) =
      (fun r => (r.1, as ++ r.2)) <$> decodeList e secret m ys := by
  induction xs generalizing as with
  | nil =>
    cases h
    show decodeList e secret m ys = _
    cases decodeList e secret m ys <;> rfl
  | cons x xs ih =>
    obtain ⟨a, as', ha, hrest, rfl⟩ := decodeList_cons_eq_zero h
    rw [List.cons_append, decodeList, ha, ih hrest]
    cases decodeList e secret m ys <;> rfl

theorem decodeList_append_eq_zero {ys : List (UInt8 × Bytes)} {bs : List CRadiusAttribute}
    (h : decodeList e secret m xs = .ok (0, as)) :
    decodeList e secret m (xs ++ ys) = .ok (0, as ++ bs) ↔
      decodeList e secret m ys = .ok (0, bs) := by
  rw [decodeList_append h]
  cases decodeList e secret m ys with
  | error f => exact iff_of_false (fun h => by cases h) (fun h => by cases h)
  | ok r =>
    obtain ⟨r, bs'⟩ := r
    show Except.ok (r, as ++ bs') = Except.ok (0, as ++ bs) ↔ _
    simp only [Except.ok.injEq, Prod.mk.injEq, List.append_cancel_left_eq]

theorem decodeList_entries (has : ∀ a ∈ as, a.Made ∧ Readable secret m a) :
    decodeList e secret m (as.map entryOf) =
      .ok (0, as.map (seen e secret m)) := by
  induction as with
  | nil => rfl
  | cons a as ih =>
    obtain ⟨hmade, hread⟩ := has a List.mem_cons_self
    rw [List.map_cons, decodeList, decodeEntry_entryOf hmade hread,
      ih fun b hb => has b (List.mem_cons_of_mem _ hb)]
    rfl

variable (e) (secret) in
/-- `decodeAttributes` on the bytes of a message: its result and the list it makes. -/
def parse (m : CRadiusMessage) : Except Fault (Int × List CRadiusAttribute) :=
  (fun r => (r.1, r.2.myAttributes)) <$> decodeAttributes e secret { m with myAttributes := [] }

theorem parse_chain (h : Tlv.Chain m.myData RadiusPacketHeaderSize xs m.msgLen) :
    parse e secret m = decodeList e secret m xs := by
  have hloop := @decodeFrom_chain e secret { m with myAttributes := [] } _ _ _ h
  rw [decodeList_attributes] at hloop
  unfold parse decodeAttributes
  rw [show ({ m with myAttributes := [] } : CRadiusMessage).msgLen = m.msgLen from rfl, hloop]
  cases decodeList e secret m xs <;> rfl

namespace Laid

variable {code id : UInt8} {auth body rest : Bytes}

theorem inBuffer (h : Laid m code id auth body rest) : m.InBuffer := by
  have hlen := congrArg List.length h.data
  rw [List.length_append, List.length_append, length_header h.sixteen] at hlen
  have hmsgLen := h.msgLen_eq
  have hsize := h.size
  exact ⟨hmsgLen ▸ Nat.le_add_right _ _, by omega, by omega⟩

theorem chain {xs : List (UInt8 × Bytes)} {more : Bytes}
    (h : Laid m code id auth (Tlv.body xs ++ more) rest) (hxs : ∀ x ∈ xs, Tlv.Short x) :
    Tlv.Chain m.myData RadiusPacketHeaderSize xs
      (RadiusPacketHeaderSize + (Tlv.body xs).length) := by
  have hbody := Tlv.chain_body hxs (header code id (RadiusPacketHeaderSize +
    (Tlv.body xs ++ more).length) auth) (more ++ rest)
  rwa [length_header h.sixteen, ← List.append_assoc, List.append_assoc _ (Tlv.body xs), ← h.data]
    at hbody

end Laid

theorem laid_of_parse (hm : m.InBuffer) (h : parse e secret m = .ok (0, as)) :
    ∃ xs, (∀ x ∈ xs, Tlv.Short x) ∧ decodeList e secret m xs = .ok (0, as) ∧
      Tlv.Chain m.myData RadiusPacketHeaderSize xs m.msgLen ∧
      Laid m m.code m.identifier m.authenticator (Tlv.body xs) (m.myData.drop m.msgLen) := by
  obtain ⟨⟨_, m'⟩, hm', hr⟩ := map_eq_ok.mp h
  obtain ⟨rfl, -⟩ := Prod.mk.inj hr
  obtain ⟨xs, hxs⟩ := chain_of_decodeFrom (m := { m with myAttributes := [] }) hm.min hm.long hm'
  have hbody : Tlv.body xs = (m.myData.take m.msgLen).drop RadiusPacketHeaderSize := by
    rw [List.drop_take]
    exact hxs.body_eq hm.long
  exact ⟨xs, hxs.short, (parse_chain (m := m) hxs).symm.trans h, hxs, hbody ▸ hm.laid⟩

/-! ## 4. Attributes that are too long -/

theorem decodeList_eq_one {zs : List (UInt8 × Bytes)} {b : CRadiusAttribute}
    (h : decodeList e secret m zs = .ok (0, [b])) :
    ∃ z, zs = [z] ∧ decodeEntry e secret m z = .ok (some b) := by
  cases zs with
  | nil => cases h
  | cons z zs =>
    obtain ⟨b', bs, hb, hrest, hbs⟩ := decodeList_cons_eq_zero h
    cases hbs
    cases zs with
    | nil => exact ⟨z, rfl, hb⟩
    | cons z' zs =>
      obtain ⟨_, _, -, -, hnil⟩ := decodeList_cons_eq_zero hrest
      cases hnil

theorem readable_of_decodeEntry (ha : a.Made) {b : CRadiusAttribute}
    (h : decodeEntry e secret m a.entryOf = .ok (some b)) : Readable secret m a := by
  have h4 : (putLong a.myVendorId).length = 4 := rfl
  unfold decodeEntry entryOf at h
  dsimp only at h
  refine ⟨fun hv => ?_, fun hp => ?_⟩
  · rw [if_pos hv, if_pos hv, List.length_append] at h
    split at h
    · omega
    · cases h
  · have hv : a.myType ≠ RA_VENDOR_SPECIFIC := by
      rw [hp]
      decide
    rw [if_neg hv, if_neg hv, if_pos hp] at h
    split at h
    · cases h
    rename_i hcode
    rw [if_neg fun hmod => hmod (ha.blocks hp)] at h
    obtain ⟨d, hd, -⟩ := bind_eq_ok.mp h
    exact ⟨Decidable.not_not.mp hcode, (decodeUserPassword_eq_ok.mp hd).1⟩

theorem made_of_ofData {type : UInt8} {value : Bytes} {vendorId : UInt32}
    (h : CRadiusAttribute.ofData type value vendorId = .ok a) : a.Made := by
  obtain ⟨hvendor, rfl⟩ := CRadiusAttribute.ofData_eq_ok h
  refine ⟨hvendor, fun hp => ?_⟩
  change type = RA_USER_PASSWORD at hp
  show List.length (if _ then _ else _) % 16 = 0
  split
  · rename_i hmod
    have hmax : RadiusMaxPacketSize = 4096 := rfl
    rw [CRadiusData, List.length_take, List.length_append, List.length_replicate]
    omega
  · rename_i hmod
    exact Decidable.not_not.mp fun h => hmod ⟨hp, h⟩

/-- **`add` refuses an attribute, or the message can be read as before with the attribute at its
    end, exactly if there is no room, or if the length fits into its byte and `decodeAttributes`
    does not turn such an attribute down.** -/
theorem add_parses_iff (e : RadiusEnv) (secret : Bytes) {type : UInt8} {value : Bytes}
    {vendorId : UInt32} {prev : List CRadiusAttribute}
    (ha : CRadiusAttribute.ofData type value vendorId = .ok a) (hm : m.InBuffer)
    (hparse : parse e secret m = .ok (0, prev)) :
    (m.add a = (false, m) ∨ ∃ m', m.add a = (true, m') ∧
      parse e secret m' = .ok (0, prev ++ [seen e secret m a])) ↔
    RadiusMaxPacketSize < m.msgLen + a.length ∨ (a.length ≤ 255 ∧ Readable secret m a) := by
  have hmade := made_of_ofData ha
  obtain ⟨xs, hshort, hlist, -, hlaid⟩ := laid_of_parse hm hparse
  rw [hlaid.msgLen_eq]
  by_cases hfull : RadiusMaxPacketSize <
      RadiusPacketHeaderSize + (Tlv.body xs).length + a.length
  · exact iff_of_true (.inl (hlaid.add_refused hfull)) (.inl hfull)
  obtain ⟨m', hadd, -, hlaid'⟩ := hlaid.add_appends hmade (Nat.not_lt.mp hfull)
  have hlist' : decodeList e secret m' xs = .ok (0, prev) := by
    rw [decodeList_congr hlaid'.code_eq hlaid'.authenticator_eq, hlist]
  have hentry : decodeEntry e secret m' a.entryOf = decodeEntry e secret m a.entryOf :=
    decodeEntry_congr hlaid'.code_eq hlaid'.authenticator_eq a.entryOf
  have hend : m'.msgLen = RadiusPacketHeaderSize + (Tlv.body xs).length + (2 + a.entryOf.2.length) := by
    rw [hlaid'.msgLen_eq, List.length_append, Tlv.length_bytes, Nat.add_assoc]
  have hlength := a.length_eq hmade
  -- Where the new entry stands, if its length fits.
  have hat : a.length ≤ 255 → Tlv.At m'.myData (RadiusPacketHeaderSize + (Tlv.body xs).length)
      a.entryOf := by
    intro hfits
    have hbytes := Tlv.At.of_bytes (e := a.entryOf) (show 2 + a.entryOf.2.length < 256 by omega)
      (header m.code m.identifier (RadiusPacketHeaderSize +
        (Tlv.body xs ++ Tlv.bytes a.entryOf).length) m.authenticator ++ Tlv.body xs)
      ((m.myData.drop m.msgLen).drop a.length)
    rwa [List.append_assoc _ (Tlv.body xs), ← hlaid'.data, List.length_append,
      length_header hlaid'.sixteen] at hbytes
  constructor
  · rintro (hrefused | ⟨m'', hadd', hparse'⟩)
    · cases hadd.symm.trans hrefused
    cases hadd.symm.trans hadd'
    obtain ⟨ys, -, hys, hchain, -⟩ := laid_of_parse hlaid'.inBuffer hparse'
    obtain ⟨zs, rfl, hzs⟩ := (hlaid'.chain hshort).exists_append hchain (by omega)
    obtain ⟨z, rfl, hz⟩ := decodeList_eq_one ((decodeList_append_eq_zero hlist').mp hys)
    have hsize := hzs.length_eq
    rw [Tlv.body_cons, Tlv.body_nil, List.append_nil, Tlv.length_bytes] at hsize
    cases hzs with
    | cons head rest =>
      have hz' : 2 + z.2.length < 256 := head.short
      have hfits : a.length ≤ 255 := by omega
      obtain rfl : z = a.entryOf := head.eq_entryAt.trans (hat hfits).eq_entryAt.symm
      exact .inr ⟨hfits, readable_of_decodeEntry hmade (hentry.symm.trans hz)⟩
  · rintro (hfull' | ⟨hfits, hread⟩)
    · exact absurd hfull' hfull
    refine .inr ⟨m', hadd, ?_⟩
    have hlast := Tlv.Chain.cons (hat hfits) (.nil _)
    rw [← hend] at hlast
    have hone : decodeList e secret m' [a.entryOf] = .ok (0, [seen e secret m a]) := by
      rw [decodeList, hentry, decodeEntry_entryOf hmade hread]
      rfl
    rw [parse_chain ((hlaid'.chain hshort).append hlast)]
    exact (decodeList_append_eq_zero hlist').mpr hone

/-- An Access-Request without attributes, and two names of a user. -/
def bareRequest : CRadiusMessage where
  myRequestAuthenticator := List.replicate RadiusAuthenticatorLength 0
  myAttributes := []
  myData := header RP_ACCESS_REQUEST 0 20 (List.replicate RadiusAuthenticatorLength 0)

def nameOf (value : Bytes) : CRadiusAttribute := { myType := 1, myValue := value }

theorem bareRequest_inBuffer : bareRequest.InBuffer := ⟨by decide, by decide, by decide⟩

theorem bareRequest_parse (e : RadiusEnv) (secret : Bytes) :
    parse e secret bareRequest = .ok (0, []) := by
  have hchain : Tlv.Chain bareRequest.myData RadiusPacketHeaderSize [] bareRequest.msgLen := by
    rw [show bareRequest.msgLen = RadiusPacketHeaderSize by decide]
    exact .nil _
  exact parse_chain hchain

theorem bob_added :
    bareRequest.add (nameOf (ascii "bob")) = (false, bareRequest) ∨
      ∃ m', bareRequest.add (nameOf (ascii "bob")) = (true, m') ∧
        parse sampleEnv (ascii "key") m' =
          .ok (0, [] ++ [seen sampleEnv (ascii "key") bareRequest
            (nameOf (ascii "bob"))]) := by
  have hname : CRadiusAttribute.ofData 1 (ascii "bob") 0 = .ok (nameOf (ascii "bob")) := rfl
  exact (add_parses_iff sampleEnv (ascii "key") hname bareRequest_inBuffer
    (bareRequest_parse _ _)).mpr
    (.inr ⟨by decide, fun h => absurd h (by decide), fun h => absurd h (by decide)⟩)

/-- A name of 254 bytes: `add` takes it, with 0 in its length byte. -/
theorem long_name_not_parsed :
    CRadiusAttribute.ofData 1 (List.replicate 254 97) 0 = .ok (nameOf (List.replicate 254 97)) ∧
    ofCode {} RP_ACCESS_REQUEST = .ok bareRequest ∧
    (bareRequest.add (nameOf (List.replicate 254 97))).1 = true ∧
    parse sampleEnv (ascii "key")
      (bareRequest.add (nameOf (List.replicate 254 97))).2 = .ok (-1, []) := by
  refine ⟨rfl, rfl, by decide +kernel, ?_⟩
  unfold parse decodeAttributes
  rw [decodeFrom_malformed (by decide +kernel) (.inl (by decide +kernel))]
  rfl

/-! ## 5. An Access-Request and its receiver -/

/-- The attribute with a password filled up with zeros to whole blocks. -/
def padded (o : CRadiusAttribute) : CRadiusAttribute :=
  if o.myType = RA_USER_PASSWORD then
    { o with myValue := o.myValue ++ List.replicate ((16 - o.myValue.length % 16) % 16) 0 }
  else o

/-- Access-Requests as they are built. `os` is what the attributes were constructed from. -/
inductive Builds (u : Uninitialized) : List CRadiusAttribute → CRadiusMessage → Prop where
  | start {m : CRadiusMessage} (h : ofCode u RP_ACCESS_REQUEST = .ok m) : Builds u [] m
  | add {os : List CRadiusAttribute} {o a : CRadiusAttribute} {m m' : CRadiusMessage}
      (before : Builds u os m)
      (hattr : CRadiusAttribute.ofData o.myType o.myValue o.myVendorId = .ok a)
      (hadd : m.add a = (true, m')) : Builds u (os ++ [o]) m'
  | identify {os : List CRadiusAttribute} {m : CRadiusMessage} (before : Builds u os m)
      (id : UInt8) : Builds u os (m.setIdentifier id)

/-- What an Access-Request is to consist of. -/
structure Sendable (os : List CRadiusAttribute) : Prop where
  representable : ∀ o ∈ os, (padded o).length ≤ 255
  vendor : ∀ o ∈ os, o.myType = RA_VENDOR_SPECIFIC → o.myVendorId ≠ 0 ∧ 3 ≤ o.myValue.length
  nas : ∃ o ∈ os, o.myType = RA_NAS_IP_ADDRESS
  nasIp : ∀ o ∈ os, o.myType = RA_NAS_IP_ADDRESS → o.myValue.length = 4
  password : os.countP (fun o => o.myType = RA_USER_PASSWORD) = 1

theorem padded_type (o : CRadiusAttribute) : (padded o).myType = o.myType := by
  unfold padded
  split <;> rfl

theorem eq_padded {o : CRadiusAttribute} (hfits : (padded o).length ≤ 255)
    (h : CRadiusAttribute.ofData o.myType o.myValue o.myVendorId = .ok a) : a = padded o := by
  obtain ⟨-, rfl⟩ := CRadiusAttribute.ofData_eq_ok h
  unfold padded at hfits ⊢
  by_cases hp : o.myType = RA_USER_PASSWORD
  · rw [if_pos hp] at hfits ⊢
    unfold CRadiusAttribute.length at hfits
    rw [List.length_append, List.length_replicate] at hfits
    refine congrArg (fun v => CRadiusAttribute.mk o.myType v o.myVendorId) ?_
    have hmax : RadiusMaxPacketSize = 4096 := rfl
    by_cases hmod : o.myValue.length % 16 = 0
    · rw [if_neg fun h => h.2 hmod, hmod, Nat.sub_zero, Nat.mod_self, List.replicate_zero,
        List.append_nil]
    rw [if_pos ⟨hp, hmod⟩, cRadiusData_of_le _ (by omega),
      Nat.mod_eq_of_lt (show 16 - o.myValue.length % 16 < 16 by omega)]
    refine List.take_of_length_le ?_
    rw [List.length_append, List.length_replicate]
    omega
  · rw [if_neg hp, if_neg fun h => hp h.1]

/-- **A message that is built carries the entries of its attributes.** -/
theorem Builds.laid {u : Uninitialized} {os : List CRadiusAttribute} (h : Builds u os m)
    (hfits : ∀ o ∈ os, (padded o).length ≤ 255) :
    m.myAttributes = os.map padded ∧ (∀ a ∈ os.map padded, a.Made) ∧
      ∃ id rest, Laid m RP_ACCESS_REQUEST id (List.replicate RadiusAuthenticatorLength 0)
        (Tlv.body ((os.map padded).map entryOf)) rest := by
  induction h with
  | start h =>
    refine ⟨?_, fun _ ha => absurd ha List.not_mem_nil, 0, _, Laid.laid_ofCode u h⟩
    cases h
    rfl
  | @add os o a m m' _ hattr hadd ih =>
    obtain ⟨hattrs, hmade, id, rest, hlaid⟩ := ih fun o ho => hfits o (List.mem_append_left _ ho)
    have hpadded := eq_padded (hfits o (by simp)) hattr
    have ha := made_of_ofData hattr
    by_cases hfull : RadiusMaxPacketSize < RadiusPacketHeaderSize +
        (Tlv.body ((os.map padded).map entryOf)).length + a.length
    · cases hadd.symm.trans (hlaid.add_refused hfull)
    obtain ⟨m'', hadd', hattrs', hlaid'⟩ := hlaid.add_appends ha (Nat.not_lt.mp hfull)
    cases hadd.symm.trans hadd'
    subst hpadded
    refine ⟨?_, ?_, id, rest.drop (padded o).length, ?_⟩
    · rw [hattrs', hattrs, List.map_append]
      rfl
    · intro b hb
      rw [List.map_append, List.mem_append] at hb
      rcases hb with hb | hb
      · exact hmade b hb
      · rw [List.map_singleton, List.mem_singleton] at hb
        exact hb ▸ ha
    · rw [List.map_append, List.map_append, Tlv.body_append, List.map_singleton,
        List.map_singleton, Tlv.body_cons, Tlv.body_nil, List.append_nil]
      exact hlaid'
  | identify _ id ih =>
    obtain ⟨hattrs, hmade, _, rest, hlaid⟩ := ih hfits
    exact ⟨hattrs, hmade, id, rest, hlaid.setIdentifier id⟩

/-- One turn of the loop of `hideUserPassword`. -/
def putHidden (hiddenPassword : Bytes) (s : Nat × Bytes) (a : CRadiusAttribute) : Nat × Bytes :=
  if a.myType = RA_USER_PASSWORD then (s.1, memcpy s.2 (s.1 + 2) hiddenPassword)
  else (s.1 + a.length, s.2)

theorem foldl_putHidden {hiddenPassword : Bytes}
    (has : ∀ a ∈ as, a.Made ∧ a.myType ≠ RA_USER_PASSWORD) (s : Nat × Bytes) :
    as.foldl (putHidden hiddenPassword) s =
      (s.1 + (Tlv.body (as.map entryOf)).length, s.2) := by
  induction as generalizing s with
  | nil => rfl
  | cons a as ih =>
    obtain ⟨hmade, htype⟩ := has a List.mem_cons_self
    rw [List.foldl_cons, ih fun b hb => has b (List.mem_cons_of_mem _ hb), putHidden,
      if_neg htype, List.map_cons, Tlv.body_cons, List.length_append, Tlv.length_bytes,
      a.length_eq hmade, Nat.add_assoc]

variable (e) (secret) in
/-- The password as it goes on the wire. -/
def hiddenOf (auth : Bytes) (p : CRadiusAttribute) : CRadiusAttribute :=
  { p with myValue := encodeBlocks e secret (p.myValue.length / 16) auth p.myValue }

theorem length_hiddenOf (auth : Bytes) {p : CRadiusAttribute} (hp : p.myType = RA_USER_PASSWORD)
    (hmade : p.Made) : (hiddenOf e secret auth p).myValue.length = p.myValue.length := by
  have hmod := hmade.blocks hp
  rw [hiddenOf, length_encodeBlocks _ _ (by omega)]
  omega

theorem getAll_password {before after : List CRadiusAttribute}
    (hattrs : m.myAttributes = before ++ p :: after) (hp : p.myType = RA_USER_PASSWORD)
    (hbefore : ∀ a ∈ before, a.myType ≠ RA_USER_PASSWORD) :
    ∃ l, m.getAll RA_USER_PASSWORD = p :: l := by
  have hnone : before.filter (fun a => a.myType = RA_USER_PASSWORD) = [] :=
    List.filter_eq_nil_iff.mpr fun a ha => by simpa using hbefore a ha
  refine ⟨after.filter fun a => a.myType = RA_USER_PASSWORD, ?_⟩
  rw [getAll, hattrs, List.filter_append, hnone, List.nil_append,
    List.filter_cons_of_pos (by simpa using hp)]

theorem body_password (before after : List CRadiusAttribute) (hp : p.myType = RA_USER_PASSWORD) :
    Tlv.body ((before ++ p :: after).map entryOf) =
      Tlv.body (before.map entryOf) ++
        [RA_USER_PASSWORD, UInt8.ofNat (2 + p.myValue.length)] ++ p.myValue ++
        Tlv.body (after.map entryOf) := by
  have hentry : p.entryOf = (RA_USER_PASSWORD, p.myValue) := by
    unfold entryOf
    rw [hp]
    rfl
  rw [List.map_append, List.map_cons, Tlv.body_append, Tlv.body_cons, hentry, Tlv.bytes]
  simp only [List.append_assoc]

/-- **`hideUserPassword` writes over the value of the password and over nothing else**, if there
    is one password. -/
theorem Laid.hide {before after : List CRadiusAttribute} (hstale : ∀ a l, e.stale (a :: l) = a)
    (hsecret : secret.length < 256) (hattrs : m.myAttributes = before ++ p :: after)
    (hp : p.myType = RA_USER_PASSWORD) (hmade : p.Made)
    (hothers : ∀ a ∈ before ++ after, a.Made ∧ a.myType ≠ RA_USER_PASSWORD)
    (h : Laid m RP_ACCESS_REQUEST id auth
      (Tlv.body ((before ++ p :: after).map entryOf)) rest) :
    ∃ m', hideUserPassword e secret m = .ok m' ∧ Laid m' RP_ACCESS_REQUEST id auth
      (Tlv.body ((before ++ hiddenOf e secret auth p :: after).map entryOf))
      rest := by
  have hbefore : ∀ a ∈ before, a.Made ∧ a.myType ≠ RA_USER_PASSWORD :=
    fun a ha => hothers a (List.mem_append_left _ ha)
  obtain ⟨l, hl⟩ := getAll_password hattrs hp fun a ha => (hbefore a ha).2
  have hmod := hmade.blocks hp
  have hidden := @length_hiddenOf e secret auth p hp hmade
  have hhide : hideUserPassword e secret m = .ok { m with
      myData := (m.myAttributes.foldl (putHidden (hiddenOf e secret auth p).myValue)
        (RadiusPacketHeaderSize, m.myData)).2 } := by
    unfold hideUserPassword
    rw [hl, hstale]
    dsimp only
    rw [encodeUserPassword_ok hsecret hmod, h.authenticator_eq, assert, if_pos h.code_eq]
    rfl
  have hbody := body_password before after hp
  have hbody' := body_password before after (p := hiddenOf e secret auth p) hp
  have hdata := h.data
  have hsize := h.size
  rw [hbody] at hdata hsize
  refine ⟨_, hhide, h.sixteen, ?_, ?_⟩
  · rw [hbody']
    simp only [List.length_append, hidden] at hsize ⊢
    exact hsize
  · rw [hbody', hattrs, List.foldl_append, foldl_putHidden hbefore, List.foldl_cons, putHidden,
      if_pos hp, foldl_putHidden fun a ha => hothers a (List.mem_append_right _ ha)]
    simp only [List.length_append, hidden] at hdata ⊢
    rw [hdata]
    have hover (n : Nat) := memcpy_inside (header RP_ACCESS_REQUEST id n auth)
      (Tlv.body (before.map entryOf))
      [RA_USER_PASSWORD, UInt8.ofNat (2 + p.myValue.length)]
      (Tlv.body (after.map entryOf)) rest hidden
    simp only [length_header h.sixteen] at hover
    exact hover _

theorem Laid.received {code : UInt8} {body : Bytes} (h : Laid m code id auth body rest)
    (u : Uninitialized) :
    Laid (received u (m.myData.take m.msgLen)) code id auth body
      (u.myData.drop m.msgLen) := by
  have hlen : (m.myData.take m.msgLen).length = m.msgLen :=
    List.length_take_of_le h.inBuffer.long
  refine ⟨h.sixteen, h.size, ?_⟩
  rw [CRadiusMessage.received, memcpy_eq (Nat.zero_le _), Nat.zero_add, hlen, List.take_zero,
    List.nil_append, h.take_eq]

theorem Laid.ofData_eq
    (h : Laid m RP_ACCESS_REQUEST id auth (Tlv.body (as.map entryOf)) rest)
    (has : ∀ a ∈ as, a.Made ∧ a.length ≤ 255 ∧ Readable secret m a) (u : Uninitialized) :
    ∃ m', ofData e u (m.myData.take m.msgLen) secret = .ok m' ∧
      m'.myAttributes = as.map (seen e secret m) := by
  have hlen : (m.myData.take m.msgLen).length = m.msgLen :=
    List.length_take_of_le h.inBuffer.long
  have hsized : sized (m.myData.take m.msgLen) = true := by
    rw [sized_iff, hlen]
    exact ⟨h.inBuffer.min, h.inBuffer.max⟩
  have hshort : ∀ x ∈ as.map entryOf, Tlv.Short x := by
    intro x hx
    obtain ⟨a, ha, rfl⟩ := List.mem_map.mp hx
    obtain ⟨hmade, hfits, -⟩ := has a ha
    rw [a.length_eq hmade] at hfits
    exact Nat.lt_succ_of_le hfits
  have hr := h.received u
  have hfield : (getShort (m.myData.take m.msgLen) 2).toNat = (m.myData.take m.msgLen).length := by
    have hmin : 20 ≤ m.msgLen := h.inBuffer.min
    rw [getShort_take (by omega), hlen]
    rfl
  have hchain : Tlv.Chain (CRadiusMessage.received u (m.myData.take m.msgLen)).myData
      RadiusPacketHeaderSize (as.map entryOf) (m.myData.take m.msgLen).length := by
    rw [← List.append_nil (Tlv.body _)] at hr
    rw [hlen.trans h.msgLen_eq]
    exact hr.chain hshort
  have hlist := decodeList_entries (e := e) fun a ha => ⟨(has a ha).1, (has a ha).2.2⟩
  rw [ofData_decoded hsized hfield, decodeFrom_chain hchain,
    decodeList_congr (hr.code_eq.trans h.code_eq.symm)
      (hr.authenticator_eq.trans h.authenticator_eq.symm), hlist]
  refine ⟨_, if_neg ?_, rfl⟩
  have hcode : (CRadiusMessage.received u (m.myData.take m.msgLen)).code ≠ RP_ACCOUNTING_REQUEST := by
    rw [hr.code_eq]
    decide
  exact hcode

/-- What was hidden is found. -/
theorem seen_hiddenOf (hauth : m.authenticator = auth) (hp : p.myType = RA_USER_PASSWORD)
    (hmade : p.Made) : seen e secret m (hiddenOf e secret auth p) = p := by
  have hmod := hmade.blocks hp
  have hblocks : p.myValue.length = 16 * (p.myValue.length / 16) := by omega
  rw [seen, if_pos (show (hiddenOf e secret auth p).myType = _ from hp), hauth, hiddenOf]
  dsimp only
  rw [length_encodeBlocks _ _ hblocks, Nat.mul_div_cancel_left _ (by decide),
    decodeBlocks_encodeBlocks _ _ hblocks]

theorem map_seen (has : ∀ a ∈ as, a.myType ≠ RA_USER_PASSWORD) : as.map (seen e secret m) = as := by
  refine (List.map_congr_left fun a ha => ?_).trans (List.map_id as)
  exact if_neg (has a ha)

theorem hiddenOf_made (hp : p.myType = RA_USER_PASSWORD) (hmade : p.Made) :
    (hiddenOf e secret auth p).Made := by
  refine ⟨hmade.vendor, fun _ => ?_⟩
  rw [length_hiddenOf auth hp hmade]
  exact hmade.blocks hp

theorem exists_password {os : List CRadiusAttribute}
    (h : os.countP (fun o => o.myType = RA_USER_PASSWORD) = 1) :
    ∃ before p after, os = before ++ p :: after ∧ p.myType = RA_USER_PASSWORD ∧
      ∀ o ∈ before ++ after, o.myType ≠ RA_USER_PASSWORD := by
  obtain ⟨p, hmem, hp⟩ := List.countP_pos_iff.mp (show 0 < _ by rw [h]; decide)
  obtain ⟨before, after, rfl⟩ := List.append_of_mem hmem
  refine ⟨before, p, after, rfl, by simpa using hp, ?_⟩
  have hnone : (before ++ after).countP (fun o => o.myType = RA_USER_PASSWORD) = 0 := by
    rw [List.countP_append, List.countP_cons, if_pos hp] at h
    rw [List.countP_append]
    omega
  intro o ho
  simpa using List.countP_eq_zero.mp hnone o ho

/-- The attributes of a message that `calcAuthenticator` has gone over are those of the receiver. -/
theorem Laid.read_back (hstale : ∀ a l, e.stale (a :: l) = a) (hsecret : secret.length < 256)
    (hattrs : m.myAttributes = as)
    (hlaid : Laid m RP_ACCESS_REQUEST id auth (Tlv.body (as.map entryOf)) rest)
    (has : ∀ a ∈ as, a.Made ∧ a.length ≤ 255 ∧
      (a.myType = RA_VENDOR_SPECIFIC → 3 ≤ a.myValue.length))
    (hone : as.countP (fun a => a.myType = RA_USER_PASSWORD) = 1) (time : UInt32)
    (u : Uninitialized) :
    ∃ m₁ m₂, calcAuthenticator e time secret m = .ok m₁ ∧
      ofData e u (m₁.myData.take m₁.msgLen) secret = .ok m₂ ∧ m₂.myAttributes = as := by
  obtain ⟨auth', hauth, hsixteen⟩ : ∃ auth', calcAccessRequestAuthenticator e time m =
      { m with myRequestAuthenticator := auth' }.setAuthenticator auth' ∧
        auth'.length = RadiusAuthenticatorLength := ⟨_, rfl, e.length_calcMD5 _⟩
  have hstamped : Laid (calcAccessRequestAuthenticator e time m) RP_ACCESS_REQUEST id auth'
      (Tlv.body (as.map entryOf)) rest := by
    rw [hauth]
    exact Laid.setAuthenticator (m := { m with myRequestAuthenticator := auth' })
      ⟨hlaid.sixteen, hlaid.size, hlaid.data⟩ hsixteen
  obtain ⟨before, p, after, rfl, hp, hothers⟩ := exists_password hone
  obtain ⟨hpmade, hpfits, -⟩ := has p (by simp)
  have hrest : ∀ a ∈ before ++ after, a ∈ before ++ p :: after := by
    intro a ha
    simp only [List.mem_append, List.mem_cons] at ha ⊢
    tauto
  obtain ⟨m₁, hhide, hlaid₁⟩ := hstamped.hide hstale hsecret (by rw [hauth, ← hattrs]; rfl) hp hpmade
    fun a ha => ⟨(has a (hrest a ha)).1, hothers a ha⟩
  have hread : ∀ a ∈ before ++ hiddenOf e secret auth' p :: after,
      a.Made ∧ a.length ≤ 255 ∧ Readable secret m₁ a := by
    intro a ha
    have hcases : a = hiddenOf e secret auth' p ∨ a ∈ before ++ after := by
      simp only [List.mem_append, List.mem_cons] at ha ⊢
      tauto
    rcases hcases with rfl | ha
    · refine ⟨hiddenOf_made hp hpmade, ?_, fun hv => absurd (hv.symm.trans hp) (by decide),
        fun _ => ⟨hlaid₁.code_eq, hsecret⟩⟩
      rw [CRadiusAttribute.length, length_hiddenOf auth' hp hpmade]
      exact hpfits
    · obtain ⟨hmade, hfits, hvendor⟩ := has a (hrest a ha)
      exact ⟨hmade, hfits, hvendor, fun hp' => absurd hp' (hothers a ha)⟩
  obtain ⟨m₂, hreceived, hlist⟩ := hlaid₁.ofData_eq (e := e) hread u
  refine ⟨m₁, m₂, ?_, hreceived, ?_⟩
  · rw [calcAuthenticator, if_pos hlaid.code_eq, hhide]
  · rw [hlist, List.map_append, List.map_cons, seen_hiddenOf hlaid₁.authenticator_eq hp hpmade,
      map_seen fun a ha => hothers a (List.mem_append_left _ ha),
      map_seen fun a ha => hothers a (List.mem_append_right _ ha)]

/-- **The receiver of an Access-Request finds the attributes it was built of**, the password filled
    up with zeros. -/
theorem request_read_back (e : RadiusEnv) (time : UInt32) (secret : Bytes) (u u' : Uninitialized)
    {os : List CRadiusAttribute} (hstale : ∀ a l, e.stale (a :: l) = a)
    (hsecret : secret.length < 256) (hbuilt : Builds u os m) (hos : Sendable os) :
    ∃ m₁ m₂, calcAuthenticator e time secret m = .ok m₁ ∧
      ofData e u' (m₁.myData.take m₁.msgLen) secret = .ok m₂ ∧
      m₂.myAttributes = os.map padded := by
  obtain ⟨hattrs, hmade, id, rest, hlaid⟩ := hbuilt.laid hos.representable
  refine hlaid.read_back hstale hsecret hattrs (fun a ha => ?_) ?_ time u'
  · refine ⟨hmade a ha, ?_⟩
    obtain ⟨o, ho, rfl⟩ := List.mem_map.mp ha
    refine ⟨hos.representable o ho, fun hv => ?_⟩
    rw [padded_type] at hv
    rw [padded, if_neg (by rw [hv]; decide)]
    exact (hos.vendor o ho hv).2
  · rw [List.countP_map]
    simpa only [Function.comp_def, padded_type] using hos.password

/-- The iterator of `getAll` finds the list still there. -/
def aliveEnv : RadiusEnv :=
  { sampleEnv with stale := fun l => l.headD { myType := 0, myValue := [] } }

/-- A name, a password and the address of the NAS. -/
def sampleOriginals : List CRadiusAttribute :=
  [nameOf (ascii "bob"), { myType := RA_USER_PASSWORD, myValue := ascii "pw" },
    { myType := RA_NAS_IP_ADDRESS, myValue := [10, 0, 0, 1] }]

theorem sampleOriginals_read_back :
    ∃ m m₁ m₂, Builds {} sampleOriginals m ∧ calcAuthenticator aliveEnv 0 (ascii "key") m = .ok m₁ ∧
      ofData aliveEnv {} (m₁.myData.take m₁.msgLen) (ascii "key") = .ok m₂ ∧
      m₂.myAttributes = sampleOriginals.map padded := by
  have hname : (bareRequest.add (nameOf (ascii "bob"))).1 = true := by decide +kernel
  have hpassword : ((bareRequest.add (nameOf (ascii "bob"))).2.add
      { myType := RA_USER_PASSWORD, myValue := ascii "pw" ++ List.replicate 14 0 }).1 = true := by
    decide +kernel
  have hnas : ((((bareRequest.add (nameOf (ascii "bob"))).2.add
      { myType := RA_USER_PASSWORD, myValue := ascii "pw" ++ List.replicate 14 0 }).2).add
      { myType := RA_NAS_IP_ADDRESS, myValue := [10, 0, 0, 1] }).1 = true := by
    decide +kernel
  have hbuilt : Builds {} sampleOriginals _ :=
    .add (.add (.add (.start (m := bareRequest) rfl) (o := nameOf (ascii "bob")) rfl
      (Prod.ext hname rfl))
      (o := { myType := RA_USER_PASSWORD, myValue := ascii "pw" }) rfl (Prod.ext hpassword rfl))
      (o := { myType := RA_NAS_IP_ADDRESS, myValue := [10, 0, 0, 1] }) rfl (Prod.ext hnas rfl)
  obtain ⟨m₁, m₂, hsent, hreceived, hlist⟩ := request_read_back aliveEnv 0 (ascii "key") {} {}
    (fun _ _ => rfl) (by decide) hbuilt
    ⟨by decide, by decide, by decide, by decide, by decide⟩
  exact ⟨_, m₁, m₂, hbuilt, hsent, hreceived, hlist⟩

end CRadiusMessage

end OpenBras
