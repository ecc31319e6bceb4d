/-
  File:      OpenBras/Radius/Received.lean
  Subject:   RECEIVED RADIUS MESSAGES: what decoding keeps of them, and which datagrams make
             `handle_input` fail an `assert`.

  * A message whose attributes are all decoded is given back by `encode`, the password hidden
    again (`decoded_bytes`); nothing outside the message has been read.
  * `handle_input` verifies a response, and `verifyResponseAuthenticator` asserts that the code is
    one of a response: a datagram under an outstanding identifier with another code ends the
    process. So does a vendor-specific attribute whose vendor is 0 (`input_asserts_iff`).
-/
import OpenBras.Radius.Connector
import OpenBras.Radius.Decode

namespace OpenBras

open Wire

namespace CRadiusMessage

variable {e : RadiusEnv} {secret : Bytes} {m : CRadiusMessage}

/-! ## 1. What is read -/

/-- The message as `decodeAttributes` finds it: `u` is what was in its memory before. -/
def received (u : Uninitialized) (rawMsg : Bytes) : CRadiusMessage where
  myRequestAuthenticator := u.myRequestAuthenticator
  myAttributes := []
  myData := memcpy u.myData 0 rawMsg

/-- The reads of `decodeAttributes` in `myData.buffer`, each with position and size: the header
    of an attribute, and its value if the header is in order. -/
def readsFrom (buffer : Bytes) (totalLen parsed : Nat) : List (Nat × Nat) :=
  if parsed < totalLen then
    let attrLen := (byteAt buffer (parsed + 1)).toNat
    if attrLen < 2 ∨ parsed + attrLen > totalLen then [(parsed, 2)]
    else (parsed, 2) :: (parsed + 2, attrLen - 2) :: readsFrom buffer totalLen (parsed + attrLen)
  else []
termination_by totalLen - parsed
decreasing_by omega

variable {p : Bytes} {i n : Nat} {xs : List (UInt8 × Bytes)} {a : CRadiusAttribute}
  {x : UInt8 × Bytes} {rawMsg : Bytes}

theorem readsFrom_chain (h : Tlv.Chain p i xs n) : ∀ r ∈ readsFrom p n i, r.1 + r.2 ≤ n := by
  induction h with
  | nil i =>
    intro r hr
    rw [readsFrom, if_neg (Nat.lt_irrefl _)] at hr
    exact absurd hr List.not_mem_nil
  | @cons i n x xs head rest ih =>
    have hle := rest.le
    intro r hr
    rw [readsFrom, if_pos (by omega)] at hr
    dsimp only at hr
    rw [head.length, if_neg (by omega)] at hr
    simp only [List.mem_cons] at hr
    obtain rfl | rfl | hr := hr
    · dsimp only
      omega
    · dsimp only
      omega
    · exact ih r hr

theorem take_received (u : Uninitialized) (rawMsg : Bytes) :
    (received u rawMsg).myData.take rawMsg.length = rawMsg := by
  have h := take_memcpy (Nat.zero_le u.myData.length) rawMsg
  rwa [Nat.zero_add] at h

theorem length_received (u : Uninitialized) (rawMsg : Bytes) :
    rawMsg.length ≤ (received u rawMsg).myData.length := by
  have h := congrArg List.length (take_received u rawMsg)
  rw [List.length_take] at h
  omega

/-! ## 2. Decoded attributes give the message back -/

variable (e) (secret) in
/-- `encode`, a password hidden before. -/
def encodeHidden (m : CRadiusMessage) (a : CRadiusAttribute) : Except Fault Bytes :=
  if a.myType = RA_USER_PASSWORD then
    (fun hidden => { a with myValue := hidden }.encode) <$>
      encodeUserPassword e secret a.myValue m
  else .ok a.encode

theorem encode_of_value (hx : Tlv.Short x) (hmade : a.Made) (hentry : a.entryOf = x) :
    a.encode = Tlv.bytes x := by
  have hshort : 2 + x.2.length < 256 := hx
  rw [a.encode_eq hmade, hentry]
  rw [a.length_eq hmade, hentry]
  exact Nat.le_trans (Nat.le_of_lt hshort) (by decide)

theorem encodeHidden_vendor (hx : Tlv.Short x) (hv : x.1 = RA_VENDOR_SPECIFIC)
    (hlong : x.2.length > 6) (h : CRadiusAttribute.ofData x.1 (x.2.drop 4) (getLong x.2 0) = .ok a) :
    encodeHidden e secret m a = .ok (Tlv.bytes x) := by
  obtain ⟨hid, rfl⟩ := CRadiusAttribute.ofData_eq_ok h
  have hne : x.1 ≠ RA_USER_PASSWORD := by
    rw [hv]
    decide
  rw [encodeHidden, if_neg hne, if_neg fun hc => hne hc.1]
  refine congrArg Except.ok (encode_of_value hx ⟨hid, fun hp => absurd hp hne⟩ ?_)
  unfold CRadiusAttribute.entryOf
  rw [if_pos hv, putLong_getLong (by omega), List.take_append_drop]

theorem encodeHidden_plain (hx : Tlv.Short x) (hv : x.1 ≠ RA_VENDOR_SPECIFIC)
    (hp : x.1 ≠ RA_USER_PASSWORD) (h : CRadiusAttribute.ofData x.1 x.2 0 = .ok a) :
    encodeHidden e secret m a = .ok (Tlv.bytes x) := by
  obtain ⟨hid, rfl⟩ := CRadiusAttribute.ofData_eq_ok h
  rw [encodeHidden, if_neg hp, if_neg fun hc => hp hc.1]
  refine congrArg Except.ok (encode_of_value hx ⟨hid, fun hp' => absurd hp' hp⟩ ?_)
  exact Prod.ext rfl (if_neg hv)

theorem encodeHidden_password {decoded : Bytes} (hx : Tlv.Short x) (hp : x.1 = RA_USER_PASSWORD)
    (hd : decodeUserPassword e secret x.2 m = .ok decoded)
    (h : CRadiusAttribute.ofData x.1 decoded 0 = .ok a) :
    encodeHidden e secret m a = .ok (Tlv.bytes x) := by
  have hlength := length_decodeUserPassword hd
  obtain ⟨hsecret, hmod, rfl⟩ := decodeUserPassword_eq_ok.mp hd
  obtain ⟨hid, rfl⟩ := CRadiusAttribute.ofData_eq_ok h
  rw [hlength, if_neg fun hc => hc.2 hmod, encodeHidden, if_pos hp,
    encodeUserPassword_ok hsecret (by rw [hlength]; exact hmod), hlength,
    encodeBlocks_decodeBlocks _ _ (by omega)]
  refine congrArg Except.ok (encode_of_value hx ⟨hid, fun _ => hmod⟩ ?_)
  have hv : x.1 ≠ RA_VENDOR_SPECIFIC := by
    rw [hp]
    decide
  exact Prod.ext rfl (if_neg hv)

theorem eq_ok_of_map_some {α : Type} {r : Except Fault α} {a : α} (h : some <$> r = .ok (some a)) :
    r = .ok a := by
  obtain ⟨_, hr, ha⟩ := map_eq_ok.mp h
  rw [hr, Option.some.inj ha]

/-- **The attribute of an entry is encoded as the entry.** -/
theorem encodeHidden_of_decodeEntry (hx : Tlv.Short x) (h : decodeEntry e secret m x = .ok (some a)) :
    encodeHidden e secret m a = .ok (Tlv.bytes x) := by
  unfold decodeEntry at h
  by_cases hv : x.1 = RA_VENDOR_SPECIFIC
  · rw [if_pos hv] at h
    split at h
    · rename_i hlong
      exact encodeHidden_vendor hx hv hlong (eq_ok_of_map_some h)
    · cases h
  rw [if_neg hv] at h
  by_cases hp : x.1 = RA_USER_PASSWORD
  · rw [if_pos hp] at h
    split at h
    · cases h
    split at h
    · cases h
    obtain ⟨decoded, hd, h⟩ := bind_eq_ok.mp h
    exact encodeHidden_password hx hp hd (eq_ok_of_map_some h)
  · rw [if_neg hp] at h
    exact encodeHidden_plain hx hv hp (eq_ok_of_map_some h)

theorem decodeList_cons_eq_zero {as : List CRadiusAttribute}
    (h : decodeList e secret m (x :: xs) = .ok (0, as)) :
    ∃ a as', decodeEntry e secret m x = .ok (some a) ∧
      decodeList e secret m xs = .ok (0, as') ∧ as = a :: as' := by
  rw [decodeList] at h
  obtain ⟨o, ho, h⟩ := bind_eq_ok.mp h
  cases o with
  | none => cases h
  | some a =>
    obtain ⟨⟨_, as'⟩, hl, hr⟩ := map_eq_ok.mp h
    cases hr
    exact ⟨a, as', ho, hl, rfl⟩

theorem mapM_encodeHidden {as : List CRadiusAttribute} (hxs : ∀ x ∈ xs, Tlv.Short x)
    (h : decodeList e secret m xs = .ok (0, as)) :
    as.mapM (encodeHidden e secret m) = .ok (xs.map Tlv.bytes) := by
  induction xs generalizing as with
  | nil =>
    cases h
    rfl
  | cons x xs ih =>
    obtain ⟨a, as', ha, hrest, rfl⟩ := decodeList_cons_eq_zero h
    rw [List.mapM_cons, encodeHidden_of_decodeEntry (hxs x List.mem_cons_self) ha,
      ih (fun y hy => hxs y (List.mem_cons_of_mem _ hy)) hrest]
    rfl

theorem msgLen_received {u : Uninitialized} (hmin : RadiusMinPacketSize ≤ rawMsg.length) :
    (received u rawMsg).msgLen = (getShort rawMsg 2).toNat := by
  have h20 : 20 ≤ rawMsg.length := hmin
  unfold msgLen
  rw [← getShort_take (m := rawMsg.length) (by omega), take_received]

theorem code_received (u : Uninitialized) (hmin : RadiusMinPacketSize ≤ rawMsg.length) :
    (received u rawMsg).code = byteAt rawMsg 0 := by
  have h20 : 20 ≤ rawMsg.length := hmin
  unfold code
  rw [← byteAt_take (m := rawMsg.length) (by omega), take_received]

theorem header_received (hmin : RadiusMinPacketSize ≤ rawMsg.length) (u u' : Uninitialized) :
    (received u rawMsg).code = (received u' rawMsg).code ∧
      (received u rawMsg).authenticator = (received u' rawMsg).authenticator := by
  have h20 : 20 ≤ rawMsg.length := hmin
  have hauth : ∀ u, (received u rawMsg).authenticator =
      (rawMsg.drop 4).take RadiusAuthenticatorLength := by
    intro u
    conv_rhs => rw [← take_received u rawMsg]
    rw [List.drop_take, List.take_take, RadiusAuthenticatorLength, Nat.min_eq_left (by omega)]
    rfl
  exact ⟨by rw [code_received u hmin, code_received u' hmin], (hauth u).trans (hauth u').symm⟩

/-- **A message that is decoded to its end is read inside its bounds, whatever lies behind it, and
    its attributes, encoded one after the other with the password hidden again, are its bytes.** -/
theorem decoded_bytes (e : RadiusEnv) (secret rawMsg : Bytes) (u : Uninitialized)
    {m' : CRadiusMessage} (hmin : RadiusMinPacketSize ≤ rawMsg.length)
    (hlen : (getShort rawMsg 2).toNat = rawMsg.length)
    (h : decodeAttributes e secret (received u rawMsg) = .ok (0, m')) :
    (∀ r ∈ readsFrom (received u rawMsg).myData rawMsg.length RadiusPacketHeaderSize,
      r.1 + r.2 ≤ rawMsg.length) ∧
    (∀ u', ∃ n, decodeAttributes e secret (received u' rawMsg) = .ok (0, n) ∧
      n.myAttributes = m'.myAttributes) ∧
    ∃ parts, m'.myAttributes.mapM (encodeHidden e secret m') = .ok parts ∧
      parts.flatten = rawMsg.drop RadiusPacketHeaderSize := by
  have hmsgLen : ∀ u, (received u rawMsg).msgLen = rawMsg.length :=
    fun u => (msgLen_received hmin).trans hlen
  unfold decodeAttributes at h ⊢
  rw [hmsgLen] at h
  have hheader : RadiusPacketHeaderSize ≤ rawMsg.length := hmin
  obtain ⟨xs, hchain⟩ := chain_of_decodeFrom hheader (length_received u rawMsg) h
  obtain ⟨⟨_, as⟩, hlist, hm'⟩ := map_eq_ok.mp ((decodeFrom_chain hchain).symm.trans h)
  obtain ⟨rfl, rfl⟩ := Prod.mk.inj hm'
  refine ⟨readsFrom_chain hchain, fun u' => ?_, xs.map Tlv.bytes, ?_, ?_⟩
  · have hsame := header_received hmin u' u
    have hchain' : Tlv.Chain (received u' rawMsg).myData RadiusPacketHeaderSize xs rawMsg.length :=
      hchain.congr (by rw [take_received, take_received])
    rw [hmsgLen, decodeFrom_chain hchain', decodeList_congr hsame.1 hsame.2, hlist]
    exact ⟨_, rfl, rfl⟩
  · have hparts := mapM_encodeHidden hchain.short hlist
    exact hparts
  · have hbody := hchain.body_eq (length_received u rawMsg)
    rw [← List.drop_take, take_received] at hbody
    exact hbody

/-- An Access-Request with a name, a vendor-specific attribute and a hidden password. -/
def sampleEntries : List (UInt8 × Bytes) :=
  [(1, ascii "bob"), (RA_VENDOR_SPECIFIC, [0, 0, 0, 9, 1, 3, 7]),
    (RA_USER_PASSWORD, List.replicate 16 5)]

def sampleRequest : Bytes :=
  [RP_ACCESS_REQUEST, 1, 0, 52] ++ List.replicate 16 9 ++ Tlv.body sampleEntries

theorem sampleRequest_bytes :
    ∃ m' parts, decodeAttributes sampleEnv (ascii "key") (received {} sampleRequest) =
        .ok (0, m') ∧
      m'.myAttributes.mapM (encodeHidden sampleEnv (ascii "key") m') = .ok parts ∧
      parts.flatten = sampleRequest.drop RadiusPacketHeaderSize := by
  have hchain : Tlv.Chain (received {} sampleRequest).myData RadiusPacketHeaderSize sampleEntries 52 :=
    Tlv.chain_body (by decide) ([RP_ACCESS_REQUEST, 1, 0, 52] ++ List.replicate 16 9) []
  have hzero : (decodeList sampleEnv (ascii "key") (received {} sampleRequest)
      sampleEntries).toOption.map Prod.fst = some 0 := by decide +kernel
  obtain ⟨m', hm'⟩ : ∃ m', decodeAttributes sampleEnv (ascii "key") (received {} sampleRequest) =
      .ok (0, m') := by
    have hlen : (received {} sampleRequest).msgLen = 52 := by decide
    rw [decodeAttributes, hlen, decodeFrom_chain hchain]
    cases hlist : decodeList sampleEnv (ascii "key") (received {} sampleRequest) sampleEntries with
    | error _ =>
      rw [hlist] at hzero
      cases hzero
    | ok r =>
      obtain ⟨n, as⟩ := r
      rw [hlist] at hzero
      cases hzero
      exact ⟨_, rfl⟩
  obtain ⟨-, -, parts, hparts, hbytes⟩ := decoded_bytes sampleEnv (ascii "key")
    sampleRequest {} (by decide) (by decide) hm'
  exact ⟨m', parts, hm', hparts, hbytes⟩

/-! ## 3. Asserts on the way of a response -/

/-- From `i` on the loop comes to a vendor-specific attribute whose vendor is 0: the entries before
    it are complete, and none is refused in a response. -/
inductive MeetsZeroVendor (p : Bytes) (totalLen : Nat) : Nat → Prop where
  | here {i : Nat} {x : UInt8 × Bytes} (hx : Tlv.At p i x)
      (hfit : i + (2 + x.2.length) ≤ totalLen) (htype : x.1 = RA_VENDOR_SPECIFIC)
      (hlong : x.2.length > 6) (hvendor : getLong x.2 0 = 0) : MeetsZeroVendor p totalLen i
  | later {i : Nat} {x : UInt8 × Bytes} (hx : Tlv.At p i x)
      (hfit : i + (2 + x.2.length) ≤ totalLen) (hpassword : x.1 ≠ RA_USER_PASSWORD)
      (hlong : x.1 = RA_VENDOR_SPECIFIC → x.2.length > 6)
      (rest : MeetsZeroVendor p totalLen (i + (2 + x.2.length))) : MeetsZeroVendor p totalLen i

theorem MeetsZeroVendor.congr {q : Bytes} (hpq : p.take n = q.take n) (h : MeetsZeroVendor p n i) :
    MeetsZeroVendor q n i := by
  induction h with
  | here hx hfit htype hlong hvendor =>
    exact .here (hx.congr hfit hpq) hfit htype hlong hvendor
  | later hx hfit hpassword hlong _ ih => exact .later (hx.congr hfit hpq) hfit hpassword hlong ih

theorem MeetsZeroVendor.entry (h : MeetsZeroVendor p n i) :
    ∃ x, Tlv.At p i x ∧ i + (2 + x.2.length) ≤ n := by
  cases h with
  | here hx hfit => exact ⟨_, hx, hfit⟩
  | later hx hfit => exact ⟨_, hx, hfit⟩

theorem MeetsZeroVendor.not_refused (h : MeetsZeroVendor p n i) (hx : Tlv.At p i x)
    (hkind : x.1 = RA_USER_PASSWORD ∨ (x.1 = RA_VENDOR_SPECIFIC ∧ ¬ x.2.length > 6)) : False := by
  cases h with
  | here hy _ htype hlong _ =>
    obtain rfl := hy.eq_entryAt.trans hx.eq_entryAt.symm
    obtain hp | ⟨-, hshort⟩ := hkind
    · exact absurd (htype.symm.trans hp) (by decide)
    · exact hshort hlong
  | later hy _ hpassword hlong _ =>
    obtain rfl := hy.eq_entryAt.trans hx.eq_entryAt.symm
    obtain hp | ⟨hv, hshort⟩ := hkind
    · exact hpassword hp
    · exact hshort (hlong hv)

/-- Past an entry that becomes an attribute. -/
theorem meetsZeroVendor_iff_rest (hx : Tlv.At p i x) (hfit : i + (2 + x.2.length) ≤ n)
    (hp : x.1 ≠ RA_USER_PASSWORD)
    (hv : x.1 = RA_VENDOR_SPECIFIC → x.2.length > 6 ∧ getLong x.2 0 ≠ 0) :
    MeetsZeroVendor p n i ↔ MeetsZeroVendor p n (i + (2 + x.2.length)) := by
  refine ⟨fun h => ?_, .later hx hfit hp fun htype => (hv htype).1⟩
  cases h with
  | here hy _ htype _ hvendor =>
    obtain rfl := hy.eq_entryAt.trans hx.eq_entryAt.symm
    exact absurd hvendor (hv htype).2
  | later hy _ _ _ rest =>
    obtain rfl := hy.eq_entryAt.trans hx.eq_entryAt.symm
    exact rest

theorem ofData_vendor_error (htype : x.1 = RA_VENDOR_SPECIFIC) (hvendor : getLong x.2 0 = 0) :
    CRadiusAttribute.ofData x.1 (x.2.drop 4) (getLong x.2 0) = .error .assertion := by
  unfold CRadiusAttribute.ofData assert
  rw [if_neg fun hc => hc.elim (fun h => h.1 htype) fun h => h.2 hvendor]
  rfl

/-- The constructor is content with a vendor-specific attribute of a vendor, and any other without
    one. -/
theorem ofData_ok {type : UInt8} {vendorId : UInt32} (value : Bytes)
    (h : (type ≠ RA_VENDOR_SPECIFIC ∧ vendorId = 0) ∨ (type = RA_VENDOR_SPECIFIC ∧ vendorId ≠ 0)) :
    ∃ a, CRadiusAttribute.ofData type value vendorId = .ok a := by
  unfold CRadiusAttribute.ofData assert
  rw [if_pos h]
  by_cases hp : type = RA_USER_PASSWORD ∧ value.length % 16 ≠ 0
  · exact ⟨_, if_pos hp⟩
  · exact ⟨_, if_neg hp⟩

theorem decodeEntry_response (hcode : m.code ≠ RP_ACCESS_REQUEST) (x : UInt8 × Bytes) :
    (decodeEntry e secret m x = .ok none ∧
        (x.1 = RA_USER_PASSWORD ∨ (x.1 = RA_VENDOR_SPECIFIC ∧ ¬ x.2.length > 6))) ∨
      (decodeEntry e secret m x = .error .assertion ∧ x.1 = RA_VENDOR_SPECIFIC ∧
        x.2.length > 6 ∧ getLong x.2 0 = 0) ∨
      ((∃ a, decodeEntry e secret m x = .ok (some a)) ∧ x.1 ≠ RA_USER_PASSWORD ∧
        (x.1 = RA_VENDOR_SPECIFIC → x.2.length > 6 ∧ getLong x.2 0 ≠ 0)) := by
  unfold decodeEntry
  by_cases hv : x.1 = RA_VENDOR_SPECIFIC
  · have hp : x.1 ≠ RA_USER_PASSWORD := by
      rw [hv]
      decide
    rw [if_pos hv]
    by_cases hlong : x.2.length > 6
    · rw [if_pos hlong]
      by_cases hvendor : getLong x.2 0 = 0
      · rw [ofData_vendor_error hv hvendor]
        exact .inr (.inl ⟨rfl, hv, hlong, hvendor⟩)
      · obtain ⟨a, ha⟩ := ofData_ok (x.2.drop 4) (.inr ⟨hv, hvendor⟩)
        rw [ha]
        exact .inr (.inr ⟨⟨a, rfl⟩, hp, fun _ => ⟨hlong, hvendor⟩⟩)
    · rw [if_neg hlong]
      exact .inl ⟨rfl, .inr ⟨hv, hlong⟩⟩
  · rw [if_neg hv]
    by_cases hp : x.1 = RA_USER_PASSWORD
    · rw [if_pos hp, if_pos hcode]
      exact .inl ⟨rfl, .inl hp⟩
    · obtain ⟨a, ha⟩ := ofData_ok x.2 (.inl ⟨hv, rfl⟩)
      rw [if_neg hp, ha]
      exact .inr (.inr ⟨⟨a, rfl⟩, hp, fun h => absurd h hv⟩)

/-- **In a response the loop fails an assert exactly at a vendor-specific attribute without
    vendor.** -/
theorem Decodes.response {totalLen parsed : Nat} {r : Except Fault (Int × CRadiusMessage)}
    (hd : Decodes e secret totalLen m parsed r) (hcode : m.code ≠ RP_ACCESS_REQUEST) :
    (MeetsZeroVendor m.myData totalLen parsed ∧ r = .error .assertion) ∨
      (¬ MeetsZeroVendor m.myData totalLen parsed ∧
        ∃ n m', r = .ok (n, m') ∧ m'.myData = m.myData) := by
  induction hd with
  | finished hend =>
    refine .inr ⟨fun h => ?_, 0, _, rfl, rfl⟩
    obtain ⟨x, -, hfit⟩ := h.entry
    omega
  | malformed hmore hbad =>
    refine .inr ⟨fun h => ?_, -1, _, rfl, rfl⟩
    obtain ⟨x, hx, hfit⟩ := h.entry
    rw [hx.length] at hbad
    omega
  | @refused m parsed x hx hfit hentry =>
    obtain ⟨-, hkind⟩ | ⟨herr, -⟩ | ⟨⟨a, ha⟩, -⟩ := @decodeEntry_response e secret m hcode x
    · exact .inr ⟨fun h => h.not_refused hx hkind, -1, m, rfl, rfl⟩
    · cases hentry.symm.trans herr
    · cases hentry.symm.trans ha
  | @fault m parsed x f hx hfit hentry =>
    obtain ⟨hnone, -⟩ | ⟨herr, hv, hlong, hvendor⟩ | ⟨⟨a, ha⟩, -⟩ :=
      @decodeEntry_response e secret m hcode x
    · cases hentry.symm.trans hnone
    · cases hentry.symm.trans herr
      exact .inl ⟨.here hx hfit hv hlong hvendor, rfl⟩
    · cases hentry.symm.trans ha
  | @next m parsed x a r hx hfit hentry _ ih =>
    obtain ⟨hnone, -⟩ | ⟨herr, -⟩ | ⟨-, hp, hv⟩ := @decodeEntry_response e secret m hcode x
    · cases hentry.symm.trans hnone
    · cases hentry.symm.trans herr
    · rw [meetsZeroVendor_iff_rest hx hfit hp hv]
      exact ih hcode

/-! ## 4. Asserts in `handle_input` -/

theorem ofData_asserts (type : UInt8) (value : Bytes) (vendorId : UInt32) :
    Asserts (CRadiusAttribute.ofData type value vendorId) :=
  .bind (.assert _) fun _ => .ite (.ok _) (.ok _)

theorem decodeEntry_asserts (m : CRadiusMessage) (x : UInt8 × Bytes) :
    Asserts (decodeEntry e secret m x) := by
  have hmade : ∀ value vendorId, Asserts (some <$> CRadiusAttribute.ofData x.1 value vendorId) :=
    fun value vendorId => .map (ofData_asserts x.1 value vendorId)
  have hdecoded : Asserts (decodeUserPassword e secret x.2 m) :=
    .bind (.assert _) fun _ => .bind (.assert _) fun _ => .ok _
  refine .ite (.ite (hmade _ _) (.ok _)) (.ite (.ite (.ok _) (.ite (.ok _) ?_)) (hmade _ _))
  exact .bind hdecoded fun _ => hmade _ _

theorem Decodes.outcome {totalLen parsed : Nat} {r : Except Fault (Int × CRadiusMessage)}
    (hd : Decodes e secret totalLen m parsed r) :
    r = .error .assertion ∨ ∃ n m', r = .ok (n, m') ∧ m'.myData = m.myData := by
  induction hd with
  | finished => exact .inr ⟨0, _, rfl, rfl⟩
  | malformed => exact .inr ⟨-1, _, rfl, rfl⟩
  | refused => exact .inr ⟨-1, _, rfl, rfl⟩
  | fault _ _ hentry => exact .inl (by rw [decodeEntry_asserts _ _ _ hentry])
  | next _ _ _ _ ih => exact ih

/-- The size of a message is in order. -/
def sized (rawMsg : Bytes) : Bool :=
  RadiusMinPacketSize ≤ rawMsg.length && rawMsg.length ≤ RadiusMaxPacketSize

theorem sized_iff : sized rawMsg = true ↔
    RadiusMinPacketSize ≤ rawMsg.length ∧ rawMsg.length ≤ RadiusMaxPacketSize := by
  simp only [sized, Bool.and_eq_true, decide_eq_true_eq]

/-- The code of a message made from received bytes: if their number is out of order, what was in
    memory before. -/
def codeOf (u : Uninitialized) (rawMsg : Bytes) : UInt8 :=
  if sized rawMsg then byteAt rawMsg 0 else byteAt u.myData 0

theorem verifyAccounting_outcome (hlen : 0 < m.msgLen) :
    verifyAccountingRequestAuthenticator e secret m = .error .assertion ∨
      ∃ b m', verifyAccountingRequestAuthenticator e secret m = .ok (b, m') ∧ m'.code = m.code := by
  unfold verifyAccountingRequestAuthenticator calcAccountingRequestAuthenticator assert
  split
  · dsimp only
    split
    · refine .inr ⟨_, _, rfl, ?_⟩
      show byteAt (memcpy (memcpy (memcpy m.myData 4 _) m.msgLen secret) 4 _) 0 = byteAt m.myData 0
      rw [byteAt_memcpy (by decide), byteAt_memcpy hlen, byteAt_memcpy (by decide)]
    · exact .inl rfl
  · exact .inl rfl

theorem ofData_decoded {u : Uninitialized} (hs : sized rawMsg = true)
    (hlen : (getShort rawMsg 2).toNat = rawMsg.length) :
    ofData e u rawMsg secret = decodeFrom e secret rawMsg.length RadiusPacketHeaderSize
        (received u rawMsg) >>= fun r =>
      if r.2.code = RP_ACCOUNTING_REQUEST then
        Prod.snd <$> verifyAccountingRequestAuthenticator e secret r.2
      else .ok r.2 := by
  obtain ⟨hmin, hmax⟩ := sized_iff.mp hs
  have hmsgLen : (received u rawMsg).msgLen = rawMsg.length := (msgLen_received hmin).trans hlen
  unfold ofData
  dsimp only
  rw [if_neg (by omega)]
  change (if rawMsg.length ≠ (received u rawMsg).msgLen then _ else
    (decodeFrom e secret (received u rawMsg).msgLen RadiusPacketHeaderSize (received u rawMsg) >>=
      _)) = _
  rw [hmsgLen, if_neg (not_not.mpr rfl)]
  rfl

theorem ofData_undecoded {u : Uninitialized} {rawMsg : Bytes}
    (h : ¬ (sized rawMsg = true ∧ (getShort rawMsg 2).toNat = rawMsg.length)) :
    ∃ m, ofData e u rawMsg secret = .ok m ∧ m.code = codeOf u rawMsg := by
  unfold ofData codeOf
  dsimp only
  by_cases hs : sized rawMsg = true
  · have hmin := sized_iff.mp hs
    have hmsgLen : (received u rawMsg).msgLen = (getShort rawMsg 2).toNat := msgLen_received hmin.1
    rw [if_neg (by omega), if_pos hs]
    change ∃ m, (if rawMsg.length ≠ (received u rawMsg).msgLen then _ else _) = _ ∧ _
    rw [if_pos fun heq => h ⟨hs, by rw [← hmsgLen, ← heq]⟩]
    exact ⟨_, rfl, code_received u hmin.1⟩
  · have hsize : rawMsg.length < RadiusMinPacketSize ∨ rawMsg.length > RadiusMaxPacketSize := by
      rw [sized_iff] at hs
      omega
    rw [if_pos hsize, if_neg hs]
    exact ⟨_, rfl, rfl⟩

theorem ofData_outcome (u : Uninitialized) (rawMsg : Bytes) :
    ofData e u rawMsg secret = .error .assertion ∨
      ∃ m, ofData e u rawMsg secret = .ok m ∧ m.code = codeOf u rawMsg := by
  by_cases h : sized rawMsg = true ∧ (getShort rawMsg 2).toNat = rawMsg.length
  · obtain ⟨hs, hlen⟩ := h
    have hmin := (sized_iff.mp hs).1
    have hmsgLen : (received u rawMsg).msgLen = rawMsg.length := (msgLen_received hmin).trans hlen
    have hcode : codeOf u rawMsg = byteAt rawMsg 0 := if_pos hs
    rw [ofData_decoded hs hlen, hcode, ← code_received u hmin]
    obtain herr | ⟨r, m', hok, hdata⟩ :=
      (@decodes e secret (received u rawMsg) rawMsg.length RadiusPacketHeaderSize
        (length_received u rawMsg)).outcome
    · rw [herr]
      exact .inl rfl
    · have hm' : m'.code = (received u rawMsg).code := congrArg (byteAt · 0) hdata
      have hl : m'.msgLen = rawMsg.length := by
        rw [← hmsgLen]
        exact congrArg (fun d => (getShort d 2).toNat) hdata
      rw [hok]
      change (if m'.code = _ then _ else _) = _ ∨ ∃ m, (if m'.code = _ then _ else _) = _ ∧ _
      split
      · have hpos : 0 < m'.msgLen := by
          rw [hl]
          exact Nat.lt_of_lt_of_le (by decide) hmin
        obtain herr | ⟨b, n, hver, hn⟩ := @verifyAccounting_outcome e secret m' hpos
        · rw [herr]
          exact .inl rfl
        · rw [hver]
          exact .inr ⟨n, rfl, hn.trans hm'⟩
      · exact .inr ⟨m', rfl, hm'⟩
  · exact .inr (ofData_undecoded h)

/-- The codes `verifyResponseAuthenticator` is content with. -/
def responseCodes : List UInt8 := [RP_ACCESS_ACCEPT, RP_ACCESS_REJECT, RP_ACCOUNTING_RESPONSE]

/-- **A response is constructed unless it has an attribute without vendor.** -/
theorem ofData_response {u : Uninitialized} {rawMsg : Bytes}
    (hcode : codeOf u rawMsg ∈ responseCodes) :
    ofData e u rawMsg secret = .error .assertion ↔
      sized rawMsg = true ∧ (getShort rawMsg 2).toNat = rawMsg.length ∧
        MeetsZeroVendor rawMsg rawMsg.length RadiusPacketHeaderSize := by
  by_cases h : sized rawMsg = true ∧ (getShort rawMsg 2).toNat = rawMsg.length
  · obtain ⟨hs, hlen⟩ := h
    have hmin := (sized_iff.mp hs).1
    rw [codeOf, if_pos hs, ← code_received u hmin] at hcode
    have hne : ∀ c ∈ responseCodes, c ≠ RP_ACCESS_REQUEST ∧ c ≠ RP_ACCOUNTING_REQUEST :=
      List.forall_mem_cons.mpr ⟨by decide, List.forall_mem_cons.mpr ⟨by decide,
        List.forall_mem_singleton.mpr (by decide)⟩⟩
    have hmeets : MeetsZeroVendor rawMsg rawMsg.length RadiusPacketHeaderSize ↔
        MeetsZeroVendor (received u rawMsg).myData rawMsg.length RadiusPacketHeaderSize := by
      have htake : rawMsg.take rawMsg.length = (received u rawMsg).myData.take rawMsg.length := by
        rw [take_received, List.take_length]
      exact ⟨.congr htake, .congr htake.symm⟩
    rw [ofData_decoded hs hlen, hmeets]
    obtain ⟨hz, herr⟩ | ⟨hz, r, m', hok, hdata⟩ :=
      (@decodes e secret (received u rawMsg) rawMsg.length RadiusPacketHeaderSize
        (length_received u rawMsg)).response (hne _ hcode).1
    · rw [herr]
      exact ⟨fun _ => ⟨hs, hlen, hz⟩, fun _ => rfl⟩
    · have hm' : m'.code = (received u rawMsg).code := congrArg (byteAt · 0) hdata
      rw [hok]
      change (if m'.code = _ then _ else _) = _ ↔ _
      rw [if_neg (by rw [hm']; exact (hne _ hcode).2)]
      exact ⟨fun hc => (by cases hc), fun hc => absurd hc.2.2 hz⟩
  · obtain ⟨m, hm, -⟩ := @ofData_undecoded e secret u rawMsg h
    rw [hm]
    exact ⟨fun hc => (by cases hc), fun hc => absurd ⟨hc.1, hc.2.1⟩ h⟩

end CRadiusMessage

namespace CRadiusConnector

open CRadiusMessage

/-- The buffer of `handle_input`, and the message it takes from it. -/
def bufferOf (mem : Memory) (datagram : Bytes) : Bytes :=
  datagram.take RadiusMaxPacketSize ++ mem.buffer.drop (datagram.take RadiusMaxPacketSize).length

def messageOf (mem : Memory) (datagram : Bytes) : Bytes :=
  CRadiusData (bufferOf mem datagram) (getShort (bufferOf mem datagram) 2).toNat

/-- The message is one of a response, and not one whose decoding comes to a vendor-specific
    attribute without vendor. -/
def Harmless (mem : Memory) (datagram : Bytes) : Prop :=
  let rawMsg := messageOf mem datagram
  codeOf mem.message rawMsg ∈ responseCodes ∧
    ¬ (sized rawMsg = true ∧ (getShort rawMsg 2).toNat = rawMsg.length ∧
      MeetsZeroVendor rawMsg rawMsg.length RadiusPacketHeaderSize)

/-- Under an outstanding identifier the message is made, and the assert on its code comes before
    the null pointer. -/
theorem handleInput_found {e : RadiusEnv} {mem : Memory} {datagram : Bytes} {c : CRadiusConnector}
    {t : CRadiusTransaction} (hne : datagram.take RadiusMaxPacketSize ≠ [])
    (ht : c.m_trans (byteAt (bufferOf mem datagram) 1) = some t) :
    handleInput e mem datagram c =
      ofData e mem.message (messageOf mem datagram) e.sharedKey >>= fun m =>
        .error (if m.code ∈ responseCodes then .nullRead else .assertion) := by
  unfold bufferOf at ht
  simp only [handleInput, if_neg hne, findTransaction, ht, verifyResponseAuthenticator_null]
  rfl

theorem found_asserts_iff {e : RadiusEnv} {mem : Memory} {datagram : Bytes} {c : CRadiusConnector}
    {t : CRadiusTransaction} (hne : datagram.take RadiusMaxPacketSize ≠ [])
    (ht : c.m_trans (byteAt (bufferOf mem datagram) 1) = some t) :
    handleInput e mem datagram c = .error .assertion ↔ ¬ Harmless mem datagram := by
  rw [handleInput_found hne ht]
  unfold Harmless
  by_cases hcode : codeOf mem.message (messageOf mem datagram) ∈ responseCodes
  · have hiff := @ofData_response e e.sharedKey _ _ hcode
    obtain herr | ⟨m, hm, hmcode⟩ :=
      @ofData_outcome e e.sharedKey mem.message (messageOf mem datagram)
    · have hmeets := hiff.mp herr
      rw [herr]
      exact ⟨fun _ hh => hh.2 hmeets, fun _ => rfl⟩
    · have hnone : ¬ ofData e mem.message (messageOf mem datagram) e.sharedKey =
          .error .assertion := by
        rw [hm]
        exact fun hc => (by cases hc)
      rw [hm]
      change Except.error (if m.code ∈ responseCodes then _ else _) = _ ↔ _
      rw [if_pos (hmcode ▸ hcode)]
      exact ⟨fun hc => (by cases hc), fun hh => absurd ⟨hcode, mt hiff.mpr hnone⟩ hh⟩
  · refine ⟨fun _ hh => hcode hh.1, fun _ => ?_⟩
    obtain herr | ⟨m, hm, hmcode⟩ :=
      @ofData_outcome e e.sharedKey mem.message (messageOf mem datagram)
    · rw [herr]
      rfl
    · rw [hm]
      change Except.error (if m.code ∈ responseCodes then _ else _) = _
      rw [if_neg (hmcode ▸ hcode)]

/-- **No assert fails in `handle_input` exactly if no transaction is outstanding under the
    identifier of the datagram, or the message is harmless**, whatever the shared secret is. -/
theorem input_asserts_iff (e : RadiusEnv) (mem : Memory) (datagram : Bytes)
    (c : CRadiusConnector) :
    handleInput e mem datagram c ≠ .error .assertion ↔
      datagram.take RadiusMaxPacketSize = [] ∨
        c.m_trans (byteAt (bufferOf mem datagram) 1) = none ∨ Harmless mem datagram := by
  by_cases hne : datagram.take RadiusMaxPacketSize = []
  · have hok : handleInput e mem datagram c = .ok (0, c) := if_pos hne
    rw [hok]
    exact ⟨fun _ => .inl hne, fun _ hc => (by cases hc)⟩
  cases ht : c.m_trans (byteAt (bufferOf mem datagram) 1) with
  | none =>
    have hok : handleInput e mem datagram c = .ok (1, c) := by
      unfold bufferOf at ht
      simp only [handleInput, if_neg hne, findTransaction, ht]
    rw [hok]
    exact ⟨fun _ => .inr (.inl rfl), fun _ hc => (by cases hc)⟩
  | some t =>
    rw [Ne, found_asserts_iff hne ht, not_not]
    exact ⟨fun hh => .inr (.inr hh), fun hc =>
      (hc.resolve_left hne).resolve_left fun hnone => (by cases hnone)⟩

/-- An Access-Challenge, and an Access-Accept with a vendor-specific attribute of the vendor 0. -/
def accessChallenge : Bytes :=
  [RP_ACCESS_CHALLENGE, 1, 0, 20] ++ List.replicate RadiusAuthenticatorLength 0

def zeroVendorAccept : Bytes :=
  [RP_ACCESS_ACCEPT, 1, 0, 29] ++ List.replicate RadiusAuthenticatorLength 0 ++
    Tlv.bytes (RA_VENDOR_SPECIFIC, [0, 0, 0, 0, 1, 3, 7])

/-- **Both end the process while the transaction 1 is waiting.** -/
theorem challenge_and_zero_vendor_assert :
    handleInput sampleEnv {} accessChallenge (({} : CRadiusConnector).setTransaction 1 waiting) =
        .error .assertion ∧
      handleInput sampleEnv {} zeroVendorAccept (({} : CRadiusConnector).setTransaction 1 waiting) =
        .error .assertion := by
  refine ⟨(found_asserts_iff (by decide) rfl).mpr fun h => absurd h.1 (by decide),
    (found_asserts_iff (by decide) rfl).mpr fun h => h.2 ⟨by decide, by decide, ?_⟩⟩
  have hat : Tlv.At (messageOf {} zeroVendorAccept) RadiusPacketHeaderSize
      (RA_VENDOR_SPECIFIC, [0, 0, 0, 0, 1, 3, 7]) := ⟨by decide, by decide, by decide⟩
  exact .here hat (by decide) rfl (by decide) (by decide)

end CRadiusConnector

end OpenBras
