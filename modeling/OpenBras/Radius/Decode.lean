/-
  File:      OpenBras/Radius/Decode.lean
  Subject:   WHAT `decodeAttributes` MAKES OF THE ENTRIES OF A MESSAGE, and the password under its
             mask.

  The loop of `decodeAttributes` follows the chain of entries behind the header (Lib/Tlv). One
  entry is refused, ends the process or becomes an attribute (`decodeEntry`); `decodeFrom_chain`
  says that the loop does this entry by entry, `Decodes` what it may come to. The other way round
  an attribute has an entry (`entryOf`), which is what `encode` writes as long as the length byte
  can speak of it.

  `encodeUserPassword` and `decodeUserPassword` mask a password block by block, each block with
  the digest of the block before as it goes on the wire; each undoes the other.
-/
import OpenBras.Lib.Tlv
import OpenBras.Radius.Message

namespace OpenBras

open Wire

/-! ## 1. Passwords -/

theorem zipWith_xor_cancel {a k : Bytes} (h : a.length ≤ k.length) :
    List.zipWith (· ^^^ ·) (List.zipWith (· ^^^ ·) a k) k = a := by
  induction a generalizing k with
  | nil => rfl
  | cons x a ih =>
    cases k with
    | nil => exact absurd h (by simp)
    | cons y k =>
      rw [List.zipWith_cons_cons, List.zipWith_cons_cons, ih (Nat.le_of_succ_le_succ h),
        UInt8.xor_assoc, UInt8.xor_self, UInt8.xor_zero]

namespace CRadiusMessage

variable {e : RadiusEnv} {secret : Bytes}

variable {p : Bytes} {m : CRadiusMessage} {totalLen parsed : Nat}

theorem length_mask (e : RadiusEnv) (secret prev : Bytes) (hp : 16 ≤ p.length) :
    (List.zipWith (· ^^^ ·) (p.take 16) (e.calcMD5 (secret ++ prev))).length = 16 := by
  rw [List.length_zipWith, e.length_calcMD5, List.length_take, RadiusAuthenticatorLength]
  omega

theorem mask_mask (e : RadiusEnv) (secret prev p : Bytes) :
    List.zipWith (· ^^^ ·) (List.zipWith (· ^^^ ·) (p.take 16) (e.calcMD5 (secret ++ prev)))
      (e.calcMD5 (secret ++ prev)) = p.take 16 := by
  refine zipWith_xor_cancel ?_
  rw [e.length_calcMD5]
  exact List.length_take_le _ _

theorem length_encodeBlocks (n : Nat) (prev : Bytes) (hp : p.length = 16 * n) :
    (encodeBlocks e secret n prev p).length = 16 * n := by
  induction n generalizing prev p with
  | zero => rfl
  | succ n ih =>
    rw [encodeBlocks, List.length_append, length_mask e secret prev (by omega),
      ih _ (by rw [List.length_drop]; omega)]
    omega

theorem length_decodeBlocks (n : Nat) (prev : Bytes) (hp : p.length = 16 * n) :
    (decodeBlocks e secret n prev p).length = 16 * n := by
  induction n generalizing prev p with
  | zero => rfl
  | succ n ih =>
    rw [decodeBlocks, List.length_append, length_mask e secret prev (by omega),
      ih _ (by rw [List.length_drop]; omega)]
    omega

/-- **A hidden password is found again.** -/
theorem decodeBlocks_encodeBlocks (n : Nat) (prev : Bytes) (hp : p.length = 16 * n) :
    decodeBlocks e secret n prev (encodeBlocks e secret n prev p) = p := by
  induction n generalizing prev p with
  | zero => exact (List.eq_nil_of_length_eq_zero hp).symm
  | succ n ih =>
    have hlen := length_mask e secret prev (p := p) (by omega)
    rw [encodeBlocks, decodeBlocks]
    rw [List.take_left' hlen, List.drop_left' hlen, mask_mask,
      ih _ (by rw [List.length_drop]; omega), List.take_append_drop]

/-- **A password that was found is hidden as before.** -/
theorem encodeBlocks_decodeBlocks (n : Nat) (prev : Bytes) (hp : p.length = 16 * n) :
    encodeBlocks e secret n prev (decodeBlocks e secret n prev p) = p := by
  induction n generalizing prev p with
  | zero => exact (List.eq_nil_of_length_eq_zero hp).symm
  | succ n ih =>
    have hlen := length_mask e secret prev (p := p) (by omega)
    rw [decodeBlocks, encodeBlocks]
    rw [List.take_left' hlen, List.drop_left' hlen, mask_mask,
      ih _ (by rw [List.length_drop]; omega), List.take_append_drop]

/-! ## 2. One entry -/

variable (e) (secret)

/-- What becomes of an entry: nothing, if the message is refused, or an attribute. -/
def decodeEntry (m : CRadiusMessage) (x : UInt8 × Bytes) :
    Except Fault (Option CRadiusAttribute) :=
  if x.1 = RA_VENDOR_SPECIFIC then
    if x.2.length > 6 then
      some <$> CRadiusAttribute.ofData x.1 (x.2.drop 4) (getLong x.2 0)
    else .ok none
  else if x.1 = RA_USER_PASSWORD then
    if m.code ≠ RP_ACCESS_REQUEST then .ok none
    else if x.2.length % 16 ≠ 0 then .ok none
    else do
      let decoded ← decodeUserPassword e secret x.2 m
      some <$> CRadiusAttribute.ofData x.1 decoded 0
  else some <$> CRadiusAttribute.ofData x.1 x.2 0

variable {e} {secret}

theorem cRadiusData_of_le (val : Bytes) {len : Nat} (h : len ≤ RadiusMaxPacketSize) :
    CRadiusData val len = val.take len := by
  rw [CRadiusData, Nat.min_eq_left h]

theorem decodeUserPassword_eq_ok {v d : Bytes} :
    decodeUserPassword e secret v m = .ok d ↔ secret.length < 256 ∧ v.length % 16 = 0 ∧
      decodeBlocks e secret (v.length / 16) m.authenticator v = d := by
  unfold decodeUserPassword assert
  split <;> rename_i hsecret
  · split <;> rename_i hmod
    · exact ⟨fun h => ⟨hsecret, hmod, Except.ok.inj h⟩, fun h => congrArg Except.ok h.2.2⟩
    · exact ⟨fun h => (by cases h), fun h => absurd h.2.1 hmod⟩
  · exact ⟨fun h => (by cases h), fun h => absurd h.1 hsecret⟩

theorem encodeUserPassword_ok {v : Bytes} (hsecret : secret.length < 256) (hmod : v.length % 16 = 0) :
    encodeUserPassword e secret v m =
      .ok (encodeBlocks e secret (v.length / 16) m.authenticator v) := by
  unfold encodeUserPassword assert
  rw [if_pos hsecret, if_pos hmod]
  rfl

theorem length_decodeUserPassword {v d : Bytes} (h : decodeUserPassword e secret v m = .ok d) :
    d.length = v.length := by
  obtain ⟨-, hmod, rfl⟩ := decodeUserPassword_eq_ok.mp h
  rw [length_decodeBlocks _ _ (by omega)]
  omega

/-- **One turn of the loop of `decodeAttributes`**, at an entry. -/
theorem decodeFrom_entry {x : UInt8 × Bytes} (hx : Tlv.At m.myData parsed x)
    (hfit : parsed + (2 + x.2.length) ≤ totalLen) :
    decodeFrom e secret totalLen parsed m =
      decodeEntry e secret m x >>= fun o => o.elim (.ok (-1, m)) fun attr =>
        decodeFrom e secret totalLen (parsed + (2 + x.2.length))
          { m with myAttributes := m.myAttributes ++ [attr] } := by
  have hshort : 2 + x.2.length < 256 := hx.short
  have hmax : RadiusMaxPacketSize = 4096 := rfl
  have hvalue : CRadiusData (m.myData.drop (parsed + 2)) (2 + x.2.length - 2) = x.2 := by
    rw [cRadiusData_of_le _ (by omega), Nat.add_sub_cancel_left, hx.value]
  rw [decodeFrom, if_pos (by omega)]
  dsimp only
  rw [hx.type, hx.length, dif_neg (by omega), hvalue]
  unfold decodeEntry
  by_cases hv : x.1 = RA_VENDOR_SPECIFIC
  · rw [if_pos hv, if_pos hv]
    by_cases hlong : x.2.length > 6
    · have hid : getLong (m.myData.drop (parsed + 2)) 0 = getLong x.2 0 := by
        rw [← getLong_take (i := 0) (m := x.2.length) (by omega), hx.value]
      have hstring : CRadiusData ((m.myData.drop (parsed + 2)).drop 4) (2 + x.2.length - 6) =
          x.2.drop 4 := by
        rw [cRadiusData_of_le _ (by omega), show 2 + x.2.length - 6 = x.2.length - 4 by omega,
          ← List.drop_take, hx.value]
      rw [if_pos hlong, if_pos (by omega), hid, hstring]
      cases CRadiusAttribute.ofData x.1 (x.2.drop 4) (getLong x.2 0) <;> rfl
    · rw [if_neg hlong, if_neg (by omega)]
      rfl
  · rw [if_neg hv, if_neg hv]
    by_cases hp : x.1 = RA_USER_PASSWORD
    · rw [if_pos hp, if_pos hp, Nat.add_sub_cancel_left]
      by_cases hcode : m.code ≠ RP_ACCESS_REQUEST
      · rw [if_pos hcode, if_pos hcode]
        rfl
      rw [if_neg hcode, if_neg hcode]
      by_cases hmod : x.2.length % 16 ≠ 0
      · rw [if_pos hmod, if_pos hmod]
        rfl
      rw [if_neg hmod, if_neg hmod]
      cases hd : decodeUserPassword e secret x.2 m with
      | error f => rfl
      | ok d =>
        have hdata : CRadiusData d x.2.length = d := by
          rw [cRadiusData_of_le _ (by omega), ← length_decodeUserPassword hd, List.take_length]
        show (CRadiusAttribute.ofData x.1 (CRadiusData d x.2.length) 0 >>= _) =
          (some <$> CRadiusAttribute.ofData x.1 d 0) >>= _
        rw [hdata]
        cases CRadiusAttribute.ofData x.1 d 0 <;> rfl
    · rw [if_neg hp, if_neg hp]
      cases CRadiusAttribute.ofData x.1 x.2 0 <;> rfl

theorem decodeFrom_malformed (hmore : parsed < totalLen)
    (hbad : (byteAt m.myData (parsed + 1)).toNat < 2 ∨
      parsed + (byteAt m.myData (parsed + 1)).toNat > totalLen) :
    decodeFrom e secret totalLen parsed m = .ok (-1, m) := by
  rw [decodeFrom, if_pos hmore]
  dsimp only
  rw [dif_pos hbad]

theorem decodeFrom_end : decodeFrom e secret totalLen totalLen m = .ok (0, m) := by
  rw [decodeFrom, if_neg (Nat.lt_irrefl _)]

/-! ## 3. All entries -/

variable (e) (secret)

/-- The entries one after the other, up to the first that is refused. -/
def decodeList (m : CRadiusMessage) :
    List (UInt8 × Bytes) → Except Fault (Int × List CRadiusAttribute)
  | [] => .ok (0, [])
  | x :: xs =>
    decodeEntry e secret m x >>= fun o => o.elim (.ok (-1, [])) fun attr =>
      (fun r => (r.1, attr :: r.2)) <$> decodeList m xs

variable {e} {secret}

theorem decodeList_attributes (m : CRadiusMessage) (as : List CRadiusAttribute)
    (xs : List (UInt8 × Bytes)) :
    decodeList e secret { m with myAttributes := as } xs = decodeList e secret m xs := by
  induction xs with
  | nil => rfl
  | cons x xs ih =>
    unfold decodeList
    rw [ih]
    rfl

/-- **The loop along a chain of entries that is all there is.** -/
theorem decodeFrom_chain {m : CRadiusMessage} {totalLen parsed : Nat} {xs : List (UInt8 × Bytes)}
    (h : Tlv.Chain m.myData parsed xs totalLen) :
    decodeFrom e secret totalLen parsed m =
      (fun r => (r.1, { m with myAttributes := m.myAttributes ++ r.2 })) <$>
        decodeList e secret m xs := by
  induction xs generalizing parsed m with
  | nil =>
    cases h
    rw [decodeFrom_end, decodeList]
    show Except.ok (0, m) = Except.ok (0, { m with myAttributes := m.myAttributes ++ [] })
    rw [List.append_nil]
  | cons x xs ih =>
    obtain ⟨head, rest⟩ : Tlv.At m.myData parsed x ∧
        Tlv.Chain m.myData (parsed + (2 + x.2.length)) xs totalLen := by
      cases h with
      | cons head rest => exact ⟨head, rest⟩
    rw [decodeFrom_entry head rest.le, decodeList]
    cases decodeEntry e secret m x with
    | error f => rfl
    | ok o =>
      cases o with
      | none =>
        show Except.ok (-1, m) = Except.ok (-1, { m with myAttributes := m.myAttributes ++ [] })
        rw [List.append_nil]
      | some attr =>
        have hrest := ih (m := { m with myAttributes := m.myAttributes ++ [attr] }) rest
        rw [decodeList_attributes] at hrest
        show decodeFrom e secret totalLen _ _ = _
        rw [hrest]
        cases decodeList e secret m xs with
        | error f => rfl
        | ok r =>
          show Except.ok (r.1, { m with
            myAttributes := (m.myAttributes ++ [attr]) ++ r.2 }) = Except.ok (r.1, _)
          rw [List.append_assoc]
          rfl

/-- **What the loop does from a place on**, turn by turn, with what it ends in. -/
inductive Decodes (e : RadiusEnv) (secret : Bytes) (totalLen : Nat) :
    CRadiusMessage → Nat → Except Fault (Int × CRadiusMessage) → Prop
  | finished {m : CRadiusMessage} {parsed : Nat} (hend : totalLen ≤ parsed) :
      Decodes e secret totalLen m parsed (.ok (0, m))
  | malformed {m : CRadiusMessage} {parsed : Nat} (hmore : parsed < totalLen)
      (hbad : (byteAt m.myData (parsed + 1)).toNat < 2 ∨
        parsed + (byteAt m.myData (parsed + 1)).toNat > totalLen) :
      Decodes e secret totalLen m parsed (.ok (-1, m))
  | refused {m : CRadiusMessage} {parsed : Nat} {x : UInt8 × Bytes}
      (hx : Tlv.At m.myData parsed x) (hfit : parsed + (2 + x.2.length) ≤ totalLen)
      (hentry : decodeEntry e secret m x = .ok none) :
      Decodes e secret totalLen m parsed (.ok (-1, m))
  | fault {m : CRadiusMessage} {parsed : Nat} {x : UInt8 × Bytes} {f : Fault}
      (hx : Tlv.At m.myData parsed x) (hfit : parsed + (2 + x.2.length) ≤ totalLen)
      (hentry : decodeEntry e secret m x = .error f) :
      Decodes e secret totalLen m parsed (.error f)
  | next {m : CRadiusMessage} {parsed : Nat} {x : UInt8 × Bytes} {a : CRadiusAttribute}
      {r : Except Fault (Int × CRadiusMessage)}
      (hx : Tlv.At m.myData parsed x) (hfit : parsed + (2 + x.2.length) ≤ totalLen)
      (hentry : decodeEntry e secret m x = .ok (some a))
      (rest : Decodes e secret totalLen { m with myAttributes := m.myAttributes ++ [a] }
        (parsed + (2 + x.2.length)) r) : Decodes e secret totalLen m parsed r

theorem decodes {m : CRadiusMessage} {totalLen parsed : Nat} (hlen : totalLen ≤ m.myData.length) :
    Decodes e secret totalLen m parsed (decodeFrom e secret totalLen parsed m) := by
  induction hn : totalLen - parsed using Nat.strong_induction_on generalizing parsed m with
  | _ n ih =>
    by_cases hmore : parsed < totalLen
    · by_cases hbad : (byteAt m.myData (parsed + 1)).toNat < 2 ∨
          parsed + (byteAt m.myData (parsed + 1)).toNat > totalLen
      · rw [decodeFrom_malformed hmore hbad]
        exact .malformed hmore hbad
      have hat := Tlv.At.of_header (p := m.myData) (i := parsed) (by omega) (by omega)
      have hlength := hat.length
      have hfit : parsed + (2 + (Tlv.entryAt m.myData parsed).2.length) ≤ totalLen := by omega
      rw [decodeFrom_entry hat hfit]
      cases ho : decodeEntry e secret m (Tlv.entryAt m.myData parsed) with
      | error f => exact .fault hat hfit ho
      | ok o =>
        cases o with
        | none => exact .refused hat hfit ho
        | some a =>
          have hmove :
              totalLen - (parsed + (2 + (Tlv.entryAt m.myData parsed).2.length)) < n := by
            omega
          exact .next hat hfit ho
            (@ih _ hmove { m with myAttributes := m.myAttributes ++ [a] } _ hlen rfl)
    · rw [decodeFrom, if_neg hmore]
      exact .finished (Nat.le_of_not_lt hmore)

/-- **If the loop gets to the end, there is a chain of entries.** -/
theorem Decodes.chain {m' : CRadiusMessage} {r : Except Fault (Int × CRadiusMessage)}
    (hd : Decodes e secret totalLen m parsed r) (hle : parsed ≤ totalLen) (h : r = .ok (0, m')) :
    ∃ xs, Tlv.Chain m.myData parsed xs totalLen := by
  induction hd with
  | finished hend =>
    obtain rfl := Nat.le_antisymm hle hend
    exact ⟨[], .nil _⟩
  | malformed => cases h
  | refused => cases h
  | fault => cases h
  | next hx hfit _ _ ih =>
    obtain ⟨xs, hxs⟩ := ih hfit h
    exact ⟨_ :: xs, .cons hx hxs⟩

theorem chain_of_decodeFrom {m' : CRadiusMessage} (hle : parsed ≤ totalLen)
    (hlen : totalLen ≤ m.myData.length) (h : decodeFrom e secret totalLen parsed m = .ok (0, m')) :
    ∃ xs, Tlv.Chain m.myData parsed xs totalLen := (decodes hlen).chain hle h

/-- Of the message it is read from, an entry needs the code and the authenticator. -/
theorem decodeEntry_congr {n : CRadiusMessage} (hcode : m.code = n.code)
    (hauth : m.authenticator = n.authenticator) (x : UInt8 × Bytes) :
    decodeEntry e secret m x = decodeEntry e secret n x := by
  unfold decodeEntry decodeUserPassword
  rw [hcode, hauth]

theorem decodeList_congr {n : CRadiusMessage} (hcode : m.code = n.code)
    (hauth : m.authenticator = n.authenticator) (xs : List (UInt8 × Bytes)) :
    decodeList e secret m xs = decodeList e secret n xs := by
  induction xs with
  | nil => rfl
  | cons x xs ih =>
    unfold decodeList
    rw [ih, decodeEntry_congr hcode hauth]

end CRadiusMessage

/-! ## 4. Attributes and entries -/

namespace CRadiusAttribute

/-- What the constructors see to: a vendor for a vendor-specific attribute and for no other, and
    passwords of whole blocks. -/
structure Made (a : CRadiusAttribute) : Prop where
  vendor : (a.myType ≠ RA_VENDOR_SPECIFIC ∧ a.myVendorId = 0) ∨
    (a.myType = RA_VENDOR_SPECIFIC ∧ a.myVendorId ≠ 0)
  blocks : a.myType = RA_USER_PASSWORD → a.myValue.length % 16 = 0

/-- The attribute as an entry. -/
def entryOf (a : CRadiusAttribute) : UInt8 × Bytes :=
  (a.myType, if a.myType = RA_VENDOR_SPECIFIC then putLong a.myVendorId ++ a.myValue else a.myValue)

variable {a : CRadiusAttribute}

theorem length_eq (h : a.Made) : a.length = 2 + a.entryOf.2.length := by
  have h4 : (putLong a.myVendorId).length = 4 := rfl
  unfold CRadiusAttribute.length entryOf
  obtain ⟨htype, hid⟩ | ⟨htype, hid⟩ := h.vendor
  · rw [if_pos hid, if_neg htype]
    dsimp only
    omega
  · rw [if_neg hid, if_pos htype, List.length_append]
    omega

theorem append_of_le {msgDat val : Bytes} (h : msgDat.length + val.length ≤ RadiusMaxPacketSize) :
    CRadiusData.append msgDat val = msgDat ++ val := if_neg (Nat.not_lt.mpr h)

/-- **`encode` writes the entry**, with its length cut to a byte. -/
theorem encode_eq (h : a.Made) (hlen : a.length ≤ RadiusMaxPacketSize) :
    a.encode = Tlv.bytes a.entryOf := by
  have hmax : RadiusMaxPacketSize = 4096 := rfl
  have h4 : (putLong a.myVendorId).length = 4 := rfl
  rw [length_eq h] at hlen
  unfold entryOf at hlen
  unfold encode entryOf Tlv.bytes
  have hone : CRadiusData.append [] [a.myType] = [a.myType] := rfl
  have htwo : ∀ n : UInt8, CRadiusData.append [a.myType] [n] = [a.myType, n] := fun _ => rfl
  dsimp only
  rw [hone, htwo, htwo]
  by_cases hv : a.myType = RA_VENDOR_SPECIFIC
  · rw [if_pos hv, if_pos hv]
    rw [if_pos hv, List.length_append] at hlen
    have hid : ∀ n : UInt8, CRadiusData.append [a.myType, n] (putLong a.myVendorId) =
        [a.myType, n] ++ putLong a.myVendorId := fun _ => rfl
    rw [hid, append_of_le (by simp only [List.length_append, List.length_cons, List.length_nil]; omega),
      List.append_assoc, List.length_append, h4, show a.myValue.length + 6 =
        2 + (4 + a.myValue.length) by omega]
  · rw [if_neg hv, if_neg hv]
    rw [if_neg hv] at hlen
    rw [append_of_le (by simp only [List.length_cons, List.length_nil]; omega), Nat.add_comm]

theorem ofData_eq_ok {type : UInt8} {value : Bytes} {vendorId : UInt32}
    (h : ofData type value vendorId = .ok a) :
    ((type ≠ RA_VENDOR_SPECIFIC ∧ vendorId = 0) ∨ (type = RA_VENDOR_SPECIFIC ∧ vendorId ≠ 0)) ∧
      a = { myType := type, myVendorId := vendorId,
            myValue :=
              if type = RA_USER_PASSWORD ∧ value.length % 16 ≠ 0 then
                CRadiusData (value ++ List.replicate (16 - value.length % 16) 0)
                  ((value.length + 16) / 16 * 16)
              else value } := by
  unfold ofData assert at h
  split at h
  · rename_i hv
    refine ⟨hv, ?_⟩
    change (if _ then _ else _) = _ at h
    split at h <;> rename_i hp
    · cases h
      rw [if_pos hp]
    · cases h
      rw [if_neg hp]
  · cases h

end CRadiusAttribute

end OpenBras
