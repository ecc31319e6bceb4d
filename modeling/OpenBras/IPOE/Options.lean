/-
  File:      OpenBras/IPOE/Options.lean
  Subject:   THE OPTIONS OF A DHCP DATAGRAM: where the list `marshall` makes is the one RFC 2132
             reads from the datagram, and nothing outside of the datagram is looked at.

  Code and rule part at three places. The code takes the octet behind the code of an option as
  its length even where the datagram has ended; a length of 128 or more is negative, and costs the
  whole packet; and an option that ends with the last octet of the datagram counts as one that
  does not fit. `Plain` says of the octets of the options that none of this is met
  (`marshall_options_iff`). A datagram without a whole cookie is looked at as if it had one,
  unless even the static part is incomplete.
-/
import OpenBras.IPOE.Packet

namespace OpenBras

open Wire

namespace DHCPPacket

/-! ## 1. The rule -/

/-- The options RFC 2132 reads from the octets behind the cookie: pads are skipped, and the list
    ends at End, with the octets, or before the first option that is not there as a whole. -/
def rfc2132 : Bytes → List DhcpOption
  | [] => []
  | [_] => []
  | code :: len :: rest =>
    if code = DHO_PAD then rfc2132 (len :: rest)
    else if code = DHO_END then []
    else if len.toNat ≤ rest.length then
      { code, value := rest.take len.toNat } :: rfc2132 (rest.drop len.toNat)
    else []
termination_by area => area.length
decreasing_by all_goals simp only [List.length_cons, List.length_drop]; omega

/-- No option is met that lacks its length, none of 128 octets or more, and none that ends with
    the datagram. -/
def Plain : Bytes → Prop
  | [] => True
  | [code] => code = DHO_PAD ∨ code = DHO_END
  | code :: len :: rest =>
    if code = DHO_PAD then Plain (len :: rest)
    else if code = DHO_END then True
    else
      len < 128 ∧ len.toNat ≠ rest.length ∧
        if len.toNat < rest.length then Plain (rest.drop len.toNat) else True
termination_by area => area.length
decreasing_by all_goals simp only [List.length_cons, List.length_drop]; omega

section
variable {code len : UInt8} {rest : Bytes}

theorem rfc2132_pad (area : Bytes) : rfc2132 (DHO_PAD :: area) = rfc2132 area := by
  cases area with
  | nil => rw [rfc2132, rfc2132]
  | cons len rest => rw [rfc2132, if_pos rfl]

theorem plain_pad (area : Bytes) : Plain (DHO_PAD :: area) ↔ Plain area := by
  cases area with
  | nil => simp [Plain]
  | cons len rest => rw [Plain, if_pos rfl]

theorem rfc2132_end (area : Bytes) : rfc2132 (DHO_END :: area) = [] := by
  cases area with
  | nil => rw [rfc2132]
  | cons len rest => rw [rfc2132, if_neg (by decide), if_pos rfl]

theorem plain_end (area : Bytes) : Plain (DHO_END :: area) := by
  cases area with
  | nil => simp [Plain]
  | cons len rest => rw [Plain, if_neg (by decide), if_pos rfl]; trivial

theorem rfc2132_option (hpad : code ≠ DHO_PAD) (hend : code ≠ DHO_END) :
    rfc2132 (code :: len :: rest) =
      if len.toNat ≤ rest.length then
        { code, value := rest.take len.toNat } :: rfc2132 (rest.drop len.toNat)
      else [] := by
  rw [rfc2132, if_neg hpad, if_neg hend]

theorem plain_option (hpad : code ≠ DHO_PAD) (hend : code ≠ DHO_END) :
    Plain (code :: len :: rest) ↔
      len < 128 ∧ len.toNat ≠ rest.length ∧
        (len.toNat < rest.length → Plain (rest.drop len.toNat)) := by
  rw [Plain, if_neg hpad, if_neg hend]
  split <;> simp [*]

end

/-! ## 2. The loop -/

/-- The pieces lie inside a datagram of `n` octets. -/
def Inside (n : Nat) (reads : List (Nat × Nat)) : Prop := ∀ r ∈ reads, r.1 + r.2 ≤ n

theorem inside_append {n : Nat} {rs ss : List (Nat × Nat)} :
    Inside n (rs ++ ss) ↔ Inside n rs ∧ Inside n ss := List.forall_mem_append

/-- The loop gives the list of the rule and stays inside the datagram. -/
def Walk.Right (n : Nat) (options : List DhcpOption) (w : Walk) : Prop :=
  w.options = some options ∧ Inside n w.reads

theorem Walk.right_note {n : Nat} {options : List DhcpOption} {rs : List (Nat × Nat)} {w : Walk}
    (h : Inside n rs) : (w.note rs).Right n options ↔ w.Right n options := by
  simp only [Walk.Right, Walk.note, inside_append, h, true_and]

theorem Walk.right_found {n : Nat} {o : DhcpOption} {options : List DhcpOption} {w : Walk} :
    (w.found o).Right n (o :: options) ↔ w.Right n options := by
  simp [Walk.Right, Walk.found]

section
variable {mem : Nat → Bool} {d rest : Bytes} {o : Nat}

/-- The octets from `o` on, seen from the loop. -/
theorem drop_eq_byteAt_cons (rest : Bytes) (h : o < d.length) :
    d.drop o = byteAt (d ++ rest) (0 + o) :: d.drop (o + 1) := by
  rw [List.drop_eq_getElem_cons h, Nat.zero_add, byteAt_append h, byteAt,
    List.getD_eq_getElem?_getD, List.getElem?_eq_getElem h, Option.getD_some]

/-- **An option and the rule**, where the datagram has its length. -/
theorem Opens.right_iff (h : Opens (d ++ rest) 0 d.length o) (hmem : ∀ n, mem n = true)
    (hlt : o + 1 < d.length)
    (ih : ∀ u, o < u → u ≤ d.length →
      ((optionLoop mem (d ++ rest) 0 d.length u).Right d.length (rfc2132 (d.drop u)) ↔
        Plain (d.drop u))) :
    (optionLoop mem (d ++ rest) 0 d.length o).Right d.length (rfc2132 (d.drop o)) ↔
      Plain (d.drop o) := by
  have hhead : Inside d.length [(0 + o, 1), (0 + o + 1, 1)] := by
    simp only [Inside, List.forall_mem_cons, List.not_mem_nil, false_imp_iff, implies_true,
      and_true]
    omega
  rw [drop_eq_byteAt_cons rest h.lt, drop_eq_byteAt_cons rest hlt,
    plain_option h.not_pad h.not_end, rfc2132_option h.not_pad h.not_end, ← Nat.add_assoc 0 o 1,
    List.length_drop, List.drop_drop]
  by_cases hlen : byteAt (d ++ rest) (0 + o + 1) < 128
  swap
  · refine iff_of_false (fun hr => ?_) fun hp => hlen hp.1
    rw [Walk.Right, h.null hlt hlen] at hr
    cases hr.1
  rw [and_iff_right hlen]
  obtain hge | hfits := le_or_gt d.length (o + 2 + (byteAt (d ++ rest) (0 + o + 1)).toNat)
  · -- the loop ends here; the rule has one more option if the two ends coincide
    rw [h.cut hlen hge]
    by_cases heq : (byteAt (d ++ rest) (0 + o + 1)).toNat = d.length - (o + 1 + 1)
    · rw [if_pos heq.le]
      exact iff_of_false (fun hr => by cases hr.1) fun hp => hp.1 heq
    · rw [if_neg (by omega)]
      exact iff_of_true ⟨rfl, hhead⟩ ⟨heq, fun hp => absurd hp (by omega)⟩
  · have hvalue : bytesAt (d ++ rest) (o + 2) (byteAt (d ++ rest) (0 + o + 1)).toNat =
        (d.drop (o + 2)).take (byteAt (d ++ rest) (0 + o + 1)).toNat := by
      rw [bytesAt_eq (by rw [List.length_append]; omega),
        List.drop_append_of_le_length (by omega),
        List.take_append_of_le_length (by rw [List.length_drop]; omega)]
    have hreads : Inside d.length [(0 + o, 1), (0 + o + 1, 1),
        (o + 2, (byteAt (d ++ rest) (0 + o + 1)).toNat)] :=
      inside_append.mpr ⟨hhead, by simpa [Inside] using hfits.le⟩
    rw [h.option hlen hfits hmem, if_pos (by omega), Walk.right_note hreads, hvalue,
      Walk.right_found, ih _ (by omega) hfits.le]
    constructor
    · exact fun hp => ⟨by omega, fun _ => hp⟩
    · exact fun hp => hp.2 (by omega)

/-- **The loop and the rule.** Induction on the octets that are left. -/
theorem optionLoop_right_iff (rest : Bytes) (hmem : ∀ n, mem n = true) (ho : o ≤ d.length) :
    (optionLoop mem (d ++ rest) 0 d.length o).Right d.length (rfc2132 (d.drop o)) ↔
      Plain (d.drop o) := by
  induction hk : d.length - o using Nat.strong_induction_on generalizing o with
  | _ k ih =>
  obtain heq | hlt := Nat.eq_or_lt_of_le ho
  · rw [optionLoop_done heq.ge, heq, List.drop_length, rfc2132, Plain]
    simp [Walk.Right, Inside]
  have hfirst : Inside d.length [(0 + o, 1)] := by
    rw [Inside, List.forall_mem_singleton]
    omega
  have hdrop := drop_eq_byteAt_cons rest hlt
  obtain hpad | hend | hopen := opens_of_lt (d ++ rest) 0 hlt
  · rw [optionLoop_pad hlt hpad, Walk.right_note hfirst, hdrop, hpad, rfc2132_pad, plain_pad]
    exact ih _ (by omega) hlt rfl
  · rw [optionLoop_end hlt hend, hdrop, hend, rfc2132_end]
    exact iff_of_true ⟨rfl, hfirst⟩ (plain_end _)
  obtain hlast | hlt2 := Nat.eq_or_lt_of_le (Nat.succ_le_of_lt hlt)
  · -- the code is the last octet of the datagram
    refine iff_of_false (fun h => ?_) ?_
    · have := h.2 _ hopen.reads
      omega
    rw [hdrop, show o + 1 = d.length from hlast, List.drop_length, Plain]
    rintro (hp | hp)
    · exact hopen.not_pad hp
    · exact hopen.not_end hp
  · exact hopen.right_iff hmem hlt2 fun u hu hle => ih _ (by omega) hle rfl

end

/-! ## 3. Datagrams -/

theorem marshall_of_cookie {mem : Nat → Bool} (hmem : ∀ n, mem n = true) {buffer : Bytes}
    {length : Nat} (hmin : 240 ≤ length) (hmax : length ≤ DHCP_MAX_MTU)
    (hcookie : bytesAt buffer 236 4 = DHCP_MAGIC_COOKIE) :
    let w := optionLoop mem buffer 0 length 240
    let padding := paddingAt mem length w.options_offset
    marshall mem buffer 0 length =
      w.options.elim (none, staticReads 0 ++ w.reads) fun options =>
        (some { staticPart buffer 0 with
            options, padding := padding.map fun r => bytesAt buffer r.1 r.2 },
          staticReads 0 ++ w.reads ++ padding.toList) := by
  have hpacket : ¬ ¬ malloc mem sizeofPacket = true := by simp [malloc, hmem]
  have hlen : ¬ length < BOOTP_ABSOLUTE_MIN_LEN := by
    simp only [BOOTP_ABSOLUTE_MIN_LEN]
    omega
  unfold marshall
  rw [if_neg hlen, if_neg hmax.not_gt, if_neg hpacket, Nat.zero_add, if_neg (not_not.mpr hcookie)]
  dsimp only
  cases (optionLoop mem buffer 0 length 240).options with
  | none => rfl
  | some options => rfl

theorem static_subset_reads {mem : Nat → Bool} (hmem : ∀ n, mem n = true) (buffer : Bytes)
    (offset : Nat) {length : Nat} (hmin : BOOTP_ABSOLUTE_MIN_LEN ≤ length)
    (hmax : length ≤ DHCP_MAX_MTU) : staticReads offset ⊆ (marshall mem buffer offset length).2 := by
  have hpacket : ¬ ¬ malloc mem sizeofPacket = true := by simp [malloc, hmem]
  unfold marshall
  rw [if_neg hmin.not_gt, if_neg hmax.not_gt, if_neg hpacket]
  split
  · exact List.Subset.refl _
  dsimp only
  split
  · exact List.subset_append_left _ _
  · rw [List.append_assoc]
    exact List.subset_append_left _ _

theorem inside_padding {mem : Nat → Bool} (length o : Nat) :
    Inside length (paddingAt mem length o).toList := by
  unfold paddingAt
  split
  · rw [Option.toList_some, Inside, List.forall_mem_singleton]
    omega
  · simp [Inside]

theorem inside_static {n : Nat} : Inside n (staticReads 0) ↔ 240 ≤ n := by
  simp only [Inside, staticReads, List.forall_mem_cons, List.not_mem_nil, false_imp_iff,
    implies_true, and_true]
  omega

/-- **Where the options are those of the datagram.** Of 240 octets or more with the cookie: the
    list is the one RFC 2132 reads and nothing outside of the datagram is read, exactly if the
    octets of the options are plain. Of less than 240: it is refused without a look behind its
    end exactly if not even the static part is whole. -/
theorem marshall_options_iff {mem : Nat → Bool} (hmem : ∀ n, mem n = true) (d rest : Bytes) :
    (240 ≤ d.length → d.length ≤ DHCP_MAX_MTU → bytesAt d 236 4 = DHCP_MAGIC_COOKIE →
      ((∃ p, (marshall mem (d ++ rest) 0 d.length).1 = some p ∧
          p.options = rfc2132 (d.drop 240)) ∧
        Inside d.length (marshall mem (d ++ rest) 0 d.length).2 ↔ Plain (d.drop 240))) ∧
    (d.length < 240 →
      ((marshall mem (d ++ rest) 0 d.length).1 = none ∧
        Inside d.length (marshall mem (d ++ rest) 0 d.length).2 ↔
          d.length < BOOTP_ABSOLUTE_MIN_LEN)) := by
  constructor
  · intro hmin hmax hcookie
    have hcookie' : bytesAt (d ++ rest) 236 4 = DHCP_MAGIC_COOKIE := by
      rw [← hcookie, bytesAt_eq (by rw [List.length_append]; omega), bytesAt_eq (by omega),
        List.drop_append_of_le_length (by omega),
        List.take_append_of_le_length (by rw [List.length_drop]; omega)]
    rw [marshall_of_cookie hmem hmin hmax hcookie', ← optionLoop_right_iff rest hmem hmin,
      Walk.Right]
    cases (optionLoop mem (d ++ rest) 0 d.length 240).options with
    | none => simp
    | some options =>
      simp [inside_append, inside_static, inside_padding, hmin]
  · intro hlt
    constructor
    · rintro ⟨-, hinside⟩
      by_contra hge
      have hmax : d.length ≤ DHCP_MAX_MTU := by
        simp only [DHCP_MAX_MTU]
        omega
      have hstatic := static_subset_reads hmem (d ++ rest) 0
        (Nat.not_lt.mp hge) hmax
      have := inside_static.mp fun r hr => hinside r (hstatic hr)
      omega
    · intro hmin
      rw [marshall, if_pos hmin]
      exact ⟨rfl, by simp [Inside]⟩

/-- A datagram with the given octets behind the cookie. -/
def withOptions (area : Bytes) : Bytes := List.replicate 236 0 ++ DHCP_MAGIC_COOKIE ++ area

/-- A DHCPDISCOVER, and a datagram that is too short. -/
theorem marshall_options_discover :
    let d := withOptions [53, 1, DHCP_DISCOVER, DHO_END]
    let short : Bytes := List.replicate 100 0
    ((∃ p, (marshall (fun _ => true) (d ++ []) 0 d.length).1 = some p ∧
        p.options = rfc2132 (d.drop 240)) ∧
      Inside d.length (marshall (fun _ => true) (d ++ []) 0 d.length).2) ∧
    ((marshall (fun _ => true) (short ++ []) 0 short.length).1 = none ∧
      Inside short.length (marshall (fun _ => true) (short ++ []) 0 short.length).2) := by
  have hplain : Plain ((withOptions [53, 1, DHCP_DISCOVER, DHO_END]).drop 240) := by
    change Plain [53, 1, DHCP_DISCOVER, DHO_END]
    rw [plain_option (by decide) (by decide)]
    exact ⟨by decide, by decide, fun _ => plain_end []⟩
  exact ⟨((marshall_options_iff (fun _ => rfl) _ []).1 (by decide +kernel) (by decide +kernel)
      (by decide +kernel)).mpr hplain,
    ((marshall_options_iff (fun _ => rfl) _ []).2 (by decide +kernel)).mpr (by decide +kernel)⟩

/-- **An option that ends with the datagram is lost, an option of 128 octets costs the packet, and
    behind a code at the very end the octet after the datagram is read.** -/
theorem marshall_options_lost :
    (let d := withOptions [53, 1, DHCP_DISCOVER]
     (marshall (fun _ => true) d 0 d.length).1.map (·.options) = some [] ∧
      rfc2132 (d.drop 240) = [{ code := 53, value := [DHCP_DISCOVER] }]) ∧
    (let d := withOptions ([43, 128] ++ List.replicate 128 7 ++ [DHO_END])
     (marshall (fun _ => true) d 0 d.length).1 = none ∧
      rfc2132 (d.drop 240) = [{ code := 43, value := List.replicate 128 7 }]) ∧
    (let d := withOptions [53]
     ¬ Inside d.length (marshall (fun _ => true) d 0 d.length).2) := by
  refine ⟨⟨?_, ?_⟩, ⟨?_, ?_⟩, ?_⟩
  · decide +kernel
  · decide +kernel
  · decide +kernel
  · decide +kernel
  · unfold Inside
    decide +kernel

end DHCPPacket

end OpenBras
