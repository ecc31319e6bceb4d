/-
  File:      OpenBras/L2TP/Proxy.lean
  Subject:   THE PROXY ARRAYS OF A MESSAGE, AND THE AVPs THEY ARE FILLED FROM.

  An array of `L2tpSessionProxy` is meant to hold the value of its AVP and the value's length. The
  handlers get a pointer to the AVP's HEADER and the size of the whole AVP, and hand both to
  `memcpy`: six bytes of header stand in front of what is copied, the length counts them, and
  nothing is compared with the size of the array. So an accepted message fills its arrays as they
  are meant exactly if it has no AVP for any of them.

  An array is modelled by the bytes copied into it. Where these are more than it has room for, the
  copy runs on into the next members of the message and past its end; the length that is recorded
  for the last array copied to is wrong in any case.
-/
import OpenBras.L2TP.Builders

namespace OpenBras

open Wire

namespace CL2TPControllMessage

/-- What an array ought to hold of its AVP: the value and its length. -/
def Seen.meant (e : Seen) : Bytes × UInt16 := (e.value, e.value.length.toUInt16)

/-- The array holds the value of the last of these AVPs that is for it, or what it held before,
    and no value among them is longer than the array. -/
structure Faithful (a : ProxyArray) (es : List Seen) (old new : L2tpSessionProxy) : Prop where
  holds : a.get new = ((es.filterMap (Seen.isFor a)).getLast?.map Seen.meant).getD (a.get old)
  fits : ∀ e ∈ es.filterMap (Seen.isFor a), e.value.length ≤ a.capacity

theorem mem_isFor {a : ProxyArray} {es : List Seen} {e : Seen} :
    e ∈ es.filterMap (Seen.isFor a) ↔ e ∈ es ∧ a.attr = e.attr := by
  rw [List.mem_filterMap]
  constructor
  · rintro ⟨x, hx, hfor⟩
    rw [Seen.isFor] at hfor
    split at hfor
    · cases hfor
      exact ⟨hx, ‹_›⟩
    · cases hfor
  · rintro ⟨he, hattr⟩
    exact ⟨e, he, if_pos hattr⟩

/-- The length that is stored counts the header. -/
theorem stored_ne_meant {e : Seen} (h : AVP_HDR ≤ e.size ∧ e.size ≤ MAXAVPSIZE) :
    e.stored ≠ e.meant := by
  intro heq
  have hlen := congrArg (fun p : Bytes × UInt16 => p.2.toNat) heq
  simp only [Seen.stored, Seen.meant, Seen.value, length_bytesAt, Nat.toUInt16_eq,
    UInt16.toNat_ofNat'] at hlen
  have hhdr : AVP_HDR = 6 := rfl
  have hmax : MAXAVPSIZE = 1023 := rfl
  omega

theorem ProxyArray.attr_known (a : ProxyArray) : a.attr ≤ AVP_MAX := by
  cases a <;> decide

/-- For every accepted message, whatever it meets: the arrays are filled as they are meant exactly
    if there is no AVP for any of them. -/
theorem proxy_arrays_faithful_iff (fuel n : Nat) (buffer : Bytes) (m : CL2TPControllMessage)
    (r : AvpLoop) (h : handleAVPs fuel buffer n m = some (0, r)) :
    (∀ a, Faithful a (avpsOf fuel buffer n) m.proxy r.msg.proxy) ↔
      ∀ e ∈ avpsOf fuel buffer n, ∀ a : ProxyArray, a.attr ≠ e.attr := by
  constructor
  · intro hall e he a hattr
    obtain ⟨hholds, -⟩ := hall a
    have hmem : e ∈ (avpsOf fuel buffer n).filterMap (Seen.isFor a) := mem_isFor.mpr ⟨he, hattr⟩
    rw [handleAVPs_array h a] at hholds
    -- the array shows the last AVP for it
    obtain ⟨x, hx⟩ := Option.isSome_iff_exists.mp
      (List.getLast?_isSome.mpr (List.ne_nil_of_mem hmem))
    obtain ⟨hxs, hxa⟩ := mem_isFor.mp (List.mem_of_getLast? hx)
    rw [hx] at hholds
    have hsized : x.Sized := (loop_seen h).2 x hxs
    exact stored_ne_meant (hsized (hxa ▸ a.attr_known)) hholds
  · intro hnone a
    have hnil : (avpsOf fuel buffer n).filterMap (Seen.isFor a) = [] :=
      List.filterMap_eq_nil_iff.mpr fun e he => if_neg (hnone e he a)
    refine ⟨?_, ?_⟩
    · rw [handleAVPs_array h a, hnil]
      rfl
    · rw [hnil]
      exact nofun

/-- A message type and a tunnel id. -/
theorem proxy_arrays_untouched :
    ∃ r, handleAVPs 3 (built 1 [.tunnelid 7] 1 2 3 4) 28 {} = some (0, r) ∧
      ∀ a, Faithful a (avpsOf 3 (built 1 [.tunnelid 7] 1 2 3 4) 28) {} r.msg.proxy := by
  have hattrs : ∀ e ∈ avpsOf 3 (built 1 [.tunnelid 7] 1 2 3 4) 28, e.attr = 0 ∨ e.attr = 9 := by
    have hmap : (avpsOf 3 (built 1 [.tunnelid 7] 1 2 3 4) 28).map Seen.attr = [0, 9] := by
      decide +kernel
    intro e he
    have hmem := List.mem_map_of_mem (f := Seen.attr) he
    rw [hmap] at hmem
    simpa using hmem
  refine ⟨_, rfl, (proxy_arrays_faithful_iff 3 28 (built 1 [.tunnelid 7] 1 2 3 4) {} _ rfl).mpr ?_⟩
  intro e he a
  obtain h | h := hattrs e he <;> rw [h] <;> cases a <;> decide

/-- The name `ab` comes in with its header in front, and eight bytes long. A response of twenty
    bytes is accepted, though its array has sixteen. -/
theorem proxy_arrays_wrong :
    ((handleAVPs 3 (built 1 [.proxy_auth_name [0x61, 0x62] 2] 1 2 3 4) 28 {}).map fun r =>
        (r.1, r.2.msg.proxy.authenName, r.2.msg.proxy.authenNameLen)) =
      some (0, [0x08, 0x80, 0, 0, 30, 0, 0x61, 0x62], 8) ∧
    ((handleAVPs 3 (built 1 [.proxy_auth_response (List.replicate 20 0xAA) 20] 1 2 3 4) 46 {}).map
        fun r => (r.1, r.2.msg.proxy.authenResponse.length, r.2.msg.proxy.authenResponseLen)) =
      some (0, 26, 26) ∧
    ProxyArray.capacity .authenResponse = 16 := by
  decide +kernel

end CL2TPControllMessage

end OpenBras
