/-
  File:      OpenBras/L2TP/Contents.lean
  Subject:   WHAT `HandleAVPs` MAKES OF THE AVPs OF A MESSAGE.

  Every handler of the table either ignores its AVP, or sets a number to the half word behind
  the header, or copies the AVP into an array of the session proxy (`handler_cases`). So the
  message after a walk that is accepted is the old one, with the handlers' effects in the order
  in which the AVPs stand (`loop_seen`), and each field holds what the last AVP for it put there
  (`handleAVPs_array` for the arrays).
-/
import OpenBras.L2TP.Avps
import OpenBras.Lib.Lens

namespace OpenBras

open Wire

namespace CL2TPControllMessage

/-! ## 1. Which handler writes what -/

/-- The fields that are set to the half word behind the header. -/
inductive Number where
  | messatetype | assigtunenid | assigcallid | authenType | authenID
  deriving DecidableEq

namespace Number

def attr : Number → UInt16
  | .messatetype => 0
  | .assigtunenid => 9
  | .assigcallid => 14
  | .authenType => 29
  | .authenID => 32

def get : Number → CL2TPControllMessage → UInt16
  | .messatetype, m => m.messatetype
  | .assigtunenid, m => m.assigtunenid
  | .assigcallid, m => m.assigcallid
  | .authenType, m => m.proxy.authenType
  | .authenID, m => m.proxy.authenID

def set : Number → UInt16 → CL2TPControllMessage → CL2TPControllMessage
  | .messatetype, v, m => { m with messatetype := v }
  | .assigtunenid, v, m => { m with assigtunenid := v }
  | .assigcallid, v, m => { m with assigcallid := v }
  | .authenType, v, m => { m with proxy := { m.proxy with authenType := v } }
  | .authenID, v, m => { m with proxy := { m.proxy with authenID := v } }

theorem get_set (f : Number) (v : UInt16) (m : CL2TPControllMessage) : f.get (f.set v m) = v := by
  cases f <;> rfl

theorem get_set_ne {f g : Number} (h : f ≠ g) (v : UInt16) (m : CL2TPControllMessage) :
    f.get (g.set v m) = f.get m := by
  cases f <;> cases g <;> first | rfl | exact absurd rfl h

end Number

/-- The arrays of the session proxy, each with its length beside it. -/
inductive ProxyArray where
  | initRcvLcpConf | lastSendLcpConf | lastRcvLcpConf | authenName | authenChallenge
  | authenResponse
  deriving DecidableEq

namespace ProxyArray

def attr : ProxyArray → UInt16
  | .initRcvLcpConf => 26
  | .lastSendLcpConf => 27
  | .lastRcvLcpConf => 28
  | .authenName => 30
  | .authenChallenge => 31
  | .authenResponse => 33

/-- The sizes of the arrays. -/
def capacity : ProxyArray → Nat
  | .initRcvLcpConf => 64
  | .lastSendLcpConf => 64
  | .lastRcvLcpConf => 64
  | .authenName => 73
  | .authenChallenge => 64
  | .authenResponse => 16

def get : ProxyArray → L2tpSessionProxy → Bytes × UInt16
  | .initRcvLcpConf, x => (x.initRcvLcpConf, x.initRcvLcpConfLen)
  | .lastSendLcpConf, x => (x.lastSendLcpConf, x.lastSendLcpConfLen)
  | .lastRcvLcpConf, x => (x.lastRcvLcpConf, x.lastRcvLcpConfLen)
  | .authenName, x => (x.authenName, x.authenNameLen)
  | .authenChallenge, x => (x.authenChallenge, x.authenChallengeLen)
  | .authenResponse, x => (x.authenResponse, x.authenResponseLen)

def set : ProxyArray → Bytes → UInt16 → L2tpSessionProxy → L2tpSessionProxy
  | .initRcvLcpConf, b, n, x => { x with initRcvLcpConf := b, initRcvLcpConfLen := n }
  | .lastSendLcpConf, b, n, x => { x with lastSendLcpConf := b, lastSendLcpConfLen := n }
  | .lastRcvLcpConf, b, n, x => { x with lastRcvLcpConf := b, lastRcvLcpConfLen := n }
  | .authenName, b, n, x => { x with authenName := b, authenNameLen := n }
  | .authenChallenge, b, n, x => { x with authenChallenge := b, authenChallengeLen := n }
  | .authenResponse, b, n, x => { x with authenResponse := b, authenResponseLen := n }

theorem get_set (a : ProxyArray) (b : Bytes) (n : UInt16) (x : L2tpSessionProxy) :
    a.get (a.set b n x) = (b, n) := by
  cases a <;> rfl

theorem get_set_ne {a c : ProxyArray} (h : a ≠ c) (b : Bytes) (n : UInt16)
    (x : L2tpSessionProxy) : a.get (c.set b n x) = a.get x := by
  cases a <;> cases c <;> first | rfl | exact absurd rfl h

end ProxyArray

theorem number_get_proxy (f : Number) (a : ProxyArray) (b : Bytes) (n : UInt16)
    (overrun : Bool) (m : CL2TPControllMessage) :
    f.get { m with proxy := a.set b n m.proxy, overrun := overrun } = f.get m := by
  cases f <;> cases a <;> rfl

theorem array_get_set (a : ProxyArray) (f : Number) (v : UInt16) (m : CL2TPControllMessage) :
    a.get (f.set v m).proxy = a.get m.proxy := by
  cases a <;> cases f <;> rfl

theorem handler_cases (attr : UInt16) :
    handler attr = none ∨ handler attr = some .ignoring ∨
      (∃ f : Number, f.attr = attr ∧ handler attr = some (.value f.set)) ∨
      ∃ a : ProxyArray, a.attr = attr ∧ handler attr = some (.copy a.capacity a.set) := by
  by_cases hlt : attr.toNat < 40
  · obtain ⟨n, hn⟩ : ∃ n, n = attr.toNat := ⟨_, rfl⟩
    obtain rfl : attr = n.toUInt16 := by rw [hn]; simp
    rw [← hn] at hlt
    clear hn
    interval_cases n
    all_goals first
      | exact .inl rfl
      | exact .inr (.inl rfl)
      | exact .inr (.inr (.inl ⟨.messatetype, rfl, rfl⟩))
      | exact .inr (.inr (.inl ⟨.assigtunenid, rfl, rfl⟩))
      | exact .inr (.inr (.inl ⟨.assigcallid, rfl, rfl⟩))
      | exact .inr (.inr (.inl ⟨.authenType, rfl, rfl⟩))
      | exact .inr (.inr (.inl ⟨.authenID, rfl, rfl⟩))
      | exact .inr (.inr (.inr ⟨.initRcvLcpConf, rfl, rfl⟩))
      | exact .inr (.inr (.inr ⟨.lastSendLcpConf, rfl, rfl⟩))
      | exact .inr (.inr (.inr ⟨.lastRcvLcpConf, rfl, rfl⟩))
      | exact .inr (.inr (.inr ⟨.authenName, rfl, rfl⟩))
      | exact .inr (.inr (.inr ⟨.authenChallenge, rfl, rfl⟩))
      | exact .inr (.inr (.inr ⟨.authenResponse, rfl, rfl⟩))
  · refine .inl ?_
    rw [handler, List.getElem?_eq_none (by simpa [avps] using hlt)]
    rfl

theorem handler_number (f : Number) : handler f.attr = some (.value f.set) := by
  cases f <;> rfl

theorem handler_array (a : ProxyArray) : handler a.attr = some (.copy a.capacity a.set) := by
  cases a <;> rfl

/-- The message without the fields that handlers write. -/
def hdr (m : CL2TPControllMessage) : CL2TPControllMessage :=
  { m with messatetype := 0, assigtunenid := 0, assigcallid := 0, proxy := {}, overrun := false }

/-! ## 2. The AVPs that are handled -/

/-- An AVP as its handler meets it: the attribute, the size, and the memory from its header on,
    with the header in host byte order. -/
structure Seen where
  attr : UInt16
  size : Nat
  data : Bytes

namespace Seen

/-- The bytes behind the header. -/
def value (e : Seen) : Bytes := bytesAt e.data AVP_HDR (e.size - AVP_HDR)

/-- What the handler makes of the message. -/
def effect (m : CL2TPControllMessage) (e : Seen) : CL2TPControllMessage :=
  (handler e.attr).elim m fun h => (h.run e.data e.size m).2

/-- What an AVP writes to a number. -/
def number (f : Number) (e : Seen) : Option UInt16 :=
  if f.attr = e.attr then some (getShort e.data AVP_HDR) else none

/-- The AVP, if it is for the array. -/
def isFor (a : ProxyArray) (e : Seen) : Option Seen := if a.attr = e.attr then some e else none

/-- What an AVP writes to its array: all of itself. -/
def stored (e : Seen) : Bytes × UInt16 := (e.data.take e.size, e.size.toUInt16)

theorem effect_number (f : Number) (m : CL2TPControllMessage) (e : Seen) :
    f.get (effect m e) = (number f e).getD (f.get m) := by
  by_cases hf : f.attr = e.attr
  · rw [number, if_pos hf, effect, ← hf, handler_number]
    exact f.get_set _ m
  rw [number, if_neg hf, effect]
  obtain h | h | ⟨g, hg, h⟩ | ⟨a, ha, h⟩ := handler_cases e.attr <;> rw [h]
  · rfl
  · rfl
  · refine Number.get_set_ne (fun hfg => hf ?_) _ m
    rw [hfg, hg]
  · exact number_get_proxy f a _ _ _ m

theorem effect_array (a : ProxyArray) (m : CL2TPControllMessage) (e : Seen) :
    a.get (effect m e).proxy = ((e.isFor a).map stored).getD (a.get m.proxy) := by
  by_cases ha : a.attr = e.attr
  · rw [isFor, if_pos ha, effect, ← ha, handler_array]
    exact a.get_set _ _ m.proxy
  rw [isFor, if_neg ha, effect]
  obtain h | h | ⟨f, hf, h⟩ | ⟨c, hc, h⟩ := handler_cases e.attr <;> rw [h]
  · rfl
  · rfl
  · exact array_get_set a f _ m
  · refine ProxyArray.get_set_ne (fun hac => ha ?_) _ _ m.proxy
    rw [hac, hc]

theorem effect_hdr (m : CL2TPControllMessage) (e : Seen) : (effect m e).hdr = m.hdr := by
  rw [effect]
  obtain h | h | ⟨f, -, h⟩ | ⟨a, -, h⟩ := handler_cases e.attr <;> rw [h]
  · rfl
  · rfl
  · cases f <;> rfl
  · cases a <;> rfl

end Seen

/-- The AVPs of the memory `p`, of which `len` bytes are still to be walked, that are not passed
    over for a reserved bit. -/
def seen : Nat → Bytes → Int → List Seen
  | 0, _, _ => []
  | fuel + 1, p, len =>
    if len > 0 then
      let length := getShort p 0
      let more :=
        seen fuel ((swaps (AVP_HDR / 2) p).drop (ALENGTH length)) (len - ALENGTH length)
      if AZBITS length then more
      else ⟨getShort p 4, ALENGTH length, swaps (AVP_HDR / 2) p⟩ :: more
    else []

/-- `HandleAVPs`, with a bound on the turns of its loop. -/
def handleAVPs (fuel : Nat) (buffer : Bytes) (n : Nat) (m : CL2TPControllMessage) :
    Option (Int × AvpLoop) :=
  loop avpTurn fuel (avpStart buffer n m [(0, CONTROL_HDR)])

theorem handled_msg (length attr : UInt16) (s : AvpLoop) :
    (s.handled length attr).msg =
      if AZBITS length then s.msg else Seen.effect s.msg ⟨attr, ALENGTH length, s.data⟩ := by
  rw [AvpLoop.handled]
  split
  · rfl
  · rw [Seen.effect]
    cases handler attr <;> rfl

/-- The sizes of the AVPs that are handled, in a walk that is accepted. -/
def Seen.Sized (e : Seen) : Prop := e.attr ≤ AVP_MAX → AVP_HDR ≤ e.size ∧ e.size ≤ MAXAVPSIZE

theorem ALENGTH_le (length : UInt16) : ALENGTH length ≤ MAXAVPSIZE := by
  rw [ALENGTH, UInt16.toNat_and]
  exact Nat.and_le_right

theorem avpTurn_goes {s : AvpLoop} (hl : s.len > 0)
    (hr : ¬ Refused s.firstavp s.len (getShort s.data 0) (getShort s.data 4)) :
    ∃ t, avpTurn s = .inl t ∧ t.firstavp = false ∧
      t.data = (swaps (AVP_HDR / 2) s.data).drop (ALENGTH (getShort s.data 0)) ∧
      t.len = s.len - ALENGTH (getShort s.data 0) ∧
      t.msg = if AZBITS (getShort s.data 0) then s.msg
        else Seen.effect s.msg
          ⟨getShort s.data 4, ALENGTH (getShort s.data 0), swaps (AVP_HDR / 2) s.data⟩ := by
  refine ⟨_, (avpTurn_eq hl).trans (if_neg hr), rfl, ?_, ?_, handled_msg _ _ s.look⟩
  · rw [AvpLoop.next, handled_data]
    rfl
  · rw [AvpLoop.next, handled_len]
    rfl

theorem sized_of_passed {first : Bool} {len : Int} {length attr : UInt16}
    (hr : ¬ Refused first len length attr) (data : Bytes) :
    Seen.Sized ⟨attr, ALENGTH length, data⟩ := by
  intro hknown
  rw [Refused, if_neg (UInt16.not_lt.mpr hknown)] at hr
  exact ⟨Nat.le_of_not_lt fun hshort => hr (.inr (.inr (.inl hshort))), ALENGTH_le length⟩

/-- The message after a walk that is accepted, and the sizes of the AVPs it met. -/
theorem loop_seen {fuel : Nat} {s r : AvpLoop} (h : loop avpTurn fuel s = some (0, r)) :
    r.msg = (seen fuel s.data s.len).foldl Seen.effect s.msg ∧
      ∀ e ∈ seen fuel s.data s.len, e.Sized := by
  induction fuel generalizing s with
  | zero => cases h
  | succ fuel ih =>
    rw [loop] at h
    rw [seen]
    by_cases hl : s.len > 0
    · rw [if_pos hl]
      by_cases hr : Refused s.firstavp s.len (getShort s.data 0) (getShort s.data 4)
      · rw [avpTurn_eq hl, if_pos hr] at h
        cases h
      obtain ⟨t, ht, -, hdata, hlen, hmsg⟩ := avpTurn_goes hl hr
      rw [ht] at h
      obtain ⟨hfold, hsized⟩ := ih h
      rw [hdata, hlen] at hfold hsized
      dsimp only
      split at hmsg
      · rw [if_pos ‹_›, hfold, hmsg]
        exact ⟨rfl, hsized⟩
      · rw [if_neg ‹_›, hfold, hmsg]
        exact ⟨rfl, List.forall_mem_cons.mpr ⟨sized_of_passed hr _, hsized⟩⟩
    · rw [avpTurn, if_neg hl] at h
      rw [if_neg hl]
      obtain ⟨-, rfl⟩ := Prod.mk.inj (Option.some.inj h)
      exact ⟨rfl, fun e he => absurd he List.not_mem_nil⟩

section accepted

variable {fuel n : Nat} {buffer : Bytes} {m : CL2TPControllMessage} {r : AvpLoop}

/-- The AVPs of a message of `n` bytes. -/
def avpsOf (fuel : Nat) (buffer : Bytes) (n : Nat) : List Seen :=
  seen fuel (buffer.drop CONTROL_HDR) (n - CONTROL_HDR)

theorem handleAVPs_array (h : handleAVPs fuel buffer n m = some (0, r)) (a : ProxyArray) :
    a.get r.msg.proxy =
      (((avpsOf fuel buffer n).filterMap (Seen.isFor a)).getLast?.map Seen.stored).getD
        (a.get m.proxy) := by
  rw [(loop_seen h).1, ← List.getLast?_map, List.map_filterMap]
  exact foldl_last (fun m : CL2TPControllMessage => a.get m.proxy) (Seen.effect_array a) _ _

end accepted

end CL2TPControllMessage

end OpenBras
