/-
  File:      OpenBras/Lib/Wire.lean
  Subject:   BYTES ON THE WIRE: reading and writing big-endian numbers in a byte string.

  A packet is a `List UInt8`, read at a position; a read past the end of the list answers 0
  (the buffer behind a packet is larger than the packet, and the model of a reader says
  separately whether it looked there). Writers return the bytes they emit.
-/
import Mathlib.Data.List.Basic
import Mathlib.Tactic.IntervalCases

namespace OpenBras

abbrev Bytes := List UInt8

theorem iteInduction₂ {α β : Type*} {c : Prop} [Decidable c] {P : α → β → Prop} {a b : α} {x y : β}
    (hpos : c → P a x) (hneg : ¬ c → P b y) : P (if c then a else b) (if c then x else y) := by
  split
  · exact hpos ‹_›
  · exact hneg ‹_›

/-- `memcpy` into the middle of a buffer. -/
def memcpy (p : Bytes) (i : Nat) (q : Bytes) : Bytes :=
  (p ++ List.replicate (i - p.length) 0).take i ++ q ++ p.drop (i + q.length)

variable {p : Bytes} {i : Nat}

theorem memcpy_eq (hp : i ≤ p.length) (q : Bytes) :
    memcpy p i q = p.take i ++ q ++ p.drop (i + q.length) := by
  simp [memcpy, Nat.sub_eq_zero_of_le hp]

theorem take_memcpy (hp : i ≤ p.length) (q : Bytes) :
    (memcpy p i q).take (i + q.length) = p.take i ++ q := by
  rw [memcpy_eq hp]
  exact List.take_left' (by simp only [List.length_append, List.length_take]; omega)

theorem drop_memcpy {q : Bytes} {j : Nat} (hp : i + q.length ≤ p.length) (hj : i + q.length ≤ j) :
    (memcpy p i q).drop j = p.drop j := by
  have hlen : (p.take i ++ q).length = i + q.length := by
    simp only [List.length_append, List.length_take]
    omega
  rw [memcpy_eq (by omega), List.drop_append, List.drop_of_length_le (by omega), hlen,
    List.drop_drop, List.nil_append, Nat.add_sub_cancel' hj]

theorem length_memcpy {q : Bytes} (hp : i + q.length ≤ p.length) :
    (memcpy p i q).length = p.length := by
  rw [memcpy_eq (by omega)]
  simp only [List.length_append, List.length_take, List.length_drop]
  omega

theorem memcpy_self {n : Nat} (hp : i + n ≤ p.length) : memcpy p i ((p.drop i).take n) = p := by
  have hlen : ((p.drop i).take n).length = n := by
    simp only [List.length_take, List.length_drop]
    omega
  rw [memcpy_eq (by omega), hlen, ← List.take_add, List.take_append_drop]

theorem memcpy_twice (p : Bytes) (i : Nat) (q : Bytes) :
    memcpy (memcpy p i q) i q = memcpy p i q := by
  have hfront : ((p ++ List.replicate (i - p.length) 0).take i).length = i := by
    rw [List.length_take, List.length_append, List.length_replicate]
    omega
  generalize hp : memcpy p i q = p'
  rw [memcpy] at hp
  generalize (p ++ List.replicate (i - p.length) 0).take i = front at hp hfront
  have htake : (front ++ q ++ p.drop (i + q.length)).take i = front := by
    rw [List.append_assoc, List.take_left' hfront]
  rw [← hp, memcpy_eq (by simp only [List.length_append]; omega), htake, List.drop_left'
    (by rw [List.length_append, hfront])]

namespace Wire

/-- The byte at position `i`. -/
def byteAt (p : Bytes) (i : Nat) : UInt8 := p.getD i 0

/-- The `n` bytes from position `i` on. -/
def bytesAt (p : Bytes) (i n : Nat) : Bytes := (List.range n).map fun j => byteAt p (i + j)

@[simp] theorem length_bytesAt (p : Bytes) (i n : Nat) : (bytesAt p i n).length = n := by
  simp [bytesAt]

/-- The big-endian 16-bit number at position `i`. -/
def getShort (p : Bytes) (i : Nat) : UInt16 :=
  (byteAt p i).toUInt16 <<< 8 ||| (byteAt p (i + 1)).toUInt16

/-- The big-endian 32-bit number at position `i`. -/
def getLong (p : Bytes) (i : Nat) : UInt32 :=
  (byteAt p i).toUInt32 <<< 24 ||| (byteAt p (i + 1)).toUInt32 <<< 16 |||
    (byteAt p (i + 2)).toUInt32 <<< 8 ||| (byteAt p (i + 3)).toUInt32

def putShort (v : UInt16) : Bytes := [(v >>> 8).toUInt8, v.toUInt8]

theorem getShort_putShort (v : UInt16) (q : Bytes) : getShort (putShort v ++ q) 0 = v := by
  change (v >>> 8).toUInt8.toUInt16 <<< 8 ||| v.toUInt8.toUInt16 = v
  apply UInt16.toBitVec_inj.mp
  ext i hi
  simp [-UInt16.toUInt16_toUInt8]
  grind

def putLong (v : UInt32) : Bytes :=
  [(v >>> 24).toUInt8, (v >>> 16).toUInt8, (v >>> 8).toUInt8, v.toUInt8]

variable (v : UInt32) {p : Bytes} {i : Nat}

theorem getLong_putLong (q : Bytes) : getLong (putLong v ++ q) 0 = v := by
  change (v >>> 24).toUInt8.toUInt32 <<< 24 ||| (v >>> 16).toUInt8.toUInt32 <<< 16 |||
    (v >>> 8).toUInt8.toUInt32 <<< 8 ||| v.toUInt8.toUInt32 = v
  apply UInt32.toBitVec_inj.mp
  ext i hi
  simp [-UInt32.toUInt32_toUInt8]
  grind

theorem putShort_bytes (x y : UInt8) :
    putShort (x.toUInt16 <<< 8 ||| y.toUInt16) = [x, y] := by
  simp only [putShort, List.cons.injEq, and_true]
  refine ⟨?_, ?_⟩
  all_goals
    apply UInt8.toBitVec_inj.mp
    ext i hi
    simp <;> grind

theorem putLong_bytes (x y z w : UInt8) :
    putLong (x.toUInt32 <<< 24 ||| y.toUInt32 <<< 16 ||| z.toUInt32 <<< 8 ||| w.toUInt32) =
      [x, y, z, w] := by
  simp only [putLong, List.cons.injEq, and_true]
  refine ⟨?_, ?_, ?_, ?_⟩
  all_goals
    apply UInt8.toBitVec_inj.mp
    ext i hi
    simp <;> grind

theorem putLong_getLong (h : 4 ≤ p.length) : putLong (getLong p 0) = p.take 4 := by
  match p, h with
  | x :: y :: z :: w :: _, _ => exact putLong_bytes x y z w

/-- Exchange of the byte order of a 32-bit number (a little-endian host's `htonl`). -/
def swapLong (v : UInt32) : UInt32 :=
  (v &&& 0xff) <<< 24 ||| (v >>> 8 &&& 0xff) <<< 16 ||| (v >>> 16 &&& 0xff) <<< 8 ||| v >>> 24

theorem toUInt32_toUInt8_eq_and : v.toUInt8.toUInt32 = v &&& 0xff := by
  apply UInt32.toNat_inj.mp
  rw [UInt8.toNat_toUInt32, UInt32.toNat_toUInt8, UInt32.toNat_and]
  exact (Nat.and_two_pow_sub_one_eq_mod _ 8).symm

/-- The shifts move each byte to its mirror place. -/
theorem putLong_swapLong : putLong (swapLong v) = (putLong v).reverse := by
  have htop : (v >>> 24) &&& (0xff : UInt32) = v >>> 24 := by
    apply UInt32.toNat_inj.mp
    rw [UInt32.toNat_and, UInt32.toNat_shiftRight, Nat.shiftRight_eq_div_pow]
    refine (Nat.and_two_pow_sub_one_eq_mod _ 8).trans (Nat.mod_eq_of_lt ?_)
    exact Nat.div_lt_of_lt_mul v.toNat_lt
  have hswap : swapLong v = v.toUInt8.toUInt32 <<< 24 ||| (v >>> 8).toUInt8.toUInt32 <<< 16 |||
      (v >>> 16).toUInt8.toUInt32 <<< 8 ||| (v >>> 24).toUInt8.toUInt32 := by
    simp only [toUInt32_toUInt8_eq_and, htop]
    rfl
  rw [hswap, putLong_bytes]
  rfl

@[simp] theorem swapLong_swapLong : swapLong (swapLong v) = v := by
  have hput : putLong (swapLong (swapLong v)) = putLong v := by
    rw [putLong_swapLong, putLong_swapLong, List.reverse_reverse]
  rw [← getLong_putLong (swapLong (swapLong v)) [], hput, getLong_putLong]

/-- The four bytes of a number as they lie in the memory of a little-endian host. -/
def hostLong (v : UInt32) : Bytes := (putLong v).reverse

/-- The memory of a number in network byte order is the number as it goes on the wire. -/
theorem hostLong_swapLong : hostLong (swapLong v) = putLong v := by
  rw [hostLong, putLong_swapLong, List.reverse_reverse]

/-! ### Pieces of memory -/

theorem bytesAt_eq {n : Nat} (h : i + n ≤ p.length) : bytesAt p i n = (p.drop i).take n := by
  apply List.ext_getElem
  · simp only [length_bytesAt, List.length_take, List.length_drop]
    omega
  · intro j hj hj'
    rw [length_bytesAt] at hj
    simp [bytesAt, byteAt, List.getElem?_eq_getElem (show i + j < p.length by omega)]

theorem byteAt_bytesAt {j n : Nat} (h : j < n) : byteAt (bytesAt p i n) j = byteAt p (i + j) := by
  simp [byteAt, bytesAt, h]

theorem bytesAt_append (p q r : Bytes) : bytesAt (p ++ q ++ r) p.length q.length = q := by
  rw [bytesAt_eq (by simp only [List.length_append]; omega), List.append_assoc,
    List.drop_left, List.take_left]

theorem bytesAt_zero (p q : Bytes) : bytesAt (p ++ q) 0 p.length = p := by
  rw [bytesAt_eq (by simp only [List.length_append]; omega), List.drop_zero, List.take_left]

theorem memcpy_append (p r q : Bytes) : memcpy (p ++ r) p.length q = p ++ q ++ r.drop q.length := by
  rw [memcpy_eq (by rw [List.length_append]; omega), List.take_left, ← List.drop_drop,
    List.drop_left]

theorem memcpy_middle {q r s : Bytes} (h : s.length = q.length) :
    memcpy (p ++ q ++ r) p.length s = p ++ s ++ r := by
  have hz : p.length - (p ++ q ++ r).length = 0 := by simp only [List.length_append]; omega
  rw [memcpy, hz, List.replicate_zero, List.append_nil, List.append_assoc p q r, List.take_left,
    h, ← List.drop_drop, List.drop_left, List.drop_left]

theorem memcpy_inside (a b c d r : Bytes) {q s : Bytes} (h : s.length = q.length) :
    memcpy (a ++ (b ++ c ++ q ++ d) ++ r) (a.length + b.length + c.length) s =
      a ++ (b ++ c ++ s ++ d) ++ r := by
  have hmiddle := memcpy_middle (p := a ++ b ++ c) (r := d ++ r) h
  simpa only [List.append_assoc, List.length_append, Nat.add_assoc] using hmiddle

/-! ### Readers that keep to the first bytes -/

theorem exists_four (h : 4 ≤ p.length) : ∃ x y z w q, p = x :: y :: z :: w :: q := by
  rcases p with _ | ⟨x, _ | ⟨y, _ | ⟨z, _ | ⟨w, q⟩⟩⟩⟩
  case cons.cons.cons.cons => exact ⟨x, y, z, w, q, rfl⟩
  all_goals exact absurd h (by simp only [List.length_nil, List.length_cons]; omega)

theorem byteAt_append (h : i < p.length) (q : Bytes) : byteAt (p ++ q) i = byteAt p i := by
  simp only [byteAt, List.getD_eq_getElem?_getD, List.getElem?_append_left h]

theorem getShort_append (h : i + 1 < p.length) (q : Bytes) :
    getShort (p ++ q) i = getShort p i := by
  unfold getShort
  rw [byteAt_append (by omega), byteAt_append h]

theorem byteAt_take {m : Nat} (h : i < m) : byteAt (p.take m) i = byteAt p i := by
  unfold byteAt
  rw [List.getD_eq_getElem?_getD, List.getD_eq_getElem?_getD, List.getElem?_take_of_lt h]

theorem byteAt_memcpy {j : Nat} (h : j < i) (p q : Bytes) :
    byteAt (memcpy p i q) j = byteAt p j := by
  have hlen : j < ((p ++ List.replicate (i - p.length) 0).take i).length := by
    rw [List.length_take, List.length_append, List.length_replicate]
    omega
  unfold byteAt memcpy
  rw [List.append_assoc, List.getD_eq_getElem?_getD, List.getD_eq_getElem?_getD,
    List.getElem?_append_left hlen, List.getElem?_take_of_lt h]
  rcases Nat.lt_or_ge j p.length with hj | hj
  · rw [List.getElem?_append_left hj]
  · rw [List.getElem?_append_right hj, List.getElem?_eq_none hj, List.getElem?_replicate]
    split <;> rfl

theorem getShort_take {m : Nat} (h : i + 2 ≤ m) : getShort (p.take m) i = getShort p i := by
  unfold getShort
  rw [byteAt_take (by omega), byteAt_take (by omega)]

theorem getLong_take {m : Nat} (h : i + 4 ≤ m) : getLong (p.take m) i = getLong p i := by
  unfold getLong
  rw [byteAt_take (by omega), byteAt_take (by omega), byteAt_take (by omega),
    byteAt_take (by omega)]

/-- The reader does not see what stands behind the first `n` bytes. -/
def Within {α : Type} (n : Nat) (f : Bytes → α) : Prop := ∀ p m, n ≤ m → f (p.take m) = f p

theorem Within.of_take {α : Type} {n : Nat} {f : Bytes → α} (h : ∀ p, f (p.take n) = f p) :
    Within n f := by
  intro p m hm
  rw [← h (p.take m), List.take_take, Nat.min_eq_left hm, h]

/-- A buffer that ends before the first `n` bytes do has nothing to cut. -/
theorem Within.of_fits {α : Type} {n : Nat} {f : Bytes → α}
    (h : ∀ p q, n ≤ p.length → n ≤ q.length → p.take n = q.take n → f p = f q) : Within n f := by
  refine .of_take fun p => ?_
  rcases Nat.le_total n p.length with hp | hp
  · refine h _ _ ?_ hp (by rw [List.take_take, Nat.min_self])
    rw [List.length_take, Nat.min_eq_left hp]
  · rw [List.take_of_length_le hp]

/-! ### Readers of one value -/

theorem byteAt_drop (p : Bytes) (i j : Nat) : byteAt (p.drop i) j = byteAt p (i + j) := by
  simp only [byteAt, List.getD_eq_getElem?_getD, List.getElem?_drop]

theorem getShort_drop (p : Bytes) (i j : Nat) : getShort (p.drop i) j = getShort p (i + j) := by
  unfold getShort
  rw [byteAt_drop, byteAt_drop, Nat.add_assoc]

/-- The test holds exactly if the bytes `v` stand at position `i`. -/
def Reads (f : Bytes → Bool) (i : Nat) (v : Bytes) : Prop :=
  ∀ p : Bytes, i + v.length ≤ p.length → (f p = true ↔ (p.drop i).take v.length = v)

theorem reads_nothing (i : Nat) : Reads (fun _ => true) i [] := fun p _ => by simp

theorem reads_byte (i : Nat) (x : UInt8) : Reads (fun p => byteAt p i == x) i [x] := by
  intro p hp
  have hg : byteAt p i = byteAt (p.drop i) 0 := (byteAt_drop p i 0).symm
  have hlen : 1 ≤ (p.drop i).length := by
    rw [List.length_singleton] at hp
    rw [List.length_drop]
    omega
  rw [beq_iff_eq, hg]
  match p.drop i, hlen with
  | y :: q, _ => simp [byteAt]

theorem reads_short (i : Nat) (v : UInt16) : Reads (fun p => getShort p i == v) i (putShort v) := by
  intro p hp
  have hg : getShort p i = getShort (p.drop i) 0 := by
    simp only [getShort, byteAt_drop, Nat.add_zero, Nat.zero_add]
  have hlen : 2 ≤ (p.drop i).length := by
    have h2 : (putShort v).length = 2 := rfl
    rw [List.length_drop]
    omega
  rw [beq_iff_eq, hg]
  match p.drop i, hlen with
  | x :: y :: q, _ =>
    constructor
    · rintro rfl
      exact (putShort_bytes x y).symm
    · intro h
      have hq : x :: y :: q = putShort v ++ q := congrArg (· ++ q) h
      rw [hq, getShort_putShort]

theorem reads_long (i : Nat) (v : UInt32) : Reads (fun p => getLong p i == v) i (putLong v) := by
  intro p hp
  have hg : getLong p i = getLong (p.drop i) 0 := by
    simp only [getLong, byteAt_drop, Nat.add_zero, Nat.zero_add]
  have hlen : 4 ≤ (p.drop i).length := by
    have h4 : (putLong v).length = 4 := rfl
    rw [List.length_drop]
    omega
  rw [beq_iff_eq, hg]
  match p.drop i, hlen with
  | x :: y :: z :: w :: q, _ =>
    constructor
    · rintro rfl
      exact (putLong_bytes x y z w).symm
    · intro h
      have hq : x :: y :: z :: w :: q = putLong v ++ q := congrArg (· ++ q) h
      rw [hq, getLong_putLong]

theorem Reads.and {f g : Bytes → Bool} {j : Nat} {v w : Bytes} (hf : Reads f i v) (hg : Reads g j w)
    (hj : j = i + v.length) : Reads (fun p => f p && g p) i (v ++ w) := by
  intro p hp
  rw [List.length_append] at hp
  rw [Bool.and_eq_true, hf p (by omega), hg p (by omega), hj, ← List.drop_drop,
    List.length_append, List.take_add]
  constructor
  · rintro ⟨h1, h2⟩
    rw [h1, h2]
  intro h
  refine List.append_inj h ?_
  simp only [List.length_take, List.length_drop]
  omega

/-- The bytes of an ASCII text. -/
def ascii (t : String) : Bytes := t.toList.map fun c => UInt8.ofNat c.toNat

end Wire

end OpenBras
