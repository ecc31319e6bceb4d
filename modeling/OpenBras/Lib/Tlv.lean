/-
  File:      OpenBras/Lib/Tlv.lean
  Subject:   LISTS OF ENTRIES IN MEMORY: type, length and value, where type and length have a
             byte each and the length counts both.

  `At p i e` says that the entry `e` stands at position `i` of `p`, and `Chain p i es j` that the
  entries `es` stand there, one behind the other, up to `j`. A reader that goes from entry to
  entry follows a chain; what it finds is fixed by the bytes before `j` (`Chain.congr`). A writer
  makes one (`chain_body`), and a chain gives back the bytes it stands on (`Chain.body_eq`).
-/
import OpenBras.Lib.Wire

namespace OpenBras

namespace Tlv

open Wire

/-- The entry as it is written. -/
def bytes (e : UInt8 × Bytes) : Bytes := [e.1, UInt8.ofNat (2 + e.2.length)] ++ e.2

/-- The length byte can speak of the value. -/
def Short (e : UInt8 × Bytes) : Prop := 2 + e.2.length < 256

instance (e : UInt8 × Bytes) : Decidable (Short e) := inferInstanceAs (Decidable (_ < _))

/-- Entries one behind the other. -/
def body (es : List (UInt8 × Bytes)) : Bytes := es.flatMap bytes

@[simp] theorem length_bytes (e : UInt8 × Bytes) : (bytes e).length = 2 + e.2.length := by
  simp only [bytes, List.length_append, List.length_cons, List.length_nil]

@[simp] theorem body_nil : body [] = [] := rfl

@[simp] theorem body_cons (e : UInt8 × Bytes) (es : List (UInt8 × Bytes)) :
    body (e :: es) = bytes e ++ body es := List.flatMap_cons

@[simp] theorem body_append (a b : List (UInt8 × Bytes)) : body (a ++ b) = body a ++ body b :=
  List.flatMap_append

/-! ## 1. One entry -/

structure At (p : Bytes) (i : Nat) (e : UInt8 × Bytes) : Prop where
  type : byteAt p i = e.1
  length : (byteAt p (i + 1)).toNat = 2 + e.2.length
  value : (p.drop (i + 2)).take e.2.length = e.2

/-- The entry whose header is at `i`. -/
def entryAt (p : Bytes) (i : Nat) : UInt8 × Bytes :=
  (byteAt p i, (p.drop (i + 2)).take ((byteAt p (i + 1)).toNat - 2))

variable {p q : Bytes} {i j : Nat} {e : UInt8 × Bytes} {es : List (UInt8 × Bytes)}

namespace At

theorem short (h : At p i e) : Short e := by
  have hlt := UInt8.toNat_lt (byteAt p (i + 1))
  rw [h.length] at hlt
  exact hlt

theorem eq_entryAt (h : At p i e) : e = entryAt p i := by
  unfold entryAt
  rw [h.type, h.length, Nat.add_sub_cancel_left, h.value]

theorem of_header (hlow : 2 ≤ (byteAt p (i + 1)).toNat)
    (hhigh : i + (byteAt p (i + 1)).toNat ≤ p.length) : At p i (entryAt p i) := by
  have hlen : (entryAt p i).2.length = (byteAt p (i + 1)).toNat - 2 := by
    unfold entryAt
    rw [List.length_take, List.length_drop]
    omega
  refine ⟨rfl, by omega, ?_⟩
  rw [hlen]
  rfl

theorem bytes_eq (h : At p i e) (hp : i + (2 + e.2.length) ≤ p.length) :
    (p.drop i).take (2 + e.2.length) = bytes e := by
  have hlen : UInt8.ofNat (2 + e.2.length) = byteAt p (i + 1) := by
    rw [← h.length, UInt8.ofNat_toNat]
  have hdrop : p.drop i = byteAt p i :: byteAt p (i + 1) :: p.drop (i + 2) := by
    rw [List.drop_eq_getElem_cons (show i < p.length by omega),
      List.drop_eq_getElem_cons (show i + 1 < p.length by omega)]
    simp [byteAt, List.getElem?_eq_getElem (show i < p.length by omega),
      List.getElem?_eq_getElem (show i + 1 < p.length by omega)]
  rw [hdrop, bytes, hlen, ← h.type, Nat.add_comm 2, List.take_succ_cons, List.take_succ_cons,
    h.value]
  rfl

theorem of_bytes (he : Short e) (a b : Bytes) : At (a ++ bytes e ++ b) a.length e := by
  have hat : ∀ n, byteAt (a ++ bytes e ++ b) (a.length + n) = byteAt (bytes e ++ b) n := by
    intro n
    rw [List.append_assoc, ← byteAt_drop, List.drop_left]
  refine ⟨hat 0, ?_, ?_⟩
  · rw [hat 1]
    exact UInt8.toNat_ofNat_of_lt' he
  · rw [List.append_assoc, ← List.drop_drop, List.drop_left]
    exact List.take_left

theorem congr (h : At p i e) (hj : i + (2 + e.2.length) ≤ j) (hpq : p.take j = q.take j) :
    At q i e := by
  have hbyte : ∀ n < j, byteAt q n = byteAt p n := by
    intro n hn
    rw [← byteAt_take (p := q) hn, ← hpq, byteAt_take hn]
  refine ⟨?_, ?_, ?_⟩
  · rw [hbyte i (by omega), h.type]
  · rw [hbyte (i + 1) (by omega), h.length]
  have htake : ∀ r : Bytes, (r.drop (i + 2)).take e.2.length =
      ((r.take j).drop (i + 2)).take e.2.length := by
    intro r
    rw [List.drop_take, List.take_take, Nat.min_eq_left (by omega)]
  rw [htake, ← hpq, ← htake, h.value]

end At

/-! ## 2. Entries one behind the other -/

inductive Chain (p : Bytes) : Nat → List (UInt8 × Bytes) → Nat → Prop where
  | nil (i : Nat) : Chain p i [] i
  | cons {i j : Nat} {e : UInt8 × Bytes} {es : List (UInt8 × Bytes)} (head : At p i e)
      (rest : Chain p (i + (2 + e.2.length)) es j) : Chain p i (e :: es) j

theorem chain_body (hes : ∀ e ∈ es, Short e) (a b : Bytes) :
    Chain (a ++ body es ++ b) a.length es (a.length + (body es).length) := by
  induction es generalizing a with
  | nil => exact .nil _
  | cons e es ih =>
    have hrest := ih (fun e he => hes e (List.mem_cons_of_mem _ he)) (a ++ bytes e)
    rw [List.length_append, length_bytes, Nat.add_assoc] at hrest
    rw [body_cons, List.length_append, length_bytes, ← List.append_assoc]
    refine .cons ?_ ?_
    · rw [List.append_assoc _ (body es)]
      exact .of_bytes (hes e List.mem_cons_self) a _
    · exact Nat.add_assoc _ _ _ ▸ hrest

namespace Chain

theorem le (h : Chain p i es j) : i ≤ j := by
  induction h with
  | nil => exact Nat.le_refl _
  | cons _ _ ih => omega

theorem length_eq (h : Chain p i es j) : j = i + (body es).length := by
  induction h with
  | nil => rfl
  | cons _ _ ih =>
    rw [ih, body_cons, List.length_append, length_bytes, Nat.add_assoc]

theorem short (h : Chain p i es j) : ∀ e ∈ es, Short e := by
  induction h with
  | nil => exact fun _ he => absurd he List.not_mem_nil
  | cons head _ ih =>
    intro e he
    rcases List.mem_cons.mp he with rfl | he
    · exact head.short
    · exact ih e he

/-- **The entries are the bytes they stand on.** -/
theorem body_eq (h : Chain p i es j) (hp : j ≤ p.length) : body es = (p.drop i).take (j - i) := by
  induction h with
  | nil i => rw [Nat.sub_self]; rfl
  | @cons i j e es head rest ih =>
    have hle := rest.le
    obtain ⟨k, rfl⟩ := Nat.exists_eq_add_of_le hle
    have hk : i + (2 + e.2.length) + k - i = 2 + e.2.length + k := by omega
    rw [body_cons, ih hp, ← head.bytes_eq (by omega), ← List.drop_drop, hk,
      Nat.add_sub_cancel_left]
    exact List.take_add.symm

theorem congr (h : Chain p i es j) (hpq : p.take j = q.take j) : Chain q i es j := by
  induction h with
  | nil i => exact .nil i
  | @cons i j e es head rest ih => exact .cons (head.congr rest.le hpq) (ih hpq)

theorem append {k : Nat} {fs : List (UInt8 × Bytes)} (h : Chain p i es j) (h' : Chain p j fs k) :
    Chain p i (es ++ fs) k := by
  induction h with
  | nil => exact h'
  | cons head _ ih => exact .cons head (ih h')

/-- Of two chains that begin at one place the longer goes on where the shorter ends. -/
theorem exists_append {k : Nat} {fs : List (UInt8 × Bytes)} (h : Chain p i es j)
    (h' : Chain p i fs k) (hjk : j ≤ k) : ∃ gs, fs = es ++ gs ∧ Chain p j gs k := by
  induction h generalizing fs with
  | nil i => exact ⟨fs, rfl, h'⟩
  | @cons i j e es head rest ih =>
    cases h' with
    | nil =>
      have hle := rest.le
      omega
    | @cons _ _ f fs head' rest' =>
      have hef : e = f := head.eq_entryAt.trans head'.eq_entryAt.symm
      subst hef
      obtain ⟨gs, rfl, hgs⟩ := ih rest' hjk
      exact ⟨gs, rfl, hgs⟩

end Chain

end Tlv

end OpenBras
