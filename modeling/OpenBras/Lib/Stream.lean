/-
  File:      OpenBras/Lib/Stream.lean
  Subject:   A STREAM IN PIECES: a queue kept as a chain of blocks, and messages taken off its front.

  * `consume n bs` -- the chain without its first `n` elements: whole blocks go, the next one is
    cut. `flatten_consume`: to the elements it is `drop`;
  * `Framing len` -- `len b` is the length of the message with which `b` begins, 0 while that is not
    complete: at most what there is, and the same whatever follows;
  * `Frames len b ms r` -- taken off `b` one by one the messages are `ms`, and `r` is left;
  * `Frames.append` -- with `r` kept until more of the stream comes, no message is lost or changed;
    `Frames.unique`: so the pieces in which it comes do not matter.
-/
import Mathlib.Logic.Basic

namespace OpenBras

variable {α : Type}

/-! ## 1. A chain of blocks -/

section Chain

/-- The chain without its first `n` elements. -/
def consume : Nat → List (List α) → List (List α)
  | _, [] => []
  | n, b :: bs => if b.length ≤ n then consume (n - b.length) bs else b.drop n :: bs

theorem flatten_consume (n : Nat) (bs : List (List α)) :
    (consume n bs).flatten = bs.flatten.drop n := by
  induction bs generalizing n with
  | nil => exact List.drop_nil.symm
  | cons b bs ih =>
    rw [consume, List.flatten_cons]
    split
    · rename_i hle
      rw [ih, List.drop_append, List.drop_eq_nil_of_le hle, List.nil_append]
    · rename_i hgt
      rw [List.flatten_cons, List.drop_append_of_le_length (Nat.le_of_not_le hgt)]

/-- What goes down with every `consume`: empty blocks count too. -/
def weight (bs : List (List α)) : Nat := bs.flatten.length + bs.length

theorem weight_cons (b : List α) (bs : List (List α)) :
    weight (b :: bs) = b.length + weight bs + 1 := by
  rw [weight, weight, List.flatten_cons, List.length_append, List.length_cons]
  omega

theorem weight_consume_le (n : Nat) (bs : List (List α)) : weight (consume n bs) ≤ weight bs := by
  induction bs generalizing n with
  | nil => exact Nat.le_refl _
  | cons b bs ih =>
    rw [consume, weight_cons]
    split
    · have := ih (n - b.length)
      omega
    · rw [weight_cons, List.length_drop]
      omega

theorem weight_consume_lt {n : Nat} {bs : List (List α)} (hn : 0 < n) (hbs : bs ≠ []) :
    weight (consume n bs) < weight bs := by
  cases bs with
  | nil => exact absurd rfl hbs
  | cons b bs =>
    rw [consume, weight_cons]
    split
    · have := weight_consume_le (n - b.length) bs
      omega
    · rw [weight_cons, List.length_drop]
      omega

end Chain

/-! ## 2. The messages of a stream -/

section Frames

/-- The length of the message with which a stream begins. -/
structure Framing (len : List α → Nat) : Prop where
  le : ∀ b, len b ≤ b.length
  stable : ∀ b c, 0 < len b → len (b ++ c) = len b

inductive Frames (len : List α → Nat) : List α → List (List α) → List α → Prop
  | incomplete {b : List α} : len b = 0 → Frames len b [] b
  | message {b : List α} {ms : List (List α)} {r : List α} : 0 < len b →
      Frames len (b.drop (len b)) ms r → Frames len b (b.take (len b) :: ms) r

variable {len : List α → Nat}

theorem Frames.append (hlen : Framing len) {b r c r' : List α} {ms ms' : List (List α)}
    (h : Frames len b ms r) (h' : Frames len (r ++ c) ms' r') :
    Frames len (b ++ c) (ms ++ ms') r' := by
  induction h with
  | incomplete => exact h'
  | @message b ms r hpos _ ih =>
    have hsame : len (b ++ c) = len b := hlen.stable b c hpos
    have hrest : Frames len ((b ++ c).drop (len (b ++ c))) (ms ++ ms') r' := by
      rw [hsame, List.drop_append_of_le_length (hlen.le b)]
      exact ih h'
    have hnext := Frames.message (hsame ▸ hpos) hrest
    rwa [hsame, List.take_append_of_le_length (hlen.le b)] at hnext

theorem Frames.unique {b r r' : List α} {ms ms' : List (List α)} (h : Frames len b ms r)
    (h' : Frames len b ms' r') : ms = ms' ∧ r = r' := by
  induction h generalizing ms' with
  | incomplete hzero =>
    cases h' with
    | incomplete => exact ⟨rfl, rfl⟩
    | message hpos => exact absurd hzero (Nat.ne_of_gt hpos)
  | message hpos _ ih =>
    cases h' with
    | incomplete hzero => exact absurd hzero (Nat.ne_of_gt hpos)
    | message _ hrest =>
      obtain ⟨rfl, rfl⟩ := ih hrest
      exact ⟨rfl, rfl⟩

end Frames

end OpenBras
