/-
  File:      OpenBras/PPP/Ci.lean
  Subject:   CONFIGURATION OPTIONS ON THE WIRE (src/PPP/pppdef.h): type, length, value.

  LCP and IPCP read option lists in the same two ways:

  * in order, against what we asked for (`Ackci`, `Nakci`, `Rejci`): a `Cursor` that moves over
    the packet as options are recognised;
  * one option after the other, as the peer sent them (`Reqci`): `options` is the sequence of
    options the `while (l)` loop meets. An option whose length does not fit ends the list and
    stands for all the bytes left.

  The bytes behind a position are the whole rest of the buffer, not only of the packet.
-/
import OpenBras.PPP.Fsm

namespace OpenBras

open Wire

def CILEN_VOID : Nat := 2
def CILEN_CHAR : Nat := 3
def CILEN_SHORT : Nat := 4
def CILEN_CHAP : Nat := 5
def CILEN_LONG : Nat := 6
def CILEN_LQR : Nat := 8
def CILEN_CBCP : Nat := 3

/-- The verdict on an option, and on a whole request. -/
inductive Conf where
  | ack | nak | rej
  deriving DecidableEq, Repr

def Conf.code : Conf → Int
  | .ack => confAck
  | .nak => confNak
  | .rej => confRej

/-- A position in a packet: the buffer from there on, and the length left. -/
structure Cursor where
  p : Bytes
  len : Nat
  deriving DecidableEq, Repr

namespace Cursor

def skip (n : Nat) (c : Cursor) : Cursor := { p := c.p.drop n, len := c.len - n }

/-- The option here is `opt` with the length `n`, and fits. -/
def at_ (c : Cursor) (opt : UInt8) (n : Nat) : Bool :=
  decide (n ≤ c.len) && (byteAt c.p 1).toNat == n && byteAt c.p 0 == opt

end Cursor

/-- One option of an Ack: it must stand here with its length and value. -/
def ackOption (opt : UInt8) (neg : Bool) (n : Nat) (value : Bytes → Bool) (c : Cursor) :
    Option Cursor :=
  if neg then (if c.at_ opt n && value c.p then some (c.skip n) else none) else some c

/-- One option of a Reject: if it stands here its value must be ours, and it is given up. -/
def rejOption {α : Type} (neg : Bool) (opt : UInt8) (n : Nat) (value : Bytes → Bool)
    (giveUp : α → α) (s : Cursor × α) : Option (Cursor × α) :=
  if neg && s.1.at_ opt n then
    if value s.1.p then some (s.1.skip n, giveUp s.2) else none
  else some s

/-- One option of a request: `cip` is the buffer from its first byte on. -/
structure Ci where
  citype : UInt8
  cilen : Nat
  cip : Bytes
  /-- the length byte fits what is left -/
  sound : Bool
  deriving DecidableEq, Repr

namespace Ci

def bytes (ci : Ci) : Bytes := ci.cip.take ci.cilen

def short (ci : Ci) : UInt16 := getShort ci.cip 2

def long (ci : Ci) : UInt32 := getLong ci.cip 2

end Ci

/-- The loop over the options: every sound option takes at least two bytes, so `l` steps are
    enough. -/
def walk : Nat → Bytes → Nat → List Ci
  | 0, _, _ => []
  | fuel + 1, p, l =>
    if l = 0 then []
    else if l < 2 ∨ (byteAt p 1).toNat < 2 ∨ (byteAt p 1).toNat > l then [⟨0, l, p, false⟩]
    else
      ⟨byteAt p 0, (byteAt p 1).toNat, p, true⟩ ::
        walk fuel (p.drop (byteAt p 1).toNat) (l - (byteAt p 1).toNat)

/-- The options of a body of `l` bytes. -/
def options (p : Bytes) (l : Nat) : List Ci := walk l p l

end OpenBras
