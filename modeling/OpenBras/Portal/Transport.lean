/-
  File:      OpenBras/Portal/Transport.lean
  Subject:   A TCP CONNECTION: `CTCPTransport` (src/Portal), its queue of bytes to send and its buffer
             of bytes received.

  Both are chains of `ACE_Message_Block`, here lists of blocks, each the bytes from its `rd_ptr` to
  its `wr_ptr`; `NULL` is the empty list. `writev` gets as many blocks as an `iovec` array has room
  for and may write a part of them, that ends anywhere. A segment received is appended, and
  `OnHandleMessage` of the class derived is asked for the length of the message at the front until
  it says 0.

  * `written_append_buffered` -- what was written, with what is queued, is what was submitted;
  * `iteration_wellFounded` -- the loop of `OnReceive_I` ends, whatever `OnHandleMessage` answers;
  * `segments_indifferent` -- the messages do not depend on the segments in which the stream came.
-/
import OpenBras.Lib.Run
import OpenBras.Lib.Stream
import OpenBras.Lib.Wire

namespace OpenBras

open Wire

structure CTCPTransport where
  sndbuf : List Bytes := []
  rcvbuf : List Bytes := []
  dwRcvBufMaxLen : Nat := 1024 * 32
  deriving DecidableEq, Repr

namespace CTCPTransport

/-! ## 1. The program -/

/-- `total_length` of a chain. -/
def totalLength (msg : List Bytes) : Nat := msg.flatten.length

/-- `AppendMessage`. -/
def appendMessage : List Bytes → List Bytes → List Bytes
  | [], toAdd => toAdd
  | block :: cont, toAdd => block :: appendMessage cont toAdd

/-- `FillIov`, from a block of the chain on, with `iovcnt` entries filled. -/
def fillIov (aMax : Nat) : Nat → List Bytes → List Bytes
  | _, [] => []
  | iovcnt, block :: cont =>
    if iovcnt + 1 = aMax then [block] else block :: fillIov aMax (iovcnt + 1) cont

/-- What `writev` does. -/
inductive Writev where
  | wouldBlock
  | error
  | wrote (n : Nat)
  deriving DecidableEq, Repr

/-- `SendBuffedMsg`, and the bytes that it wrote. -/
def sendBuffedMsg (iovMax : Nat) (writev : Writev) (t : CTCPTransport) :
    Int × CTCPTransport × Bytes :=
  if t.sndbuf = [] then (0, t, [])
  else
    let iov := fillIov iovMax 0 t.sndbuf
    match writev with
    | .wouldBlock => (0, t, [])
    | .error => (-1, t, [])
    | .wrote totalsize =>
      if totalsize = 0 then (-1, t, [])
      else (0, { t with sndbuf := consume totalsize t.sndbuf }, iov.flatten.take totalsize)

/-- The message is queued. -/
def enqueue (pMsg : List Bytes) (t : CTCPTransport) : CTCPTransport :=
  { t with sndbuf := if t.sndbuf = [] then pMsg else appendMessage t.sndbuf pMsg }

/-- `SendMessage` of a chain that it takes over. -/
def sendMessage (iovMax : Nat) (pMsg : List Bytes) (writev : Writev) (t : CTCPTransport) :
    Int × CTCPTransport × Bytes :=
  (t.enqueue pMsg).sendBuffedMsg iovMax writev

def handleOutput (iovMax : Nat) (writev : Writev) (t : CTCPTransport) :
    Int × CTCPTransport × Bytes :=
  (0, (t.sendBuffedMsg iovMax writev).2)

/-- What a caller does. `SendMessage` has three forms: for a buffer, for a chain of which it makes a
    copy (`duplicate` or `clone`, which hold the same bytes), and for one that it takes over. -/
inductive Call where
  | sendBuffer (buffer : Bytes) (size : Nat)
  | sendCopy (msg : List Bytes)
  | sendMessage (pMsg : List Bytes)
  | handleOutput

def call (iovMax : Nat) (t : CTCPTransport) : Call → Writev → Int × CTCPTransport × Bytes
  | .sendBuffer buffer size, writev => t.sendMessage iovMax [bytesAt buffer 0 size] writev
  | .sendCopy msg, writev => t.sendMessage iovMax msg writev
  | .sendMessage pMsg, writev => t.sendMessage iovMax pMsg writev
  | .handleOutput, writev => t.handleOutput iovMax writev

/-- One round of the loop of `OnReceive_I`: the message that `OnHandleMessage` consumes and the chain
    without it, or nothing, when the loop is left. -/
def iteration (onHandleMessage : List Bytes → Nat) (rcvbuf : List Bytes) :
    Option (Bytes × List Bytes) :=
  if rcvbuf = [] then none
  else
    let totalsize := onHandleMessage rcvbuf
    if totalsize = 0 then none
    else some (rcvbuf.flatten.take totalsize, consume totalsize rcvbuf)

variable {onHandleMessage : List Bytes → Nat} {rcvbuf rest : List Bytes}

theorem iteration_eq_some {message : Bytes} :
    iteration onHandleMessage rcvbuf = some (message, rest) ↔
      rcvbuf ≠ [] ∧ 0 < onHandleMessage rcvbuf ∧
        message = rcvbuf.flatten.take (onHandleMessage rcvbuf) ∧
        rest = consume (onHandleMessage rcvbuf) rcvbuf := by
  unfold iteration
  dsimp only
  split
  · rename_i hnil
    exact iff_of_false (fun h => by cases h) fun h => h.1 hnil
  rename_i hne
  split
  · rename_i hzero
    exact iff_of_false (fun h => by cases h) fun h => absurd hzero (Nat.ne_of_gt h.2.1)
  rename_i hpos
  rw [Option.some.injEq, Prod.mk.injEq]
  constructor
  · rintro ⟨rfl, rfl⟩
    exact ⟨hne, Nat.pos_of_ne_zero hpos, rfl, rfl⟩
  · rintro ⟨-, -, rfl, rfl⟩
    exact ⟨rfl, rfl⟩

theorem weight_iteration {message : Bytes}
    (h : iteration onHandleMessage rcvbuf = some (message, rest)) :
    weight rest < weight rcvbuf := by
  obtain ⟨hne, hpos, -, rfl⟩ := iteration_eq_some.mp h
  exact weight_consume_lt hpos hne

/-- The loop of `OnReceive_I`: the messages, and the chain that is left. -/
def receiveLoop (onHandleMessage : List Bytes → Nat) (rcvbuf : List Bytes) :
    List Bytes × List Bytes :=
  match h : iteration onHandleMessage rcvbuf with
  | none => ([], rcvbuf)
  | some (message, rest) =>
    have := weight_iteration h
    let r := receiveLoop onHandleMessage rest
    (message :: r.1, r.2)
termination_by weight rcvbuf

/-- `OnReceive_I`, and the messages it delivered. `OnRcvBufferOverFlow` does not touch the buffer. -/
def onReceive_I (onHandleMessage : List Bytes → Nat) (aData : List Bytes) (t : CTCPTransport) :
    Int × CTCPTransport × List Bytes :=
  let rcvbuf := if t.rcvbuf = [] then aData else appendMessage t.rcvbuf aData
  if totalLength rcvbuf > t.dwRcvBufMaxLen then (-1, { t with rcvbuf }, [])
  else
    let r := receiveLoop onHandleMessage rcvbuf
    (0, { t with rcvbuf := r.2 }, r.1)

theorem appendMessage_eq (pMessage toAdd : List Bytes) :
    appendMessage pMessage toAdd = pMessage ++ toAdd := by
  induction pMessage with
  | nil => rfl
  | cons block cont ih => rw [appendMessage, ih, List.cons_append]

theorem ite_appendMessage (pMessage toAdd : List Bytes) :
    (if pMessage = [] then toAdd else appendMessage pMessage toAdd) = pMessage ++ toAdd := by
  split
  · rename_i hnil
    rw [hnil, List.nil_append]
  · exact appendMessage_eq pMessage toAdd

/-! ## 2. What is sent -/

/-- The chain that a call appends to the queue. -/
def Call.chain : Call → List Bytes
  | .sendBuffer buffer size => [bytesAt buffer 0 size]
  | .sendCopy msg => msg
  | .sendMessage pMsg => pMsg
  | .handleOutput => []

/-- A connection, with the bytes written so far, and the messages submitted. -/
structure Sender where
  t : CTCPTransport := {}
  written : Bytes := []
  submitted : List Bytes := []
  deriving DecidableEq, Repr

def Sender.step (iovMax : Nat) (s : Sender) (e : Call × Writev) : Sender :=
  let r := s.t.call iovMax e.1 e.2
  { t := r.2.1, written := s.written ++ r.2.2, submitted := s.submitted ++ [e.1.chain.flatten] }

/-- `writev` writes no more than it is offered. -/
def Sender.Possible (iovMax : Nat) (s : Sender) (e : Call × Writev) : Prop :=
  match e.2 with
  | .wrote n => n ≤ totalLength (fillIov iovMax 0 (s.t.sndbuf ++ e.1.chain))
  | _ => True

instance (iovMax : Nat) (s : Sender) : (e : Call × Writev) → Decidable (s.Possible iovMax e)
  | (_, .wouldBlock) => isTrue trivial
  | (_, .error) => isTrue trivial
  | (_, .wrote _) => inferInstanceAs (Decidable (_ ≤ _))

theorem fillIov_prefix (aMax iovcnt : Nat) (pmsg : List Bytes) :
    fillIov aMax iovcnt pmsg <+: pmsg := by
  induction pmsg generalizing iovcnt with
  | nil => exact List.nil_prefix
  | cons block cont ih =>
    rw [fillIov]
    split
    · exact List.cons_prefix_cons.mpr ⟨rfl, List.nil_prefix⟩
    · exact List.cons_prefix_cons.mpr ⟨rfl, ih (iovcnt + 1)⟩

/-- A write takes off the queue what it wrote. -/
theorem sendBuffedMsg_kept {iovMax : Nat} {writev : Writev} {t : CTCPTransport}
    (h : ∀ n, writev = .wrote n → n ≤ totalLength (fillIov iovMax 0 t.sndbuf)) :
    (t.sendBuffedMsg iovMax writev).2.2 ++ (t.sendBuffedMsg iovMax writev).2.1.sndbuf.flatten =
      t.sndbuf.flatten := by
  unfold sendBuffedMsg
  split
  · rfl
  cases writev with
  | wouldBlock => rfl
  | error => rfl
  | wrote n =>
    dsimp only
    split
    · rfl
    obtain ⟨rest, hrest⟩ := fillIov_prefix iovMax 0 t.sndbuf
    have hwritten : (fillIov iovMax 0 t.sndbuf).flatten.take n = t.sndbuf.flatten.take n := by
      nth_rewrite 2 [← hrest]
      rw [List.flatten_append, List.take_append_of_le_length (h n rfl)]
    rw [hwritten, flatten_consume, List.take_append_drop]

theorem call_eq (iovMax : Nat) (t : CTCPTransport) (c : Call) (writev : Writev) :
    (t.call iovMax c writev).2 =
      ({ t with sndbuf := t.sndbuf ++ c.chain }.sendBuffedMsg iovMax writev).2 := by
  have hqueued : ∀ pMsg, t.enqueue pMsg = { t with sndbuf := t.sndbuf ++ pMsg } := fun pMsg => by
    rw [enqueue, ite_appendMessage]
  cases c with
  | sendBuffer | sendCopy | sendMessage => rw [call, sendMessage, hqueued]; rfl
  | handleOutput => rw [call, handleOutput, Call.chain, List.append_nil]

/-- Nothing is lost, duplicated or reordered. -/
def Sender.Kept (s : Sender) : Prop := s.written ++ s.t.sndbuf.flatten = s.submitted.flatten

theorem Sender.Kept.step {iovMax : Nat} {s : Sender} {e : Call × Writev} (h : s.Kept)
    (hpossible : s.Possible iovMax e) : (s.step iovMax e).Kept := by
  have hwrite : ∀ n, e.2 = .wrote n →
      n ≤ totalLength (fillIov iovMax 0 (s.t.sndbuf ++ e.1.chain)) := by
    intro n hn
    rwa [Sender.Possible, hn] at hpossible
  have hqueue := sendBuffedMsg_kept (t := { s.t with sndbuf := s.t.sndbuf ++ e.1.chain }) hwrite
  unfold Sender.Kept Sender.step
  dsimp only
  rw [call_eq, List.append_assoc, hqueue, List.flatten_append, ← List.append_assoc, h,
    List.flatten_append, List.flatten_singleton]

/-- **What was written, followed by what is queued, is what was submitted**, after any calls and
    whatever `writev` did in each. -/
theorem written_append_buffered (iovMax : Nat) (es : List (Call × Writev))
    (h : Along (Sender.step iovMax) (Sender.Possible iovMax) {} es) :
    (run (Sender.step iovMax) {} es).written ++
        (run (Sender.step iovMax) {} es).t.sndbuf.flatten =
      (run (Sender.step iovMax) {} es).submitted.flatten := by
  have hstart : Sender.Kept {} := rfl
  exact throughout_last (P := Sender.Kept) (throughout_of_along (fun _ _ => Sender.Kept.step)
    (fun _ => id) hstart h)

/-- Some calls, with two blocks to an `iovec` array: a write that ends within a block, one that would
    block, one that ends with a block and takes the empty one after it, and an error. -/
def sampleCalls : List (Call × Writev) :=
  [(.sendBuffer [1, 2, 3] 3, .wrote 2), (.sendMessage [[4], [], [5, 6]], .wouldBlock),
    (.handleOutput, .wrote 2), (.sendCopy [[7]], .error)]

theorem sampleCalls_buffered :
    Along (Sender.step 2) (Sender.Possible 2) {} sampleCalls ∧
      (run (Sender.step 2) {} sampleCalls).t.sndbuf = [[5, 6], [7]] ∧
      (run (Sender.step 2) {} sampleCalls).written ++
          (run (Sender.step 2) {} sampleCalls).t.sndbuf.flatten =
        (run (Sender.step 2) {} sampleCalls).submitted.flatten :=
  ⟨by decide +kernel, by decide +kernel, written_append_buffered 2 sampleCalls (by decide +kernel)⟩

/-! ## 3. What is received -/

/-- **The loop of `OnReceive_I` ends**, whatever `OnHandleMessage` answers. -/
theorem iteration_wellFounded (onHandleMessage : List Bytes → Nat) :
    WellFounded fun rest rcvbuf =>
      ∃ message, iteration onHandleMessage rcvbuf = some (message, rest) := by
  refine Subrelation.wf ?_ (measure (weight : List Bytes → Nat)).wf
  rintro rest rcvbuf ⟨message, h⟩
  exact weight_iteration h

/-- `OnHandleMessage` answers with the length of the message at the front, 0 while it is not complete,
    and looks at the bytes only. -/
structure Framed (onHandleMessage : List Bytes → Nat) : Prop where
  bytes : ∀ rcvbuf, rcvbuf ≠ [] → onHandleMessage rcvbuf = onHandleMessage [rcvbuf.flatten]
  framing : Framing fun b => onHandleMessage [b]

/-- A connection, with the messages delivered so far. -/
structure Receiver where
  t : CTCPTransport := {}
  delivered : List Bytes := []
  deriving DecidableEq, Repr

/-- `handle_input` passes a segment on to `OnReceive_I` as one block. -/
def Receiver.step (onHandleMessage : List Bytes → Nat) (s : Receiver) (segment : Bytes) : Receiver :=
  let r := s.t.onReceive_I onHandleMessage [segment]
  { t := r.2.1, delivered := s.delivered ++ r.2.2 }

/-- The segment does not take the buffer over its limit. -/
def Receiver.Below (s : Receiver) (segment : Bytes) : Prop :=
  totalLength s.t.rcvbuf + segment.length ≤ s.t.dwRcvBufMaxLen

instance (s : Receiver) (segment : Bytes) : Decidable (s.Below segment) :=
  inferInstanceAs (Decidable (_ ≤ _))

theorem receiveLoop_none (h : iteration onHandleMessage rcvbuf = none) :
    receiveLoop onHandleMessage rcvbuf = ([], rcvbuf) := by
  rw [receiveLoop]
  split
  · rfl
  · rename_i h'
    rw [h] at h'
    cases h'

theorem receiveLoop_some {message : Bytes}
    (h : iteration onHandleMessage rcvbuf = some (message, rest)) :
    receiveLoop onHandleMessage rcvbuf =
      (message :: (receiveLoop onHandleMessage rest).1, (receiveLoop onHandleMessage rest).2) := by
  rw [receiveLoop]
  split
  · rename_i h'
    rw [h] at h'
    cases h'
  · rename_i h'
    rw [h] at h'
    cases h'
    rfl

section Framed

variable {onHandleMessage : List Bytes → Nat} (hframed : Framed onHandleMessage)
include hframed

/-- When the loop is left, the bytes that remain begin with no complete message. -/
theorem Framed.incomplete {rcvbuf : List Bytes} (h : iteration onHandleMessage rcvbuf = none) :
    onHandleMessage [rcvbuf.flatten] = 0 := by
  by_cases hnil : rcvbuf = []
  · rw [hnil]
    exact Nat.le_zero.mp (hframed.framing.le [])
  rw [← hframed.bytes rcvbuf hnil]
  by_contra hne
  have hround := iteration_eq_some.mpr ⟨hnil, Nat.pos_of_ne_zero hne, rfl, rfl⟩
  rw [h] at hround
  cases hround

theorem receiveLoop_frames (rcvbuf : List Bytes) :
    Frames (fun b => onHandleMessage [b]) rcvbuf.flatten (receiveLoop onHandleMessage rcvbuf).1
      (receiveLoop onHandleMessage rcvbuf).2.flatten := by
  induction rcvbuf using (iteration_wellFounded onHandleMessage).induction with
  | _ rcvbuf ih =>
  cases hround : iteration onHandleMessage rcvbuf with
  | none =>
    rw [receiveLoop_none hround]
    exact .incomplete (hframed.incomplete hround)
  | some r =>
    obtain ⟨message, rest⟩ := r
    have hrest := ih rest ⟨message, hround⟩
    rw [receiveLoop_some hround]
    obtain ⟨hne, hpos, rfl, rfl⟩ := iteration_eq_some.mp hround
    rw [hframed.bytes rcvbuf hne] at hpos hrest ⊢
    rw [flatten_consume] at hrest
    exact .message hpos hrest

/-- A connection has delivered the messages of the bytes received, and buffers the rest. -/
def Receiver.Has (onHandleMessage : List Bytes → Nat) (stream : Bytes) (s : Receiver) : Prop :=
  Frames (fun b => onHandleMessage [b]) stream s.delivered s.t.rcvbuf.flatten

theorem Receiver.Has.step {stream : Bytes} {s : Receiver} {segment : Bytes}
    (h : s.Has onHandleMessage stream) (hbelow : s.Below segment) :
    (s.step onHandleMessage segment).Has onHandleMessage (stream ++ segment) := by
  have hlength : ¬ totalLength (s.t.rcvbuf ++ [segment]) > s.t.dwRcvBufMaxLen := by
    rw [totalLength, List.flatten_append, List.length_append, List.flatten_singleton]
    exact Nat.not_lt.mpr hbelow
  have hloop := receiveLoop_frames hframed (s.t.rcvbuf ++ [segment])
  rw [List.flatten_append, List.flatten_singleton] at hloop
  unfold Receiver.step onReceive_I
  dsimp only
  rw [ite_appendMessage, if_neg hlength]
  exact Frames.append hframed.framing h hloop

theorem Receiver.has_run {stream : Bytes} {s : Receiver} (h : s.Has onHandleMessage stream)
    {segments : List Bytes}
    (hbelow : Along (Receiver.step onHandleMessage) Receiver.Below s segments) :
    (run (Receiver.step onHandleMessage) s segments).Has onHandleMessage
      (stream ++ segments.flatten) := by
  induction segments generalizing stream s with
  | nil => rwa [List.flatten_nil, List.append_nil]
  | cons segment segments ih =>
    rw [run_cons, List.flatten_cons, ← List.append_assoc]
    exact ih (h.step hframed hbelow.1) hbelow.2

theorem Receiver.has_nil : Receiver.Has onHandleMessage [] {} :=
  .incomplete (Nat.le_zero.mp (hframed.framing.le []))

end Framed

/-- **The messages delivered and the bytes buffered do not depend on the segments in which the stream
    was received**, and no segment keeps `OnReceive_I` for ever. -/
theorem segments_indifferent {onHandleMessage : List Bytes → Nat} (hframed : Framed onHandleMessage)
    {segments segments' : List Bytes} (hstream : segments.flatten = segments'.flatten)
    (hbelow : Along (Receiver.step onHandleMessage) Receiver.Below {} segments)
    (hbelow' : Along (Receiver.step onHandleMessage) Receiver.Below {} segments') :
    (run (Receiver.step onHandleMessage) {} segments).delivered =
        (run (Receiver.step onHandleMessage) {} segments').delivered ∧
      (run (Receiver.step onHandleMessage) {} segments).t.rcvbuf.flatten =
        (run (Receiver.step onHandleMessage) {} segments').t.rcvbuf.flatten ∧
      WellFounded fun rest rcvbuf =>
        ∃ message, iteration onHandleMessage rcvbuf = some (message, rest) := by
  have hfirst := Receiver.has_run hframed (Receiver.has_nil hframed) hbelow
  have hsecond := Receiver.has_run hframed (Receiver.has_nil hframed) hbelow'
  rw [hstream] at hfirst
  obtain ⟨hdelivered, hbuffered⟩ := Frames.unique hfirst hsecond
  exact ⟨hdelivered, hbuffered, iteration_wellFounded onHandleMessage⟩

/-- A message is a byte that gives its length, and as many bytes. -/
def sampleHandler (rcvbuf : List Bytes) : Nat :=
  let size := (byteAt rcvbuf.flatten 0).toNat
  if size < rcvbuf.flatten.length then size + 1 else 0

theorem sampleHandler_framed : Framed sampleHandler := by
  have hsize : ∀ b, sampleHandler [b] =
      if (byteAt b 0).toNat < b.length then (byteAt b 0).toNat + 1 else 0 := fun b => by
    rw [sampleHandler, List.flatten_singleton]
  refine ⟨fun rcvbuf _ => (hsize rcvbuf.flatten).symm, fun b => ?_, fun b c hpos => ?_⟩
  · show sampleHandler [b] ≤ b.length
    rw [hsize]
    split <;> omega
  · show sampleHandler [b ++ c] = sampleHandler [b]
    rw [hsize] at hpos
    have hlt : (byteAt b 0).toNat < b.length := by
      by_contra hge
      rw [if_neg hge] at hpos
      cases hpos
    have hbyte : byteAt (b ++ c) 0 = byteAt b 0 := byteAt_append (by omega) c
    rw [hsize, hsize, hbyte, List.length_append, if_pos hlt, if_pos (by omega)]

/-- Two messages and the beginning of a third, cut within them. -/
def sampleSegments : List Bytes := [[2, 7], [8, 0, 3], [9]]

theorem sampleSegments_indifferent :
    (run (Receiver.step sampleHandler) {} sampleSegments).delivered = [[2, 7, 8], [0]] ∧
      (run (Receiver.step sampleHandler) {} sampleSegments).delivered =
        (run (Receiver.step sampleHandler) {} [sampleSegments.flatten]).delivered ∧
      (run (Receiver.step sampleHandler) {} sampleSegments).t.rcvbuf.flatten =
        (run (Receiver.step sampleHandler) {} [sampleSegments.flatten]).t.rcvbuf.flatten := by
  have hstream : sampleSegments.flatten = [sampleSegments.flatten].flatten := rfl
  obtain ⟨hdelivered, hbuffered, -⟩ := segments_indifferent sampleHandler_framed hstream
    (by decide +kernel) (by decide +kernel)
  exact ⟨by decide +kernel, hdelivered, hbuffered⟩

end CTCPTransport

end OpenBras
