/-
  File:      OpenBras/Portal/Connector.lean
  Subject:   WHETHER A PORTAL SERVER IS ALIVE: the probes of `CPortalConnector` (src/Portal).

  A timer sends probes, numbered by `m_last_detect_req_id`; the answer to the latest resets the
  count of probes. The number goes out as it lies in memory, and is read back in network byte order,
  on a little-endian host the other way round. `m_isDead` is set to false by an answer, and set to
  false when the count is above 5: nothing makes it true. The constructor leaves the three members
  as the memory was, which is the start of every run here.

  `alive_right_iff` says for which runs this is what it should be.
-/
import Mathlib.Data.List.Induction
import OpenBras.Lib.Run
import OpenBras.Portal.Walk

namespace OpenBras

open Wire
open CPortalServerChannel (accepts addAuthentication swapShort)

/-- The members of `CPortalConnector` that the probes need. -/
structure CPortalConnector where
  isDead : Bool
  detectcount : Int
  lastDetectReqId : UInt16
  cfg : PortalServerCfg
  deriving DecidableEq, Repr

namespace CPortalConnector

/-! ## 1. The program -/

/-- What happens to a connector. `msg` is the memory from the receive buffer on, `rvalRecv` what
    `recvfrom` returns, if it is not negative. -/
inductive Event where
  | timeout
  | input (msg : Bytes) (rvalRecv : Nat)

/-- `PortalSerializeHeader`: the numbers are written in host byte order, here they are read in
    network byte order. -/
def portalSerializeHeader (code authType version : UInt8) (serialNo reqId : UInt16)
    (subIp : UInt32) (errorCode : UInt8) : OpenportalHeader where
  version := version
  code := code
  authType := authType
  serialNo := swapShort serialNo
  reqId := swapShort reqId
  ipAddress := swapLong subIp
  errorCode := errorCode

/-- `SendDetect`: the probe. -/
def sendDetect (H : Md5) (c : CPortalConnector) : CPortalConnector × Bytes :=
  let c := { c with lastDetectReqId := c.lastDetectReqId + 1 }
  let h := portalSerializeHeader PORTAL_NTF_LOGOUT PORTAL_CHAP_AUTH c.cfg.version 0
    c.lastDetectReqId 0 0
  let mem :=
    if c.cfg.version = PORTAL_VERSION_TWO then
      addAuthentication H c.cfg.key h.bytes
    else h.bytes
  (c, mem.take OPENPORTAL_HEADER)

/-- `handle_timeout`. -/
def handleTimeout (H : Md5) (c : CPortalConnector) : CPortalConnector × Bytes :=
  let c := if c.detectcount > 5 then { c with isDead := false } else c
  let (c, probe) := c.sendDetect H
  ({ c with detectcount := c.detectcount + 1 }, probe)

/-- The checks of `handle_input`, up to the request number: they are those of `RcvData`. -/
def passes (cfg : PortalServerCfg) (msg : Bytes) (rvalRecv : Nat) : Bool :=
  rvalRecv ≠ 0 && accepts cfg msg rvalRecv &&
    byteAt msg 1 = PORTAL_ACK_NTF_LOGOUT

/-- `handle_input`. -/
def handleInput (msg : Bytes) (rvalRecv : Nat) (c : CPortalConnector) : CPortalConnector :=
  if passes c.cfg msg rvalRecv && c.lastDetectReqId = getShort msg 6 then
    { c with isDead := false, detectcount := 0 }
  else c

def isChannelAlive (c : CPortalConnector) : Bool := !c.isDead

/-! ## 2. What it should be -/

/-- A connector, with notes on the run: the latest probe, how many probes in a row have had no reply,
    and whether there ever was one. -/
structure Watched where
  c : CPortalConnector
  probe : Option Bytes := none
  unanswered : Nat := 0
  answered : Bool := false
  deriving DecidableEq, Repr

/-- The datagram is a reply to the latest probe, whose request number it repeats. -/
def Watched.isReply (t : Watched) (msg : Bytes) (rvalRecv : Nat) : Bool :=
  passes t.c.cfg msg rvalRecv &&
    t.probe.elim false fun probe => bytesAt msg 6 2 = bytesAt probe 6 2

def step (H : Md5) (t : Watched) : Event → Watched
  | .timeout =>
    let r := t.c.handleTimeout H
    { t with c := r.1, probe := some r.2, unanswered := t.unanswered + 1 }
  | .input msg rvalRecv =>
    let c := t.c.handleInput msg rvalRecv
    if t.isReply msg rvalRecv then { t with c, unanswered := 0, answered := true } else { t with c }

/-- **The channel is dead after more than `limit` probes in a row without a reply, and alive from a
    reply to the latest probe until then.** -/
structure Right (limit : Nat) (t : Watched) : Prop where
  dead : limit < t.unanswered → t.c.isChannelAlive = false
  alive : t.answered = true → t.unanswered ≤ limit → t.c.isChannelAlive = true

/-! ## 3. The request number -/

theorem bytesAt_short (msg : Bytes) (i : Nat) : bytesAt msg i 2 = putShort (getShort msg i) :=
  (putShort_bytes _ _).symm

/-- A reply repeats the two bytes of the number, in the order in which they were sent. -/
theorem bytesAt_eq_putShort {msg : Bytes} {i : Nat} {v : UInt16} :
    bytesAt msg i 2 = putShort v ↔ getShort msg i = v := by
  rw [bytesAt_short]
  constructor
  · intro h
    have hget := getShort_putShort (getShort msg i) []
    rwa [h, getShort_putShort, eq_comm] at hget
  · rintro rfl
    rfl

variable (H : Md5) {start : CPortalConnector} {es : List Event}

theorem sendDetect_reqId (c : CPortalConnector) :
    bytesAt (c.sendDetect H).2 6 2 =
      putShort (swapShort (c.lastDetectReqId + 1)) := by
  have hbytes : ∀ h : OpenportalHeader, ∀ mem : Bytes, (∀ i < 16, byteAt mem i = byteAt h.bytes i) →
      bytesAt (mem.take OPENPORTAL_HEADER) 6 2 = putShort h.reqId := by
    intro h mem hsame
    show [byteAt (mem.take 32) 6, byteAt (mem.take 32) 7] = _
    rw [byteAt_take (by decide), byteAt_take (by decide), hsame 6 (by decide), hsame 7 (by decide)]
    rfl
  unfold sendDetect
  dsimp only
  generalize hh : portalSerializeHeader PORTAL_NTF_LOGOUT PORTAL_CHAP_AUTH c.cfg.version 0
    (c.lastDetectReqId + 1) 0 0 = h
  have hreqId : h.reqId = swapShort (c.lastDetectReqId + 1) := by rw [← hh]; rfl
  rw [← hreqId]
  by_cases hv : c.cfg.version = PORTAL_VERSION_TWO
  · rw [if_pos hv]
    refine hbytes h _ fun i hi => ?_
    unfold addAuthentication
    split
    · rfl
    · exact byteAt_memcpy hi _ _
  · rw [if_neg hv]
    exact hbytes h _ fun _ _ => rfl

/-! ## 4. What the program does -/

def Event.isTimeout : Event → Bool
  | .timeout => true
  | .input _ _ => false

/-- How many probes were sent. -/
def ticks (es : List Event) : Nat := es.countP Event.isTimeout

@[simp] theorem ticks_concat (es : List Event) (e : Event) :
    ticks (es ++ [e]) = ticks es + if e.isTimeout then 1 else 0 := by
  rw [ticks, List.countP_append, List.countP_singleton]
  rfl

/-- The event sets `m_isDead` to false, after the events `es` of which none did: a probe with the
    count above 5, or a datagram whose request number, read in network byte order, is that of the
    latest probe. -/
def Clears (start : CPortalConnector) (es : List Event) : Event → Prop
  | .timeout => 5 < start.detectcount + ticks es
  | .input msg rvalRecv => passes start.cfg msg rvalRecv = true ∧
      start.lastDetectReqId + UInt16.ofNat (ticks es) = getShort msg 6

/-- `m_isDead` was true in the beginning, and nothing has cleared it. -/
def Asleep (start : CPortalConnector) (es : List Event) : Prop :=
  start.isDead = true ∧ ∀ es' e, es' ++ [e] <+: es → ¬ Clears start es' e

/-- The event is a reply to the latest probe, sent before. -/
def Replies (start : CPortalConnector) (es : List Event) : Event → Prop
  | .timeout => False
  | .input msg rvalRecv => passes start.cfg msg rvalRecv = true ∧ 0 < ticks es ∧
      getShort msg 6 =
        swapShort (start.lastDetectReqId + UInt16.ofNat (ticks es))

instance (start : CPortalConnector) (es : List Event) : (e : Event) → Decidable (Replies start es e)
  | .timeout => inferInstanceAs (Decidable False)
  | .input _ _ => inferInstanceAs (Decidable (_ ∧ _ ∧ _))

/-- How many probes were sent after the latest reply, of the events latest first. -/
def unansweredBack (start : CPortalConnector) : List Event → Nat
  | [] => 0
  | .timeout :: es => unansweredBack start es + 1
  | .input msg rvalRecv :: es =>
    if Replies start es.reverse (.input msg rvalRecv) then 0 else unansweredBack start es

/-- How many probes in a row have had no reply. -/
def unanswered (start : CPortalConnector) (es : List Event) : Nat := unansweredBack start es.reverse

theorem unanswered_timeout (start : CPortalConnector) (es : List Event) :
    unanswered start (es ++ [.timeout]) = unanswered start es + 1 := by
  rw [unanswered, List.reverse_concat]
  rfl

theorem unanswered_input (start : CPortalConnector) (es : List Event) (msg : Bytes)
    (rvalRecv : Nat) : unanswered start (es ++ [.input msg rvalRecv]) =
      if Replies start es (.input msg rvalRecv) then 0 else unanswered start es := by
  rw [unanswered, List.reverse_concat, unansweredBack, List.reverse_reverse, unanswered]

theorem concat_prefix_concat {α : Type} {a b : List α} {x y : α} :
    a ++ [x] <+: b ++ [y] ↔ (a = b ∧ x = y) ∨ a ++ [x] <+: b := by
  rw [List.prefix_concat_iff]
  refine or_congr_left ?_
  constructor
  · intro h
    exact ⟨List.append_inj_left' h rfl, List.singleton_inj.mp (List.append_inj_right' h rfl)⟩
  · rintro ⟨rfl, rfl⟩
    rfl

theorem asleep_concat {e : Event} :
    Asleep start (es ++ [e]) ↔ Asleep start es ∧ ¬ Clears start es e := by
  unfold Asleep
  constructor
  · rintro ⟨hstart, h⟩
    exact ⟨⟨hstart, fun es' e' hp => h es' e' (concat_prefix_concat.mpr (.inr hp))⟩,
      h es e (List.prefix_refl _)⟩
  · rintro ⟨⟨hstart, h⟩, hlast⟩
    refine ⟨hstart, fun es' e' hp => ?_⟩
    obtain ⟨rfl, rfl⟩ | hp := concat_prefix_concat.mp hp
    · exact hlast
    · exact h es' e' hp

theorem Asleep.earlier {fs : List Event} (h : Asleep start fs) (hp : es <+: fs) : Asleep start es :=
  ⟨h.1, fun es' e he => h.2 es' e (he.trans hp)⟩

/-- A watched connector after the events. -/
structure Follows (start : CPortalConnector) (es : List Event) (t : Watched) : Prop where
  cfg : t.c.cfg = start.cfg
  reqId : t.c.lastDetectReqId = start.lastDetectReqId + UInt16.ofNat (ticks es)
  asleep : t.c.isDead = true ↔ Asleep start es
  count : Asleep start es → t.c.detectcount = start.detectcount + ticks es
  probe : t.probe.map (bytesAt · 6 2) = if 0 < ticks es then
    some (putShort (swapShort t.c.lastDetectReqId)) else none
  unanswered : t.unanswered = unanswered start es
  answered : t.answered = true ↔ ∃ es' e, es' ++ [e] <+: es ∧ Replies start es' e

theorem Follows.isReply {t : Watched} (h : Follows start es t) {msg : Bytes} {rvalRecv : Nat} :
    t.isReply msg rvalRecv = true ↔ Replies start es (.input msg rvalRecv) := by
  unfold Watched.isReply Replies
  rw [Bool.and_eq_true, h.cfg, ← h.reqId]
  refine and_congr_right fun _ => ?_
  have hprobe := h.probe
  cases hp : t.probe with
  | none =>
    rw [hp] at hprobe
    split at hprobe
    · cases hprobe
    · rename_i hticks
      exact iff_of_false Bool.false_ne_true fun h => hticks h.1
  | some probe =>
    rw [hp] at hprobe
    split at hprobe
    · rename_i hticks
      have hbytes : bytesAt probe 6 2 = _ := Option.some.inj hprobe
      show decide (bytesAt msg 6 2 = bytesAt probe 6 2) = true ↔ _
      rw [decide_eq_true_eq, hbytes, bytesAt_eq_putShort]
      exact (and_iff_right hticks).symm
    · cases hprobe

theorem handleTimeout_eq (c : CPortalConnector) :
    (c.handleTimeout H).1 =
      { c with isDead := c.isDead && !decide (c.detectcount > 5), detectcount := c.detectcount + 1,
               lastDetectReqId := c.lastDetectReqId + 1 } := by
  obtain ⟨isDead, detectcount, lastDetectReqId, cfg⟩ := c
  unfold handleTimeout sendDetect
  dsimp only
  by_cases h : detectcount > 5
  · rw [if_pos h, decide_eq_true h, Bool.not_true, Bool.and_false]
  · rw [if_neg h, decide_eq_false h, Bool.not_false, Bool.and_true]

theorem handleTimeout_reqId (c : CPortalConnector) :
    bytesAt (c.handleTimeout H).2 6 2 =
      putShort (swapShort (c.lastDetectReqId + 1)) := by
  unfold handleTimeout
  dsimp only
  rw [sendDetect_reqId]
  split <;> rfl

theorem exists_replies_concat {e : Event} :
    (∃ es' e', es' ++ [e'] <+: es ++ [e] ∧ Replies start es' e') ↔
      Replies start es e ∨ ∃ es' e', es' ++ [e'] <+: es ∧ Replies start es' e' := by
  constructor
  · rintro ⟨es', e', hp, h⟩
    obtain ⟨rfl, rfl⟩ | hp := concat_prefix_concat.mp hp
    · exact .inl h
    · exact .inr ⟨es', e', hp, h⟩
  · rintro (h | ⟨es', e', hp, h⟩)
    · exact ⟨es, e, List.prefix_refl _, h⟩
    · exact ⟨es', e', concat_prefix_concat.mpr (.inr hp), h⟩

theorem Follows.timeout {t : Watched} (h : Follows start es t) :
    Follows start (es ++ [.timeout]) (step H t .timeout) := by
  have hticks : ticks (es ++ [.timeout]) = ticks es + 1 := ticks_concat es .timeout
  have hc : (step H t .timeout).c = _ := handleTimeout_eq H t.c
  have hid : (step H t .timeout).c.lastDetectReqId =
      start.lastDetectReqId + UInt16.ofNat (ticks (es ++ [.timeout])) := by
    rw [hc, hticks, UInt16.ofNat_add, ← UInt16.add_assoc, ← h.reqId]
    rfl
  refine ⟨?_, hid, ?_, ?_, ?_, ?_, ?_⟩
  · rw [hc]
    exact h.cfg
  · rw [hc, asleep_concat, ← h.asleep]
    show (t.c.isDead && !decide (t.c.detectcount > 5)) = true ↔ _
    rw [Bool.and_eq_true, Bool.not_eq_true', decide_eq_false_iff_not]
    refine and_congr_right fun hdead => ?_
    show ¬ t.c.detectcount > 5 ↔ ¬ 5 < start.detectcount + ticks es
    rw [h.count (h.asleep.mp hdead)]
  · intro hasleep
    rw [hc, hticks]
    show t.c.detectcount + 1 = start.detectcount + ((ticks es + 1 : Nat) : Int)
    rw [h.count (asleep_concat.mp hasleep).1]
    omega
  · rw [hticks, if_pos (Nat.succ_pos _)]
    have hprobe := handleTimeout_reqId H t.c
    rw [hc]
    exact congrArg some hprobe
  · rw [unanswered_timeout, ← h.unanswered]
    rfl
  · rw [exists_replies_concat, ← h.answered]
    exact ⟨.inr, fun hor => hor.elim False.elim id⟩

theorem handleInput_isDead (msg : Bytes) (rvalRecv : Nat) (c : CPortalConnector) :
    (c.handleInput msg rvalRecv).isDead = true ↔ c.isDead = true ∧
      ¬ (passes c.cfg msg rvalRecv = true ∧ c.lastDetectReqId = getShort msg 6) := by
  unfold handleInput
  split
  · rename_i h
    rw [Bool.and_eq_true, decide_eq_true_eq] at h
    exact iff_of_false Bool.false_ne_true fun hn => hn.2 h
  · rename_i h
    rw [Bool.and_eq_true, decide_eq_true_eq] at h
    exact (and_iff_left h).symm

theorem handleInput_kept (msg : Bytes) (rvalRecv : Nat) (c : CPortalConnector) :
    (c.handleInput msg rvalRecv).cfg = c.cfg ∧
      (c.handleInput msg rvalRecv).lastDetectReqId = c.lastDetectReqId ∧
      ((c.handleInput msg rvalRecv).isDead = true →
        (c.handleInput msg rvalRecv).detectcount = c.detectcount) := by
  unfold handleInput
  split
  · exact ⟨rfl, rfl, fun h => absurd h Bool.false_ne_true⟩
  · exact ⟨rfl, rfl, fun _ => rfl⟩

theorem step_input (t : Watched) (msg : Bytes) (rvalRecv : Nat) :
    step H t (.input msg rvalRecv) =
      { c := t.c.handleInput msg rvalRecv, probe := t.probe,
        unanswered := if t.isReply msg rvalRecv then 0 else t.unanswered,
        answered := t.answered || t.isReply msg rvalRecv } := by
  rw [step]
  by_cases h : t.isReply msg rvalRecv = true
  · rw [if_pos h, if_pos h, h, Bool.or_true]
  · rw [if_neg h, if_neg h, Bool.eq_false_of_not_eq_true h, Bool.or_false]

theorem Follows.input {t : Watched} (h : Follows start es t) (msg : Bytes) (rvalRecv : Nat) :
    Follows start (es ++ [.input msg rvalRecv]) (step H t (.input msg rvalRecv)) := by
  have hticks : ticks (es ++ [.input msg rvalRecv]) = ticks es := ticks_concat es (.input msg rvalRecv)
  obtain ⟨hcfg, hid, hcount⟩ := handleInput_kept msg rvalRecv t.c
  have hasleep : (t.c.handleInput msg rvalRecv).isDead = true ↔
      Asleep start (es ++ [.input msg rvalRecv]) := by
    rw [handleInput_isDead, asleep_concat, h.asleep, h.cfg, h.reqId]
    rfl
  rw [step_input]
  refine ⟨hcfg.trans h.cfg, ?_, hasleep, fun hs => ?_, ?_, ?_, ?_⟩
  · rw [hticks]
    exact hid.trans h.reqId
  · rw [hticks, ← h.count (asleep_concat.mp hs).1]
    exact hcount (hasleep.mpr hs)
  · rw [hticks]
    show t.probe.map (bytesAt · 6 2) = if 0 < ticks es then
      some (putShort (swapShort (t.c.handleInput msg rvalRecv).lastDetectReqId))
      else none
    rw [hid]
    exact h.probe
  · rw [unanswered_input, ← h.unanswered]
    exact if_congr h.isReply rfl rfl
  · rw [exists_replies_concat, ← h.answered, ← h.isReply, or_comm]
    exact Bool.or_eq_true_iff

/-- **Where a run leads**, whatever memory it began with. -/
theorem follows_run (start : CPortalConnector) (es : List Event) :
    Follows start es (run (step H) { c := start } es) := by
  induction es using List.reverseRecOn with
  | nil =>
    refine ⟨rfl, (UInt16.add_zero _).symm, ⟨fun h => ⟨h, ?_⟩, And.left⟩,
      fun _ => (Int.add_zero _).symm, rfl, rfl, iff_of_false Bool.false_ne_true ?_⟩
    · exact fun es' e hp => absurd (List.prefix_nil.mp hp) (by simp)
    · rintro ⟨es', e, hp, -⟩
      exact absurd (List.prefix_nil.mp hp) (by simp)
  | append_singleton es e ih =>
    rw [run_append]
    cases e with
    | timeout => exact ih.timeout H
    | input msg rvalRecv => exact ih.input H msg rvalRecv

/-! ## 5. Which runs are right -/

theorem unanswered_of_replies {e : Event} (h : Replies start es e) :
    unanswered start (es ++ [e]) = 0 := by
  cases e with
  | timeout => exact h.elim
  | input msg rvalRecv => rw [unanswered_input, if_pos h]

/-- **Throughout a run, `IsChannelAlive` is what it should be exactly if, whenever more than `limit`
    probes in a row have had no reply, `m_isDead` was true by chance in the beginning and nothing has
    cleared it; and if it was not so, or no longer, at each reply to the latest probe.** -/
theorem alive_right_iff (H : Md5) (limit : Nat) (start : CPortalConnector) (es : List Event) :
    (∀ fs, fs <+: es → Right limit (run (step H) { c := start } fs)) ↔
      (∀ fs, fs <+: es → limit < unanswered start fs → Asleep start fs) ∧
      (∀ fs e, fs ++ [e] <+: es → Replies start fs e → ¬ Asleep start (fs ++ [e])) := by
  have halive : ∀ fs, (run (step H) { c := start } fs).c.isChannelAlive = false ↔ Asleep start fs := by
    intro fs
    rw [← (follows_run H start fs).asleep, isChannelAlive, Bool.not_eq_false']
  constructor
  · intro h
    refine ⟨fun fs hp hmany => ?_, fun fs e hp hreply hasleep => ?_⟩
    · rw [← (follows_run H start fs).unanswered] at hmany
      exact (halive fs).mp ((h fs hp).dead hmany)
    have hrun := follows_run H start (fs ++ [e])
    have hzero := hrun.unanswered.trans (unanswered_of_replies hreply)
    have hanswered := hrun.answered.mpr ⟨fs, e, List.prefix_refl _, hreply⟩
    have hup := (h _ hp).alive hanswered (hzero.trans_le (Nat.zero_le _))
    rw [(halive _).mpr hasleep] at hup
    cases hup
  · rintro ⟨hdead, hreplies⟩ fs hp
    have hrun := follows_run H start fs
    refine ⟨fun hmany => (halive fs).mpr (hdead fs hp (hrun.unanswered ▸ hmany)),
      fun hanswered _ => Bool.eq_true_of_not_eq_false fun hdown => ?_⟩
    obtain ⟨fs', e, hp', hreply⟩ := hrun.answered.mp hanswered
    exact hreplies fs' e (hp'.trans hp) hreply (((halive fs).mp hdown).earlier hp')

/-- The answer of a server to the probe with the number 1, which it read as 256. -/
def sampleReply : Bytes :=
  [1, PORTAL_ACK_NTF_LOGOUT, 0, 0, 0, 0, 1, 0, 0, 0, 0, 0, 0, 0, 0, 0]

/-- Seven probes without a reply, and the channel is alive; and one that was dead by chance in the
    beginning stays dead when its first probe is answered. -/
theorem silent_server_alive :
    (let start : CPortalConnector := ⟨false, 0, 0, { key := [], version := 1 }⟩
     let t := run (step Md5.utils) { c := start } (List.replicate 7 .timeout)
     t.unanswered = 7 ∧ t.c.isChannelAlive = true ∧ ¬ Asleep start (List.replicate 7 .timeout)) ∧
    (let start : CPortalConnector := ⟨true, 0, 0, { key := [], version := 1 }⟩
     let t := run (step Md5.utils) { c := start } [.timeout, .input sampleReply 16]
     t.answered = true ∧ t.unanswered = 0 ∧ t.c.isChannelAlive = false) :=
  ⟨⟨by decide +kernel, by decide +kernel, fun h => Bool.false_ne_true h.1⟩, by decide +kernel⟩

end CPortalConnector

end OpenBras
