/-
  File:      OpenBras/PPP/InPlace.lean
  Subject:   `Reqci` IN THE PACKET'S OWN BUFFER (src/PPP/CPPPLCP.cpp, src/PPP/CPPPIPCP.cpp): the
             answer is built over the request, by moving options towards the front.

  The models of `Reqci` in LcpRequest.lean and IpcpOptions.lean return the answer; the code
  writes it over the options it has read. Here is the loop with its buffer: `next` is where the
  next option starts, `rejp` or `ucp` where the answer ends. The loop ends because every turn
  takes bytes off `l` (`Buffer.Goes`), the answer never passes the option being read, so what is
  not yet read stands as it came (`Buffer.Holds`), and the buffer up to the answer's end is the
  answer of the models (`reqci_refines`).

  Options are moved with `memcpy` where source and destination may overlap. `BCopy` is the
  library's function with what the code relies on.

  **Result.** `requests_echoed_iff`: an Ack repeats the request and a Reject the refused options
  byte for byte -- but for a name server of IPCP that the client is refused because it does not
  agree: it goes back with our own address in it.
-/
import OpenBras.PPP.Verdicts

namespace OpenBras

open Wire

/-- `BCOPY(cip, ucp, cilen)`: the C library's `memcpy`, here always towards the front of the
    buffer. The ranges may overlap, where the library promises nothing; `down` is what the code
    counts on. -/
structure BCopy where
  copy : (buf : Bytes) → (cip ucp cilen : Nat) → Bytes
  down : ∀ buf cip ucp cilen, ucp ≤ cip → cip + cilen ≤ buf.length →
    copy buf cip ucp cilen = memcpy buf ucp ((buf.drop cip).take cilen)

/-- A copy that reads before it writes. -/
def BCopy.memmove : BCopy where
  copy buf cip ucp cilen := memcpy buf ucp ((buf.drop cip).take cilen)
  down _ _ _ _ _ _ := rfl

/-- An option is moved unless it stands where it goes. -/
def BCopy.move (B : BCopy) (buf : Bytes) (cip ucp cilen : Nat) : Bytes :=
  if ucp ≠ cip then B.copy buf cip ucp cilen else buf

theorem BCopy.move_eq (B : BCopy) {buf : Bytes} {cip ucp cilen : Nat} (h : ucp ≤ cip)
    (hb : cip + cilen ≤ buf.length) :
    B.move buf cip ucp cilen = memcpy buf ucp ((buf.drop cip).take cilen) := by
  unfold move
  split
  · exact B.down buf cip ucp cilen h hb
  · rename_i he
    have he : ucp = cip := not_not.mp he
    rw [he, memcpy_self hb]

/-! ## 1. The buffer -/

/-- The buffer of the loop: `l` bytes from `next` on are left to read, and the answer ends at
    `ucp`, in LCP `rejp`. -/
structure Buffer where
  buf : Bytes
  next : Nat := 0
  l : Nat
  ucp : Nat := 0

namespace Buffer

/-- The option being read. -/
def ci (a : Buffer) : Ci := ciAt (a.buf.drop a.next) a.l

/-- The loop goes on behind the option. A malformed one ends it and does not move `next`. -/
def pass (a : Buffer) : Buffer :=
  { a with l := a.l - a.ci.cilen, next := if a.ci.sound then a.next + a.ci.cilen else a.next }

/-- The option at `cip` goes into the answer. -/
def put (B : BCopy) (cip cilen : Nat) (a : Buffer) : Buffer :=
  { a with buf := B.move a.buf cip a.ucp cilen, ucp := a.ucp + cilen }

/-- The buffer against the model: the answer at the front, the rest unread. -/
structure Holds (inp : Bytes) (len : Nat) (out : Bytes) (a : Buffer) : Prop where
  ucp : a.ucp = out.length
  length : a.buf.length = inp.length
  answer : a.buf.take a.ucp = out
  unread : a.l ≠ 0 → a.ucp ≤ a.next ∧ a.buf.drop a.next = inp.drop a.next ∧ a.next + a.l = len

/-- What a turn knows of the option it has judged: it stands behind the answer, with the bytes
    the `switch` left, and the loop goes on behind it. -/
structure Judged (cip cilen : Nat) (bytes : Bytes) (a : Buffer) : Prop where
  behind : a.ucp ≤ cip
  fits : cip + cilen ≤ a.buf.length
  stands : (a.buf.drop cip).take cilen = bytes
  length : bytes.length = cilen
  next : a.l ≠ 0 → a.next = cip + cilen

namespace Holds

variable {inp out : Bytes} {len : Nat} {a : Buffer}

theorem ucp_le (h : Holds inp len out a) : a.ucp ≤ a.buf.length := by
  have hlen := congrArg List.length h.answer
  rw [List.length_take, ← h.ucp] at hlen
  omega

/-- The option being read lies inside the request. -/
theorem ci_fits (h : Holds inp len out a) (hlen : len ≤ inp.length) (h0 : a.l ≠ 0) :
    a.next + a.ci.cilen ≤ a.buf.length ∧ a.ci.cilen ≤ a.l ∧ a.ci.bytes.length = a.ci.cilen := by
  have hle := cilen_ciAt_le (a.buf.drop a.next) a.l
  obtain ⟨-, -, hnl⟩ := h.unread h0
  have hbuf := h.length
  have hfit : a.next + a.ci.cilen ≤ a.buf.length := by
    unfold ci
    omega
  refine ⟨hfit, hle, ?_⟩
  rw [Ci.bytes, List.length_take]
  unfold ci at hfit ⊢
  rw [cip_ciAt, List.length_drop]
  omega

/-- The option is judged, and written over. -/
theorem write (h : Holds inp len out a) (hlen : len ≤ inp.length) (h0 : a.l ≠ 0) {bytes : Bytes}
    (hb : bytes.length = a.ci.cilen) :
    Holds inp len out { a.pass with buf := memcpy a.buf a.next bytes } ∧
      Judged a.next a.ci.cilen bytes { a.pass with buf := memcpy a.buf a.next bytes } := by
  obtain ⟨hle, hdrop, hnl⟩ := h.unread h0
  obtain ⟨hfit, hcl, -⟩ := h.ci_fits hlen h0
  refine ⟨⟨h.ucp, ?_, ?_, fun hl => ?_⟩, ⟨hle, ?_, ?_, hb, fun hl => ?_⟩⟩
  · exact (length_memcpy (by omega)).trans h.length
  · -- the answer so far ends before the option
    have htake := congrArg (List.take a.ucp)
      (take_memcpy (show a.next ≤ a.buf.length by omega) bytes)
    rw [List.take_take, Nat.min_eq_left (by omega),
      List.take_append_of_le_length (by rw [List.length_take]; omega), List.take_take,
      Nat.min_eq_left hle] at htake
    exact htake.trans h.answer
  · unfold pass at hl ⊢
    dsimp only at hl ⊢
    rw [if_pos (show a.ci.sound = true from sound_ciAt hl), drop_memcpy (by omega) (by omega),
      ← List.drop_drop, hdrop, List.drop_drop]
    exact ⟨by omega, rfl, by omega⟩
  · rw [length_memcpy (by omega)]
    exact hfit
  · have htake := congrArg (List.drop a.next)
      (take_memcpy (show a.next ≤ a.buf.length by omega) bytes)
    rw [List.drop_take, Nat.add_sub_cancel_left,
      List.drop_left' (by rw [List.length_take]; omega), hb] at htake
    exact htake
  · exact if_pos (sound_ciAt hl)

/-- The option is judged, and left as it came. -/
theorem pass (h : Holds inp len out a) (hlen : len ≤ inp.length) (h0 : a.l ≠ 0) :
    Holds inp len out a.pass ∧ Judged a.next a.ci.cilen a.ci.bytes a.pass := by
  obtain ⟨hfit, -, hbl⟩ := h.ci_fits hlen h0
  have hself : memcpy a.buf a.next a.ci.bytes = a.buf := by
    rw [Ci.bytes, show a.ci.cip = a.buf.drop a.next from cip_ciAt _ _, memcpy_self hfit]
  have hwrite := h.write hlen h0 hbl
  rwa [hself] at hwrite

theorem put {cip cilen : Nat} {bytes : Bytes} (h : Holds inp len out a)
    (hj : Judged cip cilen bytes a) (B : BCopy) :
    Holds inp len (out ++ bytes) (a.put B cip cilen) := by
  have hbehind := hj.behind
  have hfits := hj.fits
  have hbl := hj.length
  unfold Buffer.put
  rw [B.move_eq hj.behind hj.fits, hj.stands]
  refine ⟨?_, ?_, ?_, fun hl => ?_⟩
  · rw [List.length_append, ← h.ucp, hbl]
  · exact (length_memcpy (by omega)).trans h.length
  · rw [← hbl, take_memcpy (by omega), h.answer]
  obtain ⟨-, hdrop, hnl⟩ := h.unread hl
  have hnext := hj.next hl
  dsimp only
  rw [drop_memcpy (by omega) (by omega)]
  exact ⟨by omega, hdrop, hnl⟩

end Holds

section Loop

variable {α : Type} (of : α → Buffer) {turn : α → α}

/-- A turn goes on behind the option. -/
def Goes (turn : α → α) : Prop :=
  ∀ a, (of (turn a)).l = (of a).pass.l ∧ (of (turn a)).next = (of a).pass.next

variable {of}

theorem Goes.turn_lt (h : Goes of turn) {a : α} (h0 : (of a).l ≠ 0) :
    (of (turn a)).l < (of a).l := by
  have hpos := cilen_ciAt_pos ((of a).buf.drop (of a).next) h0
  rw [(h a).1]
  unfold Buffer.pass ci
  dsimp only
  omega

/-- `while (l)`. -/
def loop (h : Goes of turn) (a : α) : α := if (of a).l = 0 then a else loop h (turn a)
termination_by (of a).l
decreasing_by exact h.turn_lt ‹_›

/-- **The loop is the fold over the options left.** -/
theorem loop_sim {β : Type} {step : β → Ci → β} {Sim : α → β → Prop} {inp : Bytes}
    (h : Goes of turn)
    (hunread : ∀ a b, Sim a b → (of a).l ≠ 0 → (of a).buf.drop (of a).next = inp.drop (of a).next)
    (hturn : ∀ a b, Sim a b → (of a).l ≠ 0 → Sim (turn a) (step b (of a).ci)) {a : α} {b : β}
    (hs : Sim a b) :
    (of (loop h a)).l = 0 ∧
      Sim (loop h a) ((options (inp.drop (of a).next) (of a).l).foldl step b) := by
  induction hl : (of a).l using Nat.strongRecOn generalizing a b with
  | ind n ih =>
    subst hl
    rw [loop]
    by_cases h0 : (of a).l = 0
    · rw [if_pos h0]
      refine ⟨h0, ?_⟩
      rw [h0]
      exact hs
    · have hrest := ih _ (h.turn_lt h0) (hturn a b hs h0) rfl
      rw [(h a).1, (h a).2] at hrest
      rw [if_neg h0, options_step inp (of a).next h0, ← hunread a b hs h0]
      exact hrest

end Loop

end Buffer

/-! ## 2. LCP -/

namespace LcpOptions

/-- The state of the loop. -/
structure InPlace extends Buffer where
  rc : Conf := .ack
  ho : LcpOptions := {}
  /-- `nak_buffer` up to `nakp` -/
  nak : Bytes := []
  draws : Nat

namespace InPlace

section Loop

variable (B : BCopy) (ao go : LcpOptions) (rand : Nat → UInt32) (rejectIfDisagree : Bool)

/-- One turn of the loop. -/
def turn (a : InPlace) : InPlace :=
  let ci := a.ci
  let j := judge ao go rand a.ho a.draws ci
  let cip := a.next
  let a := { a with
    toBuffer := a.pass, ho := j.ho, nak := a.nak ++ j.nak, draws := j.draws }
  let reject : InPlace := { a with rc := .rej, toBuffer := a.put B cip ci.cilen }
  match j.orc with
  | .ack => a
  | .nak =>
    if rejectIfDisagree && ci.citype != CI_MAGICNUMBER then reject
    else if a.rc = .rej then a
    else { a with rc := .nak }
  | .rej => reject

theorem turn_goes : Buffer.Goes toBuffer (turn B ao go rand rejectIfDisagree) := by
  intro a
  unfold turn
  dsimp only
  split
  · exact ⟨rfl, rfl⟩
  · split
    · exact ⟨rfl, rfl⟩
    · split <;> exact ⟨rfl, rfl⟩
  · exact ⟨rfl, rfl⟩

/-- `Reqci` on `len` bytes of the buffer: the verdict, the buffer and `*lenp` afterwards. -/
def reqci (draws : Nat) (buf : Bytes) (len : Nat) : Conf × Bytes × Nat :=
  let a : InPlace :=
    Buffer.loop (turn_goes B ao go rand rejectIfDisagree) { buf := buf, l := len, draws := draws }
  match a.rc with
  | .ack => (.ack, a.buf, a.next)
  | .nak => (.nak, memcpy a.buf 0 a.nak, a.nak.length)
  | .rej => (.rej, a.buf, a.ucp)

end Loop

/-- The loop against the model. -/
structure Sim (inp : Bytes) (len : Nat) (a : InPlace) (b : ReqAcc) : Prop where
  rc : a.rc = b.rc
  ho : a.ho = b.ho
  nak : a.nak = b.nak
  draws : a.draws = b.draws
  holds : a.Holds inp len b.rej
  /-- the buffer is written by a Reject only -/
  intact : a.rc ≠ .rej → a.buf = inp ∧ a.next + a.l = len

theorem turn_sim (B : BCopy) (ao go : LcpOptions) (rand : Nat → UInt32) (r : Bool) {inp : Bytes}
    {len : Nat} {a : InPlace} {b : ReqAcc} (h : Sim inp len a b) (hlen : len ≤ inp.length)
    (h0 : a.l ≠ 0) : Sim inp len (a.turn B ao go rand r) (reqciStep ao go rand r b a.ci) := by
  obtain ⟨hpass, hjudged⟩ := h.holds.pass hlen h0
  have hcl := cilen_ciAt_le (a.buf.drop a.next) a.l
  have hsound : (judge ao go rand a.ho a.draws a.ci).orc ≠ .rej → a.ci.sound = true := by
    intro hj
    by_contra hs
    exact hj (by simp [judge, hs])
  unfold turn reqciStep
  dsimp only
  rw [← h.ho, ← h.draws]
  generalize judge ao go rand a.ho a.draws a.ci = j at hsound ⊢
  have hskip (hs : a.ci.sound = true) : Sim inp len
      { a with toBuffer := a.pass, ho := j.ho, nak := a.nak ++ j.nak, draws := j.draws }
      { b with ho := j.ho, nak := b.nak ++ j.nak, draws := j.draws } := by
    refine ⟨h.rc, rfl, by rw [h.nak], rfl, hpass, fun hrc => ⟨(h.intact hrc).1, ?_⟩⟩
    have hnext : a.pass.next = a.next + a.ci.cilen := if_pos hs
    have hnl := (h.intact hrc).2
    show a.pass.next + (a.l - a.ci.cilen) = len
    rw [hnext]
    unfold Buffer.ci
    omega
  have hrej : Sim inp len
      { a with
        toBuffer := a.pass.put B a.next a.ci.cilen, ho := j.ho, nak := a.nak ++ j.nak,
        draws := j.draws, rc := .rej }
      { b with
        ho := j.ho, nak := b.nak ++ j.nak, draws := j.draws, rc := .rej,
        rej := b.rej ++ a.ci.bytes } :=
    ⟨rfl, rfl, by rw [h.nak], rfl, hpass.put hjudged B, fun hrc => absurd rfl hrc⟩
  cases horc : j.orc with
  | ack => exact hskip (hsound (by rw [horc]; nofun))
  | nak =>
    have hs := hskip (hsound (by rw [horc]; nofun))
    by_cases hr : (r && a.ci.citype != CI_MAGICNUMBER) = true
    · rw [if_pos hr, if_pos hr]
      exact hrej
    rw [if_neg hr, if_neg hr]
    by_cases hrc : a.rc = .rej
    · rw [if_pos hrc, if_pos (h.rc.symm.trans hrc)]
      exact hs
    · rw [if_neg hrc, if_neg fun e => hrc (h.rc.trans e)]
      exact ⟨rfl, hs.ho, hs.nak, hs.draws, hs.holds, fun _ => hs.intact hrc⟩
  | rej => exact hrej

/-- **The loop in the buffer answers as the model does.** -/
theorem reqci_refines (B : BCopy) (ao go : LcpOptions) (rand : Nat → UInt32) (r : Bool)
    (draws : Nat) {inp : Bytes} {len : Nat} (hlen : len ≤ inp.length) :
    (reqci B ao go rand r draws inp len).1 = (reqciRun ao go rand r draws inp len).rc ∧
      (reqci B ao go rand r draws inp len).2.1.take (reqci B ao go rand r draws inp len).2.2 =
        reqciOut (reqciRun ao go rand r draws inp len) inp len := by
  have hstart : Sim inp len { buf := inp, l := len, draws := draws } { draws := draws } :=
    ⟨rfl, rfl, rfl, rfl, ⟨rfl, rfl, rfl, fun _ => ⟨Nat.le_refl 0, rfl, Nat.zero_add len⟩⟩,
      fun _ => ⟨rfl, Nat.zero_add len⟩⟩
  obtain ⟨hl, hsim⟩ := Buffer.loop_sim (turn_goes B ao go rand r)
    (fun a b h h0 => (h.holds.unread h0).2.1) (fun a b h h0 => turn_sim B ao go rand r h hlen h0)
    hstart
  unfold reqci
  change Sim inp len _ (reqciRun ao go rand r draws inp len) at hsim
  generalize Buffer.loop _ { buf := inp, l := len, draws := draws : InPlace } = a at hl hsim ⊢
  generalize reqciRun ao go rand r draws inp len = b at hsim ⊢
  unfold reqciOut
  dsimp only
  rw [← hsim.rc]
  cases hrc : a.rc with
  | ack =>
    obtain ⟨hbuf, hnext⟩ := hsim.intact (by rw [hrc]; nofun)
    refine ⟨rfl, ?_⟩
    rw [hbuf, ← hnext, hl, Nat.add_zero]
  | nak =>
    refine ⟨rfl, ?_⟩
    have htake := take_memcpy (Nat.zero_le a.buf.length) a.nak
    rw [Nat.zero_add, List.take_zero, List.nil_append] at htake
    rw [htake, hsim.nak]
  | rej => exact ⟨rfl, hsim.holds.answer⟩

end InPlace

end LcpOptions

/-! ## 3. IPCP -/

namespace IpcpOptions

/-! ### The `switch` writes inside the option -/

/-- Our address of the name server an option asks for, 0 if there is none. -/
def server (ao : IpcpOptions) (citype : UInt8) : UInt32 :=
  if citype = CI_MS_DNS1 ∨ citype = CI_MS_DNS2 then ao.dnsaddr (citype == CI_MS_DNS2)
  else if citype = CI_MS_WINS1 ∨ citype = CI_MS_WINS2 then ao.winsaddr (citype == CI_MS_WINS2)
  else 0

/-- The option asks for a name server we have, with another address. -/
structure OtherServer (ao : IpcpOptions) (ci : Ci) : Prop where
  sound : ci.sound = true
  cilen : ci.cilen = CILEN_ADDR
  known : ao.server ci.citype ≠ 0
  other : addrAt ci.cip 2 ≠ ao.server ci.citype

/-- The option is left as it came, unless it is Naked with a value of ours; where disagreement
    is refused it is always left. -/
structure Judgement.Leaves (r : Bool) (ci : Ci) (j : Judgement) : Prop where
  plain : j.orc ≠ .nak → j.bytes = ci.bytes
  fed : r = true → j.bytes = ci.bytes
  length : ci.bytes.length = ci.cilen → j.bytes.length = ci.bytes.length

theorem Judgement.Leaves.of_bytes {r : Bool} {ci : Ci} {j : Judgement} (h : j.bytes = ci.bytes) :
    j.Leaves r ci :=
  ⟨fun _ => h, fun _ => h, fun _ => congrArg List.length h⟩

theorem length_putAt {i : Nat} {b p : Bytes} (h : i + b.length ≤ p.length) :
    (putAt i b p).length = p.length := by
  unfold putAt
  simp only [List.length_append, List.length_take, List.length_drop]
  omega

theorem length_putLong (v : UInt32) : (putLong v).length = 4 := rfl

section Leaves

variable (wo ho ao : IpcpOptions) (r : Bool) (ci : Ci)

theorem leaves_of_naks {nak1 nak2 : Bool} {f g : Bytes → Bytes} (wo' ho' : IpcpOptions)
    (hf : ∀ p, ci.bytes.length = ci.cilen → p.length = ci.bytes.length → (f p).length = p.length)
    (hg : ∀ p, ci.bytes.length = ci.cilen → p.length = ci.bytes.length → (g p).length = p.length) :
    Judgement.Leaves r ci
      { orc := if nak1 || nak2 then .nak else .ack, wo := wo', ho := ho',
        bytes :=
          if nak2 && !r then g (if nak1 && !r then f ci.bytes else ci.bytes)
          else if nak1 && !r then f ci.bytes else ci.bytes } := by
  have hone (hc : ci.bytes.length = ci.cilen) :
      (if nak1 && !r then f ci.bytes else ci.bytes).length = ci.bytes.length := by
    split
    · exact hf _ hc rfl
    · rfl
  refine ⟨?_, ?_, fun hc => ?_⟩
  · cases nak1 <;> cases nak2 <;> intro h <;> first | rfl | exact absurd rfl h
  · rintro rfl
    cases nak1 <;> cases nak2 <;> rfl
  · dsimp only
    split
    · rw [hg _ hc (hone hc), hone hc]
    · exact hone hc

theorem judgeAddrs_leaves : (judgeAddrs wo ho ao r ci).Leaves r ci := by
  unfold judgeAddrs
  dsimp only
  split
  · exact .of_bytes rfl
  rename_i hn
  simp only [Bool.or_eq_true, bne_iff_ne, not_or, not_not] at hn
  split
  · exact .of_bytes rfl
  · exact leaves_of_naks r ci _ _
      (fun p hc hp => length_putAt (by rw [hp, hc, hn.2, length_putLong]; decide))
      fun p hc hp => length_putAt (by rw [hp, hc, hn.2, length_putLong]; decide)

theorem judgeAddr_leaves : (judgeAddr wo ho ao r ci).Leaves r ci := by
  unfold judgeAddr
  dsimp only
  split
  · exact .of_bytes rfl
  rename_i hn
  simp only [Bool.or_eq_true, bne_iff_ne, not_or, not_not] at hn
  split
  · refine ⟨fun h => absurd rfl h, fun h => if_pos h, fun hc => ?_⟩
    dsimp only
    split
    · rfl
    · exact length_putAt (by rw [hc, hn.2, length_putLong]; decide)
  · split <;> exact .of_bytes rfl

theorem judgeVj_leaves : (judgeVj wo ho ao r ci).Leaves r ci := by
  unfold judgeVj
  split
  · exact .of_bytes rfl
  split
  · exact .of_bytes rfl
  split
  · rename_i hlen
    exact leaves_of_naks r ci _ _
      (fun p hc hp => length_putAt (by rw [hp, hc, hlen, List.length_singleton]; decide))
      fun p hc hp => length_putAt (by rw [hp, hc, hlen, List.length_singleton]; decide)
  · exact .of_bytes rfl

theorem judge_server_or_leaves :
    (ci.sound = true ∧ judge wo ho ao r ci = judgeServer (ao.server ci.citype) wo ho ci) ∨
      ((judge wo ho ao r ci).Leaves r ci ∧ ¬ OtherServer ao ci) := by
  have hrej : ∀ {w h : IpcpOptions},
      Judgement.Leaves r ci { orc := .rej, wo := w, ho := h, bytes := ci.bytes } := .of_bytes rfl
  have hnone : ∀ {c : UInt8}, ci.citype = c → (CI_MS_DNS1 ≠ c ∧ CI_MS_DNS2 ≠ c ∧
      CI_MS_WINS1 ≠ c ∧ CI_MS_WINS2 ≠ c) → ¬ OtherServer ao ci := by
    rintro c rfl ⟨h1, h2, h3, h4⟩ ho
    exact ho.known (by simp [server, h1.symm, h2.symm, h3.symm, h4.symm])
  unfold judge
  by_cases hs : ci.sound = true
  swap
  · rw [if_pos (by simpa using hs)]
    exact .inr ⟨hrej, fun h => hs h.sound⟩
  rw [if_neg (by simp [hs])]
  by_cases h1 : ci.citype = CI_ADDRS
  · rw [if_pos h1]
    exact .inr ⟨judgeAddrs_leaves wo ho ao r ci, hnone h1 (by decide)⟩
  rw [if_neg h1]
  by_cases h2 : ci.citype = CI_ADDR
  · rw [if_pos h2]
    exact .inr ⟨judgeAddr_leaves wo ho ao r ci, hnone h2 (by decide)⟩
  rw [if_neg h2]
  unfold server
  by_cases h3 : ci.citype = CI_MS_DNS1 ∨ ci.citype = CI_MS_DNS2
  · rw [if_pos h3, if_pos h3]
    exact .inl ⟨hs, rfl⟩
  rw [if_neg h3, if_neg h3]
  by_cases h4 : ci.citype = CI_MS_WINS1 ∨ ci.citype = CI_MS_WINS2
  · rw [if_pos h4, if_pos h4]
    exact .inl ⟨hs, rfl⟩
  rw [if_neg h4, if_neg h4]
  have hother : ¬ OtherServer ao ci := fun h => h.known (by simp [server, h3, h4])
  split
  · exact .inr ⟨judgeVj_leaves wo ho ao r ci, hother⟩
  · exact .inr ⟨hrej, hother⟩

theorem bytes_of_ne_nak (h : (judge wo ho ao r ci).orc ≠ .nak) :
    (judge wo ho ao r ci).bytes = ci.bytes := by
  rcases judge_server_or_leaves wo ho ao r ci with ⟨-, hj⟩ | ⟨hj, -⟩
  · rw [hj] at h ⊢
    unfold judgeServer at h ⊢
    split
    · rfl
    rename_i hours
    rw [if_neg hours] at h
    split
    · rename_i ha
      rw [if_pos ha] at h
      exact absurd rfl h
    · rfl
  · exact hj.plain h

/-- Where disagreement is refused an option is left as it came, unless it asks for another name
    server than ours. -/
theorem bytes_of_fed (hr : r = true) (h : ¬ OtherServer ao ci) :
    (judge wo ho ao r ci).bytes = ci.bytes := by
  rcases judge_server_or_leaves wo ho ao r ci with ⟨hs, hj⟩ | ⟨hj, -⟩
  · rw [hj]
    unfold judgeServer
    split
    · rfl
    · rename_i hours
      rw [not_or, not_not] at hours
      rw [if_neg fun ha => h ⟨hs, hours.2, hours.1, ha⟩]
  · exact hj.fed hr

theorem length_judge (hc : ci.bytes.length = ci.cilen) :
    (judge wo ho ao r ci).bytes.length = ci.bytes.length := by
  rcases judge_server_or_leaves wo ho ao r ci with ⟨-, hj⟩ | ⟨hj, -⟩
  · rw [hj]
    unfold judgeServer
    split
    · rfl
    rename_i hn
    split
    · exact length_putAt (by rw [hc, not_not.mp (not_or.mp hn).2, length_putLong]; decide)
    · rfl
  · exact hj.length hc

/-- Another name server than ours is written over with ours. -/
theorem judge_otherServer (h : OtherServer ao ci) :
    (judge wo ho ao r ci).orc = .nak ∧
      (judge wo ho ao r ci).bytes =
        putAt 2 (putLong (swapLong (ao.server ci.citype))) ci.bytes := by
  rcases judge_server_or_leaves wo ho ao r ci with ⟨-, hj⟩ | ⟨-, hn⟩
  · rw [hj]
    unfold judgeServer
    rw [if_neg (not_or.mpr ⟨h.known, not_not.mpr h.cilen⟩), if_pos h.other]
    exact ⟨rfl, rfl⟩
  · exact absurd h hn

end Leaves

/-- The state of the loop. -/
structure InPlace extends Buffer where
  rc : Conf := .ack
  wo : IpcpOptions
  ho : IpcpOptions := {}

namespace InPlace

section Loop

variable (B : BCopy) (ao : IpcpOptions) (rejectIfDisagree : Bool)

/-- The option at `cip` goes into the answer. -/
def put (cip cilen : Nat) (a : InPlace) : InPlace :=
  { a with toBuffer := a.toBuffer.put B cip cilen }

/-- The answer starts over, unless it is `rc` already. -/
def backup (rc : Conf) (a : InPlace) : InPlace :=
  if a.rc ≠ rc then { a with rc := rc, ucp := 0 } else a

/-- The `switch`: it writes our values over the option, and the loop goes on behind it. -/
def switch (a : InPlace) : InPlace :=
  let j := judge a.wo a.ho ao rejectIfDisagree a.ci
  { a with
    toBuffer := { a.pass with buf := memcpy a.buf a.next j.bytes }, wo := j.wo, ho := j.ho }

/-- One turn of the loop. -/
def turn (a : InPlace) : InPlace :=
  let orc := (judge a.wo a.ho ao rejectIfDisagree a.ci).orc
  let cip := a.next
  let cilen := a.ci.cilen
  let a := a.switch ao rejectIfDisagree
  match orc with
  | .ack => if a.rc ≠ .ack then a else a.put B cip cilen
  | .nak =>
    if rejectIfDisagree then (a.backup .rej).put B cip cilen
    else if a.rc = .rej then a
    else (a.backup .nak).put B cip cilen
  | .rej => (a.backup .rej).put B cip cilen

theorem backup_goes (rc : Conf) (a : InPlace) :
    (a.backup rc).l = a.l ∧ (a.backup rc).next = a.next := by
  unfold backup
  split <;> exact ⟨rfl, rfl⟩

theorem turn_goes : Buffer.Goes toBuffer (turn B ao rejectIfDisagree) := by
  intro a
  have hback := fun rc => backup_goes rc (a.switch ao rejectIfDisagree)
  unfold turn
  dsimp only
  split
  · split <;> exact ⟨rfl, rfl⟩
  · split
    · exact hback .rej
    · split
      · exact ⟨rfl, rfl⟩
      · exact hback .nak
  · exact hback .rej

/-- The address option appended to a Nak. -/
def append (noremoteip : Bool) (a : InPlace) : InPlace :=
  if a.rc ≠ .rej ∧ !a.ho.negAddr ∧ !a.ho.oldAddrs ∧ a.wo.reqAddr ∧ !rejectIfDisagree ∧
      !noremoteip then
    let hisaddr := a.wo.hisaddr
    let a := if a.rc = .ack then
        { a with rc := .nak, ucp := 0, wo := { a.wo with reqAddr := false } }
      else a
    { a with
      buf := memcpy a.buf a.ucp (addrOption CI_ADDR hisaddr), ucp := a.ucp + CILEN_ADDR }
  else a

/-- `Reqci` on `len` bytes of the buffer. -/
def reqci (noremoteip : Bool) (wo : IpcpOptions) (buf : Bytes) (len : Nat) : InPlace :=
  append rejectIfDisagree noremoteip
    (Buffer.loop (turn_goes B ao rejectIfDisagree) { buf := buf, l := len, wo := wo })

end Loop

/-- The loop against the model. -/
structure Sim (inp : Bytes) (len : Nat) (a : InPlace) (b : ReqAcc) : Prop where
  rc : a.rc = b.rc
  wo : a.wo = b.wo
  ho : a.ho = b.ho
  holds : a.Holds inp len b.out

section Turn

variable {inp : Bytes} {len : Nat} {a : InPlace} {b : ReqAcc}

theorem Sim.switch (h : Sim inp len a b) (hlen : len ≤ inp.length) (h0 : a.l ≠ 0)
    (ao : IpcpOptions) (r : Bool) :
    Sim inp len (a.switch ao r)
        { b with
          wo := (judge b.wo b.ho ao r a.ci).wo, ho := (judge b.wo b.ho ao r a.ci).ho } ∧
      (a.switch ao r).Judged a.next a.ci.cilen (judge b.wo b.ho ao r a.ci).bytes := by
  obtain ⟨-, -, hbl⟩ := h.holds.ci_fits hlen h0
  unfold InPlace.switch
  rw [h.wo, h.ho]
  obtain ⟨hholds, hjudged⟩ := h.holds.write hlen h0
    ((length_judge b.wo b.ho ao r a.ci hbl).trans hbl)
  exact ⟨⟨h.rc, rfl, rfl, hholds⟩, hjudged⟩

variable {cip cilen : Nat} {bytes : Bytes}

theorem Sim.put (h : Sim inp len a b) (hj : a.Judged cip cilen bytes) (B : BCopy) :
    Sim inp len (a.put B cip cilen) { b with out := b.out ++ bytes } :=
  ⟨h.rc, h.wo, h.ho, h.holds.put hj B⟩

theorem Sim.backup (h : Sim inp len a b) (hj : a.Judged cip cilen bytes) (rc : Conf) :
    Sim inp len (a.backup rc) { b with rc := rc, out := if b.rc = rc then b.out else [] } ∧
      (a.backup rc).Judged cip cilen bytes := by
  unfold InPlace.backup
  by_cases hrc : a.rc = rc
  · rw [if_neg (not_not.mpr hrc), if_pos (h.rc.symm.trans hrc)]
    exact ⟨⟨hrc, h.wo, h.ho, h.holds⟩, hj⟩
  rw [if_pos hrc, if_neg fun e => hrc (h.rc.trans e)]
  refine ⟨⟨rfl, h.wo, h.ho, ⟨rfl, h.holds.length, rfl, fun hl => ?_⟩⟩,
    ⟨Nat.zero_le _, hj.fits, hj.stands, hj.length, hj.next⟩⟩
  exact ⟨Nat.zero_le _, (h.holds.unread hl).2⟩

theorem turn_sim (B : BCopy) (ao : IpcpOptions) (r : Bool) (h : Sim inp len a b)
    (hlen : len ≤ inp.length) (h0 : a.l ≠ 0) :
    Sim inp len (a.turn B ao r) (reqciStep ao r b a.ci) := by
  obtain ⟨hsw, hj⟩ := h.switch hlen h0 ao r
  unfold turn reqciStep
  rw [h.wo, h.ho]
  dsimp only
  generalize a.switch ao r = a1 at hsw hj ⊢
  generalize judge b.wo b.ho ao r a.ci = j at hsw hj ⊢
  have hput := fun rc => (hsw.backup hj rc).1.put (hsw.backup hj rc).2 B
  cases horc : j.orc with
  | ack =>
    by_cases hrc : a1.rc = .ack
    · rw [if_neg (not_not.mpr hrc), if_pos (hsw.rc.symm.trans hrc)]
      exact hsw.put hj B
    · rw [if_pos hrc, if_neg fun e => hrc (hsw.rc.trans e)]
      exact hsw
  | nak =>
    by_cases hr : r = true
    · rw [if_pos hr, if_pos hr]
      exact hput .rej
    rw [if_neg hr, if_neg hr]
    by_cases hrc : a1.rc = .rej
    · rw [if_pos hrc, if_pos (hsw.rc.symm.trans hrc)]
      exact hsw
    have hbrc : ¬ b.rc = .rej := fun e => hrc (hsw.rc.trans e)
    rw [if_neg hrc, if_neg hbrc]
    have hout : (if b.rc = .ack then [] else b.out) = if b.rc = .nak then b.out else [] := by
      revert hbrc
      cases b.rc <;> simp
    rw [hout]
    exact hput .nak
  | rej => exact hput .rej

end Turn

/-- **The loop in the buffer answers as the model does**, and keeps the same options. -/
theorem reqci_refines (B : BCopy) (ao : IpcpOptions) (r noremoteip : Bool) (wo : IpcpOptions)
    {inp : Bytes} {len : Nat} (hlen : len ≤ inp.length) :
    (reqci B ao r noremoteip wo inp len).rc = (reqciRun wo ao r noremoteip inp len).rc ∧
      (reqci B ao r noremoteip wo inp len).wo = (reqciRun wo ao r noremoteip inp len).wo ∧
      (reqci B ao r noremoteip wo inp len).ho = (reqciRun wo ao r noremoteip inp len).ho ∧
      (reqci B ao r noremoteip wo inp len).buf.take (reqci B ao r noremoteip wo inp len).ucp =
        (reqciRun wo ao r noremoteip inp len).out := by
  have hstart : Sim inp len { buf := inp, l := len, wo := wo } { wo := wo } :=
    ⟨rfl, rfl, rfl, ⟨rfl, rfl, rfl, fun _ => ⟨Nat.le_refl 0, rfl, Nat.zero_add len⟩⟩⟩
  obtain ⟨-, hsim⟩ := Buffer.loop_sim (turn_goes B ao r)
    (fun a b h h0 => (h.holds.unread h0).2.1) (fun a b h h0 => turn_sim B ao r h hlen h0) hstart
  unfold reqci reqciRun
  change Sim inp len _ ((options inp len).foldl (reqciStep ao r) { wo := wo }) at hsim
  generalize Buffer.loop _ { buf := inp, l := len, wo := wo : InPlace } = a at hsim ⊢
  generalize (options inp len).foldl (reqciStep ao r) { wo := wo } = b at hsim ⊢
  unfold append reqciAddr
  rw [hsim.rc, hsim.wo, hsim.ho]
  by_cases happ : b.rc ≠ .rej ∧ !b.ho.negAddr ∧ !b.ho.oldAddrs ∧ b.wo.reqAddr ∧ !r ∧ !noremoteip
  · rw [if_pos happ, if_pos happ]
    by_cases hack : b.rc = .ack
    · simp only [if_pos hack]
      refine ⟨trivial, trivial, trivial, ?_⟩
      exact take_memcpy (Nat.zero_le _) (addrOption CI_ADDR b.wo.hisaddr)
    · have hnak : b.rc = .nak := by
        revert hack
        have hrej := happ.1
        revert hrej
        cases b.rc <;> simp
      simp only [if_neg hack]
      refine ⟨hsim.rc.trans hnak, hsim.wo, hsim.ho, ?_⟩
      have htake := take_memcpy hsim.holds.ucp_le (addrOption CI_ADDR b.wo.hisaddr)
      rw [hsim.holds.answer] at htake
      exact htake
  · rw [if_neg happ, if_neg happ]
    exact ⟨hsim.rc, hsim.wo, hsim.ho, hsim.holds.answer⟩

end InPlace

end IpcpOptions

/-! ## 4. What goes back to the peer -/

/-- An Ack repeats the request, a Reject the refused options, byte for byte. -/
structure Echoes (rc : Conf) (out inp : Bytes) (len : Nat) (us : List Ruling) : Prop where
  ack : rc = .ack → out = inp.take len
  rej : rc = .rej → out = ((us.filter fun u => u.orc = .rej).map fun u => u.ci.bytes).flatten

/-- LCP's answer in the buffer. -/
def LcpOptions.InPlace.Echoed (B : BCopy) (ao go : LcpOptions) (rand : Nat → UInt32) (r : Bool)
    (draws : Nat) (inp : Bytes) (len : Nat) : Prop :=
  let a := reqci B ao go rand r draws inp len
  Echoes a.1 (a.2.1.take a.2.2) inp len (rulings ao go rand r {} draws (options inp len))

/-- IPCP's answer in the buffer. -/
def IpcpOptions.InPlace.Echoed (B : BCopy) (ao : IpcpOptions) (r noremoteip : Bool)
    (wo : IpcpOptions) (inp : Bytes) (len : Nat) : Prop :=
  let a := reqci B ao r noremoteip wo inp len
  Echoes a.rc (a.buf.take a.ucp) inp len (rulings ao r wo {} (options inp len))

theorem LcpOptions.InPlace.echoed (B : BCopy) (ao go : LcpOptions) (rand : Nat → UInt32) (r : Bool)
    (draws : Nat) {inp : Bytes} {len : Nat} (hlen : len ≤ inp.length) :
    Echoed B ao go rand r draws inp len := by
  obtain ⟨hrc, hout⟩ := reqci_refines B ao go rand r draws hlen
  obtain ⟨hrc', hout'⟩ := reqciRun_answer ao go rand r draws inp len
  unfold Echoed
  dsimp only
  rw [hrc, hout]
  refine ⟨fun h => ?_, fun h => ?_⟩
  · rw [reqciOut, h]
  · rw [hout', Answer.out_of, ← hrc', h]
    exact Answer.picked_eq fun u hu hc => bytes_of_ne_nak hu (by rw [hc]; nofun)

namespace IpcpOptions

variable {ao wo : IpcpOptions} {r noremoteip : Bool} {inp : Bytes}

theorem putAt_ne {ci : Ci} (h : OtherServer ao ci) (hc : ci.bytes.length = ci.cilen) :
    putAt 2 (putLong (swapLong (ao.server ci.citype))) ci.bytes ≠ ci.bytes := by
  intro he
  have hlen : ci.bytes.length = 6 := hc.trans h.cilen
  have hval : (ci.bytes.drop 2).take 4 = putLong (swapLong (ao.server ci.citype)) := by
    rw [← he, putAt, List.append_assoc, List.drop_left' (by rw [List.length_take, hlen]; rfl)]
    rfl
  have hread := (reads_addr 2 (ao.server ci.citype) ci.bytes
    (by rw [hlen]; exact Nat.le_refl 6)).mpr hval
  have htake : addrAt ci.bytes 2 = addrAt ci.cip 2 := by
    unfold addrAt Ci.bytes
    rw [getLong_take (by rw [h.cilen]; decide)]
  exact h.other (htake ▸ eq_of_beq hread)

/-- The appended address option makes a Nak; an Ack or Reject is that of the options. -/
theorem reqciRun_of_ne_nak {len : Nat} (h : (reqciRun wo ao r noremoteip inp len).rc ≠ .nak) :
    (reqciRun wo ao r noremoteip inp len).answer =
      Answer.of (rulings ao r wo {} (options inp len)) := by
  have hfold := foldl_reqciStep_answer ao r (options inp len) { wo := wo }
  unfold reqciRun reqciAddr at h ⊢
  split at h
  · exact absurd rfl h
  · rename_i hnot
    rw [if_neg hnot]
    exact hfold

theorem reqciRun_of_rej (noremoteip : Bool) {len : Nat}
    (h : (Answer.of (rulings ao r wo {} (options inp len))).rc = .rej) :
    (reqciRun wo ao r noremoteip inp len).rc = .rej := by
  have hfold := congrArg Answer.rc (foldl_reqciStep_answer ao r (options inp len) { wo := wo })
  have hrc : ((options inp len).foldl (reqciStep ao r) { wo := wo }).rc = .rej := hfold.trans h
  unfold reqciRun reqciAddr
  rw [if_neg fun hc => hc.1 hrc]
  exact hrc

theorem verdict_eq_ack {orc : Conf} (h : verdict r orc = .ack) : orc = .ack := by
  unfold verdict at h
  split at h
  · cases h
  · exact h

/-- A Reject is of options refused outright, or of disagreement where that is refused. -/
theorem verdict_eq_rej {orc : Conf} (h : verdict r orc = .rej) :
    orc = .rej ∨ (orc = .nak ∧ r = true) := by
  unfold verdict at h
  split at h
  · exact .inr ‹_›
  · exact .inl h

theorem ci_mem_options {len : Nat} {u : Ruling}
    (hu : u ∈ rulings ao r wo {} (options inp len)) : u.ci ∈ options inp len := by
  rw [← map_ci_rulings ao r wo {} (options inp len)]
  exact List.mem_map_of_mem hu

theorem InPlace.echoed_of {B : BCopy} {len : Nat} (hlen : len ≤ inp.length)
    (h : r = true → ∀ ci ∈ options inp len, ¬ OtherServer ao ci) :
    Echoed B ao r noremoteip wo inp len := by
  obtain ⟨hrc, -, -, hout⟩ := reqci_refines B ao r noremoteip wo hlen
  unfold Echoed
  dsimp only
  rw [hrc, hout]
  refine ⟨fun hack => ?_, fun hrej => ?_⟩
  · have hans := reqciRun_of_ne_nak (by rw [hack]; nofun)
    rw [show (reqciRun wo ao r noremoteip inp len).out = _ from congrArg Answer.out hans,
      Answer.out_of_ack ((congrArg Answer.rc hans).symm.trans hack), map_ci_rulings,
      flatten_bytes_options]
    intro u hu hc
    obtain ⟨wo', ho', hu⟩ := of_mem_rulings hu
    rw [hu] at hc ⊢
    exact bytes_of_ne_nak wo' ho' ao r u.ci (by rw [verdict_eq_ack hc]; nofun)
  · have hans := reqciRun_of_ne_nak (by rw [hrej]; nofun)
    rw [show (reqciRun wo ao r noremoteip inp len).out = _ from congrArg Answer.out hans,
      Answer.out_of, (congrArg Answer.rc hans).symm.trans hrej]
    refine Answer.picked_eq fun u hu hc => ?_
    have hmem := ci_mem_options hu
    obtain ⟨wo', ho', hu⟩ := of_mem_rulings hu
    rw [hu] at hc ⊢
    rcases verdict_eq_rej hc with hj | ⟨-, hr⟩
    · exact bytes_of_ne_nak wo' ho' ao r u.ci (by rw [hj]; nofun)
    · exact bytes_of_fed wo' ho' ao r u.ci hr (h hr u.ci hmem)

theorem eq_of_flatten_map {β : Type} {f g : β → Bytes} {l : List β}
    (hlen : ∀ x ∈ l, (f x).length = (g x).length) (h : (l.map f).flatten = (l.map g).flatten) :
    ∀ x ∈ l, f x = g x := by
  induction l with
  | nil => exact fun _ hx => by cases hx
  | cons y l ih =>
    obtain ⟨hy, hl⟩ := List.append_inj h (hlen y List.mem_cons_self)
    intro x hx
    rcases List.mem_cons.mp hx with rfl | hx
    · exact hy
    · exact ih (fun x hx => hlen x (List.mem_cons_of_mem y hx)) hl x hx

theorem InPlace.not_echoed {B : BCopy} {len : Nat} (hlen : len ≤ inp.length) {ci : Ci}
    (hci : ci ∈ options inp len) (ho : OtherServer ao ci) :
    ¬ Echoed B ao true noremoteip wo inp len := by
  intro he
  obtain ⟨hrc, -, -, hout⟩ := reqci_refines B ao true noremoteip wo hlen
  rw [← map_ci_rulings ao true wo {} (options inp len)] at hci
  obtain ⟨u, hu, rfl⟩ := List.mem_map.mp hci
  obtain ⟨wo', ho', huj⟩ := of_mem_rulings hu
  obtain ⟨hnak, hbytes⟩ := judge_otherServer wo' ho' ao true u.ci ho
  have horc : u.orc = .rej := by
    rw [huj]
    exact if_pos ⟨hnak, rfl⟩
  -- so the answer is a Reject, of the rejected options as the `switch` left them
  have hrej : (Answer.of (rulings ao true wo {} (options inp len))).rc = .rej := by
    have hle := Answer.rank_le_of hu
    rw [horc] at hle
    exact Conf.eq_of_rank (Nat.le_antisymm (Conf.rank_le_rej _) hle)
  have hrun := reqciRun_of_rej noremoteip hrej
  have hans := reqciRun_of_ne_nak (by rw [hrun]; nofun)
  have hpick := he.rej (hrc.trans hrun)
  rw [hout, show (reqciRun wo ao true noremoteip inp len).out = _ from congrArg Answer.out hans,
    Answer.out_of, hrej] at hpick
  have hlens : ∀ v ∈ (rulings ao true wo {} (options inp len)).filter (fun u => u.orc = .rej),
      v.bytes.length = v.ci.bytes.length := by
    intro v hv
    have hv := (List.mem_filter.mp hv).1
    have hmem := ci_mem_options hv
    obtain ⟨wo'', ho'', hv⟩ := of_mem_rulings hv
    rw [hv]
    exact length_judge _ _ _ _ _ (length_bytes_of_mem hlen hmem)
  have hself := eq_of_flatten_map hlens hpick u (List.mem_filter.mpr ⟨hu, decide_eq_true horc⟩)
  have hb : u.bytes = putAt 2 (putLong (swapLong (ao.server u.ci.citype))) u.ci.bytes := by
    rw [huj]
    exact hbytes
  exact putAt_ne ho (length_bytes_of_mem hlen (ci_mem_options hu)) (hb.symm.trans hself)

end IpcpOptions

/-- **An Ack repeats the request and a Reject the refused options, byte for byte**: in LCP for every
    request, in IPCP exactly for those that do not, where disagreement is refused, ask for another
    name server than ours. -/
theorem requests_echoed_iff (B : BCopy) (lao lgo : LcpOptions) (rand : Nat → UInt32) (draws : Nat)
    (ao wo : IpcpOptions) (r noremoteip : Bool) (inp : Bytes) (len : Nat)
    (hlen : len ≤ inp.length) :
    (LcpOptions.InPlace.Echoed B lao lgo rand r draws inp len ∧
        IpcpOptions.InPlace.Echoed B ao r noremoteip wo inp len) ↔
      (r = true → ∀ ci ∈ options inp len, ¬ IpcpOptions.OtherServer ao ci) := by
  constructor
  · rintro ⟨-, he⟩ rfl ci hci ho
    exact IpcpOptions.InPlace.not_echoed hlen hci ho he
  · intro h
    exact ⟨LcpOptions.InPlace.echoed B lao lgo rand r draws hlen,
      IpcpOptions.InPlace.echoed_of hlen h⟩

/-- With no name server of our own every request is echoed. -/
theorem requests_echoed_without_servers :
    [129, 6, 8, 8, 8, 8].length = 6 ∧
      LcpOptions.InPlace.Echoed .memmove (.allow PPP_PAP) (.want PPP_PAP) (fun _ => 1) true 0
          [129, 6, 8, 8, 8, 8] 6 ∧
        IpcpOptions.InPlace.Echoed .memmove .initial true false .initial [129, 6, 8, 8, 8, 8] 6 :=
  ⟨rfl, (requests_echoed_iff .memmove (.allow PPP_PAP) (.want PPP_PAP) (fun _ => 1) 0 .initial
    .initial true false [129, 6, 8, 8, 8, 8] 6 (by decide)).mpr fun _ ci hci ho => by
      have hc : ci.citype = CI_MS_DNS1 := by
        rcases List.mem_singleton.mp hci with rfl
        rfl
      exact ho.known (by rw [hc]; rfl)⟩

/-- The options of an access server that hands out the name server 10.0.0.53. -/
def IpcpOptions.withDns : IpcpOptions := { IpcpOptions.initial with dnsaddr0 := 0x3500000a }

/-- **A client that insists on the name server 8.8.8.8 gets a Reject of 10.0.0.53**, which it never
    asked for. -/
theorem refused_server_rewritten :
    (IpcpOptions.reqciRun .initial .withDns true false [129, 6, 8, 8, 8, 8] 6).rc = .rej ∧
      (IpcpOptions.reqciRun .initial .withDns true false [129, 6, 8, 8, 8, 8] 6).out =
        [129, 6, 10, 0, 0, 53] ∧
      ¬ IpcpOptions.InPlace.Echoed .memmove .withDns true false .initial [129, 6, 8, 8, 8, 8]
        6 := by
  refine ⟨by decide +kernel, by decide +kernel, ?_⟩
  exact IpcpOptions.InPlace.not_echoed (by decide) List.mem_cons_self
    ⟨by decide +kernel, by decide +kernel, by decide +kernel, by decide +kernel⟩

end OpenBras
