/-
  File:      OpenBras/PPP/Verdicts.lean
  Subject:   THE ANSWER TO A CONFIGURE-REQUEST AS A LIST OF RULINGS (`Reqci` of LCP and IPCP,
             src/PPP/CPPPLCP.cpp, src/PPP/CPPPIPCP.cpp).

  `Reqci` rules on one option after the other and keeps the worst verdict; the answer is made of
  the options that fared worst. A `Ruling` is an option with its verdict and the bytes that
  stand for it in the answer. `Answer.of` makes the answer of a list of rulings, and both
  protocols answer a request with the answer of its rulings (`LcpOptions.reqciRun_answer`,
  `IpcpOptions.foldl_reqciStep_answer`).

  The options of a request are read off one at a time, `ciAt`; put together again they are the
  request (`flatten_bytes_options`).
-/
import OpenBras.PPP.IpcpOptions
import OpenBras.PPP.LcpRequest

namespace OpenBras

open Wire

/-! ## 1. One option after the other -/

/-- The option at the front of `l` bytes: all of them if its length does not fit. -/
def ciAt (p : Bytes) (l : Nat) : Ci :=
  if l < 2 ∨ (byteAt p 1).toNat < 2 ∨ (byteAt p 1).toNat > l then ⟨0, l, p, false⟩
  else ⟨byteAt p 0, (byteAt p 1).toNat, p, true⟩

variable (p : Bytes) {l : Nat}

@[simp] theorem cip_ciAt (l : Nat) : (ciAt p l).cip = p := by
  unfold ciAt
  split <;> rfl

theorem cilen_ciAt_pos (h : l ≠ 0) : 0 < (ciAt p l).cilen := by
  unfold ciAt
  split
  · exact Nat.pos_of_ne_zero h
  · dsimp only
    omega

theorem cilen_ciAt_le (l : Nat) : (ciAt p l).cilen ≤ l := by
  unfold ciAt
  split
  · exact Nat.le_refl l
  · dsimp only
    omega

theorem sound_ciAt {p : Bytes} (h : l - (ciAt p l).cilen ≠ 0) : (ciAt p l).sound = true := by
  unfold ciAt at h ⊢
  split at h
  · exact absurd (Nat.sub_self l) h
  · rename_i hgood
    rw [if_neg hgood]

theorem walk_zero_len (fuel : Nat) (p : Bytes) : walk fuel p 0 = [] := by
  cases fuel <;> rfl

theorem walk_succ (fuel : Nat) (p : Bytes) (h : l ≠ 0) :
    walk (fuel + 1) p l =
      ciAt p l :: walk fuel (p.drop (ciAt p l).cilen) (l - (ciAt p l).cilen) := by
  rw [walk, if_neg h]
  unfold ciAt
  split
  · rw [Nat.sub_self, walk_zero_len]
  · rfl

/-- More fuel than bytes finds no more options. -/
theorem walk_fuel {f g : Nat} (hf : l ≤ f) (hg : l ≤ g) : walk f p l = walk g p l := by
  induction f generalizing g p l with
  | zero => rw [Nat.le_zero.mp hf, walk_zero_len, walk_zero_len]
  | succ f ih =>
    by_cases h0 : l = 0
    · rw [h0, walk_zero_len, walk_zero_len]
    obtain ⟨g, rfl⟩ : ∃ n, g = n + 1 := ⟨g - 1, by omega⟩
    have hpos := cilen_ciAt_pos p h0
    rw [walk_succ f p h0, walk_succ g p h0]
    exact congrArg _ (ih _ (by omega) (by omega))

theorem options_cons (h : l ≠ 0) :
    options p l = ciAt p l :: options (p.drop (ciAt p l).cilen) (l - (ciAt p l).cilen) := by
  have hpos := cilen_ciAt_pos p h
  unfold options
  obtain ⟨m, rfl⟩ : ∃ m, l = m + 1 := ⟨l - 1, by omega⟩
  rw [walk_succ m p h, walk_fuel _ (by omega) (Nat.le_refl _)]

/-- The loop over a buffer: the option at `next`, then those from where `next` moves to. A
    malformed option does not move it, and there is nothing behind. -/
theorem options_step (next : Nat) (h : l ≠ 0) :
    options (p.drop next) l = ciAt (p.drop next) l ::
      options (p.drop (if (ciAt (p.drop next) l).sound then next + (ciAt (p.drop next) l).cilen
        else next)) (l - (ciAt (p.drop next) l).cilen) := by
  rw [options_cons _ h]
  refine congrArg (ciAt (p.drop next) l :: ·) ?_
  by_cases hl : l - (ciAt (p.drop next) l).cilen = 0
  · rw [hl]
    rfl
  · rw [if_pos (sound_ciAt hl), List.drop_drop]

theorem length_bytes_of_mem {p : Bytes} (hl : l ≤ p.length) {ci : Ci} (h : ci ∈ options p l) :
    ci.bytes.length = ci.cilen := by
  induction l using Nat.strongRecOn generalizing p with
  | ind l ih =>
    by_cases h0 : l = 0
    · subst h0
      cases h
    have hpos := cilen_ciAt_pos p h0
    have hle := cilen_ciAt_le p l
    rw [options_cons p h0] at h
    rcases List.mem_cons.mp h with rfl | h
    · rw [Ci.bytes, cip_ciAt, List.length_take]
      omega
    · exact ih _ (by omega) (by rw [List.length_drop]; omega) h

/-- **The options of a request put together are the request.** -/
theorem flatten_bytes_options (l : Nat) : ((options p l).map Ci.bytes).flatten = p.take l := by
  induction l using Nat.strongRecOn generalizing p with
  | ind l ih =>
    by_cases h0 : l = 0
    · subst h0
      simp [options, walk_zero_len]
    have hpos := cilen_ciAt_pos p h0
    have hle := cilen_ciAt_le p l
    rw [options_cons p h0, List.map_cons, List.flatten_cons, ih _ (by omega), Ci.bytes,
      cip_ciAt, ← List.take_add, Nat.add_sub_cancel' hle]

/-! ## 2. Rulings and the answer they make -/

/-- How bad a verdict is. -/
def Conf.rank : Conf → Nat
  | .ack => 0
  | .nak => 1
  | .rej => 2

theorem Conf.rank_le_rej (a : Conf) : a.rank ≤ Conf.rej.rank := by
  cases a <;> decide

theorem Conf.eq_of_rank {a b : Conf} (h : a.rank = b.rank) : a = b := by
  revert h
  cases a <;> cases b <;> decide

/-- An option, the verdict on it and the bytes that stand for it in the answer. -/
structure Ruling where
  ci : Ci
  orc : Conf
  bytes : Bytes

structure Answer where
  rc : Conf := .ack
  out : Bytes := []

namespace Answer

/-- An option that fares better than the answer so far is left out; one that fares worse starts
    the answer over. -/
def add (a : Answer) (u : Ruling) : Answer :=
  if u.orc.rank < a.rc.rank then a
  else { rc := u.orc, out := (if a.rc = u.orc then a.out else []) ++ u.bytes }

theorem add_left_out {a : Answer} {u : Ruling} (h : u.orc.rank < a.rc.rank) : a.add u = a :=
  if_pos h

theorem add_taken {a : Answer} {u : Ruling} (h : a.rc.rank ≤ u.orc.rank) :
    a.add u = { rc := u.orc, out := (if a.rc = u.orc then a.out else []) ++ u.bytes } :=
  if_neg (Nat.not_lt.mpr h)

def of (us : List Ruling) : Answer := us.foldl add {}

/-- The bytes of the options with the verdict `c`. -/
def picked (c : Conf) (us : List Ruling) : Bytes :=
  ((us.filter fun u => u.orc = c).map Ruling.bytes).flatten

theorem rank_le_add (a : Answer) (u : Ruling) :
    a.rc.rank ≤ (a.add u).rc.rank ∧ u.orc.rank ≤ (a.add u).rc.rank := by
  unfold add
  split
  · omega
  · dsimp only
    omega

variable (us : List Ruling)

theorem rank_le_foldl (a : Answer) :
    a.rc.rank ≤ (us.foldl add a).rc.rank ∧ ∀ u ∈ us, u.orc.rank ≤ (us.foldl add a).rc.rank := by
  induction us generalizing a with
  | nil => exact ⟨Nat.le_refl _, nofun⟩
  | cons u us ih =>
    obtain ⟨ha, hu⟩ := rank_le_add a u
    obtain ⟨h1, h2⟩ := ih (a.add u)
    refine ⟨ha.trans h1, fun v hv => ?_⟩
    rcases List.mem_cons.mp hv with rfl | hv
    · exact hu.trans h1
    · exact h2 v hv

theorem picked_cons_self (u : Ruling) (us : List Ruling) :
    picked u.orc (u :: us) = u.bytes ++ picked u.orc us := by
  simp [picked]

theorem picked_cons_other {u : Ruling} {c : Conf} (h : u.orc ≠ c) (us : List Ruling) :
    picked c (u :: us) = picked c us := by
  simp [picked, h]

theorem out_foldl (a : Answer) :
    (us.foldl add a).out = (if a.rc = (us.foldl add a).rc then a.out else []) ++
      picked (us.foldl add a).rc us := by
  induction us generalizing a with
  | nil => simp [picked]
  | cons u us ih =>
    have hrest := (rank_le_foldl us (a.add u)).1
    rw [List.foldl_cons, ih (a.add u)]
    generalize (us.foldl add (a.add u)).rc = c at hrest ⊢
    unfold add at hrest ⊢
    by_cases hlt : u.orc.rank < a.rc.rank
    · -- left out: the answer is worse than this option
      rw [if_pos hlt] at hrest ⊢
      rw [picked_cons_other fun e => by rw [e] at hlt; omega]
    · rw [if_neg hlt] at hrest ⊢
      dsimp only at hrest ⊢
      by_cases hc : u.orc = c
      · subst hc
        rw [if_pos rfl, picked_cons_self, List.append_assoc]
      · -- the answer starts over behind this option
        have hne : u.orc.rank ≠ c.rank := fun e => hc (Conf.eq_of_rank e)
        rw [if_neg hc, if_neg fun e => by rw [e] at hlt; omega, picked_cons_other hc]

theorem out_of : (of us).out = picked (of us).rc us := by
  refine (out_foldl us {}).trans ?_
  split <;> rfl

/-- Every verdict is at most as bad as the answer. -/
theorem rank_le_of {us : List Ruling} {u : Ruling} (h : u ∈ us) : u.orc.rank ≤ (of us).rc.rank :=
  (rank_le_foldl us {}).2 u h

theorem picked_eq {us : List Ruling} {c : Conf}
    (h : ∀ u ∈ us, u.orc = c → u.bytes = u.ci.bytes) :
    picked c us = ((us.filter fun u => u.orc = c).map fun u => u.ci.bytes).flatten := by
  refine congrArg List.flatten (List.map_congr_left fun u hu => ?_)
  obtain ⟨hu, hc⟩ := List.mem_filter.mp hu
  exact h u hu (of_decide_eq_true hc)

theorem all_ack {us : List Ruling} (h : (of us).rc = .ack) : ∀ u ∈ us, u.orc = .ack := by
  intro u hu
  have hle := rank_le_of hu
  rw [h] at hle
  exact Conf.eq_of_rank (Nat.le_zero.mp hle)

/-- An Ack repeats the options as they came. -/
theorem out_of_ack {us : List Ruling} (hack : (of us).rc = .ack)
    (h : ∀ u ∈ us, u.orc = .ack → u.bytes = u.ci.bytes) :
    (of us).out = ((us.map Ruling.ci).map Ci.bytes).flatten := by
  rw [out_of, hack, picked_eq h,
    List.filter_eq_self.mpr fun u hu => decide_eq_true (all_ack hack u hu), List.map_map]
  rfl

end Answer

/-! ## 3. LCP -/

namespace LcpOptions

/-- The verdict `Reqci` goes on with: disagreement is refused where it is fed up with Naks, but
    for the magic number. -/
def verdict (rejectIfDisagree : Bool) (ci : Ci) (orc : Conf) : Conf :=
  if orc = .nak ∧ rejectIfDisagree && ci.citype != CI_MAGICNUMBER then .rej else orc

/-- The ruling on an option: a Nak carries our proposal, any other answer the option itself. -/
def Judgement.ruling (j : Judgement) (rejectIfDisagree : Bool) (ci : Ci) : Ruling where
  ci := ci
  orc := verdict rejectIfDisagree ci j.orc
  bytes := if verdict rejectIfDisagree ci j.orc = .nak then j.nak else ci.bytes

/-- The rulings on the options of a request. -/
def rulings (ao go : LcpOptions) (rand : Nat → UInt32) (rejectIfDisagree : Bool) :
    LcpOptions → Nat → List Ci → List Ruling
  | _, _, [] => []
  | ho, draws, ci :: l =>
    let j := judge ao go rand ho draws ci
    j.ruling rejectIfDisagree ci :: rulings ao go rand rejectIfDisagree j.ho j.draws l

/-- An authentication option we may propose. -/
inductive AuthProposal (ao : LcpOptions) : Bytes → Prop
  | eap : AuthProposal ao nakEap
  | chap : AuthProposal ao (nakChap ao)
  | pap : AuthProposal ao nakPap

section Cases

variable {ao go : LcpOptions} {rand : Nat → UInt32} {ho : LcpOptions} {draws : Nat} {ci : Ci}
  {P : Judgement → Prop}

/-- **What the judgement on an authentication option can be.** -/
theorem judgeAuth_cases (refuse : P { orc := .rej, ho := ho, draws := draws })
    (accept : ∀ ho', P { orc := .ack, ho := ho', draws := draws })
    (suggest : ∀ b, AuthProposal ao b → P { orc := .nak, ho := ho, nak := b, draws := draws }) :
    P (judgeAuth ao ho draws ci) := by
  refine iteInduction (fun _ => refuse) fun _ => ?_
  refine iteInduction (fun _ => ?_) fun _ => ?_
  · refine iteInduction (fun _ => refuse) fun _ => ?_
    refine iteInduction (fun _ => suggest _ ?_) fun _ => accept _
    exact iteInduction (fun _ => .eap) fun _ => .chap
  refine iteInduction (fun _ => ?_) fun _ => ?_
  · refine iteInduction (fun _ => refuse) fun _ => ?_
    refine iteInduction (fun _ => suggest _ ?_) fun _ => ?_
    · exact iteInduction (fun _ => .eap) fun _ => .pap
    · exact iteInduction (fun _ => suggest _ .chap) fun _ => accept _
  refine iteInduction (fun _ => ?_) fun _ => suggest _ ?_
  · refine iteInduction (fun _ => refuse) fun _ => ?_
    refine iteInduction (fun _ => suggest _ ?_) fun _ => accept _
    exact iteInduction (fun _ => .chap) fun _ => .pap
  · exact iteInduction (fun _ => .eap) fun _ => iteInduction (fun _ => .chap) fun _ => .pap

/-- **What the judgement on an option can be.** -/
theorem judge_cases (refuse : P { orc := .rej, ho := ho, draws := draws })
    (accept : ∀ ho', P { orc := .ack, ho := ho', draws := draws })
    (mru : P { orc := .nak, ho := ho, nak := nakMru, draws := draws })
    (asyncmap : ao.asyncmap &&& ~~~ci.long ≠ 0 →
      P { orc := .nak, ho := ho, nak := nakAsyncmap ao ci.long, draws := draws })
    (auth : P (judgeAuth ao ho draws ci))
    (lqr : ao.negLqr = true → P { orc := .nak, ho := ho, nak := nakLqr ao, draws := draws })
    (magic : P { orc := .nak, ho := ho, nak := nakMagic (rand draws), draws := draws + 1 }) :
    P (judge ao go rand ho draws ci) := by
  refine iteInduction (fun _ => refuse) fun _ => ?_
  refine iteInduction (fun _ => ?_) fun _ => ?_
  · refine iteInduction (fun _ => refuse) fun _ => ?_
    exact iteInduction (fun _ => mru) fun _ => accept _
  refine iteInduction (fun _ => ?_) fun _ => ?_
  · refine iteInduction (fun _ => refuse) fun _ => ?_
    exact iteInduction (fun h => asyncmap h) fun _ => accept _
  refine iteInduction (fun _ => auth) fun _ => ?_
  refine iteInduction (fun _ => ?_) fun _ => ?_
  · refine iteInduction (fun _ => refuse) fun hn => ?_
    refine iteInduction (fun _ => lqr ?_) fun _ => accept _
    cases h : ao.negLqr with
    | true => rfl
    | false => exact absurd (by rw [h]; rfl) hn
  refine iteInduction (fun _ => ?_) fun _ => ?_
  · refine iteInduction (fun _ => refuse) fun _ => ?_
    exact iteInduction (fun _ => magic) fun _ => accept _
  refine iteInduction (fun _ => iteInduction (fun _ => refuse) fun _ => accept _) fun _ => ?_
  exact iteInduction (fun _ => iteInduction (fun _ => refuse) fun _ => accept _) fun _ => refuse

end Cases

/-- Only a Nak writes into `nak_buffer`. -/
def Judgement.Tidy (j : Judgement) : Prop := j.orc ≠ .nak → j.nak = []

variable (ao go : LcpOptions) (rand : Nat → UInt32)

theorem judge_tidy (ho : LcpOptions) (draws : Nat) (ci : Ci) :
    (judge ao go rand ho draws ci).Tidy := by
  have hnak : ∀ {j : Judgement}, j.orc = .nak → j.Tidy := fun h hn => absurd h hn
  have hauth : (judgeAuth ao ho draws ci).Tidy :=
    judgeAuth_cases (P := Judgement.Tidy) (fun _ => rfl) (fun _ _ => rfl) fun _ _ => hnak rfl
  exact judge_cases (P := Judgement.Tidy) (fun _ => rfl) (fun _ _ => rfl) (hnak rfl)
    (fun _ => hnak rfl) hauth (fun _ => hnak rfl) (hnak rfl)

/-- The loop's state shows the answer made so far. -/
structure Shows (a : ReqAcc) (b : Answer) : Prop where
  rc : a.rc = b.rc
  start : a.rc = .ack → a.nak = []
  nak : a.rc = .nak → a.nak = b.out
  clean : a.rc ≠ .rej → a.rej = []
  rej : a.rc = .rej → a.rej = b.out

theorem reqciStep_shows (r : Bool) {a : ReqAcc} {b : Answer} (h : Shows a b) (ci : Ci) :
    Shows (reqciStep ao go rand r a ci)
      (b.add ((judge ao go rand a.ho a.draws ci).ruling r ci)) := by
  have hnak := judge_tidy ao go rand a.ho a.draws ci
  obtain ⟨hrc, hstart, hn, hclean, hrej⟩ := h
  unfold reqciStep Judgement.ruling verdict
  generalize judge ao go rand a.ho a.draws ci = j at hnak ⊢
  dsimp only
  -- a rejected option: the answer starts over unless one was rejected before
  have hreject : Shows { a with
      ho := j.ho, nak := a.nak ++ j.nak, draws := j.draws, rc := .rej, rej := a.rej ++ ci.bytes }
      (b.add ⟨ci, .rej, ci.bytes⟩) := by
    rw [Answer.add_taken (Conf.rank_le_rej b.rc)]
    refine ⟨rfl, nofun, nofun, fun h => absurd rfl h, fun _ => ?_⟩
    rw [← hrc]
    split
    · rw [hrej ‹_›]
    · rw [hclean ‹_›]
  cases horc : j.orc with
  | ack =>
    have hjn : j.nak = [] := hnak (by rw [horc]; nofun)
    simp only [hjn, List.append_nil, reduceCtorEq, false_and, if_false]
    by_cases hb : b.rc = .ack
    · rw [hb] at hrc
      rw [Answer.add_taken (by rw [hb])]
      exact ⟨hrc, hstart, fun h => absurd (hrc.symm.trans h) nofun, hclean,
        fun h => absurd (hrc.symm.trans h) nofun⟩
    · have hpos : 0 < b.rc.rank := Nat.pos_of_ne_zero fun h0 => hb (Conf.eq_of_rank h0)
      rw [Answer.add_left_out (show Conf.ack.rank < b.rc.rank from hpos)]
      exact ⟨hrc, hstart, hn, hclean, hrej⟩
  | nak =>
    by_cases hr : (r && ci.citype != CI_MAGICNUMBER) = true
    · simp only [hr, and_self, if_true, reduceCtorEq, if_false]
      exact hreject
    simp only [hr, and_false, if_true, if_false, Bool.false_eq_true]
    by_cases hb : a.rc = .rej
    · rw [if_pos hb, Answer.add_left_out (by rw [← hrc, hb]; exact Nat.lt_succ_self 1)]
      exact ⟨hrc, fun h => absurd (hb.symm.trans h) nofun,
        fun h => absurd (hb.symm.trans h) nofun, hclean, hrej⟩
    · have hle : b.rc.rank ≤ Conf.nak.rank := by
        rw [← hrc]
        revert hb
        cases a.rc <;> decide
      rw [if_neg hb, Answer.add_taken hle]
      refine ⟨rfl, nofun, fun _ => ?_, fun _ => hclean hb, nofun⟩
      rw [← hrc]
      split
      · rw [hn ‹_›]
      have hack : a.rc = .ack := by
        revert hb
        rename_i hne
        revert hne
        cases a.rc <;> simp
      rw [hstart hack]
  | rej =>
    exact hreject

theorem reqciStep_goes (r : Bool) (a : ReqAcc) (ci : Ci) :
    (reqciStep ao go rand r a ci).ho = (judge ao go rand a.ho a.draws ci).ho ∧
      (reqciStep ao go rand r a ci).draws = (judge ao go rand a.ho a.draws ci).draws := by
  unfold reqciStep
  dsimp only
  split
  · exact ⟨rfl, rfl⟩
  · split
    · exact ⟨rfl, rfl⟩
    · split <;> exact ⟨rfl, rfl⟩
  · exact ⟨rfl, rfl⟩

theorem foldl_reqciStep_shows {ao go : LcpOptions} {rand : Nat → UInt32} {r : Bool} (l : List Ci)
    {a : ReqAcc} {b : Answer} (h : Shows a b) :
    Shows (l.foldl (reqciStep ao go rand r) a)
      ((rulings ao go rand r a.ho a.draws l).foldl Answer.add b) := by
  induction l generalizing a b with
  | nil => exact h
  | cons ci l ih =>
    obtain ⟨hho, hdraws⟩ := reqciStep_goes ao go rand r a ci
    have hl := ih (reqciStep_shows ao go rand r h ci)
    rw [hho, hdraws] at hl
    exact hl

theorem map_ci_rulings (r : Bool) (ho : LcpOptions) (draws : Nat) (l : List Ci) :
    (rulings ao go rand r ho draws l).map Ruling.ci = l := by
  induction l generalizing ho draws with
  | nil => rfl
  | cons ci l ih => exact congrArg _ (ih _ _)

theorem bytes_of_ne_nak {ao go : LcpOptions} {rand : Nat → UInt32} {r : Bool} {ho : LcpOptions}
    {draws : Nat} {l : List Ci} {u : Ruling} (hu : u ∈ rulings ao go rand r ho draws l)
    (hn : u.orc ≠ .nak) : u.bytes = u.ci.bytes := by
  induction l generalizing ho draws with
  | nil => cases hu
  | cons ci l ih =>
    rcases List.mem_cons.mp hu with rfl | hu
    · exact if_neg hn
    · exact ih hu

/-- **LCP answers a request with the answer of its rulings.** -/
theorem reqciRun_answer (r : Bool) (draws : Nat) (inp : Bytes) (len : Nat) :
    (reqciRun ao go rand r draws inp len).rc =
        (Answer.of (rulings ao go rand r {} draws (options inp len))).rc ∧
      reqciOut (reqciRun ao go rand r draws inp len) inp len =
        (Answer.of (rulings ao go rand r {} draws (options inp len))).out := by
  have hshow : Shows (reqciRun ao go rand r draws inp len)
      (Answer.of (rulings ao go rand r {} draws (options inp len))) :=
    foldl_reqciStep_shows (options inp len) ⟨rfl, fun _ => rfl, nofun, fun _ => rfl, nofun⟩
  refine ⟨hshow.rc, ?_⟩
  unfold reqciOut
  cases hrc : (reqciRun ao go rand r draws inp len).rc with
  | ack =>
    rw [Answer.out_of_ack (hshow.rc.symm.trans hrc) fun u hu hc =>
      bytes_of_ne_nak hu (by rw [hc]; nofun), map_ci_rulings, flatten_bytes_options]
  | nak => exact hshow.nak hrc
  | rej => exact hshow.rej hrc

end LcpOptions

/-! ## 4. IPCP -/

namespace IpcpOptions

/-- Disagreement is refused where `Reqci` is fed up with Naks. -/
def verdict (rejectIfDisagree : Bool) (orc : Conf) : Conf :=
  if orc = .nak ∧ rejectIfDisagree then .rej else orc

/-- The ruling on an option: it goes into the answer as it stands after the `switch`. -/
def Judgement.ruling (j : Judgement) (rejectIfDisagree : Bool) (ci : Ci) : Ruling where
  ci := ci
  orc := verdict rejectIfDisagree j.orc
  bytes := j.bytes

def rulings (ao : IpcpOptions) (rejectIfDisagree : Bool) :
    IpcpOptions → IpcpOptions → List Ci → List Ruling
  | _, _, [] => []
  | wo, ho, ci :: l =>
    let j := judge wo ho ao rejectIfDisagree ci
    j.ruling rejectIfDisagree ci :: rulings ao rejectIfDisagree j.wo j.ho l

theorem map_ci_rulings (ao : IpcpOptions) (r : Bool) (wo ho : IpcpOptions) (l : List Ci) :
    (rulings ao r wo ho l).map Ruling.ci = l := by
  induction l generalizing wo ho with
  | nil => rfl
  | cons ci l ih => exact congrArg _ (ih _ _)

theorem of_mem_rulings {ao : IpcpOptions} {r : Bool} {wo ho : IpcpOptions} {l : List Ci}
    {u : Ruling} (h : u ∈ rulings ao r wo ho l) :
    ∃ wo' ho', u = (judge wo' ho' ao r u.ci).ruling r u.ci := by
  induction l generalizing wo ho with
  | nil => cases h
  | cons ci l ih =>
    rcases List.mem_cons.mp h with rfl | h
    · exact ⟨wo, ho, rfl⟩
    · exact ih h

/-- The answer in the loop's state. -/
def ReqAcc.answer (a : ReqAcc) : Answer := { rc := a.rc, out := a.out }

theorem reqciStep_answer (ao : IpcpOptions) (r : Bool) (a : ReqAcc) (ci : Ci) :
    (reqciStep ao r a ci).answer = a.answer.add ((judge a.wo a.ho ao r ci).ruling r ci) ∧
      (reqciStep ao r a ci).wo = (judge a.wo a.ho ao r ci).wo ∧
      (reqciStep ao r a ci).ho = (judge a.wo a.ho ao r ci).ho := by
  unfold reqciStep Judgement.ruling verdict ReqAcc.answer
  generalize judge a.wo a.ho ao r ci = j
  dsimp only
  cases horc : j.orc <;> cases hrc : a.rc <;> cases r <;>
    exact ⟨by simp [Answer.add, Conf.rank], rfl, rfl⟩

/-- **IPCP answers the options of a request with the answer of their rulings.** -/
theorem foldl_reqciStep_answer (ao : IpcpOptions) (r : Bool) (l : List Ci) (a : ReqAcc) :
    (l.foldl (reqciStep ao r) a).answer =
      (rulings ao r a.wo a.ho l).foldl Answer.add a.answer := by
  induction l generalizing a with
  | nil => rfl
  | cons ci l ih =>
    obtain ⟨hans, hwo, hho⟩ := reqciStep_answer ao r a ci
    rw [List.foldl_cons, ih, hans, hwo, hho]
    rfl

end IpcpOptions

end OpenBras
