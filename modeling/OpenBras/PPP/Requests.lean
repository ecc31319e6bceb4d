/-
  File:      OpenBras/PPP/Requests.lean
  Subject:   OUR CONFIGURE-REQUEST AND THE PEER'S ACK OR REJECT OF IT, for LCP and IPCP
             (`Cilen`, `Addci`, `Ackci`, `Rejci`; src/PPP/CPPPLCP.cpp, src/PPP/CPPPIPCP.cpp).

  Both protocols are menus (`LcpOptions.menu`, `IpcpOptions.menu`): the three functions walk one
  list of options, `Addci` and `Ackci` under the same conditions. `Rejci` of LCP tests less: an
  MRU of 1500 and an asyncmap of all ones are not sent, but a Reject of them is taken
  (`rejectable`).

  **Results.** `acks_repeat_requests`: the length announced is the length written, and an Ack is
  good exactly if it repeats the request. `rejects_pick_from_request_iff`: a Reject is good
  exactly if it picks from the request, and what it picks is not asked for again; for LCP as
  long as MRU and asyncmap are not at the values that are not sent.
-/
import Mathlib.Data.List.Flatten
import OpenBras.Lib.Run
import OpenBras.PPP.Menu
import OpenBras.PPP.Ppp

namespace OpenBras

open Wire

theorem flatten_map_filter {κ : Type} (f : κ → Bool) (g : κ → Bytes) (ks : List κ) :
    ((ks.filter f).map g).flatten = (ks.map fun k => if f k then g k else []).flatten := by
  induction ks with
  | nil => rfl
  | cons k ks ih =>
    rw [List.map_cons, List.flatten_cons, ← ih]
    cases hk : f k with
    | false => rw [List.filter_cons_of_neg (by simp [hk])]; rfl
    | true => rw [List.filter_cons_of_pos hk]; rfl

theorem length_ite_bytes (neg : Bool) (b : Bytes) :
    (if neg then b else []).length = if neg then b.length else 0 := by
  cases neg <;> rfl

namespace LcpOptions

/-! ## 1. The options of LCP -/

/-- The options of a request, in the order they are sent. -/
inductive Kind where
  | mru | asyncmap | eap | chap | pap | lqr | cbcp | magic | pcomp | accomp | mrru | ssnhf
  deriving DecidableEq, Repr

namespace Kind

def all : List Kind :=
  [mru, asyncmap, eap, chap, pap, lqr, cbcp, magic, pcomp, accomp, mrru, ssnhf]

def opt : Kind → UInt8
  | mru => CI_MRU
  | asyncmap => CI_ASYNCMAP
  | eap | chap | pap => CI_AUTHTYPE
  | lqr => CI_QUALITY
  | cbcp => CI_CALLBACK
  | magic => CI_MAGICNUMBER
  | pcomp => CI_PCOMPRESSION
  | accomp => CI_ACCOMPRESSION
  | mrru => CI_MRRU
  | ssnhf => CI_SSNHF

/-- The option as `Addci` writes it. -/
def bytes (k : Kind) (go : LcpOptions) : Bytes :=
  match k with
  | mru => addciShort CI_MRU true go.mru
  | asyncmap => addciLong CI_ASYNCMAP true go.asyncmap
  | eap => addciShort CI_AUTHTYPE true PPP_EAP
  | chap => addciChap CI_AUTHTYPE true go.chapMdtype
  | pap => addciShort CI_AUTHTYPE true PPP_PAP
  | lqr => addciLqr CI_QUALITY true go.lqrPeriod
  | cbcp => addciChar CI_CALLBACK true CBCP_OPT
  | magic => addciLong CI_MAGICNUMBER true go.magicnumber
  | pcomp => addciVoid CI_PCOMPRESSION true
  | accomp => addciVoid CI_ACCOMPRESSION true
  | mrru => addciShort CI_MRRU true go.mrru
  | ssnhf => addciVoid CI_SSNHF true

/-- The test of the value in `Ackci` and `Rejci`. -/
def value (k : Kind) (go : LcpOptions) (p : Bytes) : Bool :=
  match k with
  | mru => getShort p 2 == go.mru
  | asyncmap => getLong p 2 == go.asyncmap
  | eap => getShort p 2 == PPP_EAP
  | chap => getShort p 2 == PPP_CHAP && byteAt p 4 == chapDigest go.chapMdtype
  | pap => getShort p 2 == PPP_PAP
  | lqr => getShort p 2 == PPP_LQR && getLong p 4 == go.lqrPeriod
  | cbcp => byteAt p 2 == CBCP_OPT
  | magic => getLong p 2 == go.magicnumber
  | pcomp | accomp | ssnhf => true
  | mrru => getShort p 2 == go.mrru

/-- The flag that has the option asked for. -/
def neg (k : Kind) (go : LcpOptions) : Bool :=
  match k with
  | mru => go.negMru
  | asyncmap => go.negAsyncmap
  | eap => go.negEap
  | chap => go.negChap
  | pap => go.negUpap
  | lqr => go.negLqr
  | cbcp => go.negCbcp
  | magic => go.negMagicnumber
  | pcomp => go.negPcompression
  | accomp => go.negAccompression
  | mrru => go.negMrru
  | ssnhf => go.negSsnhf

/-- What a Reject of the option gives up. -/
def clear (k : Kind) (t : LcpOptions) : LcpOptions :=
  match k with
  | mru => { t with negMru := false }
  | asyncmap => { t with negAsyncmap := false }
  | eap => { t with negEap := false }
  | chap => { t with negChap := false, negEap := false, negUpap := false }
  | pap => { t with negUpap := false }
  | lqr => { t with negLqr := false }
  | cbcp => { t with negCbcp := false }
  | magic => { t with negMagicnumber := false }
  | pcomp => { t with negPcompression := false }
  | accomp => { t with negAccompression := false }
  | mrru => { t with negMrru := false }
  | ssnhf => { t with negSsnhf := false }

theorem shape (k : Kind) (go : LcpOptions) :
    Shape k.opt (k.bytes go).length (k.value go) (k.bytes go) := by
  cases k with
  | mru | eap | pap | mrru => exact Shape.of_reads rfl (reads_short 2 _)
  | asyncmap | magic => exact Shape.of_reads rfl (reads_long 2 _)
  | chap => exact Shape.of_reads rfl ((reads_short 2 _).and (reads_byte 4 _) rfl)
  | lqr => exact Shape.of_reads rfl ((reads_short 2 _).and (reads_long 4 _) rfl)
  | cbcp => exact Shape.of_reads rfl (reads_byte 2 _)
  | pcomp | accomp | ssnhf => exact Shape.of_reads rfl (reads_nothing 2)

end Kind

def menu : Menu Kind LcpOptions where
  kinds := Kind.all
  opt := Kind.opt
  bytes := Kind.bytes
  value := Kind.value
  clear := Kind.clear
  shape := Kind.shape

/-- When `Addci` sends the option and `Ackci` waits for it. -/
def sent (go : LcpOptions) : Kind → Bool
  | .mru => go.askMru
  | .asyncmap => go.askAsyncmap
  | .chap => !go.negEap && go.negChap
  | .pap => !go.negEap && !go.negChap && go.negUpap
  | k => k.neg go

/-- When `Rejci` takes a Reject of the option. -/
def rejectable (go : LcpOptions) : Kind → Bool
  | .mru => go.negMru
  | .asyncmap => go.negAsyncmap
  | k => go.sent k

variable (go : LcpOptions)

theorem addci_eq : go.addci = (menu.offers go.sent go).flatten := by
  unfold Menu.offers
  rw [flatten_map_filter]
  simp only [menu, Kind.all, List.map_cons, List.map_nil, List.flatten_cons, List.flatten_nil,
    List.append_nil, addci, List.append_assoc]
  rfl

theorem cilen_eq : go.cilen = go.addci.length := by
  rw [addci_eq, Menu.offers, flatten_map_filter]
  simp only [menu, Kind.all, List.map_cons, List.map_nil, List.flatten_cons, List.flatten_nil,
    List.append_nil, List.length_append, length_ite_bytes, cilen, Nat.add_assoc]
  rfl

theorem length_addci : go.addci.length ≤ PPP_MRU - HEADERLEN := by
  have hsub : (menu.offers go.sent go).flatten.Sublist (Kind.all.map (·.bytes go)).flatten :=
    (List.filter_sublist.map _).flatten
  have hall : (Kind.all.map (·.bytes go)).flatten.length = 50 := rfl
  rw [addci_eq]
  exact (hall ▸ hsub.length_le).trans (by decide)

theorem take_addci :
    go.addci.take (min (min go.cilen (PPP_MRU - HEADERLEN)) (PPP_MRU - HEADERLEN)) = go.addci := by
  rw [cilen_eq, Nat.min_eq_left (length_addci go), Nat.min_eq_left (length_addci go),
    List.take_length]

theorem ackci_iff {p : Bytes} {len : Nat} (hp : len ≤ p.length) :
    go.ackci p len = true ↔ p.take len = go.addci := by
  have hack : go.ackci p len = (menu.ack go.sent go ⟨p, len⟩).elim false (·.len == 0) := by
    unfold ackci Menu.ack
    simp only [menu, Kind.all, List.foldlM_cons, List.foldlM_nil, bind_pure]
    split
    next c h => exact (congrArg (Option.elim · false (·.len == 0)) h).symm
    next h => exact (congrArg (Option.elim · false (·.len == 0)) h).symm
  rw [hack, addci_eq]
  exact Menu.ack_iff hp

/-! ## 2. Rejects of LCP's options -/

namespace Kind

/-- The authentication protocols share their type. -/
def isAuth : Kind → Bool
  | eap | chap | pap => true
  | _ => false

variable {k : Kind}

theorem eq_or_auth_of_opt {j : Kind} (h : j.opt = k.opt) :
    j = k ∨ (j.isAuth = true ∧ k.isAuth = true) := by
  revert h
  cases j <;> cases k <;> decide

/-- The first bytes of an authentication option: type, length and protocol. -/
def authHead : Kind → Bytes
  | eap => addciShort CI_AUTHTYPE true PPP_EAP
  | chap => [CI_AUTHTYPE, 5] ++ putShort PPP_CHAP
  | _ => addciShort CI_AUTHTYPE true PPP_PAP

theorem take_bytes_of_auth (h : k.isAuth = true) (go : LcpOptions) :
    (k.bytes go).take 4 = k.authHead := by
  cases k with
  | eap | chap | pap => rfl
  | _ => cases h

theorem authHead_inj {j : Kind} (hj : j.isAuth = true) (hk : k.isAuth = true)
    (h : j.authHead = k.authHead) : j = k := by
  revert hj hk h
  cases j <;> cases k <;> decide

theorem eq_of_bytes {j : Kind} {a b : LcpOptions} (h : j.bytes a = k.bytes b) : j = k := by
  have hopt : j.opt = k.opt := by
    have hj := ((shape j a).self []).2.1
    have hk := ((shape k b).self []).2.1
    rw [← hj, ← hk, h]
  rcases eq_or_auth_of_opt hopt with hjk | ⟨hj, hk⟩
  · exact hjk
  · exact authHead_inj hj hk (by rw [← take_bytes_of_auth hj a, ← take_bytes_of_auth hk b, h])

@[simp] theorem neg_clear_self (k : Kind) (t : LcpOptions) : k.neg (k.clear t) = false := by
  cases k <;> rfl

theorem neg_clear {j : Kind} {t : LcpOptions} (h : k.neg t = false) :
    k.neg (j.clear t) = false := by
  cases j <;> cases k <;> first | rfl | exact h

end Kind

theorem neg_of_sent {go : LcpOptions} {k : Kind} (h : go.sent k = true) : k.neg go = true := by
  cases k with
  | mru | asyncmap => exact (Bool.and_eq_true_iff.mp h).1
  | chap | pap => exact (Bool.and_eq_true_iff.mp h).2
  | _ => exact h

/-- At most one authentication protocol is asked for. -/
theorem distinct_rejectable : menu.Distinct go.rejectable menu.kinds := by
  have hauth : ∀ j k : Kind, j ≠ k → j.isAuth = true → k.isAuth = true →
      go.rejectable j = true → go.rejectable k = true → False := by
    intro j k hjk hj hk hrj hrk
    cases j <;> cases hj <;> cases k <;> cases hk <;>
      simp_all [rejectable, sent, Kind.neg]
  unfold Menu.Distinct
  rw [List.pairwise_filter]
  have hnodup : Kind.all.Nodup := by decide
  refine hnodup.imp fun {j k} hjk hj hk hopt => ?_
  rcases Kind.eq_or_auth_of_opt hopt with h | ⟨haj, hak⟩
  · exact hjk h
  · exact hauth j k hjk haj hak hj hk

theorem rejScan_eq (p : Bytes) (len : Nat) :
    go.rejScan p len = (menu.rej go.rejectable go (⟨p, len⟩, go)).bind fun s =>
      if s.1.len = 0 then some s.2 else none := by
  unfold rejScan Menu.rej
  simp only [menu, Kind.all, List.foldlM_cons, List.foldlM_nil, bind_pure]
  simp only [bind, Option.bind_assoc]
  rfl

theorem rejScan_eq_some_iff {p : Bytes} {len : Nat} (hp : len ≤ p.length) (t : LcpOptions) :
    go.rejScan p len = some t ↔ ∃ sub, sub.Sublist (menu.kinds.filter go.rejectable) ∧
      p.take len = (sub.map fun k => k.bytes go).flatten ∧ t = menu.given sub go := by
  rw [rejScan_eq]
  exact Menu.rej_iff (distinct_rejectable go) hp t

end LcpOptions

namespace IpcpOptions

/-! ## 3. The options of IPCP -/

/-- The options of a request, in the order they are sent. -/
inductive Kind where
  | addrs | vj | addr | dns1 | dns2 | wins1 | wins2
  deriving DecidableEq, Repr

namespace Kind

def all : List Kind := [addrs, vj, addr, dns1, dns2, wins1, wins2]

def opt : Kind → UInt8
  | addrs => CI_ADDRS
  | vj => CI_COMPRESSTYPE
  | addr => CI_ADDR
  | dns1 => CI_MS_DNS1
  | dns2 => CI_MS_DNS2
  | wins1 => CI_MS_WINS1
  | wins2 => CI_MS_WINS2

def bytes (k : Kind) (go : IpcpOptions) : Bytes :=
  match k with
  | addrs => addrsOption go.ouraddr go.hisaddr
  | vj => vjOption go
  | addr => addrOption CI_ADDR go.ouraddr
  | dns1 => addrOption CI_MS_DNS1 go.dnsaddr0
  | dns2 => addrOption CI_MS_DNS2 go.dnsaddr1
  | wins1 => addrOption CI_MS_WINS1 go.winsaddr0
  | wins2 => addrOption CI_MS_WINS2 go.winsaddr1

def value (k : Kind) (go : IpcpOptions) (p : Bytes) : Bool :=
  match k with
  | addrs => addrAt p 2 == go.ouraddr && addrAt p 6 == go.hisaddr
  | vj =>
    getShort p 2 == go.vjProtocol &&
      (go.oldVj || (byteAt p 4 == go.maxslotindex && byteAt p 5 == go.cflag))
  | addr => addrAt p 2 == go.ouraddr
  | dns1 => addrAt p 2 == go.dnsaddr0
  | dns2 => addrAt p 2 == go.dnsaddr1
  | wins1 => addrAt p 2 == go.winsaddr0
  | wins2 => addrAt p 2 == go.winsaddr1

/-- The field that has the option asked for. -/
def neg (k : Kind) (go : IpcpOptions) : Bool :=
  match k with
  | addrs => go.oldAddrs
  | vj => go.negVj
  | addr => go.negAddr
  | dns1 => go.reqDns1
  | dns2 => go.reqDns2
  | wins1 => go.winsaddr0 != 0
  | wins2 => go.winsaddr1 != 0

/-- What a Reject of the option gives up, and `Addci` where there is no room for it. -/
def clear (k : Kind) (t : IpcpOptions) : IpcpOptions :=
  match k with
  | addrs => { t with oldAddrs := false }
  | vj => { t with negVj := false }
  | addr => { t with negAddr := false }
  | dns1 => { t with reqDns1 := false }
  | dns2 => { t with reqDns2 := false }
  | wins1 => { t with winsaddr0 := 0 }
  | wins2 => { t with winsaddr1 := 0 }

end Kind

theorem Kind.shape (k : Kind) (go : IpcpOptions) :
    Shape k.opt (k.bytes go).length (k.value go) (k.bytes go) := by
  cases k with
  | addrs => exact Shape.of_reads rfl ((reads_addr 2 _).and (reads_addr 6 _) rfl)
  | addr | dns1 | dns2 | wins1 | wins2 => exact Shape.of_reads rfl (reads_addr 2 _)
  | vj =>
    unfold opt bytes value vjOption
    -- the long form has two more bytes
    cases go.oldVj with
    | true => exact Shape.of_reads rfl ((reads_short 2 _).and (reads_nothing 4) rfl)
    | false =>
      exact Shape.of_reads rfl
        ((reads_short 2 _).and ((reads_byte 4 _).and (reads_byte 5 _) rfl) rfl)

def menu : Menu Kind IpcpOptions where
  kinds := Kind.all
  opt := Kind.opt
  bytes := Kind.bytes
  value := Kind.value
  clear := Kind.clear
  shape := Kind.shape

/-- When `Addci` sends the option, `Ackci` waits for it and `Rejci` takes a Reject of it. -/
def sent (go : IpcpOptions) : Kind → Bool
  | .addrs => go.askAddrs
  | k => k.neg go

theorem neg_of_sent {go : IpcpOptions} {k : Kind} (h : go.sent k = true) : k.neg go = true := by
  cases k with
  | addrs => exact (Bool.and_eq_true_iff.mp h).2
  | _ => exact h

/-! ### The request -/

variable (go : IpcpOptions)

theorem length_vjOption : (vjOption go).length = vjLen go.oldVj := by
  unfold vjOption vjLen
  cases go.oldVj <;> rfl

theorem cilen_eq : go.cilen = (menu.offers go.sent go).flatten.length := by
  rw [Menu.offers, flatten_map_filter]
  simp only [menu, Kind.all, List.map_cons, List.map_nil, List.flatten_cons, List.flatten_nil,
    List.append_nil, List.length_append, length_ite_bytes, cilen, Nat.add_assoc, ← length_vjOption]
  rfl

theorem foldl_addOption (ks : List Kind) (a : AddAcc)
    (h : ((ks.filter a.go.sent).map fun k => k.bytes a.go).flatten.length ≤ a.len) :
    (ks.foldl (fun a k => addOption (fun go => go.sent k) k.bytes k.clear a) a).out =
        a.out ++ ((ks.filter a.go.sent).map fun k => k.bytes a.go).flatten ∧
      (ks.foldl (fun a k => addOption (fun go => go.sent k) k.bytes k.clear a) a).go = a.go := by
  induction ks generalizing a with
  | nil => exact ⟨(List.append_nil a.out).symm, rfl⟩
  | cons k ks ih =>
    rw [List.foldl_cons, addOption]
    cases hk : a.go.sent k with
    | false =>
      rw [List.filter_cons_of_neg (by simp [hk])] at h ⊢
      exact ih a h
    | true =>
      rw [List.filter_cons_of_pos hk, List.map_cons, List.flatten_cons,
        List.length_append] at h
      rw [List.filter_cons_of_pos hk, List.map_cons, List.flatten_cons, if_pos rfl,
        if_pos (by omega), ← List.append_assoc]
      exact ih { a with
        len := a.len - (k.bytes a.go).length, out := a.out ++ k.bytes a.go }
        (by dsimp only; omega)

/-- With the room `Cilen` asks for, every option is written and none is given up. -/
theorem addci_cilen :
    (go.addci go.cilen).out = (menu.offers go.sent go).flatten ∧ (go.addci go.cilen).go = go := by
  exact foldl_addOption Kind.all { len := go.cilen, go := go } (cilen_eq go).ge

theorem ackci_iff {p : Bytes} {len : Nat} (hp : len ≤ p.length) :
    go.ackci p len = true ↔ p.take len = (go.addci go.cilen).out := by
  have hack : go.ackci p len = (menu.ack go.sent go ⟨p, len⟩).elim false (·.len == 0) := by
    unfold ackci Menu.ack ackciVj
    rw [← length_vjOption]
    simp only [menu, Kind.all, List.foldlM_cons, List.foldlM_nil, bind_pure]
    split
    next c h => exact (congrArg (Option.elim · false (·.len == 0)) h).symm
    next h => exact (congrArg (Option.elim · false (·.len == 0)) h).symm
  rw [hack, (addci_cilen go).1]
  exact Menu.ack_iff hp

/-! ## 4. Rejects of IPCP's options -/

namespace Kind

theorem eq_of_opt {j k : Kind} (h : j.opt = k.opt) : j = k := by
  revert h
  cases j <;> cases k <;> decide

theorem eq_of_bytes {j k : Kind} {a b : IpcpOptions} (h : j.bytes a = k.bytes b) : j = k := by
  have hj := ((shape j a).self []).2.1
  have hk := ((shape k b).self []).2.1
  exact eq_of_opt (by rw [← hj, ← hk, h])

@[simp] theorem neg_clear_self (k : Kind) (t : IpcpOptions) : k.neg (k.clear t) = false := by
  cases k <;> rfl

theorem neg_clear {j k : Kind} {t : IpcpOptions} (h : k.neg t = false) :
    k.neg (j.clear t) = false := by
  cases j <;> cases k <;> first | rfl | exact h

end Kind

theorem distinct_sent : menu.Distinct go.sent menu.kinds := by
  unfold Menu.Distinct
  rw [List.pairwise_filter]
  have hnodup : Kind.all.Nodup := by decide
  exact hnodup.imp fun {j k} hjk _ _ hopt => hjk (Kind.eq_of_opt hopt)

theorem rejScan_eq_some_iff {p : Bytes} {len : Nat} (hp : len ≤ p.length) (t : IpcpOptions) :
    go.rejScan p len = some t ↔ ∃ sub, sub.Sublist (menu.kinds.filter go.sent) ∧
      p.take len = (sub.map fun k => k.bytes go).flatten ∧ t = menu.given sub go := by
  have hrej : go.rejScan p len = (menu.rej go.sent go (⟨p, len⟩, go)).bind fun s =>
      if s.1.len = 0 then some s.2 else none := by
    unfold rejScan Menu.rej
    rw [← length_vjOption]
    simp only [menu, Kind.all, List.foldlM_cons, List.foldlM_nil, bind_pure]
    simp only [bind, Option.bind_assoc]
    rfl
  rw [hrej]
  exact Menu.rej_iff (distinct_sent go) hp t

theorem oldVj_given (sub : List Kind) (t : IpcpOptions) : (menu.given sub t).oldVj = t.oldVj := by
  induction sub generalizing t with
  | nil => rfl
  | cons k sub ih =>
    refine (ih (k.clear t)).trans ?_
    cases k <;> rfl

/-- What is not asked for is not asked for in the old form either, but for the compression
    option in a form that was not sent. -/
theorem neg_oldForms {wo go ho : IpcpOptions} {k : Kind} (h : k.neg go = false)
    (hs : (oldForms wo go ho).sent k = true) :
    k = .vj ∧ go.oldVj = false ∧ (oldForms wo go ho).oldVj = true := by
  have hn := neg_of_sent hs
  unfold oldForms at hn ⊢
  -- the old form of the address option takes a flag away
  have haddr : ∀ b : Bool, k.neg (if b then { go with negAddr := false } else go) = false ∧
      (if b then { go with negAddr := false } else go).oldVj = go.oldVj := by
    intro b
    cases b with
    | false => exact ⟨h, rfl⟩
    | true => exact ⟨Kind.neg_clear (j := .addr) h, rfl⟩
  obtain ⟨hg, hvj⟩ := haddr (go.negAddr && go.oldAddrs && !ho.negAddr && ho.oldAddrs)
  generalize (if (go.negAddr && go.oldAddrs && !ho.negAddr && ho.oldAddrs) = true then
    { go with negAddr := false } else go) = g at hn hg hvj ⊢
  dsimp only at hn ⊢
  split at hn
  · rename_i hold
    rw [if_pos hold]
    have hold' : g.oldVj = false := by simp_all
    cases k with
    | vj => exact ⟨rfl, hvj ▸ hold', rfl⟩
    | _ => exact absurd (hg.symm.trans hn) Bool.false_ne_true
  · exact absurd (hg.symm.trans hn) Bool.false_ne_true

end IpcpOptions

/-! ## 5. In the automaton -/

/-- The request as `SendConfReq` has it built: `Cilen`, then `Addci` with that room. -/
def nextRequest {σ : Type} (K : CiSink σ) (s : σ) : (Bytes × Nat) × σ :=
  K.addci (K.cilen s).1 (K.cilen s).2

/-- The request fills the room asked for, and its Ack is good exactly if it repeats it. -/
structure AcksRepeat {σ : Type} (K : IFsmSink σ) (s : σ) : Prop where
  written : (nextRequest K.toCiSink s).1.1.length = (K.cilen s).1
  reported : (nextRequest K.toCiSink s).1.2 = (K.cilen s).1
  /-- no option is given up for want of room -/
  kept : (nextRequest K.toCiSink s).2 = (K.cilen s).2
  ack : ∀ p len, len ≤ p.length →
    ((K.ackci p len (nextRequest K.toCiSink s).2).1 = true ↔
      p.take len = (nextRequest K.toCiSink s).1.1)

namespace Exec

theorem nextRequest_ipcp (s : Exec) :
    nextRequest ipcpCi s =
      let go := IpcpOptions.oldForms s.ipcp.wo s.ipcp.go s.ipcp.ho
      (((IpcpOptions.menu.offers go.sent go).flatten, go.cilen),
        { s with ipcp := { s.ipcp with go := go } }) := by
  obtain ⟨hout, hgo⟩ :=
    IpcpOptions.addci_cilen (IpcpOptions.oldForms s.ipcp.wo s.ipcp.go s.ipcp.ho)
  simp only [nextRequest, ipcpCi, hout, hgo, ← IpcpOptions.cilen_eq]

/-- **The length announced is the length written, and an Ack is good exactly if it repeats the
    request byte for byte**, whatever options the two protocols have got. -/
theorem acks_repeat_requests (s : Exec) : AcksRepeat lcpSink s ∧ AcksRepeat ipcpSink s := by
  constructor
  · exact
      { written := (LcpOptions.cilen_eq s.lcp.go).symm
        reported := rfl
        kept := rfl
        ack := fun p len hp => LcpOptions.ackci_iff s.lcp.go hp }
  · have hreq := nextRequest_ipcp s
    refine
      { written := ?_
        reported := congrArg (·.1.2) hreq
        kept := congrArg (·.2) hreq
        ack := fun p len hp => ?_ }
    · exact (congrArg (·.1.1.length) hreq).trans (IpcpOptions.cilen_eq _).symm
    · show ((ipcpSink.ackci p len (nextRequest ipcpCi s).2).1 = true ↔
        p.take len = (nextRequest ipcpCi s).1.1)
      rw [hreq]
      dsimp only
      rw [← (IpcpOptions.addci_cilen _).1]
      exact IpcpOptions.ackci_iff _ hp

/-- A Reject body `p` of `len` bytes is taken for what it is: good exactly if it picks from the
    options in `offer`, and then none of its options stands in the next request; a bad one changes
    nothing. -/
structure RejectsPick (K : IFsmSink Exec) (offer : Bytes) (p : Bytes) (len : Nat) (s : Exec) :
    Prop where
  good : (K.rejci p len s).1 ≠ 0 ↔
    ∃ l : List Bytes, l.Sublist (optionBytes offer) ∧ p.take len = l.flatten
  gone : (K.rejci p len s).1 ≠ 0 → ∀ b ∈ optionBytes (p.take len),
    b ∉ optionBytes (nextRequest K.toCiSink (K.rejci p len s).2).1.1
  bad : (K.rejci p len s).1 = 0 → (K.rejci p len s).2 = s

end Exec

namespace LcpOptions

theorem rejected_not_sent (go : LcpOptions) {sub : List Kind} {k : Kind} (hk : k ∈ sub) :
    k.bytes go ∉ menu.offers (menu.given sub go).sent (menu.given sub go) := by
  intro hb
  obtain ⟨j, hj, hjk⟩ := List.mem_map.mp hb
  have hjk : j = k := Kind.eq_of_bytes hjk
  subst hjk
  have hsent := neg_of_sent (List.mem_filter.mp hj).2
  have hoff : j.neg (menu.given sub go) = false :=
    Menu.given_off (M := menu) (fun k t => Kind.neg_clear_self k t)
      (fun _ _ _ h => Kind.neg_clear h) hk go
  exact absurd (hoff.symm.trans hsent) Bool.false_ne_true

end LcpOptions

namespace IpcpOptions

theorem rejected_not_sent (wo go ho : IpcpOptions) {sub : List Kind} {k : Kind} (hk : k ∈ sub) :
    k.bytes go ∉ menu.offers (oldForms wo (menu.given sub go) ho).sent
      (oldForms wo (menu.given sub go) ho) := by
  intro hb
  obtain ⟨j, hj, hjk⟩ := List.mem_map.mp hb
  have hbytes := hjk
  have hjk : j = k := Kind.eq_of_bytes hjk
  subst hjk
  have hoff : j.neg (menu.given sub go) = false :=
    Menu.given_off (M := menu) (fun k t => Kind.neg_clear_self k t)
      (fun _ _ _ h => Kind.neg_clear h) hk go
  obtain ⟨rfl, hnew, hold⟩ := neg_oldForms hoff (List.mem_filter.mp hj).2
  -- the short form of the compression option is not the long one that was rejected
  have hlen := congrArg List.length hbytes
  rw [oldVj_given] at hnew
  have h1 : (Kind.vj.bytes (oldForms wo (menu.given sub go) ho)).length = CILEN_COMPRESS := by
    rw [Kind.bytes, length_vjOption, hold]
    rfl
  have h2 : (Kind.vj.bytes go).length = CILEN_VJ := by
    rw [Kind.bytes, length_vjOption, hnew]
    rfl
  exact absurd (h1.symm.trans (hlen.trans h2)) (by decide)

end IpcpOptions

namespace Exec

/-- `Rejci` by a scan that takes what the menu takes: it is enough that what the scan gives up
    does not come again. -/
theorem RejectsPick.of_scan {K : IFsmSink Exec} {κ α : Type} {M : Menu κ α} {asked : κ → Bool}
    {a : α} {offer p : Bytes} {len : Nat} {s : Exec} (scan : Option α) (put : α → Exec)
    (hoffer : offer = (M.offers asked a).flatten)
    (hrej : K.rejci p len s = scan.elim (0, s) fun t => (1, put t))
    (hscan : ∀ t, scan = some t ↔ ∃ sub : List κ, sub.Sublist (M.kinds.filter asked) ∧
      p.take len = (sub.map fun k => M.bytes k a).flatten ∧ t = M.given sub a)
    (hnext : ∀ (sub : List κ), ∀ k ∈ sub,
      M.bytes k a ∉ optionBytes (nextRequest K.toCiSink (put (M.given sub a))).1.1) :
    RejectsPick K offer p len s := by
  have hpick := M.sublist_offers_iff asked a (p.take len)
  rw [← M.optionBytes_offers, ← hoffer] at hpick
  cases hs : scan with
  | none =>
    rw [hs] at hrej
    refine ⟨⟨fun h => absurd (congrArg Prod.fst hrej) h, fun h => ?_⟩,
      fun h => absurd (congrArg Prod.fst hrej) h, fun _ => congrArg Prod.snd hrej⟩
    obtain ⟨sub, hsub, hb⟩ := hpick.mp h
    have hsome := (hscan _).mpr ⟨sub, hsub, hb, rfl⟩
    rw [hs] at hsome
    cases hsome
  | some t =>
    rw [hs] at hrej
    obtain ⟨sub, hsub, hb, rfl⟩ := (hscan t).mp hs
    have hone : (K.rejci p len s).1 ≠ 0 := by
      rw [hrej]
      exact one_ne_zero
    refine ⟨⟨fun _ => hpick.mpr ⟨sub, hsub, hb⟩, fun _ => hone⟩, fun _ b hmem => ?_,
      fun h => absurd h hone⟩
    rw [hb, M.optionBytes_sub] at hmem
    obtain ⟨k, hk, rfl⟩ := List.mem_map.mp hmem
    rw [hrej]
    exact hnext sub k hk

/-- LCP takes Rejects of what it sent, if everything it would take a Reject of was sent. -/
theorem lcp_rejectsPick {s : Exec} (hs : s.lcp.fsm.state ≠ .opened)
    (hsent : s.lcp.go.rejectable = s.lcp.go.sent) {p : Bytes} {len : Nat} (hp : len ≤ p.length) :
    RejectsPick lcpSink s.lcp.go.addci p len s := by
  refine RejectsPick.of_scan (s.lcp.go.rejScan p len)
    (fun t => { s with lcp := { s.lcp with go := t } }) (LcpOptions.addci_eq s.lcp.go) ?_
    (hsent ▸ LcpOptions.rejScan_eq_some_iff s.lcp.go hp) fun sub k hk => ?_
  · show lcpRejci p len s = _
    unfold lcpRejci
    cases LcpOptions.rejScan s.lcp.go p len with
    | none => rfl
    | some t => exact congrArg (Prod.mk 1) (if_neg hs)
  · show _ ∉ optionBytes (LcpOptions.addci _)
    rw [LcpOptions.addci_eq, Menu.optionBytes_offers]
    exact LcpOptions.rejected_not_sent s.lcp.go hk

theorem ipcp_rejectsPick {s : Exec} (hs : s.ipcp.fsm.state ≠ .opened) {p : Bytes} {len : Nat}
    (hp : len ≤ p.length) :
    RejectsPick ipcpSink (s.ipcp.go.addci s.ipcp.go.cilen).out p len s := by
  refine RejectsPick.of_scan (s.ipcp.go.rejScan p len)
    (fun t => { s with ipcp := { s.ipcp with go := t } })
    (IpcpOptions.addci_cilen s.ipcp.go).1 ?_
    (IpcpOptions.rejScan_eq_some_iff s.ipcp.go hp) fun sub k hk => ?_
  · show ipcpGot (IpcpOptions.rejScan s.ipcp.go p len) s = _
    cases IpcpOptions.rejScan s.ipcp.go p len with
    | none => rfl
    | some t => exact congrArg (Prod.mk 1) (if_neg hs)
  · show _ ∉ optionBytes (nextRequest ipcpCi _).1.1
    rw [nextRequest_ipcp, Menu.optionBytes_offers]
    exact IpcpOptions.rejected_not_sent s.ipcp.wo s.ipcp.go s.ipcp.ho hk

/-- An option LCP takes a Reject of, alone in a body, is one that was sent. -/
theorem sent_of_rejectsPick {s : Exec} {k : LcpOptions.Kind}
    (hk : s.lcp.go.rejectable k = true)
    (h : RejectsPick lcpSink s.lcp.go.addci (k.bytes s.lcp.go) (k.bytes s.lcp.go).length s) :
    s.lcp.go.sent k = true := by
  have hmem : k ∈ LcpOptions.menu.kinds := by cases k <;> decide
  have hscan := (LcpOptions.rejScan_eq_some_iff s.lcp.go (Nat.le_refl (k.bytes s.lcp.go).length)
    (LcpOptions.menu.given [k] s.lcp.go)).mpr
    ⟨[k], List.singleton_sublist.mpr (List.mem_filter.mpr ⟨hmem, hk⟩), by simp, rfl⟩
  have hgood : (lcpSink.rejci (k.bytes s.lcp.go) (k.bytes s.lcp.go).length s).1 ≠ 0 := by
    show (lcpRejci _ _ s).1 ≠ 0
    unfold lcpRejci
    rw [hscan]
    exact one_ne_zero
  obtain ⟨l, hl, hb⟩ := h.good.mp hgood
  rw [LcpOptions.addci_eq, Menu.optionBytes_offers] at hl
  rw [List.take_length] at hb
  -- the options of the body are the option itself, so it is among those sent
  have hframed : ∀ b ∈ l, Framed b := by
    intro b hbl
    obtain ⟨j, -, rfl⟩ := List.mem_map.mp (hl.subset hbl)
    exact LcpOptions.menu.framed j s.lcp.go
  have hopt := optionBytes_flatten hframed
  have hself := LcpOptions.menu.optionBytes_sub s.lcp.go [k]
  rw [List.map_singleton, List.flatten_singleton] at hself
  rw [← hb] at hopt
  have hl' : l = [k.bytes s.lcp.go] := hopt.symm.trans hself
  subst hl'
  obtain ⟨j, hj, hjk⟩ := List.mem_map.mp (hl.subset (List.mem_singleton.mpr rfl))
  have hjk : j = k := LcpOptions.Kind.eq_of_bytes hjk
  exact hjk ▸ (List.mem_filter.mp hj).2

/-- **A Reject is good exactly if it picks from the request, and what it picks is not asked for
    again**: for LCP outside `OPENED` exactly if MRU and asyncmap are not asked for with the
    values that are never sent; for IPCP outside `OPENED` always, whatever LCP's state is. -/
theorem rejects_pick_from_request_iff (s : Exec) :
    (s.lcp.fsm.state ≠ .opened →
        ((∀ p len, len ≤ p.length → RejectsPick lcpSink s.lcp.go.addci p len s) ↔
          (s.lcp.go.negMru = true → s.lcp.go.mru ≠ DEFMRU) ∧
            (s.lcp.go.negAsyncmap = true → s.lcp.go.asyncmap ≠ 0xffffffff))) ∧
      (s.ipcp.fsm.state ≠ .opened → ∀ p len, len ≤ p.length →
        RejectsPick ipcpSink (s.ipcp.go.addci s.ipcp.go.cilen).out p len s) := by
  refine ⟨fun hl => ⟨fun h => ?_, ?_⟩, fun hi p len hp => ipcp_rejectsPick hi hp⟩
  · have hsent : ∀ k, s.lcp.go.rejectable k = true → s.lcp.go.sent k = true := fun k hk =>
      sent_of_rejectsPick hk (h _ _ (Nat.le_refl _))
    exact ⟨fun hn => bne_iff_ne.mp (Bool.and_eq_true_iff.mp (hsent .mru hn)).2,
      fun hn => bne_iff_ne.mp (Bool.and_eq_true_iff.mp (hsent .asyncmap hn)).2⟩
  · rintro ⟨hmru, hmap⟩ p len hp
    refine lcp_rejectsPick hl ?_ hp
    funext k
    cases k with
    | mru =>
      show s.lcp.go.negMru = (s.lcp.go.negMru && s.lcp.go.mru != DEFMRU)
      cases hn : s.lcp.go.negMru with
      | false => rfl
      | true => exact (bne_iff_ne.mpr (hmru hn)).symm
    | asyncmap =>
      show s.lcp.go.negAsyncmap = (s.lcp.go.negAsyncmap && s.lcp.go.asyncmap != 0xffffffff)
      cases hn : s.lcp.go.negAsyncmap with
      | false => rfl
      | true => exact (bne_iff_ne.mpr (hmap hn)).symm
    | _ => rfl

/-- LCP at the start of a session, where the MRU asked for is 1492; and IPCP once the peer is
    authenticated, where our address is asked for and a Reject of it is taken. -/
theorem rejects_pick_in_session :
    let s := start (.sample PPP_PAP)
    let t := run step s (Event.papRequested ++ [.accept])
    (s.lcp.go.mru = 1492 ∧
        ∀ p len, len ≤ p.length → RejectsPick lcpSink s.lcp.go.addci p len s) ∧
      t.lcp.fsm.state = .opened ∧ (t.ipcp.go.addci t.ipcp.go.cilen).out = [3, 6, 127, 0, 0, 1] ∧
      (ipcpSink.rejci [3, 6, 127, 0, 0, 1] 6 t).1 = 1 ∧
      ∀ p len, len ≤ p.length →
        RejectsPick ipcpSink (t.ipcp.go.addci t.ipcp.go.cilen).out p len t :=
  ⟨⟨by decide +kernel, ((rejects_pick_from_request_iff _).1 (by decide +kernel)).mpr
      ⟨fun _ => by decide +kernel, fun _ => by decide +kernel⟩⟩,
    by decide +kernel, by decide +kernel, by decide +kernel,
    (rejects_pick_from_request_iff _).2 (by decide +kernel)⟩

/-- A session whose peer has Naked our MRU with 1500. -/
def nakedMru : Exec :=
  (start (.sample PPP_PAP)).step (.control PPP_LCP CONFNAK 1 [1, 4, 5, 220])

/-- **A Reject of an MRU that was never sent is taken**: after a Nak with 1500 our request has no
    MRU option, but `Rejci` gives it up when the peer rejects it. -/
theorem unsent_mru_rejected :
    nakedMru.lcp.fsm.state = .reqSent ∧
      optionBytes nakedMru.lcp.go.addci = [[3, 4, 0xc0, 0x23], [5, 6, 0, 0, 0, 0]] ∧
      (lcpSink.rejci [1, 4, 5, 220] 4 nakedMru).1 = 1 ∧
      ¬ RejectsPick lcpSink nakedMru.lcp.go.addci [1, 4, 5, 220] 4 nakedMru := by
  refine ⟨by decide +kernel, by decide +kernel, by decide +kernel, fun h => ?_⟩
  have hb : LcpOptions.Kind.mru.bytes nakedMru.lcp.go = [1, 4, 5, 220] := by decide +kernel
  have hk : nakedMru.lcp.go.rejectable .mru = true := by decide +kernel
  have hsent := sent_of_rejectsPick (k := .mru) hk (by rw [hb]; exact h)
  exact absurd hsent (by decide +kernel)

end Exec

end OpenBras
