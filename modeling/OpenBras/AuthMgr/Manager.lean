/-
  File:      OpenBras/AuthMgr/Manager.lean
  Subject:   THE ADDRESS POOL OF THE AUTHENTICATION MANAGER: `CAuthManager` of
             src/AuthMgr/CAuthMgerTest.cpp, as PPPoE sessions use it.

  THE QUESTION. Subscribers authenticate, come up and are deleted. Does every request for
  authentication get an address that no other subscriber has, as long as few are online at once?

  The constructor initialises `m_ip` with 0, a `std::string` from a null pointer, which throws:
  `IAuthManager::instance()` never returns, and no request is answered (`step_unbuilt`).

  With a constructor that succeeded there would be a pool of 256 texts. `AuthRequest` takes one,
  and `CSession::OnAddSubscriber` takes a second one through `CPPPOE::GetIp`.
  `CSession::OnDelSubscriber` tells the user manager and nothing else: `FreeIp`, which would put
  a text back, has no caller. So the pool is the original one without its first texts, one for
  each time a text was taken (`Drawn`); every request is served exactly if fewer than 256 texts
  are taken in the whole history and nobody who took one is deleted. On an empty pool `AllocIp`
  throws in the same way as the constructor.

  `addresses_served_iff` is about both.
-/
import Mathlib.Data.List.Nodup
import OpenBras.Lib.Run
import OpenBras.PPP.Ipcp

namespace OpenBras

open Wire

/-! ## 1. The manager -/

/-- `m_ip` is what `InIt` reads the texts into, `subip` the texts waiting to be handed out. -/
structure CAuthManager where
  ip : Bytes := []
  subip : List Bytes := []
  deriving DecidableEq, Repr

/-- A `std::string` from a character pointer. From a null pointer it throws, which is `none` here
    and below. -/
def stdString (pointer : Option Bytes) : Option Bytes := pointer

namespace CAuthManager

/-- The text the `i`-th round of `InIt` pushes. -/
def poolText (i : Nat) : Bytes :=
  ascii "100.1.1." ++ (Nat.toDigits 10 i).map fun c => UInt8.ofNat c.toNat

def inIt (startip endip : Nat) (m : CAuthManager) : CAuthManager :=
  (List.range' startip (endip + 1 - startip)).foldl
    (fun m i => { m with ip := poolText i, subip := m.subip ++ [poolText i] }) m

/-- The constructor: `m_ip(0)`, then `InIt`. -/
def construct : Option CAuthManager := (stdString none).map fun ip => inIt 0 255 { ip := ip }

/-- The manager if the constructor got as far as `InIt`. -/
def built : CAuthManager := inIt 0 255 {}

/-- `AllocIp`; on an empty pool it returns 0 as a string. -/
def allocIp (m : CAuthManager) : Option (Bytes × CAuthManager) :=
  match m.subip with
  | [] => (stdString none).map fun ip => (ip, m)
  | ip :: rest => some (ip, { m with subip := rest })

/-- `get_ip_address` of an `ACE_INET_Addr` made from a port and a dotted text. -/
def inetAddr (text : Bytes) : UInt32 :=
  let (upper, last) := text.foldl (fun (upper, octet) b =>
    if b = 46 then (upper * 256 + octet, 0) else (upper, octet * 10 + (b.toUInt32 - 48))) (0, 0)
  upper * 256 + last

/-- The answer handed to `OnAuthResponse`. -/
def authRequest (request : AuthRequest) (m : CAuthManager) :
    Option (AuthResponse × CAuthManager) :=
  m.allocIp.map fun (tmpip, m) =>
    ({ session := request.session, mac := request.mac, authResult := 0,
       subscriberIP := inetAddr tmpip, primaryDNS := inetAddr (ascii "200.1.1.1"),
       secondaryDNS := inetAddr (ascii "200.1.1.100") }, m)

/-- `get_ip_address` of an `ACE_INET_Addr` made from a text alone (`string_to_addr`): without a
    colon the text is a port, and the address stays 0; otherwise what stands before the last
    colon is the host. -/
def stringToAddr (text : Bytes) : UInt32 :=
  if 58 ∈ text then inetAddr (text.reverse.dropWhile (· ≠ 58)).tail.reverse else 0

/-- `CPPPOE::GetIp`. -/
def getIp (m : CAuthManager) : Option (UInt32 × CAuthManager) :=
  m.allocIp.map fun (userip, m) => (swapLong (stringToAddr userip), m)

/-- The addresses of the pool. -/
def pool : List UInt32 := built.subip.map inetAddr

theorem pool_length : built.subip.length = 256 := by decide +kernel

theorem pool_nodup : pool.Nodup := by decide +kernel

/-- **`GetIp` is 0 for every text of the pool.** -/
theorem stringToAddr_pool : ∀ text ∈ built.subip, swapLong (stringToAddr text) = Exec.getIp := by
  decide +kernel

end CAuthManager

/-! ## 2. Subscribers -/

inductive SubscriberEvent where
  | auth (request : AuthRequest)
  /-- `OnAddSubscriber` -/
  | added (session : UInt16)
  /-- `OnDelSubscriber` -/
  | deleted (session : UInt16)
  deriving DecidableEq, Repr

/-- The manager, if `instance()` returns one, the texts the sessions have taken and still count
    on, and who is online. -/
structure Subscribers where
  manager : Option CAuthManager := CAuthManager.construct
  held : List (UInt16 × Bytes) := []
  online : List UInt16 := []
  deriving DecidableEq, Repr

/-- The session that takes a text. -/
def SubscriberEvent.takes : SubscriberEvent → Option UInt16
  | .auth request => some request.session
  | .added session => some session
  | .deleted _ => none

namespace Subscribers

open CAuthManager

/-- The text at the front of the pool becomes the session's. -/
def give (session : UInt16) (m : CAuthManager) (w : Subscribers) : List (UInt16 × Bytes) :=
  m.subip.head?.toList.map (session, ·) ++ w.held

/-- An exception leaves everything as it was, and `instance()` throws every time. A deleted
    session's texts are nobody's. -/
def step (w : Subscribers) : SubscriberEvent → Subscribers
  | .auth request =>
    match w.manager with
    | none => w
    | some m =>
      match m.authRequest request with
      | some (_, m') => { w with manager := some m', held := w.give request.session m }
      | none => w
  | .added session =>
    match w.manager with
    | none => w
    | some m =>
      match m.getIp with
      | some (_, m') =>
        { manager := some m', held := w.give session m, online := session :: w.online }
      | none => w
  | .deleted session =>
    { w with
      held := w.held.filter (·.1 ≠ session)
      online := w.online.filter (· ≠ session) }

/-- The request is answered, with an address of the pool that no other session holds. -/
def Served (w : Subscribers) (e : SubscriberEvent) : Prop :=
  ∀ request, e = .auth request → ∃ m ∈ w.manager, ∃ a, m.authRequest request = some a ∧
    a.1.subscriberIP ∈ pool ∧
    ∀ p ∈ w.held, p.1 ≠ request.session → inetAddr p.2 ≠ a.1.subscriberIP

/-- What a deleted subscriber held is in the pool again. -/
def Returned (w : Subscribers) (e : SubscriberEvent) : Prop :=
  ∀ session, e = .deleted session → ∀ p ∈ w.held, p.1 = session →
    ∃ m ∈ (w.step e).manager, p.2 ∈ m.subip

/-- Nobody is deleted who holds a text. -/
def Keeps (w : Subscribers) (e : SubscriberEvent) : Prop :=
  ∀ session, e = .deleted session → ∀ p ∈ w.held, p.1 ≠ session

/-- No pool is empty. -/
def Stocked (w : Subscribers) : Prop := ∀ m ∈ w.manager, m.subip ≠ []

/-- Every request is answered with an address of its own, the addresses of deleted subscribers
    return, and the pool never runs empty. -/
def AllServed (w : Subscribers) (es : List SubscriberEvent) : Prop :=
  Along step Served w es ∧ Along step Returned w es ∧ Throughout step Stocked w es

/-- How often a text is taken in a history. -/
def taken (es : List SubscriberEvent) : Nat := es.countP fun e => e.takes.isSome

/-! ## 3. Without a manager -/

/-- **Without a manager nothing ever changes.** -/
theorem step_unbuilt (e : SubscriberEvent) : step {} e = {} := by
  cases e <;> rfl

theorem allServed_unbuilt_iff (es : List SubscriberEvent) :
    AllServed {} es ↔ ∀ request, .auth request ∉ es := by
  induction es with
  | nil => exact iff_of_true ⟨trivial, trivial, nofun⟩ fun _ => List.not_mem_nil
  | cons e es ih =>
    have hreturned : Returned {} e := fun _ _ p hp => by cases hp
    have hstocked : Stocked {} := nofun
    have hserved : Served {} e ↔ ∀ request, e ≠ .auth request :=
      forall_congr' fun request => forall_congr' fun _ =>
        iff_of_false (by rintro ⟨m, hm, -⟩; cases hm) id
    have hcons : AllServed {} (e :: es) ↔ Served {} e ∧ AllServed {} es := by
      unfold AllServed
      show ((Served {} e ∧ Along step Served (step {} e) es) ∧
        (Returned {} e ∧ Along step Returned (step {} e) es) ∧
        Stocked {} ∧ Throughout step Stocked (step {} e) es) ↔ _
      rw [step_unbuilt]
      exact ⟨fun h => ⟨h.1.1, h.1.2, h.2.1.2, h.2.2.2⟩,
        fun h => ⟨⟨h.1, h.2.1⟩, ⟨hreturned, h.2.2.1⟩, hstocked, h.2.2.2⟩⟩
    rw [hcons, hserved, ih, ← forall_and]
    refine forall_congr' fun request => ?_
    rw [List.mem_cons, not_or, ne_comm]

/-! ## 4. With the pool -/

variable {m : CAuthManager} {w : Subscribers}

theorem step_subip (hm : w.manager = some m) (e : SubscriberEvent) :
    ∃ m', (w.step e).manager = some m' ∧ m'.subip = m.subip.drop (taken [e]) := by
  cases e with
  | deleted session => exact ⟨m, hm, rfl⟩
  | _ =>
    unfold step
    rw [hm]
    cases hs : m.subip with
    | nil => exact ⟨m, by simp [authRequest, getIp, allocIp, stdString, hs, hm], hs⟩
    | cons ip rest => exact ⟨{ m with subip := rest }, by simp [authRequest, getIp, allocIp, hs], rfl⟩

theorem step_held (hm : w.manager = some m) {e : SubscriberEvent} {p : UInt16 × Bytes}
    (hp : p ∈ (w.step e).held) : p ∈ w.held ∨ p.2 ∈ m.subip.take (taken [e]) := by
  cases e with
  | deleted session => exact Or.inl (List.mem_of_mem_filter hp)
  | _ =>
    unfold step authRequest getIp allocIp give at hp
    rw [hm] at hp
    cases hs : m.subip with
    | nil =>
      simp only [hs, stdString, Option.map_none] at hp
      exact Or.inl hp
    | cons ip rest =>
      simp only [hs] at hp
      rcases List.mem_cons.mp hp with rfl | hp
      · exact Or.inr (List.mem_singleton.mpr rfl)
      · exact Or.inl hp

/-- **Nothing returns to the pool**: after `n` texts were taken it is the original pool without
    the first `n`, and what is held is among those. -/
structure Drawn (n : Nat) (w : Subscribers) : Prop where
  subip : ∃ m, w.manager = some m ∧ m.subip = built.subip.drop n
  held : ∀ p ∈ w.held, p.2 ∈ built.subip.take n

theorem Drawn.step {n : Nat} (h : Drawn n w) (e : SubscriberEvent) :
    Drawn (n + taken [e]) (w.step e) := by
  obtain ⟨m, hm, hs⟩ := h.subip
  constructor
  · obtain ⟨m', hm', hs'⟩ := step_subip hm e
    exact ⟨m', hm', by rw [hs', hs, List.drop_drop]⟩
  · intro p hp
    rw [List.take_add, List.mem_append]
    rcases step_held hm hp with hp | hp
    · exact Or.inl (h.held p hp)
    · rw [hs] at hp
      exact Or.inr hp

theorem taken_cons (e : SubscriberEvent) (es : List SubscriberEvent) :
    taken (e :: es) = taken [e] + taken es := by
  rw [← List.singleton_append]
  exact List.countP_append

theorem Drawn.run {n : Nat} (h : Drawn n w) (es : List SubscriberEvent) :
    Drawn (n + taken es) (run Subscribers.step w es) := by
  induction es generalizing w n with
  | nil => exact h
  | cons e es ih =>
    rw [taken_cons, ← Nat.add_assoc]
    exact ih (h.step e)

theorem Drawn.stocked_iff {n : Nat} (h : Drawn n w) : Stocked w ↔ n < 256 := by
  obtain ⟨m, hm, hs⟩ := h.subip
  have hone : Stocked w ↔ m.subip ≠ [] := by
    unfold Stocked
    rw [hm]
    exact ⟨fun h => h m rfl, fun h _ hm' => by cases hm'; exact h⟩
  rw [hone, hs, ne_eq, List.drop_eq_nil_iff, pool_length, Nat.not_le]

/-- **A pool with a text left serves every request.** -/
theorem Drawn.served {n : Nat} (h : Drawn n w) (hw : Stocked w) (e : SubscriberEvent) :
    Served w e := by
  rintro request rfl
  obtain ⟨m, hm, hsub⟩ := h.subip
  obtain ⟨ip, rest, hs⟩ := List.exists_cons_of_ne_nil (hw m hm)
  have hall : built.subip = built.subip.take n ++ ip :: rest := by
    rw [← hs, hsub, List.take_append_drop]
  refine ⟨m, hm, _, by unfold authRequest allocIp; rw [hs]; rfl, ?_, ?_⟩
  · refine List.mem_map_of_mem ?_
    rw [hall]
    exact List.mem_append_right _ List.mem_cons_self
  · -- the texts before the front of the pool have other addresses
    intro p hp _ he
    have hnd := pool_nodup
    unfold pool at hnd
    rw [hall, List.map_append, List.nodup_append'] at hnd
    exact hnd.2.2 (List.mem_map_of_mem (h.held p hp)) (he ▸ List.mem_cons_self)

theorem Drawn.returned_iff {n : Nat} (h : Drawn n w) (e : SubscriberEvent) :
    Returned w e ↔ Keeps w e := by
  refine forall_congr' fun session => forall_congr' fun he => forall₂_congr fun p hp => ?_
  subst he
  obtain ⟨m, hm, hs⟩ := h.subip
  have hgone : ¬ ∃ m' ∈ (w.step (.deleted session)).manager, p.2 ∈ m'.subip := by
    rintro ⟨m', hm', hmem⟩
    obtain rfl : m = m' := Option.some.inj (hm.symm.trans hm')
    have hnd := List.Nodup.of_map _ pool_nodup
    rw [← List.take_append_drop n built.subip, List.nodup_append', ← hs] at hnd
    exact hnd.2.2 (h.held p hp) hmem
  exact ⟨fun hr hs => hgone (hr hs), fun hk hs => absurd hs hk⟩

theorem drawn_start : Drawn 0 { manager := some built } := ⟨⟨built, rfl, rfl⟩, nofun⟩

theorem along_served {n : Nat} {es : List SubscriberEvent} (h : Drawn n w)
    (hw : Throughout step Stocked w es) : Along step Served w es := by
  induction es generalizing w n with
  | nil => exact trivial
  | cons e es ih => exact ⟨h.served hw.1 e, ih (h.step e) hw.2⟩

theorem throughout_stocked_iff {n : Nat} (h : Drawn n w) (es : List SubscriberEvent) :
    Throughout step Stocked w es ↔ n + taken es < 256 := by
  induction es generalizing w n with
  | nil => exact h.stocked_iff
  | cons e es ih =>
    refine (and_congr h.stocked_iff (ih (h.step e))).trans ?_
    rw [taken_cons e es]
    omega

theorem along_returned_iff {n : Nat} (h : Drawn n w) (es : List SubscriberEvent) :
    Along step Returned w es ↔ Along step Keeps w es :=
  along_congr_of_keeps (I := fun w => ∃ n, Drawn n w) (fun _ e ⟨_, h⟩ => ⟨_, h.step e⟩)
    (fun _ e ⟨_, h⟩ => h.returned_iff e) ⟨n, h⟩ es

/-- **The manager serves a history if and only if nobody asks it**: its constructor throws. **With
    the pool its constructor was to make, it would serve a history if and only if the pool
    outlasts it**: fewer than 256 texts are taken in the whole history and nobody who holds one is
    deleted. How many are online at a time does not matter. -/
theorem addresses_served_iff (es : List SubscriberEvent) :
    (AllServed {} es ↔ ∀ request, .auth request ∉ es) ∧
      (AllServed { manager := some built } es ↔
        taken es < 256 ∧ Along step Keeps { manager := some built } es) := by
  refine ⟨allServed_unbuilt_iff es, ?_⟩
  unfold AllServed
  rw [along_returned_iff drawn_start, throughout_stocked_iff drawn_start, Nat.zero_add]
  refine ⟨fun h => ⟨h.2.2, h.2.1⟩, fun h => ⟨along_served drawn_start ?_, h.2, h.1⟩⟩
  rw [throughout_stocked_iff drawn_start, Nat.zero_add]
  exact h.1

/-- Subscribers `1` to `n`, each authenticates, comes up and is deleted before the next. -/
def shortSessions (n : Nat) : List SubscriberEvent :=
  (List.range n).flatMap fun i =>
    [.auth { authtype := 1, session := UInt16.ofNat (i + 1), username := [], userpasswd := [] },
      .added (UInt16.ofNat (i + 1)), .deleted (UInt16.ofNat (i + 1))]

/-- **The first request is not answered.** And if the constructor had succeeded, then after 128
    short sessions, one online at a time, the pool would be empty and the next request not
    answered; already the first deletion would return nothing. -/
theorem first_request_unanswered :
    let next : SubscriberEvent :=
      .auth { authtype := 1, session := 129, username := [], userpasswd := [] }
    ¬ Along step Served {} [next] ∧
      Along step (fun w e => (w.step e).online.length ≤ 1) { manager := some built }
        (shortSessions 128 ++ [next]) ∧
      ¬ Along step Served { manager := some built } (shortSessions 128 ++ [next]) ∧
      ¬ Along step Returned { manager := some built } (shortSessions 1) := by
  refine ⟨?_, by decide +kernel, fun h => ?_, fun h => ?_⟩
  · rintro ⟨h, -⟩
    obtain ⟨m, hm, -⟩ := h _ rfl
    cases hm
  · obtain ⟨m', hm', a, ha, -⟩ := (along_concat.mp h).2 _ rfl
    obtain ⟨m, hm, hs⟩ := (drawn_start.run (shortSessions 128)).subip
    obtain rfl := Option.some.inj (hm.symm.trans hm')
    have hempty : m.subip = [] := hs.trans (by decide +kernel)
    unfold authRequest allocIp at ha
    rw [hempty] at ha
    cases ha
  · have hk := ((along_returned_iff drawn_start _).mp h).2.2.1 1 rfl (1, poolText 0)
    exact hk (by decide +kernel) rfl

end Subscribers

end OpenBras
