/-
  File:      OpenBras/Portal/Attempts.lean
  Subject:   WHO AUTHENTICATES A PORTAL USER: the responses of the authentication manager and the
             attempts they are meant for.

  A response names the user's address, not the request it answers. A record that was logged out
  and replaced is found under the same address, so that the response to the attempt before is
  taken for one to the attempt now.

  * `Genuine` -- a step makes a record authenticated only if it is an accepting response to the
    request that was made for that very record;
  * `Meant` -- an accepting response that reaches a waiting record answers that record's request;
  * `genuine_iff_meant` -- the two agree on every step of every run.
-/
import OpenBras.Portal.Channel
import OpenBras.Lib.Run
import OpenBras.Lib.Table

namespace OpenBras

namespace CPortalManager

/-! ## 1. What a step does to a record -/

variable {H : Md5} {p : CPortalManager}

/-- The record under a key. -/
def user (p : CPortalManager) (k : UInt32 × UInt32) : Option CPortalUser := p.usrmgr.users k

/-- A request leaves a record as it is, removes it or makes one that waits. -/
theorem rcvData_users {am : Bool} {msg : Bytes} {n : Nat} {c : CPortalServerChannel}
    {u : CPortalUserMgr} {k : UInt32 × UInt32} {x : CPortalUser}
    (h : (c.rcvData H am msg n u).2.1.users k = some x) :
    u.users k = some x ∨ x.isAuthOk = false := by
  unfold CPortalServerChannel.rcvData at h
  dsimp only at h
  split at h
  · exact .inl h
  split at h
  · unfold CPortalServerChannel.handleChallengeRequest at h
    split at h <;> exact .inl h
  split at h
  · unfold CPortalServerChannel.handleAuthenRequest at h
    dsimp only at h
    split at h
    · exact .inl h
    split at h
    · exact .inl h
    split at h
    · exact .inl h
    split at h
    · rcases update_some h with ⟨-, hx⟩ | ⟨-, hx⟩
      · cases hx
        exact .inr rfl
      · exact .inl hx
    · rcases update_some h with ⟨-, hx⟩ | ⟨-, hx⟩
      · cases hx
        exact .inr rfl
      · exact .inl hx
  split at h
  · unfold CPortalServerChannel.handleLogoutRequest at h
    dsimp only at h
    split at h
    · rcases update_some h with ⟨-, hx⟩ | ⟨-, hx⟩
      · cases hx
      · exact .inl hx
    · exact .inl h
  · split at h <;> exact .inl h

/-- The record a response reaches: the manager finds a channel through the record of VPN 0, and
    the channel finds the record of the response's VPN. -/
def reached (p : CPortalManager) (r : PortalAuthResponse) : Option CPortalUser :=
  match p.user (r.userIp, 0) with
  | none => none
  | some u₀ =>
    if (p.channels u₀.portalServerAddr).isSome then
      (p.user (r.userIp, r.vrf)).filter fun u => u.packet.length ≠ 0
    else none

/-- **A response changes the record it reaches and no other**: accepted, or removed. -/
theorem onAuthResponse_users (H : Md5) (p : CPortalManager) (r : PortalAuthResponse) :
    (p.onAuthResponse H r).1.usrmgr.users =
      match p.reached r with
      | none => p.usrmgr.users
      | some u =>
        Function.update p.usrmgr.users (r.userIp, r.vrf)
          (if r.authResult = 0 then some { u with isAuthOk := true } else none) := by
  unfold onAuthResponse reached user CPortalUserMgr.findUser
  cases h₀ : p.usrmgr.users (r.userIp, 0) with
  | none => rfl
  | some u₀ =>
    dsimp only
    cases hc : p.channels u₀.portalServerAddr with
    | none => rfl
    | some c =>
      simp only [Option.isSome_some, if_true, CPortalServerChannel.onAuthResponse,
        CPortalUserMgr.findUser]
      cases hu : p.usrmgr.users (r.userIp, r.vrf) with
      | none => rfl
      | some u =>
        by_cases hl : u.packet.length = 0
        · simp [Option.filter, hl]
        · simp only [Option.filter, ne_eq, hl, not_false_eq_true, decide_true, if_false,
            if_true]
          split <;> rfl

theorem user_of_reached {r : PortalAuthResponse} {u : CPortalUser} (h : p.reached r = some u) :
    p.user (r.userIp, r.vrf) = some u := by
  unfold reached at h
  split at h
  · cases h
  · split at h
    · exact (Option.filter_eq_some_iff.mp h).1
    · cases h

/-! ## 2. Genuine authentication -/

/-- **One step**: a record that is authenticated afterwards was so before, or owes it to an
    accepting response to the request that was made for it. -/
def Genuine (H : Md5) (p : CPortalManager) (e : Event) : Prop :=
  ∀ k x, (p.next H e).user k = some x → x.isAuthOk = true →
    p.user k = some x ∨
      ∃ r id u, e = .authResponse r id ∧ r.authResult = 0 ∧ p.user k = some u ∧
        u.request = some id ∧ x = { u with isAuthOk := true }

/-- An accepting response that reaches a record still waiting answers that record's request. -/
def Meant (p : CPortalManager) : Event → Prop
  | .authResponse r id =>
    r.authResult = 0 → ∀ u, p.reached r = some u → u.isAuthOk = false → u.request = some id
  | _ => True

theorem genuine_authResponse_iff {r : PortalAuthResponse} {id : Nat} :
    Genuine H p (.authResponse r id) ↔ Meant p (.authResponse r id) := by
  have husers : (p.next H (.authResponse r id)).usrmgr.users = _ := onAuthResponse_users H p r
  constructor
  · intro h hok u hu hwait
    have hafter : (p.next H (.authResponse r id)).user (r.userIp, r.vrf) =
        some { u with isAuthOk := true } := by
      rw [user, husers, hu]
      simp only [if_pos hok, Function.update_self]
    rcases h _ _ hafter rfl with hbefore | ⟨r', id', u', he, -, hu', hreq, -⟩
    · rw [user_of_reached hu, Option.some.injEq] at hbefore
      rw [hbefore] at hwait
      cases hwait
    · cases he
      rw [user_of_reached hu, Option.some.injEq] at hu'
      rw [hu', hreq]
  · intro h k x hx hauth
    rw [user, husers] at hx
    cases hr : p.reached r with
    | none =>
      rw [hr] at hx
      exact .inl hx
    | some u =>
      simp only [hr] at hx
      rcases update_some hx with ⟨rfl, hnew⟩ | ⟨-, hx⟩
      · split at hnew
        · next hok =>
            cases hnew
            cases hw : u.isAuthOk with
            | true =>
              -- an authenticated record is left as it is
              left
              rw [user_of_reached hr, ← hw]
            | false =>
              exact .inr ⟨r, id, u, rfl, hok, user_of_reached hr, h hok u hr hw, rfl⟩
        · cases hnew
      · exact .inl hx

/-- **A step authenticates genuinely exactly if the response it brings is meant for the record it
    reaches.** -/
theorem genuine_iff (H : Md5) (p : CPortalManager) (e : Event) : Genuine H p e ↔ Meant p e := by
  cases e with
  | authResponse r id => exact genuine_authResponse_iff
  | input addrRecv msg msgsize am =>
    refine ⟨fun _ => trivial, fun _ k x hx hauth => .inl ?_⟩
    simp only [next, step, handleInput] at hx
    split at hx
    · exact hx
    split at hx
    · exact hx
    rcases rcvData_users hx with h | h
    · exact h
    · rw [h] at hauth
      cases hauth
  | kickUser userip vrf =>
    refine ⟨fun _ => trivial, fun _ k x hx hauth => .inl ?_⟩
    have hremoved : (p.usrmgr.removeUser userip vrf).users k = some x := by
      simp only [next, step, onKickUserNotify] at hx
      split at hx
      · exact hx
      split at hx
      · exact hx
      · exact hx
    rcases update_some hremoved with ⟨-, hx⟩ | ⟨-, hx⟩
    · cases hx
    · exact hx

/-- **A run authenticates genuinely, step by step, exactly if every accepting response that
    reaches a waiting record answers that record's request.** -/
theorem genuine_iff_meant (H : Md5) (p : CPortalManager) (es : List Event) :
    Along (next H) (Genuine H) p es ↔ Along (next H) Meant p es :=
  along_congr (genuine_iff H) p es

instance (p : CPortalManager) (e : Event) : Decidable (Meant p e) :=
  match e with
  | .authResponse r id =>
    decidable_of_iff
      (r.authResult = 0 → ∀ u ∈ (p.reached r).toList, u.isAuthOk = false → u.request = some id)
      (by simp only [Option.mem_toList]; rfl)
  | .input .. => isTrue trivial
  | .kickUser .. => isTrue trivial

/-- A portal that serves every server in version 1. -/
def examplePortal : CPortalManager where
  serverCfg _ := some { version := PORTAL_VERSION_ONE, key := [] }

/-- A request of version 1 for the user 10.0.0.1. -/
def exampleInput (code : UInt8) : Event :=
  .input (0x0a000002, 50100) [1, code, 1, 0, 0, 1, 0, 0, 10, 0, 0, 1, 0, 0, 0, 0] 16 true

/-- **The response to an attempt that was logged out authenticates the attempt that took its
    place.** -/
theorem stale_response_authenticates :
    ¬ Along (next .utils) (Genuine .utils) examplePortal
      [exampleInput PORTAL_REQ_AUTHEN, exampleInput PORTAL_REQ_LOGOUT,
        exampleInput PORTAL_REQ_AUTHEN,
        .authResponse { userIp := 0x0a000001, authResult := 0 } 0] := fun h =>
  absurd ((along_congr (genuine_iff _) _ _).mp h) (by decide +kernel)

end CPortalManager

end OpenBras
