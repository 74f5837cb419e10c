/-
  RcnetServer.Protocol.ClientLife

  The protocol between the server and one client, without its messages.

  A connection is opened once and closed once.  In between the client is taken
  through the handshake, the authentication and the declaration that it is ready,
  and each stage needs the one before it: the guards stand in the steps.  What a
  stage grants is never withdrawn (`ClientLife.Before`); the only thing that can
  be lost is the established secure session, when a later hello cannot be
  attested.
-/

import Mathlib.Logic.Relation
import RcnetServer.State

namespace RcnetServer

-- ============================================================================
-- The protocol
-- ============================================================================

/-- How far a connected client has got. -/
structure ClientProgress where
  /-- A hello of the connection has been answered with SUCCESS. -/
  accepted : Bool := false
  established : Bool := false
  encrypted : Bool := false
  authStatus : AuthStatus := .none
  /-- The account id and the username the backend gave. -/
  account : UInt64 × String := (0, "")
  ready : Bool := false
deriving DecidableEq

/-- The life of one connection id. -/
inductive ClientLife
  | fresh
  | live (progress : ClientProgress)
  | closed
deriving DecidableEq

namespace ClientLife

/-- The steps of the protocol, each with the stage it needs. -/
inductive Step : ClientLife → ClientLife → Prop
  | connect : Step .fresh (.live {})
  | helloAccepted (p : ClientProgress) :
      Step (.live p) (.live { p with accepted := true, established := true })
  | attestationFailed (p : ClientProgress) : Step (.live p) (.live { p with established := false })
  /-- The SUCCESS response to a hello is acknowledged. -/
  | acknowledged (p : ClientProgress) (answered : p.accepted = true) :
      Step (.live p) (.live { p with encrypted := true })
  | authRequested (p : ClientProgress) (secure : p.encrypted = true)
      (first : p.authStatus = .none) :
      Step (.live p) (.live { p with authStatus := .waitingAuth })
  | granted (p : ClientProgress) (account : UInt64 × String)
      (asked : p.authStatus = .waitingAuth) :
      Step (.live p) (.live { p with authStatus := .valid, account := account })
  | refused (p : ClientProgress) (asked : p.authStatus = .waitingAuth) :
      Step (.live p) (.live { p with authStatus := .invalid })
  | ready (p : ClientProgress) (valid : p.authStatus = .valid) :
      Step (.live p) (.live { p with ready := true })
  | disconnect (p : ClientProgress) : Step (.live p) .closed

end ClientLife

-- ============================================================================
-- The stages are in order
-- ============================================================================

/-- Each stage rests on the one before it. -/
structure ClientProgress.Ordered (p : ClientProgress) : Prop where
  handshake : p.encrypted = true → p.accepted = true
  authentication : p.authStatus ≠ .none → p.encrypted = true
  readiness : p.ready = true → p.authStatus = .valid
  identity : p.authStatus ≠ .valid → p.account = (0, "")

/-- A connected client is `Ordered`. -/
def ClientLife.Ordered : ClientLife → Prop
  | .fresh => True
  | .live p => p.Ordered
  | .closed => True

theorem ClientProgress.Ordered.start : ({} : ClientProgress).Ordered where
  handshake := by simp
  authentication := by simp
  readiness := by simp
  identity := by simp

/-- A step keeps the stages in order. -/
theorem ClientLife.Ordered.step {x y : ClientLife} (hx : x.Ordered) (h : ClientLife.Step x y) :
    y.Ordered := by
  cases h with
  | connect => exact ClientProgress.Ordered.start
  | helloAccepted p => exact { hx with handshake := fun _ => rfl }
  | attestationFailed p => exact ⟨hx.handshake, hx.authentication, hx.readiness, hx.identity⟩
  | acknowledged p answered =>
      exact ⟨fun _ => answered, fun _ => rfl, hx.readiness, hx.identity⟩
  | authRequested p secure first =>
      refine ⟨hx.handshake, fun _ => secure, fun hready => ?_, fun _ => ?_⟩
      · -- a client that has not asked cannot be ready
        have hvalid := hx.readiness hready
        rw [first] at hvalid
        cases hvalid
      · exact hx.identity (by simp [first])
  | granted p account asked =>
      refine ⟨hx.handshake, fun _ => hx.authentication (by simp [asked]), fun _ => rfl, ?_⟩
      exact fun h => absurd rfl h
  | refused p asked =>
      refine ⟨hx.handshake, fun _ => hx.authentication (by simp [asked]), fun hready => ?_,
        fun _ => hx.identity (by simp [asked])⟩
      have hvalid := hx.readiness hready
      rw [asked] at hvalid
      cases hvalid
  | ready p valid => exact ⟨hx.handshake, hx.authentication, fun _ => valid, hx.identity⟩
  | disconnect p => trivial

-- ============================================================================
-- What is granted stays granted
-- ============================================================================

/-- The verdict has been given. -/
def AuthStatus.isSettled : AuthStatus → Bool
  | .none => false
  | .waitingAuth => false
  | .valid => true
  | .invalid => true

/-- `q` keeps every grant of `p`. -/
structure ClientProgress.Before (p q : ClientProgress) : Prop where
  accepted : p.accepted = true → q.accepted = true
  encrypted : p.encrypted = true → q.encrypted = true
  asked : p.authStatus ≠ .none → q.authStatus ≠ .none
  verdict : p.authStatus.isSettled = true → q.authStatus = p.authStatus ∧ q.account = p.account
  ready : p.ready = true → q.ready = true

theorem ClientProgress.Before.refl (p : ClientProgress) : p.Before p :=
  ⟨id, id, id, fun _ => ⟨rfl, rfl⟩, id⟩

theorem ClientProgress.Before.trans {p q r : ClientProgress} (h : p.Before q) (h' : q.Before r) :
    p.Before r where
  accepted := h'.accepted ∘ h.accepted
  encrypted := h'.encrypted ∘ h.encrypted
  asked := h'.asked ∘ h.asked
  verdict := fun hp => by
    obtain ⟨hstatus, haccount⟩ := h.verdict hp
    obtain ⟨hstatus', haccount'⟩ := h'.verdict (hstatus ▸ hp)
    exact ⟨hstatus'.trans hstatus, haccount'.trans haccount⟩
  ready := h'.ready ∘ h.ready

/-- A later point in the life of a connection. -/
def ClientLife.Before : ClientLife → ClientLife → Prop
  | .fresh, _ => True
  | .live p, .live q => p.Before q
  | .live _, .closed => True
  | .closed, .closed => True
  | _, _ => False

theorem ClientLife.Before.refl (x : ClientLife) : x.Before x := by
  cases x with
  | live p => exact ClientProgress.Before.refl p
  | _ => trivial

theorem ClientLife.Before.trans {x y z : ClientLife} (h : x.Before y) (h' : y.Before z) :
    x.Before z := by
  cases x with
  | fresh => trivial
  | live p =>
      cases y with
      | fresh => exact h.elim
      | live q =>
          cases z with
          | fresh => exact h'.elim
          | live r => exact ClientProgress.Before.trans h h'
          | closed => trivial
      | closed =>
          cases z with
          | closed => trivial
          | _ => exact h'.elim
  | closed =>
      cases y with
      | closed => exact h'
      | _ => exact h.elim

/-- A step leads forward. -/
theorem ClientLife.Step.before {x y : ClientLife} (h : ClientLife.Step x y) : x.Before y := by
  cases h with
  | connect => trivial
  | helloAccepted p => exact ⟨fun _ => rfl, id, id, fun _ => ⟨rfl, rfl⟩, id⟩
  | attestationFailed p => exact ⟨id, id, id, fun _ => ⟨rfl, rfl⟩, id⟩
  | acknowledged p => exact ⟨id, fun _ => rfl, id, fun _ => ⟨rfl, rfl⟩, id⟩
  | authRequested p secure first =>
      exact ⟨id, id, fun _ => by simp, fun h => by simp [first, AuthStatus.isSettled] at h, id⟩
  | granted p account asked =>
      exact ⟨id, id, fun _ => by simp, fun h => by simp [asked, AuthStatus.isSettled] at h, id⟩
  | refused p asked =>
      exact ⟨id, id, fun _ => by simp, fun h => by simp [asked, AuthStatus.isSettled] at h, id⟩
  | ready p => exact ⟨id, id, id, fun _ => ⟨rfl, rfl⟩, fun _ => rfl⟩
  | disconnect p => trivial

end RcnetServer
