/-
  RcnetServer.System.Logs

  The logs a trace contains, and the life of a connection in a message log.

  `incomingLog` is what the network thread made of ENet events, `pushedLog` what
  it has pushed, `handledLog` what the simulation thread has handled.  Each
  message opens (CONNECT), uses (a packet) or closes (DISCONNECT) its connection.
-/

import RcnetServer.Lib.Lifecycle
import RcnetServer.System

namespace RcnetServer

/-- What a message does to its connection. -/
def NetworkINToSimulationMessage.kind : NetworkINToSimulationMessage → LifecycleKind
  | clientEventConnect _ => .opens
  | clientEventDisconnect _ => .closes
  | clientSecureSessionHelloPacketReliable _ _ => .uses
  | clientAuthPacketReliable _ _ => .uses
  | clientInputPacketUnreliable _ _ => .uses
  | clientReadyForMatchPacketReliable _ => .uses

/-- Only packets are received. -/
theorem ServerNetworkIncoming.Guarded.kind {sessions : Sessions}
    {m : NetworkINToSimulationMessage} (h : ServerNetworkIncoming.Guarded sessions m) :
    m.kind = .uses := by
  cases m <;> first | rfl | exact h.elim

/-- How far the life of connection `c` has got in a message log. -/
abbrev connectionPhase (c : ConnectionId) (log : List NetworkINToSimulationMessage) :
    LifecyclePhase :=
  Lifecycle.phase NetworkINToSimulationMessage.connectionId NetworkINToSimulationMessage.kind c log

/-- Every connection of the log is CONNECT, then packets, then at most one
    DISCONNECT. -/
abbrev WellFormedLog (log : List NetworkINToSimulationMessage) : Prop :=
  Lifecycle.WellFormed NetworkINToSimulationMessage.connectionId
    NetworkINToSimulationMessage.kind log

/-- One more message moves the phase of its own connection. -/
theorem connectionPhase_append_self (log : List NetworkINToSimulationMessage)
    {m : NetworkINToSimulationMessage} {c : ConnectionId} (h : m.connectionId = c) :
    connectionPhase c (log ++ [m]) = Lifecycle.next (connectionPhase c log) m.kind := by
  subst h
  exact Lifecycle.phase_append_self log m

/-- It leaves the other connections where they are. -/
theorem connectionPhase_append_of_ne (log : List NetworkINToSimulationMessage)
    {m : NetworkINToSimulationMessage} {c : ConnectionId} (h : m.connectionId ≠ c) :
    connectionPhase c (log ++ [m]) = connectionPhase c log :=
  Lifecycle.phase_append_of_ne log h

/-- The number of CONNECT messages. -/
def connectCount (log : List NetworkINToSimulationMessage) : Nat :=
  log.countP fun m => m.kind = .opens

@[simp] theorem connectCount_nil : connectCount [] = 0 := rfl

@[simp] theorem connectCount_append (log log' : List NetworkINToSimulationMessage) :
    connectCount (log ++ log') = connectCount log + connectCount log' :=
  List.countP_append

theorem connectCount_singleton (m : NetworkINToSimulationMessage) :
    connectCount [m] = if m.kind = .opens then 1 else 0 := by
  simp [connectCount, List.countP_cons]

variable {Peer : Type}

-- ============================================================================
-- The logs of a trace
-- ============================================================================

namespace Event

@[simp] def incomingMessage : Event Peer → Option NetworkINToSimulationMessage
  | .incoming m _ => some m
  | _ => none

@[simp] def pushedMessage : Event Peer → Option NetworkINToSimulationMessage
  | .networkPushed m => some m
  | _ => none

@[simp] def handledMessage : Event Peer → Option NetworkINToSimulationMessage
  | .networkHandled m _ _ => some m
  | _ => none

end Event

/-- The messages the network thread made of ENet events. -/
def incomingLog (tr : List (Event Peer)) : List NetworkINToSimulationMessage :=
  tr.filterMap Event.incomingMessage

/-- The messages pushed to the simulation's queue. -/
def pushedLog (tr : List (Event Peer)) : List NetworkINToSimulationMessage :=
  tr.filterMap Event.pushedMessage

/-- The messages the simulation thread has handled. -/
def handledLog (tr : List (Event Peer)) : List NetworkINToSimulationMessage :=
  tr.filterMap Event.handledMessage

section Append

variable (tr es : List (Event Peer)) (e : Event Peer)

@[simp] theorem incomingLog_nil : incomingLog ([] : List (Event Peer)) = [] := rfl
@[simp] theorem pushedLog_nil : pushedLog ([] : List (Event Peer)) = [] := rfl
@[simp] theorem handledLog_nil : handledLog ([] : List (Event Peer)) = [] := rfl

@[simp] theorem incomingLog_append : incomingLog (tr ++ es) = incomingLog tr ++ incomingLog es :=
  List.filterMap_append

@[simp] theorem pushedLog_append : pushedLog (tr ++ es) = pushedLog tr ++ pushedLog es :=
  List.filterMap_append

@[simp] theorem handledLog_append : handledLog (tr ++ es) = handledLog tr ++ handledLog es :=
  List.filterMap_append

@[simp] theorem incomingLog_cons :
    incomingLog (e :: es) = e.incomingMessage.toList ++ incomingLog es := by
  cases e <;> rfl

@[simp] theorem pushedLog_cons : pushedLog (e :: es) = e.pushedMessage.toList ++ pushedLog es := by
  cases e <;> rfl

@[simp] theorem handledLog_cons :
    handledLog (e :: es) = e.handledMessage.toList ++ handledLog es := by
  cases e <;> rfl

end Append

theorem mem_handledLog {tr : List (Event Peer)} {m : NetworkINToSimulationMessage} :
    m ∈ handledLog tr ↔ ∃ out http, Event.networkHandled m out http ∈ tr := by
  rw [handledLog, List.mem_filterMap]
  constructor
  · rintro ⟨e, he, hm⟩
    cases e with
    | networkHandled m' out http =>
        obtain rfl : m' = m := Option.some.inj hm
        exact ⟨out, http, he⟩
    | _ => simp at hm
  · rintro ⟨out, http, he⟩
    exact ⟨_, he, rfl⟩

/-- Fewer than 2^32 - 1 CONNECT events: the id counter has not wrapped. -/
def FewConnects (tr : List (Event Peer)) : Prop :=
  connectCount (incomingLog tr) < 2 ^ 32 - 1

theorem FewConnects.of_append {tr es : List (Event Peer)} (h : FewConnects (tr ++ es)) :
    FewConnects tr := by
  simp only [FewConnects, incomingLog_append, connectCount_append] at h ⊢
  omega

end RcnetServer
