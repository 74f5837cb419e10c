/-
  RcnetServer.Properties.ConnectionLifetime

  A connection is served while it is there, and only then.

  The two threads see the end of a connection at different times.  The simulation
  makes messages and requests for a connection between the CONNECT and the DISCONNECT
  that it has handled; the network thread hands packets of a connection to ENet
  between the CONNECT and the DISCONNECT that came in.  What the simulation still
  makes for a client that has left is never sent.
-/

import RcnetServer.Lib.Precedence
import RcnetServer.Properties.RequestResponse
import RcnetServer.Properties.SlotReuse
import RcnetServer.System.Rejections

namespace RcnetServer

variable {Peer : Type} [DecidableEq Peer] {platform : Platform} {s s' : System Peer}
  {a : Action Peer} {tr es : List (Event Peer)}

-- ============================================================================
-- One step
-- ============================================================================

/-- A step that makes, asks or sends something emits one event. -/
theorem System.Steps.events_cases (h : System.Steps platform s a s' es) :
    (∀ e ∈ es, e.produced = [] ∧ e.authRequests = [] ∧ e.calls = []) ∨ ∃ e, es = [e] := by
  cases h with
  | connect => exact Or.inl (by simp [Event.produced, Event.authRequests])
  | disconnect => exact Or.inl (by simp [Event.produced, Event.authRequests])
  | eventDropped => exact Or.inl fun e he => by cases he
  | disconnectUnknown => exact Or.inl fun e he => by cases he
  | beginOutgoing => exact Or.inl fun e he => by cases he
  | patchSnapshot => exact Or.inl fun e he => by cases he
  | endOutgoing => exact Or.inl fun e he => by cases he
  | beginTick => exact Or.inl fun e he => by cases he
  | drainHttp => exact Or.inl fun e he => by cases he
  | httpDrain => exact Or.inl fun e he => by cases he
  | stopHttp => exact Or.inl fun e he => by cases he
  | _ => exact Or.inr ⟨_, rfl⟩

omit [DecidableEq Peer] in
/-- Every message made is for a session of the table. -/
theorem System.Produces.session_found {m : SimulationToNetworkOUTMessage}
    (h : System.Produces platform s a m) (own : s.SessionsOwned) :
    ∃ x, s.networkState.sessions.lookup m.connectionId = some x := by
  cases h with
  | @client oracle msg rest m serial next made =>
      obtain ⟨hello, x, hmsg, hx, -⟩ := ServerSimulation.clientStep_out _ _ _ made
      have hc : msg.connectionId = m.connectionId := by rw [hmsg]; rfl
      rw [hc] at hx
      exact ⟨x, hx⟩
  | @reply reply rest m serial next made =>
      unfold ServerSimulation.handleAuthValidateTokenResponseMessage at made
      cases hx : s.networkState.sessions.lookup reply.connectionId with
      | none => simp [hx] at made
      | some x =>
          simp only [hx, List.mem_singleton] at made
          rw [made]
          exact ⟨x, hx⟩
  | matchFlow perm made =>
      obtain ⟨-, -, -, ⟨c, x, hx, hc⟩, -⟩ := ServerSimulation.mem_checkMatchFlow made
      have hlookup := (AList.perm_lookup perm).symm.trans hx
      refine ⟨x, ?_⟩
      show s.networkState.sessions.lookup _ = some x
      rw [hc, (own c x hlookup).1]
      exact hlookup
  | snapshot perm made =>
      obtain ⟨serverTimeNs, x, hx, rfl⟩ := ServerSimulation.mem_createFullSnapshots made
      obtain ⟨c, hc⟩ := UnorderedMap.mem_values.mp hx
      have hlookup := (AList.perm_lookup perm).symm.trans hc
      refine ⟨x, ?_⟩
      show s.networkState.sessions.lookup x.connectionId = some x
      rw [(own c x hlookup).1]
      exact hlookup

/-- Every request is for a session of the table. -/
theorem System.Steps.request_session {e : Event Peer} (h : System.Steps platform s a s' [e])
    {request : SimulationToHttpMessage} (hrequest : request ∈ e.authRequests) :
    ∃ x, s.networkState.sessions.lookup request.connectionId = some x := by
  cases h with
  | @handleNetwork oracle m rest next phase pushed =>
      have hout := (ServerSimulation.processNetworkIncoming_client platform.kx oracle
        s.networkState m).2
      simp only [Event.authRequests, hout] at hrequest
      cases hx : s.networkState.sessions.lookup m.connectionId with
      | none =>
          rw [hx] at hrequest
          cases m <;> cases hrequest
      | some x =>
          rw [hx, ServerSimulation.clientStep_http] at hrequest
          split at hrequest
          · obtain ⟨packet, -, rfl⟩ := List.mem_map.mp hrequest
            exact ⟨x, hx⟩
          · cases hrequest
  | _ => cases hrequest

/-- The message whose packet a step hands to ENet. -/
theorem System.Steps.sent_message {e : Event Peer} (h : System.Steps platform s a s' [e])
    {p : Peer} {channel : NetworkChannel} {packet : ENetPacket Peer}
    (hsend : .peerSend p channel packet ∈ e.calls) :
    ∃ m calls, (e = .reliableHandled m calls ∨ e = .snapshotHandled m calls) ∧
      .peerSend p channel packet ∈ calls := by
  cases h with
  | sendReliable => exact ⟨_, _, Or.inl rfl, hsend⟩
  | skipSnapshot => cases hsend
  | sendSnapshot => exact ⟨_, _, Or.inr rfl, hsend⟩
  | acknowledgeIgnored => cases hsend
  | @acknowledge _ _ context q =>
      -- an ACK disconnects at most
      simp only [Event.calls, disconnectLaterIf] at hsend
      split at hsend
      · cases List.mem_singleton.mp hsend
      · cases hsend
  | _ => cases hsend

-- ============================================================================
-- Whole runs
-- ============================================================================

/-- What is done for a connection is done while it is there. -/
structure ServedWhileConnected (tr : List (Event Peer)) : Prop where
  /-- Messages are made for it between the CONNECT and the DISCONNECT handled. -/
  made : EachAfter (fun pre e => ∀ m ∈ e.produced,
    connectionPhase m.connectionId (handledLog pre) = .live) tr
  /-- So are the requests to the backend. -/
  asked : EachAfter (fun pre e => ∀ request ∈ e.authRequests,
    connectionPhase request.connectionId (handledLog pre) = .live) tr
  /-- Packets are sent to it between the CONNECT and the DISCONNECT that came in. -/
  sent : EachAfter (fun pre e => ∀ p channel packet, .peerSend p channel packet ∈ e.calls →
    ∃ m calls, (e = .reliableHandled m calls ∨ e = .snapshotHandled m calls) ∧
      connectionPhase m.connectionId (incomingLog pre) = .live) tr

/-- A connection is served while it is there, and only then. -/
theorem served_while_connected (hr : (server Peer platform).Reach s tr) (few : FewConnects tr) :
    ServedWhileConnected tr := by
  refine TraceMachine.Run.invariant_of_prefix
    (P := fun (_ : System Peer) (tr : List (Event Peer)) => ServedWhileConnected tr)
    (B := FewConnects) (fun _ _ h => h.of_append) ⟨.nil, .nil, .nil⟩ ?_ hr few
  rintro s tr a s' es hr ⟨hmade, hasked, hsent⟩ _ hs few
  have hsteps := System.step_cases hs
  have sessions := SessionInv.of_reach hr.reach few.of_append
  have table := TableInv.of_reach hr.reach few.of_append
  rcases hsteps.events_cases with hidle | ⟨e, rfl⟩
  · have hnone : ∀ pre x post, es = pre ++ x :: post →
        x.produced = [] ∧ x.authRequests = [] ∧ x.calls = [] :=
      fun pre x post heq => hidle x (heq ▸ List.mem_append_right _ List.mem_cons_self)
    refine ⟨hmade.append fun pre x post heq m hm => ?_,
      hasked.append fun pre x post heq request hm => ?_,
      hsent.append fun pre x post heq p channel packet hsend => ?_⟩
    · rw [(hnone pre x post heq).1] at hm
      cases hm
    · rw [(hnone pre x post heq).2.1] at hm
      cases hm
    · rw [(hnone pre x post heq).2.2] at hsend
      cases hsend
  · refine ⟨hmade.append_singleton fun m hm => ?_,
      hasked.append_singleton fun request hrequest => ?_,
      hsent.append_singleton fun p channel packet hsend => ?_⟩
    · rw [← producedLog_singleton] at hm
      obtain ⟨x, hx⟩ := (hsteps.produces hm).session_found (sessionsOwned_of_reach hr.reach)
      exact (sessions.live _).mp (by simp [hx])
    · obtain ⟨x, hx⟩ := hsteps.request_session hrequest
      exact (sessions.live _).mp (by simp [hx])
    · obtain ⟨m, calls, he, hmem⟩ := hsteps.sent_message hsend
      refine ⟨m, calls, he, (table.live _).mp ?_⟩
      have hslot := send_to_own_slot hr.reach few.of_append hs
        (he.imp (fun h => List.mem_singleton.mpr h.symm) (fun h => List.mem_singleton.mpr h.symm))
        hmem
      simp [hslot.1]

/-- The run that announces a start, whose one client is served. -/
theorem soloAnnounced_served :
    producedLog soloAnnouncedResult.2 ≠ [] ∧ ServedWhileConnected soloAnnouncedResult.2 := by
  have hmade : 0 < (producedLog soloAnnouncedResult.2).length := by decide +kernel
  exact ⟨List.ne_nil_of_length_pos hmade,
    served_while_connected soloAnnounced_reach soloAnnounced_few⟩

end RcnetServer
