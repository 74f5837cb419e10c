/-
  RcnetServer.System.KeyMaterial

  The key material of a session over whole runs: only the handling of a hello
  writes it, and every message that enables encryption on its ACK is somewhere
  between the simulation thread and ENet until that ACK.
-/

import RcnetServer.System.Handshake

namespace RcnetServer

/-- The client's public key and the two session keys. -/
def ClientSession.keyMaterial (session : ClientSession) : KxPublicKey × SessionKey × SessionKey :=
  (session.clientPublicKey, session.serverRxKey, session.serverTxKey)

/-- An input or ready packet, or an auth message writes its own fields only; the rest
    is what a hello writes. -/
theorem ServerSimulation.clientStep_eq {Peer : Type} {kx : KxServerSessionKeys}
    {oracle : HelloOracle} {networkState : NetworkState Peer} {m : NetworkINToSimulationMessage}
    {x y : ClientSession} (hkind : m.kind ≠ .opens)
    (h : (clientStep kx oracle networkState m (some x)).1 = some y) :
    (∃ status ready input acked pending, y =
      { x with
        authStatus := status
        isReadyForMatch := ready
        latestReceivedInputPacket := input
        clientLastAckedSnapshotId := acked
        pendingInputPacketsQueue := pending }) ∨
    ∃ hello, m = .clientSecureSessionHelloPacketReliable m.connectionId hello ∧
      y = (answerSecureSessionHello kx oracle networkState x hello).session := by
  cases m with
  | clientEventConnect c => exact absurd rfl hkind
  | clientEventDisconnect c => cases h
  | clientSecureSessionHelloPacketReliable c hello =>
      exact Or.inr ⟨hello, rfl, (Option.some.inj h).symm⟩
  | clientAuthPacketReliable c packet =>
      left
      simp only [clientStep] at h
      split at h
      · exact ⟨_, _, _, _, _, (Option.some.inj h).symm⟩
      · exact ⟨_, _, _, _, _, (Option.some.inj h).symm⟩
  | clientInputPacketUnreliable c packet =>
      left
      obtain ⟨pending, _, hsession⟩ := x.receiveInput_eq packet
      simp only [clientStep, hsession, Option.some.injEq] at h
      exact ⟨_, _, _, _, _, h.symm⟩
  | clientReadyForMatchPacketReliable c =>
      exact Or.inl ⟨_, _, _, _, _, (Option.some.inj h).symm⟩

/-- So a message keeps the key material, or it is a hello. -/
theorem ServerSimulation.clientStep_keyMaterial {Peer : Type} {kx : KxServerSessionKeys}
    {oracle : HelloOracle} {networkState : NetworkState Peer} {m : NetworkINToSimulationMessage}
    {x y : ClientSession} (hkind : m.kind ≠ .opens)
    (h : (clientStep kx oracle networkState m (some x)).1 = some y) :
    y.keyMaterial = x.keyMaterial ∨
    ∃ hello, m = .clientSecureSessionHelloPacketReliable m.connectionId hello ∧
      y = (answerSecureSessionHello kx oracle networkState x hello).session := by
  rcases clientStep_eq hkind h with ⟨_, _, _, _, _, rfl⟩ | hhello
  · exact Or.inl rfl
  · exact Or.inr hhello

variable {Peer : Type} [DecidableEq Peer] {platform : Platform} {s s' : System Peer}
  {a : Action Peer} {tr es : List (Event Peer)}

/-- A connection that has been named has its session before each step that leaves
    it one. -/
theorem System.Steps.session_before (h : System.Steps platform s a s' es)
    (hwf : WellFormedLog (handledLog (tr ++ es))) {c : ConnectionId}
    (hnamed : connectionPhase c (handledLog tr) ≠ .fresh) {y : ClientSession}
    (hy : s'.networkState.sessions.lookup c = some y) :
    ∃ x, s.networkState.sessions.lookup c = some x := by
  have hchange := h.session c
  rw [hy] at hchange
  cases hchange with
  | same kept => exact ⟨y, kept.symm⟩
  | @handled oracle m rest _ own next left =>
      rcases ServerSimulation.clientStep_session _ _ _ left with ⟨hkind, _⟩ | ⟨_, x, hx, _⟩
      · rw [handledLog_append, h.handledLog_eq next] at hwf
        have hfresh := Lifecycle.fresh_of_next (hwf m.connectionId) hkind
        rw [own] at hfresh
        exact absurd hfresh hnamed
      · exact ⟨x, hx⟩
  | @replied _ _ x _ _ found => exact ⟨x, found⟩
  | @encrypted _ _ _ x _ _ _ _ found => exact ⟨x, found⟩
  | @snapshot _ x found => exact ⟨x, found⟩

/-- A step keeps the key material of a session, or it handles a hello of it. -/
theorem System.Steps.keyMaterial (h : System.Steps platform s a s' es) (table : SessionInv s tr)
    (hwf : WellFormedLog (handledLog (tr ++ es))) {c : ConnectionId} {x y : ClientSession}
    (hx : s.networkState.sessions.lookup c = some x)
    (hy : s'.networkState.sessions.lookup c = some y) :
    y.keyMaterial = x.keyMaterial ∨
    ∃ oracle hello rest, a = .handleNetwork oracle ∧
      s.simulation.networkMessages = .clientSecureSessionHelloPacketReliable c hello :: rest ∧
      y = (ServerSimulation.answerSecureSessionHello platform.kx oracle s.networkState x
        hello).session := by
  have hchange := h.session c
  rw [hy] at hchange
  cases hchange with
  | same kept =>
      obtain rfl := Option.some.inj (kept.trans hx)
      exact Or.inl rfl
  | @handled oracle m rest _ own next left =>
      subst own
      have hkind := table.not_opens h hwf next hx
      rw [hx] at left
      rcases ServerSimulation.clientStep_keyMaterial hkind left with hsame | ⟨hello, hm, hy⟩
      · exact Or.inl hsame
      · exact Or.inr ⟨oracle, hello, rest, rfl, hm ▸ next, hy⟩
  | @replied reply _ z _ _ found =>
      obtain rfl := Option.some.inj (hx.symm.trans found)
      obtain ⟨_, _, _, _, _, hreply⟩ := x.applyAuthResponse_eq reply.authTokenVerificationResponse
      rw [hreply]
      exact Or.inl rfl
  | @encrypted _ _ _ z _ _ _ _ found =>
      obtain rfl := Option.some.inj (hx.symm.trans found)
      exact Or.inl rfl
  | @snapshot _ z found =>
      obtain rfl := Option.some.inj (hx.symm.trans found)
      exact Or.inl rfl

-- ============================================================================
-- Messages on their way
-- ============================================================================

/-- The messages made and neither acknowledged nor given up: owned by ENet, in
    the current pass, queued, or about to be pushed. -/
def System.outgoingMessages (s : System Peer) : List SimulationToNetworkOUTMessage :=
  s.inFlight.map (·.message) ++ s.network.reliableMessages ++ s.simToNet ++ s.simulation.outbox

omit [DecidableEq Peer] in
theorem System.outgoingMessages_produce (s : System Peer)
    (out : List SimulationToNetworkOUTMessage) :
    (s.produce out).outgoingMessages =
      s.outgoingMessages ++ System.stamp s.producedCount out := by
  simp [System.outgoingMessages, List.append_assoc]

/-- A message on its way after a step was so before it, or has just been made. -/
theorem System.Steps.mem_outgoingMessages (h : System.Steps platform s a s' es)
    {m : SimulationToNetworkOUTMessage} (hm : m ∈ s'.outgoingMessages) :
    m ∈ s.outgoingMessages ∨ m ∈ producedLog es := by
  have herase : ∀ i, m ∈ (s.inFlight.eraseIdx i).map (·.message) →
      m ∈ s.inFlight.map (·.message) := by
    intro i hi
    obtain ⟨owned, howned, rfl⟩ := List.mem_map.mp hi
    exact List.mem_map_of_mem (List.mem_of_mem_eraseIdx howned)
  cases h with
  | connect => exact Or.inl hm
  | disconnect => exact Or.inl hm
  | receive idle => exact Or.inl (by simpa [System.outgoingMessages, idle] using hm)
  | networkPush pushing => exact Or.inl (by simpa [System.outgoingMessages, pushing] using hm)
  | @acknowledgeIgnored i =>
      have hold := herase i
      simp only [System.outgoingMessages, List.mem_append] at hm ⊢
      exact Or.inl (by tauto)
  | @acknowledge i =>
      have hold := herase i
      simp only [System.outgoingMessages, List.mem_append] at hm ⊢
      exact Or.inl (by tauto)
  | @release i =>
      have hold := herase i
      simp only [System.outgoingMessages, List.mem_append] at hm ⊢
      exact Or.inl (by tauto)
  | beginOutgoing idle =>
      simp only [System.outgoingMessages, NetworkThread.reliableMessages, List.mem_append,
        splitReliable_reliableMessages, onlyReliable, List.mem_filter, List.not_mem_nil,
        or_false] at hm ⊢
      exact Or.inl (by tauto)
  | @sendReliable outcome prepared m' rest outgoing next =>
      simp only [System.outgoingMessages, NetworkThread.reliableMessages, List.map_append,
        List.mem_append] at hm
      simp only [System.outgoingMessages, outgoing, NetworkThread.reliableMessages, next,
        List.mem_append, List.mem_cons]
      rcases hm with (((hm | hm) | hm) | hm) | hm
      · exact Or.inl (by tauto)
      · obtain ⟨owned, howned, rfl⟩ := List.mem_map.mp hm
        have hmessage := (OutgoingInv.mem_acceptedPackets howned).1
        exact Or.inl (by tauto)
      all_goals exact Or.inl (by tauto)
  | skipSnapshot outgoing =>
      exact Or.inl (by simpa [System.outgoingMessages, outgoing, System.withoutSnapshot] using hm)
  | patchSnapshot outgoing =>
      exact Or.inl (by simpa [System.outgoingMessages, outgoing, System.withoutSnapshot] using hm)
  | sendSnapshot sending => exact Or.inl (by simpa [System.outgoingMessages, sending] using hm)
  | endOutgoing outgoing reliableDone =>
      exact Or.inl (by simpa [System.outgoingMessages, outgoing, reliableDone] using hm)
  | handleNetwork =>
      rw [System.outgoingMessages_produce] at hm
      exact (List.mem_append.mp hm).imp_right fun hm => by simpa using hm
  | handleHttp =>
      rw [System.outgoingMessages_produce] at hm
      exact (List.mem_append.mp hm).imp_right fun hm => by simpa using hm
  | checkMatchFlow =>
      rw [System.outgoingMessages_produce] at hm
      exact (List.mem_append.mp hm).imp_right fun hm => by simpa using hm
  | createSnapshots =>
      rw [System.outgoingMessages_produce] at hm
      exact (List.mem_append.mp hm).imp_right fun hm => by simpa using hm
  | simulationPush next =>
      simp only [System.outgoingMessages, List.mem_append, List.mem_singleton] at hm
      simp only [System.outgoingMessages, next, List.mem_append, List.mem_cons]
      exact Or.inl (by tauto)
  | _ => exact Or.inl hm

/-- An ACK shows the message of its packet. -/
theorem System.Steps.acknowledged_eq {i : Nat} (h : System.Steps platform s (.acknowledge i) s' es)
    {owned : OwnedPacket Peer} (inFlight : s.inFlight[i]? = some owned) :
    ∃ calls, es = [.acknowledged owned.message calls] := by
  cases h with
  | acknowledgeIgnored _ inFlight' =>
      obtain rfl := Option.some.inj (inFlight.symm.trans inFlight')
      exact ⟨_, rfl⟩
  | acknowledge _ inFlight' =>
      obtain rfl := Option.some.inj (inFlight.symm.trans inFlight')
      exact ⟨_, rfl⟩

end RcnetServer
