/-
  RcnetServer.Properties.SlotReuse

  A packet and its ACK stay with the connection they were made for, whatever
  happens to the peer slot in between.
-/

import RcnetServer.System.Sending

namespace RcnetServer

variable {Peer : Type} [DecidableEq Peer] {platform : Platform} {s s' : System Peer}
  {tr es : List (Event Peer)} {a : Action Peer}

/-- Slot `p` is the slot of connection `c`, by the table and by the slot itself. -/
def SlotOf (s : System Peer) (c : ConnectionId) (p : Peer) : Prop :=
  s.networkState.connectionIdToEnetPeer.lookup c = some (some p) ∧
    (s.peers p).data = dataOfConnectionId c

/-- From `networkState` to `networkState'` only encryption flags of `c` change. -/
structure OnlyEncryptionOf (c : ConnectionId) (networkState networkState' : NetworkState Peer) :
    Prop where
  rest : networkState' =
    { networkState with
      connectionIdToEncryptionEnabled := networkState'.connectionIdToEncryptionEnabled
      sessions := networkState'.sessions }
  flags : ∀ c', c' ≠ c → networkState'.connectionIdToEncryptionEnabled.lookup c' =
    networkState.connectionIdToEncryptionEnabled.lookup c'
  sessions : ∀ c', c' ≠ c →
    networkState'.sessions.lookup c' = networkState.sessions.lookup c'
  own : ∃ flag : Bool → Bool, networkState'.sessions.lookup c =
    (networkState.sessions.lookup c).map fun session =>
      { session with isPacketEncryptionEnabled := flag session.isPacketEncryptionEnabled }

omit [DecidableEq Peer] in
theorem OnlyEncryptionOf.refl (c : ConnectionId) (networkState : NetworkState Peer) :
    OnlyEncryptionOf c networkState networkState where
  rest := rfl
  flags := fun _ _ => rfl
  sessions := fun _ _ => rfl
  own := ⟨id, by simp⟩

omit [DecidableEq Peer] in
theorem OnlyEncryptionOf.enable (c : ConnectionId) (networkState : NetworkState Peer) :
    OnlyEncryptionOf c networkState (networkState.enableEncryption c) where
  rest := rfl
  flags := by
    intro c' hc'
    simp [NetworkState.enableEncryption, hc']
  sessions := by
    intro c' hc'
    rw [NetworkState.lookup_enableEncryption, if_neg hc']
  own := by
    refine ⟨fun _ => true, ?_⟩
    rw [NetworkState.lookup_enableEncryption, if_pos rfl]

-- ============================================================================
-- Sends
-- ============================================================================

omit [DecidableEq Peer] in
theorem slotOf_of_table {log : List NetworkINToSimulationMessage}
    (table : TableInv s.peers s.networkState log) {c : ConnectionId} {p : Peer}
    (h : s.networkState.connectionIdToEnetPeer.lookup c = some (some p)) : SlotOf s c p :=
  ⟨h, ((table.bound c p).mp h).2⟩

/-- A packet handed to ENet goes to the slot of its message's connection. -/
theorem send_to_own_slot (hr : (server Peer platform).Reach s tr) (few : FewConnects tr)
    (hs : s.step platform a = some (s', es)) {m : SimulationToNetworkOUTMessage}
    {calls : List (ENetCall Peer)}
    (he : Event.reliableHandled m calls ∈ es ∨ Event.snapshotHandled m calls ∈ es)
    {p : Peer} {channel : NetworkChannel} {packet : ENetPacket Peer}
    (hsend : .peerSend p channel packet ∈ calls) : SlotOf s m.connectionId p := by
  have table := TableInv.of_reach hr few
  have contexts := ContextInv.of_reach hr few
  cases System.step_cases hs with
  | sendReliable =>
      simp only [List.mem_singleton, Event.reliableHandled.injEq, reduceCtorEq, or_false] at he
      obtain ⟨rfl, rfl⟩ := he
      obtain ⟨hpeer, _⟩ := ServerNetworkOutgoing.peerSend_mem_handleReliableMessage hsend
      exact slotOf_of_table table (ContextInv.findPeerByConnectionId_eq_some hpeer)
  | skipSnapshot =>
      simp only [List.mem_singleton, Event.snapshotHandled.injEq, reduceCtorEq, false_or] at he
      obtain ⟨rfl, rfl⟩ := he
      cases hsend
  | sendSnapshot sending =>
      simp only [List.mem_singleton, Event.snapshotHandled.injEq, reduceCtorEq, false_or] at he
      obtain ⟨rfl, rfl⟩ := he
      obtain ⟨hpeer, _⟩ := ServerNetworkOutgoing.peerSend_mem_sendPacket hsend
      obtain rfl := Option.some.inj hpeer
      exact slotOf_of_table table (contexts.snapshotPeer _ _ _ _ sending)
  | _ => simp at he

-- ============================================================================
-- ACKs
-- ============================================================================

/-- What an ACK for a packet of connection `c` may do between two states. -/
structure AcknowledgesOnly (c : ConnectionId) (s s' : System Peer)
    (calls : List (ENetCall Peer)) : Prop where
  rest : s' = { s with networkState := s'.networkState, inFlight := s'.inFlight }
  encryption : OnlyEncryptionOf c s.networkState s'.networkState
  disconnect : ∀ call ∈ calls, ∃ p, call = .peerDisconnectLater p ∧ SlotOf s c p
  ended : s.networkState.connectionIdToEnetPeer.lookup c = none →
    s'.networkState = s.networkState ∧ calls = []

theorem acknowledges_only (hr : (server Peer platform).Reach s tr) (few : FewConnects tr)
    (hs : s.step platform a = some (s', es)) {m : SimulationToNetworkOUTMessage}
    {calls : List (ENetCall Peer)} (he : Event.acknowledged m calls ∈ es) :
    AcknowledgesOnly m.connectionId s s' calls := by
  have table := TableInv.of_reach hr few
  have contexts := ContextInv.of_reach hr few
  cases System.step_cases hs with
  | acknowledgeIgnored =>
      simp only [List.mem_singleton, Event.acknowledged.injEq] at he
      obtain ⟨rfl, rfl⟩ := he
      exact ⟨rfl, .refl _ _, by simp, fun _ => ⟨rfl, rfl⟩⟩
  | @acknowledge i owned context p idle inFlight userData peer bound =>
      simp only [List.mem_singleton, Event.acknowledged.injEq] at he
      obtain ⟨rfl, rfl⟩ := he
      -- the context names the connection of the message, which is still bound to `p`
      have hid := (contexts.context owned (List.mem_of_getElem? inFlight) context userData).1
      rw [hid] at bound
      refine ⟨rfl, ?_, ?_, ?_⟩
      · simp only [hid]
        split
        · exact .enable _ _
        · exact .refl _ _
      · intro call hcall
        unfold disconnectLaterIf at hcall
        split at hcall
        · exact ⟨p, List.mem_singleton.mp hcall, slotOf_of_table table bound.table⟩
        · cases hcall
      · intro hnone
        rw [bound.table] at hnone
        cases hnone
  | _ => simp at he

/-- Slot reuse never crosses connections: packets go to the slot of their own
    connection, and an ACK acts on its own connection or not at all. -/
theorem slot_reuse_never_crosses (hr : (server Peer platform).Reach s tr) (few : FewConnects tr)
    (hs : s.step platform a = some (s', es)) :
    (∀ m calls, Event.reliableHandled m calls ∈ es ∨ Event.snapshotHandled m calls ∈ es →
      ∀ p channel packet, .peerSend p channel packet ∈ calls → SlotOf s m.connectionId p) ∧
    (∀ m calls, Event.acknowledged m calls ∈ es → AcknowledgesOnly m.connectionId s s' calls) :=
  ⟨fun _ _ he _ _ _ hsend => send_to_own_slot hr few hs he hsend,
    fun _ _ he => acknowledges_only hr few hs he⟩

/-- The response of connection 1 is sent, then its slot is given to connection 2. -/
def slotReuseRun : List (Action Unit) :=
  [.soloConnect] ++ Action.soloHello 7 ++
    [.beginTick 1, .drainHttp, .handleNetwork signingOracle, .handleNetwork signingOracle,
      .simulationPush, .beginOutgoing, .sendReliable {}, .endOutgoing, .soloDisconnect,
      .soloConnect]

theorem slotReuseRun_runs :
    ((server Unit soloPlatform).exec (fun _ _ _ => True) slotReuseRun).isSome = true := by
  decide +kernel

/-- The state and the trace of the run. -/
def slotReuseRunResult : System Unit × List (Event Unit) :=
  ((server Unit soloPlatform).exec (fun _ _ _ => True) slotReuseRun).get slotReuseRun_runs

/-- The ACK of connection 1, arriving now, leaves connection 2 alone. -/
theorem slotReuse_late_acknowledgement :
    ∃ s' es m calls, slotReuseRunResult.1.step soloPlatform (.acknowledge 0) = some (s', es) ∧
      Event.acknowledged m calls ∈ es ∧ m.connectionId = 1 ∧
      s'.networkState = slotReuseRunResult.1.networkState ∧ calls = [] := by
  have hr : (server Unit soloPlatform).Reach slotReuseRunResult.1 slotReuseRunResult.2 :=
    TraceMachine.run_get slotReuseRun_runs
  have few : FewConnects slotReuseRunResult.2 := by
    unfold FewConnects
    decide +kernel
  have hstep : (slotReuseRunResult.1.step soloPlatform (.acknowledge 0)).isSome = true := by
    decide +kernel
  have hmessage : (slotReuseRunResult.1.inFlight[0]?).map (fun owned => owned.message.connectionId)
      = some 1 := by decide +kernel
  obtain ⟨⟨s', es⟩, hs⟩ := Option.isSome_iff_exists.mp hstep
  obtain ⟨owned, calls, hinFlight, rfl⟩ : ∃ owned calls,
      slotReuseRunResult.1.inFlight[0]? = some owned ∧
        es = [.acknowledged owned.message calls] := by
    cases System.step_cases hs with
    | acknowledgeIgnored _ inFlight => exact ⟨_, _, inFlight, rfl⟩
    | acknowledge _ inFlight => exact ⟨_, _, inFlight, rfl⟩
  rw [hinFlight] at hmessage
  have hid : owned.message.connectionId = 1 := Option.some.inj hmessage
  have honly := (slot_reuse_never_crosses hr few hs).2 owned.message calls
    (List.mem_singleton.mpr rfl)
  have hended : slotReuseRunResult.1.networkState.connectionIdToEnetPeer.lookup 1 = none := by
    decide +kernel
  obtain ⟨hstate, hcalls⟩ := honly.ended (hid ▸ hended)
  exact ⟨s', _, owned.message, calls, hs, List.mem_singleton.mpr rfl, hid, hstate, hcalls⟩

end RcnetServer
