/-
  RcnetServer.Properties.ReliableStream

  What becomes of the reliable messages of a connection.

  The messages made for a connection are, in order, those a pass has handled and
  those on their way; what ENet is handed for it are the bytes of a subsequence of
  the handled ones, unchanged.  A message is left out for one of three reasons: its
  connection is gone, the gameplay guard holds it back, or ENet or the allocator
  refuses it.
-/

import RcnetServer.Properties.RequestResponse
import RcnetServer.Properties.WireContents

namespace RcnetServer

variable {Peer : Type}

-- ============================================================================
-- The stream
-- ============================================================================

/-- The packet a call hands to ENet. -/
def ENetCall.sentPacket : ENetCall Peer → Option (ENetPacket Peer)
  | .peerSend _ _ packet => some packet
  | _ => none

/-- The bytes of the reliable packets that a step hands to ENet for connection `c`. -/
def Event.reliableBytes (c : ConnectionId) : Event Peer → List (List UInt8)
  | .reliableHandled m calls =>
      if m.connectionId = c then (calls.filterMap ENetCall.sentPacket).map (·.data) else []
  | _ => []

/-- The bytes of the reliable packets handed to ENet for connection `c`, in order. -/
def reliableStream (c : ConnectionId) (tr : List (Event Peer)) : List (List UInt8) :=
  tr.flatMap (Event.reliableBytes c)

/-- The messages of connection `c`. -/
def ofConnection (c : ConnectionId) (messages : List SimulationToNetworkOUTMessage) :
    List SimulationToNetworkOUTMessage :=
  messages.filter fun m => m.connectionId = c

theorem ofConnection_append (c : ConnectionId)
    (messages messages' : List SimulationToNetworkOUTMessage) :
    ofConnection c (messages ++ messages') = ofConnection c messages ++ ofConnection c messages' :=
  List.filter_append _ _

/-- What is handed to ENet is part of what is handled. -/
theorem handedLog_sublist (tr : List (Event Peer)) : (handedLog tr).Sublist (reliableLog tr) := by
  induction tr with
  | nil => exact .slnil
  | cons e tr ih =>
      rw [handedLog_cons, reliableLog_cons]
      refine List.Sublist.append ?_ ih
      cases e with
      | reliableHandled m calls =>
          rw [Event.handed, Event.reliable]
          split
          · exact .refl _
          · exact List.nil_sublist _
      | _ => exact .slnil

/-- The packets sent are settled. -/
theorem sentPacket_sublist_settledPacket (calls : List (ENetCall Peer)) :
    (calls.filterMap ENetCall.sentPacket).Sublist (calls.filterMap ENetCall.settledPacket) := by
  induction calls with
  | nil => exact .slnil
  | cons call calls ih =>
      cases call with
      | peerSend => exact ih.cons_cons _
      | packetDestroy => exact ih.cons _
      | _ => exact ih

/-- A handled message is handed to ENet at most once, with the bytes it was made with. -/
theorem sentBytes_handleReliableMessage (networkState : NetworkState Peer)
    (peers : ENetPeers Peer) (m : SimulationToNetworkOUTMessage) (outcome : SendOutcome) :
    ((ServerNetworkOutgoing.handleReliableMessage networkState peers m outcome).calls.filterMap
        ENetCall.sentPacket).map (·.data) =
      (Event.reliableHandled m (ServerNetworkOutgoing.handleReliableMessage networkState peers m
        outcome).calls : Event Peer).handed.map (·.serializedPacket) := by
  set calls := (ServerNetworkOutgoing.handleReliableMessage networkState peers m outcome).calls
    with hcalls
  have hsettled : CallsSettled calls :=
    ServerNetworkOutgoing.callsSettled_handleReliableMessage m
  have hlength : (calls.filterMap ENetCall.sentPacket).length ≤ 1 :=
    (sentPacket_sublist_settledPacket calls).length_le.trans
      (hsettled.packets.trans_le hsettled.single)
  have hdata : ∀ packet ∈ calls.filterMap ENetCall.sentPacket,
      packet.data = m.serializedPacket := by
    intro packet hpacket
    obtain ⟨call, hcall, hsent⟩ := List.mem_filterMap.mp hpacket
    cases call with
    | peerSend p channel sent =>
        obtain rfl := Option.some.inj hsent
        obtain ⟨_, _, _, _, hpacket, _⟩ :=
          ServerNetworkOutgoing.peerSend_mem_handleReliableMessage (hcalls ▸ hcall)
        exact hpacket.data
    | _ => cases hsent
  have hany : calls.any ENetCall.isPeerSend = true ↔ calls.filterMap ENetCall.sentPacket ≠ [] := by
    rw [List.any_eq_true, Ne, List.filterMap_eq_nil_iff]
    push Not
    refine exists_congr fun call => and_congr_right fun _ => ?_
    cases call <;> simp [ENetCall.isPeerSend, ENetCall.sentPacket]
  rw [Event.handed]
  cases hsent : calls.filterMap ENetCall.sentPacket with
  | nil =>
      rw [if_neg (fun h => hany.mp h hsent)]
      rfl
  | cons packet rest =>
      rw [hsent] at hlength hdata
      rw [if_pos (hany.mpr (by simp [hsent]))]
      obtain rfl : rest = [] := List.length_eq_zero_iff.mp (by simpa using hlength)
      simp [hdata packet]

/-- The stream of a connection carries the messages of it that were handed to ENet. -/
theorem reliableBytes_eq {c : ConnectionId} {m : SimulationToNetworkOUTMessage}
    (networkState : NetworkState Peer) (peers : ENetPeers Peer) (outcome : SendOutcome) :
    (Event.reliableHandled m (ServerNetworkOutgoing.handleReliableMessage networkState peers m
        outcome).calls : Event Peer).reliableBytes c =
      (ofConnection c (Event.reliableHandled m (ServerNetworkOutgoing.handleReliableMessage
        networkState peers m outcome).calls : Event Peer).handed).map (·.serializedPacket) := by
  rw [Event.reliableBytes, sentBytes_handleReliableMessage, Event.handed]
  by_cases hc : m.connectionId = c
  · rw [if_pos hc]
    split <;> simp [ofConnection, hc]
  · rw [if_neg hc]
    split <;> simp [ofConnection, hc]

-- ============================================================================
-- Why a message is not sent
-- ============================================================================

/-- Why ENet is not handed the packet of a reliable message. -/
inductive NotHanded (networkState : NetworkState Peer) (peers : ENetPeers Peer)
    (m : SimulationToNetworkOUTMessage) (outcome : SendOutcome) : Prop
  /-- The connection is not in the table any more. -/
  | gone (peer : ServerNetworkOutgoing.findPeerByConnectionId networkState m.connectionId = none)
  /-- A message of the match, held back by the gameplay guard of its own peer. -/
  | guarded {p : Peer}
      (peer : ServerNetworkOutgoing.findPeerByConnectionId networkState m.connectionId = some p)
      (type : m.type.isMatchPhase = true)
      (refused : ServerNetworkOutgoing.isPeerAllowedToSendPacket networkState peers (some p) true =
        false)
  | noPacket (created : outcome.packetCreated = false)
  | noContext (acts : (m.disconnectAfterAck || m.enableEncryptionAfterAck) = true)
      (allocated : outcome.contextAllocated = false)
  | refused (result : outcome.sendResult < 0)

section Sends

variable {networkState : NetworkState Peer} {peers : ENetPeers Peer} {p : Peer}
  {channel : NetworkChannel} {bytes : List UInt8}
  {disconnectAfterAck enableEncryptionAfterAck requireValidatedSession : Bool}
  {outcome : SendOutcome} {c : ConnectionId}

/-- The sender succeeds unless the guard, ENet or the allocator refuses. -/
theorem sendPacket_sends
    (allowed : ServerNetworkOutgoing.isPeerAllowedToSendPacket networkState peers (some p)
      requireValidatedSession = true)
    (id : tryGetConnectionIdFromPeer peers (some p) = some c)
    (created : outcome.packetCreated = true)
    (context : (disconnectAfterAck || enableEncryptionAfterAck) = true →
      outcome.contextAllocated = true)
    (accepted : 0 ≤ outcome.sendResult) :
    ∃ packet, .peerSend p channel packet ∈ (ServerNetworkOutgoing.sendPacket networkState peers
      (some p) channel bytes enetPacketFlagReliable disconnectAfterAck enableEncryptionAfterAck
      requireValidatedSession outcome).calls := by
  have hresult : ¬ outcome.sendResult < 0 := by omega
  by_cases hacts : (disconnectAfterAck || enableEncryptionAfterAck) = true
  · have hreliable : enetPacketFlagReliable ≠ 0 := by decide
    simp [ServerNetworkOutgoing.sendPacket, ServerNetworkOutgoing.submitPacket, allowed, created,
      hacts, hreliable, id, context hacts, hresult]
  · simp [ServerNetworkOutgoing.sendPacket, ServerNetworkOutgoing.submitPacket, allowed, created,
      hacts, hresult]

/-- A reliable message that is not handed to ENet has its reason. -/
theorem handed_or_notHanded {m : SimulationToNetworkOUTMessage}
    (hreliable : m.type.isReliable = true)
    (hids : ∀ q, ServerNetworkOutgoing.findPeerByConnectionId networkState m.connectionId = some q →
      tryGetConnectionIdFromPeer peers (some q) = some m.connectionId) :
    (∃ q channel packet, .peerSend q channel packet ∈
        (ServerNetworkOutgoing.handleReliableMessage networkState peers m outcome).calls) ∨
      NotHanded networkState peers m outcome := by
  cases hpeer : ServerNetworkOutgoing.findPeerByConnectionId networkState m.connectionId with
  | none => exact .inr (.gone hpeer)
  | some q =>
      have hid := hids q hpeer
      by_cases hcreated : outcome.packetCreated = false
      · exact .inr (.noPacket hcreated)
      by_cases hresult : outcome.sendResult < 0
      · exact .inr (.refused hresult)
      have hcreated : outcome.packetCreated = true := by simpa using hcreated
      have hresult : 0 ≤ outcome.sendResult := by omega
      by_cases hcontext : (m.disconnectAfterAck || m.enableEncryptionAfterAck) = true ∧
          outcome.contextAllocated = false
      · exact .inr (.noContext hcontext.1 hcontext.2)
      by_cases hguard : m.type.isMatchPhase = true ∧
          ServerNetworkOutgoing.isPeerAllowedToSendPacket networkState peers (some q) true = false
      · exact .inr (.guarded hpeer hguard.1 hguard.2)
      have hallocated : (m.disconnectAfterAck || m.enableEncryptionAfterAck) = true →
          outcome.contextAllocated = true := by
        intro hacts
        simpa [hacts] using hcontext
      have hallowed : m.type.isMatchPhase = true →
          ServerNetworkOutgoing.isPeerAllowedToSendPacket networkState peers (some q) true =
            true := by
        intro htype
        simpa [htype] using hguard
      refine .inl ⟨q, ?_⟩
      unfold ServerNetworkOutgoing.handleReliableMessage
      simp only [hpeer]
      cases htype : m.type with
      | serverSecureSessionHelloResponsePacketReliable =>
          exact ⟨_, sendPacket_sends rfl hid hcreated hallocated hresult⟩
      | serverAuthResponsePacketReliable =>
          refine ⟨_, sendPacket_sends rfl hid hcreated ?_ hresult⟩
          exact fun hacts => hallocated (by simpa using Or.inl hacts)
      | serverSnapshotFullPacketUnreliable => rw [htype] at hreliable; cases hreliable
      | serverClockSyncPacketUnreliable => rw [htype] at hreliable; cases hreliable
      | _ =>
          exact ⟨_, sendPacket_sends (hallowed (by rw [htype]; rfl)) hid hcreated
            (by simp) hresult⟩

end Sends

-- ============================================================================
-- Over a run
-- ============================================================================

variable [DecidableEq Peer] {platform : Platform} {s s' : System Peer} {a : Action Peer}
  {tr es : List (Event Peer)}

/-- The stream is the handed messages of the connection, byte for byte. -/
theorem reliableStream_eq (hr : (server Peer platform).Reach s tr) (c : ConnectionId) :
    reliableStream c tr = (ofConnection c (handedLog tr)).map (·.serializedPacket) := by
  refine TraceMachine.Run.invariant
    (P := fun (_ : System Peer) (tr : List (Event Peer)) =>
      reliableStream c tr = (ofConnection c (handedLog tr)).map (·.serializedPacket)) rfl ?_ hr
  intro s tr a s' es _ ih _ hs
  rw [reliableStream, List.flatMap_append, handedLog_append, ofConnection_append, List.map_append]
  refine congrArg₂ _ ih ?_
  cases System.step_cases hs with
  | sendReliable =>
      simpa using reliableBytes_eq (c := c) s.networkState s.peers _
  | _ => rfl

/-- Each reliable message of a run is handled, in order, or on its way; the bytes ENet
    gets for a connection are those of a subsequence of the handled ones; and a
    message that ENet does not get has its reason. -/
theorem reliable_messages_accounted (hr : (server Peer platform).Reach s tr)
    (few : FewConnects tr) (c : ConnectionId) :
    ofConnection c (onlyReliable (producedLog tr)) =
        ofConnection c (reliableLog tr) ++ ofConnection c s.unsentReliable ∧
      (∃ handed : List SimulationToNetworkOUTMessage,
        handed.Sublist (ofConnection c (reliableLog tr)) ∧
          reliableStream c tr = handed.map (·.serializedPacket)) ∧
      ∀ outcome s' es m, s.step platform (.sendReliable outcome) = some (s', es) →
        m ∈ reliableLog es → m ∈ handedLog es ∨ NotHanded s.networkState s.peers m outcome := by
  refine ⟨?_, ⟨_, (handedLog_sublist tr).filter _, reliableStream_eq hr c⟩, ?_⟩
  · rw [(OutgoingInv.of_reach hr).fifo, List.append_assoc, ofConnection_append,
      System.unsentReliable]
  · intro outcome s' es m hs hm
    cases System.step_cases hs with
    | @sendReliable _ prepared m' rest outgoing next =>
        obtain rfl : m = m' := by simpa using hm
        have table := TableInv.of_reach hr few
        have hreliable : m.type.isReliable = true := by
          have hmem : m ∈ onlyReliable (producedLog tr) := by
            rw [(OutgoingInv.of_reach hr).fifo, outgoing]
            simp [next]
          exact (List.mem_filter.mp hmem).2
        refine (handed_or_notHanded hreliable ?_).imp_left mem_handedLog_singleton.mpr
        intro q hq
        obtain ⟨hc, hdata⟩ :=
          (table.bound _ q).mp (ContextInv.findPeerByConnectionId_eq_some hq)
        exact tryGetConnectionIdFromPeer_of_data hdata hc

/-- In the run with two clients ENet was handed four of the six messages of the one and three
    of the five of the other; the guard held back what came before the verdicts. -/
theorem duoStarted_stream :
    (((ofConnection 1 (reliableLog duoStartedResult.2)).length,
        (ofConnection 2 (reliableLog duoStartedResult.2)).length) = (6, 5) ∧
      ((reliableStream 1 duoStartedResult.2).length,
        (reliableStream 2 duoStartedResult.2).length) = (4, 3)) ∧
    ∀ c, ∃ handed : List SimulationToNetworkOUTMessage,
      handed.Sublist (ofConnection c (reliableLog duoStartedResult.2)) ∧
        reliableStream c duoStartedResult.2 = handed.map (·.serializedPacket) := by
  refine ⟨⟨by decide +kernel, by decide +kernel⟩, fun c => ?_⟩
  obtain ⟨_, hhanded, _⟩ := reliable_messages_accounted duoStarted_reach duoStarted_few c
  exact hhanded

end RcnetServer
