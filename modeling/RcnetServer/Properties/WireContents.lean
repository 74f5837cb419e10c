/-
  RcnetServer.Properties.WireContents

  What the server puts on the wire, over whole runs.

  Every message of the simulation carries the serialization of a packet of its own
  kind (`SimulationToNetworkOUTMessage.Carries`).  A pass sends these bytes on the
  channel of the kind, and a snapshot only after it has been decoded and written
  again.  So whatever is handed to ENet in a run is a packet that the client can
  decode in one way only, on the channel and with the flags of its kind, and never
  larger than the payload the sender warns about.
-/

import RcnetServer.Properties.MatchInit
import RcnetServer.Properties.ReliableWireFormat
import RcnetServer.System.Rejections

namespace RcnetServer

/-- `kServerNetworkOutgoingPayloadMaxBytes`. -/
def serverNetworkOutgoingPayloadMaxBytes : Nat := 508

-- ============================================================================
-- Kinds and channels
-- ============================================================================

/-- The queue message that carries a packet. -/
def ServerReliablePacket.messageType : ServerReliablePacket → SimulationToNetworkOUTMessageType
  | .secureSessionHelloResponse _ => .serverSecureSessionHelloResponsePacketReliable
  | .authResponse _ => .serverAuthResponsePacketReliable
  | .matchInit _ => .serverMatchInitPacketReliable
  | .worldStaticStateInit _ => .serverWorldStaticStateInitPacketReliable
  | .matchStart _ => .serverMatchStartPacketReliable

/-- The channel the sending routine of a kind uses. -/
def SimulationToNetworkOUTMessageType.channel :
    SimulationToNetworkOUTMessageType → NetworkChannel
  | .serverSecureSessionHelloResponsePacketReliable => .secureSessionReliable
  | .serverAuthResponsePacketReliable => .authReliable
  | .serverMatchInitPacketReliable => .gameReliable
  | .serverWorldStaticStateInitPacketReliable => .gameReliable
  | .serverMatchStartPacketReliable => .gameReliable
  | .serverSnapshotFullPacketUnreliable => .gameUnreliable
  | .serverClockSyncPacketUnreliable => .gameUnreliable

/-- A packet on the wire: a reliable one on the channel of its kind, or a snapshot. -/
inductive OnWire {Peer : Type} : NetworkChannel → ENetPacket Peer → Prop
  | reliable {packet : ENetPacket Peer} (p : ServerReliablePacket) (own : p.HasOwnType)
      (fits : p.MapNameFits) (bytes : p.serialize = some packet.data)
      (flags : packet.flags = enetPacketFlagReliable) : OnWire p.messageType.channel packet
  | snapshot {packet : ENetPacket Peer} (p : ServerSnapshotFullPacketUnreliable)
      (own : p.type = .serverSnapshotFullPacketUnreliable)
      (bytes : serializeServerSnapshotFullPacketUnreliable p = packet.data)
      (flags : packet.flags = 0) : OnWire .gameUnreliable packet

/-- Equal bytes, equal packets. -/
theorem ServerReliablePacket.eq_of_serialize {p q : ServerReliablePacket} {bytes : List UInt8}
    (hp : p.HasOwnType) (hpname : p.MapNameFits) (hq : q.HasOwnType) (hqname : q.MapNameFits)
    (h : p.serialize = some bytes) (h' : q.serialize = some bytes) : p = q := by
  obtain ⟨x, rfl, hx⟩ := exists_fields hp hpname
  obtain ⟨y, rfl, hy⟩ := exists_fields hq hqname
  rw [encodeReliable_isPrefixCode.injective
    (Option.some.inj (hx.symm.trans (h.trans (h'.symm.trans hy))))]

/-- The bytes of a reliable packet determine it. -/
theorem OnWire.unique {Peer : Type} {channel : NetworkChannel} {packet : ENetPacket Peer}
    (h : OnWire channel packet) (hflags : packet.flags = enetPacketFlagReliable) :
    ∃! p : ServerReliablePacket, p.HasOwnType ∧ p.MapNameFits ∧
      p.serialize = some packet.data ∧ p.messageType.channel = channel := by
  cases h with
  | reliable p own fits bytes _ =>
      refine ⟨p, ⟨own, fits, bytes, rfl⟩, ?_⟩
      rintro q ⟨hown, hfits, hbytes, _⟩
      exact ServerReliablePacket.eq_of_serialize hown hfits own fits hbytes bytes
  | snapshot p _ _ flags =>
      rw [flags] at hflags
      exact absurd hflags (by decide)

-- ============================================================================
-- Sizes
-- ============================================================================

theorem length_serializeHelloResponse (p : ServerSecureSessionHelloResponsePacketReliable) :
    (serializeServerSecureSessionHelloResponsePacketReliable p).length = 130 := by
  simp [serializeServerSecureSessionHelloResponsePacketReliable, ByteWriter.buffer_writeU8,
    ByteWriter.buffer_writeU64, ByteWriter.buffer_writeBytes]

theorem length_serializeAuthResponse (p : ServerAuthResponsePacketReliable) :
    (serializeServerAuthResponsePacketReliable p).length = 2 := by
  simp [serializeServerAuthResponsePacketReliable, ByteWriter.buffer_writeU8]

theorem length_serializeWorldStaticStateInit (p : ServerWorldStaticStateInitPacketReliable) :
    (serializeServerWorldStaticStateInitPacketReliable p).length = 1 := by
  simp [serializeServerWorldStaticStateInitPacketReliable, ByteWriter.buffer_writeU8]

theorem length_serializeMatchStart (p : ServerMatchStartPacketReliable) :
    (serializeServerMatchStartPacketReliable p).length = 29 := by
  simp [serializeServerMatchStartPacketReliable, ByteWriter.buffer_writeU8,
    ByteWriter.buffer_writeU32, ByteWriter.buffer_writeU64]

theorem length_serializeSnapshotFull (p : ServerSnapshotFullPacketUnreliable) :
    (serializeServerSnapshotFullPacketUnreliable p).length = 25 := by
  simp [serializeServerSnapshotFullPacketUnreliable_eq]

/-- Only the map name of a MATCH_INIT varies in length. -/
theorem length_serializeMatchInit {p : ServerMatchInitPacketReliable}
    (hfits : p.mapName.length ≤ 65535) :
    ((serializeServerMatchInitPacketReliable p).getD []).length = p.mapName.length + 31 := by
  simp only [serializeServerMatchInitPacketReliable, ByteWriter.writeString_of_le _ hfits,
    Option.getD_some, ByteWriter.buffer_writeU8, ByteWriter.buffer_writeU16,
    ByteWriter.buffer_writeU32, ByteWriter.buffer_writeU64, ByteWriter.buffer_writeBytes,
    List.length_append, List.length_nil, List.length_singleton, BigEndian.length_bytes16,
    BigEndian.length_bytes32, BigEndian.length_bytes64]
  omega

-- ============================================================================
-- What the simulation makes
-- ============================================================================

/-- A message carries a packet of its own kind, of a size the sender accepts without
    a warning. -/
structure SimulationToNetworkOUTMessage.Carries (m : SimulationToNetworkOUTMessage) : Prop where
  packet : m.type.isReliable = true → ∃ p : ServerReliablePacket, p.HasOwnType ∧ p.MapNameFits ∧
    p.messageType = m.type ∧ p.serialize = some m.serializedPacket
  size : m.serializedPacket.length ≤ serverNetworkOutgoingPayloadMaxBytes

variable {Peer : Type}

namespace ServerSimulation

/-- The response to a hello has the type of a hello response. -/
theorem answerSecureSessionHello_response_type (kx : KxServerSessionKeys) (oracle : HelloOracle)
    (networkState : NetworkState Peer) (session : ClientSession)
    (hello : ClientSecureSessionHelloPacketReliable) :
    (answerSecureSessionHello kx oracle networkState session hello).response.type =
      .serverSecureSessionHelloResponsePacketReliable := by
  rcases answerSecureSessionHello_cases kx oracle networkState session hello with
    ⟨_, h⟩ | ⟨_, _, _, _, h⟩ | ⟨_, _, _, _, h⟩
  · rw [h]
  · rw [h]
    rfl
  · rw [h]
    rfl

theorem carries_of_clientStep {kx : KxServerSessionKeys} {oracle : HelloOracle}
    {networkState : NetworkState Peer} {m : NetworkINToSimulationMessage}
    {session? : Option ClientSession} {out : SimulationToNetworkOUTMessage}
    (hout : out ∈ (clientStep kx oracle networkState m session?).2.1) : out.Carries := by
  obtain ⟨hello, x, _, _, hanswer⟩ := clientStep_out kx oracle networkState hout
  rw [hanswer]
  refine ⟨fun _ => ⟨.secureSessionHelloResponse _, ?_, trivial, rfl, rfl⟩, ?_⟩
  · exact answerSecureSessionHello_response_type kx oracle networkState x hello
  · simp [SecureSessionAnswer.outMessage, length_serializeHelloResponse,
      serverNetworkOutgoingPayloadMaxBytes]

theorem carries_of_reply {networkState : NetworkState Peer} {reply : HttpToSimulationMessage}
    {out : SimulationToNetworkOUTMessage}
    (hout : out ∈ (handleAuthValidateTokenResponseMessage networkState reply).2) :
    out.Carries := by
  unfold handleAuthValidateTokenResponseMessage at hout
  split at hout
  · cases hout
  · obtain rfl := List.mem_singleton.mp hout
    refine ⟨fun _ => ⟨.authResponse _, ?_, trivial, rfl, rfl⟩, ?_⟩
    · rfl
    · simp [length_serializeAuthResponse, serverNetworkOutgoingPayloadMaxBytes]

section MatchFlow

variable {engine : Engine} {config : ServerConfig} {clock : Nat → UInt64}
  {networkState : NetworkState Peer} {currentTick : UInt64} {gameState : GameState}
  {m : SimulationToNetworkOUTMessage}

theorem carries_matchInitMessage (serverTimeNs : UInt64) (session : ClientSession) :
    (matchInitMessage engine currentTick serverTimeNs session).Carries := by
  have hfits : (matchInitPacket engine currentTick serverTimeNs).mapName.length ≤ 65535 := by
    show exampleMapName.length ≤ 65535
    decide
  obtain ⟨bytes, hbytes⟩ :=
    Option.isSome_iff_exists.mp (serializeMatchInit_isSome engine currentTick serverTimeNs)
  refine ⟨fun _ => ⟨.matchInit (matchInitPacket engine currentTick serverTimeNs), rfl, hfits, rfl,
    ?_⟩, ?_⟩
  · simp [ServerReliablePacket.serialize, matchInitMessage, hbytes]
  · rw [matchInitMessage, length_serializeMatchInit hfits]
    show exampleMapName.length + 31 ≤ 508
    decide

theorem carries_of_checkMatchFlow
    (hm : m ∈ (checkMatchFlow engine config clock networkState currentTick gameState).2) :
    m.Carries := by
  by_cases hsize : UnorderedMap.size networkState.sessions < config.maxClientsConnected
  · rw [checkMatchFlow_of_lt hsize] at hm
    cases hm
  · rw [checkMatchFlow_of_le (by omega)] at hm
    rcases List.mem_append.mp hm with hm | hm
    · rcases List.mem_append.mp hm with hm | hm
      · obtain ⟨_, session, _, serverTimeNs, rfl⟩ := mem_sendMatchInit hm
        exact carries_matchInitMessage serverTimeNs session
      · obtain ⟨_, session, _, rfl⟩ := mem_sendWorldStaticStateInit hm
        refine ⟨fun _ => ⟨.worldStaticStateInit _, rfl, trivial, rfl, rfl⟩, ?_⟩
        simp [worldStaticStateInitMessage, length_serializeWorldStaticStateInit,
          serverNetworkOutgoingPayloadMaxBytes]
    · obtain ⟨_, _, session, _, _, _, rfl, _⟩ := mem_sendMatchStart hm
      refine ⟨fun _ => ⟨.matchStart _, ?_, trivial, rfl, rfl⟩, ?_⟩
      · rfl
      · simp [matchStartMessage, length_serializeMatchStart,
          serverNetworkOutgoingPayloadMaxBytes]

theorem carries_of_createFullSnapshots
    (hm : m ∈ createFullSnapshotsForAllSessionsAndEnqueueForNetworkOutgoing clock networkState
      currentTick) : m.Carries := by
  obtain ⟨serverTimeNs, session, _, rfl⟩ := mem_createFullSnapshots hm
  refine ⟨fun hreliable => absurd hreliable Bool.false_ne_true, ?_⟩
  simp [createFullSnapshotAndEnqueue, length_serializeSnapshotFull,
    serverNetworkOutgoingPayloadMaxBytes]

end MatchFlow

end ServerSimulation

variable [DecidableEq Peer] {platform : Platform} {s s' : System Peer} {a : Action Peer}
  {tr es : List (Event Peer)}

/-- Every message made in a run carries its own packet. -/
theorem carries_of_produced (hr : (server Peer platform).Reach s tr)
    {m : SimulationToNetworkOUTMessage} (hm : m ∈ producedLog tr) : m.Carries := by
  refine TraceMachine.Run.invariant (P := fun _ tr => ∀ m ∈ producedLog tr, m.Carries) (by simp) ?_
    hr m hm
  intro s tr a s' es _ ih _ hs m hm
  rw [producedLog_append] at hm
  rcases List.mem_append.mp hm with hm | hm
  · exact ih m hm
  · -- numbering a message leaves what it carries
    have hnumber : ∀ (m : SimulationToNetworkOUTMessage) (serial : Nat), m.Carries →
        { m with serial := serial }.Carries := fun _ _ h => ⟨h.packet, h.size⟩
    cases (System.step_cases hs).produces hm with
    | client _ made => exact hnumber _ _ (ServerSimulation.carries_of_clientStep made)
    | reply _ made => exact hnumber _ _ (ServerSimulation.carries_of_reply made)
    | matchFlow _ made => exact hnumber _ _ (ServerSimulation.carries_of_checkMatchFlow made)
    | snapshot _ made => exact hnumber _ _ (ServerSimulation.carries_of_createFullSnapshots made)

-- ============================================================================
-- What the network thread sends
-- ============================================================================

section Channel

omit [DecidableEq Peer]

variable {networkState : NetworkState Peer} {peers : ENetPeers Peer} {p q : Peer}
  {channel ch : NetworkChannel} {bytes : List UInt8} {flags : UInt32}
  {disconnectAfterAck enableEncryptionAfterAck requireValidatedSession : Bool}
  {outcome : SendOutcome} {made : List (ENetCall Peer)} {packet sentPacket : ENetPacket Peer}

namespace ServerNetworkOutgoing

theorem submitPacket_channel (hmade : ENetCall.peerSend q ch sentPacket ∉ made)
    (h : .peerSend q ch sentPacket ∈
      (submitPacket made disconnectAfterAck p channel packet outcome).calls) : ch = channel := by
  unfold submitPacket at h
  split at h
  · exact absurd h (peerSend_not_mem_giveUpPacket hmade)
  · simp only [List.mem_append, hmade, List.mem_singleton, ENetCall.peerSend.injEq,
      false_or] at h
    exact h.2.1

/-- A packet ENet accepts has the channel and the flags asked for. -/
theorem sendPacket_channel {peer : Option Peer}
    (h : .peerSend q ch packet ∈ (sendPacket networkState peers peer channel bytes flags
      disconnectAfterAck enableEncryptionAfterAck requireValidatedSession outcome).calls) :
    ch = channel ∧ packet.flags = flags := by
  cases peer with
  | none => simp [sendPacket] at h
  | some p =>
      simp only [sendPacket] at h
      split at h
      · cases h
      · split at h
        · cases h
        · split at h
          · cases hid : tryGetConnectionIdFromPeer peers (some p) with
            | none =>
                rw [hid] at h
                exact absurd h (peerSend_not_mem_giveUpPacket (by simp))
            | some connectionId =>
                simp only [hid] at h
                split at h
                · exact absurd h (peerSend_not_mem_giveUpPacket (by simp))
                · obtain ⟨_, rfl⟩ := peerSend_mem_submitPacket (by simp) h
                  exact ⟨submitPacket_channel (by simp) h, rfl⟩
          · obtain ⟨_, rfl⟩ := peerSend_mem_submitPacket (by simp) h
            exact ⟨submitPacket_channel (by simp) h, rfl⟩

/-- A reliable message is sent on the channel of its kind. -/
theorem handleReliableMessage_channel {msg : SimulationToNetworkOUTMessage}
    (h : .peerSend q ch packet ∈ (handleReliableMessage networkState peers msg outcome).calls) :
    msg.type.isReliable = true ∧ ch = msg.type.channel ∧ packet.flags = enetPacketFlagReliable := by
  unfold handleReliableMessage at h
  split at h
  · cases h
  · cases htype : msg.type <;> simp only [htype] at h
    case serverSnapshotFullPacketUnreliable => cases h
    case serverClockSyncPacketUnreliable => cases h
    all_goals exact ⟨rfl, sendPacket_channel h⟩

/-- What is left of a snapshot after it has been patched is again a snapshot. -/
theorem patched_serialize {networkState' : NetworkState Peer}
    {msg : SimulationToNetworkOUTMessage}
    (h : patchSnapshotFullMessage networkState msg = (networkState', some bytes)) :
    ∃ p : ServerSnapshotFullPacketUnreliable, p.type = .serverSnapshotFullPacketUnreliable ∧
      serializeServerSnapshotFullPacketUnreliable p = bytes := by
  unfold patchSnapshotFullMessage at h
  split at h
  · cases h
  · split at h
    · cases h
    · rename_i packet hpacket
      split at h
      · cases h
      · rename_i session _
        obtain rfl := Option.some.inj (Prod.mk.inj h).2
        have htype := type_of_deserializeServerSnapshotFullPacketUnreliable hpacket
        exact ⟨{ packet with snapshotId := session.allocateSnapshotId.serverLastSentSnapshotId },
          htype, rfl⟩

end ServerNetworkOutgoing

end Channel

/-- The bytes about to be sent are a snapshot. -/
theorem sendingSnapshot_serialize (hr : (server Peer platform).Reach s tr) {p : Peer}
    {m : SimulationToNetworkOUTMessage} {bytes : List UInt8}
    {prepared : ServerNetworkOutgoingPreparedMessages}
    (h : s.network = .sendingSnapshot p m bytes prepared) :
    ∃ packet : ServerSnapshotFullPacketUnreliable,
      packet.type = .serverSnapshotFullPacketUnreliable ∧
      serializeServerSnapshotFullPacketUnreliable packet = bytes := by
  refine TraceMachine.Run.invariant
    (P := fun (s : System Peer) _ => ∀ p m bytes prepared,
      s.network = .sendingSnapshot p m bytes prepared →
      ∃ packet : ServerSnapshotFullPacketUnreliable,
        packet.type = .serverSnapshotFullPacketUnreliable ∧
        serializeServerSnapshotFullPacketUnreliable packet = bytes)
    (by simp [server, System.init]) ?_ hr p m bytes prepared h
  intro s tr a s' es _ ih _ hs p m bytes prepared hnetwork
  cases System.step_cases hs with
  | patchSnapshot _ _ _ _ _ patched =>
      obtain ⟨rfl, rfl, rfl, rfl⟩ := NetworkThread.sendingSnapshot.inj hnetwork
      exact ServerNetworkOutgoing.patched_serialize patched
  | connect idle => exact ih p m bytes prepared hnetwork
  | disconnect idle => exact ih p m bytes prepared hnetwork
  | _ => first | exact ih p m bytes prepared hnetwork | cases hnetwork

/-- What is handed to ENet is the packet of a reliable message that was made, on the
    channel of its kind, or a snapshot. -/
theorem peerSend_cases (hr : (server Peer platform).Reach s tr) {e : Event Peer} (he : e ∈ tr)
    {p : Peer} {channel : NetworkChannel} {packet : ENetPacket Peer}
    (hsend : .peerSend p channel packet ∈ e.calls) :
    (∃ m ∈ producedLog tr, m.type.isReliable = true ∧ channel = m.type.channel ∧
      packet.flags = enetPacketFlagReliable ∧ packet.data = m.serializedPacket) ∨
    (channel = .gameUnreliable ∧ packet.flags = 0 ∧
      ∃ snapshot : ServerSnapshotFullPacketUnreliable,
        snapshot.type = .serverSnapshotFullPacketUnreliable ∧
        serializeServerSnapshotFullPacketUnreliable snapshot = packet.data) := by
  refine TraceMachine.Run.invariant
    (P := fun (_ : System Peer) (tr : List (Event Peer)) => ∀ e ∈ tr, ∀ p channel packet,
      .peerSend p channel packet ∈ e.calls →
      (∃ m ∈ producedLog tr, m.type.isReliable = true ∧ channel = m.type.channel ∧
        packet.flags = enetPacketFlagReliable ∧ packet.data = m.serializedPacket) ∨
      (channel = .gameUnreliable ∧ packet.flags = 0 ∧
        ∃ snapshot : ServerSnapshotFullPacketUnreliable,
          snapshot.type = .serverSnapshotFullPacketUnreliable ∧
          serializeServerSnapshotFullPacketUnreliable snapshot = packet.data))
    (by simp) ?_ hr e he p channel packet hsend
  intro s tr a s' es hr ih _ hs e he p channel packet hsend
  rcases List.mem_append.mp he with he | he
  · refine (ih e he p channel packet hsend).imp_left ?_
    rintro ⟨m, hm, h⟩
    rw [producedLog_append]
    exact ⟨m, List.mem_append_left _ hm, h⟩
  · have hr' := hr.reach.next hs
    cases System.step_cases hs with
    | @sendReliable _ prepared m rest outgoing next =>
        obtain rfl := List.mem_singleton.mp he
        obtain ⟨hreliable, hchannel, hflags⟩ :=
          ServerNetworkOutgoing.handleReliableMessage_channel hsend
        obtain ⟨_, _, _, _, hsent, _, _⟩ :=
          ServerNetworkOutgoing.peerSend_mem_handleReliableMessage hsend
        refine Or.inl ⟨m, ?_, hreliable, hchannel, hflags, hsent.data⟩
        exact (OutgoingInv.of_reach hr').produced_of_reliableLog (by simp)
    | sendSnapshot sending =>
        obtain rfl := List.mem_singleton.mp he
        obtain ⟨snapshot, hown, hbytes⟩ := sendingSnapshot_serialize hr.reach sending
        obtain ⟨hchannel, hflags⟩ := ServerNetworkOutgoing.sendPacket_channel hsend
        have hdata := (ServerNetworkOutgoing.peerSend_mem_sendPacket hsend).2.data
        exact Or.inr ⟨hchannel, hflags, snapshot, hown, hbytes.trans hdata.symm⟩
    | acknowledge =>
        obtain rfl := List.mem_singleton.mp he
        exact absurd hsend peerSend_not_mem_disconnectLaterIf
    | skipSnapshot =>
        obtain rfl := List.mem_singleton.mp he
        cases hsend
    | acknowledgeIgnored =>
        obtain rfl := List.mem_singleton.mp he
        cases hsend
    | _ => simp at he <;> (rcases he with rfl | rfl) <;> cases hsend

/-- Whatever a run hands to ENet is a packet of the protocol: a reliable one on the
    channel of its kind, which its bytes determine, or a snapshot; and it is never
    larger than the payload the sender warns about. -/
theorem sent_packets_are_on_wire (hr : (server Peer platform).Reach s tr) {e : Event Peer}
    (he : e ∈ tr) {p : Peer} {channel : NetworkChannel} {packet : ENetPacket Peer}
    (hsend : .peerSend p channel packet ∈ e.calls) :
    OnWire channel packet ∧
    (packet.flags = enetPacketFlagReliable →
      ∃! p : ServerReliablePacket, p.HasOwnType ∧ p.MapNameFits ∧
        p.serialize = some packet.data ∧ p.messageType.channel = channel) ∧
    packet.data.length ≤ serverNetworkOutgoingPayloadMaxBytes := by
  rcases peerSend_cases hr he hsend with
    ⟨m, hm, hreliable, rfl, hflags, hdata⟩ | ⟨rfl, hflags, snapshot, hown, hbytes⟩
  · have hcarries := carries_of_produced hr hm
    obtain ⟨q, hown, hfits, htype, hbytes⟩ := hcarries.packet hreliable
    have hwire : OnWire m.type.channel packet :=
      htype ▸ .reliable q hown hfits (hdata ▸ hbytes) hflags
    exact ⟨hwire, hwire.unique, hdata ▸ hcarries.size⟩
  · have hwire : OnWire .gameUnreliable packet := .snapshot snapshot hown hbytes hflags
    refine ⟨hwire, hwire.unique, ?_⟩
    rw [← hbytes, length_serializeSnapshotFull]
    decide

/-- The hello response of the solo run is on the wire. -/
theorem soloAnnounced_on_wire :
    ∃ e ∈ soloAnnouncedResult.2, ∃ p channel packet, .peerSend p channel packet ∈ e.calls ∧
      OnWire channel packet ∧ packet.data.length ≤ serverNetworkOutgoingPayloadMaxBytes := by
  have hsent : (soloAnnouncedResult.2.any fun e => e.calls.any ENetCall.isPeerSend) = true := by
    decide +kernel
  obtain ⟨e, he, hcalls⟩ := List.any_eq_true.mp hsent
  obtain ⟨call, hcall, hkind⟩ := List.any_eq_true.mp hcalls
  cases call with
  | peerSend p channel packet =>
      obtain ⟨hwire, _, hsize⟩ := sent_packets_are_on_wire soloAnnounced_reach he hcall
      exact ⟨e, he, p, channel, packet, hcall, hwire, hsize⟩
  | _ => cases hkind

end RcnetServer
