/-
  RcnetServer.Properties.SnapshotPatching

  Patching a snapshot changes its id and nothing else.

  The network thread decodes a snapshot the simulation made, allocates its id and
  encodes it again.  Decoder and encoder are inverse to each other, so of the bytes it
  passes on only the four of the id are new.
-/

import RcnetServer.Network.Outgoing
import RcnetServer.Network.Parsers

namespace RcnetServer

section Snapshots

variable {Peer : Type} {b : List UInt8} {packet : ServerSnapshotFullPacketUnreliable}

/-- A well-formed full snapshot is what the serializer makes of a packet of that type. -/
def WellFormedSnapshot (b : List UInt8) : Prop :=
  ∃ packet : ServerSnapshotFullPacketUnreliable,
    packet.type = .serverSnapshotFullPacketUnreliable ∧
      serializeServerSnapshotFullPacketUnreliable packet = b

/-- `b` with the four bytes of its snapshot id replaced. -/
def withSnapshotId (b : List UInt8) (snapshotId : UInt32) : List UInt8 :=
  b.take 1 ++ (BigEndian.bytes32 snapshotId ++ b.drop 5)

/-- The decoder undoes the encoder and nothing else. -/
theorem deserializeServerSnapshotFullPacketUnreliable_eq_some_iff (hsize : b.length < 2 ^ 64) :
    deserializeServerSnapshotFullPacketUnreliable b = some packet ↔
      packet.type = .serverSnapshotFullPacketUnreliable ∧
        serializeServerSnapshotFullPacketUnreliable packet = b := by
  rw [deserializeServerSnapshotFullPacketUnreliable_eq_run,
    ReadProgram.run_ofBytes_eq_some_iff serverSnapshotFullProgram_within (by decide) hsize]
  exact serverSnapshotFullProgram_accepts_iff

/-- Another id changes the bytes of the id only. -/
theorem serialize_withSnapshotId (packet : ServerSnapshotFullPacketUnreliable)
    (snapshotId : UInt32) :
    serializeServerSnapshotFullPacketUnreliable { packet with snapshotId := snapshotId } =
      withSnapshotId (serializeServerSnapshotFullPacketUnreliable packet) snapshotId := by
  simp only [serializeServerSnapshotFullPacketUnreliable_eq]
  rfl

/-- What the handler does with a snapshot it can decode, for a session. -/
theorem patchSnapshotFullMessage_of_wellFormed {networkState : NetworkState Peer}
    {msg : SimulationToNetworkOUTMessage} {session : ClientSession}
    (htype : msg.type = .serverSnapshotFullPacketUnreliable)
    (hb : WellFormedSnapshot msg.serializedPacket)
    (hsession : networkState.sessions.lookup msg.connectionId = some session) :
    ServerNetworkOutgoing.patchSnapshotFullMessage networkState msg =
      (networkState.setSession msg.connectionId session.allocateSnapshotId,
        some (withSnapshotId msg.serializedPacket session.serverNextSnapshotId)) := by
  obtain ⟨packet, hpacket, hbytes⟩ := hb
  have hdecoded := deserialize_serializeServerSnapshotFullPacketUnreliable hpacket
  rw [hbytes] at hdecoded
  simp only [ServerNetworkOutgoing.patchSnapshotFullMessage, htype, ne_eq, not_true_eq_false,
    if_false, hdecoded, hsession, serialize_withSnapshotId, hbytes]
  rfl

/-- What it does with anything else: nothing. -/
theorem patchSnapshotFullMessage_of_not {networkState : NetworkState Peer}
    {msg : SimulationToNetworkOUTMessage} (hsize : msg.serializedPacket.length < 2 ^ 64)
    (h : ¬ (WellFormedSnapshot msg.serializedPacket ∧
      (networkState.sessions.lookup msg.connectionId).isSome)) :
    ServerNetworkOutgoing.patchSnapshotFullMessage networkState msg = (networkState, none) := by
  unfold ServerNetworkOutgoing.patchSnapshotFullMessage
  split
  · rfl
  · cases hdecoded : deserializeServerSnapshotFullPacketUnreliable msg.serializedPacket with
    | none => rfl
    | some packet =>
        have hwell : WellFormedSnapshot msg.serializedPacket :=
          ⟨packet, (deserializeServerSnapshotFullPacketUnreliable_eq_some_iff hsize).mp hdecoded⟩
        cases hsession : networkState.sessions.lookup msg.connectionId with
        | none => rfl
        | some session => exact absurd ⟨hwell, by rw [hsession]; rfl⟩ h

/-- Decoder and encoder are inverse to each other.  For every SNAPSHOT message the handler
    calls the send routine exactly for a well-formed snapshot of a connection with a
    session; it passes the message's bytes with the session's next id in them, and
    otherwise leaves the state as it was. -/
theorem snapshot_patching_exact (networkState : NetworkState Peer)
    (msg : SimulationToNetworkOUTMessage)
    (htype : msg.type = .serverSnapshotFullPacketUnreliable)
    (hsize : msg.serializedPacket.length < 2 ^ 64) :
    let patched := ServerNetworkOutgoing.patchSnapshotFullMessage networkState msg
    (∀ packet : ServerSnapshotFullPacketUnreliable,
      packet.type = .serverSnapshotFullPacketUnreliable →
      deserializeServerSnapshotFullPacketUnreliable
        (serializeServerSnapshotFullPacketUnreliable packet) = some packet) ∧
    (∀ packet, deserializeServerSnapshotFullPacketUnreliable msg.serializedPacket = some packet →
      serializeServerSnapshotFullPacketUnreliable packet = msg.serializedPacket) ∧
    (patched.2.isSome ↔ WellFormedSnapshot msg.serializedPacket ∧
      (networkState.sessions.lookup msg.connectionId).isSome) ∧
    (∀ bytes, patched.2 = some bytes → ∃ session,
      networkState.sessions.lookup msg.connectionId = some session ∧
      bytes = withSnapshotId msg.serializedPacket session.serverNextSnapshotId ∧
      patched.1 = networkState.setSession msg.connectionId session.allocateSnapshotId) ∧
    (patched.2 = none → patched.1 = networkState) := by
  refine ⟨fun packet => deserialize_serializeServerSnapshotFullPacketUnreliable,
    fun packet hpacket =>
      ((deserializeServerSnapshotFullPacketUnreliable_eq_some_iff hsize).mp hpacket).2, ?_⟩
  by_cases h : WellFormedSnapshot msg.serializedPacket ∧
      (networkState.sessions.lookup msg.connectionId).isSome
  · obtain ⟨session, hsession⟩ := Option.isSome_iff_exists.mp h.2
    rw [patchSnapshotFullMessage_of_wellFormed htype h.1 hsession]
    refine ⟨⟨fun _ => h, fun _ => rfl⟩, ?_, ?_⟩
    · intro bytes hbytes
      exact ⟨session, hsession, (Option.some.inj hbytes).symm, rfl⟩
    · intro hnone
      cases hnone
  · rw [patchSnapshotFullMessage_of_not hsize h]
    refine ⟨⟨fun hsome => (by cases hsome), fun hwell => absurd hwell h⟩, ?_, fun _ => rfl⟩
    intro bytes hbytes
    cases hbytes

end Snapshots

/-- One session, whose next snapshot id is 7. -/
def numberedState : NetworkState Unit where
  sessions := (∅ : Sessions).insert 1 { connectionId := 1, serverNextSnapshotId := 7 }
  cryptoKxState :=
    { serverPublicKey := Vector.replicate 32 0, serverSecretKey := Vector.replicate 32 0 }
  cryptoSigningState := { identitySecretKey := Vector.replicate 64 0 }

/-- A snapshot for connection `c`, with all fields 0 but the last input processed. -/
def numberedSnapshot (c : ConnectionId) : SimulationToNetworkOUTMessage where
  type := .serverSnapshotFullPacketUnreliable
  connectionId := c
  serializedPacket := List.replicate 24 0 ++ [5]

/-- For the session it is sent with id 7; for another connection it is not sent. -/
theorem numberedSnapshot_patched :
    (ServerNetworkOutgoing.patchSnapshotFullMessage numberedState (numberedSnapshot 1)).2 =
      some ([0, 0, 0, 0, 7] ++ (List.replicate 19 0 ++ [5])) ∧
    (ServerNetworkOutgoing.patchSnapshotFullMessage numberedState (numberedSnapshot 2)).1 =
      numberedState := by
  have h1 := (snapshot_patching_exact numberedState (numberedSnapshot 1) rfl (by decide)).2.2.2.1
  have h2 := (snapshot_patching_exact numberedState (numberedSnapshot 2) rfl (by decide)).2.2.2.2
  refine ⟨?_, h2 (by decide)⟩
  have hsome : (ServerNetworkOutgoing.patchSnapshotFullMessage numberedState
      (numberedSnapshot 1)).2.isSome = true := by decide
  obtain ⟨bytes, hbytes⟩ := Option.isSome_iff_exists.mp hsome
  obtain ⟨session, hsession, rfl, _⟩ := h1 bytes hbytes
  have hfound : numberedState.sessions.lookup 1 =
      some { connectionId := 1, serverNextSnapshotId := 7 } := by decide
  obtain rfl := Option.some.inj (hfound.symm.trans hsession)
  rw [hbytes]
  rfl

end RcnetServer
