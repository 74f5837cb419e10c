/-
  RcnetServer.Network.PacketCodec

  Serialization of the server packets and deserialization of the client packets
  (network/serialization).  A deserializer reads its fields in order, refuses on
  the first failing read and on trailing bytes.
-/

import RcnetServer.Network.ByteStream
import RcnetServer.Network.Packets

namespace RcnetServer

/-! ## Server packets, serialized -/

/-- A map name of more than 65535 bytes makes `writeString` throw (`none`). -/
def serializeServerMatchInitPacketReliable (packet : ServerMatchInitPacketReliable) :
    Option (List UInt8) :=
  let writer : ByteWriter := {}
  match (writer.writeU8 packet.type.toByte).writeString packet.mapName with
  | none => none
  | some writer =>
      some (((((writer.writeU32 packet.mapVersion).writeU32 packet.mapChecksum).writeU64
        packet.serverTick).writeU32 packet.serverTickRateHz).writeU64 packet.serverTimeNs).buffer

def serializeServerWorldStaticStateInitPacketReliable
    (packet : ServerWorldStaticStateInitPacketReliable) : List UInt8 :=
  let writer : ByteWriter := {}
  (writer.writeU8 packet.type.toByte).buffer

def serializeServerMatchStartPacketReliable (packet : ServerMatchStartPacketReliable) :
    List UInt8 :=
  let writer : ByteWriter := {}
  (((((writer.writeU8 packet.type.toByte).writeU64 packet.serverTick).writeU64
    packet.matchStartTick).writeU32 packet.countdownTicks).writeU64 packet.serverTimeNs).buffer

def serializeServerSnapshotFullPacketUnreliable (packet : ServerSnapshotFullPacketUnreliable) :
    List UInt8 :=
  let writer : ByteWriter := {}
  (((((writer.writeU8 packet.type.toByte).writeU32 packet.snapshotId).writeU64
    packet.serverTick).writeU64 packet.serverTimeNs).writeU32
    packet.lastProcessedInputSequenceNumber).buffer

def serializeServerSecureSessionHelloResponsePacketReliable
    (packet : ServerSecureSessionHelloResponsePacketReliable) : List UInt8 :=
  let writer : ByteWriter := {}
  (((((((writer.writeU8 packet.type.toByte).writeU8 packet.status.toByte).writeBytes
    packet.serverPublicKey.toList).writeU64 packet.issuedAtUnixSeconds).writeU64
    packet.expiresAtUnixSeconds).writeBytes packet.clientNonceEcho.toList).writeBytes
    packet.signature.toList).buffer

def serializeServerAuthResponsePacketReliable (packet : ServerAuthResponsePacketReliable) :
    List UInt8 :=
  let writer : ByteWriter := {}
  ((writer.writeU8 packet.type.toByte).writeU8 packet.status.toByte).buffer

/-! ## Client packets, deserialized -/

/-- `memcpy` of `bytes` into a `std::array` of `n` bytes. -/
def toByteArray (n : Nat) (bytes : List UInt8) : Vector UInt8 n :=
  Vector.ofFn fun i => bytes.getD i 0

def deserializeClientSecureSessionHelloPacketReliable (data : List UInt8) :
    Option ClientSecureSessionHelloPacketReliable := do
  let reader := ByteReader.ofBytes data
  let (rawType, reader) ← reader.readU8
  if ClientReliablePacketType.ofByte rawType ≠ some .clientSecureSessionHelloPacketReliable then
    none
  else
    let (networkProtocolVersion, reader) ← reader.readU32
    let (clientPublicKey, reader) ← reader.readBytes 32
    let (clientNonce, reader) ← reader.readBytes 16
    if !reader.empty then none
    else
      some
        { networkProtocolVersion
          clientPublicKey := toByteArray 32 clientPublicKey
          clientNonce := toByteArray 16 clientNonce }

/-- `kMaxAuthTokenLength`. -/
def maxAuthTokenLength : UInt64 := 1024

def deserializeClientAuthPacketReliable (data : List UInt8) :
    Option ClientAuthPacketReliable := do
  let reader := ByteReader.ofBytes data
  let (rawType, reader) ← reader.readU8
  if ClientReliablePacketType.ofByte rawType ≠ some .clientAuthPacketReliable then none
  else
    let (authToken, reader) ← reader.readString maxAuthTokenLength
    if !reader.empty then none
    else some { authToken }

def deserializeClientReadyForMatchPacketReliable (data : List UInt8) :
    Option ClientReadyForMatchPacketReliable := do
  let reader := ByteReader.ofBytes data
  let (rawType, reader) ← reader.readU8
  if ClientReliablePacketType.ofByte rawType ≠ some .clientReadyForMatchPacketReliable then none
  else if !reader.empty then none
  else some {}

def deserializeClientInputPacketUnreliable (data : List UInt8) :
    Option ClientInputPacketUnreliable := do
  let reader := ByteReader.ofBytes data
  let (rawType, reader) ← reader.readU8
  if ClientUnreliablePacketType.ofByte rawType ≠ some .clientInputPacketUnreliable then none
  else
    let (inputSequenceNumber, reader) ← reader.readU32
    let (lastReceivedSnapshotId, reader) ← reader.readU32
    let (movementHeldFlags, reader) ← reader.readU8
    let (movementPressedFlags, reader) ← reader.readU8
    let (movementReleasedFlags, reader) ← reader.readU8
    let (actionHeldFlags, reader) ← reader.readU8
    let (actionPressedFlags, reader) ← reader.readU8
    let (actionReleasedFlags, reader) ← reader.readU8
    if !reader.empty then none
    else
      some
        { inputSequenceNumber, lastReceivedSnapshotId
          movementHeldFlags, movementPressedFlags, movementReleasedFlags
          actionHeldFlags, actionPressedFlags, actionReleasedFlags }

/-! ## Server snapshots, read back by the network thread -/

def deserializeServerSnapshotFullPacketUnreliable (data : List UInt8) :
    Option ServerSnapshotFullPacketUnreliable := do
  let reader := ByteReader.ofBytes data
  let (rawType, reader) ← reader.readU8
  if ServerUnreliablePacketType.ofByte rawType ≠ some .serverSnapshotFullPacketUnreliable then
    none
  else
    let (snapshotId, reader) ← reader.readU32
    let (serverTick, reader) ← reader.readU64
    let (serverTimeNs, reader) ← reader.readU64
    let (lastProcessedInputSequenceNumber, reader) ← reader.readU32
    if !reader.empty then none
    else
      some
        { type := .serverSnapshotFullPacketUnreliable
          snapshotId, serverTick, serverTimeNs, lastProcessedInputSequenceNumber }

end RcnetServer
