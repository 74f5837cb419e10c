/-
  RcnetServer.Network.Parsers

  The five deserializers as `ReadProgram`s.

  Each deserializer is the run of its program (`..._eq_run`), so it accepts exactly
  the bytes of its fields in order; put together, these bytes are what a
  `ByteWriter` makes of the packet (`..._eq_some_iff`).
-/

import RcnetServer.Network.ReadProgram

namespace RcnetServer

-- ============================================================================
-- What a client writes
-- ============================================================================

/-- The encoding of a client packet: its type byte, then its fields in order. -/
def encodeClientSecureSessionHelloPacketReliable
    (packet : ClientSecureSessionHelloPacketReliable) : Option (List UInt8) :=
  let writer : ByteWriter := {}
  let type := ClientReliablePacketType.clientSecureSessionHelloPacketReliable
  some ((((writer.writeU8 type.toByte).writeU32 packet.networkProtocolVersion).writeBytes
    packet.clientPublicKey.toList).writeBytes packet.clientNonce.toList).buffer

/-- A token of more than 1024 bytes has no encoding. -/
def encodeClientAuthPacketReliable (packet : ClientAuthPacketReliable) : Option (List UInt8) :=
  if packet.authToken.length > 1024 then none
  else
    let writer : ByteWriter := {}
    let type := ClientReliablePacketType.clientAuthPacketReliable
    ((writer.writeU8 type.toByte).writeString packet.authToken).map ByteWriter.buffer

def encodeClientReadyForMatchPacketReliable (_packet : ClientReadyForMatchPacketReliable) :
    Option (List UInt8) :=
  let writer : ByteWriter := {}
  let type := ClientReliablePacketType.clientReadyForMatchPacketReliable
  some (writer.writeU8 type.toByte).buffer

def encodeClientInputPacketUnreliable (packet : ClientInputPacketUnreliable) :
    Option (List UInt8) :=
  let writer : ByteWriter := {}
  let type := ClientUnreliablePacketType.clientInputPacketUnreliable
  some (((((((((writer.writeU8 type.toByte).writeU32 packet.inputSequenceNumber).writeU32
    packet.lastReceivedSnapshotId).writeU8 packet.movementHeldFlags).writeU8
    packet.movementPressedFlags).writeU8 packet.movementReleasedFlags).writeU8
    packet.actionHeldFlags).writeU8 packet.actionPressedFlags).writeU8
    packet.actionReleasedFlags).buffer

-- ============================================================================
-- The programs
-- ============================================================================

section Programs

open ReadProgram

def clientSecureSessionHelloProgram : ReadProgram ClientSecureSessionHelloPacketReliable :=
  .call .u8 fun rawType =>
    if ClientReliablePacketType.ofByte rawType ≠ some .clientSecureSessionHelloPacketReliable then
      .fail
    else
      .call .u32 fun networkProtocolVersion =>
      .call (.bytes 32) fun clientPublicKey =>
      .call (.bytes 16) fun clientNonce =>
      .finish
        { networkProtocolVersion
          clientPublicKey := toByteArray 32 clientPublicKey
          clientNonce := toByteArray 16 clientNonce }

def clientAuthProgram : ReadProgram ClientAuthPacketReliable :=
  .call .u8 fun rawType =>
    if ClientReliablePacketType.ofByte rawType ≠ some .clientAuthPacketReliable then .fail
    else
      .call (.string maxAuthTokenLength) fun authToken =>
      .finish { authToken }

def clientReadyForMatchProgram : ReadProgram ClientReadyForMatchPacketReliable :=
  .call .u8 fun rawType =>
    if ClientReliablePacketType.ofByte rawType ≠ some .clientReadyForMatchPacketReliable then .fail
    else .finish {}

def clientInputProgram : ReadProgram ClientInputPacketUnreliable :=
  .call .u8 fun rawType =>
    if ClientUnreliablePacketType.ofByte rawType ≠ some .clientInputPacketUnreliable then .fail
    else
      .call .u32 fun inputSequenceNumber =>
      .call .u32 fun lastReceivedSnapshotId =>
      .call .u8 fun movementHeldFlags =>
      .call .u8 fun movementPressedFlags =>
      .call .u8 fun movementReleasedFlags =>
      .call .u8 fun actionHeldFlags =>
      .call .u8 fun actionPressedFlags =>
      .call .u8 fun actionReleasedFlags =>
      .finish
        { inputSequenceNumber, lastReceivedSnapshotId
          movementHeldFlags, movementPressedFlags, movementReleasedFlags
          actionHeldFlags, actionPressedFlags, actionReleasedFlags }

def serverSnapshotFullProgram : ReadProgram ServerSnapshotFullPacketUnreliable :=
  .call .u8 fun rawType =>
    if ServerUnreliablePacketType.ofByte rawType ≠ some .serverSnapshotFullPacketUnreliable then
      .fail
    else
      .call .u32 fun snapshotId =>
      .call .u64 fun serverTick =>
      .call .u64 fun serverTimeNs =>
      .call .u32 fun lastProcessedInputSequenceNumber =>
      .finish
        { type := .serverSnapshotFullPacketUnreliable
          snapshotId, serverTick, serverTimeNs, lastProcessedInputSequenceNumber }

variable (data : List UInt8)

theorem deserializeClientSecureSessionHelloPacketReliable_eq_run :
    deserializeClientSecureSessionHelloPacketReliable data =
      clientSecureSessionHelloProgram.run (ByteReader.ofBytes data) := by
  unfold deserializeClientSecureSessionHelloPacketReliable clientSecureSessionHelloProgram
  simp only [run, run_ite, ByteReader.read]
  rfl

theorem deserializeClientAuthPacketReliable_eq_run :
    deserializeClientAuthPacketReliable data =
      clientAuthProgram.run (ByteReader.ofBytes data) := by
  unfold deserializeClientAuthPacketReliable clientAuthProgram
  simp only [run, run_ite, ByteReader.read]
  rfl

theorem deserializeClientReadyForMatchPacketReliable_eq_run :
    deserializeClientReadyForMatchPacketReliable data =
      clientReadyForMatchProgram.run (ByteReader.ofBytes data) := by
  unfold deserializeClientReadyForMatchPacketReliable clientReadyForMatchProgram
  simp only [run, run_ite, ByteReader.read]
  rfl

theorem deserializeClientInputPacketUnreliable_eq_run :
    deserializeClientInputPacketUnreliable data =
      clientInputProgram.run (ByteReader.ofBytes data) := by
  unfold deserializeClientInputPacketUnreliable clientInputProgram
  simp only [run, run_ite, ByteReader.read]
  rfl

theorem deserializeServerSnapshotFullPacketUnreliable_eq_run :
    deserializeServerSnapshotFullPacketUnreliable data =
      serverSnapshotFullProgram.run (ByteReader.ofBytes data) := by
  unfold deserializeServerSnapshotFullPacketUnreliable serverSnapshotFullProgram
  simp only [run, run_ite, ByteReader.read]
  rfl

end Programs

-- ============================================================================
-- What the programs ask for
-- ============================================================================

section Within

open ReadProgram

theorem clientSecureSessionHelloProgram_within : clientSecureSessionHelloProgram.Within 53 := by
  refine ⟨by decide, fun _ _ => within_ite _ _ _ trivial ?_⟩
  exact ⟨by decide, fun _ _ => ⟨by decide, fun _ _ => ⟨by decide, fun _ _ => trivial⟩⟩⟩

theorem clientAuthProgram_within : clientAuthProgram.Within 65538 := by
  refine ⟨by decide, fun _ _ => within_ite _ _ _ trivial ?_⟩
  exact ⟨by decide, fun _ _ => trivial⟩

theorem clientReadyForMatchProgram_within : clientReadyForMatchProgram.Within 1 :=
  ⟨by decide, fun _ _ => within_ite _ _ _ trivial trivial⟩

theorem clientInputProgram_within : clientInputProgram.Within 15 := by
  refine ⟨by decide, fun _ _ => within_ite _ _ _ trivial ?_⟩
  refine ⟨by decide, fun _ _ => ⟨by decide, fun _ _ => ⟨by decide, fun _ _ => ⟨by decide, ?_⟩⟩⟩⟩
  exact fun _ _ => ⟨by decide, fun _ _ => ⟨by decide, fun _ _ => ⟨by decide, fun _ _ =>
    ⟨by decide, fun _ _ => trivial⟩⟩⟩⟩

theorem serverSnapshotFullProgram_within : serverSnapshotFullProgram.Within 25 := by
  refine ⟨by decide, fun _ _ => within_ite _ _ _ trivial ?_⟩
  exact ⟨by decide, fun _ _ => ⟨by decide, fun _ _ => ⟨by decide, fun _ _ =>
    ⟨by decide, fun _ _ => trivial⟩⟩⟩⟩

end Within

-- ============================================================================
-- What the programs accept
-- ============================================================================

theorem ClientReliablePacketType.ofByte_eq_some_iff (type : ClientReliablePacketType)
    (b : UInt8) : ofByte b = some type ↔ b = type.toByte := by
  unfold ofByte
  cases type <;> simp only [toByte] <;> grind

theorem ClientUnreliablePacketType.ofByte_eq_some_iff (type : ClientUnreliablePacketType)
    (b : UInt8) : ofByte b = some type ↔ b = type.toByte := by
  unfold ofByte
  cases type <;> simp only [toByte] <;> grind

theorem ServerUnreliablePacketType.ofByte_eq_some_iff (type : ServerUnreliablePacketType)
    (b : UInt8) : ofByte b = some type ↔ b = type.toByte := by
  unfold ofByte
  cases type <;> simp only [toByte] <;> grind

theorem toList_toByteArray {n : Nat} {bytes : List UInt8} (h : bytes.length = n) :
    (toByteArray n bytes).toList = bytes := by
  subst h
  apply List.ext_getElem
  · simp
  · intro i hi hi'
    simp [toByteArray]

theorem toByteArray_toList {n : Nat} (bytes : Vector UInt8 n) :
    toByteArray n bytes.toList = bytes := by
  apply Vector.toList_inj.mp
  exact toList_toByteArray (Vector.length_toList)

section Accepts

variable {data : List UInt8}

theorem clientSecureSessionHelloProgram_accepts_iff
    {packet : ClientSecureSessionHelloPacketReliable} :
    clientSecureSessionHelloProgram.Accepts data packet ↔
      encodeClientSecureSessionHelloPacketReliable packet = some data := by
  have hencode : encodeClientSecureSessionHelloPacketReliable packet =
      some (0 :: (BigEndian.bytes32 packet.networkProtocolVersion ++
        (packet.clientPublicKey.toList ++ (packet.clientNonce.toList ++ [])))) := by
    rw [List.append_nil]
    rfl
  rw [hencode, clientSecureSessionHelloProgram,
    ReadProgram.accepts_tag _ (ClientReliablePacketType.ofByte_eq_some_iff _)]
  constructor
  · rintro ⟨_, rfl, version, _, -, rfl, publicKey, _, hkey, rfl, nonce, _, hnonce, rfl, rfl, rfl⟩
    have hkey' : publicKey.length = 32 := hkey
    have hnonce' : nonce.length = 16 := hnonce
    simp only [toList_toByteArray hkey', toList_toByteArray hnonce']
    rfl
  · intro h
    cases h
    have hkey : (ReadRequest.bytes 32).Fits packet.clientPublicKey.toList := by
      simp [ReadRequest.Fits]
    have hnonce : (ReadRequest.bytes 16).Fits packet.clientNonce.toList := by
      simp [ReadRequest.Fits]
    refine ⟨_, rfl, packet.networkProtocolVersion, _, trivial, rfl, packet.clientPublicKey.toList,
      _, hkey, rfl, packet.clientNonce.toList, _, hnonce, rfl, rfl, ?_⟩
    simp only [toByteArray_toList]

theorem clientAuthProgram_accepts_iff {packet : ClientAuthPacketReliable} :
    clientAuthProgram.Accepts data packet ↔ encodeClientAuthPacketReliable packet = some data := by
  have hencode : encodeClientAuthPacketReliable packet = some data ↔
      packet.authToken.length ≤ 1024 ∧
        1 :: ((BigEndian.bytes16 packet.authToken.length.toUInt16 ++ packet.authToken) ++ []) =
          data := by
    unfold encodeClientAuthPacketReliable ByteWriter.writeString
    dsimp only
    split
    · simp only [reduceCtorEq, false_iff]
      omega
    · rw [if_neg (by omega), List.append_nil, Option.map_some, Option.some_inj]
      exact (and_iff_right (by omega)).symm
  rw [hencode, clientAuthProgram,
    ReadProgram.accepts_tag _ (ClientReliablePacketType.ofByte_eq_some_iff _)]
  constructor
  · rintro ⟨_, rfl, authToken, _, ⟨-, hmax⟩, rfl, rfl, rfl⟩
    exact ⟨hmax, rfl⟩
  · rintro ⟨hmax, rfl⟩
    refine ⟨_, rfl, packet.authToken, _, ⟨?_, hmax⟩, rfl, rfl, rfl⟩
    omega

theorem clientReadyForMatchProgram_accepts_iff {packet : ClientReadyForMatchPacketReliable} :
    clientReadyForMatchProgram.Accepts data packet ↔
      encodeClientReadyForMatchPacketReliable packet = some data := by
  have hencode : encodeClientReadyForMatchPacketReliable packet = some [2] := rfl
  rw [hencode, clientReadyForMatchProgram,
    ReadProgram.accepts_tag _ (ClientReliablePacketType.ofByte_eq_some_iff _)]
  constructor
  · rintro ⟨_, rfl, rfl, -⟩
    rfl
  · intro h
    cases h
    exact ⟨_, rfl, rfl, rfl⟩

theorem clientInputProgram_accepts_iff {packet : ClientInputPacketUnreliable} :
    clientInputProgram.Accepts data packet ↔
      encodeClientInputPacketUnreliable packet = some data := by
  have hencode : encodeClientInputPacketUnreliable packet =
      some (0 :: (BigEndian.bytes32 packet.inputSequenceNumber ++
        (BigEndian.bytes32 packet.lastReceivedSnapshotId ++
        [packet.movementHeldFlags, packet.movementPressedFlags, packet.movementReleasedFlags,
          packet.actionHeldFlags, packet.actionPressedFlags, packet.actionReleasedFlags]))) := rfl
  rw [hencode, clientInputProgram,
    ReadProgram.accepts_tag _ (ClientUnreliablePacketType.ofByte_eq_some_iff _)]
  constructor
  · rintro ⟨_, rfl, sequence, _, -, rfl, snapshotId, _, -, rfl, movementHeld, _, -, rfl,
      movementPressed, _, -, rfl, movementReleased, _, -, rfl, actionHeld, _, -, rfl,
      actionPressed, _, -, rfl, actionReleased, _, -, rfl, rfl, rfl⟩
    rfl
  · intro h
    cases h
    exact ⟨_, rfl, _, _, trivial, rfl, _, _, trivial, rfl, _, _, trivial, rfl, _, _, trivial, rfl,
      _, _, trivial, rfl, _, _, trivial, rfl, _, _, trivial, rfl, _, _, trivial, rfl, rfl, rfl⟩

theorem serverSnapshotFullProgram_accepts_iff {packet : ServerSnapshotFullPacketUnreliable} :
    serverSnapshotFullProgram.Accepts data packet ↔
      packet.type = .serverSnapshotFullPacketUnreliable ∧
        serializeServerSnapshotFullPacketUnreliable packet = data := by
  rw [serverSnapshotFullProgram,
    ReadProgram.accepts_tag _ (ServerUnreliablePacketType.ofByte_eq_some_iff _)]
  constructor
  · rintro ⟨_, rfl, snapshotId, _, -, rfl, serverTick, _, -, rfl, serverTimeNs, _, -, rfl,
      lastProcessed, _, -, rfl, rfl, rfl⟩
    exact ⟨rfl, rfl⟩
  · obtain ⟨type, snapshotId, serverTick, serverTimeNs, lastProcessed⟩ := packet
    rintro ⟨htype, rfl⟩
    obtain rfl : type = .serverSnapshotFullPacketUnreliable := htype
    exact ⟨_, rfl, snapshotId, _, trivial, rfl, serverTick, _, trivial, rfl, serverTimeNs, _,
      trivial, rfl, lastProcessed, [], trivial, rfl, rfl, rfl⟩

end Accepts

end RcnetServer
