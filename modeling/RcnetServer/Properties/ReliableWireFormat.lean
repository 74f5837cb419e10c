/-
  RcnetServer.Properties.ReliableWireFormat

  The reliable wire format of the server is uniquely decodable.

  The five reliable packets share one format: a type byte, then the fields of that
  type in order.  Each field is a prefix code (fixed-width words and arrays, a map
  name behind its length), so the fields of one type are, and with the type byte in
  front so is the format as a whole.  Two packets with the same bytes are therefore
  the same packet, and no packet is a proper prefix of another.
-/

import RcnetServer.Lib.PrefixCode
import RcnetServer.Network.RoundTrip

namespace RcnetServer

-- ============================================================================
-- Reliable packets
-- ============================================================================

/-- A packet the server sends on a reliable channel. -/
inductive ServerReliablePacket
  | secureSessionHelloResponse (packet : ServerSecureSessionHelloResponsePacketReliable)
  | authResponse (packet : ServerAuthResponsePacketReliable)
  | matchInit (packet : ServerMatchInitPacketReliable)
  | worldStaticStateInit (packet : ServerWorldStaticStateInitPacketReliable)
  | matchStart (packet : ServerMatchStartPacketReliable)
deriving DecidableEq

namespace ServerReliablePacket

/-- The serializer of its kind. -/
def serialize : ServerReliablePacket → Option (List UInt8)
  | .secureSessionHelloResponse packet =>
      some (serializeServerSecureSessionHelloResponsePacketReliable packet)
  | .authResponse packet => some (serializeServerAuthResponsePacketReliable packet)
  | .matchInit packet => serializeServerMatchInitPacketReliable packet
  | .worldStaticStateInit packet =>
      some (serializeServerWorldStaticStateInitPacketReliable packet)
  | .matchStart packet => some (serializeServerMatchStartPacketReliable packet)

/-- `header.type` is the packet's own kind. -/
def HasOwnType : ServerReliablePacket → Prop
  | .secureSessionHelloResponse packet =>
      packet.type = .serverSecureSessionHelloResponsePacketReliable
  | .authResponse packet => packet.type = .serverAuthResponsePacketReliable
  | .matchInit packet => packet.type = .serverMatchInitPacketReliable
  | .worldStaticStateInit packet => packet.type = .serverWorldStaticStateInitPacketReliable
  | .matchStart packet => packet.type = .serverMatchStartPacketReliable

/-- A map name is at most 65535 bytes long. -/
def MapNameFits : ServerReliablePacket → Prop
  | .matchInit packet => packet.mapName.length ≤ 65535
  | _ => True

end ServerReliablePacket

-- ============================================================================
-- Fields
-- ============================================================================

/-- A string `writeString` does not throw on. -/
abbrev WireString := { bytes : List UInt8 // bytes.length ≤ 65535 }

/-- A string behind its length. -/
def WireString.encode (s : WireString) : List UInt8 :=
  BigEndian.bytes16 s.val.length.toUInt16 ++ s.val

/-- The fields behind each type byte. -/
def ServerReliablePacketType.Fields : ServerReliablePacketType → Type
  | .serverSecureSessionHelloResponsePacketReliable =>
      ServerSecureSessionHelloResponseStatus × KxPublicKey × UInt64 × UInt64 × ClientNonce ×
        Signature
  | .serverAuthResponsePacketReliable => ServerAuthResponseStatus
  | .serverMatchInitPacketReliable => WireString × UInt32 × UInt32 × UInt64 × UInt32 × UInt64
  | .serverWorldStaticStateInitPacketReliable => Unit
  | .serverMatchStartPacketReliable => UInt64 × UInt64 × UInt32 × UInt64
  | .serverMatchEndPacketReliable => Empty

/-- The fields as they are written. -/
def ServerReliablePacketType.encodeFields :
    (type : ServerReliablePacketType) → type.Fields → List UInt8
  | .serverSecureSessionHelloResponsePacketReliable => fun fields =>
      [fields.1.toByte] ++ (fields.2.1.toList ++ (BigEndian.bytes64 fields.2.2.1 ++
        (BigEndian.bytes64 fields.2.2.2.1 ++
          (fields.2.2.2.2.1.toList ++ fields.2.2.2.2.2.toList))))
  | .serverAuthResponsePacketReliable => fun status => [status.toByte]
  | .serverMatchInitPacketReliable => fun fields =>
      WireString.encode fields.1 ++ (BigEndian.bytes32 fields.2.1 ++
        (BigEndian.bytes32 fields.2.2.1 ++ (BigEndian.bytes64 fields.2.2.2.1 ++
          (BigEndian.bytes32 fields.2.2.2.2.1 ++ BigEndian.bytes64 fields.2.2.2.2.2))))
  | .serverWorldStaticStateInitPacketReliable => fun _ => []
  | .serverMatchStartPacketReliable => fun fields =>
      BigEndian.bytes64 fields.1 ++ (BigEndian.bytes64 fields.2.1 ++
        (BigEndian.bytes32 fields.2.2.1 ++ BigEndian.bytes64 fields.2.2.2))
  | .serverMatchEndPacketReliable => fun fields => nomatch fields

/-- A type byte and the fields it announces. -/
def encodeReliable (x : Sigma ServerReliablePacketType.Fields) : List UInt8 :=
  [x.1.toByte] ++ x.1.encodeFields x.2

/-- The packet with these fields. -/
def ServerReliablePacket.ofFields : Sigma ServerReliablePacketType.Fields → ServerReliablePacket
  | ⟨.serverSecureSessionHelloResponsePacketReliable,
      (status, serverPublicKey, issuedAtUnixSeconds, expiresAtUnixSeconds, clientNonceEcho,
        signature)⟩ =>
      .secureSessionHelloResponse
        { status, serverPublicKey, issuedAtUnixSeconds, expiresAtUnixSeconds, clientNonceEcho,
          signature }
  | ⟨.serverAuthResponsePacketReliable, status⟩ =>
      .authResponse { type := .serverAuthResponsePacketReliable, status }
  | ⟨.serverMatchInitPacketReliable,
      (mapName, mapVersion, mapChecksum, serverTick, serverTickRateHz, serverTimeNs)⟩ =>
      .matchInit
        { type := .serverMatchInitPacketReliable, mapName, mapVersion, mapChecksum, serverTick,
          serverTickRateHz, serverTimeNs }
  | ⟨.serverWorldStaticStateInitPacketReliable, _⟩ =>
      .worldStaticStateInit { type := .serverWorldStaticStateInitPacketReliable }
  | ⟨.serverMatchStartPacketReliable,
      (serverTick, matchStartTick, countdownTicks, serverTimeNs)⟩ =>
      .matchStart
        { type := .serverMatchStartPacketReliable, serverTick, matchStartTick, countdownTicks,
          serverTimeNs }

-- ============================================================================
-- Each field is a prefix code
-- ============================================================================

theorem bytes32_isPrefixCode : IsPrefixCode BigEndian.bytes32 :=
  .of_length BigEndian.length_bytes32 fun _ _ => BigEndian.bytes32_injective

theorem bytes64_isPrefixCode : IsPrefixCode BigEndian.bytes64 :=
  .of_length BigEndian.length_bytes64 fun _ _ => BigEndian.bytes64_injective

theorem array_isPrefixCode (n : Nat) : IsPrefixCode fun v : Vector UInt8 n => v.toList :=
  .of_length (fun _ => Vector.length_toList) fun _ _ => Vector.toList_inj.mp

/-- A cast to `uint8_t` that keeps the enumerators apart. -/
theorem byte_isPrefixCode {α : Type} {toByte : α → UInt8} (h : Function.Injective toByte) :
    IsPrefixCode fun a => [toByte a] :=
  .of_length (n := 1) (fun _ => rfl) fun _ _ hab => h (List.singleton_inj.mp hab)

theorem helloStatus_toByte_injective :
    Function.Injective ServerSecureSessionHelloResponseStatus.toByte := by
  intro s t h
  cases s <;> cases t <;> first | rfl | cases h

theorem authStatus_toByte_injective : Function.Injective ServerAuthResponseStatus.toByte := by
  intro s t h
  cases s <;> cases t <;> first | rfl | cases h

theorem reliableType_toByte_injective : Function.Injective ServerReliablePacketType.toByte := by
  intro s t h
  cases s <;> cases t <;> first | rfl | cases h

/-- The length in front of a string says where it ends. -/
theorem wireString_isPrefixCode : IsPrefixCode WireString.encode := by
  have hlength : IsPrefixCode BigEndian.bytes16 :=
    .of_length BigEndian.length_bytes16 fun _ _ => BigEndian.bytes16_injective
  have hbytes : ∀ n : UInt16, IsPrefixCode fun l : { l : List UInt8 // l.length = n.toNat } =>
      l.val :=
    fun n => .of_length (fun l => l.property) fun _ _ => Subtype.ext
  have hcount : ∀ s : WireString, s.val.length = s.val.length.toUInt16.toNat := by
    intro s
    rw [Nat.toUInt16_eq, UInt16.toNat_ofNat']
    have := s.property
    omega
  refine (hlength.dependent hbytes).comp
    (fun s : WireString => ⟨s.val.length.toUInt16, s.val, hcount s⟩) ?_
  intro s t h
  exact Subtype.ext (congrArg (fun x => x.2.val) h)

/-- The fields of one type. -/
theorem encodeFields_isPrefixCode (type : ServerReliablePacketType) :
    IsPrefixCode type.encodeFields := by
  cases type with
  | serverSecureSessionHelloResponsePacketReliable =>
      exact (byte_isPrefixCode helloStatus_toByte_injective).append ((array_isPrefixCode 32).append
        (bytes64_isPrefixCode.append (bytes64_isPrefixCode.append
          ((array_isPrefixCode 16).append (array_isPrefixCode 64)))))
  | serverAuthResponsePacketReliable => exact byte_isPrefixCode authStatus_toByte_injective
  | serverMatchInitPacketReliable =>
      exact wireString_isPrefixCode.append (bytes32_isPrefixCode.append
        (bytes32_isPrefixCode.append (bytes64_isPrefixCode.append
          (bytes32_isPrefixCode.append bytes64_isPrefixCode))))
  | serverWorldStaticStateInitPacketReliable =>
      exact IsPrefixCode.of_subsingleton (α := Unit) _
  | serverMatchStartPacketReliable =>
      exact bytes64_isPrefixCode.append (bytes64_isPrefixCode.append
        (bytes32_isPrefixCode.append bytes64_isPrefixCode))
  | serverMatchEndPacketReliable => exact IsPrefixCode.of_subsingleton (α := Empty) _

/-- The format as a whole. -/
theorem encodeReliable_isPrefixCode : IsPrefixCode encodeReliable :=
  (byte_isPrefixCode reliableType_toByte_injective).dependent encodeFields_isPrefixCode

-- ============================================================================
-- Packets and their fields
-- ============================================================================

/-- A packet of its own type is made of fields, and its serializer writes them. -/
theorem ServerReliablePacket.exists_fields {p : ServerReliablePacket} (htype : p.HasOwnType)
    (hname : p.MapNameFits) :
    ∃ x, ofFields x = p ∧ p.serialize = some (encodeReliable x) := by
  cases p with
  | secureSessionHelloResponse packet =>
      obtain ⟨type, status, serverPublicKey, issued, expires, nonce, signature⟩ := packet
      obtain rfl : type = .serverSecureSessionHelloResponsePacketReliable := htype
      refine ⟨⟨.serverSecureSessionHelloResponsePacketReliable,
        (status, serverPublicKey, issued, expires, nonce, signature)⟩, rfl, ?_⟩
      simp only [serialize, serializeServerSecureSessionHelloResponsePacketReliable,
        ByteWriter.buffer_writeU8, ByteWriter.buffer_writeU64, ByteWriter.buffer_writeBytes,
        encodeReliable, ServerReliablePacketType.encodeFields, List.append_assoc, List.nil_append]
  | authResponse packet =>
      obtain ⟨type, status⟩ := packet
      obtain rfl : type = .serverAuthResponsePacketReliable := htype
      exact ⟨⟨.serverAuthResponsePacketReliable, status⟩, rfl, rfl⟩
  | matchInit packet =>
      obtain ⟨type, mapName, mapVersion, mapChecksum, serverTick, rate, serverTimeNs⟩ := packet
      obtain rfl : type = .serverMatchInitPacketReliable := htype
      refine ⟨⟨.serverMatchInitPacketReliable,
        (⟨mapName, hname⟩, mapVersion, mapChecksum, serverTick, rate, serverTimeNs)⟩, rfl, ?_⟩
      have hfits : mapName.length ≤ 65535 := hname
      simp only [serialize, serializeServerMatchInitPacketReliable,
        ByteWriter.writeString_of_le _ hfits, ByteWriter.buffer_writeU8,
        ByteWriter.buffer_writeU16, ByteWriter.buffer_writeU32, ByteWriter.buffer_writeU64,
        ByteWriter.buffer_writeBytes, encodeReliable, ServerReliablePacketType.encodeFields,
        WireString.encode, List.append_assoc, List.nil_append]
  | worldStaticStateInit packet =>
      obtain ⟨type⟩ := packet
      obtain rfl : type = .serverWorldStaticStateInitPacketReliable := htype
      exact ⟨⟨.serverWorldStaticStateInitPacketReliable, ()⟩, rfl, rfl⟩
  | matchStart packet =>
      obtain ⟨type, serverTick, matchStartTick, countdownTicks, serverTimeNs⟩ := packet
      obtain rfl : type = .serverMatchStartPacketReliable := htype
      refine ⟨⟨.serverMatchStartPacketReliable,
        (serverTick, matchStartTick, countdownTicks, serverTimeNs)⟩, rfl, ?_⟩
      simp only [serialize, serializeServerMatchStartPacketReliable, ByteWriter.buffer_writeU8,
        ByteWriter.buffer_writeU32, ByteWriter.buffer_writeU64, encodeReliable,
        ServerReliablePacketType.encodeFields, List.append_assoc, List.nil_append]

-- ============================================================================
-- The wire format
-- ============================================================================

/-- Two reliable packets, each with its own type in the header and a map name that
    fits: both are serialized, equal bytes mean equal packets, and neither is a
    proper prefix of the other. -/
theorem reliable_wire_format_uniquely_decodable (p q : ServerReliablePacket)
    (hp : p.HasOwnType) (hq : q.HasOwnType) (hpname : p.MapNameFits) (hqname : q.MapNameFits) :
    ∃ b c, p.serialize = some b ∧ q.serialize = some c ∧ (b = c → p = q) ∧
      (b <+: c → b = c) := by
  obtain ⟨x, rfl, hx⟩ := ServerReliablePacket.exists_fields hp hpname
  obtain ⟨y, rfl, hy⟩ := ServerReliablePacket.exists_fields hq hqname
  refine ⟨encodeReliable x, encodeReliable y, hx, hy, ?_, ?_⟩
  · intro h
    rw [encodeReliable_isPrefixCode.injective h]
  · intro h
    rw [encodeReliable_isPrefixCode.eq_of_isPrefix h]

/-- A match with a map name of three bytes and a match start. -/
theorem reliable_wire_format_uniquely_decodable_matchInit :
    let p : ServerReliablePacket :=
      .matchInit
        { type := .serverMatchInitPacketReliable, mapName := [109, 97, 112], mapVersion := 1,
          mapChecksum := 2, serverTick := 3, serverTickRateHz := 60, serverTimeNs := 4 }
    let q : ServerReliablePacket :=
      .matchStart
        { type := .serverMatchStartPacketReliable, serverTick := 3, matchStartTick := 5,
          countdownTicks := 2, serverTimeNs := 4 }
    ∃ b c, p.serialize = some b ∧ q.serialize = some c ∧ (b = c → p = q) ∧
      (b <+: c → b = c) :=
  reliable_wire_format_uniquely_decodable _ _ rfl rfl
    (show [109, 97, 112].length ≤ 65535 by decide) trivial

end RcnetServer
