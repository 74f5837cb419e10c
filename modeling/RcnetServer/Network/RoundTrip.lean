/-
  RcnetServer.Network.RoundTrip

  Reading back what was written.

  `ByteReader.after front rest` is a reader over `front ++ rest` that has consumed
  `front`.  Each read has one law: on the bytes of a field it returns the field
  and moves them to the front.  The laws chain, so a packet is read back field by
  field.
-/

import RcnetServer.Lib.BigEndian
import RcnetServer.Network.PacketCodec

namespace RcnetServer

namespace ByteWriter

section Write

variable (w : ByteWriter)

theorem buffer_writeU8 (v : UInt8) : (w.writeU8 v).buffer = w.buffer ++ [v] := rfl

theorem buffer_writeU16 (v : UInt16) :
    (w.writeU16 v).buffer = w.buffer ++ BigEndian.bytes16 v := rfl

theorem buffer_writeU32 (v : UInt32) :
    (w.writeU32 v).buffer = w.buffer ++ BigEndian.bytes32 v := rfl

theorem buffer_writeU64 (v : UInt64) :
    (w.writeU64 v).buffer = w.buffer ++ BigEndian.bytes64 v := rfl

theorem buffer_writeBytes (data : List UInt8) :
    (w.writeBytes data).buffer = w.buffer ++ data := rfl

theorem writeString_of_le {value : List UInt8} (h : value.length ≤ 65535) :
    w.writeString value = some ((w.writeU16 value.length.toUInt16).writeBytes value) :=
  if_neg (Nat.not_lt.mpr h)

end Write

end ByteWriter

namespace ByteReader

/-- The reader over `front ++ rest` that has consumed `front`. -/
def after (front rest : List UInt8) : ByteReader :=
  ⟨front ++ rest, (front ++ rest).length.toUInt64, front.length.toUInt64⟩

theorem ofBytes_eq_after (data : List UInt8) : ofBytes data = after [] data := rfl

/-- Nothing a reader holds is longer than a `size_t` can say. -/
def Addressable (front rest : List UInt8) : Prop :=
  front.length + rest.length < 2 ^ 64

section After

variable {front bytes rest : List UInt8}

/-- The offset is the number of bytes consumed. -/
theorem toNat_offset_after (h : Addressable front rest) :
    (after front rest).offset.toNat = front.length := by
  unfold Addressable at h
  show (UInt64.ofNat front.length).toNat = front.length
  rw [UInt64.toNat_ofNat']
  omega

theorem toNat_size_after (h : Addressable front rest) :
    (after front rest).size.toNat = front.length + rest.length := by
  unfold Addressable at h
  show (UInt64.ofNat (front ++ rest).length).toNat = front.length + rest.length
  rw [UInt64.toNat_ofNat', List.length_append]
  omega

/-- The bytes that are left may be read. -/
theorem canRead_after {n : UInt64} (h : Addressable front rest) (hn : n.toNat ≤ rest.length) :
    (after front rest).canRead n = true := by
  have hoffset := toNat_offset_after h
  have hsize := toNat_size_after h
  unfold Addressable at h
  simp only [canRead, decide_eq_true_eq, UInt64.le_iff_toNat_le, UInt64.toNat_add, hoffset, hsize]
  omega

/-- As long as the sum does not wrap, nothing else may be read. -/
theorem canRead_after_iff {n : UInt64} (h : Addressable front rest)
    (hroom : front.length + n.toNat < 2 ^ 64) :
    (after front rest).canRead n = true ↔ n.toNat ≤ rest.length := by
  have hoffset := toNat_offset_after h
  have hsize := toNat_size_after h
  simp only [canRead, decide_eq_true_eq, UInt64.le_iff_toNat_le, UInt64.toNat_add, hoffset, hsize]
  omega

/-- Byte `i` from the offset on is byte `i` of what is left. -/
theorem byteAt_after {i : UInt64} (h : Addressable front rest) (hi : i.toNat < rest.length) :
    (after front rest).byteAt ((after front rest).offset + i) = rest.getD i.toNat 0 := by
  have hoffset := toNat_offset_after h
  unfold Addressable at h
  have hindex : ((after front rest).offset + i).toNat = front.length + i.toNat := by
    rw [UInt64.toNat_add, hoffset]
    omega
  show (front ++ rest).getD ((after front rest).offset + i).toNat 0 = rest.getD i.toNat 0
  rw [hindex, List.getD_eq_getElem?_getD, List.getD_eq_getElem?_getD,
    List.getElem?_append_right (by omega)]
  congr 2
  omega

theorem byteAt_after_zero (h : Addressable front rest) (hrest : 0 < rest.length) :
    (after front rest).byteAt (after front rest).offset = rest.getD 0 0 := by
  have h0 := byteAt_after (i := 0) h (by simpa using hrest)
  rwa [UInt64.add_zero] at h0

/-- Moving the offset over `bytes`. -/
theorem after_advance {n : UInt64} (hn : n.toNat = bytes.length) :
    { after front (bytes ++ rest) with offset := (after front (bytes ++ rest)).offset + n } =
      after (front ++ bytes) rest := by
  have hoffset : (after front (bytes ++ rest)).offset + n =
      (after (front ++ bytes) rest).offset := by
    show UInt64.ofNat front.length + n = UInt64.ofNat (front ++ bytes).length
    rw [List.length_append, UInt64.ofNat_add, ← hn, UInt64.ofNat_toNat]
  rw [hoffset]
  simp [after]

theorem readU8_after {b : UInt8} (h : Addressable front ([b] ++ rest)) :
    (after front ([b] ++ rest)).readU8 = some (b, after (front ++ [b]) rest) := by
  unfold readU8
  rw [if_pos (canRead_after h (by simp)), byteAt_after_zero h (by simp), after_advance (by simp)]
  rfl

theorem readU16_after {v : UInt16} (h : Addressable front (BigEndian.bytes16 v ++ rest)) :
    (after front (BigEndian.bytes16 v ++ rest)).readU16 =
      some (v, after (front ++ BigEndian.bytes16 v) rest) := by
  have hword := BigEndian.word16_bytes16 v
  have hlen : ∀ i : UInt64, i.toNat < 2 →
      i.toNat < (BigEndian.bytes16 v ++ rest).length := by
    intro i hi
    rw [List.length_append, BigEndian.length_bytes16]
    omega
  unfold readU16
  rw [if_pos (canRead_after h (by simp)), byteAt_after_zero h (hlen 0 (by decide)),
    byteAt_after h (hlen 1 (by decide)), after_advance (by simp)]
  exact congrArg (fun w => some (w, after (front ++ BigEndian.bytes16 v) rest)) hword

theorem readU32_after {v : UInt32} (h : Addressable front (BigEndian.bytes32 v ++ rest)) :
    (after front (BigEndian.bytes32 v ++ rest)).readU32 =
      some (v, after (front ++ BigEndian.bytes32 v) rest) := by
  have hword := BigEndian.word32_bytes32 v
  have hlen : ∀ i : UInt64, i.toNat < 4 →
      i.toNat < (BigEndian.bytes32 v ++ rest).length := by
    intro i hi
    rw [List.length_append, BigEndian.length_bytes32]
    omega
  unfold readU32
  rw [if_pos (canRead_after h (by simp)), byteAt_after_zero h (hlen 0 (by decide)),
    byteAt_after h (hlen 1 (by decide)), byteAt_after h (hlen 2 (by decide)),
    byteAt_after h (hlen 3 (by decide)), after_advance (by simp)]
  exact congrArg (fun w => some (w, after (front ++ BigEndian.bytes32 v) rest)) hword

theorem readU64_after {v : UInt64} (h : Addressable front (BigEndian.bytes64 v ++ rest)) :
    (after front (BigEndian.bytes64 v ++ rest)).readU64 =
      some (v, after (front ++ BigEndian.bytes64 v) rest) := by
  have hword := BigEndian.word64_bytes64 v
  have hlen : ∀ i : UInt64, i.toNat < 8 →
      i.toNat < (BigEndian.bytes64 v ++ rest).length := by
    intro i hi
    rw [List.length_append, BigEndian.length_bytes64]
    omega
  unfold readU64
  rw [if_pos (canRead_after h (by simp)), byteAt_after_zero h (hlen 0 (by decide)),
    byteAt_after h (hlen 1 (by decide)), byteAt_after h (hlen 2 (by decide)),
    byteAt_after h (hlen 3 (by decide)), byteAt_after h (hlen 4 (by decide)),
    byteAt_after h (hlen 5 (by decide)), byteAt_after h (hlen 6 (by decide)),
    byteAt_after h (hlen 7 (by decide)), after_advance (by simp)]
  exact congrArg (fun w => some (w, after (front ++ BigEndian.bytes64 v) rest)) hword

theorem readBytes_after {n : UInt64} (h : Addressable front (bytes ++ rest))
    (hn : n.toNat = bytes.length) :
    (after front (bytes ++ rest)).readBytes n = some (bytes, after (front ++ bytes) rest) := by
  unfold readBytes
  rw [if_pos (canRead_after h (by simp [hn])), after_advance hn, toNat_offset_after h]
  show some (((front ++ (bytes ++ rest)).drop front.length).take n.toNat, _) = _
  rw [List.drop_left, hn, List.take_left]

theorem readString_after {maxLength : UInt64}
    (h : Addressable front (BigEndian.bytes16 bytes.length.toUInt16 ++ (bytes ++ rest)))
    (hlength : bytes.length < 2 ^ 16) (hmax : bytes.length ≤ maxLength.toNat) :
    (after front (BigEndian.bytes16 bytes.length.toUInt16 ++ (bytes ++ rest))).readString
        maxLength =
      some (bytes, after (front ++ (BigEndian.bytes16 bytes.length.toUInt16 ++ bytes)) rest) := by
  have hcount : bytes.length.toUInt16.toUInt64.toNat = bytes.length := by
    rw [UInt16.toNat_toUInt64, Nat.toUInt16_eq, UInt16.toNat_ofNat']
    omega
  have hrest : Addressable (front ++ BigEndian.bytes16 bytes.length.toUInt16) (bytes ++ rest) := by
    simpa [Addressable, Nat.add_assoc] using h
  unfold readString
  rw [readU16_after h]
  simp only
  rw [if_neg (by rw [gt_iff_lt, UInt64.lt_iff_toNat_lt, hcount]; omega),
    if_pos (canRead_after hrest (by simp [hcount])), after_advance hcount,
    toNat_offset_after hrest, List.append_assoc]
  show some (((_ ++ (bytes ++ rest)).drop _).take bytes.length.toUInt16.toNat, _) = _
  rw [List.drop_left, ← UInt16.toNat_toUInt64, hcount, List.take_left]

/-- All bytes are consumed at the end. -/
theorem empty_after_nil (front : List UInt8) : (after front []).empty = true := by
  simp [empty, after]

theorem empty_after_iff (h : Addressable front rest) :
    (after front rest).empty = true ↔ rest = [] := by
  have hoffset := toNat_offset_after h
  have hsize := toNat_size_after h
  rw [empty, decide_eq_true_eq, ← UInt64.toNat_inj, hoffset, hsize, ← List.length_eq_zero_iff]
  omega

end After

end ByteReader

-- ============================================================================
-- Snapshots
-- ============================================================================

theorem serializeServerSnapshotFullPacketUnreliable_eq
    (packet : ServerSnapshotFullPacketUnreliable) :
    serializeServerSnapshotFullPacketUnreliable packet =
      [packet.type.toByte] ++ (BigEndian.bytes32 packet.snapshotId ++
        (BigEndian.bytes64 packet.serverTick ++ (BigEndian.bytes64 packet.serverTimeNs ++
          BigEndian.bytes32 packet.lastProcessedInputSequenceNumber))) := rfl

/-- A snapshot is read back as it was written. -/
theorem deserialize_serializeServerSnapshotFullPacketUnreliable
    {packet : ServerSnapshotFullPacketUnreliable}
    (htype : packet.type = .serverSnapshotFullPacketUnreliable) :
    deserializeServerSnapshotFullPacketUnreliable
      (serializeServerSnapshotFullPacketUnreliable packet) = some packet := by
  obtain ⟨type, snapshotId, serverTick, serverTimeNs, lastProcessed⟩ := packet
  obtain rfl : type = .serverSnapshotFullPacketUnreliable := htype
  have hbyte : ServerUnreliablePacketType.ofByte
      ServerUnreliablePacketType.serverSnapshotFullPacketUnreliable.toByte =
      some .serverSnapshotFullPacketUnreliable := rfl
  -- the last field, with nothing behind it
  rw [serializeServerSnapshotFullPacketUnreliable_eq,
    ← List.append_nil (BigEndian.bytes32 lastProcessed)]
  unfold deserializeServerSnapshotFullPacketUnreliable
  dsimp only
  rw [ByteReader.ofBytes_eq_after, ByteReader.readU8_after (by simp [ByteReader.Addressable])]
  simp only [Option.bind_eq_bind, Option.bind_some, hbyte, ne_eq, not_true_eq_false, if_false]
  rw [ByteReader.readU32_after (by simp [ByteReader.Addressable])]
  simp only [Option.bind_some]
  rw [ByteReader.readU64_after (by simp [ByteReader.Addressable])]
  simp only [Option.bind_some]
  rw [ByteReader.readU64_after (by simp [ByteReader.Addressable])]
  simp only [Option.bind_some]
  rw [ByteReader.readU32_after (by simp [ByteReader.Addressable])]
  simp only [Option.bind_some, ByteReader.empty_after_nil, Bool.not_true, Bool.false_eq_true,
    if_false]

/-- Only snapshots are read as such. -/
theorem type_of_deserializeServerSnapshotFullPacketUnreliable {bytes : List UInt8}
    {packet : ServerSnapshotFullPacketUnreliable}
    (h : deserializeServerSnapshotFullPacketUnreliable bytes = some packet) :
    packet.type = .serverSnapshotFullPacketUnreliable := by
  unfold deserializeServerSnapshotFullPacketUnreliable at h
  simp only [Option.bind_eq_bind, Option.bind_eq_some_iff] at h
  obtain ⟨_, _, h⟩ := h
  split at h
  · cases h
  · simp only [Option.bind_eq_some_iff] at h
    obtain ⟨_, _, _, _, _, _, _, _, h⟩ := h
    split at h
    · cases h
    · cases h
      rfl

end RcnetServer
