/-
  RcnetServer.Network.ByteStream

  `ByteReader` and `ByteWriter` (network/serialization): the big-endian field
  codec under every packet.

  The reader keeps the source's three members.  `size` and `offset` are
  `size_t`, so the bound check of `canRead` is taken modulo 2^64 as the machine
  takes it.  A read that succeeds returns the value and the advanced reader; a
  read that fails returns `none` and the caller gives up on the packet.
-/

import Mathlib.Algebra.Group.Nat.Defs

namespace RcnetServer

/-! ## ByteWriter -/

/-- `ByteWriter`: the bytes written so far (`buffer_`). -/
structure ByteWriter where
  buffer : List UInt8 := []

namespace ByteWriter

def writeU8 (w : ByteWriter) (value : UInt8) : ByteWriter :=
  ⟨w.buffer ++ [value]⟩

def writeU16 (w : ByteWriter) (value : UInt16) : ByteWriter :=
  ⟨w.buffer ++ [((value >>> 8) &&& 0xFF).toUInt8, (value &&& 0xFF).toUInt8]⟩

def writeU32 (w : ByteWriter) (value : UInt32) : ByteWriter :=
  ⟨w.buffer ++ [((value >>> 24) &&& 0xFF).toUInt8, ((value >>> 16) &&& 0xFF).toUInt8,
    ((value >>> 8) &&& 0xFF).toUInt8, (value &&& 0xFF).toUInt8]⟩

def writeU64 (w : ByteWriter) (value : UInt64) : ByteWriter :=
  ⟨w.buffer ++ [((value >>> 56) &&& 0xFF).toUInt8, ((value >>> 48) &&& 0xFF).toUInt8,
    ((value >>> 40) &&& 0xFF).toUInt8, ((value >>> 32) &&& 0xFF).toUInt8,
    ((value >>> 24) &&& 0xFF).toUInt8, ((value >>> 16) &&& 0xFF).toUInt8,
    ((value >>> 8) &&& 0xFF).toUInt8, (value &&& 0xFF).toUInt8]⟩

def writeBytes (w : ByteWriter) (data : List UInt8) : ByteWriter :=
  ⟨w.buffer ++ data⟩

/-- A string of more than `UINT16_MAX` bytes throws (`none`). -/
def writeString (w : ByteWriter) (value : List UInt8) : Option ByteWriter :=
  if value.length > 65535 then none
  else some ((w.writeU16 value.length.toUInt16).writeBytes value)

end ByteWriter

/-! ## ByteReader -/

/-- `ByteReader`: the packet bytes, their announced size and the read offset. -/
structure ByteReader where
  data : List UInt8
  size : UInt64
  offset : UInt64 := 0

namespace ByteReader

/-- The reader over a whole buffer. -/
def ofBytes (data : List UInt8) : ByteReader := ⟨data, data.length.toUInt64, 0⟩

/-- `data_[i]`. -/
def byteAt (r : ByteReader) (i : UInt64) : UInt8 := r.data.getD i.toNat 0

/-- `(offset_ + byteCount) <= size_`, in `size_t` arithmetic. -/
def canRead (r : ByteReader) (byteCount : UInt64) : Bool :=
  r.offset + byteCount ≤ r.size

def empty (r : ByteReader) : Bool := r.offset = r.size

def remaining (r : ByteReader) : UInt64 := r.size - r.offset

def readU8 (r : ByteReader) : Option (UInt8 × ByteReader) :=
  if r.canRead 1 then
    some (r.byteAt r.offset, { r with offset := r.offset + 1 })
  else none

def readU16 (r : ByteReader) : Option (UInt16 × ByteReader) :=
  if r.canRead 2 then
    some (((r.byteAt r.offset).toUInt16 <<< 8) ||| (r.byteAt (r.offset + 1)).toUInt16,
      { r with offset := r.offset + 2 })
  else none

def readU32 (r : ByteReader) : Option (UInt32 × ByteReader) :=
  if r.canRead 4 then
    some (((r.byteAt r.offset).toUInt32 <<< 24) |||
        ((r.byteAt (r.offset + 1)).toUInt32 <<< 16) |||
        ((r.byteAt (r.offset + 2)).toUInt32 <<< 8) |||
        (r.byteAt (r.offset + 3)).toUInt32,
      { r with offset := r.offset + 4 })
  else none

def readU64 (r : ByteReader) : Option (UInt64 × ByteReader) :=
  if r.canRead 8 then
    some (((r.byteAt r.offset).toUInt64 <<< 56) |||
        ((r.byteAt (r.offset + 1)).toUInt64 <<< 48) |||
        ((r.byteAt (r.offset + 2)).toUInt64 <<< 40) |||
        ((r.byteAt (r.offset + 3)).toUInt64 <<< 32) |||
        ((r.byteAt (r.offset + 4)).toUInt64 <<< 24) |||
        ((r.byteAt (r.offset + 5)).toUInt64 <<< 16) |||
        ((r.byteAt (r.offset + 6)).toUInt64 <<< 8) |||
        (r.byteAt (r.offset + 7)).toUInt64,
      { r with offset := r.offset + 8 })
  else none

/-- The `size` bytes at the offset, as `memcpy` takes them. -/
def readBytes (r : ByteReader) (size : UInt64) : Option (List UInt8 × ByteReader) :=
  if r.canRead size then
    some ((r.data.drop r.offset.toNat).take size.toNat, { r with offset := r.offset + size })
  else none

def readString (r : ByteReader) (maxLength : UInt64) : Option (List UInt8 × ByteReader) :=
  match r.readU16 with
  | none => none
  | some (length, r) =>
      if length.toUInt64 > maxLength then none
      else if r.canRead length.toUInt64 then
        some ((r.data.drop r.offset.toNat).take length.toNat,
          { r with offset := r.offset + length.toUInt64 })
      else none

end ByteReader

end RcnetServer
