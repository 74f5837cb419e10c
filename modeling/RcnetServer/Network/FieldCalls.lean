/-
  RcnetServer.Network.FieldCalls

  Sequences of `ByteWriter` and `ByteReader` calls.

  A `Field` is a value with the call that reads it back.  `writeFields` and
  `readFields` chain the calls and give up where one fails; `call` is a single call
  with the reader it leaves, also when it fails: `readString` has then already taken
  the length.
-/

import RcnetServer.Network.ReadProgram

namespace RcnetServer

-- ============================================================================
-- Fields
-- ============================================================================

/-- A value and the call that asks for it: a block with its size, a string with a
    bound that its length meets. -/
structure Field where
  request : ReadRequest
  value : request.Value
  fits : request.Fits value

/-- What a read of the field yields. -/
def Field.read (field : Field) : Σ request : ReadRequest, request.Value :=
  ⟨field.request, field.value⟩

/-- The bytes of the field. -/
def Field.encode (field : Field) : List UInt8 := field.request.encode field.value

namespace ByteWriter

/-- The call that writes the value; a string that is too long throws (`none`). -/
def write (w : ByteWriter) : (request : ReadRequest) → request.Value → Option ByteWriter
  | .u8, value => some (w.writeU8 value)
  | .u16, value => some (w.writeU16 value)
  | .u32, value => some (w.writeU32 value)
  | .u64, value => some (w.writeU64 value)
  | .bytes _, value => some (w.writeBytes value)
  | .string _, value => w.writeString value

def writeFields (w : ByteWriter) : List Field → Option ByteWriter
  | [] => some w
  | field :: fields => (w.write field.request field.value).bind fun w => w.writeFields fields

/-- A field that fits is written, behind what is there. -/
theorem write_field (w : ByteWriter) (field : Field) :
    w.write field.request field.value = some ⟨w.buffer ++ field.encode⟩ := by
  obtain ⟨request, value, hfits⟩ := field
  cases request with
  | string maxLength =>
      show w.writeString value = _
      rw [writeString_of_le w (Nat.le_of_lt_succ hfits.1)]
      exact congrArg (some ∘ ByteWriter.mk) (List.append_assoc _ _ _)
  | _ => rfl

theorem writeFields_eq (w : ByteWriter) (fields : List Field) :
    w.writeFields fields = some ⟨w.buffer ++ fields.flatMap Field.encode⟩ := by
  induction fields generalizing w with
  | nil => rw [writeFields, List.flatMap_nil, List.append_nil]
  | cons field fields ih =>
      rw [writeFields, write_field, Option.bind_some, ih, List.flatMap_cons, List.append_assoc]

end ByteWriter

-- ============================================================================
-- Reads
-- ============================================================================

namespace ByteReader

/-- Reads one after the other, up to the first that fails. -/
def readFields (r : ByteReader) :
    List ReadRequest → Option (List (Σ request : ReadRequest, request.Value) × ByteReader)
  | [] => some ([], r)
  | request :: requests =>
      (r.read request).bind fun x =>
        (x.2.readFields requests).map fun y => (⟨request, x.1⟩ :: y.1, y.2)

/-- `readString`, with the reader it leaves. -/
def callString (r : ByteReader) (maxLength : UInt64) : Option (List UInt8) × ByteReader :=
  match r.readU16 with
  | none => (none, r)
  | some (length, r) =>
      if length.toUInt64 > maxLength then (none, r)
      else if r.canRead length.toUInt64 then
        (some ((r.data.drop r.offset.toNat).take length.toNat),
          { r with offset := r.offset + length.toUInt64 })
      else (none, r)

/-- The result of a call and the reader it leaves. -/
def call (r : ByteReader) : (request : ReadRequest) → Option request.Value × ByteReader
  | .string maxLength => r.callString maxLength
  | request =>
      match r.read request with
      | none => (none, r)
      | some (value, r) => (some value, r)

end ByteReader

end RcnetServer
