/-
  RcnetServer.Lib.BigEndian

  Machine words as big-endian bytes, the way a codec spells them out: shifts and
  masks to write, shifts and disjunctions to read.

  Reading undoes writing (`word32_bytes32` and its siblings), so two words with the
  same bytes are equal; writing undoes reading (`bytes32_word32`), so any bytes of
  the right number are the bytes of a word.
-/

import Mathlib.Init

namespace BigEndian

/-- The two bytes of a 16-bit word, most significant first. -/
def bytes16 (v : UInt16) : List UInt8 :=
  [((v >>> 8) &&& 0xFF).toUInt8, (v &&& 0xFF).toUInt8]

/-- The four bytes of a 32-bit word, most significant first. -/
def bytes32 (v : UInt32) : List UInt8 :=
  [((v >>> 24) &&& 0xFF).toUInt8, ((v >>> 16) &&& 0xFF).toUInt8,
    ((v >>> 8) &&& 0xFF).toUInt8, (v &&& 0xFF).toUInt8]

/-- The eight bytes of a 64-bit word, most significant first. -/
def bytes64 (v : UInt64) : List UInt8 :=
  [((v >>> 56) &&& 0xFF).toUInt8, ((v >>> 48) &&& 0xFF).toUInt8,
    ((v >>> 40) &&& 0xFF).toUInt8, ((v >>> 32) &&& 0xFF).toUInt8,
    ((v >>> 24) &&& 0xFF).toUInt8, ((v >>> 16) &&& 0xFF).toUInt8,
    ((v >>> 8) &&& 0xFF).toUInt8, (v &&& 0xFF).toUInt8]

/-- The word whose byte `i` is `byte i`. -/
def word16 (byte : Nat → UInt8) : UInt16 :=
  ((byte 0).toUInt16 <<< 8) ||| (byte 1).toUInt16

def word32 (byte : Nat → UInt8) : UInt32 :=
  ((byte 0).toUInt32 <<< 24) ||| ((byte 1).toUInt32 <<< 16) |||
    ((byte 2).toUInt32 <<< 8) ||| (byte 3).toUInt32

def word64 (byte : Nat → UInt8) : UInt64 :=
  ((byte 0).toUInt64 <<< 56) ||| ((byte 1).toUInt64 <<< 48) |||
    ((byte 2).toUInt64 <<< 40) ||| ((byte 3).toUInt64 <<< 32) |||
    ((byte 4).toUInt64 <<< 24) ||| ((byte 5).toUInt64 <<< 16) |||
    ((byte 6).toUInt64 <<< 8) ||| (byte 7).toUInt64

@[simp] theorem length_bytes16 (v : UInt16) : (bytes16 v).length = 2 := rfl

@[simp] theorem length_bytes32 (v : UInt32) : (bytes32 v).length = 4 := rfl

@[simp] theorem length_bytes64 (v : UInt64) : (bytes64 v).length = 8 := rfl

/-- The mask does nothing before a truncation to a byte. -/
theorem toUInt8_and_mask16 (w : UInt16) : (w &&& 0xFF).toUInt8 = w.toUInt8 := by
  rw [UInt16.toUInt8_and]
  exact UInt8.and_neg_one

theorem toUInt8_and_mask32 (w : UInt32) : (w &&& 0xFF).toUInt8 = w.toUInt8 := by
  rw [UInt32.toUInt8_and]
  exact UInt8.and_neg_one

theorem toUInt8_and_mask64 (w : UInt64) : (w &&& 0xFF).toUInt8 = w.toUInt8 := by
  rw [UInt64.toUInt8_and]
  exact UInt8.and_neg_one

/-- The bits of a word that is shifted by fewer places than it has. -/
theorem getLsbD_shiftLeft16 (w : UInt16) {k : UInt16} (hk : k.toNat < 16) (i : Nat) :
    (w <<< k).toBitVec.getLsbD i =
      (decide (i < 16) && !decide (i < k.toNat) && w.toBitVec.getLsbD (i - k.toNat)) := by
  have hmod : (k.toBitVec % 16).toNat = k.toNat := Nat.mod_eq_of_lt hk
  rw [UInt16.toBitVec_shiftLeft, BitVec.shiftLeft_eq', hmod, BitVec.getLsbD_shiftLeft]

theorem getLsbD_shiftRight16 (w : UInt16) {k : UInt16} (hk : k.toNat < 16) (i : Nat) :
    (w >>> k).toBitVec.getLsbD i = w.toBitVec.getLsbD (k.toNat + i) := by
  have hmod : (k.toBitVec % 16).toNat = k.toNat := Nat.mod_eq_of_lt hk
  rw [UInt16.toBitVec_shiftRight, BitVec.ushiftRight_eq', hmod, BitVec.getLsbD_ushiftRight]

theorem getLsbD_shiftLeft32 (w : UInt32) {k : UInt32} (hk : k.toNat < 32) (i : Nat) :
    (w <<< k).toBitVec.getLsbD i =
      (decide (i < 32) && !decide (i < k.toNat) && w.toBitVec.getLsbD (i - k.toNat)) := by
  have hmod : (k.toBitVec % 32).toNat = k.toNat := Nat.mod_eq_of_lt hk
  rw [UInt32.toBitVec_shiftLeft, BitVec.shiftLeft_eq', hmod, BitVec.getLsbD_shiftLeft]

theorem getLsbD_shiftRight32 (w : UInt32) {k : UInt32} (hk : k.toNat < 32) (i : Nat) :
    (w >>> k).toBitVec.getLsbD i = w.toBitVec.getLsbD (k.toNat + i) := by
  have hmod : (k.toBitVec % 32).toNat = k.toNat := Nat.mod_eq_of_lt hk
  rw [UInt32.toBitVec_shiftRight, BitVec.ushiftRight_eq', hmod, BitVec.getLsbD_ushiftRight]

theorem getLsbD_shiftLeft64 (w : UInt64) {k : UInt64} (hk : k.toNat < 64) (i : Nat) :
    (w <<< k).toBitVec.getLsbD i =
      (decide (i < 64) && !decide (i < k.toNat) && w.toBitVec.getLsbD (i - k.toNat)) := by
  have hmod : (k.toBitVec % 64).toNat = k.toNat := Nat.mod_eq_of_lt hk
  rw [UInt64.toBitVec_shiftLeft, BitVec.shiftLeft_eq', hmod, BitVec.getLsbD_shiftLeft]

theorem getLsbD_shiftRight64 (w : UInt64) {k : UInt64} (hk : k.toNat < 64) (i : Nat) :
    (w >>> k).toBitVec.getLsbD i = w.toBitVec.getLsbD (k.toNat + i) := by
  have hmod : (k.toBitVec % 64).toNat = k.toNat := Nat.mod_eq_of_lt hk
  rw [UInt64.toBitVec_shiftRight, BitVec.ushiftRight_eq', hmod, BitVec.getLsbD_ushiftRight]

/-- The bytes of a word make up the word. -/
theorem word16_bytes16 (v : UInt16) : word16 (fun i => (bytes16 v).getD i 0) = v := by
  show ((v >>> 8 &&& 0xFF).toUInt8.toUInt16 <<< 8) ||| (v &&& 0xFF).toUInt8.toUInt16 = v
  simp only [toUInt8_and_mask16]
  apply UInt16.toBitVec_inj.mp
  apply BitVec.eq_of_getLsbD_eq
  intro i hi
  simp (disch := decide) only [UInt16.toBitVec_or, BitVec.getLsbD_or, getLsbD_shiftLeft16,
    getLsbD_shiftRight16, UInt16.reduceToNat, UInt8.toBitVec_toUInt16, UInt16.toBitVec_toUInt8,
    BitVec.getLsbD_setWidth]
  grind

theorem word32_bytes32 (v : UInt32) : word32 (fun i => (bytes32 v).getD i 0) = v := by
  show ((v >>> 24 &&& 0xFF).toUInt8.toUInt32 <<< 24)
    ||| ((v >>> 16 &&& 0xFF).toUInt8.toUInt32 <<< 16)
    ||| ((v >>> 8 &&& 0xFF).toUInt8.toUInt32 <<< 8) ||| (v &&& 0xFF).toUInt8.toUInt32 = v
  simp only [toUInt8_and_mask32]
  apply UInt32.toBitVec_inj.mp
  -- bit `i` of the word comes from the byte that covers it
  apply BitVec.eq_of_getLsbD_eq
  intro i hi
  simp (disch := decide) only [UInt32.toBitVec_or, BitVec.getLsbD_or, getLsbD_shiftLeft32,
    getLsbD_shiftRight32, UInt32.reduceToNat, UInt8.toBitVec_toUInt32, UInt32.toBitVec_toUInt8,
    BitVec.getLsbD_setWidth]
  grind

theorem word64_bytes64 (v : UInt64) : word64 (fun i => (bytes64 v).getD i 0) = v := by
  show ((v >>> 56 &&& 0xFF).toUInt8.toUInt64 <<< 56)
    ||| ((v >>> 48 &&& 0xFF).toUInt8.toUInt64 <<< 48)
    ||| ((v >>> 40 &&& 0xFF).toUInt8.toUInt64 <<< 40)
    ||| ((v >>> 32 &&& 0xFF).toUInt8.toUInt64 <<< 32)
    ||| ((v >>> 24 &&& 0xFF).toUInt8.toUInt64 <<< 24)
    ||| ((v >>> 16 &&& 0xFF).toUInt8.toUInt64 <<< 16)
    ||| ((v >>> 8 &&& 0xFF).toUInt8.toUInt64 <<< 8) ||| (v &&& 0xFF).toUInt8.toUInt64 = v
  simp only [toUInt8_and_mask64]
  apply UInt64.toBitVec_inj.mp
  apply BitVec.eq_of_getLsbD_eq
  intro i hi
  simp (disch := decide) only [UInt64.toBitVec_or, BitVec.getLsbD_or, getLsbD_shiftLeft64,
    getLsbD_shiftRight64, UInt64.reduceToNat, UInt8.toBitVec_toUInt64, UInt64.toBitVec_toUInt8,
    BitVec.getLsbD_setWidth]
  grind

/-- The word made up of some bytes has these bytes. -/
theorem bytes16_word16 (byte : Nat → UInt8) : bytes16 (word16 byte) = [byte 0, byte 1] := by
  simp only [bytes16, word16, toUInt8_and_mask16, List.cons.injEq, and_true]
  refine ⟨?_, ?_⟩ <;>
  · apply UInt8.toBitVec_inj.mp
    apply BitVec.eq_of_getLsbD_eq
    intro i hi
    simp (disch := decide) only [UInt16.toBitVec_or, BitVec.getLsbD_or, getLsbD_shiftLeft16,
      getLsbD_shiftRight16, UInt16.reduceToNat, UInt8.toBitVec_toUInt16, UInt16.toBitVec_toUInt8,
      BitVec.getLsbD_setWidth]
    grind

theorem bytes32_word32 (byte : Nat → UInt8) :
    bytes32 (word32 byte) = [byte 0, byte 1, byte 2, byte 3] := by
  simp only [bytes32, word32, toUInt8_and_mask32, List.cons.injEq, and_true]
  refine ⟨?_, ?_, ?_, ?_⟩ <;>
  · apply UInt8.toBitVec_inj.mp
    apply BitVec.eq_of_getLsbD_eq
    intro i hi
    simp (disch := decide) only [UInt32.toBitVec_or, BitVec.getLsbD_or, getLsbD_shiftLeft32,
      getLsbD_shiftRight32, UInt32.reduceToNat, UInt8.toBitVec_toUInt32, UInt32.toBitVec_toUInt8,
      BitVec.getLsbD_setWidth]
    grind

theorem bytes64_word64 (byte : Nat → UInt8) :
    bytes64 (word64 byte) =
      [byte 0, byte 1, byte 2, byte 3, byte 4, byte 5, byte 6, byte 7] := by
  simp only [bytes64, word64, toUInt8_and_mask64, List.cons.injEq, and_true]
  refine ⟨?_, ?_, ?_, ?_, ?_, ?_, ?_, ?_⟩ <;>
  · apply UInt8.toBitVec_inj.mp
    apply BitVec.eq_of_getLsbD_eq
    intro i hi
    simp (disch := decide) only [UInt64.toBitVec_or, BitVec.getLsbD_or, getLsbD_shiftLeft64,
      getLsbD_shiftRight64, UInt64.reduceToNat, UInt8.toBitVec_toUInt64, UInt64.toBitVec_toUInt8,
      BitVec.getLsbD_setWidth]
    grind

/-- Data that is long enough begins with the bytes of a word. -/
theorem exists_eq_bytes16_append {data : List UInt8} (h : 2 ≤ data.length) :
    ∃ v rest, data = bytes16 v ++ rest := by
  match data, h with
  | a :: b :: rest, _ => exact ⟨word16 fun i => [a, b].getD i 0, rest, by rw [bytes16_word16]; rfl⟩

theorem exists_eq_bytes32_append {data : List UInt8} (h : 4 ≤ data.length) :
    ∃ v rest, data = bytes32 v ++ rest := by
  match data, h with
  | a :: b :: c :: d :: rest, _ =>
      exact ⟨word32 fun i => [a, b, c, d].getD i 0, rest, by rw [bytes32_word32]; rfl⟩

theorem exists_eq_bytes64_append {data : List UInt8} (h : 8 ≤ data.length) :
    ∃ v rest, data = bytes64 v ++ rest := by
  match data, h with
  | a :: b :: c :: d :: e :: f :: g :: k :: rest, _ =>
      exact ⟨word64 fun i => [a, b, c, d, e, f, g, k].getD i 0, rest, by
        rw [bytes64_word64]
        rfl⟩

/-- A word is determined by its bytes. -/
theorem bytes16_injective {v w : UInt16} (h : bytes16 v = bytes16 w) : v = w := by
  rw [← word16_bytes16 v, h, word16_bytes16]

theorem bytes32_injective {v w : UInt32} (h : bytes32 v = bytes32 w) : v = w := by
  rw [← word32_bytes32 v, h, word32_bytes32]

theorem bytes64_injective {v w : UInt64} (h : bytes64 v = bytes64 w) : v = w := by
  rw [← word64_bytes64 v, h, word64_bytes64]

end BigEndian
