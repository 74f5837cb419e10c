/-
  RcnetServer.Network.Compression

  The compressor ENet calls for every datagram of a host (network/transport/compression).

  LZ4 is not part of the sources: its two functions are a parameter.  They take sizes
  as `int`, and the callbacks convert a `size_t` only after a range check.
-/

import Mathlib.Algebra.Group.Int.Defs
import Mathlib.Algebra.Group.Nat.Defs
import RcnetServer.Network.Fragments

namespace RcnetServer

-- ============================================================================
-- LZ4
-- ============================================================================

/-- What one call of LZ4 yields: its return value, an `int`, and the bytes it wrote at the
    start of the destination. -/
structure Lz4Result where
  code : Int
  bytes : List UInt8

/-- `LZ4_compress_HC(src, dst, srcSize, dstCapacity, LZ4HC_CLEVEL_MAX)` and
    `LZ4_decompress_safe(src, dst, compressedSize, dstCapacity)`. -/
structure Lz4 where
  compressHC : (src : List UInt8) → (srcSize dstCapacity : Int) → Lz4Result
  decompressSafe : (src : List UInt8) → (compressedSize dstCapacity : Int) → Lz4Result

/-- `std::numeric_limits<int>::max()`, as a `size_t`. -/
def intMax : UInt64 := 2147483647

/-- `static_cast<int>(size)`. -/
def castToInt (size : UInt64) : Int := Int.bmod size.toNat (2 ^ 32)

/-- `static_cast<size_t>(value)`. -/
def castToSize (value : Int) : UInt64 := UInt64.ofInt value

/-- In the range of `int` the cast keeps the value. -/
theorem castToInt_of_le {size : UInt64} (h : size ≤ intMax) : castToInt size = size.toNat := by
  have hle : size.toNat ≤ 2147483647 := UInt64.le_iff_toNat_le.mp h
  unfold castToInt
  rw [Int.bmod_def]
  split
  · omega
  · omega

/-- And back, for a value that is not negative. -/
theorem toNat_castToSize {value : Int} (h0 : 0 ≤ value) (h : value < 2 ^ 64) :
    (castToSize value).toNat = value.toNat := by
  show (UInt64.ofNat (value % 2 ^ 64).toNat).toNat = value.toNat
  rw [UInt64.toNat_ofNat', Int.emod_eq_of_lt h0 h]
  omega

-- ============================================================================
-- The callbacks
-- ============================================================================

namespace ServerNetworkCompression

/-- `ServerNetworkCompression_CopyInBuffersToContiguous`: the value returned and
    `outContiguous`, which is empty at the call. -/
def copyInBuffersToContiguous (inBuffers : Option (List ENetBuffer)) (inLimit : UInt64) :
    UInt64 × List UInt8 :=
  match inBuffers with
  | none => (0, [])
  | some buffers =>
      match copyFragments inLimit buffers 0 (List.replicate inLimit.toNat 0) with
      | (none, out) => (0, out)
      | (some copied, out) => (copied, out)

/-- `ServerNetworkCompression_Lz4CompressCallback`: the value returned, 0 for a datagram
    ENet sends uncompressed, and what has been written at `outData`. -/
def lz4CompressCallback (lz4 : Lz4) (inBuffers : Option (List ENetBuffer)) (inLimit : UInt64)
    (outDataIsNull : Bool) (outLimit : UInt64) : UInt64 × List UInt8 :=
  if inBuffers.isNone || outDataIsNull then (0, [])
  else if inLimit = 0 || outLimit = 0 then (0, [])
  else if inLimit > outLimit then (0, [])
  else if inLimit > intMax || outLimit > intMax then (0, [])
  else
    let input := copyInBuffersToContiguous inBuffers inLimit
    if input.1 ≠ inLimit then (0, [])
    else
      let result := lz4.compressHC input.2 (castToInt inLimit) (castToInt outLimit)
      if result.code ≤ 0 then (0, result.bytes)
      -- no gain: ENet sends the datagram as it is
      else if castToSize result.code ≥ inLimit then (0, result.bytes)
      else (castToSize result.code, result.bytes)

/-- `ServerNetworkCompression_Lz4DecompressCallback`: the value returned and what has been
    written at `outData`. -/
def lz4DecompressCallback (lz4 : Lz4) (inLimit : UInt64)
    (inData : Option { bytes : List UInt8 // bytes.length = inLimit.toNat })
    (outDataIsNull : Bool) (outLimit : UInt64) : UInt64 × List UInt8 :=
  match inData with
  | none => (0, [])
  | some inData =>
      if outDataIsNull then (0, [])
      else if inLimit = 0 || outLimit = 0 then (0, [])
      else if inLimit > intMax || outLimit > intMax then (0, [])
      else
        let result := lz4.decompressSafe inData.val (castToInt inLimit) (castToInt outLimit)
        if result.code < 0 then (0, result.bytes)
        else (castToSize result.code, result.bytes)

section Copy

variable {buffers : List ENetBuffer} {inBuffers : Option (List ENetBuffer)} {inLimit : UInt64}

/-- Fragments that hold the datagram are copied whole. -/
theorem copyInBuffersToContiguous_of_holdsBytes (h : HoldsBytes buffers inLimit.toNat) :
    copyInBuffersToContiguous (some buffers) inLimit =
      (inLimit, (concatenation buffers).take inLimit.toNat) := by
  simp only [copyInBuffersToContiguous, copyFragments_fresh h]

/-- The test of the compress callback. -/
theorem copyInBuffersToContiguous_fst_iff :
    (copyInBuffersToContiguous inBuffers inLimit).1 = inLimit ↔
      HoldsBytes (inBuffers.getD []) inLimit.toNat := by
  cases inBuffers with
  | none =>
      rw [Option.getD_none, holdsBytes_nil]
      exact ⟨fun h => h ▸ rfl, fun h => (UInt64.toNat_inj.mp h).symm⟩
  | some buffers =>
      have hroom : inLimit.toNat ≤ (List.replicate inLimit.toNat (0 : UInt8)).length := by
        rw [List.length_replicate]
      have hzero : (copyFragments inLimit buffers 0 (List.replicate inLimit.toNat 0)).1 ≠
          some inLimit → 0 ≠ inLimit := ne_zero_of_copyFragments_ne
      rw [Option.getD_some, ← copyFragments_fst_iff hroom]
      simp only [copyInBuffersToContiguous]
      generalize copyFragments inLimit buffers 0 (List.replicate inLimit.toNat 0) = result
        at hzero ⊢
      obtain ⟨_ | copied, out⟩ := result
      · exact iff_of_false (hzero (by simp)) (by simp)
      · exact Option.some_inj.symm

/-- Others are not copied whole. -/
theorem copyInBuffersToContiguous_of_not_holdsBytes (hpositive : inLimit ≠ 0)
    (h : ¬ ∃ buffers, inBuffers = some buffers ∧ HoldsBytes buffers inLimit.toNat) :
    (copyInBuffersToContiguous inBuffers inLimit).1 ≠ inLimit := by
  intro hsuccess
  have hholds := copyInBuffersToContiguous_fst_iff.mp hsuccess
  cases inBuffers with
  | none => exact hpositive (UInt64.toNat_inj.mp (holdsBytes_nil.mp hholds))
  | some buffers => exact h ⟨buffers, rfl, hholds⟩

end Copy

end ServerNetworkCompression

end RcnetServer
