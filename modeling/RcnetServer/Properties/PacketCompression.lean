/-
  RcnetServer.Properties.PacketCompression

  Compression is lossless and never expands.

  What LZ4 is relied on for is `Lz4.Lawful`.  The compress callback returns a size only
  if every check before and after LZ4 passes; the decompress callback then restores the
  first `inLimit` bytes of the fragments, and it never returns more than it was given
  room for.
-/

import RcnetServer.Network.Compression

namespace RcnetServer

/-- LZ4 as it documents itself. -/
structure Lz4.Lawful (lz4 : Lz4) : Prop where
  /-- A positive result is the number of bytes written, and they fit. -/
  compress_capacity : ∀ src srcSize dstCapacity,
    0 < (lz4.compressHC src srcSize dstCapacity).code →
    (lz4.compressHC src srcSize dstCapacity).code ≤ dstCapacity ∧
      (lz4.compressHC src srcSize dstCapacity).bytes.length =
        (lz4.compressHC src srcSize dstCapacity).code.toNat
  /-- So is a result of the decompressor that is not negative. -/
  decompress_capacity : ∀ src compressedSize dstCapacity,
    0 ≤ (lz4.decompressSafe src compressedSize dstCapacity).code →
    (lz4.decompressSafe src compressedSize dstCapacity).code ≤ dstCapacity
  /-- With enough room the decompressor restores the source. -/
  decompress_compress : ∀ (src : List UInt8) (dstCapacity room : Int),
    0 < (lz4.compressHC src src.length dstCapacity).code → src.length ≤ room →
    room ≤ 2147483647 →
    lz4.decompressSafe (lz4.compressHC src src.length dstCapacity).bytes
        (lz4.compressHC src src.length dstCapacity).code room =
      { code := src.length, bytes := src }

section Callbacks

open ServerNetworkCompression

variable {lz4 : Lz4} {inBuffers : Option (List ENetBuffer)} {buffers : List ENetBuffer}
  {inLimit outLimit : UInt64} {outDataIsNull : Bool}

/-- Every check of the compress callback passes: the pointers and sizes are in order, the
    fragments hold the datagram, and LZ4 makes it shorter. -/
def Compresses (lz4 : Lz4) (inBuffers : Option (List ENetBuffer)) (inLimit : UInt64)
    (outDataIsNull : Bool) (outLimit : UInt64) : Prop :=
  outDataIsNull = false ∧ inLimit ≠ 0 ∧ inLimit ≤ outLimit ∧ outLimit ≤ intMax ∧
  ∃ buffers, inBuffers = some buffers ∧ HoldsBytes buffers inLimit.toNat ∧
    let result := lz4.compressHC ((concatenation buffers).take inLimit.toNat) inLimit.toNat
      outLimit.toNat
    0 < result.code ∧ castToSize result.code < inLimit

/-- Then LZ4 has been given the sizes themselves, and its result is returned. -/
theorem lz4CompressCallback_of_holdsBytes (lz4 : Lz4) (hnull : outDataIsNull = false)
    (hpositive : inLimit ≠ 0) (hlimit : inLimit ≤ outLimit) (hmax : outLimit ≤ intMax)
    (hholds : HoldsBytes buffers inLimit.toNat) :
    lz4CompressCallback lz4 (some buffers) inLimit outDataIsNull outLimit =
      let result := lz4.compressHC ((concatenation buffers).take inLimit.toNat) inLimit.toNat
        outLimit.toNat
      if result.code ≤ 0 then (0, result.bytes)
      else if castToSize result.code ≥ inLimit then (0, result.bytes)
      else (castToSize result.code, result.bytes) := by
  have hout : outLimit ≠ 0 := by
    rintro rfl
    exact hpositive (UInt64.le_zero_iff.mp hlimit)
  have hin : inLimit ≤ intMax := UInt64.le_trans hlimit hmax
  simp only [lz4CompressCallback, copyInBuffersToContiguous_of_holdsBytes hholds,
    castToInt_of_le hin, castToInt_of_le hmax, hnull, hpositive, hout, UInt64.not_lt.mpr hlimit,
    UInt64.not_lt.mpr hin, UInt64.not_lt.mpr hmax, Option.isNone_some, Bool.or_self, decide_false,
    Bool.false_eq_true, if_false, ne_eq, not_true_eq_false]

/-- A positive result of LZ4 is the same number as a `size_t`. -/
theorem toNat_castToSize_code (hlz4 : lz4.Lawful) {src : List UInt8} {srcSize : Int}
    (hmax : outLimit ≤ intMax) (hcode : 0 < (lz4.compressHC src srcSize outLimit.toNat).code) :
    (castToSize (lz4.compressHC src srcSize outLimit.toNat).code).toNat =
      (lz4.compressHC src srcSize outLimit.toNat).code.toNat := by
  have hcapacity := (hlz4.compress_capacity src srcSize outLimit.toNat hcode).1
  have hout : outLimit.toNat ≤ 2147483647 := UInt64.le_iff_toNat_le.mp hmax
  exact toNat_castToSize (by omega) (by omega)

/-- A size is returned behind every check. -/
theorem compresses_of_ne_zero
    (hreturned : (lz4CompressCallback lz4 inBuffers inLimit outDataIsNull outLimit).1 ≠ 0) :
    Compresses lz4 inBuffers inLimit outDataIsNull outLimit := by
  have h := hreturned
  unfold lz4CompressCallback at h
  split at h
  · exact absurd rfl h
  rename_i hpointers
  split at h
  · exact absurd rfl h
  rename_i hsizes
  split at h
  · exact absurd rfl h
  rename_i hlimit
  split at h
  · exact absurd rfl h
  rename_i hmax
  simp only at h
  split at h
  · exact absurd rfl h
  rename_i hcopied
  simp only [Bool.or_eq_true, not_or, decide_eq_true_eq] at hpointers hsizes hmax
  have hnull : outDataIsNull = false := Bool.not_eq_true _ ▸ hpointers.2
  have hle := UInt64.not_lt.mp hlimit
  have hout := UInt64.not_lt.mp hmax.2
  have hholds : ∃ buffers, inBuffers = some buffers ∧ HoldsBytes buffers inLimit.toNat := by
    by_contra hnot
    exact hcopied (copyInBuffersToContiguous_of_not_holdsBytes hsizes.1 hnot)
  obtain ⟨buffers, rfl, hholds⟩ := hholds
  refine ⟨hnull, hsizes.1, hle, hout, buffers, rfl, hholds, ?_⟩
  -- the two checks after LZ4
  rw [lz4CompressCallback_of_holdsBytes lz4 hnull hsizes.1 hle hout hholds] at hreturned
  simp only at hreturned
  split at hreturned
  · exact absurd rfl hreturned
  rename_i hcode
  split at hreturned
  · exact absurd rfl hreturned
  rename_i hsmaller
  exact ⟨Int.not_le.mp hcode, UInt64.not_le.mp hsmaller⟩

/-- The compress callback returns a size exactly if every check passes. -/
theorem lz4CompressCallback_ne_zero_iff (hlz4 : lz4.Lawful) :
    (lz4CompressCallback lz4 inBuffers inLimit outDataIsNull outLimit).1 ≠ 0 ↔
      Compresses lz4 inBuffers inLimit outDataIsNull outLimit := by
  refine ⟨compresses_of_ne_zero, ?_⟩
  rintro ⟨hnull, hpositive, hlimit, hmax, buffers, rfl, hholds, hcode, hsmaller⟩
  rw [lz4CompressCallback_of_holdsBytes lz4 hnull hpositive hlimit hmax hholds]
  simp only
  rw [if_neg (Int.not_le.mpr hcode), if_neg (UInt64.not_le.mpr hsmaller)]
  have hsize := toNat_castToSize_code hlz4 hmax hcode
  intro hzero
  have hcodeZero := congrArg UInt64.toNat hzero
  rw [UInt64.toNat_zero, hsize] at hcodeZero
  omega

/-- What the decompress callback does with what LZ4 restores. -/
theorem lz4DecompressCallback_eq {n limit : UInt64}
    (received : { bytes : List UInt8 // bytes.length = n.toNat }) (src : List UInt8)
    (hn : n ≠ 0) (hnmax : n ≤ intMax) (hpositive : limit ≠ 0) (hmax : limit ≤ intMax)
    (hsrc : src.length < 2 ^ 64)
    (hrestored : lz4.decompressSafe received.val n.toNat limit.toNat =
      { code := src.length, bytes := src }) :
    lz4DecompressCallback lz4 n (some received) false limit = (UInt64.ofNat src.length, src) := by
  have hcast : castToSize (src.length : Int) = UInt64.ofNat src.length := by
    apply UInt64.toNat_inj.mp
    rw [toNat_castToSize (by omega) (by omega), UInt64.toNat_ofNat']
    omega
  have hcode : ¬ (src.length : Int) < 0 := by omega
  simp only [lz4DecompressCallback, castToInt_of_le hnmax, castToInt_of_le hmax, hrestored, hn,
    hpositive, UInt64.not_lt.mpr hnmax, UInt64.not_lt.mpr hmax, hcast, if_neg hcode,
    Bool.false_eq_true, if_false, decide_false, Bool.or_self]

/-- The decompress callback stays within the room it was given. -/
theorem lz4DecompressCallback_le (hlz4 : lz4.Lawful)
    (inData : Option { bytes : List UInt8 // bytes.length = inLimit.toNat }) :
    (lz4DecompressCallback lz4 inLimit inData outDataIsNull outLimit).1 ≤ outLimit := by
  have hzero : (0 : UInt64) ≤ outLimit := UInt64.le_iff_toNat_le.mpr (Nat.zero_le _)
  unfold lz4DecompressCallback
  split
  · exact hzero
  rename_i inData
  split
  · exact hzero
  split
  · exact hzero
  split
  · exact hzero
  rename_i hmax
  simp only [Bool.or_eq_true, not_or, decide_eq_true_eq] at hmax
  have hout := UInt64.not_lt.mp hmax.2
  have houtMax : outLimit.toNat ≤ 2147483647 := UInt64.le_iff_toNat_le.mp hout
  simp only
  split
  · exact hzero
  · rename_i hcode
    have hcapacity := hlz4.decompress_capacity _ _ _ (Int.not_lt.mp hcode)
    rw [castToInt_of_le hout] at hcapacity hcode ⊢
    rw [UInt64.le_iff_toNat_le]
    dsimp only
    rw [toNat_castToSize (by omega) (by omega)]
    omega

end Callbacks

-- ============================================================================
-- Lossless compression
-- ============================================================================

/-- A datagram that is compressed gets shorter, was measured with sizes LZ4's `int`
    holds, and comes out of the decompress callback as it was. -/
def CompressesLosslessly (lz4 : Lz4) : Prop :=
  ∀ (inBuffers : Option (List ENetBuffer)) (inLimit : UInt64) (outDataIsNull : Bool)
    (outLimit : UInt64),
    let sent := ServerNetworkCompression.lz4CompressCallback lz4 inBuffers inLimit outDataIsNull
      outLimit
    (sent.1 ≠ 0 ↔ Compresses lz4 inBuffers inLimit outDataIsNull outLimit) ∧
    (sent.1 ≠ 0 → sent.1 < inLimit ∧ inLimit ≤ outLimit ∧
      castToInt inLimit = inLimit.toNat ∧ castToInt outLimit = outLimit.toNat ∧
      ∃ buffers, inBuffers = some buffers ∧ HoldsBytes buffers inLimit.toNat ∧
        inLimit.toNat ≤ (concatenation buffers).length ∧ sent.2.length = sent.1.toNat ∧
        ∀ (received : { bytes : List UInt8 // bytes.length = sent.1.toNat }) (limit : UInt64),
          received.val = sent.2 → inLimit ≤ limit → limit ≤ intMax →
          ServerNetworkCompression.lz4DecompressCallback lz4 sent.1 (some received) false limit =
            (inLimit, (concatenation buffers).take inLimit.toNat))

/-- No decompressed datagram is longer than the room for it. -/
def DecompressesWithin (lz4 : Lz4) : Prop :=
  ∀ (inLimit : UInt64) (inData : Option { bytes : List UInt8 // bytes.length = inLimit.toNat })
    (outDataIsNull : Bool) (outLimit : UInt64),
    (ServerNetworkCompression.lz4DecompressCallback lz4 inLimit inData outDataIsNull outLimit).1 ≤
      outLimit

/-- What LZ4 made of `inLimit` bytes comes out of the decompress callback as it was. -/
theorem lz4DecompressCallback_of_compressed {lz4 : Lz4} (hlz4 : lz4.Lawful) {src : List UInt8}
    {inLimit outLimit : UInt64} (hsrc : src.length = inLimit.toNat) (hlimit : inLimit ≤ outLimit)
    (hmax : outLimit ≤ intMax)
    (hcode : 0 < (lz4.compressHC src inLimit.toNat outLimit.toNat).code)
    (hsmaller : castToSize (lz4.compressHC src inLimit.toNat outLimit.toNat).code < inLimit)
    {received : List UInt8}
    (hlength : received.length =
      (castToSize (lz4.compressHC src inLimit.toNat outLimit.toNat).code).toNat)
    (hreceived : received = (lz4.compressHC src inLimit.toNat outLimit.toNat).bytes)
    {limit : UInt64} (hroom : inLimit ≤ limit) (hroomMax : limit ≤ intMax) :
    ServerNetworkCompression.lz4DecompressCallback lz4
        (castToSize (lz4.compressHC src inLimit.toNat outLimit.toNat).code)
        (some ⟨received, hlength⟩) false limit = (inLimit, src) := by
  subst hreceived
  have hsize := toNat_castToSize_code hlz4 hmax hcode
  have hpositive : castToSize (lz4.compressHC src inLimit.toNat outLimit.toNat).code ≠ 0 := by
    intro hzero
    rw [hzero, UInt64.toNat_zero] at hsize
    omega
  have hcodeInt : ((castToSize (lz4.compressHC src inLimit.toNat outLimit.toNat).code).toNat : Int)
      = (lz4.compressHC src inLimit.toNat outLimit.toNat).code := by
    rw [hsize]
    omega
  have hle := UInt64.le_iff_toNat_le.mp hlimit
  have hroomNat := UInt64.le_iff_toNat_le.mp hroom
  have hroomInt : limit.toNat ≤ 2147483647 := UInt64.le_iff_toNat_le.mp hroomMax
  have hlimitPositive : limit ≠ 0 := by
    rintro rfl
    have hless := UInt64.lt_iff_toNat_lt.mp hsmaller
    rw [UInt64.toNat_zero] at hroomNat
    omega
  have hrestored := hlz4.decompress_compress src outLimit.toNat limit.toNat
  rw [hsrc] at hrestored
  have hdecompressed := lz4DecompressCallback_eq ⟨_, hlength⟩ src hpositive
    (UInt64.le_trans (UInt64.le_of_lt hsmaller) (UInt64.le_trans hlimit hmax)) hlimitPositive
    hroomMax (by rw [hsrc]; exact inLimit.toNat_lt) (by
      rw [hsrc, hcodeInt]
      exact hrestored hcode (by omega) (by omega))
  rw [hdecompressed, hsrc, UInt64.ofNat_toNat]

/-- Under the documented behaviour of LZ4, both hold. -/
theorem packet_compression_lossless {lz4 : Lz4} (hlz4 : lz4.Lawful) :
    CompressesLosslessly lz4 ∧ DecompressesWithin lz4 := by
  refine ⟨?_, fun _ inData _ _ => lz4DecompressCallback_le hlz4 inData⟩
  intro inBuffers inLimit outDataIsNull outLimit sent
  refine ⟨lz4CompressCallback_ne_zero_iff hlz4, ?_⟩
  intro hsentNonzero
  obtain ⟨hnull, hpositive, hlimit, hmax, buffers, rfl, hholds, hcode, hsmaller⟩ :=
    (lz4CompressCallback_ne_zero_iff hlz4).mp hsentNonzero
  have hin : inLimit ≤ intMax := UInt64.le_trans hlimit hmax
  have hsent : sent = _ := lz4CompressCallback_of_holdsBytes lz4 hnull hpositive hlimit
    hmax hholds
  simp only at hsent hcode hsmaller
  rw [if_neg (Int.not_le.mpr hcode), if_neg (UInt64.not_le.mpr hsmaller)] at hsent
  clear_value sent
  subst hsent
  have hsrc : ((concatenation buffers).take inLimit.toNat).length = inLimit.toNat :=
    List.length_take_of_le hholds.le_length
  have hsize := toNat_castToSize_code hlz4 hmax hcode
  have hwritten := (hlz4.compress_capacity _ _ _ hcode).2
  refine ⟨hsmaller, hlimit, castToInt_of_le hin, castToInt_of_le hmax, buffers, rfl, hholds,
    hholds.le_length, hwritten.trans hsize.symm, ?_⟩
  rintro ⟨received, hlength⟩ limit hreceived hroom hroomMax
  exact lz4DecompressCallback_of_compressed hlz4 hsrc hlimit hmax hcode hsmaller hlength
    hreceived hroom hroomMax

-- ============================================================================
-- A concrete compressor
-- ============================================================================

/-- What LZ4 makes of 100 zeros: one literal, a match of 94 bytes at offset 1, and the last
    five literals. -/
def zerosBlock : List UInt8 :=
  [0x1F, 0x00, 0x01, 0x00, 0x4B, 0x50, 0x00, 0x00, 0x00, 0x00, 0x00]

/-- LZ4 as far as it is used on 100 zeros; it fails on everything else. -/
def zerosLz4 : Lz4 where
  compressHC := fun src _ dstCapacity =>
    if src = List.replicate 100 0 ∧ zerosBlock.length ≤ dstCapacity then
      { code := zerosBlock.length, bytes := zerosBlock }
    else { code := 0, bytes := [] }
  decompressSafe := fun src _ dstCapacity =>
    if src = zerosBlock ∧ 100 ≤ dstCapacity then { code := 100, bytes := List.replicate 100 0 }
    else { code := -1, bytes := [] }

theorem zerosLz4_lawful : zerosLz4.Lawful where
  compress_capacity := by
    intro src srcSize dstCapacity hcode
    simp only [zerosLz4] at hcode ⊢
    split at hcode
    · rename_i h
      rw [if_pos h]
      exact ⟨h.2, rfl⟩
    · exact absurd hcode (by decide)
  decompress_capacity := by
    intro src compressedSize dstCapacity hcode
    simp only [zerosLz4] at hcode ⊢
    split at hcode
    · rename_i h
      rw [if_pos h]
      exact h.2
    · exact absurd hcode (by decide)
  decompress_compress := by
    intro src dstCapacity room hcode hroom _
    simp only [zerosLz4] at hcode ⊢
    split at hcode
    · rename_i h
      rw [if_pos h]
      obtain ⟨rfl, -⟩ := h
      rw [if_pos ⟨rfl, by simpa using hroom⟩]
      simp
    · exact absurd hcode (by decide)

/-- 100 zeros in two fragments, with an empty one between them. -/
def hundredZeros : List ENetBuffer :=
  [{ dataLength := 60, data := some ⟨List.replicate 60 0, rfl⟩ },
    { dataLength := 0, data := none },
    { dataLength := 40, data := some ⟨List.replicate 40 0, rfl⟩ }]

/-- They are sent as 11 bytes and come out as they were. -/
theorem hundredZeros_compressed :
    let sent := ServerNetworkCompression.lz4CompressCallback zerosLz4 (some hundredZeros) 100
      false 128
    sent.1 = 11 ∧ ∀ received : { bytes : List UInt8 // bytes.length = sent.1.toNat },
      received.val = sent.2 →
      ServerNetworkCompression.lz4DecompressCallback zerosLz4 sent.1 (some received) false 100 =
        (100, List.replicate 100 0) := by
  have h := ((packet_compression_lossless zerosLz4_lawful).1 (some hundredZeros) 100 false 128).2
    (by decide +kernel)
  obtain ⟨_, _, _, _, buffers, hbuffers, _, _, _, hrestored⟩ := h
  obtain rfl := Option.some.inj hbuffers
  exact ⟨by decide +kernel, fun received hreceived => hrestored received 100 hreceived
    (by decide) (by decide)⟩

end RcnetServer
