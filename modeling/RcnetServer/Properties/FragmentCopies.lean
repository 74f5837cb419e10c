/-
  RcnetServer.Properties.FragmentCopies

  The two functions that make a datagram contiguous agree.

  They fail with different values, a partial count and 0, and their callers only compare
  the value with `inLimit`.  By that test they succeed on the same fragments
  (`HoldsBytes`) and have then copied the same bytes.  What either writes are the copies
  of `copyWrites`, all of them below `inLimit`, whether it succeeds or not.
-/

import RcnetServer.Network.Compression
import RcnetServer.Network.Encryption

namespace RcnetServer

-- ============================================================================
-- What the loop writes
-- ============================================================================

/-- Copies made one after the other, each given by its offset and its bytes. -/
def memcpys (out : List UInt8) (writes : List (Nat × List UInt8)) : List UInt8 :=
  writes.foldl (fun out write => memcpy out write.1 write.2) out

/-- The copies the loop makes, from `copied` bytes on. -/
def copyWrites (inLimit : UInt64) : List ENetBuffer → UInt64 → List (Nat × List UInt8)
  | [], _ => []
  | buffer :: rest, copied =>
      if copied < inLimit then
        let remaining := inLimit - copied
        let chunk := if buffer.dataLength < remaining then buffer.dataLength else remaining
        if chunk = 0 then copyWrites inLimit rest copied
        else
          match buffer.data with
          | none => []
          | some data =>
              (copied.toNat, data.val.take chunk.toNat) ::
                copyWrites inLimit rest (copied + chunk)
      else []

section Writes

variable {inLimit copied : UInt64} {buffers : List ENetBuffer} {out : List UInt8}
  {writes : List (Nat × List UInt8)} {n : Nat}

/-- The output of the loop is what these copies leave. -/
theorem copyFragments_snd :
    (copyFragments inLimit buffers copied out).2 =
      memcpys out (copyWrites inLimit buffers copied) := by
  induction buffers generalizing copied out with
  | nil => rfl
  | cons buffer rest ih =>
      by_cases hlt : copied < inLimit
      · rw [copyFragments, copyWrites, if_pos hlt, if_pos hlt]
        simp only
        generalize (if buffer.dataLength < inLimit - copied then buffer.dataLength
          else inLimit - copied) = chunk
        split
        · exact ih
        · cases buffer.data with
          | none => rfl
          | some data => exact ih
      · rw [copyFragments, copyWrites, if_neg hlt, if_neg hlt]
        rfl

/-- Every copy ends at `inLimit` or before. -/
theorem copyWrites_le (buffers : List ENetBuffer) (hcopied : copied ≤ inLimit) :
    ∀ write ∈ copyWrites inLimit buffers copied,
      write.1 + write.2.length ≤ inLimit.toNat := by
  induction buffers generalizing copied with
  | nil => exact fun write hwrite => absurd hwrite List.not_mem_nil
  | cons buffer rest ih =>
      by_cases hlt : copied < inLimit
      · have hchunk := toNat_chunk buffer.dataLength hlt
        have hltn := UInt64.lt_iff_toNat_lt.mp hlt
        have hlimit := inLimit.toNat_lt
        rw [copyWrites, if_pos hlt]
        simp only
        generalize (if buffer.dataLength < inLimit - copied then buffer.dataLength
          else inLimit - copied) = chunk at hchunk ⊢
        have hsum : (copied + chunk).toNat = copied.toNat + chunk.toNat := by
          rw [UInt64.toNat_add]
          omega
        split
        · exact ih hcopied
        · cases buffer.data with
          | none => exact fun write hwrite => absurd hwrite List.not_mem_nil
          | some data =>
              intro write hwrite
              rcases List.mem_cons.mp hwrite with rfl | hwrite
              · show copied.toNat + (data.val.take chunk.toNat).length ≤ inLimit.toNat
                rw [List.length_take]
                omega
              · refine ih ?_ write hwrite
                rw [UInt64.le_iff_toNat_le]
                omega
      · rw [copyWrites, if_neg hlt]
        exact fun write hwrite => absurd hwrite List.not_mem_nil

/-- Copies that end below `n` keep the size of a larger buffer, and what it has behind. -/
theorem memcpys_frame (hwrites : ∀ write ∈ writes, write.1 + write.2.length ≤ n)
    (hroom : n ≤ out.length) :
    (memcpys out writes).length = out.length ∧ (memcpys out writes).drop n = out.drop n := by
  induction writes generalizing out with
  | nil => exact ⟨rfl, rfl⟩
  | cons write rest ih =>
      have hend := hwrites write List.mem_cons_self
      have hlength := length_memcpy write.2 (by omega : write.1 + write.2.length ≤ out.length)
      have hbehind := drop_memcpy write.2
        (by omega : write.1 + write.2.length ≤ out.length) hend
      have hrest := ih (fun w hw => hwrites w (List.mem_cons_of_mem _ hw))
        (by omega : n ≤ (memcpy out write.1 write.2).length)
      exact ⟨hrest.1.trans hlength, hrest.2.trans hbehind⟩

end Writes

-- ============================================================================
-- The two functions
-- ============================================================================

section Linearisers

open ServerNetworkCompression ServerNetworkEncryption

variable {inBuffers : Option (List ENetBuffer)} {inLimit outLimit : UInt64}
  {outData : Option (List UInt8)}

/-- What the vector of the compressor holds before the copies. -/
def assignedContiguous (inBuffers : Option (List ENetBuffer)) (inLimit : UInt64) : List UInt8 :=
  match inBuffers with
  | none => []
  | some _ => List.replicate inLimit.toNat 0

/-- The test of the encrypt callback. -/
theorem copyInBuffersToOutData_fst_iff (hlimit : inLimit ≤ outLimit)
    (hroom : inLimit.toNat ≤ (outData.getD []).length) :
    (copyInBuffersToOutData inBuffers inLimit outData outLimit).1 = inLimit ↔
      HoldsBytes (inBuffers.getD []) inLimit.toNat := by
  cases inBuffers with
  | none =>
      have hvalue : (copyInBuffersToOutData none inLimit outData outLimit).1 = 0 := rfl
      rw [hvalue, Option.getD_none, holdsBytes_nil]
      exact ⟨fun h => h ▸ rfl, fun h => (UInt64.toNat_inj.mp h).symm⟩
  | some buffers =>
      cases outData with
      | none =>
          -- nothing fits where there is no output, and nothing is always there
          obtain rfl : inLimit = 0 := UInt64.toNat_inj.mp (Nat.le_zero.mp hroom)
          exact ⟨fun _ => ⟨[], List.nil_prefix, by simp, Nat.zero_le _⟩, fun _ => rfl⟩
      | some out =>
          rw [copyInBuffersToOutData_eq hlimit, Option.getD_some, ← copyFragments_fst_iff hroom,
            Option.getD_some]
          by_cases hall : (copyFragments inLimit buffers 0 out).1 = some inLimit
          · simp [hall]
          · simpa [hall] using ne_zero_of_copyFragments_ne hall

/-- What the first function leaves in its vector. -/
theorem copyInBuffersToContiguous_snd (inBuffers : Option (List ENetBuffer))
    (inLimit : UInt64) :
    (copyInBuffersToContiguous inBuffers inLimit).2 =
      memcpys (assignedContiguous inBuffers inLimit)
        (copyWrites inLimit (inBuffers.getD []) 0) := by
  cases inBuffers with
  | none => rfl
  | some buffers =>
      rw [Option.getD_some, assignedContiguous, ← copyFragments_snd]
      simp only [copyInBuffersToContiguous]
      split
      · rename_i heq
        rw [heq]
      · rename_i heq
        rw [heq]

/-- What the second leaves in its output. -/
theorem copyInBuffersToOutData_snd (inBuffers : Option (List ENetBuffer))
    (hlimit : inLimit ≤ outLimit) (hroom : inLimit.toNat ≤ (outData.getD []).length) :
    (copyInBuffersToOutData inBuffers inLimit outData outLimit).2 =
      memcpys (outData.getD []) (copyWrites inLimit (inBuffers.getD []) 0) := by
  cases inBuffers with
  | none => rfl
  | some buffers =>
      cases outData with
      | none =>
          obtain rfl : inLimit = 0 := UInt64.toNat_inj.mp (Nat.le_zero.mp hroom)
          rw [Option.getD_some, Option.getD_none, ← copyFragments_snd, copyFragments_done]
          rfl
      | some out =>
          rw [copyInBuffersToOutData_eq hlimit, Option.getD_some, Option.getD_some,
            copyFragments_snd]

/-- How the two functions, called on the same fragments, compare: `contiguous` and
    `copied` are what they return and leave in a vector that held `assigned` and in an
    output that held `before`. -/
structure LinearisersAgree (buffers : List ENetBuffer) (inLimit : UInt64)
    (assigned before : List UInt8) (contiguous copied : UInt64 × List UInt8) : Prop where
  contiguous_succeeds : contiguous.1 = inLimit ↔ HoldsBytes buffers inLimit.toNat
  copied_succeeds : copied.1 = inLimit ↔ HoldsBytes buffers inLimit.toNat
  contiguous_bytes : contiguous.1 = inLimit →
    contiguous.2 = (concatenation buffers).take inLimit.toNat
  copied_bytes : copied.1 = inLimit →
    copied.2.take inLimit.toNat = (concatenation buffers).take inLimit.toNat
  /-- All that either writes are the same copies, on success and on failure. -/
  contiguous_writes : contiguous.2 = memcpys assigned (copyWrites inLimit buffers 0)
  copied_writes : copied.2 = memcpys before (copyWrites inLimit buffers 0)
  /-- Each of them ends at `inLimit` or before. -/
  writes_below : ∀ write ∈ copyWrites inLimit buffers 0,
    write.1 + write.2.length ≤ inLimit.toNat
  contiguous_size : contiguous.2.length = assigned.length
  copied_size : copied.2.length = before.length
  copied_behind : copied.2.drop inLimit.toNat = before.drop inLimit.toNat

/-- The two functions agree on all fragments, also where a pointer is null. -/
theorem linearisers_agree (inBuffers : Option (List ENetBuffer)) (inLimit outLimit : UInt64)
    (outData : Option (List UInt8)) (hlimit : inLimit ≤ outLimit)
    (hroom : inLimit.toNat ≤ (outData.getD []).length) :
    LinearisersAgree (inBuffers.getD []) inLimit (assignedContiguous inBuffers inLimit)
      (outData.getD []) (copyInBuffersToContiguous inBuffers inLimit)
      (copyInBuffersToOutData inBuffers inLimit outData outLimit) := by
  have hstart : (0 : UInt64) ≤ inLimit := UInt64.le_iff_toNat_le.mpr (Nat.zero_le _)
  have hwrites := copyWrites_le (inBuffers.getD []) hstart
  have hcontiguous := copyInBuffersToContiguous_snd inBuffers inLimit
  have hcopied := copyInBuffersToOutData_snd inBuffers hlimit hroom
  obtain ⟨hsize, hbehind⟩ := memcpys_frame hwrites hroom
  refine
    { contiguous_succeeds := copyInBuffersToContiguous_fst_iff
      copied_succeeds := copyInBuffersToOutData_fst_iff hlimit hroom
      contiguous_bytes := ?_
      copied_bytes := ?_
      contiguous_writes := hcontiguous
      copied_writes := hcopied
      writes_below := hwrites
      contiguous_size := ?_
      copied_size := by rw [hcopied, hsize]
      copied_behind := by rw [hcopied, hbehind] }
  · intro hsuccess
    have hholds := copyInBuffersToContiguous_fst_iff.mp hsuccess
    cases inBuffers with
    | none =>
        rw [holdsBytes_nil.mp hholds]
        rfl
    | some buffers =>
        rw [Option.getD_some] at hholds ⊢
        rw [copyInBuffersToContiguous_of_holdsBytes hholds]
  · intro hsuccess
    have hholds := (copyInBuffersToOutData_fst_iff hlimit hroom).mp hsuccess
    have hlength := hholds.le_length
    rw [hcopied, ← copyFragments_snd, copyFragments_of_holdsBytes hstart hroom hholds,
      UInt64.toNat_zero, List.take_zero, List.nil_append, Nat.sub_zero]
    exact List.take_left' (List.length_take_of_le hlength)
  · rw [hcontiguous]
    cases inBuffers with
    | none => rfl
    | some buffers =>
        refine (memcpys_frame hwrites ?_).1
        rw [assignedContiguous, List.length_replicate]

/-- Three fragments, the second empty with null data, and more in the third than fits. -/
theorem linearisers_agree_threeFragments :
    LinearisersAgree
      [⟨2, some ⟨[1, 2], rfl⟩⟩, ⟨0, none⟩, ⟨3, some ⟨[3, 4, 5], rfl⟩⟩] 4 [0, 0, 0, 0]
      [9, 9, 9, 9, 9, 9] (4, [1, 2, 3, 4]) (4, [1, 2, 3, 4, 9, 9]) :=
  linearisers_agree (some [⟨2, some ⟨[1, 2], rfl⟩⟩, ⟨0, none⟩, ⟨3, some ⟨[3, 4, 5], rfl⟩⟩]) 4 6
    (some [9, 9, 9, 9, 9, 9]) (by decide) (by decide)

end Linearisers

end RcnetServer
