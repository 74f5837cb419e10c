/-
  RcnetServer.Properties.ReaderBounds

  What the bound check of `ByteReader` guarantees, over any sequence of calls.

  `canRead` adds the offset and the byte count in `size_t`.  As long as no such sum
  wraps, every call keeps to the data and `readBytes` succeeds exactly on what is
  left; where one wraps, the check passes and the call leaves the data
  (`calls_inBounds_iff`).  The offset itself stays at most the size either way: what
  the check compares with it is the offset the call leaves.
-/

import RcnetServer.Network.FieldCalls

namespace RcnetServer

namespace ByteReader

-- ============================================================================
-- The sums
-- ============================================================================

/-- The sums of offset and byte count that the checks of the call stand for.  A string
    has a check for its length and, if that is not over the maximum, one for its bytes. -/
def sums (r : ByteReader) : ReadRequest → List Nat
  | .u8 => [r.offset.toNat + 1]
  | .u16 => [r.offset.toNat + 2]
  | .u32 => [r.offset.toNat + 4]
  | .u64 => [r.offset.toNat + 8]
  | .bytes size => [r.offset.toNat + size.toNat]
  | .string maxLength =>
      (r.offset.toNat + 2) ::
        match r.readU16 with
        | none => []
        | some (length, r) =>
            if length.toUInt64 > maxLength then [] else [r.offset.toNat + length.toNat]

/-- None of them wraps. -/
def SumsFit (r : ByteReader) (request : ReadRequest) : Prop :=
  ∀ sum ∈ r.sums request, sum < 2 ^ 64

/-- No call of the sequence forms a sum that wraps. -/
def CallsFit : ByteReader → List ReadRequest → Prop
  | _, [] => True
  | r, request :: requests => r.SumsFit request ∧ CallsFit (r.call request).2 requests

-- ============================================================================
-- Bounds
-- ============================================================================

/-- The reader is within its `n` bytes, and `remaining()` does not wrap. -/
structure InBounds (n : Nat) (r : ByteReader) : Prop where
  offset_le : r.offset.toNat ≤ n
  remaining_eq : r.remaining.toNat = n - r.offset.toNat

/-- A call gets what is there, and only that. -/
structure CallInBounds (n : Nat) (r : ByteReader) (request : ReadRequest) : Prop where
  bytes_iff : ∀ size, request = .bytes size →
    ((r.call request).1.isSome = true ↔ size ≤ r.remaining)
  touched_lt : ∀ i ∈ r.touched request, i < n

/-- Every call of the sequence, and the reader before and after it. -/
def CallsInBounds (n : Nat) : ByteReader → List ReadRequest → Prop
  | r, [] => r.InBounds n
  | r, request :: requests =>
      r.InBounds n ∧ CallInBounds n r request ∧ CallsInBounds n (r.call request).2 requests

/-- A reader of `n` bytes whose offset is not past them. -/
structure Valid (n : Nat) (r : ByteReader) : Prop where
  size_eq : r.size.toNat = n
  offset_le : r.offset.toNat ≤ n

section Check

variable {n : Nat} {r : ByteReader} {k : UInt64}

theorem Valid.inBounds (h : r.Valid n) : r.InBounds n where
  offset_le := h.offset_le
  remaining_eq := by
    have hsize := h.size_eq
    have hoffset := h.offset_le
    rw [remaining, UInt64.toNat_sub_of_le _ _ (UInt64.le_iff_toNat_le.mpr (by omega)), hsize]

theorem Valid.lt (h : r.Valid n) : n < 2 ^ 64 := by
  rw [← h.size_eq]
  exact r.size.toNat_lt

theorem canRead_iff_mod (h : r.Valid n) :
    r.canRead k = true ↔ (r.offset.toNat + k.toNat) % 2 ^ 64 ≤ n := by
  rw [canRead, decide_eq_true_eq, UInt64.le_iff_toNat_le, UInt64.toNat_add, h.size_eq]

/-- The check is right as long as its sum does not wrap. -/
theorem canRead_iff (h : r.Valid n) (hsum : r.offset.toNat + k.toNat < 2 ^ 64) :
    r.canRead k = true ↔ r.offset.toNat + k.toNat ≤ n := by
  rw [canRead_iff_mod h, Nat.mod_eq_of_lt hsum]

/-- It always passes if its sum wraps. -/
theorem canRead_of_wrap (h : r.Valid n) (hsum : 2 ^ 64 ≤ r.offset.toNat + k.toNat) :
    r.canRead k = true := by
  have hoffset := h.offset_le
  have hk := k.toNat_lt
  rw [canRead_iff_mod h]
  omega

/-- A read that passes the check leaves a valid offset, wrapped or not. -/
theorem Valid.advance (h : r.Valid n) (hcan : r.canRead k = true) :
    ({ r with offset := r.offset + k } : ByteReader).Valid n where
  size_eq := h.size_eq
  offset_le := by
    show (r.offset + k).toNat ≤ n
    rw [UInt64.toNat_add]
    exact (canRead_iff_mod h).mp hcan

/-- A read touches only the data exactly when the sum of its check does not wrap. -/
theorem span_lt_iff (h : r.Valid n) :
    (∀ i ∈ r.span k, i < n) ↔ r.offset.toNat + k.toNat < 2 ^ 64 := by
  have hn := h.lt
  constructor
  · intro hspan
    refine Nat.not_le.mp fun hwrap => ?_
    have hlast : 2 ^ 64 - 1 ∈ r.span k := by
      have hoffset := h.offset_le
      rw [span, if_pos (canRead_of_wrap h (by omega)), List.mem_range'_1]
      omega
    have hlt := hspan _ hlast
    omega
  · intro hsum i hi
    unfold span at hi
    split at hi
    · rename_i hcan
      have hle := (canRead_iff h hsum).mp hcan
      rw [List.mem_range'_1] at hi
      omega
    · cases hi

end Check

-- ============================================================================
-- One call
-- ============================================================================

section Call

variable {n : Nat} {r : ByteReader} {k : UInt64} {request : ReadRequest}

/-- The byte count of a call that makes one check. -/
def oneCheck : ReadRequest → Option UInt64
  | .u8 => some 1
  | .u16 => some 2
  | .u32 => some 4
  | .u64 => some 8
  | .bytes size => some size
  | .string _ => none

/-- Such a call is its check. -/
theorem read_of_oneCheck (r : ByteReader) (request : ReadRequest)
    (hk : oneCheck request = some k) :
    ∃ value, r.read request =
      if r.canRead k then some (value, { r with offset := r.offset + k }) else none := by
  cases request with
  | string maxLength => cases hk
  | _ =>
      obtain rfl := Option.some.inj hk
      exact ⟨_, rfl⟩

theorem touched_of_oneCheck (hk : oneCheck request = some k) : r.touched request = r.span k := by
  cases request with
  | string maxLength => cases hk
  | _ =>
      obtain rfl := Option.some.inj hk
      rfl

theorem sumsFit_of_oneCheck (request : ReadRequest) (hk : oneCheck request = some k) :
    r.SumsFit request ↔ r.offset.toNat + k.toNat < 2 ^ 64 := by
  have hsums : r.sums request = [r.offset.toNat + k.toNat] := by
    cases request with
    | string maxLength => cases hk
    | _ =>
        obtain rfl := Option.some.inj hk
        rfl
  rw [SumsFit, hsums]
  simp

/-- What it leaves is valid, and it succeeds when the check passes. -/
theorem call_of_oneCheck (h : r.Valid n) (request : ReadRequest)
    (hk : oneCheck request = some k) :
    (r.call request).2.Valid n ∧ ((r.call request).1.isSome = true ↔ r.canRead k = true) := by
  obtain ⟨value, hread⟩ := read_of_oneCheck r request hk
  have hsome : ∀ x, r.read request = some x → r.call request = (some x.1, x.2) := by
    intro x hx
    cases request with
    | string maxLength => cases hk
    | _ => simp only [call, hx]
  have hnone : r.read request = none → r.call request = (none, r) := by
    intro hx
    cases request with
    | string maxLength => cases hk
    | _ => simp only [call, hx]
  by_cases hcan : r.canRead k = true
  · rw [if_pos hcan] at hread
    rw [hsome _ hread]
    exact ⟨h.advance hcan, by simp [hcan]⟩
  · rw [if_neg hcan] at hread
    rw [hnone hread]
    exact ⟨h, by simp [hcan]⟩

/-- The length of a string is read by `readU16`. -/
theorem valid_of_readU16 (h : r.Valid n) {length : UInt16} {r' : ByteReader}
    (hread : r.readU16 = some (length, r')) : r'.Valid n := by
  obtain ⟨value, hcheck⟩ := read_of_oneCheck (k := 2) r .u16 rfl
  have heq : r.readU16 = _ := hcheck
  rw [hread] at heq
  split at heq
  · rename_i hcan
    obtain ⟨-, rfl⟩ := Prod.mk.inj (Option.some.inj heq)
    exact h.advance hcan
  · cases heq

/-- Whatever is called, the offset stays at most the size. -/
theorem Valid.call (h : r.Valid n) (request : ReadRequest) : (r.call request).2.Valid n := by
  cases request with
  | string maxLength =>
      show (r.callString maxLength).2.Valid n
      unfold callString
      split
      · exact h
      · rename_i length r' hread
        have hr' := valid_of_readU16 h hread
        split
        · exact hr'
        · split
          · rename_i hcan
            exact hr'.advance hcan
          · exact hr'
  | u8 => exact (call_of_oneCheck h .u8 rfl).1
  | u16 => exact (call_of_oneCheck h .u16 rfl).1
  | u32 => exact (call_of_oneCheck h .u32 rfl).1
  | u64 => exact (call_of_oneCheck h .u64 rfl).1
  | bytes size => exact (call_of_oneCheck h (.bytes size) rfl).1

/-- A string touches only the data exactly when neither of its sums wraps. -/
theorem touched_string_lt_iff (h : r.Valid n) (maxLength : UInt64) :
    (∀ i ∈ r.touched (.string maxLength), i < n) ↔ r.SumsFit (.string maxLength) := by
  have hlength := span_lt_iff (k := 2) h
  simp only [touched, SumsFit, sums, List.forall_mem_append, List.forall_mem_cons]
  refine and_congr hlength ?_
  cases hread : r.readU16 with
  | none => simp
  | some x =>
      obtain ⟨length, r'⟩ := x
      have hbytes := span_lt_iff (k := length.toUInt64) (valid_of_readU16 h hread)
      rw [UInt16.toNat_toUInt64] at hbytes
      simp only
      split
      · simp
      · simpa using hbytes

/-- So does every call. -/
theorem touched_lt_iff (h : r.Valid n) (request : ReadRequest) :
    (∀ i ∈ r.touched request, i < n) ↔ r.SumsFit request := by
  cases hk : oneCheck request with
  | some k => rw [touched_of_oneCheck hk, sumsFit_of_oneCheck request hk, span_lt_iff h]
  | none =>
      cases request with
      | string maxLength => exact touched_string_lt_iff h maxLength
      | _ => cases hk

/-- A block is read exactly when it is left, as long as the sum does not wrap. -/
theorem readBytes_isSome_iff (h : r.Valid n) {size : UInt64} (hfit : r.SumsFit (.bytes size)) :
    (r.call (.bytes size)).1.isSome = true ↔ size ≤ r.remaining := by
  have hsum := (sumsFit_of_oneCheck (.bytes size) rfl).mp hfit
  have hremaining := h.inBounds.remaining_eq
  have hoffset := h.offset_le
  rw [(call_of_oneCheck h (.bytes size) rfl).2, canRead_iff h hsum,
    UInt64.le_iff_toNat_le, hremaining]
  omega

theorem callInBounds_iff (h : r.Valid n) (request : ReadRequest) :
    CallInBounds n r request ↔ r.SumsFit request := by
  constructor
  · intro hcall
    exact (touched_lt_iff h request).mp hcall.touched_lt
  · intro hfit
    refine ⟨?_, (touched_lt_iff h request).mpr hfit⟩
    rintro size rfl
    exact readBytes_isSome_iff h hfit

end Call

-- ============================================================================
-- Any sequence of calls
-- ============================================================================

theorem callsInBounds_iff_of_valid {n : Nat} {r : ByteReader} (h : r.Valid n)
    (requests : List ReadRequest) : CallsInBounds n r requests ↔ r.CallsFit requests := by
  induction requests generalizing r with
  | nil => exact iff_of_true h.inBounds trivial
  | cons request requests ih =>
      rw [CallsInBounds, CallsFit, callInBounds_iff h, ih (h.call request)]
      exact and_iff_right h.inBounds

theorem valid_ofBytes {data : List UInt8} (hsize : data.length < 2 ^ 64) :
    (ofBytes data).Valid data.length where
  size_eq := by
    show (UInt64.ofNat data.length).toNat = data.length
    rw [UInt64.toNat_ofNat', Nat.mod_eq_of_lt hsize]
  offset_le := Nat.zero_le _

end ByteReader

/-- A sequence of calls keeps to its bounds exactly when no check wraps. -/
theorem calls_inBounds_iff (data : List UInt8) (hsize : data.length < 2 ^ 64)
    (requests : List ReadRequest) :
    ByteReader.CallsInBounds data.length (ByteReader.ofBytes data) requests ↔
      (ByteReader.ofBytes data).CallsFit requests :=
  ByteReader.callsInBounds_iff_of_valid (ByteReader.valid_ofBytes hsize) requests

theorem calls_inBounds_iff_twoBytes :
    ByteReader.CallsInBounds 2 (ByteReader.ofBytes [1, 2]) [.u8, .bytes 2, .bytes 1] ↔
      (ByteReader.ofBytes [1, 2]).CallsFit [.u8, .bytes 2, .bytes 1] :=
  calls_inBounds_iff [1, 2] (by decide) [.u8, .bytes 2, .bytes 1]

/-- After one byte of two, a block of 2^64 - 1 bytes is read: the sum is 0. -/
theorem calls_not_inBounds_wrap :
    ¬ ByteReader.CallsInBounds 2 (ByteReader.ofBytes [1, 2])
      [.u8, .bytes 18446744073709551615] := by
  rintro ⟨-, -, -, hblock, -⟩
  have hread := (hblock.bytes_iff _ rfl).mp (by decide)
  exact absurd hread (by decide)

end RcnetServer
