/-
  RcnetServer.Network.Fragments

  The fragments of an outgoing datagram, and the loop that makes them contiguous
  (network/transport/{compression,encryption}).

  ENet hands a datagram to the compressor and to the encryptor as a list of
  buffers.  Both copy the first `inLimit` bytes into one buffer with the same loop;
  `copyFragments_of_holdsBytes` and `copyFragments_of_not_holdsBytes` say what it
  copies and when it fails.
-/

import Mathlib.Data.List.Infix

namespace RcnetServer

-- ============================================================================
-- Fragments
-- ============================================================================

/-- `ENetBuffer`: a length and the bytes it announces; `none` for a null `data`. -/
structure ENetBuffer where
  dataLength : UInt64
  data : Option { bytes : List UInt8 // bytes.length = dataLength.toNat }

/-- The bytes of a fragment, if it has any. -/
def ENetBuffer.bytes (buffer : ENetBuffer) : List UInt8 :=
  match buffer.data with
  | none => []
  | some data => data.val

/-- A fragment the loop can copy from: it is empty, or its data is there. -/
def ENetBuffer.Readable (buffer : ENetBuffer) : Prop :=
  buffer.dataLength = 0 ∨ buffer.data.isSome

/-- All bytes of a list of fragments, one after the other. -/
def concatenation (buffers : List ENetBuffer) : List UInt8 :=
  buffers.flatMap ENetBuffer.bytes

/-- The fragments hold at least `n` bytes: some of them, from the front, can all be read
    and have that many. -/
def HoldsBytes (buffers : List ENetBuffer) (n : Nat) : Prop :=
  ∃ needed, needed <+: buffers ∧ (∀ buffer ∈ needed, buffer.Readable) ∧
    n ≤ (concatenation needed).length

-- ============================================================================
-- The loop
-- ============================================================================

/-- `memcpy(out + offset, bytes, size)`. -/
def memcpy (out : List UInt8) (offset : Nat) (bytes : List UInt8) : List UInt8 :=
  out.take offset ++ (bytes ++ out.drop (offset + bytes.length))

/-- The loop over the fragments, from `copied` bytes on: the number of bytes copied,
    or `none` where a fragment that is needed has null data, and the output. -/
def copyFragments (inLimit : UInt64) :
    List ENetBuffer → UInt64 → List UInt8 → Option UInt64 × List UInt8
  | [], copied, out => (some copied, out)
  | buffer :: rest, copied, out =>
      if copied < inLimit then
        let remaining := inLimit - copied
        let chunk := if buffer.dataLength < remaining then buffer.dataLength else remaining
        if chunk = 0 then copyFragments inLimit rest copied out
        else
          match buffer.data with
          | none => (none, out)
          | some data =>
              copyFragments inLimit rest (copied + chunk)
                (memcpy out copied.toNat (data.val.take chunk.toNat))
      else (some copied, out)

-- ============================================================================
-- What the fragments hold
-- ============================================================================

section Hold

variable {buffer : ENetBuffer} {buffers rest : List ENetBuffer} {n : Nat}

theorem ENetBuffer.length_bytes (h : buffer.Readable) :
    buffer.bytes.length = buffer.dataLength.toNat := by
  obtain ⟨dataLength, data⟩ := buffer
  cases data with
  | none =>
      rcases h with h | h
      · obtain rfl : dataLength = 0 := h
        rfl
      · cases h
  | some data => exact data.property

theorem concatenation_cons :
    concatenation (buffer :: rest) = buffer.bytes ++ concatenation rest := List.flatMap_cons

theorem holdsBytes_nil : HoldsBytes [] n ↔ n = 0 := by
  constructor
  · rintro ⟨needed, hprefix, _, hn⟩
    rw [List.prefix_nil.mp hprefix] at hn
    exact Nat.le_zero.mp hn
  · rintro rfl
    exact ⟨[], List.nil_prefix, fun _ h => absurd h List.not_mem_nil, Nat.le_refl _⟩

/-- Unless nothing is wanted, the first fragment is needed. -/
theorem holdsBytes_cons :
    HoldsBytes (buffer :: rest) n ↔
      n = 0 ∨ (buffer.Readable ∧ HoldsBytes rest (n - buffer.dataLength.toNat)) := by
  constructor
  · rintro ⟨needed, hprefix, hreadable, hn⟩
    cases needed with
    | nil => exact Or.inl (Nat.le_zero.mp hn)
    | cons b needed =>
        obtain ⟨rfl, hrest⟩ := List.cons_prefix_cons.mp hprefix
        refine Or.inr ⟨hreadable _ List.mem_cons_self, needed, hrest,
          fun x hx => hreadable x (List.mem_cons_of_mem _ hx), ?_⟩
        have hlength := ENetBuffer.length_bytes (hreadable b List.mem_cons_self)
        rw [concatenation_cons, List.length_append] at hn
        omega
  · rintro (rfl | ⟨hbuffer, needed, hprefix, hreadable, hn⟩)
    · exact ⟨[], List.nil_prefix, fun _ h => absurd h List.not_mem_nil, Nat.le_refl _⟩
    · refine ⟨buffer :: needed, List.cons_prefix_cons.mpr ⟨rfl, hprefix⟩, ?_, ?_⟩
      · intro x hx
        rcases List.mem_cons.mp hx with rfl | hx
        · exact hbuffer
        · exact hreadable x hx
      · have hlength := ENetBuffer.length_bytes hbuffer
        rw [concatenation_cons, List.length_append]
        omega

/-- Fragments that can all be read hold what they announce. -/
theorem holdsBytes_of_readable (h : ∀ buffer ∈ buffers, buffer.Readable)
    (hn : n ≤ (concatenation buffers).length) : HoldsBytes buffers n :=
  ⟨buffers, List.prefix_refl _, h, hn⟩

/-- What is held can be taken from the front of the concatenation. -/
theorem HoldsBytes.le_length (h : HoldsBytes buffers n) :
    n ≤ (concatenation buffers).length := by
  obtain ⟨needed, ⟨rest, rfl⟩, _, hn⟩ := h
  rw [concatenation, List.flatMap_append, List.length_append]
  exact Nat.le_add_right_of_le hn

end Hold

-- ============================================================================
-- What the loop copies
-- ============================================================================

section Copy

variable {inLimit copied : UInt64} {buffers : List ENetBuffer} {out : List UInt8} {offset : Nat}

/-- The bytes are behind what was there before the offset. -/
theorem take_memcpy (bytes : List UInt8) (h : offset ≤ out.length) :
    (memcpy out offset bytes).take (offset + bytes.length) = out.take offset ++ bytes := by
  rw [memcpy, ← List.append_assoc]
  refine List.take_left' ?_
  rw [List.length_append, List.length_take_of_le h]

/-- Nothing behind them is written. -/
theorem drop_memcpy (bytes : List UInt8) (h : offset + bytes.length ≤ out.length) {n : Nat}
    (hn : offset + bytes.length ≤ n) : (memcpy out offset bytes).drop n = out.drop n := by
  have hlen : (out.take offset ++ bytes).length = offset + bytes.length := by
    rw [List.length_append, List.length_take_of_le (by omega)]
  rw [memcpy, ← List.append_assoc, List.drop_append, List.drop_drop, hlen,
    List.drop_of_length_le (by omega), List.nil_append]
  congr 1
  omega

theorem length_memcpy (bytes : List UInt8) (h : offset + bytes.length ≤ out.length) :
    (memcpy out offset bytes).length = out.length := by
  rw [memcpy, List.length_append, List.length_append, List.length_take_of_le (by omega),
    List.length_drop]
  omega

/-- The part of a fragment that one round copies. -/
theorem toNat_chunk (dataLength : UInt64) (h : copied < inLimit) :
    (if dataLength < inLimit - copied then dataLength else inLimit - copied).toNat =
      min dataLength.toNat (inLimit.toNat - copied.toNat) := by
  have hle : copied ≤ inLimit := UInt64.le_of_lt h
  have hremaining : (inLimit - copied).toNat = inLimit.toNat - copied.toNat :=
    UInt64.toNat_sub_of_le _ _ hle
  split
  · rename_i hlt
    rw [UInt64.lt_iff_toNat_lt, hremaining] at hlt
    omega
  · rename_i hlt
    rw [UInt64.lt_iff_toNat_lt, hremaining] at hlt
    omega

/-- What one round does: it stops, skips an empty fragment, gives up, or copies. -/
theorem copyFragments_cons (buffer : ENetBuffer) (buffers : List ENetBuffer) (out : List UInt8)
    (h : copied < inLimit) :
    (buffer.dataLength = 0 ∧ copyFragments inLimit (buffer :: buffers) copied out =
      copyFragments inLimit buffers copied out) ∨
    (buffer.dataLength ≠ 0 ∧ buffer.data = none ∧
      copyFragments inLimit (buffer :: buffers) copied out = (none, out)) ∨
    (buffer.Readable ∧ ∃ chunk : UInt64,
      chunk.toNat = min buffer.dataLength.toNat (inLimit.toNat - copied.toNat) ∧
      copyFragments inLimit (buffer :: buffers) copied out =
        copyFragments inLimit buffers (copied + chunk)
          (memcpy out copied.toNat (buffer.bytes.take chunk.toNat))) := by
  have hchunk := toNat_chunk buffer.dataLength h
  have hlt := UInt64.lt_iff_toNat_lt.mp h
  rw [copyFragments, if_pos h]
  simp only
  generalize (if buffer.dataLength < inLimit - copied then buffer.dataLength
    else inLimit - copied) = chunk at hchunk ⊢
  split
  · rename_i hzero
    rw [hzero, UInt64.toNat_zero] at hchunk
    exact Or.inl ⟨UInt64.toNat_inj.mp (by rw [UInt64.toNat_zero]; omega), rfl⟩
  · rename_i hzero
    cases hdata : buffer.data with
    | none =>
        refine Or.inr (Or.inl ⟨?_, rfl, rfl⟩)
        intro hlength
        rw [hlength, UInt64.toNat_zero] at hchunk
        exact hzero (UInt64.toNat_inj.mp (by rw [hchunk, UInt64.toNat_zero]; omega))
    | some data =>
        refine Or.inr (Or.inr ⟨Or.inr (by rw [hdata]; rfl), _, hchunk, ?_⟩)
        simp only [ENetBuffer.bytes, hdata]

theorem copyFragments_done :
    copyFragments inLimit buffers inLimit out = (some inLimit, out) := by
  cases buffers with
  | nil => rfl
  | cons buffer rest => rw [copyFragments, if_neg (UInt64.lt_irrefl _)]

/-- The fragments hold what is wanted: it is copied, in order, and nothing behind it
    is touched. -/
theorem copyFragments_of_holdsBytes (hcopied : copied ≤ inLimit)
    (hout : inLimit.toNat ≤ out.length)
    (h : HoldsBytes buffers (inLimit.toNat - copied.toNat)) :
    copyFragments inLimit buffers copied out =
      (some inLimit, out.take copied.toNat ++
        ((concatenation buffers).take (inLimit.toNat - copied.toNat) ++
          out.drop inLimit.toNat)) := by
  induction buffers generalizing copied out with
  | nil =>
      have hle := UInt64.le_iff_toNat_le.mp hcopied
      have hzero := holdsBytes_nil.mp h
      obtain rfl : copied = inLimit := UInt64.toNat_inj.mp (by omega)
      rw [copyFragments_done, Nat.sub_self, List.take_zero, List.nil_append,
        List.take_append_drop]
  | cons buffer rest ih =>
      by_cases hdone : copied = inLimit
      · subst hdone
        rw [copyFragments_done, Nat.sub_self, List.take_zero, List.nil_append,
          List.take_append_drop]
      have hlt : copied < inLimit := UInt64.lt_of_le_of_ne hcopied hdone
      have hltn := UInt64.lt_iff_toNat_lt.mp hlt
      obtain ⟨hbuffer, hrest⟩ := (holdsBytes_cons.mp h).resolve_left (by omega)
      have hlength := ENetBuffer.length_bytes hbuffer
      rcases copyFragments_cons buffer rest out hlt with
        ⟨hzero, hround⟩ | ⟨hnonzero, hnull, _⟩ | ⟨_, chunk, hchunk, hround⟩
      · -- an empty fragment
        have hbytes : buffer.bytes = [] := by
          rw [← List.length_eq_zero_iff, hlength, hzero]
          rfl
        rw [hzero, UInt64.toNat_zero, Nat.sub_zero] at hrest
        have hconcatenation : concatenation (buffer :: rest) = concatenation rest := by
          rw [concatenation_cons, hbytes, List.nil_append]
        rw [hround, hconcatenation]
        exact ih hcopied hout hrest
      · -- a fragment that is needed has its data
        rcases hbuffer with hzero | hsome
        · exact absurd hzero hnonzero
        · rw [hnull] at hsome
          cases hsome
      · have hsum : (copied + chunk).toNat = copied.toNat + chunk.toNat := by
          rw [UInt64.toNat_add]
          have := inLimit.toNat_lt
          omega
        have htake : (buffer.bytes.take chunk.toNat).length = chunk.toNat := by
          rw [List.length_take_of_le]
          omega
        have hbefore := take_memcpy (buffer.bytes.take chunk.toNat)
          (by omega : copied.toNat ≤ out.length)
        have hbehind := drop_memcpy (buffer.bytes.take chunk.toNat)
          (by omega : copied.toNat + (buffer.bytes.take chunk.toNat).length ≤ out.length)
          (by omega : _ ≤ inLimit.toNat)
        have hsame := length_memcpy (buffer.bytes.take chunk.toNat)
          (by omega : copied.toNat + (buffer.bytes.take chunk.toNat).length ≤ out.length)
        rw [htake] at hbefore
        -- the rest of the fragments fill up what this one leaves
        have hfragment : buffer.bytes.take (inLimit.toNat - copied.toNat) =
            buffer.bytes.take chunk.toNat := by
          rw [hchunk, ← hlength]
          exact (List.take_eq_take_min).trans (by rw [Nat.min_comm])
        have hleft : inLimit.toNat - copied.toNat - buffer.bytes.length =
            inLimit.toNat - (copied + chunk).toNat := by
          omega
        rw [hround, ih (UInt64.le_iff_toNat_le.mpr (by omega)) (by omega) ?_, hsum, hbefore,
          hbehind, concatenation_cons, List.take_append, hfragment, hleft, hsum]
        · simp only [List.append_assoc]
        · rw [← hleft, hlength]
          exact hrest

/-- The fragments do not hold it: the loop gives up, or stops short. -/
theorem copyFragments_of_not_holdsBytes (hcopied : copied ≤ inLimit)
    (h : ¬ HoldsBytes buffers (inLimit.toNat - copied.toNat)) :
    (copyFragments inLimit buffers copied out).1 ≠ some inLimit := by
  induction buffers generalizing copied out with
  | nil =>
      intro heq
      obtain rfl := Option.some.inj heq
      exact h (holdsBytes_nil.mpr (Nat.sub_self _))
  | cons buffer rest ih =>
      have hdone : copied ≠ inLimit := by
        rintro rfl
        exact h (holdsBytes_cons.mpr (Or.inl (Nat.sub_self _)))
      have hlt : copied < inLimit := UInt64.lt_of_le_of_ne hcopied hdone
      have hltn := UInt64.lt_iff_toNat_lt.mp hlt
      rw [holdsBytes_cons, not_or, not_and] at h
      rcases copyFragments_cons buffer rest out hlt with
        ⟨hzero, hround⟩ | ⟨_, _, hround⟩ | ⟨hbuffer, chunk, hchunk, hround⟩
      · have hrest := h.2 (Or.inl hzero)
        rw [hzero, UInt64.toNat_zero, Nat.sub_zero] at hrest
        rw [hround]
        exact ih hcopied hrest
      · rw [hround]
        exact fun heq => by cases heq
      · have hsum : (copied + chunk).toNat = copied.toNat + chunk.toNat := by
          rw [UInt64.toNat_add]
          have := inLimit.toNat_lt
          omega
        rw [hround]
        refine ih (UInt64.le_iff_toNat_le.mpr (by omega)) ?_
        have hleft : inLimit.toNat - copied.toNat - buffer.dataLength.toNat =
            inLimit.toNat - (copied + chunk).toNat := by
          omega
        rw [← hleft]
        exact h.2 hbuffer

/-- The loop ends with all of `inLimit` copied exactly when the fragments hold it. -/
theorem copyFragments_fst_iff (hroom : inLimit.toNat ≤ out.length) :
    (copyFragments inLimit buffers 0 out).1 = some inLimit ↔
      HoldsBytes buffers inLimit.toNat := by
  have hstart : (0 : UInt64) ≤ inLimit := UInt64.le_iff_toNat_le.mpr (Nat.zero_le _)
  constructor
  · intro heq
    by_contra hnot
    exact copyFragments_of_not_holdsBytes hstart hnot heq
  · intro hholds
    rw [copyFragments_of_holdsBytes hstart hroom hholds]

/-- A failure that returns 0 cannot be taken for a success: with nothing to copy the
    loop does not fail. -/
theorem ne_zero_of_copyFragments_ne
    (h : (copyFragments inLimit buffers 0 out).1 ≠ some inLimit) : 0 ≠ inLimit := by
  rintro rfl
  rw [copyFragments_done] at h
  exact h rfl

/-- Into a fresh buffer of the right size: the first bytes of the fragments. -/
theorem copyFragments_fresh (h : HoldsBytes buffers inLimit.toNat) :
    copyFragments inLimit buffers 0 (List.replicate inLimit.toNat 0) =
      (some inLimit, (concatenation buffers).take inLimit.toNat) := by
  have hnothing : (List.replicate inLimit.toNat (0 : UInt8)).drop inLimit.toNat = [] :=
    List.drop_of_length_le (by rw [List.length_replicate])
  have hroom : inLimit.toNat ≤ (List.replicate inLimit.toNat (0 : UInt8)).length := by
    rw [List.length_replicate]
  rw [copyFragments_of_holdsBytes (UInt64.le_iff_toNat_le.mpr (Nat.zero_le _)) hroom h, hnothing,
    List.append_nil]
  rfl

end Copy

end RcnetServer
