/-
  RcnetServer.Network.ReadProgram

  Parsers as programs of `ByteReader` calls.

  A deserializer makes one call after the other, looks at what it got, gives up on
  a call that fails and accepts when the data is used up.  A `ReadProgram` is that
  tree of calls.  By one induction over the tree, for every parser:

    * `ReadProgram.run_eq_some_iff`  -- it accepts exactly the encodings of its
      fields in order (`Accepts`), with nothing behind them;
    * `ReadProgram.touched_lt`  -- every position of the data it touches is below
      the size.

  `canRead` adds in `size_t`, so both need that the sum does not wrap: `Within`
  bounds what a program may ask for.
-/

import RcnetServer.Network.RoundTrip

namespace RcnetServer

-- ============================================================================
-- Calls
-- ============================================================================

/-- A call of a `ByteReader` member. -/
inductive ReadRequest
  | u8
  | u16
  | u32
  | u64
  | bytes (size : UInt64)
  | string (maxLength : UInt64)

namespace ReadRequest

/-- What the call yields. -/
abbrev Value : ReadRequest → Type
  | .u8 => UInt8
  | .u16 => UInt16
  | .u32 => UInt32
  | .u64 => UInt64
  | .bytes _ => List UInt8
  | .string _ => List UInt8

/-- The bytes of the field the call reads. -/
def encode : (request : ReadRequest) → request.Value → List UInt8
  | .u8, v => [v]
  | .u16, v => BigEndian.bytes16 v
  | .u32, v => BigEndian.bytes32 v
  | .u64, v => BigEndian.bytes64 v
  | .bytes _, v => v
  | .string _, v => BigEndian.bytes16 v.length.toUInt16 ++ v

/-- The values the call can yield. -/
def Fits : (request : ReadRequest) → request.Value → Prop
  | .bytes size, v => v.length = size.toNat
  | .string maxLength, v => v.length < 2 ^ 16 ∧ v.length ≤ maxLength.toNat
  | _, _ => True

/-- The most bytes the call can ask for. -/
def reach : ReadRequest → Nat
  | .u8 => 1
  | .u16 => 2
  | .u32 => 4
  | .u64 => 8
  | .bytes size => size.toNat
  | .string _ => 2 + 65535

theorem length_encode_le {request : ReadRequest} {v : request.Value} (h : request.Fits v) :
    (request.encode v).length ≤ request.reach := by
  cases request with
  | bytes size => exact Nat.le_of_eq h
  | string maxLength =>
      obtain ⟨hlength, _⟩ := h
      simp only [encode, reach, List.length_append, BigEndian.length_bytes16]
      omega
  | _ => exact Nat.le_refl _

end ReadRequest

namespace ByteReader

/-- The call itself. -/
def read (r : ByteReader) : (request : ReadRequest) → Option (request.Value × ByteReader)
  | .u8 => r.readU8
  | .u16 => r.readU16
  | .u32 => r.readU32
  | .u64 => r.readU64
  | .bytes size => r.readBytes size
  | .string maxLength => r.readString maxLength

/-- The positions of `data_` a read of `n` bytes touches. -/
def span (r : ByteReader) (n : UInt64) : List Nat :=
  if r.canRead n then List.range' r.offset.toNat n.toNat else []

/-- The positions of `data_` the call touches.  A string touches its bytes only if
    the length passes both checks. -/
def touched (r : ByteReader) : ReadRequest → List Nat
  | .u8 => r.span 1
  | .u16 => r.span 2
  | .u32 => r.span 4
  | .u64 => r.span 8
  | .bytes size => r.span size
  | .string maxLength =>
      r.span 2 ++
        match r.readU16 with
        | none => []
        | some (length, r) =>
            if length.toUInt64 > maxLength then [] else r.span length.toUInt64

section Calls

variable {front rest : List UInt8} {request : ReadRequest}

/-- A field that is there is read. -/
theorem read_encode {v : request.Value} (hfits : request.Fits v)
    (h : Addressable front (request.encode v ++ rest)) :
    (after front (request.encode v ++ rest)).read request =
      some (v, after (front ++ request.encode v) rest) := by
  cases request with
  | u8 => exact readU8_after h
  | u16 => exact readU16_after h
  | u32 => exact readU32_after h
  | u64 => exact readU64_after h
  | bytes size => exact readBytes_after h hfits.symm
  | string maxLength =>
      simp only [ReadRequest.encode, List.append_assoc] at h ⊢
      exact readString_after h hfits.1 hfits.2

/-- A call that passes its check has the bytes it asks for. -/
theorem length_of_checked {α : Type} {n : UInt64} {y x : α} (h : Addressable front rest)
    (hroom : front.length + n.toNat < 2 ^ 64)
    (hread : (if (after front rest).canRead n then some y else none) = some x) :
    n.toNat ≤ rest.length := by
  refine (canRead_after_iff h hroom).mp ?_
  split at hread
  · assumption
  · cases hread

/-- The word that was read, and the reader behind it. -/
theorem exists_of_readU16 {v : UInt16} {r : ByteReader} (h : Addressable front rest)
    (hroom : front.length + 2 < 2 ^ 64) (hread : (after front rest).readU16 = some (v, r)) :
    ∃ rest', rest = BigEndian.bytes16 v ++ rest' ∧ r = after (front ++ BigEndian.bytes16 v) rest' ∧
      Addressable (front ++ BigEndian.bytes16 v) rest' := by
  obtain ⟨w, rest', rfl⟩ :=
    BigEndian.exists_eq_bytes16_append (length_of_checked (n := 2) h hroom hread)
  have hrest : Addressable (front ++ BigEndian.bytes16 w) rest' := by
    simpa [Addressable, Nat.add_assoc] using h
  rw [readU16_after h] at hread
  obtain ⟨rfl, rfl⟩ := Prod.mk.inj (Option.some.inj hread)
  exact ⟨rest', rfl, rfl, hrest⟩

/-- A string that was read is there: its length, then that many bytes. -/
theorem exists_of_readString {maxLength : UInt64} {x : List UInt8 × ByteReader}
    (h : Addressable front rest) (hroom : front.length + (2 + 65535) < 2 ^ 64)
    (hread : (after front rest).readString maxLength = some x) :
    ∃ s rest', s.length < 2 ^ 16 ∧ s.length ≤ maxLength.toNat ∧
      rest = BigEndian.bytes16 s.length.toUInt16 ++ (s ++ rest') := by
  unfold readString at hread
  split at hread
  · cases hread
  · rename_i v r hcount
    obtain ⟨rest', rfl, rfl, hrest⟩ := exists_of_readU16 h (by omega) hcount
    have hv : v.toUInt64.toNat = v.toNat := UInt16.toNat_toUInt64 v
    have hbound : v.toNat < 2 ^ 16 := v.toNat_lt
    split at hread
    · cases hread
    · rename_i hmax
      have hlen : v.toNat ≤ rest'.length := by
        rw [← hv]
        refine length_of_checked hrest ?_ hread
        rw [List.length_append, BigEndian.length_bytes16, hv]
        omega
      have htake : (rest'.take v.toNat).length = v.toNat := List.length_take_of_le hlen
      refine ⟨rest'.take v.toNat, rest'.drop v.toNat, by omega, ?_, ?_⟩
      · rw [htake, ← hv]
        exact UInt64.le_iff_toNat_le.mp (UInt64.not_lt.mp hmax)
      · rw [htake, Nat.toUInt16_eq, UInt16.ofNat_toNat, List.take_append_drop]

/-- What is left begins with the field that was read. -/
theorem exists_encode_of_read {x : request.Value × ByteReader} (h : Addressable front rest)
    (hroom : front.length + request.reach < 2 ^ 64)
    (hread : (after front rest).read request = some x) :
    ∃ v rest', request.Fits v ∧ rest = request.encode v ++ rest' := by
  cases request with
  | u8 =>
      have hlen : 1 ≤ rest.length := length_of_checked (n := 1) h hroom hread
      obtain ⟨b, rest', rfl⟩ := List.exists_cons_of_length_pos hlen
      exact ⟨b, rest', trivial, rfl⟩
  | u16 =>
      have hlen : 2 ≤ rest.length := length_of_checked (n := 2) h hroom hread
      obtain ⟨v, rest', rfl⟩ := BigEndian.exists_eq_bytes16_append hlen
      exact ⟨v, rest', trivial, rfl⟩
  | u32 =>
      have hlen : 4 ≤ rest.length := length_of_checked (n := 4) h hroom hread
      obtain ⟨v, rest', rfl⟩ := BigEndian.exists_eq_bytes32_append hlen
      exact ⟨v, rest', trivial, rfl⟩
  | u64 =>
      have hlen : 8 ≤ rest.length := length_of_checked (n := 8) h hroom hread
      obtain ⟨v, rest', rfl⟩ := BigEndian.exists_eq_bytes64_append hlen
      exact ⟨v, rest', trivial, rfl⟩
  | bytes size =>
      have hlen : size.toNat ≤ rest.length := length_of_checked h hroom hread
      exact ⟨rest.take size.toNat, rest.drop size.toNat, List.length_take_of_le hlen,
        (List.take_append_drop _ _).symm⟩
  | string maxLength =>
      obtain ⟨s, rest', hshort, hmax, rfl⟩ := exists_of_readString h hroom hread
      exact ⟨s, rest', ⟨hshort, hmax⟩, (List.append_assoc _ _ _).symm⟩

/-- A call succeeds exactly on the field it asks for. -/
theorem read_eq_some_iff {v : request.Value} {r : ByteReader} (h : Addressable front rest)
    (hroom : front.length + request.reach < 2 ^ 64) :
    (after front rest).read request = some (v, r) ↔
      ∃ rest', request.Fits v ∧ rest = request.encode v ++ rest' ∧
        r = after (front ++ request.encode v) rest' := by
  constructor
  · intro hread
    obtain ⟨w, rest', hfits, rfl⟩ := exists_encode_of_read h hroom hread
    rw [read_encode hfits h] at hread
    obtain ⟨rfl, rfl⟩ := Prod.mk.inj (Option.some.inj hread)
    exact ⟨rest', hfits, rfl, rfl⟩
  · rintro ⟨rest', hfits, rfl, rfl⟩
    exact read_encode hfits h

/-- A span that may be read lies within the data. -/
theorem span_lt {n : UInt64} (h : Addressable front rest)
    (hroom : front.length + n.toNat < 2 ^ 64) {i : Nat} (hi : i ∈ (after front rest).span n) :
    i < front.length + rest.length := by
  unfold span at hi
  split at hi
  · rename_i hcan
    have hlen := (canRead_after_iff h hroom).mp hcan
    rw [List.mem_range'_1, toNat_offset_after h] at hi
    omega
  · cases hi

/-- So does everything a call touches. -/
theorem touched_lt (h : Addressable front rest) (hroom : front.length + request.reach < 2 ^ 64)
    {i : Nat} (hi : i ∈ (after front rest).touched request) : i < front.length + rest.length := by
  cases request with
  | u8 => exact span_lt (n := 1) h hroom hi
  | u16 => exact span_lt (n := 2) h hroom hi
  | u32 => exact span_lt (n := 4) h hroom hi
  | u64 => exact span_lt (n := 8) h hroom hi
  | bytes size => exact span_lt h hroom hi
  | string maxLength =>
      have hroom' : front.length + (2 + 65535) < 2 ^ 64 := hroom
      have htwo : front.length + (2 : UInt64).toNat < 2 ^ 64 := by
        show front.length + 2 < 2 ^ 64
        omega
      rcases List.mem_append.mp hi with hi | hi
      · exact span_lt h htwo hi
      · cases hcount : (after front rest).readU16 with
        | none =>
            rw [hcount] at hi
            cases hi
        | some x =>
            obtain ⟨length, r⟩ := x
            rw [hcount] at hi
            obtain ⟨rest', rfl, rfl, hrest⟩ := exists_of_readU16 h htwo hcount
            simp only at hi
            split at hi
            · cases hi
            · have hbound : length.toUInt64.toNat < 2 ^ 16 := by
                rw [UInt16.toNat_toUInt64]
                exact length.toNat_lt
              have hlt := span_lt hrest (by
                rw [List.length_append, BigEndian.length_bytes16]
                omega) hi
              simpa [Nat.add_assoc] using hlt

end Calls

end ByteReader

-- ============================================================================
-- Programs
-- ============================================================================

/-- A parser: calls that lead on to the next, a refusal, or acceptance once the data
    is used up. -/
inductive ReadProgram (α : Type)
  | fail
  | finish (result : α)
  | call (request : ReadRequest) (next : request.Value → ReadProgram α)

namespace ReadProgram

variable {α : Type}

/-- Running the program on a reader; `finish` is the last test, `empty()`. -/
def run : ReadProgram α → ByteReader → Option α
  | .fail, _ => none
  | .finish result, r => if !r.empty then none else some result
  | .call request next, r => (r.read request).bind fun x => (next x.1).run x.2

/-- The data the program accepts, with the result: the fields in order, nothing
    behind them. -/
def Accepts : ReadProgram α → List UInt8 → α → Prop
  | .fail, _, _ => False
  | .finish result, data, a => data = [] ∧ result = a
  | .call request next, data, a =>
      ∃ v rest, request.Fits v ∧ data = request.encode v ++ rest ∧ (next v).Accepts rest a

/-- The positions of the data the program touches. -/
def touched : ReadProgram α → ByteReader → List Nat
  | .fail, _ => []
  | .finish _, _ => []
  | .call request next, r =>
      r.touched request ++
        match r.read request with
        | none => []
        | some (v, r) => (next v).touched r

/-- No path of the program asks for more than `n` bytes. -/
def Within : ReadProgram α → Nat → Prop
  | .fail, _ => True
  | .finish _, _ => True
  | .call request next, n =>
      request.reach ≤ n ∧ ∀ v, request.Fits v → (next v).Within (n - request.reach)

section Tests

variable (c : Prop) [Decidable c] (p q : ReadProgram α)

/-- A test between two calls. -/
theorem run_ite (r : ByteReader) :
    (if c then p else q).run r = if c then p.run r else q.run r := by
  split <;> rfl

theorem accepts_ite (data : List UInt8) (a : α) :
    (if c then p else q).Accepts data a ↔ if c then p.Accepts data a else q.Accepts data a := by
  split <;> rfl

/-- A program that begins with the test of a type byte accepts the bytes of the rest
    behind that byte. -/
theorem accepts_tag {T : Type} [DecidableEq T] {ofByte : UInt8 → Option T} {type : T}
    {tag : UInt8} (htag : ∀ b, ofByte b = some type ↔ b = tag) (data : List UInt8) (a : α) :
    (ReadProgram.call .u8 fun rawType => if ofByte rawType ≠ some type then .fail else q).Accepts
        data a ↔ ∃ rest, data = tag :: rest ∧ q.Accepts rest a := by
  constructor
  · rintro ⟨rawType, rest, -, rfl, haccepts⟩
    rw [accepts_ite] at haccepts
    split at haccepts
    · cases haccepts
    · rename_i htype
      obtain rfl := (htag rawType).mp (Decidable.not_not.mp htype)
      exact ⟨rest, rfl, haccepts⟩
  · rintro ⟨rest, rfl, haccepts⟩
    refine ⟨tag, rest, trivial, rfl, ?_⟩
    rw [accepts_ite, if_neg (Decidable.not_not.mpr ((htag tag).mpr rfl))]
    exact haccepts

theorem within_ite {n : Nat} (hp : p.Within n) (hq : q.Within n) :
    (if c then p else q).Within n := by
  split
  · exact hp
  · exact hq

end Tests

section Laws

variable {program : ReadProgram α} {n : Nat} {front rest : List UInt8} {a : α}

/-- A program accepts its fields and nothing else. -/
theorem run_eq_some_iff (hwithin : program.Within n) (h : ByteReader.Addressable front rest)
    (hroom : front.length + n < 2 ^ 64) :
    program.run (ByteReader.after front rest) = some a ↔ program.Accepts rest a := by
  induction program generalizing n front rest with
  | fail => simp [run, Accepts]
  | finish result =>
      simp only [run, Accepts, ← ByteReader.empty_after_iff h]
      cases (ByteReader.after front rest).empty <;> simp
  | call request next ih =>
      obtain ⟨hreach, hnext⟩ := hwithin
      have hcall : ∀ {v : request.Value} {rest' : List UInt8}, request.Fits v →
          rest = request.encode v ++ rest' →
          ((next v).run (ByteReader.after (front ++ request.encode v) rest') = some a ↔
            (next v).Accepts rest' a) := by
        rintro v rest' hfits rfl
        have hle := ReadRequest.length_encode_le hfits
        refine ih v (hnext v hfits) ?_ ?_
        · simpa [ByteReader.Addressable, Nat.add_assoc] using h
        · rw [List.length_append]
          omega
      simp only [run, Accepts, Option.bind_eq_some_iff, Prod.exists,
        ByteReader.read_eq_some_iff h (by omega : front.length + request.reach < 2 ^ 64)]
      constructor
      · rintro ⟨v, _, ⟨rest', hfits, hrest, rfl⟩, hrun⟩
        exact ⟨v, rest', hfits, hrest, (hcall hfits hrest).mp hrun⟩
      · rintro ⟨v, rest', hfits, hrest, haccepts⟩
        exact ⟨v, _, ⟨rest', hfits, hrest, rfl⟩, (hcall hfits hrest).mpr haccepts⟩

/-- A program touches nothing outside its data. -/
theorem touched_lt (hwithin : program.Within n) (h : ByteReader.Addressable front rest)
    (hroom : front.length + n < 2 ^ 64) {i : Nat}
    (hi : i ∈ program.touched (ByteReader.after front rest)) :
    i < front.length + rest.length := by
  induction program generalizing n front rest with
  | fail => cases hi
  | finish result => cases hi
  | call request next ih =>
      obtain ⟨hreach, hnext⟩ := hwithin
      have hroom' : front.length + request.reach < 2 ^ 64 := by omega
      rw [touched, List.mem_append] at hi
      rcases hi with hi | hi
      · exact ByteReader.touched_lt h hroom' hi
      · cases hread : (ByteReader.after front rest).read request with
        | none =>
            rw [hread] at hi
            cases hi
        | some x =>
            obtain ⟨v, r⟩ := x
            rw [hread] at hi
            obtain ⟨rest', hfits, rfl, rfl⟩ := (ByteReader.read_eq_some_iff h hroom').mp hread
            have hle := ReadRequest.length_encode_le hfits
            have hlt := ih v (hnext v hfits)
              (by simpa [ByteReader.Addressable, Nat.add_assoc] using h)
              (by rw [List.length_append]; omega) hi
            simpa [Nat.add_assoc] using hlt

variable {data : List UInt8}

/-- The two laws for a parser of a whole buffer. -/
theorem run_ofBytes_eq_some_iff (hwithin : program.Within n) (hn : n < 2 ^ 64)
    (hsize : data.length < 2 ^ 64) :
    program.run (ByteReader.ofBytes data) = some a ↔ program.Accepts data a := by
  have haddressable : ByteReader.Addressable [] data := by
    rw [ByteReader.Addressable, List.length_nil, Nat.zero_add]
    exact hsize
  rw [ByteReader.ofBytes_eq_after]
  exact run_eq_some_iff hwithin haddressable (by rw [List.length_nil]; omega)

theorem touched_ofBytes_lt (hwithin : program.Within n) (hn : n < 2 ^ 64)
    (hsize : data.length < 2 ^ 64) {i : Nat}
    (hi : i ∈ program.touched (ByteReader.ofBytes data)) : i < data.length := by
  have haddressable : ByteReader.Addressable [] data := by
    rw [ByteReader.Addressable, List.length_nil, Nat.zero_add]
    exact hsize
  have hlt := touched_lt hwithin haddressable (by rw [List.length_nil]; omega) hi
  rwa [List.length_nil, Nat.zero_add] at hlt

end Laws

end ReadProgram

end RcnetServer
