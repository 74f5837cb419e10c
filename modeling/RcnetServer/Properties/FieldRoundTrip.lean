/-
  RcnetServer.Properties.FieldRoundTrip

  `ByteReader` inverts `ByteWriter` on any sequence of fields.

  Two facts about one field carry the inductions: a field that is there is read
  (`ByteReader.read_encode`), and of a field that is cut short nothing is
  (`ByteReader.read_of_cut`).
-/

import RcnetServer.Network.FieldCalls

namespace RcnetServer

namespace ByteReader

section Cut

variable {front rest : List UInt8}

/-- The check refuses more than is left. -/
theorem canRead_eq_false {n : UInt64} (hroom : front.length + n.toNat < 2 ^ 64)
    (hshort : rest.length < n.toNat) : (after front rest).canRead n = false := by
  have haddressable : Addressable front rest := by
    unfold Addressable
    omega
  rw [Bool.eq_false_iff]
  intro hcan
  have hle := (canRead_after_iff haddressable hroom).mp hcan
  omega

/-- A string that is cut short, in its length or behind it, is not read. -/
theorem readString_of_cut {s p : List UInt8} {maxLength : UInt64} (hs : s.length < 2 ^ 16)
    (hp : p <+: BigEndian.bytes16 s.length.toUInt16 ++ s)
    (hne : p ≠ BigEndian.bytes16 s.length.toUInt16 ++ s)
    (hroom : front.length + (2 + s.length) < 2 ^ 64) :
    (after front p).readString maxLength = none := by
  have hlength : s.length.toUInt16.toNat = s.length := UInt16.toNat_ofNat_of_lt' hs
  unfold readString
  by_cases hcount : BigEndian.bytes16 s.length.toUInt16 <+: p
  · obtain ⟨q, rfl⟩ := hcount
    have hq : q <+: s := (List.prefix_append_right_inj _).mp hp
    have hshort : q.length < s.length :=
      Nat.lt_of_le_of_ne hq.length_le fun h => hne (by rw [hq.eq_of_length h])
    have haddressable : Addressable front (BigEndian.bytes16 s.length.toUInt16 ++ q) := by
      rw [Addressable, List.length_append, BigEndian.length_bytes16]
      omega
    have hrefused : (after (front ++ BigEndian.bytes16 s.length.toUInt16) q).canRead
        s.length.toUInt16.toUInt64 = false := by
      refine canRead_eq_false ?_ ?_
      · rw [List.length_append, BigEndian.length_bytes16, UInt16.toNat_toUInt64, hlength]
        omega
      · rw [UInt16.toNat_toUInt64, hlength]
        exact hshort
    rw [readU16_after haddressable]
    simp [hrefused]
  · have hshort : p.length < 2 := by
      rcases List.prefix_or_prefix_of_prefix hp (List.prefix_append _ s) with hpre | hpre
      · refine Nat.lt_of_le_of_ne hpre.length_le fun h => hcount ?_
        have heq := hpre.eq_of_length h
        exact ⟨[], by rw [List.append_nil, heq]⟩
      · exact absurd hpre hcount
    have hrefused : (after front p).canRead 2 = false :=
      canRead_eq_false (by show front.length + 2 < 2 ^ 64; omega) hshort
    rw [readU16, if_neg (by rw [hrefused]; exact Bool.false_ne_true)]

/-- A field that is cut short is not read. -/
theorem read_of_cut {field : Field} {p : List UInt8} (hp : p <+: field.encode)
    (hne : p ≠ field.encode) (hroom : front.length + field.encode.length < 2 ^ 64) :
    (after front p).read field.request = none := by
  have hshort : p.length < field.encode.length :=
    Nat.lt_of_le_of_ne hp.length_le fun h => hne (hp.eq_of_length h)
  obtain ⟨request, value, hfits⟩ := field
  -- a number or a block has one check, for all its bytes
  have hcheck : ∀ {n : UInt64} {α : Type} (x : Option α),
      n.toNat = (request.encode value).length →
      (if (after front p).canRead n then x else none) = none := by
    intro n α x hn
    have hrefused : (after front p).canRead n = false :=
      canRead_eq_false (by rw [hn]; exact hroom) (by rw [hn]; exact hshort)
    rw [if_neg (by rw [hrefused]; exact Bool.false_ne_true)]
  cases request with
  | u8 => exact hcheck _ rfl
  | u16 => exact hcheck _ rfl
  | u32 => exact hcheck _ rfl
  | u64 => exact hcheck _ rfl
  | bytes size => exact hcheck _ hfits.symm
  | string maxLength =>
      refine readString_of_cut hfits.1 hp hne ?_
      have hlength : (ReadRequest.encode (.string maxLength) value).length =
          2 + value.length := by
        rw [ReadRequest.encode, List.length_append, BigEndian.length_bytes16]
      rw [← hlength]
      exact hroom

end Cut

end ByteReader

-- ============================================================================
-- Sequences of fields
-- ============================================================================

section Fields

variable {fields : List Field} {front rest p : List UInt8}

/-- Fields that are there are read, in order. -/
theorem readFields_encode
    (h : ByteReader.Addressable front (fields.flatMap Field.encode ++ rest)) :
    (ByteReader.after front (fields.flatMap Field.encode ++ rest)).readFields
        (fields.map Field.request) =
      some (fields.map Field.read,
        ByteReader.after (front ++ fields.flatMap Field.encode) rest) := by
  induction fields generalizing front with
  | nil => simp [ByteReader.readFields]
  | cons field fields ih =>
      rw [List.flatMap_cons, List.append_assoc] at h ⊢
      have hrest : ByteReader.Addressable (front ++ field.encode)
          (fields.flatMap Field.encode ++ rest) := by
        simpa [ByteReader.Addressable, Nat.add_assoc] using h
      rw [List.map_cons, ByteReader.readFields, Field.encode,
        ByteReader.read_encode field.fits h, Option.bind_some]
      rw [← Field.encode, ih hrest, Option.map_some, List.append_assoc]
      rfl

/-- Of fields that are cut short some read fails. -/
theorem readFields_of_cut (hp : p <+: fields.flatMap Field.encode)
    (hne : p ≠ fields.flatMap Field.encode)
    (hroom : front.length + (fields.flatMap Field.encode).length < 2 ^ 64) :
    (ByteReader.after front p).readFields (fields.map Field.request) = none := by
  induction fields generalizing front p with
  | nil => exact absurd (List.prefix_nil.mp hp) hne
  | cons field fields ih =>
      rw [List.flatMap_cons] at hp hne hroom
      rw [List.length_append] at hroom
      rw [List.map_cons, ByteReader.readFields]
      by_cases hfirst : field.encode <+: p
      · -- the cut is behind the first field
        obtain ⟨q, rfl⟩ := hfirst
        have hq : q <+: fields.flatMap Field.encode := (List.prefix_append_right_inj _).mp hp
        have hqle := hq.length_le
        have haddressable : ByteReader.Addressable front (field.encode ++ q) := by
          rw [ByteReader.Addressable, List.length_append]
          omega
        rw [Field.encode, ByteReader.read_encode field.fits haddressable, Option.bind_some]
        rw [← Field.encode, ih hq (fun h => hne (by rw [h]))
          (by rw [List.length_append]; omega)]
        rfl
      · -- it is in the first field
        have hin : p <+: field.encode := by
          rcases List.prefix_or_prefix_of_prefix hp (List.prefix_append _ _) with hpre | hpre
          · exact hpre
          · exact absurd hpre hfirst
        have hcut : p ≠ field.encode := by
          rintro rfl
          exact hfirst (List.prefix_refl _)
        rw [ByteReader.read_of_cut hin hcut (by omega)]
        rfl

end Fields

/-- Any fields, written in order, are read back and use up the buffer; from a buffer
    that is cut short they are not. -/
theorem fields_roundTrip (fields : List Field)
    (hsize : (fields.flatMap Field.encode).length < 2 ^ 64) :
    ∃ w, ByteWriter.writeFields {} fields = some w ∧
      (∃ r, (ByteReader.ofBytes w.buffer).readFields (fields.map Field.request) =
        some (fields.map Field.read, r) ∧ r.empty = true) ∧
      ∀ p, p <+: w.buffer → p ≠ w.buffer →
        (ByteReader.ofBytes p).readFields (fields.map Field.request) = none := by
  refine ⟨_, ByteWriter.writeFields_eq {} fields, ?_, ?_⟩
  · have haddressable : ByteReader.Addressable [] (fields.flatMap Field.encode ++ []) := by
      rw [ByteReader.Addressable, List.append_nil, List.length_nil, Nat.zero_add]
      exact hsize
    have hread := readFields_encode haddressable
    rw [List.append_nil, List.nil_append] at hread
    exact ⟨_, hread, ByteReader.empty_after_nil _⟩
  · intro p hp hne
    exact readFields_of_cut hp hne (by rw [List.length_nil, Nat.zero_add]; exact hsize)

/-- Fields of each kind; the strings are exactly as long as their reader allows. -/
def fieldOfEachKind : List Field :=
  [⟨.u8, 7, trivial⟩, ⟨.u16, 513, trivial⟩, ⟨.bytes 2, [8, 9], rfl⟩,
    ⟨.string 2, [97, 98], ⟨by decide, by decide⟩⟩, ⟨.string 0, [], ⟨by decide, by decide⟩⟩,
    ⟨.u32, 65537, trivial⟩, ⟨.u64, 1, trivial⟩]

theorem fields_roundTrip_ofEachKind :
    ∃ w, ByteWriter.writeFields {} fieldOfEachKind = some w ∧
      (∃ r, (ByteReader.ofBytes w.buffer).readFields (fieldOfEachKind.map Field.request) =
        some (fieldOfEachKind.map Field.read, r) ∧ r.empty = true) ∧
      ∀ p, p <+: w.buffer → p ≠ w.buffer →
        (ByteReader.ofBytes p).readFields (fieldOfEachKind.map Field.request) = none :=
  fields_roundTrip fieldOfEachKind (by decide)

end RcnetServer
