/-
  RcnetServer.Lib.StringLiterals

  How C++ reads a `char` array initializer made of ordinary string literals.

  The text is ASCII, given by its codes, with no comments and no spliced lines.
  `step` reads one character: escape sequences are simple, octal with at most three
  digits, or hexadecimal with all the digits that follow; a value over 255 does not
  fit a `char`, and a literal does not contain a newline.  Adjacent literals are
  concatenated, and a semicolon ends an initializer that has at least one.

  `Escaper` is a way to spell bytes in a literal with hexadecimal escapes for some of
  them.  Such a spelling is read back exactly when no byte in hexadecimal is followed
  by one that reads as a digit (`readFrom_spell`); otherwise bytes get lost
  (`atMost_spell`).
-/

import Mathlib.Data.List.Chain

namespace StringLiterals

-- ============================================================================
-- Characters
-- ============================================================================

def quote : UInt8 := 0x22
def backslash : UInt8 := 0x5C
def semicolon : UInt8 := 0x3B

def IsSpace (c : UInt8) : Prop := c = 0x20 ∨ (0x09 ≤ c ∧ c ≤ 0x0D)

instance (c : UInt8) : Decidable (IsSpace c) := inferInstanceAs (Decidable (_ ∨ _))

def hexDigitValue (c : UInt8) : Option Nat :=
  if 0x30 ≤ c ∧ c ≤ 0x39 then some (c.toNat - 0x30)
  else if 0x41 ≤ c ∧ c ≤ 0x46 then some (c.toNat - 0x41 + 10)
  else if 0x61 ≤ c ∧ c ≤ 0x66 then some (c.toNat - 0x61 + 10)
  else none

/-- One of `0`..`9`, `A`..`F`, `a`..`f`. -/
def IsHexDigit (c : UInt8) : Prop := (hexDigitValue c).isSome = true

instance (c : UInt8) : Decidable (IsHexDigit c) := inferInstanceAs (Decidable (_ = _))

def octalDigitValue (c : UInt8) : Option Nat :=
  if 0x30 ≤ c ∧ c ≤ 0x37 then some (c.toNat - 0x30) else none

/-- The escape sequences of one character and the bytes they stand for. -/
def simpleEscapes : List (UInt8 × UInt8) :=
  [(0x27, 0x27), (0x22, 0x22), (0x3F, 0x3F), (0x5C, 0x5C), (0x61, 0x07), (0x62, 0x08),
    (0x66, 0x0C), (0x6E, 0x0A), (0x72, 0x0D), (0x74, 0x09), (0x76, 0x0B)]

-- ============================================================================
-- Reading
-- ============================================================================

inductive State
  /-- Before the first literal. -/
  | start
  /-- Behind a literal. -/
  | between
  | text
  /-- Behind a backslash. -/
  | escape
  /-- Behind a backslash and an `x`. -/
  | hexStart
  | hex (value : Nat)
  | octal (value digits : Nat)
deriving DecidableEq

/-- A character in a literal, outside of an escape sequence. -/
def textStep (c : UInt8) : Option (State × List UInt8) :=
  if c = quote then some (.between, [])
  else if c = backslash then some (.escape, [])
  else if 0x20 ≤ c ∧ c ≤ 0x7E then some (.text, [c])
  else none

/-- The character behind an escape sequence, which stands for one byte. -/
def endEscape (value : Nat) (c : UInt8) : Option (State × List UInt8) :=
  if value < 256 then (textStep c).map fun x => (x.1, value.toUInt8 :: x.2) else none

/-- One character: the state behind it and the bytes it completes. -/
def step : State → UInt8 → Option (State × List UInt8)
  | .start, c =>
      if c = quote then some (.text, []) else if IsSpace c then some (.start, []) else none
  | .between, c =>
      if c = quote then some (.text, []) else if IsSpace c then some (.between, []) else none
  | .text, c => textStep c
  | .escape, c =>
      if c = 0x78 then some (.hexStart, [])
      else
        match octalDigitValue c with
        | some d => some (.octal d 1, [])
        | none => (simpleEscapes.lookup c).map fun b => (.text, [b])
  | .hexStart, c => (hexDigitValue c).map fun d => (.hex d, [])
  | .hex value, c =>
      match hexDigitValue c with
      | some d => some (.hex (16 * value + d), [])
      | none => endEscape value c
  | .octal value digits, c =>
      match octalDigitValue c with
      | some d => if digits < 3 then some (.octal (8 * value + d) (digits + 1), [])
          else endEscape value c
      | none => endEscape value c

/-- The bytes of all the literals up to the semicolon. -/
def readFrom : State → List UInt8 → Option (List UInt8)
  | _, [] => none
  | s, c :: rest =>
      if s = .between ∧ c = semicolon then some []
      else (step s c).bind fun x => (readFrom x.1 rest).map (x.2 ++ ·)

/-- The array that the text behind the `=` initializes: all the bytes, and a zero. -/
def charArray (initializer : List UInt8) : Option (List UInt8) :=
  (readFrom .start initializer).map (· ++ [0])

-- ============================================================================
-- What is read
-- ============================================================================

section Read

variable {s s' : State} {c d e b : UInt8} {rest out spaces : List UInt8} {value m n : Nat}

theorem readFrom_cons (h : step s c = some (s', out)) (hs : s ≠ .between ∨ c ≠ semicolon) :
    readFrom s (c :: rest) = (readFrom s' rest).map (out ++ ·) := by
  rw [readFrom, if_neg (by rintro ⟨rfl, rfl⟩; simp at hs), h, Option.bind_some]

/-- A character that completes nothing. -/
theorem readFrom_cons_nil (h : step s c = some (s', [])) (hs : s ≠ .between ∨ c ≠ semicolon) :
    readFrom s (c :: rest) = readFrom s' rest := by
  rw [readFrom_cons h hs]
  simp

theorem readFrom_text_quote : readFrom .text (quote :: rest) = readFrom .between rest :=
  readFrom_cons_nil rfl (.inl (by decide))

theorem readFrom_text_char (hquote : c ≠ quote) (hbackslash : c ≠ backslash)
    (hlow : 0x20 ≤ c) (hhigh : c ≤ 0x7E) :
    readFrom .text (c :: rest) = (readFrom .text rest).map (c :: ·) := by
  have hstep : step .text c = some (.text, [c]) := by
    rw [step, textStep, if_neg hquote, if_neg hbackslash, if_pos ⟨hlow, hhigh⟩]
  exact readFrom_cons hstep (.inl (by decide))

theorem readFrom_text_simpleEscape (hx : c ≠ 0x78) (hoctal : octalDigitValue c = none)
    (hescape : simpleEscapes.lookup c = some b) :
    readFrom .text (backslash :: c :: rest) = (readFrom .text rest).map (b :: ·) := by
  have hbackslash : step .text backslash = some (.escape, []) := rfl
  have hstep : step .escape c = some (.text, [b]) := by
    rw [step, if_neg hx, hoctal, hescape]
    rfl
  rw [readFrom_cons_nil hbackslash (.inl (by decide)), readFrom_cons hstep (.inl (by decide))]
  rfl

/-- A hexadecimal escape with two digits, so far. -/
theorem readFrom_text_hexEscape (hd : hexDigitValue d = some m) (he : hexDigitValue e = some n) :
    readFrom .text (backslash :: 0x78 :: d :: e :: rest) = readFrom (.hex (16 * m + n)) rest := by
  have hbackslash : step .text backslash = some (.escape, []) := rfl
  have hx : step .escape 0x78 = some (.hexStart, []) := rfl
  have hfirst : step .hexStart d = some (.hex m, []) := by
    rw [step, hd]
    rfl
  have hsecond : step (.hex m) e = some (.hex (16 * m + n), []) := by
    rw [step, he]
  rw [readFrom_cons_nil hbackslash (.inl (by decide)), readFrom_cons_nil hx (.inl (by decide)),
    readFrom_cons_nil hfirst (.inl (by decide)), readFrom_cons_nil hsecond (.inl (by simp))]

/-- A digit still belongs to the escape sequence. -/
theorem readFrom_hex_digit (h : hexDigitValue c = some n) :
    readFrom (.hex value) (c :: rest) = readFrom (.hex (16 * value + n)) rest := by
  have hstep : step (.hex value) c = some (.hex (16 * value + n), []) := by
    rw [step, h]
  exact readFrom_cons_nil hstep (.inl (by simp))

/-- Anything else ends it. -/
theorem readFrom_hex_end (h : hexDigitValue c = none) :
    readFrom (.hex value) (c :: rest) =
      if value < 256 then (readFrom .text (c :: rest)).map (value.toUInt8 :: ·) else none := by
  rw [readFrom, if_neg (by simp), step, h]
  simp only [endEscape]
  by_cases hvalue : value < 256
  · rw [if_pos hvalue, if_pos hvalue, readFrom, if_neg (by simp), step]
    cases textStep c with
    | none => rfl
    | some x => simp [Function.comp_def]
  · rw [if_neg hvalue, if_neg hvalue]
    rfl

/-- `"\x41";` is one byte, `"\x4" "1";` is two. -/
example : charArray [0x22, 0x5C, 0x78, 0x34, 0x31, 0x22, 0x3B] = some [0x41, 0] := by decide

example : charArray [0x22, 0x5C, 0x78, 0x34, 0x22, 0x20, 0x22, 0x31, 0x22, 0x3B] =
    some [0x04, 0x31, 0] := by decide

/-- Outside of a literal spaces are skipped. -/
theorem readFrom_spaces (hs : s = .start ∨ s = .between) (h : ∀ c ∈ spaces, IsSpace c) :
    readFrom s (spaces ++ rest) = readFrom s rest := by
  induction spaces with
  | nil => rfl
  | cons c spaces ih =>
      have hspace := h c List.mem_cons_self
      have hquote : c ≠ quote := by
        rintro rfl
        exact absurd hspace (by decide)
      have hsemicolon : c ≠ semicolon := by
        rintro rfl
        exact absurd hspace (by decide)
      have hstep : step s c = some (s, []) := by
        rcases hs with rfl | rfl
        · rw [step, if_neg hquote, if_pos hspace]
        · rw [step, if_neg hquote, if_pos hspace]
      rw [List.cons_append, readFrom_cons_nil hstep (.inr hsemicolon)]
      exact ih fun c hc => h c (List.mem_cons_of_mem _ hc)

/-- A quotation mark begins a literal. -/
theorem readFrom_open (hs : s = .start ∨ s = .between) :
    readFrom s (quote :: rest) = readFrom .text rest := by
  rcases hs with rfl | rfl
  · exact readFrom_cons_nil rfl (.inl (by decide))
  · exact readFrom_cons_nil rfl (.inr (by decide))

end Read

-- ============================================================================
-- Spelling bytes
-- ============================================================================

/-- A spelling of every byte in a literal, for some of them in hexadecimal. -/
structure Escaper where
  spell : UInt8 → List UInt8
  InHex : UInt8 → Prop
  /-- The digits of a byte in hexadecimal may go on. -/
  spell_hex : ∀ b, InHex b → ∀ rest,
    readFrom .text (spell b ++ rest) = readFrom (.hex b.toNat) rest
  spell_plain : ∀ b, ¬ InHex b → ∀ rest,
    readFrom .text (spell b ++ rest) = (readFrom .text rest).map (b :: ·)
  spell_digit : ∀ b, IsHexDigit b → spell b = [b]
  spell_notDigit : ∀ b, ¬ IsHexDigit b → ∃ c rest, spell b = c :: rest ∧ ¬ IsHexDigit c

namespace Escaper

variable (E : Escaper)

/-- No byte in hexadecimal is followed by one that reads as a digit. -/
def Separated (bytes : List UInt8) : Prop :=
  bytes.IsChain fun b c => ¬ (E.InHex b ∧ IsHexDigit c)

/-- The text of a literal behind its first quotation mark, and what follows it. -/
def literal (bytes rest : List UInt8) : List UInt8 :=
  bytes.flatMap E.spell ++ quote :: rest

variable {E} {b : UInt8} {bytes rest : List UInt8}

theorem literal_nil : E.literal [] rest = quote :: rest := rfl

theorem literal_cons : E.literal (b :: bytes) rest = E.spell b ++ E.literal bytes rest := by
  rw [literal, List.flatMap_cons, List.append_assoc, literal]

theorem separated_cons :
    E.Separated (b :: bytes) ↔
      (E.InHex b → ∀ c ∈ bytes.head?, ¬ IsHexDigit c) ∧ E.Separated bytes := by
  rw [Separated, List.isChain_cons]
  refine and_congr ⟨?_, ?_⟩ Iff.rfl
  · intro h hhex c hc hdigit
    exact h c hc ⟨hhex, hdigit⟩
  · rintro h c hc ⟨hhex, hdigit⟩
    exact h hhex c hc hdigit

/-- Unless the first byte reads as a digit, the text does not begin with one. -/
theorem exists_literal_eq_cons (rest : List UInt8) (h : ∀ c ∈ bytes.head?, ¬ IsHexDigit c) :
    ∃ c text, E.literal bytes rest = c :: text ∧ hexDigitValue c = none := by
  cases bytes with
  | nil => exact ⟨quote, rest, rfl, by decide⟩
  | cons b bytes =>
      obtain ⟨c, text, hspell, hc⟩ := E.spell_notDigit b (h b rfl)
      refine ⟨c, text ++ E.literal bytes rest, by rw [literal_cons, hspell]; rfl, ?_⟩
      simpa [IsHexDigit] using hc

/-- A separated spelling is read back. -/
theorem readFrom_spell (h : E.Separated bytes) :
    readFrom .text (E.literal bytes rest) = (readFrom .between rest).map (bytes ++ ·) := by
  induction bytes with
  | nil =>
      rw [literal_nil, readFrom_text_quote]
      simp
  | cons b bytes ih =>
      obtain ⟨hnext, hbytes⟩ := separated_cons.mp h
      have hb : (readFrom .text (E.literal bytes rest)).map (b :: ·) =
          (readFrom .between rest).map (b :: bytes ++ ·) := by
        rw [ih hbytes, Option.map_map]
        rfl
      rw [literal_cons, ← hb]
      by_cases hhex : E.InHex b
      · -- what follows ends the escape sequence
        obtain ⟨c, text, htext, hc⟩ := exists_literal_eq_cons rest (hnext hhex)
        rw [E.spell_hex b hhex, htext, readFrom_hex_end hc, if_pos b.toNat_lt,
          Nat.toUInt8_eq, UInt8.ofNat_toNat]
      · exact E.spell_plain b hhex _

/-- A result that has at most `n` bytes in front of what `rest` yields, fewer if `short`. -/
def AtMost (rest : List UInt8) (n : Nat) (short : Prop) (result : Option (List UInt8)) : Prop :=
  ∀ out, result = some out → ∃ tail, readFrom .between rest = some tail ∧
    out.length ≤ n + tail.length ∧ (short → out.length < n + tail.length)

theorem AtMost.cons {n : Nat} {short : Prop} {result : Option (List UInt8)} (b : UInt8)
    (h : AtMost rest n short result) : AtMost rest (n + 1) short (result.map (b :: ·)) := by
  intro out hout
  obtain ⟨out', hresult, rfl⟩ := Option.map_eq_some_iff.mp hout
  obtain ⟨tail, htail, hle, hlt⟩ := h out' hresult
  refine ⟨tail, htail, ?_, fun hshort => ?_⟩
  · rw [List.length_cons]
    omega
  · have := hlt hshort
    rw [List.length_cons]
    omega

theorem AtMost.mono {m n : Nat} {short short' : Prop} {result : Option (List UInt8)}
    (h : AtMost rest m short result) (hmn : m ≤ n) (hshort : short' → short ∨ m < n) :
    AtMost rest n short' result := by
  intro out hout
  obtain ⟨tail, htail, hle, hlt⟩ := h out hout
  refine ⟨tail, htail, by omega, fun hs => ?_⟩
  rcases hshort hs with hs | hs
  · have := hlt hs
    omega
  · omega

/-- Behind an escape sequence that is not gone on with, the same and one byte more. -/
theorem AtMost.hex_of_text (hfirst : ∀ c ∈ bytes.head?, ¬ IsHexDigit c)
    (htext : AtMost rest bytes.length (¬ E.Separated bytes)
      (readFrom .text (E.literal bytes rest))) (value : Nat) :
    AtMost rest (bytes.length + 1) ((∃ c ∈ bytes.head?, IsHexDigit c) ∨ ¬ E.Separated bytes)
      (readFrom (.hex value) (E.literal bytes rest)) := by
  obtain ⟨c, text, hliteral, hc⟩ := exists_literal_eq_cons (E := E) rest hfirst
  rw [hliteral, readFrom_hex_end hc, ← hliteral]
  split
  · refine (htext.cons _).mono (Nat.le_refl _) ?_
    rintro (⟨c, hc, hdigit⟩ | hnot)
    · exact absurd hdigit (hfirst c hc)
    · exact .inl hnot
  · intro out hout
    cases hout

/-- A byte in front of a text: in hexadecimal, what follows may go on with it. -/
theorem AtMost.text_cons
    (htext : AtMost rest bytes.length (¬ E.Separated bytes)
      (readFrom .text (E.literal bytes rest)))
    (hhex : AtMost rest (bytes.length + 1)
      ((∃ c ∈ bytes.head?, IsHexDigit c) ∨ ¬ E.Separated bytes)
      (readFrom (.hex b.toNat) (E.literal bytes rest))) :
    AtMost rest (b :: bytes).length (¬ E.Separated (b :: bytes))
      (readFrom .text (E.literal (b :: bytes) rest)) := by
  rw [literal_cons]
  by_cases hb : E.InHex b
  · rw [E.spell_hex b hb]
    refine hhex.mono (Nat.le_refl _) fun hnot => .inl ?_
    by_cases hbytes : E.Separated bytes
    · refine .inl ?_
      by_contra hnone
      exact hnot (separated_cons.mpr ⟨fun _ c hc hdigit => hnone ⟨c, hc, hdigit⟩, hbytes⟩)
    · exact .inr hbytes
  · rw [E.spell_plain b hb]
    refine (htext.cons b).mono (Nat.le_refl _) fun hnot => .inl fun hbytes => ?_
    exact hnot (separated_cons.mpr ⟨fun h => absurd h hb, hbytes⟩)

/-- A spelling never yields more bytes than it was made from, and fewer unless it is
    separated: every digit that is read as part of an escape sequence is lost.  The
    second part is about what follows a byte in hexadecimal. -/
theorem atMost_spell (bytes rest : List UInt8) :
    AtMost rest bytes.length (¬ E.Separated bytes) (readFrom .text (E.literal bytes rest)) ∧
      ∀ value, AtMost rest (bytes.length + 1)
        ((∃ c ∈ bytes.head?, IsHexDigit c) ∨ ¬ E.Separated bytes)
        (readFrom (.hex value) (E.literal bytes rest)) := by
  induction bytes with
  | nil =>
      have htext : AtMost rest 0 (¬ E.Separated []) (readFrom .text (E.literal [] rest)) := by
        intro out hout
        rw [literal_nil, readFrom_text_quote] at hout
        exact ⟨out, hout, by omega, fun hnot => absurd List.isChain_nil hnot⟩
      exact ⟨htext, fun value => htext.hex_of_text (fun c hc => by cases hc) value⟩
  | cons b bytes ih =>
      obtain ⟨iht, ihh⟩ := ih
      have htext := iht.text_cons (b := b) (ihh b.toNat)
      refine ⟨htext, fun value => ?_⟩
      by_cases hdigit : IsHexDigit b
      · -- the byte itself is lost in the escape sequence
        obtain ⟨n, hn⟩ := Option.isSome_iff_exists.mp hdigit
        rw [literal_cons, E.spell_digit b hdigit, List.singleton_append, readFrom_hex_digit hn]
        exact (ihh _).mono (Nat.le_succ _) fun _ => .inr (Nat.lt_succ_self _)
      · refine htext.hex_of_text (fun c hc => ?_) value
        obtain rfl : b = c := by simpa using hc
        exact hdigit

end Escaper

end StringLiterals
