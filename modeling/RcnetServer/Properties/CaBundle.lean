/-
  RcnetServer.Properties.CaBundle

  What C++ reads from the header of the CA bundle.

  The array holds the input exactly when the input is not empty and no byte that is
  written in hexadecimal comes before one that reads as a hexadecimal digit: C++ takes
  that digit into the escape sequence.  The cut into lines has no part in it, since no
  line ends in a byte written so.
-/

import RcnetServer.BuildScripts.CaBundle

namespace RcnetServer

namespace CaBundle

open StringLiterals

-- ============================================================================
-- The literals
-- ============================================================================

section Lines

variable {s : State} {line rest out : List UInt8} {lines : List (List UInt8)}

/-- What follows the lines: the semicolon, and the rest of the file. -/
def closing (rest : List UInt8) : List UInt8 := indent ++ semicolon :: rest

theorem isSpace_of_mem_indent : ∀ c ∈ indent, IsSpace c := by
  intro c hc
  have hblank : c = 0x20 := by simpa [indent] using hc
  exact .inl hblank

theorem readFrom_literalLine (hs : s = .start ∨ s = .between) :
    readFrom s (literalLine line ++ rest) =
      readFrom .text (escaper.literal line (0x0A :: rest)) := by
  have htext : literalLine line ++ rest =
      indent ++ quote :: escaper.literal line (0x0A :: rest) := by
    simp [literalLine, escapeCppBytes, Escaper.literal, escaper, quote]
  rw [htext, readFrom_spaces hs isSpace_of_mem_indent, readFrom_open hs]

theorem readFrom_newline : readFrom .between (0x0A :: rest) = readFrom .between rest := by
  have hspace : ∀ c ∈ [(0x0A : UInt8)], IsSpace c := by
    intro c hc
    obtain rfl := List.mem_singleton.mp hc
    decide
  exact readFrom_spaces (.inr rfl) hspace

theorem readFrom_closing : readFrom .between (closing rest) = some [] := by
  rw [closing, readFrom_spaces (.inr rfl) isSpace_of_mem_indent, readFrom, if_pos ⟨rfl, rfl⟩]

/-- An initializer without a literal is none. -/
theorem readFrom_start_closing : readFrom .start (closing rest) = none := by
  rw [closing, readFrom_spaces (.inl rfl) isSpace_of_mem_indent]
  rfl

/-- Separated lines are read back, one behind the other. -/
theorem readFrom_lines (h : ∀ line ∈ lines, escaper.Separated line) :
    readFrom .between (lines.flatMap literalLine ++ closing rest) = some lines.flatten := by
  induction lines with
  | nil => exact readFrom_closing
  | cons line lines ih =>
      rw [List.flatMap_cons, List.append_assoc, readFrom_literalLine (.inr rfl),
        Escaper.readFrom_spell (h line List.mem_cons_self), readFrom_newline,
        ih fun l hl => h l (List.mem_cons_of_mem _ hl)]
      rfl

/-- Lines yield at most the bytes they were made from, and fewer unless all are
    separated. -/
theorem length_of_readFrom_lines
    (h : readFrom .between (lines.flatMap literalLine ++ closing rest) = some out) :
    out.length ≤ lines.flatten.length ∧
      ((¬ ∀ line ∈ lines, escaper.Separated line) → out.length < lines.flatten.length) := by
  induction lines generalizing out with
  | nil =>
      rw [List.flatMap_nil, List.nil_append, readFrom_closing] at h
      obtain rfl := Option.some.inj h
      exact ⟨Nat.le_refl _, fun hnot => absurd (by simp) hnot⟩
  | cons line lines ih =>
      rw [List.flatMap_cons, List.append_assoc, readFrom_literalLine (.inr rfl)] at h
      obtain ⟨tail, htail, hle, hlt⟩ := (Escaper.atMost_spell line _).1 out h
      rw [readFrom_newline] at htail
      obtain ⟨htaille, htaillt⟩ := ih htail
      rw [List.flatten_cons, List.length_append, List.forall_mem_cons]
      refine ⟨by omega, fun hnot => ?_⟩
      by_cases hline : escaper.Separated line
      · have := htaillt fun hlines => hnot ⟨hline, hlines⟩
        omega
      · have := hlt hline
        omega

/-- Before the first line there is no difference. -/
theorem readFrom_start_lines (h : lines ≠ []) :
    readFrom .start (lines.flatMap literalLine ++ rest) =
      readFrom .between (lines.flatMap literalLine ++ rest) := by
  obtain ⟨line, lines, rfl⟩ := List.exists_cons_of_ne_nil h
  rw [List.flatMap_cons, List.append_assoc, readFrom_literalLine (.inl rfl),
    readFrom_literalLine (.inr rfl)]

end Lines

-- ============================================================================
-- The header
-- ============================================================================

variable (pemBytes varName sizeName : List UInt8) (namespaceName : Option (List UInt8))

/-- The file behind the `=` of the array. -/
def behindDeclaration : List UInt8 :=
  (generateHeader pemBytes varName sizeName namespaceName).1.drop
    (beforeInitializer varName namespaceName).length

/-- `sizeof(array) - 1`. -/
def sizeConstant (array : List UInt8) : Nat := array.length - 1

/-- The header declares an array of the input, with its terminating zero, and the size
    of the input. -/
structure Lossless : Prop where
  array : charArray (behindDeclaration pemBytes varName sizeName namespaceName) =
    some (pemBytes ++ [0])
  size : ∀ array,
    charArray (behindDeclaration pemBytes varName sizeName namespaceName) = some array →
      sizeConstant array = pemBytes.length

/-- No byte written in hexadecimal has a digit behind it. -/
def NoDigitBehindHex : Prop := pemBytes.IsChain fun b c => ¬ (InHex b ∧ IsHexDigit c)

instance : Decidable (NoDigitBehindHex pemBytes) :=
  inferInstanceAs (Decidable (List.IsChain _ _))

theorem noDigitBehindHex_iff :
    NoDigitBehindHex pemBytes ↔ ∀ line ∈ splitLines pemBytes, escaper.Separated line :=
  isChain_splitLines (fun _ h => absurd h.1 (by decide)) (fun _ h => absurd h.1 (by decide)) _

theorem behindDeclaration_eq : ∃ rest, behindDeclaration pemBytes varName sizeName namespaceName =
    (splitLines pemBytes).flatMap literalLine ++ closing rest := by
  refine ⟨0x0A :: 0x0A :: (sizeDeclaration varName sizeName ++ closeNamespaces namespaceName), ?_⟩
  rw [behindDeclaration, generateHeader, List.drop_left, fromInitializer, initializer, closing]
  simp [semicolon]

variable {pemBytes}

theorem splitLines_ne_nil (h : pemBytes ≠ []) : splitLines pemBytes ≠ [] := by
  intro hnil
  have hflatten := flatten_splitLines pemBytes
  rw [hnil] at hflatten
  exact h hflatten.symm

/-- An empty input leaves an initializer without a literal. -/
theorem charArray_empty :
    charArray (behindDeclaration [] varName sizeName namespaceName) = none := by
  obtain ⟨rest, htext⟩ := behindDeclaration_eq [] varName sizeName namespaceName
  have hclosing : (splitLines []).flatMap literalLine ++ closing rest = closing rest := rfl
  rw [htext, hclosing, charArray, readFrom_start_closing]
  rfl

/-- The array of an input whose hexadecimal escapes end where they should. -/
theorem charArray_of_noDigitBehindHex (hne : pemBytes ≠ []) (h : NoDigitBehindHex pemBytes) :
    charArray (behindDeclaration pemBytes varName sizeName namespaceName) =
      some (pemBytes ++ [0]) := by
  obtain ⟨rest, htext⟩ := behindDeclaration_eq pemBytes varName sizeName namespaceName
  rw [htext, charArray, readFrom_start_lines (splitLines_ne_nil hne),
    readFrom_lines ((noDigitBehindHex_iff pemBytes).mp h), flatten_splitLines, Option.map_some]

/-- Any other array is too short. -/
theorem length_of_charArray (hne : pemBytes ≠ []) (h : ¬ NoDigitBehindHex pemBytes)
    {array : List UInt8}
    (harray : charArray (behindDeclaration pemBytes varName sizeName namespaceName) = some array) :
    array.length < pemBytes.length + 1 := by
  obtain ⟨rest, htext⟩ := behindDeclaration_eq pemBytes varName sizeName namespaceName
  rw [htext, charArray, readFrom_start_lines (splitLines_ne_nil hne)] at harray
  obtain ⟨out, hout, rfl⟩ := Option.map_eq_some_iff.mp harray
  have hshort := (length_of_readFrom_lines hout).2 (mt (noDigitBehindHex_iff pemBytes).mpr h)
  rw [flatten_splitLines] at hshort
  rw [List.length_append, List.length_singleton]
  omega

/-- The generator is lossless exactly on these inputs. -/
theorem generateHeader_lossless_iff (pemBytes varName sizeName : List UInt8)
    (namespaceName : Option (List UInt8)) :
    Lossless pemBytes varName sizeName namespaceName ↔
      pemBytes ≠ [] ∧ NoDigitBehindHex pemBytes := by
  constructor
  · rintro ⟨harray, -⟩
    have hne : pemBytes ≠ [] := by
      rintro rfl
      rw [charArray_empty] at harray
      cases harray
    refine ⟨hne, ?_⟩
    by_contra hnot
    have hshort := length_of_charArray varName sizeName namespaceName hne hnot harray
    rw [List.length_append, List.length_singleton] at hshort
    exact Nat.lt_irrefl _ hshort
  · rintro ⟨hne, h⟩
    have harray := charArray_of_noDigitBehindHex varName sizeName namespaceName hne h
    refine ⟨harray, ?_⟩
    intro array heq
    obtain rfl := Option.some.inj (harray.symm.trans heq)
    rw [sizeConstant, List.length_append, List.length_singleton, Nat.add_sub_cancel]

/-- In UTF-8 "éd" is C3 A9 64; the escape sequence of A9 takes the `d` as a digit. -/
theorem generateHeader_not_lossless_accent :
    ¬ Lossless [0xC3, 0xA9, 0x64] [0x61] [0x73] none := by
  rintro ⟨harray, -⟩
  have hshort := length_of_charArray [0x61] [0x73] none (by decide) (by decide) harray
  exact absurd hshort (by decide)

end CaBundle

end RcnetServer
