/-
  RcnetServer.BuildScripts.CaBundle

  The generator of the CA bundle header
  (build-scripts/curl-cacertpem/generate_ca_bundle_header.py).

  A text is what the script writes to the file: its characters in UTF-8.  The part that
  declares the array is written with codes, all ASCII; the script cuts the PEM into
  lines and puts each into a literal of its own.
-/

import RcnetServer.Lib.StringLiterals

namespace RcnetServer

namespace CaBundle

-- ============================================================================
-- escape_cpp_bytes
-- ============================================================================

/-- A digit of the format `02X`. -/
def upperHexDigit (n : Nat) : UInt8 :=
  if n < 10 then (0x30 + n).toUInt8 else (0x41 + (n - 10)).toUInt8

/-- What `escape_cpp_bytes` appends for one byte. -/
def escapeCppByte (b : UInt8) : List UInt8 :=
  if b = 0x5C then [0x5C, 0x5C]
  else if b = 0x22 then [0x5C, 0x22]
  else if b = 0x0A then [0x5C, 0x6E]
  else if b = 0x0D then [0x5C, 0x72]
  else if 0x20 ≤ b ∧ b ≤ 0x7E then [b]
  else [0x5C, 0x78, upperHexDigit (b.toNat / 16), upperHexDigit (b.toNat % 16)]

/-- `escape_cpp_bytes`. -/
def escapeCppBytes (data : List UInt8) : List UInt8 := data.flatMap escapeCppByte

-- ============================================================================
-- generate_header
-- ============================================================================

/-- `bytes.splitlines(keepends=True)`: a line ends behind a line feed, or behind a
    carriage return that no line feed follows. -/
def splitLines : List UInt8 → List (List UInt8)
  | [] => []
  | b :: rest =>
      if b = 0x0A ∨ (b = 0x0D ∧ rest.head? ≠ some 0x0A) then [b] :: splitLines rest
      else
        match splitLines rest with
        | [] => [[b]]
        | line :: lines => (b :: line) :: lines

/-- `namespace.split('::')`. -/
def splitNamespace : List UInt8 → List (List UInt8)
  | [] => [[]]
  | [c] => [[c]]
  | c :: d :: rest =>
      if c = 0x3A ∧ d = 0x3A then [] :: splitNamespace rest
      else
        match splitNamespace (d :: rest) with
        | [] => [[c]]
        | part :: parts => (c :: part) :: parts

/-- The bytes of a string of the script. -/
def utf8 (text : String) : List UInt8 := text.toUTF8.toList

def preamble : List UInt8 :=
  utf8 "#pragma once\n\n" ++ utf8 "#include <cstddef> // std::size_t\n\n" ++
    utf8 ("// Bundle CA embarqué pour la vérification TLS libcurl en mode " ++
      "cross-platform.\n") ++
    utf8 "// Source: https://curl.se/ca/cacert.pem\n" ++
    utf8 "// Fichier généré automatiquement depuis un fichier PEM.\n" ++
    utf8 "// Compatible MSVC: contenu découpé en plusieurs petits littéraux.\n\n"

/-- No namespaces for no name or an empty one. -/
def openNamespaces (namespaceName : Option (List UInt8)) : List UInt8 :=
  match namespaceName with
  | none => []
  | some name =>
      if name = [] then []
      else (splitNamespace name).flatMap (fun ns => utf8 "namespace " ++ ns ++ utf8 " \x7b\n") ++
        utf8 "\n"

def closeNamespaces (namespaceName : Option (List UInt8)) : List UInt8 :=
  match namespaceName with
  | none => []
  | some name =>
      if name = [] then []
      else utf8 "\n" ++ (splitNamespace name).reverse.flatMap
        (fun ns => utf8 "\x7d // namespace " ++ ns ++ utf8 "\n")

def indent : List UInt8 := [0x20, 0x20, 0x20, 0x20]

/-- One line of the PEM: `    "…"` and a newline. -/
def literalLine (line : List UInt8) : List UInt8 :=
  indent ++ 0x22 :: (escapeCppBytes line ++ [0x22, 0x0A])

/-- The lines of the array, up to and with its semicolon. -/
def initializer (pemBytes : List UInt8) : List UInt8 :=
  (splitLines pemBytes).flatMap literalLine ++ (indent ++ [0x3B, 0x0A, 0x0A])

def sizeDeclaration (varName sizeName : List UInt8) : List UInt8 :=
  utf8 "inline constexpr std::size_t " ++ sizeName ++ utf8 " = sizeof(" ++ varName ++
    utf8 ") - 1;\n"

/-- The file in front of the initializer: it ends with the `=` of the array. -/
def beforeInitializer (varName : List UInt8) (namespaceName : Option (List UInt8)) : List UInt8 :=
  preamble ++ openNamespaces namespaceName ++ utf8 "inline constexpr char " ++ varName ++
    utf8 "[] =\n"

/-- The file from the initializer on. -/
def fromInitializer (pemBytes varName sizeName : List UInt8)
    (namespaceName : Option (List UInt8)) : List UInt8 :=
  initializer pemBytes ++ (sizeDeclaration varName sizeName ++ closeNamespaces namespaceName)

/-- `generate_header`: the file and the counts it returns. -/
def generateHeader (pemBytes varName sizeName : List UInt8)
    (namespaceName : Option (List UInt8)) : List UInt8 × (Nat × Nat) :=
  (beforeInitializer varName namespaceName ++
      fromInitializer pemBytes varName sizeName namespaceName,
    (pemBytes.length, (splitLines pemBytes).length))

-- ============================================================================
-- The lines
-- ============================================================================

theorem flatten_splitLines (data : List UInt8) : (splitLines data).flatten = data := by
  induction data with
  | nil => rfl
  | cons b rest ih =>
      rw [splitLines]
      split
      · rw [List.flatten_cons, ih]
        rfl
      · split
        · rename_i hnone
          rw [hnone] at ih
          rw [← ih]
          rfl
        · rename_i line lines hlines
          rw [hlines] at ih
          rw [← ih]
          rfl

theorem ne_nil_of_mem_splitLines {data line : List UInt8} (h : line ∈ splitLines data) :
    line ≠ [] := by
  induction data generalizing line with
  | nil => cases h
  | cons b rest ih =>
      rw [splitLines] at h
      split at h
      · rcases List.mem_cons.mp h with rfl | h
        · exact List.cons_ne_nil _ _
        · exact ih h
      · split at h
        · obtain rfl := List.mem_singleton.mp h
          exact List.cons_ne_nil _ _
        · rename_i first lines hlines
          rcases List.mem_cons.mp h with rfl | h
          · exact List.cons_ne_nil _ _
          · exact ih (by rw [hlines]; exact List.mem_cons_of_mem _ h)

/-- A relation between neighbours that no line end stands in holds throughout exactly
    when it holds in every line. -/
theorem isChain_splitLines {R : UInt8 → UInt8 → Prop} (hlf : ∀ c, R 0x0A c)
    (hcr : ∀ c, R 0x0D c) (data : List UInt8) :
    data.IsChain R ↔ ∀ line ∈ splitLines data, line.IsChain R := by
  induction data with
  | nil => simp [splitLines]
  | cons b rest ih =>
      have hflatten := flatten_splitLines rest
      rw [List.isChain_cons, ih, splitLines]
      split
      · rename_i hend
        have hb : ∀ c ∈ rest.head?, R b c := by
          intro c _
          rcases hend with rfl | ⟨rfl, -⟩
          · exact hlf c
          · exact hcr c
        rw [List.forall_mem_cons]
        exact and_congr (iff_of_true hb (List.isChain_singleton b)) Iff.rfl
      · split
        · rename_i hnone
          rw [hnone] at hflatten
          obtain rfl : rest = [] := hflatten.symm
          simp [hnone]
        · rename_i line lines hlines
          have hmem : line ∈ splitLines rest := by simp [hlines]
          have hline := ne_nil_of_mem_splitLines hmem
          have hhead : rest.head? = line.head? := by
            rw [← hflatten, hlines, List.flatten_cons, List.head?_append_of_ne_nil _ hline]
          rw [hlines, List.forall_mem_cons, List.forall_mem_cons, List.isChain_cons, hhead,
            and_assoc]

-- ============================================================================
-- The escapes
-- ============================================================================

open StringLiterals

/-- The bytes that are written in hexadecimal. -/
def InHex (b : UInt8) : Prop := b ≠ 0x0A ∧ b ≠ 0x0D ∧ ¬ (0x20 ≤ b ∧ b ≤ 0x7E)

instance (b : UInt8) : Decidable (InHex b) := inferInstanceAs (Decidable (_ ∧ _ ∧ _))

theorem hexDigitValue_upperHexDigit : ∀ n < 16, hexDigitValue (upperHexDigit n) = some n := by
  decide

theorem escapeCppByte_of_inHex {b : UInt8} (h : InHex b) :
    escapeCppByte b = [0x5C, 0x78, upperHexDigit (b.toNat / 16), upperHexDigit (b.toNat % 16)] := by
  obtain ⟨hlf, hcr, hprintable⟩ := h
  have hbackslash : b ≠ 0x5C := by
    rintro rfl
    exact hprintable (by decide)
  have hquote : b ≠ 0x22 := by
    rintro rfl
    exact hprintable (by decide)
  rw [escapeCppByte, if_neg hbackslash, if_neg hquote, if_neg hlf, if_neg hcr, if_neg hprintable]

/-- A byte that stays as it is. -/
theorem escapeCppByte_of_printable {b : UInt8} (hbackslash : b ≠ 0x5C) (hquote : b ≠ 0x22)
    (hlow : 0x20 ≤ b) (hhigh : b ≤ 0x7E) : escapeCppByte b = [b] := by
  have hlf : b ≠ 0x0A := by
    rintro rfl
    exact absurd hlow (by decide)
  have hcr : b ≠ 0x0D := by
    rintro rfl
    exact absurd hlow (by decide)
  rw [escapeCppByte, if_neg hbackslash, if_neg hquote, if_neg hlf, if_neg hcr,
    if_pos ⟨hlow, hhigh⟩]

/-- The digits are printable. -/
theorem printable_of_isHexDigit {b : UInt8} (h : IsHexDigit b) : 0x20 ≤ b ∧ b ≤ 0x66 := by
  unfold IsHexDigit hexDigitValue at h
  simp only [UInt8.le_iff_toNat_le] at h ⊢
  split at h
  · rename_i hrange
    exact ⟨Nat.le_trans (by decide) hrange.1, Nat.le_trans hrange.2 (by decide)⟩
  · split at h
    · rename_i hrange
      exact ⟨Nat.le_trans (by decide) hrange.1, Nat.le_trans hrange.2 (by decide)⟩
    · split at h
      · rename_i hrange
        exact ⟨Nat.le_trans (by decide) hrange.1, Nat.le_trans hrange.2 (by decide)⟩
      · cases h

/-- `escape_cpp_bytes` as a spelling of bytes in a literal. -/
def escaper : Escaper where
  spell := escapeCppByte
  InHex := InHex
  spell_hex b h rest := by
    have hhigh := hexDigitValue_upperHexDigit (b.toNat / 16) (by have := b.toNat_lt; omega)
    have hlow := hexDigitValue_upperHexDigit (b.toNat % 16) (Nat.mod_lt _ (by decide))
    rw [escapeCppByte_of_inHex h]
    refine (readFrom_text_hexEscape hhigh hlow).trans ?_
    rw [Nat.div_add_mod]
    rfl
  spell_plain b h rest := by
    by_cases hbackslash : b = 0x5C
    · subst hbackslash
      exact readFrom_text_simpleEscape (by decide) (by decide) (by decide)
    by_cases hquote : b = 0x22
    · subst hquote
      exact readFrom_text_simpleEscape (by decide) (by decide) (by decide)
    by_cases hlf : b = 0x0A
    · subst hlf
      exact readFrom_text_simpleEscape (by decide) (by decide) (by decide)
    by_cases hcr : b = 0x0D
    · subst hcr
      exact readFrom_text_simpleEscape (by decide) (by decide) (by decide)
    have hprintable : 0x20 ≤ b ∧ b ≤ 0x7E := by
      by_contra hnot
      exact h ⟨hlf, hcr, hnot⟩
    rw [escapeCppByte_of_printable hbackslash hquote hprintable.1 hprintable.2]
    exact readFrom_text_char hquote hbackslash hprintable.1 hprintable.2
  spell_digit b h := by
    obtain ⟨hlow, hhigh⟩ := printable_of_isHexDigit h
    refine escapeCppByte_of_printable ?_ ?_ hlow (UInt8.le_trans hhigh (by decide))
    · rintro rfl
      exact absurd h (by decide)
    · rintro rfl
      exact absurd h (by decide)
  spell_notDigit b h := by
    unfold escapeCppByte
    split_ifs
    · exact ⟨_, _, rfl, by decide⟩
    · exact ⟨_, _, rfl, by decide⟩
    · exact ⟨_, _, rfl, by decide⟩
    · exact ⟨_, _, rfl, by decide⟩
    · exact ⟨_, _, rfl, h⟩
    · exact ⟨_, _, rfl, by decide⟩

end CaBundle

end RcnetServer
