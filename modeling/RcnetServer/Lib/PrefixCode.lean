/-
  RcnetServer.Lib.PrefixCode

  Self-delimiting encodings.

  An encoding is a prefix code when the encoding of a value, whatever is put behind
  it, determines the value and what was put behind it.  Prefix codes are closed
  under what a wire format is made of: fields of a fixed length, fields one after
  the other (`append`), a length or a tag that decides how to go on (`dependent`),
  and renaming of values (`comp`).
-/

import Mathlib.Logic.Function.Basic
import Mathlib.Data.Sigma.Basic

/-- The encoding of `a` can be told from every other one, and from what follows it. -/
def IsPrefixCode {α β : Type*} (encode : α → List β) : Prop :=
  ∀ a b r s, encode a ++ r = encode b ++ s → a = b ∧ r = s

namespace IsPrefixCode

variable {α α' γ β : Type*} {encode : α → List β} {encode' : α' → List β}

-- ============================================================================
-- What prefix codes are good for
-- ============================================================================

/-- Two values with the same encoding are the same. -/
theorem injective (h : IsPrefixCode encode) : Function.Injective encode := by
  intro a b hab
  exact (h a b [] [] (by rw [hab])).1

/-- No encoding is a proper prefix of another. -/
theorem eq_of_isPrefix (h : IsPrefixCode encode) {a b : α} (hab : encode a <+: encode b) :
    a = b := by
  obtain ⟨s, hs⟩ := hab
  exact (h a b s [] (by rw [hs, List.append_nil])).1

-- ============================================================================
-- How prefix codes are made
-- ============================================================================

/-- Fields of one length. -/
theorem of_length {n : Nat} (hlength : ∀ a, (encode a).length = n)
    (hinjective : Function.Injective encode) : IsPrefixCode encode := by
  intro a b r s h
  obtain ⟨hab, hrs⟩ := List.append_inj h (by rw [hlength, hlength])
  exact ⟨hinjective hab, hrs⟩

/-- A value nobody needs to see. -/
theorem of_subsingleton [Subsingleton α] (encode : α → List β) : IsPrefixCode encode := by
  intro a b r s h
  obtain rfl := Subsingleton.elim a b
  exact ⟨rfl, List.append_cancel_left h⟩

/-- The first field decides how the second is written. -/
theorem dependent {family : α → Type*} {next : (a : α) → family a → List β}
    (h : IsPrefixCode encode) (hnext : ∀ a, IsPrefixCode (next a)) :
    IsPrefixCode fun x : Sigma family => encode x.1 ++ next x.1 x.2 := by
  rintro ⟨a, x⟩ ⟨b, y⟩ r s hxy
  simp only [List.append_assoc] at hxy
  obtain ⟨rfl, hrest⟩ := h a b _ _ hxy
  obtain ⟨rfl, hrs⟩ := hnext a x y r s hrest
  exact ⟨rfl, hrs⟩

/-- One field after the other. -/
theorem append (h : IsPrefixCode encode) (h' : IsPrefixCode encode') :
    IsPrefixCode fun x : α × α' => encode x.1 ++ encode' x.2 := by
  rintro ⟨a, x⟩ ⟨b, y⟩ r s hxy
  simp only [List.append_assoc] at hxy
  obtain ⟨rfl, hrest⟩ := h a b _ _ hxy
  obtain ⟨rfl, hrs⟩ := h' x y r s hrest
  exact ⟨rfl, hrs⟩

/-- Values seen through an injective view. -/
theorem comp (h : IsPrefixCode encode) (view : γ → α) (hview : Function.Injective view) :
    IsPrefixCode fun x => encode (view x) := by
  intro a b r s hab
  obtain ⟨hviewed, hrs⟩ := h _ _ r s hab
  exact ⟨hview hviewed, hrs⟩

end IsPrefixCode
