/-
  RcnetServer.Lib.Precedence

  What holds of every entry of a log, given the entries in front of it.

  `EachAfter Q log` asks `Q pre x` of every entry `x` and the part `pre` of the log
  before it.  The property passes to prefixes, and it is kept when a log grows if
  the new entries have it.  `Preceded later needs log` is the case of a dependency:
  every entry that is `later` comes after an entry that it `needs`.
-/

import Mathlib.Data.List.Basic

variable {α : Type*}

/-- Every entry satisfies `Q` with the entries in front of it. -/
def EachAfter (Q : List α → α → Prop) (log : List α) : Prop :=
  ∀ pre x post, log = pre ++ x :: post → Q pre x

/-- Every entry that is `later` has an entry it `needs` in front of it. -/
abbrev Preceded (later : α → Prop) (needs : α → α → Prop) : List α → Prop :=
  EachAfter fun pre x => later x → ∃ y ∈ pre, needs x y

namespace EachAfter

variable {Q : List α → α → Prop} {log rest : List α}

theorem nil : EachAfter Q ([] : List α) := by
  intro pre x post h
  simp at h

/-- A log may grow by entries that satisfy `Q` after it. -/
theorem append (h : EachAfter Q log)
    (hrest : ∀ pre x post, rest = pre ++ x :: post → Q (log ++ pre) x) :
    EachAfter Q (log ++ rest) := by
  intro pre x post heq
  -- the entry is in the new part, or in the old log
  rcases List.append_eq_append_iff.mp heq with ⟨new, rfl, hnew⟩ | ⟨old, hold, hpost⟩
  · exact hrest new x post hnew
  · cases old with
    | nil =>
        rw [List.append_nil] at hold
        rw [← hold]
        simpa using hrest [] x post hpost.symm
    | cons y old =>
        obtain ⟨rfl, _⟩ := List.cons.inj hpost
        exact h pre x old hold

/-- One more entry. -/
theorem append_singleton (h : EachAfter Q log) {x : α} (hx : Q log x) :
    EachAfter Q (log ++ [x]) := by
  refine h.append ?_
  intro pre y post heq
  cases pre with
  | nil =>
      obtain ⟨rfl, _⟩ := List.cons.inj heq
      simpa using hx
  | cons z pre => simp at heq

end EachAfter

namespace Preceded

variable {later : α → Prop} {needs : α → α → Prop} {log rest : List α}

/-- What a `later` entry needs is in the log. -/
theorem exists_mem (h : Preceded later needs log) {x : α} (hx : x ∈ log) (hlater : later x) :
    ∃ y ∈ log, needs x y := by
  obtain ⟨pre, post, rfl⟩ := List.append_of_mem hx
  obtain ⟨y, hy, hneeds⟩ := h pre x post rfl hlater
  exact ⟨y, List.mem_append_left _ hy, hneeds⟩

/-- A log may grow by entries that find what they need in it. -/
theorem append (h : Preceded later needs log)
    (hrest : ∀ x ∈ rest, later x → ∃ y ∈ log, needs x y) :
    Preceded later needs (log ++ rest) := by
  refine EachAfter.append h ?_
  rintro pre x post rfl hlater
  obtain ⟨y, hy, hneeds⟩ := hrest x (by simp) hlater
  exact ⟨y, List.mem_append_left _ hy, hneeds⟩

end Preceded
