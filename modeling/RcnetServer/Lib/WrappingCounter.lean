/-
  RcnetServer.Lib.WrappingCounter

  A counter that starts at 1 and wraps at `m`.

  Its first `n` values are `1 % m, 2 % m, ...`.  They are distinct exactly while no
  more than `m` have been drawn, and 0 is not among them exactly while fewer than
  `m` have.
-/

import Mathlib.Data.List.Basic
import Mathlib.Data.List.Nodup
import Mathlib.Data.Nat.ModEq

namespace RcnetServer

/-- The first `n` values of a counter that wraps at `m`. -/
def wrappingValues (m n : Nat) : List Nat :=
  (List.range n).map fun i => (i + 1) % m

theorem wrappingValues_succ (m n : Nat) :
    wrappingValues m (n + 1) = wrappingValues m n ++ [(n + 1) % m] := by
  simp [wrappingValues, List.range_succ]

theorem mem_wrappingValues {m n v : Nat} :
    v ∈ wrappingValues m n ↔ ∃ i < n, (i + 1) % m = v := by
  simp [wrappingValues]

/-- The first `m` values are distinct, and the next one repeats the first. -/
theorem nodup_wrappingValues_iff {m : Nat} (hm : 0 < m) (n : Nat) :
    (wrappingValues m n).Nodup ↔ n ≤ m := by
  constructor
  · intro h
    by_contra hlong
    -- the values number 0 and number m are both 1 % m
    have heq : (0 : Nat) = m := by
      refine List.inj_on_of_nodup_map h (List.mem_range.mpr (by omega))
        (List.mem_range.mpr (by omega)) ?_
      show (0 + 1) % m = (m + 1) % m
      rw [Nat.zero_add, Nat.add_mod_left]
    omega
  · intro hn
    refine List.Nodup.map_on ?_ List.nodup_range
    intro i hi j hj hij
    have hi' := List.mem_range.mp hi
    have hj' := List.mem_range.mp hj
    have hmod : i ≡ j [MOD m] := Nat.ModEq.add_right_cancel' 1 hij
    exact hmod.eq_of_lt_of_lt (by omega) (by omega)

/-- 0 is the last value before the counter starts again. -/
theorem zero_notMem_wrappingValues_iff {m : Nat} (hm : 0 < m) (n : Nat) :
    0 ∉ wrappingValues m n ↔ n < m := by
  constructor
  · intro h
    by_contra hlong
    refine h (mem_wrappingValues.mpr ⟨m - 1, by omega, ?_⟩)
    rw [Nat.sub_add_cancel hm, Nat.mod_self]
  · intro hn hzero
    obtain ⟨i, hi, hmod⟩ := mem_wrappingValues.mp hzero
    rw [Nat.mod_eq_of_lt (by omega)] at hmod
    omega

end RcnetServer
