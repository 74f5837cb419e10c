/-
  RcnetServer.Lib.Binary64

  IEEE 754 binary64 numbers by their rational values.

    * `round x`     -- the finite binary64 number nearest to `x`, ties to even;
                       `none` where `x` overflows to an infinity;
    * `toUInt64 x`  -- truncation to a 64-bit unsigned integer; `none` where the
                       truncated value does not fit.

  The sign of zero has no effect on either and is not kept.  A value rounds to
  itself exactly when it is a multiple of the last place of its binade
  (`round_eq_self_iff`); for a natural number that is a divisibility
  (`round_natCast_eq_self_iff`).
-/

import Mathlib.Data.Int.Log
import Mathlib.Data.Rat.Floor
import Mathlib.Tactic.Linarith
import Mathlib.Tactic.NormNum
import Mathlib.Tactic.Positivity

namespace Binary64

-- ============================================================================
-- Rounding
-- ============================================================================

/-- The integer nearest to `x`; of two, the even one. -/
def roundHalfEven (x : ℚ) : ℤ :=
  if x - ⌊x⌋ < 1 / 2 then ⌊x⌋
  else if 1 / 2 < x - ⌊x⌋ then ⌊x⌋ + 1
  else if ⌊x⌋ % 2 = 0 then ⌊x⌋ else ⌊x⌋ + 1

/-- The exponent of the last place of `x`: 53 places from its leading one, but
    not below the least subnormal number. -/
def ulpExponent (x : ℚ) : ℤ :=
  max (Int.log 2 |x| - 52) (-1074)

/-- The nearest multiple of the last place of `x`. -/
def nearest (x : ℚ) : ℚ :=
  roundHalfEven (x / 2 ^ ulpExponent x) * (2 : ℚ) ^ ulpExponent x

/-- The binary64 number nearest to `x`, or `none` for an infinity. -/
def round (x : ℚ) : Option ℚ :=
  if |nearest x| < 2 ^ 1024 then some (nearest x) else none

theorem round_eq_some_iff (x y : ℚ) :
    round x = some y ↔ |nearest x| < 2 ^ 1024 ∧ nearest x = y := by
  unfold round
  split_ifs with hlt
  · exact ⟨fun h => ⟨hlt, Option.some.inj h⟩, fun h => congrArg some h.2⟩
  · exact ⟨fun h => h.elim, fun h => absurd h.1 hlt⟩

@[simp] theorem roundHalfEven_intCast (m : ℤ) : roundHalfEven (m : ℚ) = m := by
  unfold roundHalfEven
  rw [Int.floor_intCast, sub_self, if_pos (by norm_num)]

theorem roundHalfEven_nonneg {x : ℚ} (hx : 0 ≤ x) : 0 ≤ roundHalfEven x := by
  have hfloor : 0 ≤ ⌊x⌋ := Int.floor_nonneg.mpr hx
  unfold roundHalfEven
  split_ifs <;> omega

/-- A multiple of its last place stays where it is. -/
theorem nearest_of_eq_mul {x : ℚ} {m : ℤ} (hm : x = m * (2 : ℚ) ^ ulpExponent x) :
    nearest x = x := by
  have hulp : (2 : ℚ) ^ ulpExponent x ≠ 0 := zpow_ne_zero _ two_ne_zero
  have hquot : x / 2 ^ ulpExponent x = (m : ℚ) := (div_eq_iff hulp).mpr hm
  unfold nearest
  rw [hquot, roundHalfEven_intCast, ← hm]

/-- The numbers that are their own rounding. -/
theorem round_eq_self_iff (x : ℚ) :
    round x = some x ↔ |x| < 2 ^ 1024 ∧ ∃ m : ℤ, x = m * (2 : ℚ) ^ ulpExponent x := by
  rw [round_eq_some_iff]
  constructor
  · rintro ⟨hlt, hself⟩
    rw [hself] at hlt
    exact ⟨hlt, _, hself.symm⟩
  · rintro ⟨hlt, m, hm⟩
    rw [nearest_of_eq_mul hm]
    exact ⟨hlt, rfl⟩

-- ============================================================================
-- Natural numbers
-- ============================================================================

theorem ulpExponent_natCast (n : ℕ) : ulpExponent (n : ℚ) = (Nat.log 2 n : ℤ) - 52 := by
  have hlog : Int.log 2 (n : ℚ) = (Nat.log 2 n : ℤ) := Int.log_natCast 2 n
  unfold ulpExponent
  rw [abs_of_nonneg (Nat.cast_nonneg n), hlog]
  omega

/-- The last place of a number below `2 ^ 53` is a fraction of a unit. -/
theorem eq_mul_of_log_le {n : ℕ} (h : Nat.log 2 n ≤ 52) :
    (n : ℚ) = ((n * 2 ^ (52 - Nat.log 2 n) : ℕ) : ℤ) * (2 : ℚ) ^ ((Nat.log 2 n : ℤ) - 52) := by
  have hexp : (Nat.log 2 n : ℤ) - 52 = -((52 - Nat.log 2 n : ℕ) : ℤ) := by omega
  have hpow : (2 : ℚ) ^ (52 - Nat.log 2 n) ≠ 0 := pow_ne_zero _ two_ne_zero
  rw [hexp, zpow_neg, zpow_natCast]
  push_cast
  rw [mul_assoc, mul_inv_cancel₀ hpow, mul_one]

/-- The last place of a larger number is a natural number. -/
theorem two_zpow_of_lt_log {n : ℕ} (h : 52 < Nat.log 2 n) :
    (2 : ℚ) ^ ((Nat.log 2 n : ℤ) - 52) = ((2 ^ (Nat.log 2 n - 52) : ℕ) : ℚ) := by
  have hexp : (Nat.log 2 n : ℤ) - 52 = ((Nat.log 2 n - 52 : ℕ) : ℤ) := by omega
  rw [hexp, zpow_natCast]
  push_cast
  rfl

/-- A natural number is exact when its significant places are at most 53. -/
theorem round_natCast_eq_self_iff {n : ℕ} (hn : n < 2 ^ 1024) :
    round (n : ℚ) = some (n : ℚ) ↔ 2 ^ (Nat.log 2 n - 52) ∣ n := by
  have hlt : |(n : ℚ)| < 2 ^ 1024 := by
    rw [abs_of_nonneg (Nat.cast_nonneg n)]
    exact_mod_cast hn
  rw [round_eq_self_iff, ulpExponent_natCast]
  by_cases hlog : Nat.log 2 n ≤ 52
  · have hone : 2 ^ (Nat.log 2 n - 52) = 1 := by rw [Nat.sub_eq_zero_of_le hlog, pow_zero]
    rw [hone]
    exact ⟨fun _ => one_dvd n, fun _ => ⟨hlt, _, eq_mul_of_log_le hlog⟩⟩
  · rw [two_zpow_of_lt_log (not_le.mp hlog)]
    constructor
    · rintro ⟨-, m, hm⟩
      have hint : (n : ℤ) = m * ((2 ^ (Nat.log 2 n - 52) : ℕ) : ℤ) := by exact_mod_cast hm
      exact Int.natCast_dvd_natCast.mp ⟨m, hint.trans (mul_comm _ _)⟩
    · rintro ⟨m, hm⟩
      refine ⟨hlt, (m : ℤ), ?_⟩
      rw [mul_comm]
      exact_mod_cast hm

/-- Up to `2 ^ 53` every natural number is exact. -/
theorem dvd_of_le {n : ℕ} (hn : n ≤ 2 ^ 53) : 2 ^ (Nat.log 2 n - 52) ∣ n := by
  rcases Nat.lt_or_eq_of_le hn with hlt | rfl
  · have hlog : Nat.log 2 n < 53 := Nat.log_lt_of_lt_pow' (by decide) hlt
    rw [Nat.sub_eq_zero_of_le (by omega), pow_zero]
    exact one_dvd n
  · rw [Nat.log_pow (by decide)]
    exact ⟨2 ^ 52, by norm_num⟩

/-- A natural number rounds to a natural number. -/
theorem exists_natCast_of_round {n : ℕ} {y : ℚ} (h : round (n : ℚ) = some y) :
    ∃ m : ℕ, y = m := by
  obtain ⟨-, hy⟩ := (round_eq_some_iff _ _).mp h
  by_cases hlog : Nat.log 2 n ≤ 52
  · have hself := eq_mul_of_log_le hlog
    rw [← ulpExponent_natCast] at hself
    rw [nearest_of_eq_mul hself] at hy
    exact ⟨n, hy.symm⟩
  · unfold nearest at hy
    rw [ulpExponent_natCast, two_zpow_of_lt_log (not_le.mp hlog)] at hy
    have hnonneg : 0 ≤ roundHalfEven ((n : ℚ) / ((2 ^ (Nat.log 2 n - 52) : ℕ) : ℚ)) :=
      roundHalfEven_nonneg (by positivity)
    obtain ⟨m, hm⟩ := Int.eq_ofNat_of_zero_le hnonneg
    refine ⟨m * 2 ^ (Nat.log 2 n - 52), ?_⟩
    rw [← hy, hm]
    push_cast
    rfl

-- ============================================================================
-- Truncation
-- ============================================================================

/-- The integer part, towards zero. -/
def truncate (x : ℚ) : ℤ :=
  if 0 ≤ x then ⌊x⌋ else ⌈x⌉

/-- The conversion to an unsigned 64-bit integer. -/
def toUInt64 (x : ℚ) : Option UInt64 :=
  if 0 ≤ truncate x ∧ truncate x < 2 ^ 64 then some (UInt64.ofNat (truncate x).toNat) else none

/-- The 64-bit integers lie far below an overflow. -/
theorem lt_overflow_of_lt {n : ℕ} (hn : n < 2 ^ 64) : n < 2 ^ 1024 := by
  refine lt_of_lt_of_le hn ?_
  gcongr <;> norm_num

theorem toUInt64_natCast (n : ℕ) :
    toUInt64 (n : ℚ) = if n < 2 ^ 64 then some (UInt64.ofNat n) else none := by
  have htrunc : truncate (n : ℚ) = n := by
    unfold truncate
    rw [if_pos (Nat.cast_nonneg n), Int.floor_natCast]
  unfold toUInt64
  rw [htrunc, Int.toNat_natCast]
  by_cases hn : n < 2 ^ 64
  · rw [if_pos ⟨by omega, by omega⟩, if_pos hn]
  · rw [if_neg (by omega), if_neg hn]

example : round (9007199254740993 : ℚ) = some 9007199254740992 := by decide +kernel

end Binary64
