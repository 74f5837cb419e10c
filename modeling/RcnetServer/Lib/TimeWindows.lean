/-
  RcnetServer.Lib.TimeWindows

  Time from `start` on, cut into windows of length `step`.

    * `windowOf` / `windowEnd`  -- the window a time is in, and where it ends: the
                      first `start + k * step` after that time (`windowEnd_isLeast`);
    * `entering`  -- of a sequence, the items in a later window than the item
                      before them.

  When the times do not go back, `entering` keeps of every window its first item
  (`filter_entering`): it is what a limiter of one action a window lets through.
-/

import Mathlib.Data.List.Basic
import Mathlib.Order.Bounds.Basic

-- ============================================================================
-- Windows
-- ============================================================================

/-- The window `t` is in: `[start + k * step, start + (k + 1) * step)` is window `k`. -/
def windowOf (start step t : ℕ) : ℕ := (t - start) / step

/-- The end of the window `t` is in. -/
def windowEnd (start step t : ℕ) : ℕ := start + (windowOf start step t + 1) * step

section Windows

variable {start step s t k : ℕ}

theorem le_windowOf_iff (hstep : 0 < step) (ht : start ≤ t) :
    k ≤ windowOf start step t ↔ start + k * step ≤ t := by
  unfold windowOf
  rw [Nat.le_div_iff_mul_le hstep]
  omega

theorem windowOf_eq_iff (hstep : 0 < step) (ht : start ≤ t) :
    windowOf start step t = k ↔ start + k * step ≤ t ∧ t < start + (k + 1) * step := by
  have hlow : k ≤ windowOf start step t ↔ start + k * step ≤ t := le_windowOf_iff hstep ht
  have hhigh : k + 1 ≤ windowOf start step t ↔ start + (k + 1) * step ≤ t :=
    le_windowOf_iff hstep ht
  omega

@[simp] theorem windowOf_start : windowOf start step start = 0 := by
  simp [windowOf]

@[simp] theorem windowEnd_start : windowEnd start step start = start + step := by
  simp [windowEnd]

theorem windowOf_mono (hst : s ≤ t) : windowOf start step s ≤ windowOf start step t :=
  Nat.div_le_div_right (by omega)

/-- A time is at or past the end of an earlier one's window when its own is later. -/
theorem windowEnd_le_iff (hstep : 0 < step) (ht : start ≤ t) :
    windowEnd start step s ≤ t ↔ windowOf start step s < windowOf start step t :=
  (le_windowOf_iff hstep ht).symm

/-- The end of a window is the first of the times `start + k * step` after it. -/
theorem windowEnd_isLeast (hstep : 0 < step) (ht : start ≤ t) :
    IsLeast {d | (∃ k, 1 ≤ k ∧ d = start + k * step) ∧ t < d} (windowEnd start step t) := by
  have hin := (windowOf_eq_iff hstep ht).mp (rfl : windowOf start step t = _)
  refine ⟨⟨⟨windowOf start step t + 1, by omega, rfl⟩, hin.2⟩, ?_⟩
  rintro _ ⟨⟨k, -, rfl⟩, hafter⟩
  have hlater : windowOf start step t < k := by
    rw [← Nat.not_le, le_windowOf_iff hstep ht]
    omega
  exact Nat.add_le_add_left (Nat.mul_le_mul_right step hlater) start

end Windows

-- ============================================================================
-- The first of each window
-- ============================================================================

section Entering

variable {α : Type*} (window : α → ℕ)

/-- The items in a later window than the one before them; before the first it is `w`. -/
def entering (w : ℕ) : List α → List α
  | [] => []
  | a :: rest => if w < window a then a :: entering (window a) rest else entering (window a) rest

theorem entering_sublist (w : ℕ) (items : List α) :
    (entering window w items).Sublist items := by
  induction items generalizing w with
  | nil => exact List.Sublist.refl _
  | cons a rest ih =>
      unfold entering
      split
      · exact (ih (window a)).cons_cons a
      · exact (ih (window a)).cons a

/-- A window that is over has nothing more in it. -/
theorem filter_window_eq_nil {w k : ℕ} {items : List α}
    (hforward : (w :: items.map window).Pairwise (· ≤ ·)) (hk : k < w) :
    items.filter (fun a => window a = k) = [] := by
  rw [List.filter_eq_nil_iff]
  intro a ha
  have hle : w ≤ window a :=
    List.rel_of_pairwise_cons hforward (List.mem_map.mpr ⟨a, ha, rfl⟩)
  rw [decide_eq_true_eq]
  omega

/-- Of each window after `w`, in a sequence that does not go back: its first item. -/
theorem filter_entering (w k : ℕ) (items : List α)
    (hforward : (w :: items.map window).Pairwise (· ≤ ·)) :
    (entering window w items).filter (fun a => window a = k) =
      if k ≤ w then [] else (items.filter fun a => window a = k).head?.toList := by
  induction items generalizing w with
  | nil => simp [entering]
  | cons a rest ih =>
      have hle : w ≤ window a := List.rel_of_pairwise_cons hforward (by simp)
      have hrest := ih (window a) hforward.of_cons
      rw [entering, List.filter_cons]
      by_cases hnew : w < window a
      · rw [if_pos hnew, List.filter_cons, hrest]
        by_cases hopens : window a = k
        · -- `a` opens window `k`; what follows it there is not its first item
          rw [if_pos (decide_eq_true hopens), if_pos (decide_eq_true hopens),
            if_pos (by omega), if_neg (by omega)]
          rfl
        · have hother : ¬ decide (window a = k) = true := by rwa [decide_eq_true_eq]
          rw [if_neg hother, if_neg hother]
          by_cases hover : k ≤ window a
          · rw [if_pos hover, filter_window_eq_nil window hforward.of_cons (by omega)]
            split
            · rfl
            · rfl
          · rw [if_neg hover, if_neg (by omega)]
      · -- still in the window of the item before
        have hsame : window a = w := by omega
        rw [if_neg hnew, hrest, hsame]
        by_cases hpast : k ≤ w
        · rw [if_pos hpast, if_pos hpast]
        · have hother : ¬ decide (w = k) = true := by
            rw [decide_eq_true_eq]
            omega
          rw [if_neg hpast, if_neg hpast, if_neg hother]

end Entering
