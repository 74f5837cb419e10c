/-
  RcnetServer.Lib.Refinement

  A machine that implements a protocol.

  A protocol is a relation `Next` on its own states.  A machine refines it under
  an abstraction of its states and traces if every step of a run is one step of
  the protocol or shows none (`Refines`).  Then every path of the machine is a
  path of the protocol (`Refines.path`), and what the protocol keeps the machine
  keeps (`Refines.invariant`, `Refines.monotone`).

  A server that speaks one protocol with each of many clients refines the
  interleaving of its copies (`Interleave`), in which a step advances one copy
  and leaves the others where they are.
-/

import Mathlib.Data.List.Basic
import Mathlib.Logic.Relation
import RcnetServer.Lib.TraceMachine

-- ============================================================================
-- Refinement
-- ============================================================================

namespace TraceMachine

variable {σ α ε τ : Type*}

/-- A run is a path from the start. -/
theorem Run.path_start {M : TraceMachine σ α ε} {ok : σ → List ε → α → Prop} {s : σ}
    {tr : List ε} (hr : M.Run ok s tr) : M.Path M.start tr s := by
  induction hr with
  | start => exact .refl
  | step _ _ hs ih => exact .step ih hs

/-- Under `abs`, the runs of `M` whose trace meets `B` take steps of `Next` only. -/
structure Refines (M : TraceMachine σ α ε) (B : List ε → Prop) (abs : σ → List ε → τ)
    (Next : τ → τ → Prop) : Prop where
  prefixes : ∀ tr es, B (tr ++ es) → B tr
  step : ∀ s tr a s' es, M.Reach s tr → B (tr ++ es) → M.step s a = some (s', es) →
    Relation.ReflGen Next (abs s tr) (abs s' (tr ++ es))

namespace Refines

variable {M : TraceMachine σ α ε} {B : List ε → Prop} {abs : σ → List ε → τ}
  {Next : τ → τ → Prop} {s s' : σ} {tr es : List ε}

/-- A path of the machine is a path of the protocol. -/
theorem path (h : M.Refines B abs Next) (hr : M.Reach s tr) (hp : M.Path s es s')
    (hB : B (tr ++ es)) : Relation.ReflTransGen Next (abs s tr) (abs s' (tr ++ es)) := by
  induction hp with
  | refl => rw [List.append_nil]
  | step hp hs ih =>
      rw [← List.append_assoc] at hB ⊢
      have hstep := h.step _ _ _ _ _ (hr.path hp) hB hs
      exact (ih (h.prefixes _ _ hB)).trans hstep.to_reflTransGen

/-- A run of the machine is a run of the protocol. -/
theorem reach (h : M.Refines B abs Next) (hr : M.Reach s tr) (hB : B tr) :
    Relation.ReflTransGen Next (abs M.start []) (abs s tr) :=
  h.path (.start : M.Reach M.start []) hr.path_start hB

/-- What the protocol keeps holds in every reachable state. -/
theorem invariant (h : M.Refines B abs Next) {I : τ → Prop} (start : I (abs M.start []))
    (next : ∀ x y, I x → Next x y → I y) (hr : M.Reach s tr) (hB : B tr) : I (abs s tr) := by
  suffices hrun : ∀ y, Relation.ReflTransGen Next (abs M.start []) y → I y from
    hrun _ (h.reach hr hB)
  intro y hy
  induction hy with
  | refl => exact start
  | tail _ hstep ih => exact next _ _ ih hstep

/-- What the protocol never takes back is never taken back on a path, as far as it
    holds of the states `I` the protocol reaches. -/
theorem monotone (h : M.Refines B abs Next) {I : τ → Prop} {r : τ → τ → Prop}
    (start : I (abs M.start [])) (next : ∀ x y, I x → Next x y → I y) (refl : ∀ x, r x x)
    (trans : ∀ x y z, r x y → r y z → r x z) (forward : ∀ x y, I x → Next x y → r x y)
    (hr : M.Reach s tr) (hp : M.Path s es s') (hB : B (tr ++ es)) :
    r (abs s tr) (abs s' (tr ++ es)) := by
  have hI := h.invariant start next hr (h.prefixes _ _ hB)
  have hrun := h.path hr hp hB
  -- along the protocol path both the order and the invariant are carried on
  suffices hboth : ∀ y, Relation.ReflTransGen Next (abs s tr) y → r (abs s tr) y ∧ I y from
    (hboth _ hrun).1
  intro y hy
  induction hy with
  | refl => exact ⟨refl _, hI⟩
  | tail _ hstep ih => exact ⟨trans _ _ _ ih.1 (forward _ _ ih.2 hstep), next _ _ ih.2 hstep⟩

end Refines

end TraceMachine

-- ============================================================================
-- Many copies of one protocol
-- ============================================================================

section Interleave

variable {ι τ : Type*}

/-- One copy takes a step of `Next`; the others stay. -/
def Interleave (Next : τ → τ → Prop) (f g : ι → τ) : Prop :=
  ∃ i, Next (f i) (g i) ∧ ∀ j, j ≠ i → g j = f j

variable {Next : τ → τ → Prop} {f g : ι → τ}

/-- A step of the interleaving, seen by one copy. -/
theorem Interleave.project (h : Interleave Next f g) (i : ι) :
    Relation.ReflGen Next (f i) (g i) := by
  obtain ⟨j, hnext, hothers⟩ := h
  by_cases hi : i = j
  · exact hi ▸ .single hnext
  · rw [hothers i hi]

/-- A state in which only copy `i` may have moved, and by a step if at all. -/
theorem Interleave.of_subject {i : ι} (own : Relation.ReflGen Next (f i) (g i))
    (others : ∀ j, j ≠ i → g j = f j) : Relation.ReflGen (Interleave Next) f g := by
  rcases Relation.reflGen_iff _ _ _ |>.mp own with hsame | hnext
  · have heq : g = f := by
      funext j
      by_cases hj : j = i
      · rw [hj, hsame]
      · exact others j hj
    rw [heq]
  · exact .single ⟨i, hnext, others⟩

/-- What one copy keeps, every copy keeps. -/
theorem Interleave.invariant {I : τ → Prop} (next : ∀ x y, I x → Next x y → I y)
    (h : Interleave Next f g) (hf : ∀ i, I (f i)) (i : ι) : I (g i) := by
  obtain ⟨j, hnext, hothers⟩ := h
  by_cases hi : i = j
  · exact hi ▸ next _ _ (hf j) hnext
  · rw [hothers i hi]
    exact hf i

end Interleave
