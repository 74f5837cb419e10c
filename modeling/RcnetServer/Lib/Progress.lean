/-
  RcnetServer.Lib.Progress

  Parts of a machine that come to rest on their own.

  A part of a machine is given by the actions it may take.  It is never stuck if,
  wherever it is not done, one of its actions is possible and makes a measure
  smaller; then from every state it gets to where it is done, and what its actions
  keep is kept on the way (`settles`).  Parts that settle one after another settle
  together (`Settles.trans`).
-/

import Mathlib.Data.List.Basic
import RcnetServer.Lib.TraceMachine

namespace TraceMachine

variable {σ α ε : Type*}

-- ============================================================================
-- Paths by the actions of a part
-- ============================================================================

/-- One path after another. -/
theorem Path.trans {M : TraceMachine σ α ε} {s s₁ s₂ : σ} {es es' : List ε}
    (h : M.Path s es s₁) (h' : M.Path s₁ es' s₂) : M.Path s (es ++ es') s₂ := by
  induction h' with
  | refl => rwa [List.append_nil]
  | step _ hs ih =>
      rw [← List.append_assoc]
      exact .step ih hs

/-- `M.PathBy allowed s es s'`: from `s` the machine can get to `s'` by actions that
    are allowed where they are taken, emitting `es`. -/
inductive PathBy (M : TraceMachine σ α ε) (allowed : σ → α → Prop) (s : σ) : List ε → σ → Prop
  | refl : PathBy M allowed s [] s
  | step {s₁ s₂ : σ} {es es' : List ε} {a : α} :
      PathBy M allowed s es s₁ → allowed s₁ a → M.step s₁ a = some (s₂, es') →
        PathBy M allowed s (es ++ es') s₂

namespace PathBy

variable {M : TraceMachine σ α ε} {allowed allowed' : σ → α → Prop} {s s₁ s₂ : σ} {es es' : List ε}

theorem path (h : M.PathBy allowed s es s₁) : M.Path s es s₁ := by
  induction h with
  | refl => exact .refl
  | step _ _ hs ih => exact .step ih hs

theorem trans (h : M.PathBy allowed s es s₁) (h' : M.PathBy allowed s₁ es' s₂) :
    M.PathBy allowed s (es ++ es') s₂ := by
  induction h' with
  | refl => rwa [List.append_nil]
  | step _ hallowed hs ih =>
      rw [← List.append_assoc]
      exact .step ih hallowed hs

theorem mono (h : M.PathBy allowed s es s₁) (weaker : ∀ s a, allowed s a → allowed' s a) :
    M.PathBy allowed' s es s₁ := by
  induction h with
  | refl => exact .refl
  | step _ hallowed hs ih => exact .step ih (weaker _ _ hallowed) hs

/-- What the allowed actions keep holds at the end. -/
theorem invariant {P : σ → List ε → Prop}
    (keep : ∀ s tr a s' es, P s tr → allowed s a → M.step s a = some (s', es) →
      P s' (tr ++ es))
    {tr : List ε} (h : M.PathBy allowed s es s₁) (hs : P s tr) : P s₁ (tr ++ es) := by
  induction h with
  | refl => rwa [List.append_nil]
  | step _ hallowed hstep ih =>
      rw [← List.append_assoc]
      exact keep _ _ _ _ _ ih hallowed hstep

/-- A path of `M` is a path of `M` with its past, where what is allowed on the former is
    allowed on the latter. -/
theorem withHistory {η : Type*} {init : η} {record : η → σ → α → η}
    {allowed' : σ × η → α → Prop} {I : σ → η → List ε → Prop}
    (keep : ∀ s h tr a s' es, I s h tr → allowed s a → M.step s a = some (s', es) →
      allowed' (s, h) a ∧ I s' (record h s a) (tr ++ es))
    {h : η} {tr : List ε} (hp : M.PathBy allowed s es s₁) (hs : I s h tr) :
    ∃ h', (M.withHistory init record).PathBy allowed' (s, h) es (s₁, h') ∧ I s₁ h' (tr ++ es) := by
  induction hp with
  | refl => exact ⟨h, .refl, by rwa [List.append_nil]⟩
  | step _ hallowed hstep ih =>
      obtain ⟨h₁, hpath, hI⟩ := ih
      obtain ⟨hallowed', hI'⟩ := keep _ _ _ _ _ _ hI hallowed hstep
      rw [List.append_assoc] at hI'
      exact ⟨_, .step hpath hallowed' (withHistory_step_of h₁ hstep), hI'⟩

/-- Forgetting the past leaves a path of `M`. -/
theorem of_withHistory {η : Type*} {init : η} {record : η → σ → α → η}
    {allowed' : σ × η → α → Prop} {r r' : σ × η}
    (hp : (M.withHistory init record).PathBy allowed' r es r') :
    M.PathBy (fun s a => ∃ h, allowed' (s, h) a) r.1 es r'.1 := by
  induction hp with
  | refl => exact .refl
  | step _ hallowed hstep ih => exact .step ih ⟨_, hallowed⟩ (withHistory_step hstep).1

end PathBy

-- ============================================================================
-- Coming to rest
-- ============================================================================

/-- From `s` the allowed actions can get the machine into `D`. -/
def Settles (M : TraceMachine σ α ε) (allowed : σ → α → Prop) (s : σ) (D : σ → Prop) : Prop :=
  ∃ es s', M.PathBy allowed s es s' ∧ D s'

namespace Settles

variable {M : TraceMachine σ α ε} {allowed allowed' : σ → α → Prop} {s s' : σ} {D D' : σ → Prop}

/-- Where it is already. -/
theorem of_done (h : D s) : M.Settles allowed s D :=
  ⟨[], s, .refl, h⟩

/-- One part settles from wherever the other has left the machine. -/
theorem trans (h : M.Settles allowed s D) (h' : ∀ s', D s' → M.Settles allowed s' D') :
    M.Settles allowed s D' := by
  obtain ⟨es, s₁, hp, hD⟩ := h
  obtain ⟨es', s₂, hp', hD'⟩ := h' s₁ hD
  exact ⟨es ++ es', s₂, hp.trans hp', hD'⟩

/-- The same, where the second part relies on what the actions of the first keep. -/
theorem trans_keeping {P : σ → List ε → Prop} {tr : List ε}
    (keep : ∀ s tr a s' es, P s tr → allowed s a → M.step s a = some (s', es) → P s' (tr ++ es))
    (hs : P s tr) (h : M.Settles allowed s D)
    (h' : ∀ s' tr', P s' tr' → D s' → M.Settles allowed s' D') : M.Settles allowed s D' := by
  obtain ⟨es, s₁, hp, hD⟩ := h
  exact trans (D := (· = s₁)) ⟨es, s₁, hp, rfl⟩
    fun _ h => h ▸ h' s₁ _ (hp.invariant keep hs) hD

/-- One step, and then the rest. -/
theorem of_step {a : α} {es : List ε} (hallowed : allowed s a) (hs : M.step s a = some (s', es))
    (h : M.Settles allowed s' D) : M.Settles allowed s D :=
  trans (D := (· = s')) ⟨es, s', .step .refl hallowed hs, rfl⟩ fun _ h' => h' ▸ h

theorem mono (h : M.Settles allowed s D) (weaker : ∀ s a, allowed s a → allowed' s a) :
    M.Settles allowed' s D := by
  obtain ⟨es, s', hp, hD⟩ := h
  exact ⟨es, s', hp.mono weaker, hD⟩

end Settles

/-- A part that is never stuck and works off a measure comes to rest, and what its
    actions keep still holds there. -/
theorem settles {M : TraceMachine σ α ε} {β : Type*} [WellFoundedRelation β] (μ : σ → β)
    {allowed : σ → α → Prop} {I D : σ → Prop}
    (unstuck : ∀ s, ¬ D s → ∃ a, allowed s a ∧ (M.step s a).isSome = true)
    (less : ∀ s a s' es, allowed s a → M.step s a = some (s', es) →
      WellFoundedRelation.rel (μ s') (μ s))
    (keep : ∀ s a s' es, I s → allowed s a → M.step s a = some (s', es) → I s')
    {s : σ} (hs : I s) : M.Settles allowed s fun s' => I s' ∧ D s' := by
  refine (InvImage.wf μ WellFoundedRelation.wf).induction
    (C := fun s => I s → M.Settles allowed s fun s' => I s' ∧ D s') s ?_ hs
  intro s ih hs
  by_cases hD : D s
  · exact .of_done ⟨hs, hD⟩
  · obtain ⟨a, hallowed, hpossible⟩ := unstuck s hD
    obtain ⟨⟨s', es⟩, hstep⟩ := Option.isSome_iff_exists.mp hpossible
    refine .of_step hallowed hstep ?_
    exact ih s' (less s a s' es hallowed hstep) (keep s a s' es hs hallowed hstep)

end TraceMachine
