/-
  RcnetServer.Lib.TraceMachine

  Executable transition systems whose steps emit observable events.

  A machine takes an action in a state and either refuses it (`none`) or moves
  to a new state and emits a list of events.  `Run ok s tr` says that some run
  from the start state ends in `s`, has emitted the trace `tr`, and met the
  condition `ok` at every step; `Reach` is the unconditional case.  The rules
  here are the induction principles invariants are proved with:

    * `Run.invariant`  -- a predicate kept by every step holds in every run;
    * `Run.invariant_of_prefix`  -- the same under a side condition on the whole
      trace that its prefixes inherit (a bound on the number of some event);
    * `Path`  -- what happens between two states of one run.

  `withHistory` adds a variable that records the past of a run and that no step
  reads.  `exec` replays a list of actions and yields concrete runs by evaluation.
-/

import Mathlib.Logic.Basic

/-- A deterministic machine: the action resolves every outside choice. -/
structure TraceMachine (σ α ε : Type*) where
  start : σ
  step : σ → α → Option (σ × List ε)

namespace TraceMachine

variable {σ α ε : Type*} (M : TraceMachine σ α ε)

/-- The runs of `M` whose every step meets `ok`, by final state and trace. -/
inductive Run (ok : σ → List ε → α → Prop) : σ → List ε → Prop
  | start : Run ok M.start []
  | step {s s' : σ} {tr es : List ε} {a : α} :
      Run ok s tr → ok s tr a → M.step s a = some (s', es) → Run ok s' (tr ++ es)

/-- The reachable states of `M`, each with a trace that leads there. -/
abbrev Reach : σ → List ε → Prop := M.Run fun _ _ _ => True

/-- `M.Path s es s'`: from `s` the machine can get to `s'`, emitting `es`. -/
inductive Path (s : σ) : List ε → σ → Prop
  | refl : Path s [] s
  | step {s₁ s₂ : σ} {es es' : List ε} {a : α} :
      Path s es s₁ → M.step s₁ a = some (s₂, es') → Path s (es ++ es') s₂

variable {M}

/-- A weaker step condition allows more runs. -/
theorem Run.mono {ok ok' : σ → List ε → α → Prop}
    (h : ∀ s tr a, ok s tr a → ok' s tr a) {s : σ} {tr : List ε} (hr : M.Run ok s tr) :
    M.Run ok' s tr := by
  induction hr with
  | start => exact .start
  | step _ hok hs ih => exact .step ih (h _ _ _ hok) hs

theorem Run.reach {ok : σ → List ε → α → Prop} {s : σ} {tr : List ε} (hr : M.Run ok s tr) :
    M.Reach s tr :=
  hr.mono fun _ _ _ _ => trivial

/-- One more step of an unconditional run. -/
theorem Reach.next {s s' : σ} {tr es : List ε} {a : α} (hr : M.Reach s tr)
    (hs : M.step s a = some (s', es)) : M.Reach s' (tr ++ es) :=
  .step hr trivial hs

/-- A reachable state continued along a path is reachable. -/
theorem Reach.path {s s' : σ} {tr es : List ε} (hr : M.Reach s tr) (hp : M.Path s es s') :
    M.Reach s' (tr ++ es) := by
  induction hp with
  | refl => simpa using hr
  | step _ hs ih =>
      rw [← List.append_assoc]
      exact ih.next hs

/-- What every step keeps holds at the end of every run. -/
theorem Run.invariant {ok : σ → List ε → α → Prop} {P : σ → List ε → Prop}
    (start : P M.start [])
    (step : ∀ s tr a s' es, M.Run ok s tr → P s tr → ok s tr a → M.step s a = some (s', es) →
      P s' (tr ++ es))
    {s : σ} {tr : List ε} (hr : M.Run ok s tr) : P s tr := by
  induction hr with
  | start => exact start
  | step hr hok hs ih => exact step _ _ _ _ _ hr ih hok hs

/-- The invariant rule under a side condition `B` on the trace that passes to
    prefixes: the step obligation may assume it of the trace after the step. -/
theorem Run.invariant_of_prefix {ok : σ → List ε → α → Prop} {P : σ → List ε → Prop}
    {B : List ε → Prop} (prefixes : ∀ tr es, B (tr ++ es) → B tr)
    (start : P M.start [])
    (step : ∀ s tr a s' es, M.Run ok s tr → P s tr → ok s tr a → M.step s a = some (s', es) →
      B (tr ++ es) → P s' (tr ++ es))
    {s : σ} {tr : List ε} (hr : M.Run ok s tr) (hB : B tr) : P s tr := by
  induction hr with
  | start => exact start
  | step hr hok hs ih => exact step _ _ _ _ _ hr (ih (prefixes _ _ hB)) hok hs hB

/-! ## History variables -/

section History

variable {η : Type*} {init : η} {record : η → σ → α → η}

variable (M) in
/-- `M` with a variable that records each step and that no step reads. -/
def withHistory (init : η) (record : η → σ → α → η) : TraceMachine (σ × η) α ε where
  start := (M.start, init)
  step s a := (M.step s.1 a).map fun r => ((r.1, record s.2 s.1 a), r.2)

theorem withHistory_step {s s' : σ} {h h' : η} {a : α} {es : List ε}
    (hs : (M.withHistory init record).step (s, h) a = some ((s', h'), es)) :
    M.step s a = some (s', es) ∧ h' = record h s a := by
  obtain ⟨⟨s₁, es₁⟩, hstep, heq⟩ := Option.map_eq_some_iff.mp hs
  cases heq
  exact ⟨hstep, rfl⟩

theorem withHistory_step_of {s s' : σ} {a : α} {es : List ε} (h : η)
    (hs : M.step s a = some (s', es)) :
    (M.withHistory init record).step (s, h) a = some ((s', record h s a), es) := by
  simp [withHistory, hs]

/-- The invariant rule for the state and the recorded past. -/
theorem Reach.invariant_withHistory {P : σ → η → List ε → Prop} (start : P M.start init [])
    (step : ∀ s h tr a s' es, M.Reach s tr → P s h tr → M.step s a = some (s', es) →
      P s' (record h s a) (tr ++ es))
    {s : σ} {h : η} {tr : List ε} (hr : (M.withHistory init record).Reach (s, h) tr) :
    M.Reach s tr ∧ P s h tr := by
  refine Run.invariant (M := M.withHistory init record)
    (P := fun s tr => M.Reach s.1 tr ∧ P s.1 s.2 tr) ⟨.start, start⟩ ?_ hr
  rintro ⟨s, h⟩ tr a ⟨s', h'⟩ es _ ⟨hr, hP⟩ _ hs
  obtain ⟨hstep, rfl⟩ := withHistory_step hs
  exact ⟨hr.next hstep, step s h tr a s' es hr hP hstep⟩

/-- Forgetting the past leaves a run of `M`. -/
theorem Reach.of_withHistory {s : σ} {h : η} {tr : List ε}
    (hr : (M.withHistory init record).Reach (s, h) tr) : M.Reach s tr :=
  (Reach.invariant_withHistory (P := fun _ _ _ => True) trivial
    (fun _ _ _ _ _ _ _ _ _ => trivial) hr).1

/-- Every run of `M` has a past. -/
theorem Reach.exists_withHistory (init : η) (record : η → σ → α → η) {s : σ} {tr : List ε}
    (hr : M.Reach s tr) : ∃ h, (M.withHistory init record).Reach (s, h) tr := by
  refine Run.invariant (P := fun s tr => ∃ h, (M.withHistory init record).Reach (s, h) tr)
    ⟨init, .start⟩ ?_ hr
  rintro s tr a s' es _ ⟨h, hh⟩ _ hs
  exact ⟨_, hh.next (withHistory_step_of h hs)⟩

end History

/-! ## Replaying a list of actions -/

variable (M)

/-- Replay `as` from `s`, whose trace so far is `tr`; refuse a step that the
    machine refuses or that misses `ok`. -/
def execFrom (ok : σ → List ε → α → Prop) [∀ s tr a, Decidable (ok s tr a)] :
    σ → List ε → List α → Option (σ × List ε)
  | s, tr, [] => some (s, tr)
  | s, tr, a :: as =>
      if ok s tr a then
        match M.step s a with
        | some (s', es) => execFrom ok s' (tr ++ es) as
        | none => none
      else none

/-- Replay `as` from the start state. -/
def exec (ok : σ → List ε → α → Prop) [∀ s tr a, Decidable (ok s tr a)] (as : List α) :
    Option (σ × List ε) :=
  M.execFrom ok M.start [] as

variable {M}

/-- Replaying one list after another. -/
theorem execFrom_append (ok : σ → List ε → α → Prop) [∀ s tr a, Decidable (ok s tr a)]
    (s : σ) (tr : List ε) (as bs : List α) :
    M.execFrom ok s tr (as ++ bs) =
      (M.execFrom ok s tr as).bind fun r => M.execFrom ok r.1 r.2 bs := by
  induction as generalizing s tr with
  | nil => rfl
  | cons a as ih =>
      simp only [List.cons_append, TraceMachine.execFrom]
      by_cases hok : ok s tr a
      · rw [if_pos hok, if_pos hok]
        cases M.step s a with
        | none => rfl
        | some r => exact ih r.1 (tr ++ r.2)
      · rw [if_neg hok, if_neg hok]
        rfl

theorem Run.execFrom {ok : σ → List ε → α → Prop} [∀ s tr a, Decidable (ok s tr a)]
    {as : List α} {s s' : σ} {tr tr' : List ε} (hr : M.Run ok s tr)
    (h : M.execFrom ok s tr as = some (s', tr')) : M.Run ok s' tr' := by
  induction as generalizing s tr with
  | nil =>
      simp only [TraceMachine.execFrom, Option.some.injEq, Prod.mk.injEq] at h
      obtain ⟨rfl, rfl⟩ := h
      exact hr
  | cons a as ih =>
      simp only [TraceMachine.execFrom] at h
      by_cases hok : ok s tr a
      · rw [if_pos hok] at h
        cases hs : M.step s a with
        | none => simp [hs] at h
        | some r =>
            obtain ⟨s₁, es⟩ := r
            rw [hs] at h
            exact ih (.step hr hok hs) h
      · simp [if_neg hok] at h

/-- A replayed list of actions is a run. -/
theorem run_of_exec {ok : σ → List ε → α → Prop} [∀ s tr a, Decidable (ok s tr a)]
    {as : List α} {s : σ} {tr : List ε} (h : M.exec ok as = some (s, tr)) : M.Run ok s tr :=
  Run.start.execFrom h

/-- The result of a replay that succeeds is reached by a run. -/
theorem run_get {ok : σ → List ε → α → Prop} [∀ s tr a, Decidable (ok s tr a)] {as : List α}
    (h : (M.exec ok as).isSome = true) :
    M.Run ok ((M.exec ok as).get h).1 ((M.exec ok as).get h).2 :=
  run_of_exec (Option.some_get h).symm

end TraceMachine
