/-
  RcnetServer.Lib.Isolation

  Batches of keyed messages whose keys do not interfere.

  A step consumes a message of some key and emits outputs.  `view s k` is the
  part of the state that belongs to key `k`.  A step is `Isolated` if it reads
  and writes the view of its own key only and addresses its outputs to that key.
  Then a whole batch shows a key exactly what the sub-batch of that key shows it
  (`Isolated.processBatch_filter`), whatever the other keys sent and however the
  batch interleaves the keys (`Isolated.processBatch_reorder`).
-/

import Mathlib.Data.List.Basic

section Batch

variable {σ μ ω : Type*}

/-- Process a batch in order: the last state and the outputs of all messages. -/
def processBatch (step : σ → μ → σ × List ω) : σ → List μ → σ × List ω
  | s, [] => (s, [])
  | s, m :: rest =>
      let here := step s m
      let after := processBatch step here.1 rest
      (after.1, here.2 ++ after.2)

variable {step : σ → μ → σ × List ω} {s : σ}

@[simp] theorem processBatch_nil : processBatch step s [] = (s, []) := rfl

theorem processBatch_cons (m : μ) (rest : List μ) :
    processBatch step s (m :: rest) =
      ((processBatch step (step s m).1 rest).1,
        (step s m).2 ++ (processBatch step (step s m).1 rest).2) := rfl

end Batch

variable {σ μ ω κ ν : Type*}

/-- A step that stays within the view of the key of its message. -/
structure Isolated (step : σ → μ → σ × List ω) (view : σ → κ → ν) (key : μ → κ)
    (address : ω → κ) : Prop where
  /-- What is left for the key depends on what was there for the key. -/
  own : ∀ s s' m, view s (key m) = view s' (key m) →
    view (step s m).1 (key m) = view (step s' m).1 (key m)
  outputs : ∀ s s' m, view s (key m) = view s' (key m) → (step s m).2 = (step s' m).2
  other : ∀ s m k, k ≠ key m → view (step s m).1 k = view s k
  addressed : ∀ s m, ∀ o ∈ (step s m).2, address o = key m

namespace Isolated

variable {step : σ → μ → σ × List ω} {view : σ → κ → ν} {key : μ → κ} {address : ω → κ}
  [DecidableEq κ]

/-- Another key sees none of the outputs of a step. -/
theorem outputs_other (h : Isolated step view key address) (s : σ) {m : μ} {k : κ}
    (hk : k ≠ key m) : (step s m).2.filter (fun o => address o = k) = [] :=
  List.filter_eq_nil_iff.mpr fun o ho => by simpa [h.addressed s m o ho] using Ne.symm hk

/-- A key sees of a batch what it sees of its own sub-batch. -/
theorem processBatch_filter (h : Isolated step view key address) (k : κ) (batch : List μ)
    {s s' : σ} (hview : view s k = view s' k) :
    view (processBatch step s batch).1 k =
        view (processBatch step s' (batch.filter fun m => key m = k)).1 k ∧
      (processBatch step s batch).2.filter (fun o => address o = k) =
        (processBatch step s' (batch.filter fun m => key m = k)).2.filter
          (fun o => address o = k) := by
  induction batch generalizing s s' with
  | nil => exact ⟨hview, rfl⟩
  | cons m rest ih =>
      by_cases hm : key m = k
      · -- a message of the key is in both batches
        subst hm
        obtain ⟨hstate, hout⟩ := ih (h.own s s' m hview)
        rw [List.filter_cons_of_pos (by simp), processBatch_cons, processBatch_cons,
          List.filter_append, List.filter_append, h.outputs s s' m hview]
        exact ⟨hstate, by rw [hout]⟩
      · -- a message of another key changes nothing for this one
        obtain ⟨hstate, hout⟩ := ih ((h.other s m k (Ne.symm hm)).trans hview)
        rw [List.filter_cons_of_neg (by simpa using hm), processBatch_cons, List.filter_append,
          h.outputs_other s (Ne.symm hm), List.nil_append]
        exact ⟨hstate, hout⟩

/-- Two batches that agree key by key show every key the same. -/
theorem processBatch_reorder (h : Isolated step view key address) {batch batch' : List μ}
    (k : κ) (hbatch : (batch.filter fun m => key m = k) = batch'.filter fun m => key m = k)
    {s s' : σ} (hview : view s k = view s' k) :
    view (processBatch step s batch).1 k = view (processBatch step s' batch').1 k ∧
      (processBatch step s batch).2.filter (fun o => address o = k) =
        (processBatch step s' batch').2.filter (fun o => address o = k) := by
  obtain ⟨hstate, hout⟩ := h.processBatch_filter k batch hview
  obtain ⟨hstate', hout'⟩ := h.processBatch_filter k batch' (rfl : view s' k = view s' k)
  rw [hbatch] at hstate hout
  exact ⟨hstate.trans hstate'.symm, hout.trans hout'.symm⟩

end Isolated
