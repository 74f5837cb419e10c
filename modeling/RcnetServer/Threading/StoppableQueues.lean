/-
  RcnetServer.Threading.StoppableQueues

  A stoppable queue under pushes, `stop()` and returns of `waitAndDrain`, in any
  interleaving.

  `QueueLaws` is what it promises: no empty batch, nothing lost or reordered, and
  `false` only at the very end.  Its reader swaps the content out, so the second law is
  that of `batchQueue`.
-/

import RcnetServer.Lib.BatchQueue
import RcnetServer.Lib.Precedence
import RcnetServer.Threading.Queues

namespace RcnetServer

-- ============================================================================
-- A stoppable queue
-- ============================================================================

/-- What the threads call. -/
inductive StoppableQueueAction (M : Type)
  | push (message : M)
  | stop
  | waitAndDrain

/-- What has happened. -/
inductive StoppableQueueEvent (M : Type)
  | pushed (message : M)
  | stopped
  | returnedTrue (batch : List M)
  | returnedFalse
deriving DecidableEq

/-- A `waitAndDrain` that is still blocked is not a step. -/
def stoppableQueue (M : Type) :
    TraceMachine (StoppableQueue M) (StoppableQueueAction M) (StoppableQueueEvent M) where
  start := {}
  step queue action :=
    match action with
    | .push message => some (queue.push message, [.pushed message])
    | .stop => some (queue.stop, [.stopped])
    | .waitAndDrain =>
        match queue.waitAndDrain with
        | .blocked => none
        | .stopped => some (queue, [.returnedFalse])
        | .drained batch rest => some (rest, [.returnedTrue batch])

/-- The pushes and drains among the events. -/
@[simp] def StoppableQueueEvent.queueEvent {M : Type} :
    StoppableQueueEvent M → Option (QueueEvent M)
  | .pushed message => some (.pushed message)
  | .returnedTrue batch => some (.drained batch)
  | .stopped => none
  | .returnedFalse => none

section Queue

variable {M : Type} {queue queue' : StoppableQueue M} {tr es : List (StoppableQueueEvent M)}
  {action : StoppableQueueAction M}

/-- The messages pushed, in order. -/
def pushedMessages (tr : List (StoppableQueueEvent M)) : List M :=
  pushedItems (tr.filterMap StoppableQueueEvent.queueEvent)

/-- The batches returned with `true`, in order. -/
def returnedBatches (tr : List (StoppableQueueEvent M)) : List (List M) :=
  drainedBatches (tr.filterMap StoppableQueueEvent.queueEvent)

@[simp] theorem pushedMessages_append (tr tr' : List (StoppableQueueEvent M)) :
    pushedMessages (tr ++ tr') = pushedMessages tr ++ pushedMessages tr' := by
  unfold pushedMessages
  rw [List.filterMap_append, pushedItems_append]

@[simp] theorem returnedBatches_append (tr tr' : List (StoppableQueueEvent M)) :
    returnedBatches (tr ++ tr') = returnedBatches tr ++ returnedBatches tr' := by
  unfold returnedBatches
  rw [List.filterMap_append, drainedBatches_append]

/-- The steps of a stoppable queue. -/
theorem stoppableQueue_step_cases
    (h : (stoppableQueue M).step queue action = some (queue', es)) :
    (∃ message, action = .push message ∧ queue' = queue.push message ∧ es = [.pushed message]) ∨
    (action = .stop ∧ queue' = queue.stop ∧ es = [.stopped]) ∨
    (action = .waitAndDrain ∧ queue.q ≠ [] ∧ queue' = { queue with q := [] } ∧
      es = [.returnedTrue queue.q]) ∨
    (action = .waitAndDrain ∧ queue.stopped = true ∧ queue.q = [] ∧ queue' = queue ∧
      es = [.returnedFalse]) := by
  cases action with
  | push message =>
      obtain ⟨rfl, rfl⟩ := Prod.mk.inj (Option.some.inj h)
      exact Or.inl ⟨message, rfl, rfl, rfl⟩
  | stop =>
      obtain ⟨rfl, rfl⟩ := Prod.mk.inj (Option.some.inj h)
      exact Or.inr (Or.inl ⟨rfl, rfl, rfl⟩)
  | waitAndDrain =>
      refine Or.inr (Or.inr ?_)
      simp only [stoppableQueue] at h
      split at h
      · cases h
      · rename_i hwait
        obtain ⟨hstopped, hempty⟩ := StoppableQueue.waitAndDrain_eq_stopped hwait
        obtain ⟨rfl, rfl⟩ := Prod.mk.inj (Option.some.inj h)
        exact Or.inr ⟨rfl, hstopped, hempty, rfl, rfl⟩
      · rename_i batch rest hwait
        obtain ⟨rfl, hne, rfl⟩ := StoppableQueue.waitAndDrain_eq_drained hwait
        obtain ⟨rfl, rfl⟩ := Prod.mk.inj (Option.some.inj h)
        exact Or.inl ⟨rfl, hne, rfl, rfl⟩

/-- What a stoppable queue promises its reader and its writers. -/
structure QueueLaws (queue : StoppableQueue M) (tr : List (StoppableQueueEvent M)) : Prop where
  /-- No batch is empty. -/
  nonempty : ∀ batch ∈ returnedBatches tr, batch ≠ []
  /-- Nothing is lost, repeated or reordered. -/
  conserved : (returnedBatches tr).flatten ++ queue.q = pushedMessages tr
  /-- `false` is returned only when stopped, and with everything pushed before returned. -/
  falseLast : ∀ pre post, tr = pre ++ .returnedFalse :: post →
    .stopped ∈ pre ∧ (returnedBatches pre).flatten = pushedMessages pre

/-- A stoppable queue is a queue whose reader swaps its content out. -/
theorem stoppableQueue_refines (hr : (stoppableQueue M).Reach queue tr) :
    (batchQueue M).Reach queue.q (tr.filterMap StoppableQueueEvent.queueEvent) := by
  refine TraceMachine.Run.invariant (P := fun queue tr =>
    (batchQueue M).Reach queue.q (tr.filterMap StoppableQueueEvent.queueEvent)) .start ?_ hr
  intro queue tr action queue' es _ ih _ hs
  rw [List.filterMap_append]
  rcases stoppableQueue_step_cases hs with ⟨message, -, rfl, rfl⟩ | ⟨-, rfl, rfl⟩ |
    ⟨-, -, rfl, rfl⟩ | ⟨-, -, -, rfl, rfl⟩
  · exact ih.next (a := .push message) rfl
  · rw [List.filterMap_cons_none rfl, List.filterMap_nil, List.append_nil]
    exact ih
  · exact ih.next (a := .drain) rfl
  · rw [List.filterMap_cons_none rfl, List.filterMap_nil, List.append_nil]
    exact ih

/-- A queue is stopped once `stop()` has been called. -/
theorem stopped_iff_mem (hr : (stoppableQueue M).Reach queue tr) :
    queue.stopped = true ↔ .stopped ∈ tr := by
  refine TraceMachine.Run.invariant
    (P := fun queue tr => queue.stopped = true ↔ .stopped ∈ tr) (by simp [stoppableQueue]) ?_ hr
  intro queue tr action queue' es _ ih _ hs
  rcases stoppableQueue_step_cases hs with ⟨message, -, rfl, rfl⟩ | ⟨-, rfl, rfl⟩ |
    ⟨-, -, rfl, rfl⟩ | ⟨-, -, -, rfl, rfl⟩
  · simpa [StoppableQueue.push] using ih
  · simp [StoppableQueue.stop]
  · simpa using ih
  · simpa using ih

theorem returnedBatches_nonempty (hr : (stoppableQueue M).Reach queue tr) :
    ∀ batch ∈ returnedBatches tr, batch ≠ [] := by
  refine TraceMachine.Run.invariant
    (P := fun _ tr => ∀ batch ∈ returnedBatches tr, batch ≠ [])
    (fun _ h => absurd h List.not_mem_nil) ?_ hr
  intro queue tr action queue' es _ ih _ hs batch hbatch
  rw [returnedBatches_append] at hbatch
  rcases List.mem_append.mp hbatch with hold | hnew
  · exact ih batch hold
  rcases stoppableQueue_step_cases hs with ⟨message, -, rfl, rfl⟩ | ⟨-, rfl, rfl⟩ |
    ⟨-, hne, rfl, rfl⟩ | ⟨-, -, -, rfl, rfl⟩
  · exact absurd hnew List.not_mem_nil
  · exact absurd hnew List.not_mem_nil
  · rw [List.mem_singleton.mp hnew]
    exact hne
  · exact absurd hnew List.not_mem_nil

theorem returnedBatches_conserved (hr : (stoppableQueue M).Reach queue tr) :
    (returnedBatches tr).flatten ++ queue.q = pushedMessages tr :=
  batchQueue_conserves (stoppableQueue_refines hr)

theorem returnedFalse_last (hr : (stoppableQueue M).Reach queue tr) :
    EachAfter (fun pre e => e = .returnedFalse →
      .stopped ∈ pre ∧ (returnedBatches pre).flatten = pushedMessages pre) tr := by
  refine TraceMachine.Run.invariant (P := fun _ tr => EachAfter (fun pre e => e = .returnedFalse →
    .stopped ∈ pre ∧ (returnedBatches pre).flatten = pushedMessages pre) tr) .nil ?_ hr
  intro queue tr action queue' es hreach ih _ hs
  rcases stoppableQueue_step_cases hs with ⟨message, -, rfl, rfl⟩ | ⟨-, rfl, rfl⟩ |
    ⟨-, -, rfl, rfl⟩ | ⟨-, hstopped, hempty, rfl, rfl⟩
  · exact ih.append_singleton (fun h => by cases h)
  · exact ih.append_singleton (fun h => by cases h)
  · exact ih.append_singleton (fun h => by cases h)
  · refine ih.append_singleton (fun _ => ⟨(stopped_iff_mem hreach).mp hstopped, ?_⟩)
    have hconserved := returnedBatches_conserved hreach
    rwa [hempty, List.append_nil] at hconserved

/-- Every run keeps the promises. -/
theorem stoppableQueue_laws (hr : (stoppableQueue M).Reach queue tr) : QueueLaws queue tr where
  nonempty := returnedBatches_nonempty hr
  conserved := returnedBatches_conserved hr
  falseLast := fun pre post h => returnedFalse_last hr pre .returnedFalse post h rfl

end Queue

end RcnetServer
