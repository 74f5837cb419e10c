/-
  RcnetServer.Threading.Queues

  The inter-thread queues (core/threading/queues).

  Every queue is a deque under a mutex.  Four of them have `push` at the back
  and a `drain` that swaps the whole content out: a list, `· ++ [m]` and `[]`.
  The two queues towards the worker threads (HTTP, NATS) block their reader and
  can be stopped; they share one definition here.
-/

import RcnetServer.State

namespace RcnetServer

/-- `SimulationToHttpQueue` / `SimulationToNatsQueue`. -/
structure StoppableQueue (M : Type) where
  q : List M := []
  stopped : Bool := false

namespace StoppableQueue

variable {M : Type} (queue : StoppableQueue M)

def push (m : M) : StoppableQueue M :=
  { queue with q := queue.q ++ [m] }

/-- How a `waitAndDrain` ends. -/
inductive WaitAndDrain (M : Type)
  /-- The reader is still blocked on the condition variable. -/
  | blocked
  /-- `false`: stopped and nothing left. -/
  | stopped
  /-- `true`, with the batch swapped out. -/
  | drained (batch : List M) (rest : StoppableQueue M)

/-- `waitAndDrain(out)`, which swaps `out` with the queue.  Both workers pass a deque they
    have just made, so the queue is left empty. -/
def waitAndDrain : WaitAndDrain M :=
  if !(queue.stopped || !queue.q.isEmpty) then .blocked
  else if queue.stopped && queue.q.isEmpty then .stopped
  else .drained queue.q { queue with q := [] }

def stop : StoppableQueue M :=
  { queue with stopped := true }

@[simp] theorem push_q (m : M) : (queue.push m).q = queue.q ++ [m] := rfl

@[simp] theorem stop_q : queue.stop.q = queue.q := rfl

variable {queue}

/-- A drain takes the whole content, which is not empty. -/
theorem waitAndDrain_eq_drained {batch : List M} {rest : StoppableQueue M}
    (h : queue.waitAndDrain = .drained batch rest) :
    batch = queue.q ∧ batch ≠ [] ∧ rest = { queue with q := [] } := by
  unfold waitAndDrain at h
  split at h
  · cases h
  · rename_i hwake
    split at h
    · cases h
    · rename_i hleft
      cases h
      refine ⟨rfl, ?_, rfl⟩
      intro hnil
      -- awake with nothing queued means stopped, which is the previous case
      simp [hnil] at hwake hleft
      exact absurd hwake (by simp [hleft])

/-- `false` means stopped, with nothing left. -/
theorem waitAndDrain_eq_stopped (h : queue.waitAndDrain = .stopped) :
    queue.stopped = true ∧ queue.q = [] := by
  unfold waitAndDrain at h
  split at h
  · cases h
  · split at h
    · rename_i hstopped
      simpa using hstopped
    · cases h

end StoppableQueue

/-- `SimulationToHttpQueue`. -/
abbrev SimulationToHttpQueue := StoppableQueue SimulationToHttpMessage

/-- `SimulationToNatsMessageType`. -/
inductive SimulationToNatsMessageType
  | publishMessageForSubjectMySubject1
  | publishMessageForSubjectGameserverSimulationEtatMetrics
deriving DecidableEq

/-- `SimulationToNatsMessage`.  The queue does not look into the metrics payload, whose
    type belongs to the engine. -/
structure SimulationToNatsMessage (Payload : Type) where
  type : SimulationToNatsMessageType
  subject : String
  mySubject1Message : String := ""
  gameserverSimulationEtatMetricsPayload : Payload

/-- `SimulationToNatsQueue`. -/
abbrev SimulationToNatsQueue (Payload : Type) := StoppableQueue (SimulationToNatsMessage Payload)

end RcnetServer
