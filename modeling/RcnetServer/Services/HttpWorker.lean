/-
  RcnetServer.Services.HttpWorker

  The HTTP thread on `SimulationToHttpQueue` (services/http/entrypoint).

  `httpWorker` waits with an empty batch, then handles the batch from the front, one
  reply for one request; pushes and `stop()` of the other threads fall anywhere between
  these steps.  The request being handled is the front of the batch until its reply is
  pushed.
-/

import RcnetServer.Threading.StoppableQueues

namespace RcnetServer

-- ============================================================================
-- The worker
-- ============================================================================

/-- `ServerHttp_ProcessSimulationDispatcher_HandleAuthValidateTokenRequestMessage`: the
    message it pushes, with the response of the backend request. -/
def ServerHttp.handleAuthValidateTokenRequestMessage (message : SimulationToHttpMessage)
    (response : AuthTokenVerificationHTTPResponse) : HttpToSimulationMessage :=
  { connectionId := message.connectionId, authTokenVerificationResponse := response }

/-- The queue, and the rest of the local batch of
    `ServerHttp_WaitAndProcessOneSimulationMessage_And_RunHttpLogic`. -/
structure HttpWorker where
  queue : SimulationToHttpQueue := {}
  batch : List SimulationToHttpMessage := []

inductive HttpWorkerAction
  | push (message : SimulationToHttpMessage)
  | stop
  | waitAndDrain
  /-- The backend request for the front of the batch ends. -/
  | reply (response : AuthTokenVerificationHTTPResponse)

inductive HttpWorkerEvent
  | queue (event : StoppableQueueEvent SimulationToHttpMessage)
  /-- A push to `HttpToSimulationQueue`. -/
  | replied (reply : HttpToSimulationMessage)
deriving DecidableEq

/-- A `waitAndDrain` only comes with an empty batch, after the `while` loop. -/
def HttpWorker.step (w : HttpWorker) :
    HttpWorkerAction → Option (HttpWorker × List HttpWorkerEvent)
  | .push message =>
      some ({ w with queue := w.queue.push message }, [.queue (.pushed message)])
  | .stop => some ({ w with queue := w.queue.stop }, [.queue .stopped])
  | .waitAndDrain =>
      match w.batch, w.queue.waitAndDrain with
      | [], .drained batch rest =>
          some ({ queue := rest, batch := batch }, [.queue (.returnedTrue batch)])
      | [], .stopped => some (w, [.queue .returnedFalse])
      | _, _ => none
  | .reply response =>
      match w.batch with
      | [] => none
      | message :: rest =>
          some ({ w with batch := rest },
            [.replied (ServerHttp.handleAuthValidateTokenRequestMessage message response)])

/-- The worker, with the threads that push and stop. -/
def httpWorker : TraceMachine HttpWorker HttpWorkerAction HttpWorkerEvent where
  start := {}
  step := HttpWorker.step

namespace HttpWorkerEvent

@[simp] def queueEvent :
    HttpWorkerEvent → Option (StoppableQueueEvent SimulationToHttpMessage)
  | .queue event => some event
  | .replied _ => none

@[simp] def reply : HttpWorkerEvent → Option HttpToSimulationMessage
  | .queue _ => none
  | .replied reply => some reply

end HttpWorkerEvent

section Worker

variable {w w' : HttpWorker} {action : HttpWorkerAction} {tr es : List HttpWorkerEvent}

/-- What happened to the queue. -/
def queueEvents (tr : List HttpWorkerEvent) :
    List (StoppableQueueEvent SimulationToHttpMessage) :=
  tr.filterMap HttpWorkerEvent.queueEvent

/-- The replies pushed, in order. -/
def pushedReplies (tr : List HttpWorkerEvent) : List HttpToSimulationMessage :=
  tr.filterMap HttpWorkerEvent.reply

@[simp] theorem queueEvents_append (tr tr' : List HttpWorkerEvent) :
    queueEvents (tr ++ tr') = queueEvents tr ++ queueEvents tr' :=
  List.filterMap_append

@[simp] theorem pushedReplies_append (tr tr' : List HttpWorkerEvent) :
    pushedReplies (tr ++ tr') = pushedReplies tr ++ pushedReplies tr' :=
  List.filterMap_append

@[simp] theorem queueEvents_queue (event : StoppableQueueEvent SimulationToHttpMessage) :
    queueEvents [.queue event] = [event] := rfl

@[simp] theorem queueEvents_replied (reply : HttpToSimulationMessage) :
    queueEvents [.replied reply] = [] := rfl

@[simp] theorem pushedReplies_queue (event : StoppableQueueEvent SimulationToHttpMessage) :
    pushedReplies [.queue event] = [] := rfl

@[simp] theorem pushedReplies_replied (reply : HttpToSimulationMessage) :
    pushedReplies [.replied reply] = [reply] := rfl

/-- A step of the worker is a call on the queue, whose batch it takes when its own is
    empty, or one reply for the front of the batch. -/
theorem httpWorker_step_cases (h : httpWorker.step w action = some (w', es)) :
    (∃ call event, (stoppableQueue _).step w.queue call = some (w'.queue, [event]) ∧
      es = [.queue event] ∧ w.batch ++ (returnedBatches [event]).flatten = w'.batch ∧
      (event = .returnedFalse → w.batch = [])) ∨
    (∃ message response, w.batch = message :: w'.batch ∧ w'.queue = w.queue ∧
      es = [.replied (ServerHttp.handleAuthValidateTokenRequestMessage message response)]) := by
  cases action with
  | push message =>
      obtain ⟨rfl, rfl⟩ := Prod.mk.inj (Option.some.inj h)
      exact Or.inl ⟨.push message, _, rfl, rfl, List.append_nil _, fun h => by cases h⟩
  | stop =>
      obtain ⟨rfl, rfl⟩ := Prod.mk.inj (Option.some.inj h)
      exact Or.inl ⟨.stop, _, rfl, rfl, List.append_nil _, fun h => by cases h⟩
  | waitAndDrain =>
      simp only [httpWorker, HttpWorker.step] at h
      split at h
      · rename_i batch rest hbatch hwait
        obtain ⟨rfl, rfl⟩ := Prod.mk.inj (Option.some.inj h)
        refine Or.inl ⟨.waitAndDrain, .returnedTrue batch, ?_, rfl, ?_, fun h => by cases h⟩
        · simp only [stoppableQueue, hwait]
        · rw [hbatch]
          exact List.append_nil batch
      · rename_i hbatch hwait
        obtain ⟨rfl, rfl⟩ := Prod.mk.inj (Option.some.inj h)
        refine Or.inl ⟨.waitAndDrain, .returnedFalse, ?_, rfl, List.append_nil _, fun _ => hbatch⟩
        simp only [stoppableQueue, hwait]
      · cases h
  | reply response =>
      simp only [httpWorker, HttpWorker.step] at h
      split at h
      · cases h
      · rename_i message rest hbatch
        obtain ⟨rfl, rfl⟩ := Prod.mk.inj (Option.some.inj h)
        exact Or.inr ⟨message, response, hbatch, rfl, rfl⟩

/-- What happens to the queue is a run of it. -/
theorem httpWorker_refines (hr : httpWorker.Reach w tr) :
    (stoppableQueue _).Reach w.queue (queueEvents tr) := by
  refine TraceMachine.Run.invariant
    (P := fun w tr => (stoppableQueue _).Reach w.queue (queueEvents tr)) .start ?_ hr
  intro w tr action w' es _ ih _ hs
  rw [queueEvents_append]
  rcases httpWorker_step_cases hs with ⟨call, event, hcall, rfl, -, -⟩ |
    ⟨message, response, -, hqueue, rfl⟩
  · exact ih.next hcall
  · rw [hqueue, queueEvents_replied, List.append_nil]
    exact ih

/-- The worker has replied, in order, to the requests returned that are no longer in its
    batch. -/
theorem httpWorker_replies (hr : httpWorker.Reach w tr) :
    ∃ finished, (returnedBatches (queueEvents tr)).flatten = finished ++ w.batch ∧
      (pushedReplies tr).map (·.connectionId) = finished.map (·.connectionId) := by
  refine TraceMachine.Run.invariant (P := fun w tr => ∃ finished,
    (returnedBatches (queueEvents tr)).flatten = finished ++ w.batch ∧
      (pushedReplies tr).map (·.connectionId) = finished.map (·.connectionId))
    ⟨[], rfl, rfl⟩ ?_ hr
  rintro w tr action w' es _ ⟨finished, hreturned, hreplies⟩ _ hs
  rcases httpWorker_step_cases hs with ⟨call, event, -, rfl, hbatch, -⟩ |
    ⟨message, response, hfront, -, rfl⟩
  · refine ⟨finished, ?_, ?_⟩
    · rw [queueEvents_append, returnedBatches_append, List.flatten_append, hreturned,
        queueEvents_queue, List.append_assoc, hbatch]
    · rw [pushedReplies_append, pushedReplies_queue, List.append_nil, hreplies]
  · refine ⟨finished ++ [message], ?_, ?_⟩
    · rw [queueEvents_append, queueEvents_replied, List.append_nil, hreturned, hfront]
      simp
    · rw [pushedReplies_append, pushedReplies_replied, List.map_append, List.map_append, hreplies]
      rfl

/-- When `waitAndDrain` returns `false`, every request pushed before has been replied to. -/
theorem httpWorker_false_last (hr : httpWorker.Reach w tr) :
    EachAfter (fun pre e => e = .queue .returnedFalse →
      (pushedReplies pre).map (·.connectionId) =
        (pushedMessages (queueEvents pre)).map (·.connectionId)) tr := by
  refine TraceMachine.Run.invariant (P := fun _ tr => EachAfter (fun pre e =>
    e = .queue .returnedFalse → (pushedReplies pre).map (·.connectionId) =
      (pushedMessages (queueEvents pre)).map (·.connectionId)) tr) .nil ?_ hr
  intro w tr action w' es hreach ih _ hs
  rcases httpWorker_step_cases hs with ⟨call, event, hcall, rfl, -, hempty⟩ |
    ⟨message, response, -, -, rfl⟩
  · refine ih.append_singleton ?_
    rintro ⟨⟩
    have hlast := (stoppableQueue_laws ((httpWorker_refines hreach).next hcall)).falseLast _ [] rfl
    obtain ⟨finished, hreturned, hreplies⟩ := httpWorker_replies hreach
    rw [hempty rfl, List.append_nil] at hreturned
    rw [hreplies, ← hreturned, hlast.2]
  · exact ih.append_singleton (fun h => by cases h)

end Worker

end RcnetServer
