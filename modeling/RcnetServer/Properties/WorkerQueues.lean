/-
  RcnetServer.Properties.WorkerQueues

  The queues of the worker threads, through shutdown.

  A stop that races with pushes drops nothing: whatever is queued is still returned, and
  `false` comes only with the queue empty.  The HTTP worker replies to each request it
  has taken, in order, so on `false` every request has its reply.
-/

import RcnetServer.System.HttpWorker

namespace RcnetServer

/-- One reply for each finished request, in order, and none missing when the queue says
    it is stopped. -/
structure AnsweredInOrder (w : HttpWorker) (tr : List HttpWorkerEvent) : Prop where
  /-- The requests returned are those finished, then the rest of the batch. -/
  finished : ∃ finished, (returnedBatches (queueEvents tr)).flatten = finished ++ w.batch ∧
    (pushedReplies tr).map (·.connectionId) = finished.map (·.connectionId)
  atShutdown : ∀ pre post, tr = pre ++ .queue .returnedFalse :: post →
    (pushedReplies pre).map (·.connectionId) =
      (pushedMessages (queueEvents pre)).map (·.connectionId)

/-- Both queues return what is pushed, once, in order and never an empty batch, and
    `false` only when stopped with nothing left; the HTTP worker answers in order. -/
theorem workerQueues_exact {w : HttpWorker} {tr : List HttpWorkerEvent} {Payload : Type}
    {toHttp : SimulationToHttpQueue}
    {httpTrace : List (StoppableQueueEvent SimulationToHttpMessage)}
    {toNats : SimulationToNatsQueue Payload}
    {natsTrace : List (StoppableQueueEvent (SimulationToNatsMessage Payload))}
    (hr : httpWorker.Reach w tr)
    (hhttp : (stoppableQueue SimulationToHttpMessage).Reach toHttp httpTrace)
    (hnats : (stoppableQueue (SimulationToNatsMessage Payload)).Reach toNats natsTrace) :
    QueueLaws w.queue (queueEvents tr) ∧ AnsweredInOrder w tr ∧
      QueueLaws toHttp httpTrace ∧ QueueLaws toNats natsTrace := by
  refine ⟨stoppableQueue_laws (httpWorker_refines hr), ?_, stoppableQueue_laws hhttp,
    stoppableQueue_laws hnats⟩
  refine ⟨httpWorker_replies hr, ?_⟩
  intro pre post h
  exact httpWorker_false_last hr pre _ post h rfl

-- ============================================================================
-- A stop during a batch
-- ============================================================================

/-- Two requests are taken; the stop and a third request come while they are handled. -/
def stopDuringBatch : List HttpWorkerAction :=
  [.push { connectionId := 1, authToken := [1] }, .push { connectionId := 2, authToken := [2] },
    .waitAndDrain, .reply {}, .stop, .push { connectionId := 3, authToken := [3] }, .reply {},
    .waitAndDrain, .reply {}, .waitAndDrain]

/-- One publication, then the stop. -/
def stopAfterPublication : List (StoppableQueueAction (SimulationToNatsMessage Unit)) :=
  [.push { type := .publishMessageForSubjectMySubject1, subject := "mysubject1"
           gameserverSimulationEtatMetricsPayload := () },
    .stop, .waitAndDrain, .waitAndDrain]

theorem stopDuringBatch_runs :
    (httpWorker.exec (fun _ _ _ => True) stopDuringBatch).isSome = true := by decide

theorem stopAfterPublication_runs :
    ((stoppableQueue (SimulationToNatsMessage Unit)).exec (fun _ _ _ => True)
      stopAfterPublication).isSome = true := by decide

/-- The third request is answered after the stop, and then the queue returns `false`. -/
theorem stopDuringBatch_exact :
    ∃ w tr toNats natsTrace,
      httpWorker.exec (fun _ _ _ => True) stopDuringBatch = some (w, tr) ∧
      (stoppableQueue (SimulationToNatsMessage Unit)).exec (fun _ _ _ => True)
        stopAfterPublication = some (toNats, natsTrace) ∧
      (pushedReplies tr).map (·.connectionId) = [1, 2, 3] ∧
      QueueLaws w.queue (queueEvents tr) ∧ AnsweredInOrder w tr ∧ QueueLaws toNats natsTrace := by
  obtain ⟨⟨w, tr⟩, hrun⟩ := Option.isSome_iff_exists.mp stopDuringBatch_runs
  obtain ⟨⟨toNats, natsTrace⟩, hnats⟩ := Option.isSome_iff_exists.mp stopAfterPublication_runs
  have hreplies : (httpWorker.exec (fun _ _ _ => True) stopDuringBatch).map
      (fun r => (pushedReplies r.2).map (·.connectionId)) = some [1, 2, 3] := by decide
  rw [hrun] at hreplies
  obtain ⟨hqueue, hanswered, -, hlaws⟩ :=
    workerQueues_exact (TraceMachine.run_of_exec hrun) .start (TraceMachine.run_of_exec hnats)
  exact ⟨w, tr, toNats, natsTrace, hrun, hnats, Option.some.inj hreplies, hqueue, hanswered, hlaws⟩

end RcnetServer
