/-
  RcnetServer.System.HttpWorker

  The HTTP thread of the server is the HTTP worker.

  Every step of the server is a step of `httpWorker` on the queue and the batch, or does
  not touch them (`httpWorker_path`).  So every run of the server is a run of the
  worker, with the pushes and the replies it shows.
-/

import RcnetServer.Services.HttpWorker
import RcnetServer.System.Steps

namespace RcnetServer

variable {Peer : Type}

namespace Event

/-- The request pushed to the HTTP thread in this step. -/
@[simp] def httpRequest : Event Peer → Option SimulationToHttpMessage
  | .httpPushed message => some message
  | _ => none

/-- The reply the HTTP thread pushed in this step. -/
@[simp] def httpReply : Event Peer → Option HttpToSimulationMessage
  | .replyPushed reply => some reply
  | _ => none

end Event

/-- The worker's part of the server. -/
def System.httpWorker (s : System Peer) : HttpWorker :=
  { queue := s.simToHttp, batch := s.httpBatch }

variable [DecidableEq Peer] {platform : Platform} {s s' : System Peer} {a : Action Peer}
  {tr es : List (Event Peer)}

omit [DecidableEq Peer] in
/-- The server drains a queue that is not empty. -/
theorem httpDrain_eq_some (h : s.httpDrain = some (s', es)) :
    s.httpBatch = [] ∧
      s.simToHttp.waitAndDrain = .drained s.simToHttp.q { s.simToHttp with q := [] } := by
  unfold System.httpDrain at h
  split at h
  · rename_i batch rest hbatch hwait
    obtain ⟨rfl, -, rfl⟩ := StoppableQueue.waitAndDrain_eq_drained hwait
    exact ⟨hbatch, hwait⟩
  · cases h

/-- One step of the server, as the worker sees it. -/
theorem httpWorker_path (h : s.step platform a = some (s', es)) :
    ∃ wes, httpWorker.Path s.httpWorker wes s'.httpWorker ∧
      pushedMessages (queueEvents wes) = es.filterMap Event.httpRequest ∧
      pushedReplies wes = es.filterMap Event.httpReply := by
  cases System.step_cases h with
  | simulationPushHttp next =>
      rename_i message rest
      exact ⟨[.queue (.pushed message)], .step (a := .push message) .refl rfl, rfl, rfl⟩
  | httpDrain done =>
      obtain ⟨hbatch, hwait⟩ := httpDrain_eq_some h
      refine ⟨[.queue (.returnedTrue s.simToHttp.q)], .step (a := .waitAndDrain) .refl ?_,
        rfl, rfl⟩
      simp only [httpWorker, HttpWorker.step, System.httpWorker, hbatch, hwait]
  | httpReply next =>
      rename_i response request rest
      refine ⟨[.replied (ServerHttp.handleAuthValidateTokenRequestMessage request response)],
        .step (a := .reply response) .refl ?_, rfl, rfl⟩
      simp only [httpWorker, HttpWorker.step, System.httpWorker, next]
  | stopHttp => exact ⟨[.queue .stopped], .step (a := .stop) .refl rfl, rfl, rfl⟩
  | _ => exact ⟨[], .refl, rfl, rfl⟩

/-- Every run of the server is a run of the worker. -/
theorem httpWorker_of_reach (hr : (server Peer platform).Reach s tr) :
    ∃ wtr, httpWorker.Reach s.httpWorker wtr ∧
      pushedMessages (queueEvents wtr) = tr.filterMap Event.httpRequest ∧
      pushedReplies wtr = tr.filterMap Event.httpReply := by
  refine TraceMachine.Run.invariant (P := fun (s : System Peer) tr =>
    ∃ wtr, httpWorker.Reach s.httpWorker wtr ∧
      pushedMessages (queueEvents wtr) = tr.filterMap Event.httpRequest ∧
      pushedReplies wtr = tr.filterMap Event.httpReply) ⟨[], .start, rfl, rfl⟩ ?_ hr
  rintro s tr a s' es _ ⟨wtr, hreach, hpushed, hreplies⟩ _ hs
  obtain ⟨wes, hpath, hpushed', hreplies'⟩ := httpWorker_path hs
  refine ⟨wtr ++ wes, hreach.path hpath, ?_, ?_⟩
  · rw [queueEvents_append, pushedMessages_append, List.filterMap_append, hpushed, hpushed']
  · rw [pushedReplies_append, List.filterMap_append, hreplies, hreplies']

/-- In every run of the server the replies are for the requests pushed, in order, except
    for those still in the batch or the queue. -/
theorem server_replies_in_order (hr : (server Peer platform).Reach s tr) :
    (tr.filterMap Event.httpRequest).map (·.connectionId) =
      (tr.filterMap Event.httpReply).map (·.connectionId) ++
        (s.httpBatch ++ s.simToHttp.q).map (·.connectionId) := by
  obtain ⟨wtr, hreach, hpushed, hreplies⟩ := httpWorker_of_reach hr
  have hconserved := (stoppableQueue_laws (httpWorker_refines hreach)).conserved
  obtain ⟨finished, hreturned, hfinished⟩ := httpWorker_replies hreach
  rw [← hpushed, ← hreplies, hfinished, ← hconserved, hreturned]
  simp [System.httpWorker]

end RcnetServer
