/-
  RcnetServer.Properties.NatsThread

  The NATS thread over whole runs.

  The thread waits for messages only once it has subscribed, which it does once.
  It dispatches what was pushed, once and in order, and publishes for each message the
  text of the object with its members (`ServerNats.publication`), whenever that text
  could be built.  Whatever cJSON call fails, the object and the text are given back
  once each and not used afterwards: the calls of a run are a run of `JsonHeap`, which
  is empty between two messages.
-/

import RcnetServer.Services.NatsWorker

namespace RcnetServer

-- ============================================================================
-- The discipline of the JSON calls
-- ============================================================================

/-- What the thread owns between two cJSON calls: nothing, an object, or an object and
    its text. -/
inductive JsonHeap
  | empty
  | object (members : List (String × JsonValue))
  | printed (members : List (String × JsonValue)) (jsonString : List UInt8)

namespace JsonHeap

variable (print : JsonPrinter)

/-- The calls that are allowed: a text is the text of the object, and is published as
    long as it is owned. -/
def step : JsonHeap → NatsCall → Option JsonHeap
  | .empty, .cJSONCreateObject => some (.object [])
  | .object members, .cJSONAddToObject name value => some (.object (members ++ [(name, value)]))
  | .object members, .cJSONPrintUnformatted jsonString =>
      if jsonString = print members then some (.printed members jsonString) else none
  | .printed members jsonString, .rcnetNatsPublish _ payload =>
      if payload = cStr jsonString then some (.printed members jsonString) else none
  | .printed members _, .cJSONFree => some (.object members)
  | .object _, .cJSONDelete => some .empty
  | _, _ => none

/-- Several calls. -/
def run : JsonHeap → List NatsCall → Option JsonHeap
  | heap, [] => some heap
  | heap, call :: calls => (heap.step print call).bind fun heap => run heap calls

theorem run_append (heap : JsonHeap) (calls calls' : List NatsCall) :
    heap.run print (calls ++ calls') =
      (heap.run print calls).bind fun heap => heap.run print calls' := by
  induction calls generalizing heap with
  | nil => rfl
  | cons call calls ih =>
      show (heap.step print call).bind _ = ((heap.step print call).bind _).bind _
      rw [Option.bind_assoc]
      exact congrArg _ (funext fun heap => ih heap)

/-- Adding members needs the object, and puts them behind those it has. -/
theorem run_adds (members added : List (String × JsonValue)) (calls : List NatsCall) :
    (object members).run print
        (added.map (fun member => .cJSONAddToObject member.1 member.2) ++ calls) =
      (object (members ++ added)).run print calls := by
  induction added generalizing members with
  | nil => rw [List.append_nil]; rfl
  | cons member added ih =>
      refine (ih (members ++ [member])).trans ?_
      rw [List.append_assoc, List.singleton_append]

end JsonHeap

/-- What a call publishes. -/
@[simp] def NatsCall.publication : NatsCall → Option (String × List UInt8)
  | .rcnetNatsPublish subject payload => some (subject, payload)
  | _ => none

namespace ServerNats

variable (print : JsonPrinter)

/-- The members of a message's object. -/
def members (message : NatsMessage) : List (String × JsonValue) :=
  match message.type with
  | .publishMessageForSubjectMySubject1 =>
      [("message", .string (cString message.mySubject1Message))]
  | .publishMessageForSubjectGameserverSimulationEtatMetrics =>
      gameserverSimulationEtatMetricsMembers message.gameserverSimulationEtatMetricsPayload

/-- What comes of a message: the text of its object on its subject, or nothing when the
    metrics have no subject or one of the cJSON calls fails. -/
def publication (message : NatsMessage) (outcome : CJsonOutcome) :
    Option (String × List UInt8) :=
  if message.type = .publishMessageForSubjectGameserverSimulationEtatMetrics ∧
      message.subject = "" then none
  else if outcome.created = true ∧ (members message).length ≤ outcome.added ∧
      outcome.printed = true then
    some (cString message.subject, cStr (print (members message)))
  else none

/-- Building an object keeps the discipline and gives everything back. -/
theorem heap_publishObject (members : List (String × JsonValue)) (subject : String)
    (outcome : CJsonOutcome) :
    JsonHeap.empty.run print (publishObject print members subject outcome) = some .empty := by
  unfold publishObject
  dsimp only
  split
  · split
    · exact JsonHeap.run_adds print _ _ _
    · rename_i hadded
      have hall : members.take outcome.added = members := List.take_of_length_le (by omega)
      rw [hall]
      split
      · exact JsonHeap.run_adds print _ _ _
      · refine (JsonHeap.run_adds print _ _ _).trans ?_
        simp [JsonHeap.run, JsonHeap.step]
  · rfl

/-- Adding members publishes nothing. -/
theorem publications_adds (members : List (String × JsonValue)) (calls : List NatsCall) :
    ((members.map fun member => NatsCall.cJSONAddToObject member.1 member.2) ++
      calls).filterMap NatsCall.publication = calls.filterMap NatsCall.publication := by
  induction members with
  | nil => rfl
  | cons member members ih => exact ih

/-- It publishes the text of all the members, if there is one. -/
theorem publications_publishObject (members : List (String × JsonValue)) (subject : String)
    (outcome : CJsonOutcome) :
    (publishObject print members subject outcome).filterMap NatsCall.publication =
      (if outcome.created = true ∧ members.length ≤ outcome.added ∧ outcome.printed = true then
        some (cString subject, cStr (print members))
      else none).toList := by
  unfold publishObject
  dsimp only
  by_cases hcreated : outcome.created = true
  · rw [if_pos hcreated]
    by_cases hadded : outcome.added < members.length
    · rw [if_pos hadded, if_neg (by omega), List.filterMap_cons_none rfl, publications_adds]
      rfl
    · rw [if_neg hadded]
      cases hprinted : outcome.printed with
      | false =>
          rw [if_neg (by simp)]
          dsimp only
          rw [List.filterMap_cons_none rfl, publications_adds]
          rfl
      | true =>
          rw [if_pos ⟨hcreated, by omega, rfl⟩]
          dsimp only
          rw [List.filterMap_cons_none rfl, publications_adds]
          rfl
  · rw [if_neg hcreated, if_neg (fun h => hcreated h.1)]
    rfl

theorem heap_processSimulationDispatcher (message : NatsMessage) (outcome : CJsonOutcome) :
    JsonHeap.empty.run print (processSimulationDispatcher print message outcome) =
      some .empty := by
  unfold processSimulationDispatcher
  split
  · exact heap_publishObject print _ _ _
  · unfold handlePublishMessageForSubjectGameserverSimulationEtatMetrics
    split
    · rfl
    · exact heap_publishObject print _ _ _

theorem publications_processSimulationDispatcher (message : NatsMessage)
    (outcome : CJsonOutcome) :
    (processSimulationDispatcher print message outcome).filterMap NatsCall.publication =
      (publication print message outcome).toList := by
  unfold processSimulationDispatcher publication
  cases htype : message.type with
  | publishMessageForSubjectMySubject1 =>
      have hmembers : members message =
          [("message", .string (cString message.mySubject1Message))] := by simp [members, htype]
      rw [if_neg (by simp), hmembers]
      exact publications_publishObject print _ _ _
  | publishMessageForSubjectGameserverSimulationEtatMetrics =>
      have hmembers : members message = gameserverSimulationEtatMetricsMembers
          message.gameserverSimulationEtatMetricsPayload := by simp [members, htype]
      dsimp only
      unfold handlePublishMessageForSubjectGameserverSimulationEtatMetrics
      by_cases hsubject : message.subject = ""
      · rw [if_pos (by simp [hsubject]), if_pos ⟨rfl, hsubject⟩]
        rfl
      · rw [if_neg (by simpa using hsubject), if_neg (fun h => hsubject h.2), hmembers]
        exact publications_publishObject print _ _ _

end ServerNats

-- ============================================================================
-- Logs
-- ============================================================================

namespace NatsWorkerEvent

@[simp] def queueEvent : NatsWorkerEvent → Option (StoppableQueueEvent NatsMessage)
  | .queue event => some event
  | .subscribed _ => none
  | .dispatched _ _ _ => none

@[simp] def subscription : NatsWorkerEvent → Option Bool
  | .queue _ => none
  | .subscribed result => some result
  | .dispatched _ _ _ => none

@[simp] def dispatch : NatsWorkerEvent → Option (NatsMessage × CJsonOutcome)
  | .queue _ => none
  | .subscribed _ => none
  | .dispatched message outcome _ => some (message, outcome)

@[simp] def calls : NatsWorkerEvent → List NatsCall
  | .queue _ => []
  | .subscribed _ => []
  | .dispatched _ _ calls => calls

end NatsWorkerEvent

/-- What happened to the queue. -/
def natsQueueEvents (tr : List NatsWorkerEvent) : List (StoppableQueueEvent NatsMessage) :=
  tr.filterMap NatsWorkerEvent.queueEvent

/-- What the attempts to subscribe returned. -/
def subscriptionLog (tr : List NatsWorkerEvent) : List Bool :=
  tr.filterMap NatsWorkerEvent.subscription

/-- The messages dispatched, each with how cJSON behaved. -/
def dispatchLog (tr : List NatsWorkerEvent) : List (NatsMessage × CJsonOutcome) :=
  tr.filterMap NatsWorkerEvent.dispatch

/-- The calls made while dispatching. -/
def natsCalls (tr : List NatsWorkerEvent) : List NatsCall :=
  tr.flatMap NatsWorkerEvent.calls

section Append

variable (tr es : List NatsWorkerEvent)

@[simp] theorem natsQueueEvents_append :
    natsQueueEvents (tr ++ es) = natsQueueEvents tr ++ natsQueueEvents es :=
  List.filterMap_append

@[simp] theorem subscriptionLog_append :
    subscriptionLog (tr ++ es) = subscriptionLog tr ++ subscriptionLog es :=
  List.filterMap_append

@[simp] theorem dispatchLog_append :
    dispatchLog (tr ++ es) = dispatchLog tr ++ dispatchLog es :=
  List.filterMap_append

@[simp] theorem natsCalls_append : natsCalls (tr ++ es) = natsCalls tr ++ natsCalls es :=
  List.flatMap_append

end Append

section Singleton

variable (event : StoppableQueueEvent NatsMessage) (result : Bool) (message : NatsMessage)
  (outcome : CJsonOutcome) (calls : List NatsCall)

@[simp] theorem natsQueueEvents_queue : natsQueueEvents [.queue event] = [event] := rfl
@[simp] theorem natsQueueEvents_subscribed : natsQueueEvents [.subscribed result] = [] := rfl

@[simp] theorem natsQueueEvents_dispatched :
    natsQueueEvents [.dispatched message outcome calls] = [] := rfl

@[simp] theorem subscriptionLog_queue : subscriptionLog [.queue event] = [] := rfl
@[simp] theorem subscriptionLog_subscribed : subscriptionLog [.subscribed result] = [result] := rfl

@[simp] theorem subscriptionLog_dispatched :
    subscriptionLog [.dispatched message outcome calls] = [] := rfl

@[simp] theorem dispatchLog_queue : dispatchLog [.queue event] = [] := rfl
@[simp] theorem dispatchLog_subscribed : dispatchLog [.subscribed result] = [] := rfl

@[simp] theorem dispatchLog_dispatched :
    dispatchLog [.dispatched message outcome calls] = [(message, outcome)] := rfl

end Singleton

-- ============================================================================
-- Runs
-- ============================================================================

variable {print : JsonPrinter} {w w' : NatsWorker} {tr es : List NatsWorkerEvent}

/-- What happens to the queue is a run of it. -/
theorem natsWorker_refines (hr : (natsWorker print).Reach w tr) :
    (stoppableQueue NatsMessage).Reach w.queue (natsQueueEvents tr) := by
  refine TraceMachine.Run.invariant
    (P := fun w tr => (stoppableQueue NatsMessage).Reach w.queue (natsQueueEvents tr))
    .start ?_ hr
  intro w tr action w' es _ ih _ hs
  cases natsWorker_step_cases hs with
  | queue called => simpa using ih.next called
  | withoutContext => simpa using ih
  | subscribe first => simpa using ih
  | dispatch next => simpa using ih

/-- The messages returned are those dispatched, and then the batch. -/
theorem natsWorker_order (hr : (natsWorker print).Reach w tr) :
    (returnedBatches (natsQueueEvents tr)).flatten =
      (dispatchLog tr).map Prod.fst ++ w.batch := by
  refine TraceMachine.Run.invariant (P := fun w tr =>
    (returnedBatches (natsQueueEvents tr)).flatten =
      (dispatchLog tr).map Prod.fst ++ w.batch) rfl ?_ hr
  intro w tr action w' es _ ih _ hs
  cases natsWorker_step_cases hs with
  | queue called batch =>
      rw [natsQueueEvents_append, returnedBatches_append, List.flatten_append, ih,
        List.append_assoc, natsQueueEvents_queue, batch]
      simp
  | withoutContext => simpa using ih
  | subscribe first => simpa using ih
  | dispatch next => simpa [next] using ih

/-- The attempts to subscribe fail until one succeeds, which is the last. -/
theorem natsWorker_subscriptions (hr : (natsWorker print).Reach w tr) :
    ∃ failures, subscriptionLog tr = List.replicate failures false ++
      (if w.subscriptionsInitialized then [true] else []) := by
  refine TraceMachine.Run.invariant (P := fun w tr => ∃ failures,
    subscriptionLog tr = List.replicate failures false ++
      (if w.subscriptionsInitialized then [true] else [])) ⟨0, rfl⟩ ?_ hr
  rintro w tr action w' es _ ⟨failures, ih⟩ _ hs
  rw [subscriptionLog_append, ih]
  cases natsWorker_step_cases hs with
  | queue _ _ flag => exact ⟨failures, by simp [flag]⟩
  | withoutContext => exact ⟨failures, List.append_nil _⟩
  | dispatch next => exact ⟨failures, by simp⟩
  | @subscribe subscribed first =>
      cases subscribed with
      | false => exact ⟨failures + 1, by simp [first, List.replicate_succ']⟩
      | true => exact ⟨failures, by simp [first]⟩

/-- The thread has subscribed exactly when an attempt has succeeded. -/
theorem subscribed_of_reach (hr : (natsWorker print).Reach w tr)
    (h : w.subscriptionsInitialized = true) : .subscribed true ∈ tr := by
  obtain ⟨failures, hlog⟩ := natsWorker_subscriptions hr
  have hmem : true ∈ subscriptionLog tr := by rw [hlog]; simp [h]
  obtain ⟨e, he, hsub⟩ := List.mem_filterMap.mp hmem
  cases e with
  | subscribed subscribed =>
      obtain rfl := Option.some.inj hsub
      exact he
  | _ => cases hsub

/-- Nothing is taken from the queue before. -/
theorem natsWorker_gated (hr : (natsWorker print).Reach w tr) :
    EachAfter (fun pre e => ∀ event, e = .queue event → event.isReturn = true →
      .subscribed true ∈ pre) tr := by
  refine TraceMachine.Run.invariant (P := fun _ tr => EachAfter (fun pre e => ∀ event,
    e = .queue event → event.isReturn = true → .subscribed true ∈ pre) tr) .nil ?_ hr
  intro w tr action w' es hreach ih _ hs
  cases natsWorker_step_cases hs with
  | queue _ _ _ after =>
      refine ih.append_singleton ?_
      rintro event ⟨⟩ hreturn
      exact subscribed_of_reach hreach (after hreturn)
  | withoutContext => rwa [List.append_nil]
  | subscribe first => exact ih.append_singleton (fun event h => by cases h)
  | dispatch next => exact ih.append_singleton (fun event h => by cases h)

/-- When `waitAndDrain` returns `false`, everything pushed before has been dispatched. -/
theorem natsWorker_false_last (hr : (natsWorker print).Reach w tr) :
    EachAfter (fun pre e => e = .queue .returnedFalse →
      (dispatchLog pre).map Prod.fst = pushedMessages (natsQueueEvents pre)) tr := by
  refine TraceMachine.Run.invariant (P := fun _ tr => EachAfter (fun pre e =>
    e = .queue .returnedFalse →
      (dispatchLog pre).map Prod.fst = pushedMessages (natsQueueEvents pre)) tr) .nil ?_ hr
  intro w tr action w' es hreach ih _ hs
  cases natsWorker_step_cases hs with
  | queue called _ _ _ done =>
      refine ih.append_singleton ?_
      rintro ⟨⟩
      have hlast :=
        (stoppableQueue_laws ((natsWorker_refines hreach).next called)).falseLast _ [] rfl
      have horder := natsWorker_order hreach
      rw [done rfl, List.append_nil] at horder
      rw [← horder, hlast.2]
  | withoutContext => rwa [List.append_nil]
  | subscribe first => exact ih.append_singleton (fun h => by cases h)
  | dispatch next => exact ih.append_singleton (fun h => by cases h)

/-- The calls made for the messages publish what comes of them and keep the
    discipline. -/
theorem natsWorker_calls (hr : (natsWorker print).Reach w tr) :
    (natsCalls tr).filterMap NatsCall.publication =
        (dispatchLog tr).filterMap (fun d => ServerNats.publication print d.1 d.2) ∧
      JsonHeap.empty.run print (natsCalls tr) = some .empty := by
  refine TraceMachine.Run.invariant (P := fun _ tr =>
    (natsCalls tr).filterMap NatsCall.publication =
        (dispatchLog tr).filterMap (fun d => ServerNats.publication print d.1 d.2) ∧
      JsonHeap.empty.run print (natsCalls tr) = some .empty) ⟨rfl, rfl⟩ ?_ hr
  rintro w tr action w' es _ ⟨hpublications, hheap⟩ _ hs
  rw [natsCalls_append, List.filterMap_append, hpublications, dispatchLog_append,
    List.filterMap_append, JsonHeap.run_append, hheap, Option.bind_some]
  cases natsWorker_step_cases hs with
  | queue called => exact ⟨rfl, rfl⟩
  | withoutContext => exact ⟨rfl, rfl⟩
  | subscribe first => exact ⟨rfl, rfl⟩
  | @dispatch message rest outcome next =>
      have hcalls : natsCalls [.dispatched message outcome
          (ServerNats.processSimulationDispatcher print message outcome)] =
            ServerNats.processSimulationDispatcher print message outcome := List.append_nil _
      rw [hcalls]
      refine ⟨congrArg _ ?_, ServerNats.heap_processSimulationDispatcher print message outcome⟩
      rw [ServerNats.publications_processSimulationDispatcher]
      cases hpublication : ServerNats.publication print message outcome with
      | none => simp [dispatchLog, hpublication]
      | some text => simp [dispatchLog, hpublication]

/-- What the thread promises. -/
structure NatsLaws (print : JsonPrinter) (w : NatsWorker) (tr : List NatsWorkerEvent) : Prop where
  /-- It subscribes once, after any number of failures. -/
  subscriptions : ∃ failures, subscriptionLog tr = List.replicate failures false ++
    (if w.subscriptionsInitialized then [true] else [])
  /-- It takes no message before. -/
  gated : ∀ pre event post, tr = pre ++ .queue event :: post → event.isReturn = true →
    .subscribed true ∈ pre
  /-- What is pushed is dispatched, once and in order. -/
  order : pushedMessages (natsQueueEvents tr) =
    (dispatchLog tr).map Prod.fst ++ (w.batch ++ w.queue.q)
  /-- Nothing is left when the queue says that it is stopped. -/
  atShutdown : ∀ pre post, tr = pre ++ .queue .returnedFalse :: post →
    (dispatchLog pre).map Prod.fst = pushedMessages (natsQueueEvents pre)
  /-- What is published is what comes of the messages dispatched. -/
  publications : (natsCalls tr).filterMap NatsCall.publication =
    (dispatchLog tr).filterMap fun d => ServerNats.publication print d.1 d.2
  /-- Objects and texts are given back once, and not used afterwards. -/
  memory : JsonHeap.empty.run print (natsCalls tr) = some .empty

/-- Every run of the NATS thread keeps the promises. -/
theorem nats_thread_laws (hr : (natsWorker print).Reach w tr) : NatsLaws print w tr where
  subscriptions := natsWorker_subscriptions hr
  gated := fun pre event post h => natsWorker_gated hr pre _ post h event rfl
  order := by
    have hconserved := (stoppableQueue_laws (natsWorker_refines hr)).conserved
    rw [← hconserved, natsWorker_order hr, List.append_assoc]
  atShutdown := fun pre post h => natsWorker_false_last hr pre _ post h rfl
  publications := (natsWorker_calls hr).1
  memory := (natsWorker_calls hr).2

/-- cJSON's text of an object with one string that needs no escape. -/
def printOneString : JsonPrinter
  | [(name, .string text)] =>
      (['\x7b', '"'] ++ name.toList ++ ['"', ':', '"'] ++ text.toList ++ ['"', '\x7d']).map
        fun c => UInt8.ofNat c.toNat
  | _ => []

/-- The subscription fails once; then a message is published, and the queue stopped. -/
def publishAfterRetry : List NatsWorkerAction :=
  [.subscribe false, .withoutContext,
    .push { type := .publishMessageForSubjectMySubject1, subject := "mysubject1"
            mySubject1Message := "bonjour"
            gameserverSimulationEtatMetricsPayload := { simulationEtatMetrics := default } },
    .subscribe true, .waitAndDrain, .stop,
    .dispatch { created := true, added := 1, printed := true }, .waitAndDrain]

theorem publishAfterRetry_runs :
    ((natsWorker printOneString).exec (fun _ _ _ => True) publishAfterRetry).isSome = true := by
  rfl

/-- That run keeps the promises: it publishes the JSON text with `bonjour`. -/
theorem publishAfterRetry_laws :
    ∃ w tr, (natsWorker printOneString).exec (fun _ _ _ => True) publishAfterRetry =
        some (w, tr) ∧
      subscriptionLog tr = [false, true] ∧
      (natsCalls tr).filterMap NatsCall.publication = [("mysubject1",
        [123, 34, 109, 101, 115, 115, 97, 103, 101, 34, 58, 34, 98, 111, 110, 106, 111, 117, 114,
          34, 125])] ∧
      NatsLaws printOneString w tr := by
  obtain ⟨⟨w, tr⟩, hrun⟩ := Option.isSome_iff_exists.mp publishAfterRetry_runs
  have hlogs : ((natsWorker printOneString).exec (fun _ _ _ => True) publishAfterRetry).map
      (fun r => (subscriptionLog r.2, (natsCalls r.2).filterMap NatsCall.publication)) =
      some ([false, true], [("mysubject1",
        [123, 34, 109, 101, 115, 115, 97, 103, 101, 34, 58, 34, 98, 111, 110, 106, 111, 117, 114,
          34, 125])]) := by
    rfl
  rw [hrun] at hlogs
  obtain ⟨hsubscribed, hpublished⟩ := Prod.mk.inj (Option.some.inj hlogs)
  exact ⟨w, tr, hrun, hsubscribed, hpublished,
    nats_thread_laws (TraceMachine.run_of_exec hrun)⟩

end RcnetServer
