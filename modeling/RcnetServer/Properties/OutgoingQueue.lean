/-
  RcnetServer.Properties.OutgoingQueue

  From the simulation's queue to the sending loops.

  The queue is a `batchQueue`; a pass drains it and sorts the batch.  Reliable
  messages come out as they went in, over all passes; of an unreliable family a
  pass keeps, for each connection, the last message of the batch.  The server's
  runs are runs of that queue (`outgoing_refines_batchQueue`).
-/

import RcnetServer.System.MatchPhases

namespace RcnetServer

-- ============================================================================
-- One pass
-- ============================================================================

namespace ServerNetworkOutgoing

/-- A pass keeps a message of a family and connection exactly if the batch has one. -/
theorem lookup_kept_split_isSome (batch : List SimulationToNetworkOUTMessage)
    {type : SimulationToNetworkOUTMessageType} (htype : type.isReliable = false)
    (c : ConnectionId) :
    (((splitReliableAndCoalesceUnreliableMessages batch).kept type).lookup c).isSome = true ↔
      ∃ m ∈ batch, m.type = type ∧ m.connectionId = c := by
  rw [lookup_kept_split batch htype, List.getLast?_isSome, ofFamily, Ne, List.filter_eq_nil_iff]
  push Not
  simp only [Bool.and_eq_true, decide_eq_true_eq]

/-- Every message of a batch is kept, or gives way to a later one of its family and
    connection that is kept. -/
theorem kept_or_superseded (pre post : List SimulationToNetworkOUTMessage)
    (m : SimulationToNetworkOUTMessage) :
    (m.type.isReliable = true ∧
      m ∈ (splitReliableAndCoalesceUnreliableMessages (pre ++ m :: post)).reliableMessages) ∨
    ((splitReliableAndCoalesceUnreliableMessages (pre ++ m :: post)).kept m.type).lookup
      m.connectionId = some m ∨
    ∃ m' ∈ post, m'.type = m.type ∧ m'.connectionId = m.connectionId ∧
      ((splitReliableAndCoalesceUnreliableMessages (pre ++ m :: post)).kept m.type).lookup
        m.connectionId = some m' := by
  cases hreliable : m.type.isReliable with
  | true =>
      refine Or.inl ⟨rfl, ?_⟩
      rw [splitReliable_reliableMessages]
      exact List.mem_filter.mpr ⟨by simp, hreliable⟩
  | false =>
      right
      rw [lookup_kept_split _ hreliable, ofFamily]
      rcases getLast?_filter_of_mem pre post
          (p := fun m' => m'.type = m.type && m'.connectionId = m.connectionId)
          (a := m) (by simp) with hself | ⟨m', hm', hfamily, hlater⟩
      · exact Or.inl hself
      · simp only [Bool.and_eq_true, decide_eq_true_eq] at hfamily
        exact Or.inr ⟨m', hm', hfamily.1, hfamily.2, hlater⟩

end ServerNetworkOutgoing

-- ============================================================================
-- All passes
-- ============================================================================

/-- The reliable messages handed to the sending loop by the passes over `batches`. -/
def handedToPasses (batches : List (List SimulationToNetworkOUTMessage)) :
    List SimulationToNetworkOUTMessage :=
  batches.flatMap fun batch =>
    (ServerNetworkOutgoing.splitReliableAndCoalesceUnreliableMessages batch).reliableMessages

@[simp] theorem handedToPasses_append
    (batches batches' : List (List SimulationToNetworkOUTMessage)) :
    handedToPasses (batches ++ batches') = handedToPasses batches ++ handedToPasses batches' :=
  List.flatMap_append

@[simp] theorem handedToPasses_nil : handedToPasses [] = [] := rfl

@[simp] theorem handedToPasses_singleton (batch : List SimulationToNetworkOUTMessage) :
    handedToPasses [batch] = (ServerNetworkOutgoing.splitReliableAndCoalesceUnreliableMessages
      batch).reliableMessages := by
  simp [handedToPasses]

/-- The passes hand on the reliable messages as they were pushed. -/
theorem handedToPasses_conserves {queue : List SimulationToNetworkOUTMessage}
    {tr : List (QueueEvent SimulationToNetworkOUTMessage)}
    (hr : (batchQueue SimulationToNetworkOUTMessage).Reach queue tr) :
    handedToPasses (drainedBatches tr) ++ onlyReliable queue = onlyReliable (pushedItems tr) := by
  have hconserves := batchQueue_conserves_filter hr fun m => m.type.isReliable
  simp only [handedToPasses, splitReliable_reliableMessages]
  exact hconserves

variable {Peer : Type} [DecidableEq Peer] {platform : Platform}

/-- A run of the server is a run of its outgoing queue: it pushes what the simulation
    thread pushes, and its passes have handled, or still hold, what was drained. -/
theorem outgoing_refines_batchQueue {s : System Peer} {tr : List (Event Peer)}
    (hr : (server Peer platform).Reach s tr) :
    ∃ queueTrace, (batchQueue SimulationToNetworkOUTMessage).Reach s.simToNet queueTrace ∧
      pushedItems queueTrace = outgoingLog tr ∧
      handedToPasses (drainedBatches queueTrace) =
        reliableLog tr ++ s.network.reliableMessages := by
  refine TraceMachine.Run.invariant
    (P := fun (s : System Peer) (tr : List (Event Peer)) =>
      ∃ queueTrace, (batchQueue SimulationToNetworkOUTMessage).Reach s.simToNet queueTrace ∧
        pushedItems queueTrace = outgoingLog tr ∧
        handedToPasses (drainedBatches queueTrace) =
          reliableLog tr ++ s.network.reliableMessages)
    ⟨[], .start, rfl, rfl⟩ ?_ hr
  intro s tr a s' es _ ih _ hs
  obtain ⟨queueTrace, hqueue, hpushed, hhanded⟩ := ih
  cases System.step_cases hs with
  | @simulationPush m rest next =>
      -- the queue takes a push
      have hpush : (batchQueue SimulationToNetworkOUTMessage).step s.simToNet (.push m) =
          some (s.simToNet ++ [m], [.pushed m]) := rfl
      refine ⟨_, hqueue.next hpush, ?_, ?_⟩
      · simp [hpushed]
      · simpa using hhanded
  | beginOutgoing idle =>
      -- the queue is drained
      have hdrain : (batchQueue SimulationToNetworkOUTMessage).step s.simToNet .drain =
          some ([], [.drained s.simToNet]) := rfl
      refine ⟨_, hqueue.next hdrain, by simpa using hpushed, ?_⟩
      rw [drainedBatches_append, handedToPasses_append, hhanded]
      simp [idle]
  | receive idle =>
      exact ⟨queueTrace, hqueue, by simpa using hpushed, by simpa [idle] using hhanded⟩
  | networkPush pushing =>
      exact ⟨queueTrace, hqueue, by simpa using hpushed, by simpa [pushing] using hhanded⟩
  | sendReliable outgoing next =>
      refine ⟨queueTrace, hqueue, by simpa using hpushed, ?_⟩
      simpa [outgoing, next] using hhanded
  | skipSnapshot outgoing =>
      refine ⟨queueTrace, hqueue, by simpa using hpushed, ?_⟩
      simpa [outgoing, System.withoutSnapshot] using hhanded
  | patchSnapshot outgoing =>
      refine ⟨queueTrace, hqueue, by simpa using hpushed, ?_⟩
      simpa [outgoing, System.withoutSnapshot] using hhanded
  | sendSnapshot sending =>
      exact ⟨queueTrace, hqueue, by simpa using hpushed, by simpa [sending] using hhanded⟩
  | endOutgoing outgoing reliableDone =>
      refine ⟨queueTrace, hqueue, by simpa using hpushed, ?_⟩
      simpa [outgoing, reliableDone] using hhanded
  | _ => exact ⟨queueTrace, hqueue, by simpa using hpushed, by simpa using hhanded⟩

/-- Over all passes and all interleavings with pushes, the reliable messages handed
    to the sending loop and those still queued are those pushed, in push order, for
    any queue of this kind and for the server's.  Of an unreliable family a pass
    keeps the last message for each connection the batch has one for; so every
    message is kept, or superseded by a later one of its family, connection and
    batch. -/
theorem outgoing_queue_exact {s : System Peer} {tr : List (Event Peer)}
    (hr : (server Peer platform).Reach s tr) :
    (∀ queue queueTrace,
      (batchQueue SimulationToNetworkOUTMessage).Reach queue queueTrace →
      handedToPasses (drainedBatches queueTrace) ++ onlyReliable queue =
        onlyReliable (pushedItems queueTrace)) ∧
    reliableLog tr ++ s.network.reliableMessages ++ onlyReliable s.simToNet =
      onlyReliable (outgoingLog tr) ∧
    (∀ batch type, type.isReliable = false → ∀ c,
      ((ServerNetworkOutgoing.splitReliableAndCoalesceUnreliableMessages batch).kept
        type).lookup c = (ofFamily type c batch).getLast? ∧
      ((((ServerNetworkOutgoing.splitReliableAndCoalesceUnreliableMessages batch).kept
        type).lookup c).isSome = true ↔ ∃ m ∈ batch, m.type = type ∧ m.connectionId = c)) ∧
    (∀ pre m post,
      (m.type.isReliable = true ∧
        m ∈ (ServerNetworkOutgoing.splitReliableAndCoalesceUnreliableMessages
          (pre ++ m :: post)).reliableMessages) ∨
      ((ServerNetworkOutgoing.splitReliableAndCoalesceUnreliableMessages
        (pre ++ m :: post)).kept m.type).lookup m.connectionId = some m ∨
      ∃ m' ∈ post, m'.type = m.type ∧ m'.connectionId = m.connectionId ∧
        ((ServerNetworkOutgoing.splitReliableAndCoalesceUnreliableMessages
          (pre ++ m :: post)).kept m.type).lookup m.connectionId = some m') := by
  obtain ⟨queueTrace, hqueue, hpushed, hhanded⟩ := outgoing_refines_batchQueue hr
  refine ⟨fun _ _ h => handedToPasses_conserves h, ?_, ?_, ?_⟩
  · rw [← hhanded, ← hpushed]
    exact handedToPasses_conserves hqueue
  · intro batch type htype c
    exact ⟨ServerNetworkOutgoing.lookup_kept_split batch htype c,
      ServerNetworkOutgoing.lookup_kept_split_isSome batch htype c⟩
  · intro pre m post
    exact ServerNetworkOutgoing.kept_or_superseded pre post m

/-- In the run with two clients three passes have handled the eleven reliable messages in
    the order pushed, and the last of them kept the latest of three snapshots for each. -/
theorem duoStarted_queue_exact :
    (reliableLog duoStartedResult.2).length = 11 ∧
      reliableLog duoStartedResult.2 ++ duoStartedResult.1.network.reliableMessages ++
        onlyReliable duoStartedResult.1.simToNet = onlyReliable (outgoingLog duoStartedResult.2) ∧
      ∀ c ∈ ([1, 2] : List ConnectionId),
        (ofFamily .serverSnapshotFullPacketUnreliable c
          ((outgoingLog duoStartedResult.2).drop 9)).length = 3 ∧
        ((ServerNetworkOutgoing.splitReliableAndCoalesceUnreliableMessages
          ((outgoingLog duoStartedResult.2).drop 9)).kept
            .serverSnapshotFullPacketUnreliable).lookup c =
          (ofFamily .serverSnapshotFullPacketUnreliable c
            ((outgoingLog duoStartedResult.2).drop 9)).getLast? := by
  have hthree : ∀ c ∈ ([1, 2] : List ConnectionId),
      (ofFamily .serverSnapshotFullPacketUnreliable c
        ((outgoingLog duoStartedResult.2).drop 9)).length = 3 := by
    have hone : (ofFamily .serverSnapshotFullPacketUnreliable 1
        ((outgoingLog duoStartedResult.2).drop 9)).length = 3 := by
      decide +kernel
    have htwo : (ofFamily .serverSnapshotFullPacketUnreliable 2
        ((outgoingLog duoStartedResult.2).drop 9)).length = 3 := by
      decide +kernel
    exact List.forall_mem_cons.mpr ⟨hone, List.forall_mem_singleton.mpr htwo⟩
  obtain ⟨-, horder, hkept, -⟩ := outgoing_queue_exact duoStarted_reach
  exact ⟨by decide +kernel, horder, fun c hc => ⟨hthree c hc, (hkept _ _ rfl c).1⟩⟩

end RcnetServer
