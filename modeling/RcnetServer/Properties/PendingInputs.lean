/-
  RcnetServer.Properties.PendingInputs

  Order among the pending inputs of a client.

  The input handler compares a packet with the last processed number only, not
  with the numbers that are already pending; a packet that repeats or precedes
  one of these breaks the order, and nothing else does.
-/

import RcnetServer.System.Sessions

namespace RcnetServer

-- ============================================================================
-- One session
-- ============================================================================

/-- The pending inputs are in strictly increasing order and not yet processed. -/
structure ClientSession.InputsOrdered (session : ClientSession) : Prop where
  increasing : session.pendingInputPacketsQueue.Pairwise fun p q =>
    p.inputSequenceNumber < q.inputSequenceNumber
  unprocessed : ∀ p ∈ session.pendingInputPacketsQueue,
    session.serverLastProcessedInputSequenceNumber < p.inputSequenceNumber

/-- The packet is one the handler ignores, or it is newer than all pending ones. -/
def ClientSession.inputIsInOrder (session : ClientSession) (packet : ClientInputPacketUnreliable) :
    Bool :=
  packet.inputSequenceNumber ≤ session.serverLastProcessedInputSequenceNumber ||
    session.pendingInputPacketsQueue.all fun p => p.inputSequenceNumber < packet.inputSequenceNumber

/-- An input keeps the order exactly when it is in order itself. -/
theorem ClientSession.receiveInput_inputsOrdered_iff {session : ClientSession}
    (h : session.InputsOrdered) (packet : ClientInputPacketUnreliable) :
    (session.receiveInput packet).InputsOrdered ↔ session.inputIsInOrder packet = true := by
  simp only [inputIsInOrder, Bool.or_eq_true, decide_eq_true_eq, List.all_eq_true]
  by_cases hold : packet.inputSequenceNumber ≤ session.serverLastProcessedInputSequenceNumber
  · have hkeep : (session.receiveInput packet).InputsOrdered := by
      simp only [receiveInput, if_pos hold]
      exact ⟨h.increasing, h.unprocessed⟩
    exact ⟨fun _ => Or.inl hold, fun _ => hkeep⟩
  · constructor
    · intro hordered
      have hincreasing := hordered.increasing
      simp only [receiveInput, if_neg hold] at hincreasing
      refine Or.inr fun p hp => ?_
      exact (List.pairwise_append.mp hincreasing).2.2 p hp packet (List.mem_singleton_self _)
    · intro hcond
      have hnewer := hcond.resolve_left hold
      simp only [receiveInput, if_neg hold]
      refine ⟨?_, ?_⟩
      · refine List.pairwise_append.mpr ⟨h.increasing, List.pairwise_singleton _ _, ?_⟩
        intro p hp q hq
        rw [List.mem_singleton.mp hq]
        exact hnewer p hp
      · intro p hp
        rcases List.mem_append.mp hp with hp | hp
        · exact h.unprocessed p hp
        · rw [List.mem_singleton.mp hp]
          exact UInt32.not_le.mp hold

/-- A network message leaves the pending inputs alone, or it is an input. -/
theorem ServerSimulation.clientStep_pendingInputs {Peer : Type} {kx : KxServerSessionKeys}
    {oracle : HelloOracle} {networkState : NetworkState Peer} {m : NetworkINToSimulationMessage}
    {session? : Option ClientSession} {y : ClientSession}
    (h : (clientStep kx oracle networkState m session?).1 = some y) :
    y.InputsOrdered ∨ ∃ x, session? = some x ∧
      ((y.pendingInputPacketsQueue = x.pendingInputPacketsQueue ∧
        y.serverLastProcessedInputSequenceNumber = x.serverLastProcessedInputSequenceNumber) ∨
      ∃ packet, m = .clientInputPacketUnreliable m.connectionId packet ∧
        y = x.receiveInput packet) := by
  rcases clientStep_inputs kx oracle networkState h with
    ⟨_, rfl⟩ | ⟨x, hx, ⟨hpending, hprocessed, _⟩ | hinput⟩
  · exact Or.inl ⟨List.Pairwise.nil, by simp [ClientSession.ofConnect]⟩
  · exact Or.inr ⟨x, hx, Or.inl ⟨hpending, hprocessed⟩⟩
  · exact Or.inr ⟨x, hx, Or.inr hinput⟩

theorem ClientSession.InputsOrdered.of_eq {x y : ClientSession} (h : x.InputsOrdered)
    (hpending : y.pendingInputPacketsQueue = x.pendingInputPacketsQueue)
    (hprocessed : y.serverLastProcessedInputSequenceNumber =
      x.serverLastProcessedInputSequenceNumber) : y.InputsOrdered where
  increasing := hpending ▸ h.increasing
  unprocessed := by
    rw [hpending, hprocessed]
    exact h.unprocessed

-- ============================================================================
-- Whole runs
-- ============================================================================

variable {Peer : Type} [DecidableEq Peer] {platform : Platform} {s s' : System Peer}
  {a : Action Peer} {tr es : List (Event Peer)}

/-- An input, if one is handled next, is in order. -/
def System.handlesInputInOrder (s : System Peer) : Action Peer → Bool
  | .handleNetwork _ =>
      match s.simulation.networkMessages with
      | .clientInputPacketUnreliable c packet :: _ =>
          match s.networkState.sessions.lookup c with
          | none => true
          | some session => session.inputIsInOrder packet
      | _ => true
  | _ => true

/-- The pending inputs of every session are in order. -/
def PendingInputsOrdered (s : System Peer) : Prop :=
  ∀ c session, s.networkState.sessions.lookup c = some session → session.InputsOrdered

theorem PendingInputsOrdered.step (inv : PendingInputsOrdered s)
    (h : System.Steps platform s a s' es) (hok : s.handlesInputInOrder a = true) :
    PendingInputsOrdered s' := by
  intro c y hy
  have hchange := h.session c
  rw [hy] at hchange
  cases hchange with
  | same kept => exact inv c y kept.symm
  | @handled oracle m rest _ own next left =>
      rcases ServerSimulation.clientStep_pendingInputs left with
        hnew | ⟨x, hx, ⟨hpending, hprocessed⟩ | ⟨packet, hm, rfl⟩⟩
      · exact hnew
      · exact (inv c x hx).of_eq hpending hprocessed
      · rw [own] at hm
        refine (ClientSession.receiveInput_inputsOrdered_iff (inv c x hx) packet).mpr ?_
        simpa [System.handlesInputInOrder, next, hm, hx] using hok
  | @replied reply rest x own next found =>
      obtain ⟨_, _, _, _, _, hreply⟩ := x.applyAuthResponse_eq reply.authTokenVerificationResponse
      rw [hreply]
      exact (inv c x found).of_eq rfl rfl
  | @encrypted _ _ _ x _ _ _ _ found => exact (inv c x found).of_eq rfl rfl
  | @snapshot _ x found => exact (inv c x found).of_eq rfl rfl

/-- As long as each input handled is in order, the pending inputs are. -/
theorem pending_inputs_ordered
    (hr : (server Peer platform).Run (fun s _ a => s.handlesInputInOrder a = true) s tr) :
    PendingInputsOrdered s :=
  TraceMachine.Run.invariant (P := fun s _ => PendingInputsOrdered s)
    (by simp [PendingInputsOrdered, server, System.init])
    (fun _ _ _ _ _ _ inv hok hs => PendingInputsOrdered.step inv (System.step_cases hs) hok) hr

/-- An input packet with sequence number `n`. -/
def Action.soloInput (n : UInt8) : List (Action Unit) :=
  Action.soloReceive 3 ([0, 0, 0, 0, n] ++ List.replicate 10 0)

/-- The authenticated client sends inputs 1 and 2. -/
def orderedInputsRun : List (Action Unit) :=
  Action.soloEndTick (Action.soloAuthenticated ++ Action.soloInput 1 ++ Action.soloInput 2) 0 ++
    Action.soloTick 4 2

theorem orderedInputsRun_runs :
    ((server Unit soloPlatform).exec (fun s _ a => s.handlesInputInOrder a = true)
      orderedInputsRun).isSome = true := by
  decide +kernel

/-- The state and the trace of the run. -/
def orderedInputsResult : System Unit × List (Event Unit) :=
  ((server Unit soloPlatform).exec (fun s _ a => s.handlesInputInOrder a = true)
    orderedInputsRun).get orderedInputsRun_runs

/-- Both inputs of the run are pending, in order. -/
theorem orderedInputs_ordered :
    (orderedInputsResult.1.networkState.sessions.lookup 1).map
      (fun session => session.pendingInputPacketsQueue.map (·.inputSequenceNumber)) =
        some [1, 2] ∧
    PendingInputsOrdered orderedInputsResult.1 := by
  have hr : (server Unit soloPlatform).Run (fun s _ a => s.handlesInputInOrder a = true)
      orderedInputsResult.1 orderedInputsResult.2 :=
    TraceMachine.run_get orderedInputsRun_runs
  refine ⟨?_, pending_inputs_ordered hr⟩
  decide +kernel

/-- The authenticated client sends input 1 twice. -/
def repeatedInputRun : List (Action Unit) :=
  Action.soloEndTick (Action.soloAuthenticated ++ Action.soloInput 1 ++ Action.soloInput 1) 0 ++
    Action.soloTick 4 2

theorem repeatedInputRun_runs :
    ((server Unit soloPlatform).exec (fun _ _ _ => True) repeatedInputRun).isSome = true := by
  decide +kernel

/-- The state and the trace of the run. -/
def repeatedInputResult : System Unit × List (Event Unit) :=
  ((server Unit soloPlatform).exec (fun _ _ _ => True) repeatedInputRun).get
    repeatedInputRun_runs

/-- Input 1 of the run is pending twice. -/
theorem repeatedInput_not_ordered :
    (server Unit soloPlatform).Reach repeatedInputResult.1 repeatedInputResult.2 ∧
      ¬ PendingInputsOrdered repeatedInputResult.1 := by
  refine ⟨TraceMachine.run_get repeatedInputRun_runs, ?_⟩
  intro hordered
  have hpending : (repeatedInputResult.1.networkState.sessions.lookup 1).map
      (fun session => session.pendingInputPacketsQueue.map (·.inputSequenceNumber)) =
        some [1, 1] := by
    decide +kernel
  obtain ⟨session, hsession, hnumbers⟩ := Option.map_eq_some_iff.mp hpending
  have hincreasing : (session.pendingInputPacketsQueue.map
      (·.inputSequenceNumber)).Pairwise (· < ·) :=
    List.pairwise_map.mpr (hordered 1 session hsession).increasing
  rw [hnumbers] at hincreasing
  exact absurd hincreasing (by decide)

end RcnetServer
