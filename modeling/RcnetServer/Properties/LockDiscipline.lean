/-
  RcnetServer.Properties.LockDiscipline

  The threads share the session table and the queues without races and deadlocks.

  Every pass takes its mutexes in order (`ThreadPass.balanced`): only the queue to the
  network thread is taken while another one, `sessionsMutex`, is held, and no call to
  ENet is made under a mutex, whose callbacks could take it again.  So no interleaving
  of the threads can block them for good.
-/

import RcnetServer.System.Locks

namespace RcnetServer

/-- The queue the simulation pushes to under `sessionsMutex` ranks above the rest. -/
def ServerMutex.rank : ServerMutex → Nat
  | .simulationToNetworkOut => 1
  | _ => 0

theorem ServerMutex.rank_le (m : ServerMutex) : m.rank ≤ 1 := by
  cases m <;> decide

/-- `ops` takes its mutexes in order and gives them back. -/
abbrev InOrder (ops : List ServerLockOp) : Prop :=
  LockBalanced ServerMutex.rank [] ops

-- ============================================================================
-- Scopes and pushes
-- ============================================================================

theorem lockScope_inOrder (m : ServerMutex) : InOrder (lockScope m []) :=
  .scope (by simp) .nil

theorem pushLocks_inOrder {α : Type} (queue : ServerMutex) (messages : List α) :
    InOrder (pushLocks queue messages) :=
  .flatMap fun _ _ => lockScope_inOrder queue

/-- The one nesting: a push to the network thread under `sessionsMutex`. -/
theorem pushUnderSessionsLocks_inOrder {α : Type} (messages : List α) :
    InOrder (pushUnderSessionsLocks messages) := by
  refine .scope (by simp) (.flatMap fun _ _ => ?_)
  refine .access List.mem_cons_self (.scope ?_ .nil)
  intro h hmem
  obtain rfl := List.mem_singleton.mp hmem
  decide

/-- The nesting the other way round is out of order. -/
example : ¬ InOrder (lockScope .simulationToNetworkOut (lockScope .sessions [])) := by decide

variable {Peer : Type} {platform : Platform}

-- ============================================================================
-- The simulation thread
-- ============================================================================

namespace ServerSimulation

theorem processNetworkIncomingLocks_inOrder (kx : KxServerSessionKeys) (oracle : HelloOracle)
    (networkState : NetworkState Peer) (message : NetworkINToSimulationMessage) :
    InOrder (processNetworkIncomingLocks kx oracle networkState message) :=
  ((lockScope_inOrder _).append (pushLocks_inOrder _ _)).append (pushLocks_inOrder _ _)

theorem checkMatchFlowLocks_inOrder (engine : Engine) (config : ServerConfig)
    (clock : Nat → UInt64) (networkState : NetworkState Peer) (currentTick : UInt64)
    (gameState : GameState) :
    InOrder (checkMatchFlowLocks engine config clock networkState currentTick gameState) := by
  refine (lockScope_inOrder _).append (.ite .nil ?_)
  refine .append (.append ?_ ?_) ?_
  · exact .ite (pushUnderSessionsLocks_inOrder _) .nil
  · exact .ite (pushUnderSessionsLocks_inOrder _) .nil
  · refine .ite ((lockScope_inOrder _).append ?_) .nil
    exact .ite (pushUnderSessionsLocks_inOrder _) .nil

theorem tickLocks_inOrder (view : TickView Peer) : InOrder (tickLocks platform view) := by
  refine .append (.append (.append (.append (.append (.append ?_ ?_) ?_) ?_) ?_) ?_) ?_
  · exact lockScope_inOrder _
  · exact lockScope_inOrder _
  · exact lockScope_inOrder _
  · exact .flatMap fun m _ => processNetworkIncomingLocks_inOrder _ _ _ _
  · exact .flatMap fun m _ => (lockScope_inOrder _).append (pushLocks_inOrder _ _)
  · exact checkMatchFlowLocks_inOrder _ _ _ _ _ _
  · exact .ite (pushUnderSessionsLocks_inOrder _) .nil

end ServerSimulation

-- ============================================================================
-- The network thread
-- ============================================================================

variable [DecidableEq Peer]

theorem CallbackView.locks_inOrder (view : CallbackView Peer) : InOrder view.locks := by
  unfold locks
  split
  · split
    · exact .nil
    · exact lockScope_inOrder _
  · split
    · exact .nil
    · exact lockScope_inOrder _
  · unfold ServerNetworkOutgoing.onReliablePacketAcknowledgedRunActionsLocks
    split
    · exact .nil
    · refine .ite .nil (.ite .nil (.ite ?_ .nil))
      unfold ServerNetworkOutgoing.setPeerEncryptionEnabledLocks
      split
      · exact .nil
      · split
        · exact .nil
        · exact .ite .nil (lockScope_inOrder _)
  · exact .nil

theorem callbackLocks_inOrder (callbacks : List (CallbackView Peer)) :
    InOrder (callbackLocks callbacks) :=
  .flatMap fun view _ => view.locks_inOrder

theorem enetCallLocks_inOrder (callbacks : Nat → List (CallbackView Peer))
    (calls : List (ENetCall Peer)) : InOrder (enetCallLocks callbacks calls) :=
  .flatMap fun _ _ => callbackLocks_inOrder _

theorem ServerNetworkIncoming.processENetEventLocks_inOrder (event : ENetEvent Peer)
    (networkState : NetworkState Peer) (peers : ENetPeers Peer)
    (callbacks : List (CallbackView Peer)) :
    InOrder (processENetEventLocks event networkState peers callbacks) := by
  unfold processENetEventLocks
  split
  · exact pushLocks_inOrder _ _
  · exact pushLocks_inOrder _ _
  · exact pushLocks_inOrder _ _
  · unfold eventHandleReceiveLocks
    refine .ite .nil (.append ?_ ?_)
    · unfold channelGuardLocks
      split
      · exact .nil
      · exact lockScope_inOrder _
      · exact lockScope_inOrder _
      · exact lockScope_inOrder _
      · exact .nil
    · split
      · exact .nil
      · exact lockScope_inOrder _
      · exact callbackLocks_inOrder _

namespace ServerNetworkOutgoing

omit [DecidableEq Peer] in
theorem isPeerAllowedToSendPacketLocks_inOrder (peers : ENetPeers Peer) (peer : Option Peer)
    (requireValidatedSession : Bool) :
    InOrder (isPeerAllowedToSendPacketLocks peers peer requireValidatedSession) := by
  refine .ite .nil ?_
  split
  · exact .nil
  · exact lockScope_inOrder _

theorem handleReliableMessageLocks_inOrder (view : SendView Peer)
    (msg : SimulationToNetworkOUTMessage) : InOrder (handleReliableMessageLocks view msg) := by
  unfold handleReliableMessageLocks
  split
  · exact .nil
  · exact (isPeerAllowedToSendPacketLocks_inOrder _ _ _).append (enetCallLocks_inOrder _ _)

/-- The scope of the id ends before the packet is sent. -/
theorem handleSnapshotFullMessageLocks_inOrder (patchState : NetworkState Peer)
    (view : SendView Peer) (msg : SimulationToNetworkOUTMessage) :
    InOrder (handleSnapshotFullMessageLocks patchState view msg) := by
  unfold handleSnapshotFullMessageLocks
  split
  · exact .nil
  · refine .ite .nil ?_
    split
    · exact .nil
    · refine (lockScope_inOrder _).append ?_
      split
      · exact .nil
      · exact (isPeerAllowedToSendPacketLocks_inOrder _ _ _).append (enetCallLocks_inOrder _ _)

theorem passLocks_inOrder (view : PassView Peer) : InOrder (passLocks view) := by
  refine .append (.append (.append (lockScope_inOrder _) ?_) ?_) (callbackLocks_inOrder _)
  · exact .flatMap fun m _ => handleReliableMessageLocks_inOrder _ _
  · exact .flatMap fun m _ => handleSnapshotFullMessageLocks_inOrder _ _ _

end ServerNetworkOutgoing

-- ============================================================================
-- All threads
-- ============================================================================

theorem waitAndDrainLocks_inOrder {M : Type} (mutex : ServerMutex) (queue : StoppableQueue M)
    {handle : M → List ServerLockOp} (h : ∀ m, InOrder (handle m)) :
    InOrder (waitAndDrainLocks mutex queue handle) := by
  refine (lockScope_inOrder _).append ?_
  split
  · exact .nil
  · exact .nil
  · exact .flatMap fun m _ => h m

/-- Every pass of every thread is in order. -/
theorem ThreadPass.inOrder {thread : ServerThread} {pass : List ServerLockOp}
    (h : ThreadPass Peer platform thread pass) : InOrder pass := by
  cases h with
  | tick view => exact ServerSimulation.tickLocks_inOrder view
  | event event networkState peers callbacks =>
      exact ServerNetworkIncoming.processENetEventLocks_inOrder _ _ _ _
  | outgoing view => exact ServerNetworkOutgoing.passLocks_inOrder view
  | service callbacks => exact callbackLocks_inOrder callbacks
  | http queue => exact waitAndDrainLocks_inOrder _ _ fun _ => lockScope_inOrder _
  | nats queue => exact waitAndDrainLocks_inOrder _ _ fun _ => .nil
  | natsMessage received => exact .ite (lockScope_inOrder _) .nil
  | wake => exact (lockScope_inOrder _).append (lockScope_inOrder _)

/-- Whatever the interleaving of the threads: the session table and each queue are
    touched by one thread at a time; who waits for a mutex while holding one is the
    simulation thread pushing under `sessionsMutex`; and the passes begun come to their
    end in every order in which the threads can run. -/
theorem threads_share_safely {s : LockState ServerThread ServerMutex}
    {tr : List (ServerThread × ServerLockOp)}
    (hr : (lockMachine ServerThread ServerMutex).Run (BeginsOnly (ThreadPass Peer platform)) s tr) :
    LocksSafe ServerMutex.rank s :=
  locksSafe_of_run ServerMutex.rank_le (fun _ _ h => h.inOrder) hr

/-- A tick of a server without clients. -/
def emptyTick : ServerSimulation.TickView Unit where
  messages := []
  httpMessages := []
  currentTick := 0
  gameState := {}
  clock := fun _ => 0
  matchFlowState := (System.init soloPlatform).networkState
  snapshotState := (System.init soloPlatform).networkState

/-- The tick drains the queue to which the network thread is about to push a CONNECT:
    the network thread waits, and the promises hold. -/
theorem connectWhileDraining_safe :
    ∃ (s : LockState ServerThread ServerMutex) (tr : List (ServerThread × ServerLockOp)),
      (lockMachine ServerThread ServerMutex).Run (BeginsOnly (ThreadPass Unit soloPlatform)) s tr ∧
      (s.rest .network).head? = some (.acquire .networkInToSimulation) ∧
      s.owner .networkInToSimulation = some .simulation ∧ LocksSafe ServerMutex.rank s := by
  let M := lockMachine ServerThread ServerMutex
  let tick := ServerSimulation.tickLocks soloPlatform emptyTick
  let event := ServerNetworkIncoming.processENetEventLocks { type := .connect, peer := some () }
    (System.init soloPlatform).networkState (fun _ => {}) []
  have hbegins : ∀ s tr thread pass, ThreadPass Unit soloPlatform thread pass →
      BeginsOnly (ThreadPass Unit soloPlatform) s tr (.begin thread pass) := fun _ _ _ _ h => h
  have hstart : M.Run (BeginsOnly (ThreadPass Unit soloPlatform)) {} [] := .start
  have htick := hstart.step (hbegins _ _ .simulation tick (.tick emptyTick)) rfl
  have hevent := htick.step (hbegins _ _ .network event (.event _ _ _ _)) rfl
  have hrun := hevent.step (show BeginsOnly _ _ _ (.run .simulation) from trivial) rfl
  exact ⟨_, _, hrun, rfl, rfl, threads_share_safely hrun⟩

end RcnetServer
