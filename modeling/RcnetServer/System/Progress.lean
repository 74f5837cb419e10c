/-
  RcnetServer.System.Progress

  No thread is ever stuck in its own work.

  Wherever the network thread is in a pass, the simulation thread in a tick or the
  HTTP thread in a batch, one of its own actions is possible, whatever the other
  threads have done and whatever ENet, the signing and the backend answer
  (`Outside`); and each of them makes the thread's work smaller, so every pass, tick
  and batch ends.
-/

import RcnetServer.Lib.Progress
import RcnetServer.System.Logs
import RcnetServer.System.HttpWorker

namespace RcnetServer

variable {Peer : Type}

-- ============================================================================
-- The threads' own actions
-- ============================================================================

namespace Action

/-- The network thread gets on with a push or a pass. -/
inductive OfPass : Action Peer → Prop
  | networkPush : OfPass .networkPush
  | sendReliable (outcome : SendOutcome) : OfPass (.sendReliable outcome)
  | patchSnapshot (c : ConnectionId) : OfPass (.patchSnapshot c)
  | sendSnapshot (outcome : SendOutcome) : OfPass (.sendSnapshot outcome)
  | endOutgoing : OfPass .endOutgoing

/-- The simulation thread gets on with a tick. -/
inductive OfTick : Action Peer → Prop
  | drainHttp : OfTick .drainHttp
  | handleNetwork (oracle : HelloOracle) : OfTick (.handleNetwork oracle)
  | handleHttp : OfTick .handleHttp
  | checkMatchFlow (order : Sessions) (clock : Nat → UInt64) : OfTick (.checkMatchFlow order clock)
  | createSnapshots (order : Sessions) (clock : Nat → UInt64) :
      OfTick (.createSnapshots order clock)
  | simulationPush : OfTick .simulationPush
  | simulationPushHttp : OfTick .simulationPushHttp

/-- The HTTP thread gets on with its requests. -/
inductive OfWorker : Action Peer → Prop
  | httpDrain : OfWorker .httpDrain
  | httpReply (response : AuthTokenVerificationHTTPResponse) : OfWorker (.httpReply response)

/-- A thread's own work: no ENet event, no new pass or tick, no stop. -/
def IsWork (a : Action Peer) : Prop :=
  a.OfPass ∨ a.OfTick ∨ a.OfWorker

/-- What the server does by itself: work, a new tick or a new pass. -/
inductive OfServer : Action Peer → Prop
  | work {a : Action Peer} (h : a.IsWork) : OfServer a
  | beginTick (currentTick : UInt64) : OfServer (.beginTick currentTick)
  | beginOutgoing : OfServer .beginOutgoing

end Action

/-- What ENet, the signing of hellos and the backend may answer in each state; they
    always answer something. -/
structure Outside (Peer : Type) where
  Sends : System Peer → SendOutcome → Prop
  Signs : System Peer → HelloOracle → Prop
  Replies : System Peer → AuthTokenVerificationHTTPResponse → Prop
  sends : ∀ s, ∃ outcome, Sends s outcome
  signs : ∀ s, ∃ oracle, Signs s oracle
  replies : ∀ s, ∃ response, Replies s response

/-- An action that needs an answer gets one from `outside`, and ticks do not go back. -/
def System.Answered (outside : Outside Peer) (s : System Peer) : Action Peer → Prop
  | .sendReliable outcome => outside.Sends s outcome
  | .sendSnapshot outcome => outside.Sends s outcome
  | .handleNetwork oracle => outside.Signs s oracle
  | .httpReply response => outside.Replies s response
  | .beginTick currentTick => s.simulation.currentTick ≤ currentTick
  | _ => True

/-- What the server does by itself, with the answers of `outside`. -/
def System.Unhindered (outside : Outside Peer) (s : System Peer) (a : Action Peer) : Prop :=
  a.OfServer ∧ s.Answered outside a

-- ============================================================================
-- What is left to do
-- ============================================================================

/-- The steps a pass still takes. -/
def NetworkThread.work : NetworkThread Peer → Nat
  | .idle => 0
  | .pushing _ => 1
  | .outgoing prepared =>
      1 + prepared.reliableMessages.length +
        2 * UnorderedMap.size prepared.lastSnapshotFullUnreliablePerConnectionId
  | .sendingSnapshot _ _ _ prepared =>
      2 + prepared.reliableMessages.length +
        2 * UnorderedMap.size prepared.lastSnapshotFullUnreliablePerConnectionId

/-- How many phases of the tick are left. -/
def SimulationPhase.left : SimulationPhase → Nat
  | .idle => 0
  | .snapshots => 1
  | .dispatch => 2
  | .drainHttp => 3

/-- What is left of a tick: phases, then messages of the batches, then pushes. -/
def SimulationThread.work (simulation : SimulationThread) : Nat × Nat × Nat :=
  (simulation.phase.left, simulation.networkMessages.length + simulation.httpMessages.length,
    simulation.outbox.length + simulation.httpOutbox.length)

/-- What is left for the HTTP thread: queued requests, then those of the batch. -/
def System.httpWork (s : System Peer) : Nat × Nat :=
  (s.simToHttp.q.length, s.httpBatch.length)

/-- The simulation thread is between two ticks and has pushed everything. -/
def System.TickDone (s : System Peer) : Prop :=
  s.simulation.phase = .idle ∧ s.simulationHasPushed = true

/-- The HTTP thread has nothing to do. -/
def System.HttpDone (s : System Peer) : Prop :=
  s.simToHttp.q = [] ∧ s.httpBatch = []

theorem System.TickDone.pushed {s : System Peer} (done : s.TickDone) :
    s.simulation.outbox = [] ∧ s.simulation.httpOutbox = [] := by
  simpa [System.simulationHasPushed] using done.2

variable [DecidableEq Peer] (platform : Platform) (outside : Outside Peer) {s s' : System Peer}
  {a : Action Peer} {es : List (Event Peer)}

-- ============================================================================
-- An action is possible
-- ============================================================================

/-- Any snapshot of the pass can be taken next once the reliable messages are out. -/
theorem patchSnapshot_possible {prepared : ServerNetworkOutgoingPreparedMessages}
    {c : ConnectionId} {m : SimulationToNetworkOUTMessage}
    (outgoing : s.network = .outgoing prepared) (reliableDone : prepared.reliableMessages = [])
    (next : prepared.lastSnapshotFullUnreliablePerConnectionId.lookup c = some m) :
    (s.step platform (.patchSnapshot c)).isSome = true := by
  simp only [System.step, System.patchSnapshot, outgoing, reliableDone, next]
  split
  · rfl
  · split <;> rfl

/-- A pass or a push can go on, whatever ENet answers. -/
theorem pass_unstuck (h : s.network ≠ .idle) :
    ∃ a : Action Peer, (a.OfPass ∧ s.Answered outside a) ∧ (s.step platform a).isSome = true := by
  obtain ⟨outcome, hsends⟩ := outside.sends s
  cases hnetwork : s.network with
  | idle => exact absurd hnetwork h
  | pushing m =>
      exact ⟨_, ⟨.networkPush, trivial⟩, by simp [System.step, System.networkPush, hnetwork]⟩
  | sendingSnapshot p m bytes prepared =>
      exact ⟨_, ⟨.sendSnapshot outcome, hsends⟩,
        by simp [System.step, System.sendSnapshot, hnetwork]⟩
  | outgoing prepared =>
      cases hreliable : prepared.reliableMessages with
      | cons m rest =>
          exact ⟨_, ⟨.sendReliable outcome, hsends⟩,
            by simp [System.step, System.sendReliable, hnetwork, hreliable]⟩
      | nil =>
          by_cases hdone : prepared.lastSnapshotFullUnreliablePerConnectionId.entries = []
          · exact ⟨_, ⟨.endOutgoing, trivial⟩,
              by simp [System.step, System.endOutgoing, hnetwork, hreliable, hdone]⟩
          · obtain ⟨c, m, hm⟩ := UnorderedMap.exists_lookup hdone
            exact ⟨_, ⟨.patchSnapshot c, trivial⟩,
              patchSnapshot_possible platform hnetwork hreliable hm⟩

/-- A tick can go on, whether hellos can be signed or not. -/
theorem tick_unstuck (h : ¬ s.TickDone) :
    ∃ a : Action Peer, (a.OfTick ∧ s.Answered outside a) ∧ (s.step platform a).isSome = true := by
  cases hout : s.simulation.outbox with
  | cons m rest =>
      exact ⟨_, ⟨.simulationPush, trivial⟩, by simp [System.step, System.simulationPush, hout]⟩
  | nil =>
      cases hhttp : s.simulation.httpOutbox with
      | cons m rest =>
          exact ⟨_, ⟨.simulationPushHttp, trivial⟩,
            by simp [System.step, System.simulationPushHttp, hhttp]⟩
      | nil =>
          have hpushed : s.simulationHasPushed = true := by
            simp [System.simulationHasPushed, hout, hhttp]
          cases hphase : s.simulation.phase with
          | idle => exact absurd ⟨hphase, hpushed⟩ h
          | drainHttp =>
              exact ⟨_, ⟨.drainHttp, trivial⟩, by simp [System.step, System.drainHttp, hphase]⟩
          | snapshots =>
              exact ⟨_, ⟨.createSnapshots s.networkState.sessions fun _ => 0, trivial⟩,
                by simp [System.step, System.createSnapshots, hphase, hpushed]⟩
          | dispatch =>
              cases hnetwork : s.simulation.networkMessages with
              | cons m rest =>
                  obtain ⟨oracle, hsigns⟩ := outside.signs s
                  exact ⟨_, ⟨.handleNetwork oracle, hsigns⟩,
                    by simp [System.step, System.handleNetwork, hphase, hpushed, hnetwork]⟩
              | nil =>
                  cases hreplies : s.simulation.httpMessages with
                  | cons reply rest =>
                      exact ⟨_, ⟨.handleHttp, trivial⟩, by
                        simp [System.step, System.handleHttp, hphase, hpushed, hnetwork, hreplies]⟩
                  | nil =>
                      refine ⟨_, ⟨.checkMatchFlow s.networkState.sessions fun _ => 0, trivial⟩, ?_⟩
                      simp [System.step, System.checkMatchFlow, hphase, hpushed, hnetwork,
                        hreplies]

/-- The HTTP thread can go on, stopped or not, whatever the backend answers. -/
theorem worker_unstuck (h : ¬ s.HttpDone) :
    ∃ a : Action Peer, (a.OfWorker ∧ s.Answered outside a) ∧
      (s.step platform a).isSome = true := by
  cases hbatch : s.httpBatch with
  | cons request rest =>
      obtain ⟨response, hreplies⟩ := outside.replies s
      exact ⟨_, ⟨.httpReply response, hreplies⟩,
        by simp [System.step, System.httpReply, hbatch]⟩
  | nil =>
      have hqueue : s.simToHttp.q ≠ [] := fun hqueue => h ⟨hqueue, hbatch⟩
      refine ⟨_, ⟨.httpDrain, trivial⟩, ?_⟩
      simp [System.step, System.httpDrain, hbatch, StoppableQueue.waitAndDrain, hqueue]

-- ============================================================================
-- And there is less to do after it
-- ============================================================================

variable {platform}

theorem pass_works (h : System.Steps platform s a s' es) (ha : a.OfPass) :
    s'.network.work < s.network.work := by
  cases ha with
  | networkPush => cases h with
    | networkPush pushing => simp [pushing, NetworkThread.work]
  | sendReliable => cases h with
    | sendReliable outgoing next => simp [outgoing, next, NetworkThread.work]
  | patchSnapshot => cases h with
    | skipSnapshot outgoing _ next =>
        have hless := UnorderedMap.size_erase_lt next
        simp only [outgoing, NetworkThread.work, System.withoutSnapshot]
        omega
    | patchSnapshot outgoing _ next =>
        have hless := UnorderedMap.size_erase_lt next
        simp only [outgoing, NetworkThread.work, System.withoutSnapshot]
        omega
  | sendSnapshot => cases h with
    | sendSnapshot sending =>
        simp only [sending, NetworkThread.work]
        omega
  | endOutgoing => cases h with
    | endOutgoing outgoing =>
        simp only [outgoing, NetworkThread.work]
        omega

theorem tick_works (h : System.Steps platform s a s' es) (ha : a.OfTick) :
    WellFoundedRelation.rel s'.simulation.work s.simulation.work := by
  cases ha with
  | drainHttp => cases h with
    | drainHttp phase => exact .left _ _ (show (_ : Nat) < _ by simp [phase, SimulationPhase.left])
  | handleNetwork => cases h with
    | handleNetwork next => exact .right _ (.left _ _ (show (_ : Nat) < _ by simp [next]))
  | handleHttp => cases h with
    | handleHttp networkDone next =>
        exact .right _ (.left _ _ (show (_ : Nat) < _ by simp [next]))
  | checkMatchFlow => cases h with
    | checkMatchFlow phase =>
        exact .left _ _ (show (_ : Nat) < _ by simp [phase, SimulationPhase.left])
  | createSnapshots => cases h with
    | createSnapshots phase =>
        exact .left _ _ (show (_ : Nat) < _ by simp [phase, SimulationPhase.left])
  | simulationPush => cases h with
    | simulationPush next => exact .right _ (.right _ (show (_ : Nat) < _ by simp [next]))
  | simulationPushHttp => cases h with
    | simulationPushHttp next => exact .right _ (.right _ (show (_ : Nat) < _ by simp [next]))

theorem worker_works (h : s.step platform a = some (s', es)) (ha : a.OfWorker) :
    WellFoundedRelation.rel s'.httpWork s.httpWork := by
  cases ha with
  | httpDrain =>
      -- the worker only wakes up for a queue that is not empty
      obtain ⟨_, hwait⟩ := httpDrain_eq_some h
      obtain ⟨_, hqueue, _⟩ := StoppableQueue.waitAndDrain_eq_drained hwait
      cases System.step_cases h with
      | httpDrain =>
          exact .left _ _ (show (_ : Nat) < _ by simpa [List.length_pos_iff] using hqueue)
  | httpReply => cases System.step_cases h with
    | httpReply next => exact .right _ (show (_ : Nat) < _ by simp [next])

/-- What the server does by itself brings no ENet event. -/
theorem server_silent (h : System.Steps platform s a s' es) (ha : a.OfServer) :
    incomingLog es = [] := by
  cases ha with
  | work ha => rcases ha with ha | ha | ha <;> cases ha <;> cases h <;> rfl
  | beginTick => cases h; rfl
  | beginOutgoing => cases h; rfl

end RcnetServer
