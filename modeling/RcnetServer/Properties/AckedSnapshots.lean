/-
  RcnetServer.Properties.AckedSnapshots

  The snapshot acknowledgements of a client.

  The acknowledged id is copied out of every input packet, before the packet is
  tested for being too old, and is not compared with anything.  So it is sane as
  long as each input that is handled acknowledges no less than the one before and
  no more than has been sent.
-/

import RcnetServer.System.Snapshots

namespace RcnetServer

variable {Peer : Type} [DecidableEq Peer]

/-- No session has acknowledged more than was sent to it; what it has acknowledged is
    nothing, or an id that was allocated for it. -/
def AcksSane (s : System Peer) (h : SnapshotHistory) : Prop :=
  ∀ c x, s.networkState.sessions.lookup c = some x →
    x.clientLastAckedSnapshotId ≤ x.serverLastSentSnapshotId ∧
    (x.clientLastAckedSnapshotId = 0 ∨ x.clientLastAckedSnapshotId ∈ h.allocated c)

/-- The sessions that live on have not gone back in what they have acknowledged. -/
def AcksKept (s : System Peer) (h : SnapshotHistory) (s' : System Peer) (h' : SnapshotHistory) :
    Prop :=
  ∀ c x y, s.networkState.sessions.lookup c = some x → s'.networkState.sessions.lookup c = some y →
    h'.lives c = h.lives c → x.clientLastAckedSnapshotId ≤ y.clientLastAckedSnapshotId

/-- An input handled next acknowledges no less than its session has and no more than
    was sent; a snapshot id given out next is not below the acknowledged one, which
    takes the id counter to wrap. -/
def System.acksSanely (s : System Peer) : Action Peer → Bool
  | .handleNetwork _ =>
      match s.simulation.networkMessages with
      | .clientInputPacketUnreliable c packet :: _ =>
          match s.networkState.sessions.lookup c with
          | none => true
          | some x => decide (x.clientLastAckedSnapshotId ≤ packet.lastReceivedSnapshotId) &&
              decide (packet.lastReceivedSnapshotId ≤ x.serverLastSentSnapshotId)
      | _ => true
  | .patchSnapshot c =>
      match s.network.heldSnapshot c with
      | none => true
      | some m =>
          match s.networkState.sessions.lookup m.connectionId with
          | none => true
          | some x =>
              (ServerNetworkOutgoing.findPeerByConnectionId s.networkState m.connectionId).isNone ||
                decide (x.clientLastAckedSnapshotId ≤ x.serverNextSnapshotId)
  | _ => true

-- ============================================================================
-- One step
-- ============================================================================

/-- What a step can do to the acknowledged id of the session of `c`, and to the id it
    is compared with. -/
inductive AckChange (s : System Peer) (c : ConnectionId) : Action Peer → ClientSession → Prop
  | kept {a : Action Peer} {x y : ClientSession}
      (found : s.networkState.sessions.lookup c = some x)
      (acked : y.clientLastAckedSnapshotId = x.clientLastAckedSnapshotId)
      (lastSent : y.serverLastSentSnapshotId = x.serverLastSentSnapshotId) : AckChange s c a y
  | opened {oracle : HelloOracle} {rest : List NetworkINToSimulationMessage}
      (next : s.simulation.networkMessages = .clientEventConnect c :: rest) :
      AckChange s c (.handleNetwork oracle) (ClientSession.ofConnect c)
  | input {oracle : HelloOracle} {packet : ClientInputPacketUnreliable}
      {rest : List NetworkINToSimulationMessage} {x : ClientSession}
      (next : s.simulation.networkMessages = .clientInputPacketUnreliable c packet :: rest)
      (found : s.networkState.sessions.lookup c = some x) :
      AckChange s c (.handleNetwork oracle) (x.receiveInput packet)
  | numbered {c₀ : ConnectionId} {m : SimulationToNetworkOUTMessage} {p : Peer}
      {x : ClientSession} (held : s.network.heldSnapshot c₀ = some m) (own : m.connectionId = c)
      (peer : ServerNetworkOutgoing.findPeerByConnectionId s.networkState m.connectionId = some p)
      (found : s.networkState.sessions.lookup c = some x) :
      AckChange s c (.patchSnapshot c₀) x.allocateSnapshotId

variable {platform : Platform} {s s' : System Peer} {h h' : SnapshotHistory} {a : Action Peer}
  {tr es : List (Event Peer)}

omit [DecidableEq Peer] in
/-- The handling of a message of `c`. -/
theorem ackChange_handled {oracle : HelloOracle} {m : NetworkINToSimulationMessage}
    {rest : List NetworkINToSimulationMessage} {y : ClientSession}
    (next : s.simulation.networkMessages = m :: rest)
    (left : (ServerSimulation.clientStep platform.kx oracle s.networkState m
      (s.networkState.sessions.lookup m.connectionId)).1 = some y) :
    AckChange s m.connectionId (.handleNetwork oracle) y := by
  rcases ServerSimulation.clientStep_inputs _ _ _ left with
    ⟨hconnect, rfl⟩ | ⟨x, hx, ⟨_, _, hacked, hsent⟩ | ⟨packet, hinput, rfl⟩⟩
  · rw [hconnect] at next
    exact .opened next
  · exact .kept hx hacked hsent
  · rw [hinput] at next
    exact .input next hx

/-- Every step changes a session in one of these ways. -/
theorem System.Steps.ackChange (hs : System.Steps platform s a s' es) {c : ConnectionId}
    {y : ClientSession} (hy : s'.networkState.sessions.lookup c = some y) :
    AckChange s c a y := by
  by_cases ha : ∃ c₀, a = .patchSnapshot c₀
  · obtain ⟨c₀, rfl⟩ := ha
    cases hs with
    | skipSnapshot => exact .kept hy rfl rfl
    | patchSnapshot outgoing _ next peer found =>
        simp only [NetworkState.lookup_setSession _ found] at hy
        split at hy
        · rename_i hc
          subst hc
          obtain rfl := Option.some.inj hy
          exact .numbered (by rw [outgoing]; exact next) rfl peer found
        · exact .kept hy rfl rfl
  · have hchange := hs.session c
    rw [hy] at hchange
    cases hchange with
    | same kept => exact .kept kept.symm rfl rfl
    | handled own next left =>
        subst own
        exact ackChange_handled next left
    | @replied reply _ x _ _ found =>
        obtain ⟨_, _, _, _, _, hreply⟩ := x.applyAuthResponse_eq reply.authTokenVerificationResponse
        rw [hreply]
        exact .kept found rfl rfl
    | encrypted _ _ _ _ found => exact .kept found rfl rfl
    | snapshot => exact absurd ⟨_, rfl⟩ ha

omit [DecidableEq Peer] in
/-- What the condition asks of an input. -/
theorem System.acksSanely_input {oracle : HelloOracle} {c : ConnectionId}
    {packet : ClientInputPacketUnreliable} {rest : List NetworkINToSimulationMessage}
    {x : ClientSession} (hok : s.acksSanely (.handleNetwork oracle) = true)
    (next : s.simulation.networkMessages = .clientInputPacketUnreliable c packet :: rest)
    (found : s.networkState.sessions.lookup c = some x) :
    x.clientLastAckedSnapshotId ≤ packet.lastReceivedSnapshotId ∧
      packet.lastReceivedSnapshotId ≤ x.serverLastSentSnapshotId := by
  simpa [System.acksSanely, next, found] using hok

/-- What an input leaves of the two ids. -/
theorem ClientSession.receiveInput_acked (x : ClientSession)
    (packet : ClientInputPacketUnreliable) :
    (x.receiveInput packet).clientLastAckedSnapshotId = packet.lastReceivedSnapshotId ∧
      (x.receiveInput packet).serverLastSentSnapshotId = x.serverLastSentSnapshotId := by
  obtain ⟨_, _, hinput⟩ := x.receiveInput_eq packet
  rw [hinput]
  exact ⟨rfl, rfl⟩

/-- An input keeps the acknowledgement sane exactly if it meets the condition. -/
theorem ClientSession.receiveInput_sane_iff (x : ClientSession)
    (packet : ClientInputPacketUnreliable) :
    (x.clientLastAckedSnapshotId ≤ (x.receiveInput packet).clientLastAckedSnapshotId ∧
      (x.receiveInput packet).clientLastAckedSnapshotId ≤
        (x.receiveInput packet).serverLastSentSnapshotId) ↔
    (x.clientLastAckedSnapshotId ≤ packet.lastReceivedSnapshotId ∧
      packet.lastReceivedSnapshotId ≤ x.serverLastSentSnapshotId) := by
  rw [(x.receiveInput_acked packet).1, (x.receiveInput_acked packet).2]

-- ============================================================================
-- Whole runs
-- ============================================================================

/-- No session has acknowledged more than was sent to it. -/
def AcksBounded (s : System Peer) : Prop :=
  ∀ c x, s.networkState.sessions.lookup c = some x →
    x.clientLastAckedSnapshotId ≤ x.serverLastSentSnapshotId

theorem AcksBounded.step (inv : AcksBounded s) (hs : System.Steps platform s a s' es)
    (hok : s.acksSanely a = true) : AcksBounded s' := by
  intro c y hy
  cases hs.ackChange hy with
  | kept found acked lastSent =>
      rw [acked, lastSent]
      exact inv c _ found
  | opened => exact UInt32.le_refl 0
  | input next found =>
      exact ((ClientSession.receiveInput_sane_iff _ _).mpr
        (System.acksSanely_input hok next found)).2
  | @numbered c₀ m p x held own peer found =>
      subst own
      simp only [System.acksSanely, held, found, peer, Option.isNone_some, Bool.false_or,
        decide_eq_true_eq] at hok
      exact hok

theorem acksBounded_of_run (hr : (serverWithSnapshots Peer platform).Run
      (fun s _ a => s.1.acksSanely a = true) (s, h) tr) : AcksBounded s :=
  TraceMachine.Run.invariant (M := serverWithSnapshots Peer platform)
    (P := fun s _ => AcksBounded s.1)
    (by simp [AcksBounded, serverWithSnapshots, TraceMachine.withHistory, server, System.init])
    (fun _ _ _ _ _ _ inv hok hs =>
      inv.step (System.step_cases (TraceMachine.withHistory_step hs).1) hok) hr

/-- A step that meets the condition takes no acknowledgement back. -/
theorem acksKept_step (hs : (serverWithSnapshots Peer platform).step (s, h) a =
      some ((s', h'), es)) (hok : s.acksSanely a = true) : AcksKept s h s' h' := by
  obtain ⟨hstep, rfl⟩ := TraceMachine.withHistory_step hs
  intro c x y hx hy hlives
  cases (System.step_cases hstep).ackChange hy with
  | kept found acked =>
      obtain rfl := Option.some.inj (hx.symm.trans found)
      exact acked ▸ UInt32.le_refl _
  | opened next =>
      -- another session of the id
      have hopened : (h.opened c).lives c = h.lives c + 1 := Function.update_self _ _ _
      simp only [SnapshotHistory.record, next] at hlives
      omega
  | input next found =>
      obtain rfl := Option.some.inj (hx.symm.trans found)
      exact ((ClientSession.receiveInput_sane_iff _ _).mpr
        (System.acksSanely_input hok next found)).1
  | numbered _ _ _ found =>
      obtain rfl := Option.some.inj (hx.symm.trans found)
      exact UInt32.le_refl _

/-- As long as each input handled acknowledges no less than the one before and no more
    than was sent, the acknowledgements are sane in every state, and no step takes one
    back. -/
theorem acks_sane (hr : (serverWithSnapshots Peer platform).Run
      (fun s _ a => s.1.acksSanely a = true) (s, h) tr) :
    AcksSane s h ∧
    ∀ a s' h' es, s.acksSanely a = true →
      (serverWithSnapshots Peer platform).step (s, h) a = some ((s', h'), es) →
      AcksKept s h s' h' := by
  refine ⟨?_, fun a s' h' es hok hs => acksKept_step hs hok⟩
  intro c x hx
  have hle := acksBounded_of_run hr c x hx
  have numbering := NumberingInv.of_reach hr.reach
  refine ⟨hle, or_iff_not_imp_left.mpr fun hzero => ?_⟩
  rw [numbering.allocated c]
  rw [(numbering.counters c x hx).2] at hle
  exact mem_firstSnapshotIds hzero hle

/-- An input packet with sequence number `n` that acknowledges the snapshot `id`. -/
def Action.soloAck (n id : UInt8) : List (Action Unit) :=
  Action.soloReceive 3 ([0, 0, 0, 0, n] ++ [0, 0, 0, id] ++ List.replicate 6 0)

/-- A snapshot is sent to the authenticated client, which sends an input; the
    snapshots of the next tick follow. -/
def ackingRun (id : UInt8) : List (Action Unit) :=
  Action.soloEndTick Action.soloAuthenticated 0 ++
    [.beginOutgoing, .sendReliable {}, .sendReliable {}, .sendReliable {}, .patchSnapshot 1,
      .sendSnapshot {}, .endOutgoing] ++ Action.soloAck 1 id ++ Action.soloTick 4 1

theorem ackingRun_runs :
    ((serverWithSnapshots Unit soloPlatform).exec (fun s _ a => s.1.acksSanely a = true)
      (ackingRun 1)).isSome = true := by
  decide +kernel

/-- The state with its past, and the trace, when the client acknowledges snapshot 1. -/
def ackingResult : (System Unit × SnapshotHistory) × List (Event Unit) :=
  ((serverWithSnapshots Unit soloPlatform).exec (fun s _ a => s.1.acksSanely a = true)
    (ackingRun 1)).get ackingRun_runs

/-- Snapshot 1 has been allocated for the client, and acknowledged by it. -/
theorem acking_sane :
    (ackingResult.1.1.networkState.sessions.lookup 1).map (·.clientLastAckedSnapshotId) =
        some 1 ∧
      (1 : UInt32) ∈ ackingResult.1.2.allocated 1 := by
  have hr : (serverWithSnapshots Unit soloPlatform).Run
      (fun s _ a => s.1.acksSanely a = true)
      (ackingResult.1.1, ackingResult.1.2) ackingResult.2 := by
    rw [Prod.mk.eta]
    exact TraceMachine.run_get ackingRun_runs
  have hacked : (ackingResult.1.1.networkState.sessions.lookup 1).map
      (·.clientLastAckedSnapshotId) = some 1 := by
    decide +kernel
  obtain ⟨x, hx, hid⟩ := Option.map_eq_some_iff.mp hacked
  have hsane := ((acks_sane hr).1 1 x hx).2
  rw [hid] at hsane
  exact ⟨hacked, hsane.resolve_left (by decide)⟩

theorem forgingRun_runs :
    ((serverWithSnapshots Unit soloPlatform).exec (fun _ _ _ => True) (ackingRun 9)).isSome =
      true := by
  decide +kernel

/-- The state with its past, and the trace, when the client acknowledges snapshot 9. -/
def forgingResult : (System Unit × SnapshotHistory) × List (Event Unit) :=
  ((serverWithSnapshots Unit soloPlatform).exec (fun _ _ _ => True) (ackingRun 9)).get
    forgingRun_runs

/-- Snapshot 9 counts as acknowledged, when only snapshot 1 has been sent. -/
theorem forging_not_sane :
    (serverWithSnapshots Unit soloPlatform).Reach (forgingResult.1.1, forgingResult.1.2)
        forgingResult.2 ∧
      ¬ AcksSane forgingResult.1.1 forgingResult.1.2 := by
  refine ⟨?_, ?_⟩
  · rw [Prod.mk.eta]
    exact TraceMachine.run_get forgingRun_runs
  intro hsane
  have hids : (forgingResult.1.1.networkState.sessions.lookup 1).map
      (fun x => (x.clientLastAckedSnapshotId, x.serverLastSentSnapshotId)) = some (9, 1) := by
    decide +kernel
  obtain ⟨x, hx, hid⟩ := Option.map_eq_some_iff.mp hids
  obtain ⟨hacked, hsent⟩ := Prod.mk.inj hid
  have hle := (hsane 1 x hx).1
  rw [hacked, hsent] at hle
  exact absurd hle (by decide)

end RcnetServer
