/-
  RcnetServer.Properties.ConnectionIds

  Connection ids in runs of any length.

  The id counter has 32 bits and is incremented without a check.  The first
  2^32 - 1 CONNECT events get the ids 1, 2, ..., each of which is new; the next
  one gets 0, the value that stands for "no id".  So the ids of a run are safe
  exactly if it has fewer than 2^32 CONNECT events.
-/

import RcnetServer.System.Connects

namespace RcnetServer

variable {Peer : Type} [DecidableEq Peer] {platform : Platform}

/-- The id the next CONNECT is given is not 0, and no connection and no session has
    it. -/
def System.NextIdSafe (s : System Peer) : Prop :=
  s.networkState.nextConnectionId ≠ 0 ∧
  s.networkState.connectionIdToEnetPeer.lookup s.networkState.nextConnectionId = none ∧
  s.networkState.sessions.lookup s.networkState.nextConnectionId = none

/-- Connections are kept apart: the packets of a connected slot are validated with
    the id given at its last CONNECT, and its DISCONNECT takes that entry out of the
    tables and no other. -/
def System.ConnectionsServed (s : System Peer) (connects : List (AcceptedConnect Peer)) : Prop :=
  ∀ p, (s.peers p).connected = true → ∃ c, lastConnectionId connects p = some c ∧
    s.networkState.connectionIdToEnetPeer.lookup c = some (some p) ∧
    (∀ event, event.peer = some p →
      ServerNetworkIncoming.getValidatedConnectionIdOrZero event s.networkState s.peers = c) ∧
    (∀ event s' es, event.peer = some p →
      event.type = .disconnect ∨ event.type = .disconnectTimeout →
      s.enetEvent event = some (s', es) →
      ∀ c', s'.networkState.connectionIdToEnetPeer.lookup c' =
        if c' = c then none else s.networkState.connectionIdToEnetPeer.lookup c')

-- ============================================================================
-- Before the wrap
-- ============================================================================

omit [DecidableEq Peer] in
/-- An id no message has named has no session. -/
theorem SessionInv.lookup_eq_none_of_fresh {s : System Peer} {tr : List (Event Peer)}
    {c : ConnectionId} (inv : SessionInv s tr) (hfifo : FifoInv s tr)
    (hfresh : connectionPhase c (incomingLog tr) = .fresh) :
    s.networkState.sessions.lookup c = none := by
  cases hsession : s.networkState.sessions.lookup c with
  | none => rfl
  | some session =>
      have hlive := (inv.live c).mp (by simp [hsession])
      -- the handled messages are a prefix of the incoming ones
      rw [hfifo.incoming_eq] at hfresh
      have hnamed : connectionPhase c (handledLog tr) ≠ .fresh := by simp [hlive]
      exact absurd hfresh (Lifecycle.phase_ne_fresh_append _ hnamed)

/-- Before the counter wraps the next id is safe. -/
theorem nextIdSafe_of_few {s : System Peer} {tr : List (Event Peer)}
    (hr : (server Peer platform).Reach s tr) (few : FewConnects tr) : s.NextIdSafe := by
  have htable := TableInv.of_reach hr few
  have hsessions := SessionInv.of_reach hr few
  have hfresh := htable.fresh_next
  refine ⟨htable.next_ne_zero, ?_, hsessions.lookup_eq_none_of_fresh (FifoInv.of_reach hr) hfresh⟩
  cases h : s.networkState.connectionIdToEnetPeer.lookup s.networkState.nextConnectionId with
  | none => rfl
  | some peer =>
      have hlive := htable.live_of_table h
      rw [hfresh] at hlive
      cases hlive

/-- With fewer than 2^32 CONNECT events each of them was given a safe id. -/
theorem connects_safe_of_lt {s : System Peer} {connects : List (AcceptedConnect Peer)}
    {tr : List (Event Peer)} (hr : (serverWithConnects Peer platform).Reach (s, connects) tr)
    (hlt : connects.length < 2 ^ 32) : ∀ connect ∈ connects, connect.before.NextIdSafe := by
  intro connect hconnect
  obtain ⟨pre, post, rfl⟩ := List.append_of_mem hconnect
  obtain ⟨tr₀, hbefore⟩ := reached_before_connect hr pre connect post rfl
  obtain ⟨hreach, hinv⟩ := ConnectsInv.of_reach hbefore
  refine nextIdSafe_of_few hreach ?_
  have hcount := hinv.count
  simp only [List.length_append, List.length_cons] at hlt
  unfold FewConnects
  omega

-- ============================================================================
-- At the wrap
-- ============================================================================

/-- The CONNECT event after 2^32 - 1 others is given the id 0. -/
theorem connects_unsafe_of_le {s : System Peer} {connects : List (AcceptedConnect Peer)}
    {tr : List (Event Peer)} (hr : (serverWithConnects Peer platform).Reach (s, connects) tr)
    (hle : 2 ^ 32 ≤ connects.length) : ∃ connect ∈ connects, connect.connectionId = 0 := by
  have hlt : 2 ^ 32 - 1 < connects.length := by omega
  have hsplit : connects = connects.take (2 ^ 32 - 1) ++
      connects[2 ^ 32 - 1] :: connects.drop (2 ^ 32 - 1 + 1) := by
    rw [← List.drop_eq_getElem_cons hlt, List.take_append_drop]
  obtain ⟨tr₀, hbefore⟩ := reached_before_connect hr _ _ _ hsplit
  have hcounter := (ConnectsInv.of_reach hbefore).2.counter
  have hlength : (connects.take (2 ^ 32 - 1)).length + 1 = 2 ^ 32 := by
    rw [List.length_take]
    omega
  rw [hlength] at hcounter
  exact ⟨connects[2 ^ 32 - 1], List.getElem_mem hlt, hcounter⟩

/-- The ids of a run are safe exactly if it has fewer than 2^32 CONNECT events. -/
theorem connects_safe_iff {s : System Peer} {connects : List (AcceptedConnect Peer)}
    {tr : List (Event Peer)} (hr : (serverWithConnects Peer platform).Reach (s, connects) tr) :
    (∀ connect ∈ connects, connect.before.NextIdSafe) ↔ connects.length < 2 ^ 32 := by
  refine ⟨?_, connects_safe_of_lt hr⟩
  intro hsafe
  by_contra hle
  obtain ⟨connect, hconnect, hzero⟩ := connects_unsafe_of_le hr (by omega)
  exact (hsafe connect hconnect).1 hzero

-- ============================================================================
-- What safe ids are good for
-- ============================================================================

/-- Safe ids keep the tables in order, however long the run. -/
theorem boundTables_of_safe {s : System Peer} {connects : List (AcceptedConnect Peer)}
    {tr : List (Event Peer)} (hr : (serverWithConnects Peer platform).Reach (s, connects) tr)
    (hsafe : ∀ connect ∈ connects, connect.before.NextIdSafe) :
    BoundTables s.peers s.networkState := by
  refine (TraceMachine.Reach.invariant_withHistory
    (P := fun (s : System Peer) connects (_ : List (Event Peer)) =>
      (∀ connect ∈ connects, AcceptedConnect.before connect |>.NextIdSafe) →
        BoundTables s.peers s.networkState)
    (fun _ => BoundTables.init platform) ?_ hr).2 hsafe
  intro s connects tr a s' es _ ih hs hsafe
  have hkept : ∀ connect ∈ connects, connect ∈ recordConnect connects s a := by
    intro connect hconnect
    cases a with
    | enetEvent event =>
        simp only [recordConnect]
        split
        · exact List.mem_append_left _ hconnect
        · exact hconnect
    | _ => exact hconnect
  refine (ih fun connect hconnect => hsafe connect (hkept connect hconnect)).step hs ?_
  rintro event p rfl htype hpeer
  obtain ⟨hzero, htable, _⟩ := hsafe { peer := p, before := s }
    (by simp [recordConnect, htype, hpeer])
  exact ⟨hzero, htable⟩

theorem served_of_safe {s : System Peer} {connects : List (AcceptedConnect Peer)}
    {tr : List (Event Peer)} (hr : (serverWithConnects Peer platform).Reach (s, connects) tr)
    (hsafe : ∀ connect ∈ connects, connect.before.NextIdSafe) : s.ConnectionsServed connects := by
  have inv := boundTables_of_safe hr hsafe
  intro p used
  obtain ⟨c, hlast, hdata⟩ := (ConnectsInv.of_reach hr).2.carried p used
  refine ⟨c, hlast, ?_, ?_, ?_⟩
  · have hpeer : ({ type := .receive, peer := some p } : ENetEvent Peer).peer = some p := rfl
    exact (inv.validated hpeer used hdata).2.1
  · intro event hpeer
    exact (inv.validated hpeer used hdata).2.2
  · intro event s' es hpeer htype hs
    obtain ⟨c₀, hentry, hothers, _⟩ := inv.disconnect_entry hpeer htype hs
    obtain ⟨_, htable, _⟩ := inv.validated hpeer used hdata
    rw [inv.injective htable hentry]
    exact hothers

/-- In a run of any length the ids given out are safe exactly if there are fewer than
    2^32 CONNECT events; then every connection can be validated and disconnected. -/
theorem connection_ids_safe_iff {s : System Peer} {connects : List (AcceptedConnect Peer)}
    {tr : List (Event Peer)} (hr : (serverWithConnects Peer platform).Reach (s, connects) tr) :
    (((∀ connect ∈ connects, connect.before.NextIdSafe) ∧ s.ConnectionsServed connects) ↔
      connects.length < 2 ^ 32) := by
  rw [← connects_safe_iff hr]
  exact ⟨And.left, fun hsafe => ⟨hsafe, served_of_safe hr hsafe⟩⟩

theorem soloConnect_runs :
    ((serverWithConnects Unit soloPlatform).exec (fun _ _ _ => True) [.soloConnect]).isSome =
      true := by
  decide +kernel

/-- The state with its CONNECT events, and the trace, after the slot has connected. -/
def soloConnectResult : (System Unit × List (AcceptedConnect Unit)) × List (Event Unit) :=
  ((serverWithConnects Unit soloPlatform).exec (fun _ _ _ => True) [.soloConnect]).get
    soloConnect_runs

/-- The first CONNECT of the solo deployment is given an id that serves its slot. -/
theorem soloConnect_id_safe :
    soloConnectResult.1.2.length = 1 ∧
      soloConnectResult.1.1.ConnectionsServed soloConnectResult.1.2 := by
  have hr : (serverWithConnects Unit soloPlatform).Reach
      (soloConnectResult.1.1, soloConnectResult.1.2) soloConnectResult.2 :=
    TraceMachine.run_get soloConnect_runs
  have hlength : soloConnectResult.1.2.length = 1 := by decide +kernel
  refine ⟨hlength, ((connection_ids_safe_iff hr).mpr ?_).2⟩
  rw [hlength]
  decide

-- ============================================================================
-- A run that reaches the wrap
-- ============================================================================

/-- The single slot connects and disconnects `n` times. -/
def reconnectingRun (n : Nat) : List (Action Unit) :=
  (List.replicate n [.soloConnect, .soloDisconnect]).flatten

/-- A CONNECT of the free slot is handled and recorded. -/
theorem soloConnect_step {s : System Unit} (connects : List (AcceptedConnect Unit))
    (idle : s.network = .idle) (free : (s.peers ()).connected = false) :
    ∃ s' es, (serverWithConnects Unit soloPlatform).step (s, connects) .soloConnect =
        some ((s', connects ++ [{ peer := (), before := s }]), es) ∧
      s'.network = .idle ∧ (s'.peers ()).connected = true := by
  have hsome : (s.enetEvent { type := .connect, peer := some () }).isSome = true := by
    simp [System.enetEvent, idle, System.isPossibleEvent, free]
  obtain ⟨⟨s', es⟩, hstep⟩ := Option.isSome_iff_exists.mp hsome
  refine ⟨s', es, TraceMachine.withHistory_step_of connects hstep, ?_⟩
  cases (System.enetEvent_cases hstep).2 with
  | nullPeer peer => cases peer
  | connect => exact ⟨idle, by simp [System.connected]⟩
  | disconnectUnknown _ type => simp at type
  | disconnect _ type => simp at type
  | dropped type => cases type
  | protocolMismatch type => cases type
  | receive type => cases type

/-- A DISCONNECT of the connected slot is handled, whatever id the slot carries. -/
theorem soloDisconnect_step {s : System Unit} (connects : List (AcceptedConnect Unit))
    (idle : s.network = .idle) (used : (s.peers ()).connected = true) :
    ∃ s' es, (serverWithConnects Unit soloPlatform).step (s, connects) .soloDisconnect =
        some ((s', connects), es) ∧
      s'.network = .idle ∧ (s'.peers ()).connected = false := by
  have hsome : (s.enetEvent { type := .disconnect, peer := some () }).isSome = true := by
    simp [System.enetEvent, idle, System.isPossibleEvent, used]
  obtain ⟨⟨s', es⟩, hstep⟩ := Option.isSome_iff_exists.mp hsome
  refine ⟨s', es, TraceMachine.withHistory_step_of connects hstep, ?_⟩
  cases (System.enetEvent_cases hstep).2 with
  | nullPeer peer => cases peer
  | connect _ type => cases type
  | disconnectUnknown => exact ⟨idle, by simp⟩
  | disconnect => exact ⟨idle, by simp [System.disconnected]⟩
  | dropped type => cases type
  | protocolMismatch type => cases type
  | receive type => cases type

/-- However often it reconnects, the slot ends free, with as many CONNECT events. -/
theorem reconnectingRun_exec (n : Nat) :
    ∃ s connects tr,
      (serverWithConnects Unit soloPlatform).exec (fun _ _ _ => True) (reconnectingRun n) =
        some ((s, connects), tr) ∧
      s.network = .idle ∧ (s.peers ()).connected = false ∧ connects.length = n := by
  induction n with
  | zero => exact ⟨_, _, _, rfl, rfl, rfl, rfl⟩
  | succ n ih =>
      obtain ⟨s, connects, tr, hexec, idle, free, hlength⟩ := ih
      obtain ⟨s₁, es₁, hconnect, idle₁, used₁⟩ := soloConnect_step connects idle free
      obtain ⟨s₂, es₂, hdisconnect, idle₂, free₂⟩ :=
        soloDisconnect_step (connects ++ [{ peer := (), before := s }]) idle₁ used₁
      have hrun : reconnectingRun (n + 1) =
          reconnectingRun n ++ [.soloConnect, .soloDisconnect] := by
        simp [reconnectingRun, List.replicate_succ']
      refine ⟨s₂, connects ++ [{ peer := (), before := s }], tr ++ es₁ ++ es₂, ?_, idle₂, free₂,
        by rw [List.length_append, hlength, List.length_singleton]⟩
      rw [hrun]
      unfold TraceMachine.exec at hexec ⊢
      rw [TraceMachine.execFrom_append, hexec]
      simp [TraceMachine.execFrom, hconnect, hdisconnect]

/-- After 2^32 - 1 connects and disconnects of the slot, the next CONNECT is given
    the id 0. -/
theorem reconnecting_given_zero :
    ∃ s connects tr,
      (serverWithConnects Unit soloPlatform).exec (fun _ _ _ => True)
        (reconnectingRun (2 ^ 32 - 1) ++ [.soloConnect]) = some ((s, connects), tr) ∧
      ∃ connect ∈ connects, connect.connectionId = 0 ∧ ¬ connect.before.NextIdSafe := by
  obtain ⟨s, connects, tr, hexec, idle, free, hlength⟩ := reconnectingRun_exec (2 ^ 32 - 1)
  obtain ⟨s', es, hconnect, _, _⟩ := soloConnect_step connects idle free
  have hrun : (serverWithConnects Unit soloPlatform).exec (fun _ _ _ => True)
      (reconnectingRun (2 ^ 32 - 1) ++ [.soloConnect]) =
      some ((s', connects ++ [{ peer := (), before := s }]), tr ++ es) := by
    unfold TraceMachine.exec at hexec ⊢
    rw [TraceMachine.execFrom_append, hexec]
    simp [TraceMachine.execFrom, hconnect]
  have hr : (serverWithConnects Unit soloPlatform).Reach
      (s', connects ++ [{ peer := (), before := s }]) (tr ++ es) :=
    TraceMachine.run_of_exec hrun
  have hcount : (connects ++ [({ peer := (), before := s } : AcceptedConnect Unit)]).length =
      2 ^ 32 - 1 + 1 := by
    rw [List.length_append, hlength, List.length_singleton]
  have hle : 2 ^ 32 ≤ (connects ++ [({ peer := (), before := s } : AcceptedConnect Unit)]).length :=
    by omega
  obtain ⟨connect, hconnect, hzero⟩ := connects_unsafe_of_le hr hle
  exact ⟨_, _, _, hrun, connect, hconnect, hzero, fun hsafe => hsafe.1 hzero⟩

end RcnetServer
