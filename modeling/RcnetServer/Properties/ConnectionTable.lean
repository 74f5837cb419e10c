/-
  RcnetServer.Properties.ConnectionTable

  The connection table is a bijection between ids and connected slots.

  The two tables and the `data` pointers of the slots are written apart from each
  other; `TableInv` keeps them together over every run in which the id counter
  has not wrapped.
-/

import RcnetServer.System.Connects

namespace RcnetServer

variable {Peer : Type} [DecidableEq Peer] {platform : Platform}

/-- Before the id counter wraps: the two tables have the same keys, 0 is none of
    them, a key maps to the slot that carries it, and to no other key's slot; a
    DISCONNECT takes out the entry of its own slot and no other; and a packet of a
    connected slot is validated with the id given at the last CONNECT of the slot. -/
theorem connection_table_bijection {s : System Peer} {connects : List (AcceptedConnect Peer)}
    {tr : List (Event Peer)} (hr : (serverWithConnects Peer platform).Reach (s, connects) tr)
    (few : FewConnects tr) :
    (∀ c, (s.networkState.connectionIdToEncryptionEnabled.lookup c).isSome =
      (s.networkState.connectionIdToEnetPeer.lookup c).isSome) ∧
    s.networkState.connectionIdToEnetPeer.lookup 0 = none ∧
    (∀ c peer, c ≠ 0 → (s.networkState.connectionIdToEnetPeer.lookup c = some peer ↔
      ∃ p, peer = some p ∧ (s.peers p).data = dataOfConnectionId c)) ∧
    (∀ c c' peer, s.networkState.connectionIdToEnetPeer.lookup c = some peer →
      s.networkState.connectionIdToEnetPeer.lookup c' = some peer → c = c') ∧
    (∀ event p s' es, event.peer = some p →
      event.type = .disconnect ∨ event.type = .disconnectTimeout →
      s.enetEvent event = some (s', es) →
      ∃ c, s.networkState.connectionIdToEnetPeer.lookup c = some (some p) ∧
        (∀ c', s'.networkState.connectionIdToEnetPeer.lookup c' =
          if c' = c then none else s.networkState.connectionIdToEnetPeer.lookup c') ∧
        ∀ c', s'.networkState.connectionIdToEncryptionEnabled.lookup c' =
          if c' = c then none else s.networkState.connectionIdToEncryptionEnabled.lookup c') ∧
    (∀ event p, event.peer = some p → (s.peers p).connected = true →
      ServerNetworkIncoming.getValidatedConnectionIdOrZero event s.networkState s.peers ≠ 0 ∧
      lastConnectionId connects p =
        some (ServerNetworkIncoming.getValidatedConnectionIdOrZero event s.networkState
          s.peers)) := by
  obtain ⟨hreach, hconnects⟩ := ConnectsInv.of_reach hr
  have inv := (TableInv.of_reach hreach few).tables
  refine ⟨inv.encryptionKeys, ?_, ?_, ?_, ?_, ?_⟩
  · cases h : s.networkState.connectionIdToEnetPeer.lookup 0 with
    | none => rfl
    | some peer =>
        cases peer with
        | none => exact absurd h (inv.notNull 0)
        | some p => exact absurd rfl ((inv.bound 0 p).mp h).1
  · intro c peer hc
    exact inv.lookup_iff hc peer
  · intro c c' peer h h'
    cases peer with
    | none => exact absurd h (inv.notNull c)
    | some p => exact inv.injective h h'
  · intro event p s' es hpeer htype hs
    exact inv.disconnect_entry hpeer htype hs
  · intro event p hpeer used
    obtain ⟨c, hlast, hdata⟩ := hconnects.carried p used
    obtain ⟨hc, _, hvalidated⟩ := inv.validated hpeer used hdata
    rw [hvalidated]
    exact ⟨hc, hlast⟩

/-- The single slot connects, disconnects and connects again. -/
def reconnectedRun : List (Action Unit) :=
  [.soloConnect, .soloDisconnect, .soloConnect]

theorem reconnectedRun_runs :
    ((serverWithConnects Unit soloPlatform).exec (fun _ _ _ => True) reconnectedRun).isSome =
      true := by
  decide +kernel

/-- The state with its CONNECT events, and the trace of the run. -/
def reconnectedResult : (System Unit × List (AcceptedConnect Unit)) × List (Event Unit) :=
  ((serverWithConnects Unit soloPlatform).exec (fun _ _ _ => True) reconnectedRun).get
    reconnectedRun_runs

/-- The packets of the slot are then validated with the second id. -/
theorem reconnected_validated :
    ServerNetworkIncoming.getValidatedConnectionIdOrZero { type := .receive, peer := some () }
      reconnectedResult.1.1.networkState reconnectedResult.1.1.peers = 2 := by
  have hr : (serverWithConnects Unit soloPlatform).Reach
      (reconnectedResult.1.1, reconnectedResult.1.2) reconnectedResult.2 :=
    TraceMachine.run_get reconnectedRun_runs
  have few : FewConnects reconnectedResult.2 := by
    unfold FewConnects
    decide +kernel
  have hlast : lastConnectionId reconnectedResult.1.2 () = some 2 := by decide +kernel
  have hused : (reconnectedResult.1.1.peers ()).connected = true := by decide +kernel
  obtain ⟨_, _, _, _, _, hvalidated⟩ := connection_table_bijection hr few
  obtain ⟨_, hgiven⟩ := hvalidated { type := .receive, peer := some () } () rfl hused
  exact Option.some.inj (hgiven.symm.trans hlast)

end RcnetServer
