/-
  RcnetServer.Properties.MatchCanStart

  Which clients a match waits for.

  With enough connections, none of them asked to disconnect, the server and its clients
  can get the match started, whatever the threads are doing, unless one of the clients
  has been refused and stays connected.  One client after the other gets ready
  (`Lobby.next`), those that are ready stay ready meanwhile, a pass over the match flow
  announces the start and a later one starts the match.  A refused client is never ready,
  and the pass that announces the start finds everybody ready (`Present.not_announced`).
-/

import RcnetServer.Properties.GettingReady
import RcnetServer.Properties.MatchPhaseOrder

namespace RcnetServer

variable {Peer : Type} [DecidableEq Peer] {platform : Platform} {s s' : System Peer}
  {a : Action Peer} {tr es : List (Event Peer)} {leaving : List Peer} {clients : Peer → Prop}
  {c : ConnectionId} {p : Peer}

-- ============================================================================
-- One client at a time
-- ============================================================================

/-- The client of `c` has declared itself ready. -/
def System.IsReady (s : System Peer) (c : ConnectionId) : Prop :=
  ∃ x, s.networkState.sessions.lookup c = some x ∧ x.isReadyForMatch = true

/-- Who is ready stays so for as long as it is connected. -/
theorem System.IsReady.kept (hready : s.IsReady c) (hr : (server Peer platform).Reach s tr)
    (hp : (server Peer platform).Path s es s') (few : FewConnects (tr ++ es))
    (htable : (s'.networkState.connectionIdToEnetPeer.lookup c).isSome = true) :
    s'.IsReady c := by
  obtain ⟨x, hx, hready⟩ := hready
  obtain ⟨y, hy, _, _, hbefore⟩ := session_before hr hp few htable hx
  exact ⟨y, hy, hbefore.ready hready⟩

-- ============================================================================
-- One after the other
-- ============================================================================

/-- The connections are those of `table`. -/
structure Present (platform : Platform) (table : UnorderedMap ConnectionId (Option Peer))
    (s : System Peer) (tr : List (Event Peer)) : Prop where
  reach : (server Peer platform).Reach s tr
  few : FewConnects tr
  same : s.networkState.connectionIdToEnetPeer = table

/-- Of the connections of `table`, those of `todo` have not been refused and are not
    leaving, and the others are ready. -/
structure Lobby (platform : Platform) (table : UnorderedMap ConnectionId (Option Peer))
    (leaving : List Peer) (todo : List ConnectionId) (s : System Peer)
    (tr : List (Event Peer)) : Prop where
  present : Present platform table s tr
  connected : ∀ c ∈ todo, (table.lookup c).isSome = true
  stay : ∀ c ∈ todo, ∀ p, table.lookup c = some (some p) → p ∉ leaving
  unrefused : ∀ c ∈ todo, ¬ s.Refused c
  ready : ∀ c, (table.lookup c).isSome = true → c ∉ todo → s.IsReady c

section Table

variable {table : UnorderedMap ConnectionId (Option Peer)} {todo : List ConnectionId}

/-- The server and its clients keep the connections. -/
theorem Present.step (present : Present platform table s tr)
    (ha : s.WithClients leaving clients a)
    (hs : (server Peer platform).step s a = some (s', es)) :
    Present platform table s' (tr ++ es) := by
  obtain ⟨htable, hnone⟩ := table_kept_of_withClients ha hs
  exact ⟨present.reach.next hs, present.few.append hnone, htable.trans present.same⟩

/-- One stage after another. -/
theorem Present.trans (present : Present platform table s tr) {D D' : System Peer → Prop}
    (h : (server Peer platform).Settles (System.Cooperates leaving fun _ => True) s D)
    (h' : ∀ s tr, Present platform table s tr → D s →
      (server Peer platform).Settles (System.Cooperates leaving fun _ => True) s D') :
    (server Peer platform).Settles (System.Cooperates leaving fun _ => True) s D' :=
  h.trans_keeping (fun _ _ _ _ _ present ha hs => present.step ha.withClients hs) present h'

/-- A connection has its slot. -/
theorem Present.online (present : Present platform table s tr)
    (hc : (table.lookup c).isSome = true)
    (hstay : ∀ p, table.lookup c = some (some p) → p ∉ leaving) :
    ∃ p, Online platform leaving (fun _ => True) c p s tr := by
  obtain ⟨peer, hpeer⟩ := Option.isSome_iff_exists.mp hc
  have htable := hpeer
  rw [← present.same] at htable
  cases peer with
  | none => exact absurd htable ((TableInv.of_reach present.reach present.few).notNull c)
  | some p => exact ⟨p, present.reach, present.few, htable, trivial, hstay p hpeer⟩

/-- At rest the sessions are those of the connections. -/
theorem Present.mirrored (present : Present platform table s tr) (rest : s.AtRest)
    (c : ConnectionId) :
    (s.networkState.sessions.lookup c).isSome = (table.lookup c).isSome := by
  rw [(rest.settled present.reach present.few).mirrored c, present.same]

/-- Nothing the server and its clients do makes anybody in the lobby unready. -/
theorem Lobby.step (lobby : Lobby platform table leaving [] s tr)
    (ha : s.Cooperates leaving (fun _ => True) a)
    (hs : (server Peer platform).step s a = some (s', es)) :
    Lobby platform table leaving [] s' (tr ++ es) := by
  have hpath : (server Peer platform).Path s es s' := .step .refl hs
  have present' := lobby.present.step ha.withClients hs
  refine ⟨present', by simp, by simp, by simp, ?_⟩
  intro c hc hdone
  refine (lobby.ready c hc hdone).kept lobby.present.reach hpath present'.few ?_
  rwa [present'.same]

/-- One stage after another, with everybody ready. -/
theorem Lobby.trans (lobby : Lobby platform table leaving [] s tr) {D D' : System Peer → Prop}
    (h : (server Peer platform).Settles (System.Cooperates leaving fun _ => True) s D)
    (h' : ∀ s tr, Lobby platform table leaving [] s tr → D s →
      (server Peer platform).Settles (System.Cooperates leaving fun _ => True) s D') :
    (server Peer platform).Settles (System.Cooperates leaving fun _ => True) s D' :=
  h.trans_keeping (fun _ _ _ _ _ lobby ha hs => lobby.step ha hs) lobby h'

/-- The first of the clients that are left gets ready. -/
theorem Lobby.next (lobby : Lobby platform table leaving (c :: todo) s tr)
    {key : KxPublicKey} {rx tx : SessionKey} (hkeys : ServerCryptoKx.computeSessionKeys platform.kx
      platform.cryptoKxState key = some (rx, tx)) :
    (server Peer platform).Settles (System.Cooperates leaving fun _ => True) s fun s' =>
      ∃ tr', Lobby platform table leaving todo s' tr' := by
  obtain ⟨p, online⟩ := lobby.present.online (lobby.connected c List.mem_cons_self)
    (lobby.stay c List.mem_cons_self)
  have hopen := lobby.unrefused c List.mem_cons_self
  obtain ⟨es, s', hp, x, hx, _, _, hready⟩ := online.ready_of_unrefused hopen hkeys
  -- meanwhile the others keep their slots, and nobody is refused
  have hkept := hp.invariant
    (P := fun s' tr => Present platform table s' tr ∧ ∀ c' ∈ todo, ¬ s'.Refused c')
    ?_ ⟨lobby.present, fun c' hc' => lobby.unrefused c' (List.mem_cons_of_mem c hc')⟩
  · obtain ⟨present', hunrefused⟩ := hkept
    refine ⟨es, s', hp, tr ++ es, present',
      fun c' hc' => lobby.connected c' (List.mem_cons_of_mem c hc'),
      fun c' hc' => lobby.stay c' (List.mem_cons_of_mem c hc'), hunrefused, ?_⟩
    intro c' hc' hdone
    by_cases hne : c' = c
    · exact hne ▸ ⟨x, hx, hready⟩
    · have hready' := lobby.ready c' hc' (by simp [hne, hdone])
      refine hready'.kept lobby.present.reach hp.path present'.few ?_
      rwa [present'.same]
  · rintro s₁ tr a s₂ es ⟨present₁, hunrefused⟩ ha hs
    exact ⟨present₁.step ha.withClients hs,
      fun c' hc' => unrefused_kept ha hs (hunrefused c' hc')⟩

/-- All of them get ready. -/
theorem Lobby.all_ready {key : KxPublicKey} {rx tx : SessionKey}
    (hkeys : ServerCryptoKx.computeSessionKeys platform.kx platform.cryptoKxState key =
      some (rx, tx))
    (lobby : Lobby platform table leaving todo s tr) :
    (server Peer platform).Settles (System.Cooperates leaving fun _ => True) s fun s' =>
      ∃ tr', Lobby platform table leaving [] s' tr' := by
  induction todo generalizing s tr with
  | nil => exact .of_done ⟨tr, lobby⟩
  | cons c todo ih =>
      refine (lobby.next hkeys).trans ?_
      rintro s' ⟨tr', lobby'⟩
      exact ih lobby'

/-- At rest the match flow finds all of them ready. -/
theorem Lobby.everyone_ready (lobby : Lobby platform table leaving [] s tr) (rest : s.AtRest)
    (enough : platform.config.maxClientsConnected ≤ UnorderedMap.size table) :
    ServerSimulation.areAllSessionsReadyForMatch platform.config s.networkState = true := by
  have hmirrored := lobby.present.mirrored rest
  refine ServerSimulation.areAllSessionsReadyForMatch_iff.mpr ⟨?_, ?_⟩
  · rwa [UnorderedMap.size_eq_of_lookup_isSome hmirrored]
  · intro c x hx
    obtain ⟨y, hy, hready⟩ := lobby.ready c (by rw [← hmirrored c, hx]; rfl) (by simp)
    obtain rfl := Option.some.inj (hx.symm.trans hy)
    exact hready

end Table

-- ============================================================================
-- The match flow
-- ============================================================================

/-- From rest, the match flow gets its pass at any tick from now on. -/
theorem match_flow_settles (rest : s.AtRest) {t : UInt64}
    (onwards : s.simulation.currentTick ≤ t) :
    (server Peer platform).Settles (System.Cooperates leaving fun _ => True) s fun s' =>
      s'.gameState = (ServerSimulation.checkMatchFlow platform.engine platform.config (fun _ => 0)
        s.networkState t s.gameState).1 := by
  have hbegins : (server Peer platform).Settles (System.Unhindered (.obliging leaving)) s
      (· = s.dispatching t) :=
    tick_begins rest.tick onwards
  refine (hbegins.mono fun _ _ ha => .byServer ha).trans ?_
  rintro _ rfl
  have hpossible : ((server Peer platform).step (s.dispatching t)
      (.checkMatchFlow s.networkState.sessions fun _ => 0)).isSome = true := by
    simp [server, System.step, System.checkMatchFlow, System.dispatching,
      System.simulationHasPushed, rest.tick.pushed, rest.netToSim, rest.httpToSim]
  obtain ⟨⟨s', es⟩, hs⟩ := Option.isSome_iff_exists.mp hpossible
  refine .of_step (.byServer ⟨.work (Or.inr (Or.inl (.checkMatchFlow _ _))), trivial⟩) hs
    (.of_done ?_)
  have h : System.Steps platform (s.dispatching t)
      (.checkMatchFlow s.networkState.sessions fun _ => 0) s' es := System.step_cases hs
  cases h with
  | checkMatchFlow => rfl

omit [DecidableEq Peer] in
/-- A pass leaves the start announced exactly if it was announced before or everybody is
    ready. -/
theorem ServerSimulation.checkMatchFlow_matchStartSent_iff {engine : Engine}
    {config : ServerConfig} {clock : Nat → UInt64} {networkState : NetworkState Peer}
    {currentTick : UInt64} {gameState : GameState} :
    (checkMatchFlow engine config clock networkState currentTick gameState).1.matchStartSent =
        true ↔
      gameState.matchStartSent = true ∨ areAllSessionsReadyForMatch config networkState = true := by
  by_cases hsize : UnorderedMap.size networkState.sessions < config.maxClientsConnected
  · simp [checkMatchFlow_of_lt hsize, areAllSessionsReadyForMatch, hsize]
  · rw [checkMatchFlow_of_le (by omega)]
    cases hsent : gameState.matchStartSent <;>
      cases hready : areAllSessionsReadyForMatch config networkState <;>
      simp [sendMatchStart, hready]

/-- The start is announced. -/
theorem Lobby.announced {table : UnorderedMap ConnectionId (Option Peer)}
    (lobby : Lobby platform table leaving [] s tr)
    (enough : platform.config.maxClientsConnected ≤ UnorderedMap.size table) :
    (server Peer platform).Settles (System.Cooperates leaving fun _ => True) s fun s' =>
      s'.gameState.matchStartSent = true := by
  refine lobby.trans ((settles_atRest (.obliging leaving) s).mono
    fun _ _ ha => .byServer ha) ?_
  intro s₁ tr₁ lobby₁ rest₁
  refine (match_flow_settles rest₁ (UInt64.le_refl _)).trans ?_
  intro s₂ hstate
  refine .of_done ?_
  rw [hstate, ServerSimulation.checkMatchFlow_matchStartSent_iff]
  exact Or.inr (lobby₁.everyone_ready rest₁ enough)

/-- And once its tick has come, the match starts. -/
theorem Present.started {table : UnorderedMap ConnectionId (Option Peer)}
    (present : Present platform table s tr)
    (enough : platform.config.maxClientsConnected ≤ UnorderedMap.size table)
    (hsent : s.gameState.matchStartSent = true) :
    (server Peer platform).Settles (System.Cooperates leaving fun _ => True) s fun s' =>
      s'.gameState.matchStarted = true := by
  have hsettles : (server Peer platform).Settles (System.Unhindered (.obliging leaving)) s
      System.AtRest :=
    settles_atRest (.obliging leaving) s
  obtain ⟨es, s₁, hp, rest₁⟩ := hsettles
  have hsent₁ : s₁.gameState.matchStartSent = true :=
    (flagsKept_of_path hp.path).sent .serverMatchStartPacketReliable hsent
  refine present.trans (D := fun s' => s'.AtRest ∧ s'.gameState.matchStartSent = true)
    ⟨es, s₁, hp.mono fun _ _ ha => .byServer ha, rest₁, hsent₁⟩ ?_
  rintro s₁ tr₁ present₁ ⟨rest₁, hsent₁⟩
  have hsize : platform.config.maxClientsConnected ≤
      UnorderedMap.size s₁.networkState.sessions := by
    rwa [UnorderedMap.size_eq_of_lookup_isSome (present₁.mirrored rest₁)]
  -- a tick that is neither over nor before the one announced
  obtain ⟨t, onwards, hreached⟩ : ∃ t, s₁.simulation.currentTick ≤ t ∧
      s₁.gameState.matchStartTick ≤ t :=
    (UInt64.le_total s₁.simulation.currentTick s₁.gameState.matchStartTick).elim
      (fun h => ⟨_, h, UInt64.le_refl _⟩) fun h => ⟨_, UInt64.le_refl _, h⟩
  refine (match_flow_settles rest₁ onwards).trans ?_
  intro s₂ hstate
  refine .of_done ?_
  obtain ⟨hkept, htick⟩ := ServerSimulation.checkMatchFlow_of_sent hsent₁
  rw [hstate, ServerSimulation.checkMatchFlow_matchStarted_iff hsize]
  exact Or.inr ⟨hkept, htick ▸ hreached⟩

-- ============================================================================
-- Whom it waits for
-- ============================================================================

/-- The start is announced in a pass that finds everybody ready. -/
theorem System.Steps.everyone_ready (h : System.Steps platform s a s' es)
    (hbefore : s.gameState.matchStartSent = false) (hafter : s'.gameState.matchStartSent = true)
    {x : ClientSession} (hx : s.networkState.sessions.lookup c = some x) :
    x.isReadyForMatch = true := by
  by_cases ha : ∀ order clock, a ≠ .checkMatchFlow order clock
  · rw [h.gameState_kept ha, hbefore] at hafter
    cases hafter
  · push Not at ha
    obtain ⟨order, clock, rfl⟩ := ha
    cases h with
    | checkMatchFlow _ _ _ _ perm =>
        rcases ServerSimulation.checkMatchFlow_matchStartSent_iff.mp hafter with hsent | hready
        · cases hbefore.symm.trans hsent
        · exact (ServerSimulation.areAllSessionsReadyForMatch_iff.mp hready).2 c x
            ((AList.perm_lookup perm).trans hx)

/-- As long as a refused client stays connected the start is not announced. -/
theorem Present.not_announced {table : UnorderedMap ConnectionId (Option Peer)}
    (present : Present platform table s tr) (hc : (table.lookup c).isSome = true)
    (hrefused : s.Refused c) (hbefore : s.gameState.matchStartSent = false)
    (hp : (server Peer platform).PathBy (fun s a => ∃ leaving, s.WithClients leaving clients a)
      s es s') :
    Present platform table s' (tr ++ es) ∧ s'.gameState.matchStartSent = false := by
  have hkept := hp.invariant
    (P := fun s tr => Present platform table s tr ∧ System.Refused s c ∧
      s.gameState.matchStartSent = false) ?_ ⟨present, hrefused, hbefore⟩
  · exact ⟨hkept.1, hkept.2.2⟩
  · rintro s tr a s' es ⟨present, hrefused, hbefore⟩ ⟨_, ha⟩ hs
    have present' := present.step ha hs
    refine ⟨present', hrefused.step present.reach hs present'.few (by rwa [present'.same]), ?_⟩
    obtain ⟨x, hx, hnot⟩ :=
      hrefused.not_ready present.reach present.few (by rwa [present.same])
    by_contra hafter
    rw [Bool.not_eq_false] at hafter
    have hready := (System.step_cases hs).everyone_ready hbefore hafter hx
    cases hnot.symm.trans hready

/-- From every reachable state with enough connections, none of them asked to disconnect,
    the server and its clients can get the match started if and only if its start has been
    announced or none of the connected clients has been refused. -/
theorem match_can_start_iff {h : RejectionHistory Peer}
    (hr : (serverWithRejections Peer platform).Reach (s, h) tr) (few : FewConnects tr)
    (enough : platform.config.maxClientsConnected ≤
      UnorderedMap.size s.networkState.connectionIdToEnetPeer)
    (hstay : ∀ c p, s.networkState.connectionIdToEnetPeer.lookup c = some (some p) →
      p ∉ h.leaving)
    {key : KxPublicKey} {rx tx : SessionKey} (hkeys : ServerCryptoKx.computeSessionKeys
      platform.kx platform.cryptoKxState key = some (rx, tx)) :
    (serverWithRejections Peer platform).Settles
        (fun r a => r.1.WithClients r.2.leaving (fun _ => True) a) (s, h)
        (fun r => r.1.gameState.matchStarted = true) ↔
      s.gameState.matchStartSent = true ∨
        ∀ c, (s.networkState.connectionIdToEnetPeer.lookup c).isSome = true → ¬ s.Refused c := by
  have hr' : (server Peer platform).Reach s tr := hr.of_withHistory
  have present : Present platform s.networkState.connectionIdToEnetPeer s tr := ⟨hr', few, rfl⟩
  constructor
  · rintro ⟨es, r, hp, hstarted⟩
    by_contra hnot
    push Not at hnot
    obtain ⟨hbefore, c, hc, hrefused⟩ := hnot
    have hp' : (server Peer platform).PathBy
        (fun s a => ∃ leaving, System.WithClients leaving (fun _ => True) s a) s es r.1 :=
      hp.of_withHistory.mono fun _ _ ⟨_, ha⟩ => ⟨_, ha⟩
    obtain ⟨present', hunsent⟩ :=
      present.not_announced hc hrefused (by simpa using hbefore) hp'
    -- a match that is started has been announced
    obtain ⟨messages, hrun, -⟩ := matchFlow_of_reach present'.reach
    have hsent := (MatchPass.phasesInOrder_of_run hrun).started hstarted
    cases hunsent.symm.trans hsent
  · intro hclear
    suffices hsettles : (server Peer platform).Settles
        (System.Cooperates h.leaving fun _ => True) s fun s' => s'.gameState.matchStarted = true by
      obtain ⟨es, r, hp, hstarted, -⟩ := settles_with_rejections hr' few hsettles
      exact ⟨es, r, hp, hstarted⟩
    rcases hclear with hsent | hopen
    · exact present.started enough hsent
    · have lobby : Lobby platform s.networkState.connectionIdToEnetPeer h.leaving
          s.networkState.connectionIdToEnetPeer.keys s tr := by
        have hmem : ∀ c, c ∈ s.networkState.connectionIdToEnetPeer.keys ↔
            (s.networkState.connectionIdToEnetPeer.lookup c).isSome = true :=
          fun c => AList.lookup_isSome.symm
        refine ⟨present, fun c hc => (hmem c).mp hc, fun c _ => hstay c,
          fun c hc => hopen c ((hmem c).mp hc), ?_⟩
        exact fun c hc hnotMem => absurd ((hmem c).mpr hc) hnotMem
      refine (lobby.all_ready hkeys).trans ?_
      rintro s₁ ⟨tr₁, lobby₁⟩
      refine lobby₁.trans (lobby₁.announced enough) ?_
      intro s₂ tr₂ lobby₂ hsent
      exact lobby₂.present.started enough hsent

/-- The match of the solo deployment can be started once its client has connected. -/
theorem soloConnected_can_start :
    (serverWithRejections Unit soloPlatform).Settles
      (fun r a => r.1.WithClients r.2.leaving (fun _ => True) a) soloConnectedResult.1
      fun r => r.1.gameState.matchStarted = true := by
  have hkeys : ServerCryptoKx.computeSessionKeys soloPlatform.kx soloPlatform.cryptoKxState
      (Vector.replicate 32 7) = some (Vector.replicate 32 7, Vector.replicate 32 7) := rfl
  have hnobody : soloConnectedResult.1.2.leaving = [] := by decide +kernel
  refine (match_can_start_iff (s := soloConnectedResult.1.1) (h := soloConnectedResult.1.2)
    soloConnected_reach soloConnected_few (by decide +kernel) (fun c p _ => by simp [hnobody])
    hkeys).mpr (Or.inr ?_)
  intro c hc
  have hconnected : soloConnectedResult.1.1.networkState.connectionIdToEnetPeer.keys = [1] := by
    decide +kernel
  have hmem := AList.lookup_isSome.mp hc
  rw [AList.mem_keys, hconnected, List.mem_singleton] at hmem
  refine System.not_refused_of_plain soloConnected_reach.of_withHistory soloConnected_few hc ?_
  rw [hmem]
  decide +kernel

end RcnetServer
