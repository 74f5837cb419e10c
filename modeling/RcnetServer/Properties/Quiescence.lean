/-
  RcnetServer.Properties.Quiescence

  The server can always be brought to rest.

  From every reachable state the threads, doing only their own work and two more
  ticks and a pass, get to a state in which every queue, batch and outbox is empty
  (`System.AtRest`): the pass in progress ends, then the tick, a tick takes what is
  queued, the HTTP thread answers its requests, a tick applies the replies, and a
  pass sends what is left.  At rest nothing is half done: sessions and connection
  table have the same keys, no session waits for a verdict, every packet let in has
  been handled and every reliable message has been through a pass.
-/

import RcnetServer.System.Authentication
import RcnetServer.System.MatchPhases
import RcnetServer.System.Progress

namespace RcnetServer

variable {Peer : Type}

/-- Every queue, batch and outbox is empty, and every thread idle. -/
structure System.AtRest (s : System Peer) : Prop where
  network : s.network = .idle
  tick : s.TickDone
  http : s.HttpDone
  netToSim : s.netToSim = []
  simToNet : s.simToNet = []
  httpToSim : s.httpToSim = []

/-- Tick `t` has begun and taken the batches that were queued. -/
def System.dispatching (s : System Peer) (t : UInt64) : System Peer :=
  { s with
    netToSim := []
    httpToSim := []
    simulation :=
      { s.simulation with
        phase := .dispatch
        currentTick := t
        networkMessages := s.netToSim
        httpMessages := s.httpToSim } }

variable [DecidableEq Peer] {platform : Platform} {outside : Outside Peer} {s s' : System Peer}
  {a : Action Peer} {tr es : List (Event Peer)}

-- ============================================================================
-- One thread after the other
-- ============================================================================

section Threads

variable {I : System Peer → Prop}

/-- A pass comes to its end. -/
theorem pass_settles
    (keep : ∀ s a s' es, I s → a.OfPass → System.Steps platform s a s' es → I s') (hs : I s) :
    (server Peer platform).Settles (System.Unhindered outside) s
      fun s' => I s' ∧ s'.network = .idle := by
  have hsettles : (server Peer platform).Settles (fun s a => a.OfPass ∧ s.Answered outside a) s
      fun s' => I s' ∧ s'.network = .idle :=
    TraceMachine.settles (fun s => s.network.work) (fun _ h => pass_unstuck platform outside h)
      (fun _ _ _ _ ha h => pass_works (System.step_cases h) ha.1)
      (fun _ _ _ _ hI ha h => keep _ _ _ _ hI ha.1 (System.step_cases h)) hs
  exact hsettles.mono fun _ _ ha => ⟨.work (Or.inl ha.1), ha.2⟩

/-- A tick comes to its end. -/
theorem tick_settles
    (keep : ∀ s a s' es, I s → a.OfTick → System.Steps platform s a s' es → I s') (hs : I s) :
    (server Peer platform).Settles (System.Unhindered outside) s fun s' => I s' ∧ s'.TickDone := by
  have hsettles : (server Peer platform).Settles (fun s a => a.OfTick ∧ s.Answered outside a) s
      fun s' => I s' ∧ s'.TickDone :=
    TraceMachine.settles (fun s => s.simulation.work) (fun _ h => tick_unstuck platform outside h)
      (fun _ _ _ _ ha h => tick_works (System.step_cases h) ha.1)
      (fun _ _ _ _ hI ha h => keep _ _ _ _ hI ha.1 (System.step_cases h)) hs
  exact hsettles.mono fun _ _ ha => ⟨.work (Or.inr (Or.inl ha.1)), ha.2⟩

/-- The HTTP thread answers everything it has been asked. -/
theorem worker_settles
    (keep : ∀ s a s' es, I s → a.OfWorker → System.Steps platform s a s' es → I s') (hs : I s) :
    (server Peer platform).Settles (System.Unhindered outside) s fun s' => I s' ∧ s'.HttpDone := by
  have hsettles : (server Peer platform).Settles (fun s a => a.OfWorker ∧ s.Answered outside a) s
      fun s' => I s' ∧ s'.HttpDone :=
    TraceMachine.settles (fun s => s.httpWork) (fun _ h => worker_unstuck platform outside h)
      (fun _ _ _ _ ha h => worker_works h ha.1)
      (fun _ _ _ _ hI ha h => keep _ _ _ _ hI ha.1 (System.step_cases h)) hs
  exact hsettles.mono fun _ _ ha => ⟨.work (Or.inr (Or.inr ha.1)), ha.2⟩

/-- A tick begins, and takes what is queued for it. -/
theorem tick_begins (done : s.TickDone) {t : UInt64} (onwards : s.simulation.currentTick ≤ t) :
    (server Peer platform).Settles (System.Unhindered outside) s (· = s.dispatching t) := by
  have hbegin : (server Peer platform).step s (.beginTick t) = some
      ({ s with
          netToSim := []
          simulation :=
            { s.simulation with
              phase := .drainHttp
              currentTick := t
              networkMessages := s.netToSim } }, []) := by
    simp [server, System.step, System.beginTick, done.1, done.2]
  refine .of_step ⟨.beginTick t, onwards⟩ hbegin ?_
  exact .of_step ⟨.work (Or.inr (Or.inl .drainHttp)), trivial⟩ rfl (.of_done rfl)

/-- A tick can begin, and ends, where `I` is kept by its steps. -/
theorem new_tick_settles (done : s.TickDone)
    (keep : ∀ s a s' es, I s → a.OfTick → System.Steps platform s a s' es → I s')
    (hs : I (s.dispatching s.simulation.currentTick)) :
    (server Peer platform).Settles (System.Unhindered outside) s fun s' => I s' ∧ s'.TickDone := by
  refine (tick_begins done (UInt64.le_refl _)).trans ?_
  rintro _ rfl
  exact tick_settles keep hs

end Threads

-- ============================================================================
-- All of them
-- ============================================================================

/-- What one more tick leaves alone when no packet waits for it. -/
structure System.NoPackets (s : System Peer) : Prop where
  network : s.network = .idle
  netToSim : s.netToSim = []
  http : s.HttpDone
  networkMessages : s.simulation.networkMessages = []
  httpOutbox : s.simulation.httpOutbox = []
  httpToSim : s.httpToSim = []

/-- A tick without packets asks the backend nothing, and takes the replies. -/
theorem System.NoPackets.step (inv : s.NoPackets) (ha : a.OfTick)
    (h : System.Steps platform s a s' es) : s'.NoPackets := by
  cases ha with
  | drainHttp => cases h with
    | drainHttp => exact { inv with httpToSim := rfl }
  | handleNetwork => cases h with
    | handleNetwork next => cases inv.networkMessages.symm.trans next
  | simulationPushHttp => cases h with
    | simulationPushHttp next => cases inv.httpOutbox.symm.trans next
  | handleHttp => cases h with
    | handleHttp => exact { inv with }
  | checkMatchFlow => cases h with
    | checkMatchFlow => exact { inv with }
  | createSnapshots => cases h with
    | createSnapshots => exact { inv with }
  | simulationPush => cases h with
    | simulationPush => exact { inv with }

/-- From every state the threads can bring the server to rest. -/
theorem settles_atRest (outside : Outside Peer) (s : System Peer) :
    (server Peer platform).Settles (System.Unhindered outside) s System.AtRest := by
  -- the pass or the push that the network thread is in
  refine (pass_settles (I := fun _ => True) (fun _ _ _ _ _ _ _ => trivial) trivial).trans ?_
  rintro s ⟨-, hidle⟩
  -- the tick that the simulation thread is in
  refine (tick_settles (I := fun s => s.network = .idle) ?_ hidle).trans ?_
  · intro s a s' es hidle ha h
    cases ha <;> cases h <;> exact hidle
  rintro s ⟨hidle, htick⟩
  -- a tick for the packets that are queued
  refine (new_tick_settles (I := fun s => s.network = .idle ∧ s.netToSim = []) htick ?_
    ⟨hidle, rfl⟩).trans ?_
  · intro s a s' es hs ha h
    cases ha <;> cases h <;> exact hs
  rintro s ⟨⟨hidle, hempty⟩, htick⟩
  -- the requests it has made
  refine (worker_settles
    (I := fun s => s.network = .idle ∧ s.netToSim = [] ∧ s.TickDone) ?_
    ⟨hidle, hempty, htick⟩).trans ?_
  · intro s a s' es hs ha h
    cases ha <;> cases h <;> exact hs
  rintro s ⟨⟨hidle, hempty, htick⟩, hhttp⟩
  -- a tick for the replies, which makes no request
  refine (new_tick_settles (I := System.NoPackets) htick
    (fun _ _ _ _ inv ha h => inv.step ha h)
    ⟨hidle, rfl, hhttp, hempty, htick.pushed.2, rfl⟩).trans ?_
  rintro s ⟨inv, htick⟩
  -- a pass for what these ticks have made
  have hbegin : (server Peer platform).step s .beginOutgoing = some
      ({ s with
          simToNet := []
          network := .outgoing
            (ServerNetworkOutgoing.splitReliableAndCoalesceUnreliableMessages s.simToNet) },
        []) := by
    simp [server, System.step, System.beginOutgoing, inv.network]
  refine .of_step ⟨.beginOutgoing, trivial⟩ hbegin ?_
  refine TraceMachine.Settles.trans (pass_settles
    (I := fun s => s.network.pushingMessages = [] ∧ s.TickDone ∧ s.HttpDone ∧ s.netToSim = [] ∧
      s.simToNet = [] ∧ s.httpToSim = []) ?_
    ⟨rfl, htick, inv.http, inv.netToSim, rfl, inv.httpToSim⟩) ?_
  · rintro s a s' es ⟨hpass, hs⟩ ha h
    cases ha with
    | networkPush => cases h with
      | networkPush pushing => simp [pushing] at hpass
    | _ => cases h <;> exact ⟨rfl, hs⟩
  · rintro s ⟨⟨-, htick, hhttp, hempty, hsent, hreplies⟩, hidle⟩
    exact .of_done ⟨hidle, htick, hhttp, hempty, hsent, hreplies⟩

-- ============================================================================
-- At rest
-- ============================================================================

/-- At rest nothing is half done. -/
structure Settled (s : System Peer) (tr : List (Event Peer)) : Prop where
  /-- Everything that came in has been handled. -/
  handled : handledLog tr = incomingLog tr
  /-- Every request made has been answered, and the answer applied. -/
  answered : replyLog tr = requestLog tr
  /-- Every reliable message made has been through a pass. -/
  sent : reliableLog tr = onlyReliable (producedLog tr)
  /-- Sessions and connection table have the same keys. -/
  mirrored : ∀ c, (s.networkState.sessions.lookup c).isSome =
    (s.networkState.connectionIdToEnetPeer.lookup c).isSome
  /-- No session waits for its verdict. -/
  decided : ∀ c session, s.networkState.sessions.lookup c = some session →
    session.authStatus ≠ .waitingAuth

/-- A reachable state at rest has settled everything. -/
theorem System.AtRest.settled (rest : s.AtRest) (hr : (server Peer platform).Reach s tr)
    (few : FewConnects tr) : Settled s tr := by
  have fifo := FifoInv.of_reach hr
  have pipeline := PipelineInv.of_reach hr
  obtain ⟨houtbox, hrequests⟩ := rest.tick.pushed
  have hbatch := fifo.batchDone (Or.inl rest.tick.1)
  have hreplies := pipeline.batchDone (by simp [rest.tick.1])
  have hempty : s.authPipeline = [] := by
    simp [System.authPipeline, hreplies, rest.httpToSim, rest.http.1, rest.http.2, hrequests]
  have hhandled : handledLog tr = incomingLog tr := by
    rw [fifo.incoming_eq]
    simp [System.pendingNetwork, hbatch, rest.netToSim, rest.network]
  refine ⟨hhandled, ?_, ?_, ?_, ?_⟩
  · rw [pipeline.conserved, hempty, List.append_nil]
  · rw [(OutgoingInv.of_reach hr).fifo]
    simp [rest.network, rest.simToNet, houtbox]
  · intro c
    have hsession := (SessionInv.of_reach hr few).live c
    rw [hhandled, ← (TableInv.of_reach hr few).live c] at hsession
    exact Bool.eq_iff_iff.mpr hsession
  · intro c session hsession hwaiting
    have hmem := ((AuthInv.of_reach hr few).waiting c session hsession).mp hwaiting
    rw [hempty] at hmem
    cases hmem

/-- No ENet event comes in while the server works by itself. -/
theorem unhindered_silent (hp : (server Peer platform).PathBy (System.Unhindered outside) s es s') :
    incomingLog es = [] := by
  have hnone : incomingLog ([] : List (Event Peer)) = [] := rfl
  refine hp.invariant (P := fun _ es => incomingLog es = []) ?_ hnone
  intro s tr a s' es hsilent ha hs
  rw [incomingLog_append, hsilent, server_silent (System.step_cases hs) ha.1, List.append_nil]

/-- Nor does the number of connections change. -/
theorem FewConnects.of_unhindered (few : FewConnects tr)
    (hp : (server Peer platform).PathBy (System.Unhindered outside) s es s') :
    FewConnects (tr ++ es) := by
  simpa [FewConnects, unhindered_silent hp] using few

/-- From every reachable state the server can come to rest by its own work, whatever ENet,
    the signing and the backend answer and with no further ENet event, and has then
    settled everything that came in before. -/
theorem server_comes_to_rest (outside : Outside Peer) (hr : (server Peer platform).Reach s tr)
    (few : FewConnects tr) :
    ∃ es s', (server Peer platform).PathBy (System.Unhindered outside) s es s' ∧
      incomingLog es = [] ∧ s'.AtRest ∧ Settled s' (tr ++ es) := by
  have hsettles : (server Peer platform).Settles (System.Unhindered outside) s System.AtRest :=
    settles_atRest outside s
  obtain ⟨es, s', hp, hrest⟩ := hsettles
  exact ⟨es, s', hp, unhindered_silent hp, hrest,
    hrest.settled (hr.path hp.path) (few.of_unhindered hp)⟩

/-- ENet has no memory, nothing can be signed, and the backend refuses everybody. -/
def Outside.unhelpful (Peer : Type) : Outside Peer where
  Sends _ outcome := outcome.packetCreated = false
  Signs _ oracle := ∀ message key, (oracle.sign message key).code ≠ 0
  Replies _ response := response.isValid = false
  sends _ := ⟨{ packetCreated := false }, rfl⟩
  signs _ := by
    let sign : SignDetached := fun _ _ =>
      { code := -1, signature := Vector.replicate 64 0, signatureLength := 0 }
    exact ⟨{ signingOracle with sign }, by simp [sign]⟩
  replies _ := ⟨{ isValid := false }, rfl⟩

/-- Even then the run that announces a start can come to rest. -/
theorem soloAnnounced_comes_to_rest :
    ∃ es s', (server Unit soloPlatform).PathBy (System.Unhindered (.unhelpful Unit))
        soloAnnouncedResult.1 es s' ∧
      incomingLog es = [] ∧ s'.AtRest ∧ Settled s' (soloAnnouncedResult.2 ++ es) :=
  server_comes_to_rest (.unhelpful Unit) soloAnnounced_reach soloAnnounced_few

end RcnetServer
