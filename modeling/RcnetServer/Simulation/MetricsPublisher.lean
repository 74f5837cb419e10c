/-
  RcnetServer.Simulation.MetricsPublisher

  The publication of the simulation metrics
  (simulation/process/nats/publish_gameserver_simulation_etat_metrics).

  The function keeps its deadline in a static variable, `0` before the first call.
  Its catch-up loop is written with a bound on the rounds (`fuel`); `none` says that
  the loop has not ended within it.  `RCNET_SimulationEtatMetrics` belongs to the
  engine: it is the type `Metrics`, and what the engine answers to
  `rcnet_engine_getLastSimulationEtatMetrics` is part of each call.
-/

import RcnetServer.Lib.TimeWindows
import RcnetServer.Threading.Queues
import Mathlib.Algebra.Group.Nat.Defs

namespace RcnetServer

-- ============================================================================
-- The payload
-- ============================================================================

/-- `GameserverSimulationEtatMetricsPayload`. -/
structure GameserverSimulationEtatMetricsPayload (Metrics : Type) where
  serverId : UInt64 := 0
  tempsReelTraitementNetworkIncomingDispatcherSurCeTickMs : Float := 0.0
  tempsReelTraitementHttpDispatcherSurCeTickMs : Float := 0.0
  tempsReelTraitementNatsDispatcherSurCeTickMs : Float := 0.0
  tempsReelTraitementCheckMatchFlowSurCeTickMs : Float := 0.0
  tempsReelTraitementWorldSimulateSurCeTickMs : Float := 0.0
  tempsReelTraitementCreateFullSnapshotsSurCeTickMs : Float := 0.0
  simulationEtatMetrics : Metrics

/-- The message the simulation thread queues: the payload of the tick with the
    engine's metrics in it. -/
def gameserverSimulationEtatMetricsMessage {Metrics : Type}
    (payloadFromCurrentTick : GameserverSimulationEtatMetricsPayload Metrics)
    (metrics : Metrics) :
    SimulationToNatsMessage (GameserverSimulationEtatMetricsPayload Metrics) :=
  { type := .publishMessageForSubjectGameserverSimulationEtatMetrics
    subject := "gameserver.simulation.etat.metrics"
    gameserverSimulationEtatMetricsPayload :=
      { payloadFromCurrentTick with simulationEtatMetrics := metrics } }

-- ============================================================================
-- One call
-- ============================================================================

/-- `kPublishIntervalNs`. -/
def kPublishIntervalNs : UInt64 := 1000000000

/-- `do next += kPublishIntervalNs; while (next <= serverTimeNs)`. -/
def skipMissedWindows (serverTimeNs : UInt64) : Nat → UInt64 → Option UInt64
  | 0, _ => none
  | fuel + 1, nextPublishAtNs =>
      let nextPublishAtNs := nextPublishAtNs + kPublishIntervalNs
      if nextPublishAtNs ≤ serverTimeNs then skipMissedWindows serverTimeNs fuel nextPublishAtNs
      else some nextPublishAtNs

/-- The arguments of one call, and what it finds: the metrics the engine has, and
    the queue as the NATS thread has left it. -/
structure PublishCall (Metrics : Type) where
  serverTimeNs : UInt64
  payloadFromCurrentTick : GameserverSimulationEtatMetricsPayload Metrics
  lastSimulationEtatMetrics : Option Metrics
  simToNatsQueue : SimulationToNatsQueue (GameserverSimulationEtatMetricsPayload Metrics)

/-- What one call has left: the deadline and the queue. -/
structure PublishTick (Metrics : Type) where
  call : PublishCall Metrics
  nextPublishAtNs : UInt64
  simToNatsQueue : SimulationToNatsQueue (GameserverSimulationEtatMetricsPayload Metrics)

section Call

variable {Metrics : Type}

/-- `ServerSimulation_PublishGameserverSimulationEtatMetricsToNatsIfNeeded`. -/
def publishGameserverSimulationEtatMetricsToNatsIfNeeded (fuel : Nat)
    (nextPublishAtNs : UInt64) (call : PublishCall Metrics) : Option (PublishTick Metrics) :=
  if nextPublishAtNs = 0 then
    some ⟨call, call.serverTimeNs + kPublishIntervalNs, call.simToNatsQueue⟩
  else if call.serverTimeNs < nextPublishAtNs then
    some ⟨call, nextPublishAtNs, call.simToNatsQueue⟩
  else
    match skipMissedWindows call.serverTimeNs fuel nextPublishAtNs with
    | none => none
    | some nextPublishAtNs =>
        match call.lastSimulationEtatMetrics with
        | none => some ⟨call, nextPublishAtNs, call.simToNatsQueue⟩
        | some metrics =>
            some ⟨call, nextPublishAtNs, call.simToNatsQueue.push
              (gameserverSimulationEtatMetricsMessage call.payloadFromCurrentTick metrics)⟩

/-- The calls of a run, one after the other. -/
def publishCalls (fuel : Nat) (nextPublishAtNs : UInt64) :
    List (PublishCall Metrics) → Option (List (PublishTick Metrics))
  | [] => some []
  | call :: calls =>
      match publishGameserverSimulationEtatMetricsToNatsIfNeeded fuel nextPublishAtNs call with
      | none => none
      | some tick => (publishCalls fuel tick.nextPublishAtNs calls).map (tick :: ·)

end Call

-- ============================================================================
-- The catch-up loop
-- ============================================================================

section Loop

variable {start : Nat} {serverTimeNs nextPublishAtNs : UInt64}

theorem kPublishIntervalNs_toNat : kPublishIntervalNs.toNat = 10 ^ 9 := rfl

theorem toNat_add_kPublishIntervalNs (h : nextPublishAtNs.toNat < 2 ^ 64 - 10 ^ 9) :
    (nextPublishAtNs + kPublishIntervalNs).toNat = nextPublishAtNs.toNat + 10 ^ 9 := by
  rw [UInt64.toNat_add, kPublishIntervalNs_toNat, Nat.mod_eq_of_lt (by omega)]

/-- From a deadline of the grid that is past, the loop ends at the end of the window
    of the call, once the fuel covers the rest of the time range. -/
theorem skipMissedWindows_eq (fuel k : Nat)
    (hnext : nextPublishAtNs.toNat = start + k * 10 ^ 9)
    (hpast : nextPublishAtNs ≤ serverTimeNs)
    (hbound : serverTimeNs.toNat < 2 ^ 64 - 10 ^ 9)
    (hfuel : serverTimeNs.toNat - nextPublishAtNs.toNat < fuel * 10 ^ 9) :
    ∃ next, skipMissedWindows serverTimeNs fuel nextPublishAtNs = some next ∧
      next.toNat = windowEnd start (10 ^ 9) serverTimeNs.toNat := by
  induction fuel generalizing nextPublishAtNs k with
  | zero => omega
  | succ fuel ih =>
      rw [UInt64.le_iff_toNat_le] at hpast
      have hsum : (nextPublishAtNs + kPublishIntervalNs).toNat =
          nextPublishAtNs.toNat + 10 ^ 9 := toNat_add_kPublishIntervalNs (by omega)
      have hgrid : (nextPublishAtNs + kPublishIntervalNs).toNat = start + (k + 1) * 10 ^ 9 := by
        omega
      unfold skipMissedWindows
      by_cases hagain : nextPublishAtNs + kPublishIntervalNs ≤ serverTimeNs
      · have hleft := UInt64.le_iff_toNat_le.mp hagain
        simp only [if_pos hagain]
        exact ih (k + 1) hgrid hagain (by omega)
      · simp only [if_neg hagain]
        refine ⟨_, rfl, ?_⟩
        rw [UInt64.le_iff_toNat_le, hgrid] at hagain
        have hwindow : windowOf start (10 ^ 9) serverTimeNs.toNat = k := by
          rw [windowOf_eq_iff (by omega) (by omega)]
          omega
        rw [hgrid, windowEnd, hwindow]

end Loop

end RcnetServer
