/-
  RcnetServer.Properties.MetricsGrid

  The publication of metrics, over any run of calls.

  `gridTicks` is the rule the function is there for, with neither a deadline nor a
  loop: a call publishes when it is the first of its window.  `publishCalls_eq` says
  that the function does this, as long as no time comes within an interval of the end
  of its range; `filter_entering` turns it into the law of each window.
-/

import RcnetServer.Simulation.MetricsPublisher

namespace RcnetServer

variable {Metrics : Type}

-- ============================================================================
-- What the calls publish
-- ============================================================================

namespace PublishCall

/-- The time of the call, in nanoseconds. -/
def time (call : PublishCall Metrics) : Nat := call.serverTimeNs.toNat

/-- The window of the call, with `t0` the time of the first one. -/
def window (t0 : Nat) (call : PublishCall Metrics) : Nat := windowOf t0 (10 ^ 9) call.time

/-- In `[t0 + k * 10^9, t0 + (k + 1) * 10^9)`. -/
def inWindow (t0 k : Nat) (call : PublishCall Metrics) : Bool :=
  t0 + k * 10 ^ 9 ≤ call.time ∧ call.time < t0 + (k + 1) * 10 ^ 9

/-- The message the call publishes if it publishes: there is none without metrics. -/
def availableMessage (call : PublishCall Metrics) :
    Option (SimulationToNatsMessage (GameserverSimulationEtatMetricsPayload Metrics)) :=
  call.lastSimulationEtatMetrics.map
    (gameserverSimulationEtatMetricsMessage call.payloadFromCurrentTick)

end PublishCall

/-- What a call has added to the queue. -/
def PublishTick.published (tick : PublishTick Metrics) :
    List (SimulationToNatsMessage (GameserverSimulationEtatMetricsPayload Metrics)) :=
  tick.simToNatsQueue.q.drop tick.call.simToNatsQueue.q.length

-- ============================================================================
-- The rule
-- ============================================================================

section Rule

variable (t0 : Nat)

/-- A call that comes after one in window `w`: it publishes when its window is later. -/
def gridTick (w : Nat) (call : PublishCall Metrics) : PublishTick Metrics where
  call := call
  nextPublishAtNs := (windowEnd t0 (10 ^ 9) call.time).toUInt64
  simToNatsQueue :=
    if w < call.window t0 then
      { call.simToNatsQueue with q := call.simToNatsQueue.q ++ call.availableMessage.toList }
    else call.simToNatsQueue

def gridTicks (w : Nat) : List (PublishCall Metrics) → List (PublishTick Metrics)
  | [] => []
  | call :: calls => gridTick t0 w call :: gridTicks (call.window t0) calls

variable {t0}

@[simp] theorem gridTick_call (w : Nat) (call : PublishCall Metrics) :
    (gridTick t0 w call).call = call := rfl

@[simp] theorem gridTick_nextPublishAtNs (w : Nat) (call : PublishCall Metrics) :
    (gridTick t0 w call).nextPublishAtNs = (windowEnd t0 (10 ^ 9) call.time).toUInt64 := rfl

@[simp] theorem gridTick_published (w : Nat) (call : PublishCall Metrics) :
    (gridTick t0 w call).published =
      if w < call.window t0 then call.availableMessage.toList else [] := by
  unfold PublishTick.published gridTick
  split <;> simp

@[simp] theorem gridTicks_map_call (w : Nat) (calls : List (PublishCall Metrics)) :
    (gridTicks t0 w calls).map (·.call) = calls := by
  induction calls generalizing w with
  | nil => rfl
  | cons call calls ih => simp [gridTicks, ih]

/-- Every entry of a run under the rule is a call under the rule. -/
theorem mem_gridTicks {w : Nat} {calls : List (PublishCall Metrics)} {tick : PublishTick Metrics}
    (h : tick ∈ gridTicks t0 w calls) :
    ∃ w', ∃ call ∈ calls, tick = gridTick t0 w' call := by
  induction calls generalizing w with
  | nil => simp [gridTicks] at h
  | cons call calls ih =>
      rcases List.mem_cons.mp h with rfl | h
      · exact ⟨w, call, by simp, rfl⟩
      · obtain ⟨w', call', hcall, rfl⟩ := ih h
        exact ⟨w', call', by simp [hcall], rfl⟩

/-- The messages of the calls that meet `p` are those of the calls that enter a
    window and meet `p`. -/
theorem gridTicks_published (p : PublishCall Metrics → Bool) (w : Nat)
    (calls : List (PublishCall Metrics)) :
    ((gridTicks t0 w calls).filter fun tick => p tick.call).flatMap (·.published) =
      ((entering (·.window t0) w calls).filter p).flatMap (·.availableMessage.toList) := by
  induction calls generalizing w with
  | nil => rfl
  | cons call calls ih =>
      simp only [gridTicks, entering, List.filter_cons, gridTick_call]
      by_cases hp : p call = true
      · by_cases hnew : w < call.window t0
        · simp [hp, hnew, ih]
        · simp [hp, hnew, ih]
      · by_cases hnew : w < call.window t0
        · simp [hp, hnew, ih]
        · simp [hp, hnew, ih]

end Rule

-- ============================================================================
-- The function follows the rule
-- ============================================================================

section Refinement

variable {t0 : Nat} {fuel : Nat}

/-- The end of the window of a time in range is itself a `uint64_t`. -/
theorem toNat_windowEnd {t : Nat} (h0 : t0 ≤ t) (ht : t < 2 ^ 64 - 10 ^ 9) :
    (windowEnd t0 (10 ^ 9) t).toUInt64.toNat = windowEnd t0 (10 ^ 9) t := by
  have hin := (windowOf_eq_iff (by omega) h0).mp (rfl : windowOf t0 (10 ^ 9) t = _)
  have hlt : windowEnd t0 (10 ^ 9) t < UInt64.size := by
    rw [UInt64.size, windowEnd]
    omega
  exact UInt64.toNat_ofNat_of_lt' hlt

/-- One call, with the deadline of an earlier call at time `prev`. -/
theorem publish_eq_gridTick {prev : Nat} {call : PublishCall Metrics} (h0 : t0 ≤ prev)
    (hprev : prev ≤ call.time) (hbound : call.time < 2 ^ 64 - 10 ^ 9)
    (hfuel : 2 ^ 64 ≤ fuel * 10 ^ 9) :
    publishGameserverSimulationEtatMetricsToNatsIfNeeded fuel
        (windowEnd t0 (10 ^ 9) prev).toUInt64 call =
      some (gridTick t0 (windowOf t0 (10 ^ 9) prev) call) := by
  have htime : call.serverTimeNs.toNat = call.time := rfl
  have hdeadline := toNat_windowEnd h0 (Nat.lt_of_le_of_lt hprev hbound)
  have hafter : windowEnd t0 (10 ^ 9) prev ≤ call.time ↔
      windowOf t0 (10 ^ 9) prev < call.window t0 :=
    windowEnd_le_iff (by omega) (by omega)
  have hstarted : (windowEnd t0 (10 ^ 9) prev).toUInt64 ≠ 0 := by
    intro hzero
    have hpos : 0 < windowEnd t0 (10 ^ 9) prev := by unfold windowEnd; omega
    rw [hzero, UInt64.toNat_zero] at hdeadline
    omega
  unfold publishGameserverSimulationEtatMetricsToNatsIfNeeded gridTick
  rw [if_neg hstarted]
  by_cases hnew : windowOf t0 (10 ^ 9) prev < call.window t0
  · have hpast : (windowEnd t0 (10 ^ 9) prev).toUInt64 ≤ call.serverTimeNs := by
      rw [UInt64.le_iff_toNat_le, hdeadline, htime]
      exact hafter.mpr hnew
    obtain ⟨next, hnext, hend⟩ := skipMissedWindows_eq fuel _ hdeadline hpast
      (by rw [htime]; exact hbound) (by omega)
    have hnextEq : next = (windowEnd t0 (10 ^ 9) call.time).toUInt64 := by
      apply UInt64.toNat_inj.mp
      rw [hend, htime, toNat_windowEnd (Nat.le_trans h0 hprev) hbound]
    rw [if_neg (UInt64.not_lt.mpr hpast), hnext, if_pos hnew]
    subst hnextEq
    cases hmetrics : call.lastSimulationEtatMetrics with
    | none => simp [PublishCall.availableMessage, hmetrics]
    | some metrics => simp [PublishCall.availableMessage, hmetrics, StoppableQueue.push]
  · have hbefore : call.serverTimeNs < (windowEnd t0 (10 ^ 9) prev).toUInt64 := by
      rw [UInt64.lt_iff_toNat_lt, hdeadline, htime]
      exact Nat.lt_of_not_le (mt hafter.mp hnew)
    have hsame : call.window t0 = windowOf t0 (10 ^ 9) prev :=
      Nat.le_antisymm (Nat.le_of_not_lt hnew) (windowOf_mono hprev)
    rw [if_pos hbefore, if_neg hnew]
    unfold PublishCall.window at hsame
    rw [windowEnd, windowEnd, hsame]

theorem publishCalls_cons {nextPublishAtNs : UInt64} {call : PublishCall Metrics}
    {tick : PublishTick Metrics} {calls : List (PublishCall Metrics)}
    (h : publishGameserverSimulationEtatMetricsToNatsIfNeeded fuel nextPublishAtNs call =
      some tick) :
    publishCalls fuel nextPublishAtNs (call :: calls) =
      (publishCalls fuel tick.nextPublishAtNs calls).map (tick :: ·) := by
  rw [publishCalls, h]

/-- The calls that follow, in any number. -/
theorem publishCalls_eq {prev : Nat} {calls : List (PublishCall Metrics)} (h0 : t0 ≤ prev)
    (hsorted : (prev :: calls.map (·.time)).Pairwise (· ≤ ·))
    (hbound : ∀ call ∈ calls, call.time < 2 ^ 64 - 10 ^ 9) (hfuel : 2 ^ 64 ≤ fuel * 10 ^ 9) :
    publishCalls fuel (windowEnd t0 (10 ^ 9) prev).toUInt64 calls =
      some (gridTicks t0 (windowOf t0 (10 ^ 9) prev) calls) := by
  induction calls generalizing prev with
  | nil => rfl
  | cons call calls ih =>
      have hprev : prev ≤ call.time := List.rel_of_pairwise_cons hsorted (by simp)
      have hcall := publish_eq_gridTick h0 hprev (hbound call (by simp)) hfuel
      have hcalls := ih (by omega : t0 ≤ call.time) hsorted.of_cons
        (fun c hc => hbound c (by simp [hc]))
      rw [publishCalls_cons hcall, gridTick_nextPublishAtNs, hcalls, gridTicks, Option.map_some,
        PublishCall.window]

/-- The run from the start: the first call only sets the deadline. -/
theorem publishCalls_start {first : PublishCall Metrics} {calls : List (PublishCall Metrics)}
    (hsorted : ((first :: calls).map (·.time)).Pairwise (· ≤ ·))
    (hbound : ∀ call ∈ first :: calls, call.time < 2 ^ 64 - 10 ^ 9)
    (hfuel : 2 ^ 64 ≤ fuel * 10 ^ 9) :
    publishCalls fuel 0 (first :: calls) = some (gridTicks first.time 0 (first :: calls)) := by
  have hfirst := hbound first (by simp)
  have hdeadline : first.serverTimeNs + kPublishIntervalNs =
      (windowEnd first.time (10 ^ 9) first.time).toUInt64 := by
    apply UInt64.toNat_inj.mp
    rw [toNat_windowEnd (Nat.le_refl _) hfirst, windowEnd_start,
      toNat_add_kPublishIntervalNs hfirst]
    rfl
  have hcalls := publishCalls_eq (Nat.le_refl first.time) hsorted
    (fun c hc => hbound c (by simp [hc])) hfuel
  have hset : publishGameserverSimulationEtatMetricsToNatsIfNeeded fuel 0 first =
      some (gridTick first.time 0 first) := by
    rw [publishGameserverSimulationEtatMetricsToNatsIfNeeded, if_pos rfl, hdeadline]
    simp [gridTick, PublishCall.window]
  rw [publishCalls_cons hset, gridTick_nextPublishAtNs, hcalls, gridTicks, Option.map_some,
    PublishCall.window]

end Refinement

-- ============================================================================
-- One message a second
-- ============================================================================

/-- A run on the grid of the seconds after `t0`. -/
structure OnePerSecond (t0 : Nat) (ticks : List (PublishTick Metrics)) : Prop where
  /-- The deadline is the first time of the grid after the latest call. -/
  deadline : ∀ tick ∈ ticks,
    IsLeast {d | (∃ k, 1 ≤ k ∧ d = t0 + k * 10 ^ 9) ∧ tick.call.time < d}
      tick.nextPublishAtNs.toNat
  /-- A call does nothing to the queue but push what it publishes. -/
  pushes : ∀ tick ∈ ticks, tick.simToNatsQueue =
    { tick.call.simToNatsQueue with q := tick.call.simToNatsQueue.q ++ tick.published }
  firstCall : ∀ tick, ticks.head? = some tick → tick.published = []
  /-- All that is published in a later window is the message of its first call, if there
      is such a call and it finds metrics. -/
  window : ∀ k, 1 ≤ k →
    (ticks.filter (·.call.inWindow t0 k)).flatMap (·.published) =
      (((ticks.map (·.call)).filter (·.inWindow t0 k)).head?.bind (·.availableMessage)).toList

theorem first_le_of_mem {first call : PublishCall Metrics} {calls : List (PublishCall Metrics)}
    (hsorted : ((first :: calls).map (·.time)).Pairwise (· ≤ ·)) (hcall : call ∈ first :: calls) :
    first.time ≤ call.time := by
  rcases List.mem_cons.mp hcall with rfl | hcall
  · exact Nat.le_refl _
  · exact List.rel_of_pairwise_cons hsorted (List.mem_map.mpr ⟨call, hcall, rfl⟩)

/-- Any run of calls at times that do not go back: the catch-up loops end, and the run
    stays on the grid of its first call. -/
theorem publish_onePerSecond (first : PublishCall Metrics) (calls : List (PublishCall Metrics))
    (hsorted : ((first :: calls).map (·.time)).Pairwise (· ≤ ·))
    (hbound : ∀ call ∈ first :: calls, call.time < 2 ^ 64 - 10 ^ 9) :
    ∃ ticks, (∃ rounds, ∀ fuel, rounds ≤ fuel → publishCalls fuel 0 (first :: calls) = some ticks) ∧
      ticks.map (·.call) = first :: calls ∧ OnePerSecond first.time ticks := by
  refine ⟨gridTicks first.time 0 (first :: calls),
    ⟨2 ^ 64, fun fuel hfuel => publishCalls_start hsorted hbound (by omega)⟩,
    gridTicks_map_call 0 _, ⟨?deadline, ?pushes, ?firstCall, ?window⟩⟩
  case deadline =>
    intro tick htick
    obtain ⟨w, call, hcall, rfl⟩ := mem_gridTicks htick
    have hstart := first_le_of_mem hsorted hcall
    rw [gridTick_nextPublishAtNs, toNat_windowEnd hstart (hbound call hcall)]
    exact windowEnd_isLeast (by omega) hstart
  case pushes =>
    intro tick htick
    obtain ⟨w, call, -, rfl⟩ := mem_gridTicks htick
    rw [gridTick_published, gridTick_call, gridTick]
    split
    · rfl
    · simp
  case firstCall =>
    intro tick htick
    obtain rfl : gridTick first.time 0 first = tick := by simpa [gridTicks] using htick
    simp [PublishCall.window]
  case window =>
    intro k hk
    have hwindow : ∀ call ∈ first :: calls,
        call.inWindow first.time k = decide (call.window first.time = k) := by
      intro call hcall
      have hstart := first_le_of_mem hsorted hcall
      exact decide_eq_decide.mpr (windowOf_eq_iff (by omega) hstart).symm
    have hforward : (0 :: (first :: calls).map (·.window first.time)).Pairwise (· ≤ ·) := by
      refine List.pairwise_cons.mpr ⟨fun _ _ => Nat.zero_le _, ?_⟩
      rw [List.pairwise_map] at hsorted ⊢
      exact hsorted.imp fun hle => windowOf_mono hle
    rw [gridTicks_map_call, gridTicks_published (·.inWindow first.time k),
      List.filter_congr hwindow,
      List.filter_congr fun call hcall => hwindow call ((entering_sublist _ _ _).subset hcall),
      filter_entering _ 0 k _ hforward, if_neg (by omega)]
    cases ((first :: calls).filter fun call => call.window first.time = k).head? with
    | none => rfl
    | some call => simp

/-- A call of a server whose engine has metrics, or not. -/
def metricsCall (serverTimeNs : UInt64) (lastSimulationEtatMetrics : Option Unit) :
    PublishCall Unit :=
  ⟨serverTimeNs, { simulationEtatMetrics := () }, lastSimulationEtatMetrics, {}⟩

/-- Calls at both ends of window 1 and after two missed windows; in window 4 the first
    call finds no metrics. -/
def callsWithGaps : List (PublishCall Unit) :=
  [metricsCall 999999999 (some ()), metricsCall 1000000000 (some ()),
    metricsCall 1999999999 (some ()), metricsCall 4000000001 none,
    metricsCall 4000000002 (some ())]

theorem publish_onePerSecond_gaps :
    ∃ ticks, (∃ rounds, ∀ fuel, rounds ≤ fuel →
        publishCalls fuel 0 (metricsCall 0 (some ()) :: callsWithGaps) = some ticks) ∧
      ticks.map (·.call) = metricsCall 0 (some ()) :: callsWithGaps ∧
      OnePerSecond (metricsCall 0 (some ())).time ticks :=
  publish_onePerSecond _ _ (by decide) (by decide)

end RcnetServer
