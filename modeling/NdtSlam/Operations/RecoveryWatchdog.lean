import Mathlib.Data.List.Sort
import NdtSlam.Foundation.History
import NdtSlam.Foundation.Scalar

/-! The watchdog that asks for a relocalization, and for a restart when that does not help. -/

namespace NdtSlam

structure RecoveryStatus where
  state : String
  badFrames : Int := 0

def healthyStates : List String := ["IDLE", "COOLDOWN"]

def degradedStates : List String :=
  ["DEGRADED", "SEARCHING_LOCAL", "SEARCHING_GLOBAL", "CONFIRMING"]

structure WatchdogConfig where
  startupGraceSec : Scalar := 30
  softRelocalizeAfterSec : Scalar := 8
  hardRestartAfterSec : Scalar := 45
  hardRestartBadFrames : Int := 300
  hardRestartBadFramesAfterSec : Scalar := 15
  healthyResetSec : Scalar := 10
  restartWindowSec : Scalar := 900
  maxRestartsInWindow : Int := 3

inductive WatchdogAction where
  | none
  | softRelocalize
  | hardRestart
  | restartSuppressed
  deriving DecidableEq

structure WatchdogDecision where
  action : WatchdogAction
  degradedDurationSec : Scalar
  reason : String

def finiteHistory (values : List Scalar) (now windowSec : Scalar) : List Scalar :=
  (values.filter fun timestamp =>
    now - .maxOf 1 windowSec ≤ timestamp && timestamp ≤ now + 1).insertionSort (· ≤ ·)

structure RecoveryWatchdogPolicy where
  config : WatchdogConfig
  startedAt : Scalar
  restartHistory : List Scalar
  degradedSince : Option Scalar := none
  healthySince : Option Scalar := none
  softRequested : Bool := false
  suppressionReported : Bool := false

structure WatchdogObservation where
  status : RecoveryStatus
  now : Scalar

namespace WatchdogObservation

variable (observation : WatchdogObservation)

def healthy : Bool :=
  healthyStates.contains observation.status.state

def degraded : Bool :=
  degradedStates.contains observation.status.state

theorem not_degraded_of_healthy {observation : WatchdogObservation}
    (healthy : observation.healthy = true) : observation.degraded = false := by
  unfold WatchdogObservation.healthy healthyStates at healthy
  unfold degraded degradedStates
  simp only [List.contains_cons, List.contains_nil, Bool.or_false, Bool.or_eq_true,
    beq_iff_eq] at healthy
  rcases healthy with idle | cooldown
  · rw [idle]
    decide
  · rw [cooldown]
    decide

end WatchdogObservation

namespace RecoveryWatchdogPolicy

def start (config : WatchdogConfig) (startedAt : Scalar) (restartHistory : List Scalar) :
    RecoveryWatchdogPolicy where
  config := config
  startedAt := startedAt
  restartHistory := finiteHistory restartHistory startedAt config.restartWindowSec

variable (self : RecoveryWatchdogPolicy)

def observeHealthy (now : Scalar) : RecoveryWatchdogPolicy :=
  let since := self.healthySince.getD now
  let settled : Bool := self.config.healthyResetSec ≤ now - since
  { self with
    degradedSince := none
    healthySince := some since
    softRequested := self.softRequested && !settled
    suppressionReported := self.suppressionReported && !settled }

def hardRestart (now degradedDuration : Scalar) (byFrames : Bool) :
    RecoveryWatchdogPolicy × WatchdogDecision :=
  if self.config.maxRestartsInWindow ≤ (self.restartHistory.length : Int) then
    if self.suppressionReported then
      (self, ⟨.none, degradedDuration, "restart_budget_already_reported"⟩)
    else ({ self with suppressionReported := true },
      ⟨.restartSuppressed, degradedDuration, "restart_budget_exhausted"⟩)
  else ({ self with restartHistory := self.restartHistory ++ [now] },
    ⟨.hardRestart, degradedDuration,
      if byFrames then "persistent_bad_frames" else "persistent_degraded_state"⟩)

variable (observation : WatchdogObservation)

def escalate (degradedDuration : Scalar) : RecoveryWatchdogPolicy × WatchdogDecision :=
  let hardByTime : Bool := self.config.hardRestartAfterSec ≤ degradedDuration
  let hardByFrames : Bool := self.config.hardRestartBadFrames ≤ observation.status.badFrames &&
    self.config.hardRestartBadFramesAfterSec ≤ degradedDuration
  if observation.now - self.startedAt < self.config.startupGraceSec then
    (self, ⟨.none, degradedDuration, "startup_grace"⟩)
  else if hardByTime || hardByFrames then
    self.hardRestart observation.now degradedDuration hardByFrames
  else if !self.softRequested && self.config.softRelocalizeAfterSec ≤ degradedDuration then
    ({ self with softRequested := true },
      ⟨.softRelocalize, degradedDuration, "degraded_state_soft_recovery"⟩)
  else (self, ⟨.none, degradedDuration, "waiting_for_recovery"⟩)

def observeDegraded : RecoveryWatchdogPolicy × WatchdogDecision :=
  let since := self.degradedSince.getD observation.now
  { self with degradedSince := some since }.escalate observation
    (.maxOf 0 (observation.now - since))

def observe (before : RecoveryWatchdogPolicy) (observation : WatchdogObservation) :
    RecoveryWatchdogPolicy × WatchdogDecision :=
  let self := { before with
    restartHistory := finiteHistory before.restartHistory observation.now
      before.config.restartWindowSec }
  if observation.healthy then
    (self.observeHealthy observation.now, ⟨.none, 0, "localization_healthy"⟩)
  -- Any other status ends the healthy period, even one that says nothing else.
  else if !observation.degraded then
    ({ self with healthySince := none }, ⟨.none, 0, "state_not_actionable"⟩)
  else { self with healthySince := none }.observeDegraded observation

end RecoveryWatchdogPolicy

def watchdogMachine (config : WatchdogConfig) (startedAt : Scalar)
    (restartHistory : List Scalar) :
    Machine RecoveryWatchdogPolicy WatchdogObservation WatchdogDecision where
  start := .start config startedAt restartHistory
  step := RecoveryWatchdogPolicy.observe

end NdtSlam
