import NdtSlam.Foundation.History
import NdtSlam.Foundation.Scalar

/-! The filter that turns the voltage of the load sensor into a load state of the hook. -/

namespace NdtSlam

inductive HookLoadState where
  | unknown
  | inhibit
  | empty
  | loaded
  deriving DecidableEq

structure HookLoadStateConfig where
  lowThresholdV : Scalar := 1.90
  highThresholdV : Scalar := 2.10
  hysteresisV : Scalar := 0.03
  confirmSamples : Nat := 2
  minimumTransitionDurationSec : Scalar := 0.0
  staleTimeoutSec : Scalar := 2.50
  validVoltageMinV : Scalar := 0.0
  validVoltageMaxV : Scalar := 6.0

structure HookLoadStateResult where
  valid : Bool := false
  fresh : Bool := false
  state : HookLoadState := .unknown
  voltage : Scalar := .nan
  stableSamples : Nat := 0
  reason : String := "startup_unknown"

structure HookLoadStateFilter where
  config : HookLoadStateConfig
  stableState : HookLoadState := .unknown
  pendingState : HookLoadState := .unknown
  pendingSamples : Nat := 0
  pendingSinceValid : Bool := false
  pendingSinceSourceTimeSec : Scalar := 0
  stableSamples : Nat := 0
  hasSample : Bool := false
  hasSeenSourceTime : Bool := false
  lastWallTimeSec : Scalar := 0
  lastSeenSourceTimeSec : Scalar := 0
  lastSampleWallTimeSec : Scalar := 0
  lastVoltage : Scalar := .nan
  invalidReason : String := "startup_unknown"

inductive HookCall where
  | ingest (voltage sourceTimeSec wallTimeSec : Scalar)
  | tick (wallTimeSec : Scalar)

namespace HookLoadStateFilter

def timeEpsilonSec : Scalar := 1.0e-6

def counterRange : Nat := 2 ^ 32

variable (config : HookLoadStateConfig)

def configValid : Bool :=
  config.lowThresholdV.isFinite && config.highThresholdV.isFinite &&
    config.lowThresholdV < config.highThresholdV &&
    config.hysteresisV.isFinite && 0 ≤ config.hysteresisV &&
    2 * config.hysteresisV < config.highThresholdV - config.lowThresholdV &&
    0 < config.confirmSamples &&
    config.minimumTransitionDurationSec.isFinite && 0 ≤ config.minimumTransitionDurationSec &&
    config.staleTimeoutSec.isFinite && 0 < config.staleTimeoutSec &&
    config.validVoltageMinV.isFinite && config.validVoltageMaxV.isFinite &&
    config.validVoltageMinV < config.validVoltageMaxV

variable (self : HookLoadStateFilter)

def classify (voltage : Scalar) : HookLoadState :=
  let lowEnter := self.config.lowThresholdV - self.config.hysteresisV
  let lowExit := self.config.lowThresholdV + self.config.hysteresisV
  let highExit := self.config.highThresholdV - self.config.hysteresisV
  let highEnter := self.config.highThresholdV + self.config.hysteresisV
  match self.stableState with
  | .unknown =>
    if voltage < self.config.lowThresholdV then .inhibit
    else if voltage ≤ self.config.highThresholdV then .empty
    else .loaded
  | .inhibit =>
    if highEnter < voltage then .loaded
    else if lowExit ≤ voltage && voltage ≤ highExit then .empty
    else .inhibit
  | .empty =>
    if highEnter < voltage then .loaded
    else if voltage < lowEnter then .inhibit
    else .empty
  | .loaded =>
    if voltage < lowEnter then .inhibit
    else if lowExit ≤ voltage && voltage < highExit then .empty
    else .loaded

variable (reason : String)

def result : HookLoadStateResult :=
  { valid := self.stableState != .unknown
    fresh := self.hasSample && self.stableState != .unknown
    state := self.stableState, voltage := self.lastVoltage
    stableSamples := self.stableSamples, reason := reason }

variable (voltage : Scalar)

def dropped : HookLoadStateFilter :=
  { self with
    stableState := .unknown, pendingState := .unknown, pendingSamples := 0
    pendingSinceValid := false, pendingSinceSourceTimeSec := 0, stableSamples := 0
    lastVoltage := voltage, invalidReason := reason }

def fail : HookLoadStateFilter × HookLoadStateResult :=
  (self.dropped reason voltage, (self.dropped reason voltage).result reason)

def timeUsable (timeSec : Scalar) : Bool := timeSec.isFinite && !(timeSec < 0)

def wallRolledBack (wallTimeSec : Scalar) : Bool :=
  self.hasSample && wallTimeSec + timeEpsilonSec < self.lastWallTimeSec

def sourceRolledBack (sourceTimeSec : Scalar) : Bool :=
  self.hasSeenSourceTime && sourceTimeSec + timeEpsilonSec < self.lastSeenSourceTimeSec

def sourceRepeated (sourceTimeSec : Scalar) : Bool :=
  self.hasSeenSourceTime &&
    (sourceTimeSec - self.lastSeenSourceTimeSec).abs ≤ timeEpsilonSec

def signalStale (wallTimeSec : Scalar) : Bool :=
  self.config.staleTimeoutSec ≤ wallTimeSec - self.lastSampleWallTimeSec + timeEpsilonSec

def voltageUsable : Bool :=
  voltage.isFinite && !(voltage < config.validVoltageMinV || config.validVoltageMaxV < voltage)

def stamp (sourceTimeSec wallTimeSec : Scalar) : HookLoadStateFilter :=
  { self with
    lastWallTimeSec := wallTimeSec, lastSeenSourceTimeSec := sourceTimeSec
    hasSeenSourceTime := true, lastSampleWallTimeSec := wallTimeSec, hasSample := true }

def settle : HookLoadStateFilter :=
  { self with
    pendingState := self.stableState, pendingSamples := 0, pendingSinceValid := false
    pendingSinceSourceTimeSec := 0
    stableSamples := min ((self.stableSamples + 1) % counterRange) (counterRange - 1) }

def count (candidate : HookLoadState) (sourceTimeSec : Scalar) : HookLoadStateFilter :=
  if candidate = self.pendingState then
    { self with pendingSamples := (self.pendingSamples + 1) % counterRange }
  else
    { self with
      pendingState := candidate, pendingSamples := 1, pendingSinceValid := true
      pendingSinceSourceTimeSec := sourceTimeSec }

def transitionReady (sourceTimeSec : Scalar) : Bool :=
  let pendingDurationSec :=
    if self.pendingSinceValid then sourceTimeSec - self.pendingSinceSourceTimeSec else 0
  self.config.confirmSamples ≤ self.pendingSamples && pendingDurationSec.isFinite &&
    self.config.minimumTransitionDurationSec ≤ pendingDurationSec + timeEpsilonSec

def confirm : HookLoadStateFilter :=
  { self with
    stableState := self.pendingState, stableSamples := self.pendingSamples
    pendingSamples := 0, pendingSinceValid := false, pendingSinceSourceTimeSec := 0 }

def measured : HookLoadStateFilter :=
  { self with lastVoltage := voltage, invalidReason := "" }

def digest (voltage sourceTimeSec : Scalar) : HookLoadStateFilter × HookLoadStateResult :=
  let measured := self.measured voltage
  let candidate := measured.classify voltage
  if candidate = measured.stableState ∧ measured.stableState ≠ .unknown then
    (measured.settle, measured.settle.result "stable")
  else
    let counted := measured.count candidate sourceTimeSec
    if counted.transitionReady sourceTimeSec then
      (counted.confirm, counted.confirm.result "transition_confirmed")
    else (counted, counted.result "transition_pending")

def ingest (voltage sourceTimeSec wallTimeSec : Scalar) :
    HookLoadStateFilter × HookLoadStateResult :=
  if !configValid self.config then self.fail "invalid_config" voltage
  else if !timeUsable sourceTimeSec then self.fail "invalid_source_time" voltage
  else if !timeUsable wallTimeSec then self.fail "invalid_wall_time" voltage
  else if self.wallRolledBack wallTimeSec then
    { self with
      lastWallTimeSec := wallTimeSec, lastSampleWallTimeSec := wallTimeSec
      hasSample := true }.fail "wall_time_rollback" voltage
  else if self.sourceRolledBack sourceTimeSec then
    (self.stamp sourceTimeSec wallTimeSec).fail "source_time_rollback" voltage
  else if self.sourceRepeated sourceTimeSec then
    if self.signalStale wallTimeSec then
      { self with hasSample := false }.fail "signal_stale" voltage
    else
      (self, self.result (if self.invalidReason.isEmpty then "duplicate_sample_ignored"
        else self.invalidReason))
  else
    let stamped := self.stamp sourceTimeSec wallTimeSec
    if !voltage.isFinite then stamped.fail "non_finite_voltage" voltage
    else if !voltageUsable self.config voltage then stamped.fail "voltage_out_of_range" voltage
    else stamped.digest voltage sourceTimeSec

def tick (wallTimeSec : Scalar) : HookLoadStateFilter × HookLoadStateResult :=
  if !configValid self.config then self.fail "invalid_config" self.lastVoltage
  else if !timeUsable wallTimeSec then self.fail "invalid_wall_time" self.lastVoltage
  else if self.wallRolledBack wallTimeSec then
    { self with lastWallTimeSec := wallTimeSec }.fail "wall_time_rollback" self.lastVoltage
  else
    let timed := { self with lastWallTimeSec := wallTimeSec }
    if !self.hasSample then (timed, timed.result "no_sample")
    else if self.signalStale wallTimeSec then
      { timed with hasSample := false }.fail "signal_stale" self.lastVoltage
    else
      (timed, timed.result (if self.invalidReason.isEmpty then "fresh" else self.invalidReason))

def step : HookCall → HookLoadStateFilter × HookLoadStateResult
  | .ingest voltage sourceTimeSec wallTimeSec => self.ingest voltage sourceTimeSec wallTimeSec
  | .tick wallTimeSec => self.tick wallTimeSec

def machine :
    Machine HookLoadStateFilter HookCall HookLoadStateResult where
  start := { config := config }
  step := step

end HookLoadStateFilter
end NdtSlam
