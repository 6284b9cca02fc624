import Mathlib.Data.List.Sort
import NdtSlam.Foundation.History
import NdtSlam.Foundation.Scalar

/-! The circuit breaker that refuses scan matches whose fitness stays bad. -/

namespace NdtSlam

inductive NdtFitnessCircuitState where
  | warming
  | closed
  | opened

structure NdtFitnessCircuitBreakerConfig where
  enabled : Bool := true
  windowSize : Nat := 120
  warmupSamples : Nat := 30
  minimumAdaptiveThreshold : Scalar := 0.35
  hardRejectThreshold : Scalar := 2.0
  medianMultiplier : Scalar := 2.0
  madMultiplier : Scalar := 6.0
  minimumMad : Scalar := 0.005
  recoveryThresholdRatio : Scalar := 0.70
  enterConfirmations : Int := 3
  recoveryConfirmations : Int := 5

structure NdtFitnessCircuitDecision where
  allowMeasurement : Bool := true
  circuitOpen : Bool := false
  transitionedOpen : Bool := false
  transitionedClosed : Bool := false
  baselineReady : Bool := false
  adaptiveThreshold : Scalar := 0
  recoveryThreshold : Scalar := 0
  median : Scalar := 0
  mad : Scalar := 0
  badStreak : Int := 0
  recoveryStreak : Int := 0
  state : NdtFitnessCircuitState := .warming
  reason : String := "warming"

structure NdtFitnessCircuitBreaker where
  config : NdtFitnessCircuitBreakerConfig
  baseline : List Scalar := []
  isOpen : Bool := false
  badStreak : Int := 0
  recoveryStreak : Int := 0

namespace NdtFitnessCircuitBreaker

variable (config : NdtFitnessCircuitBreakerConfig)

def validConfig : Bool :=
  10 ≤ config.windowSize && 5 ≤ config.warmupSamples &&
    config.warmupSamples ≤ config.windowSize &&
    config.minimumAdaptiveThreshold.isFinite && 0 < config.minimumAdaptiveThreshold &&
    config.hardRejectThreshold.isFinite &&
    config.minimumAdaptiveThreshold < config.hardRejectThreshold &&
    config.medianMultiplier.isFinite && 1 ≤ config.medianMultiplier &&
    config.madMultiplier.isFinite && 0 < config.madMultiplier &&
    config.minimumMad.isFinite && 0 < config.minimumMad &&
    config.recoveryThresholdRatio.isFinite && 0 < config.recoveryThresholdRatio &&
    config.recoveryThresholdRatio < 1 &&
    2 ≤ config.enterConfirmations && 2 ≤ config.recoveryConfirmations

def setConfig : NdtFitnessCircuitBreaker :=
  { config := if validConfig config then config else {} }

def medianOf (values : List Scalar) : Scalar :=
  if values.isEmpty then 0
  else
    let sorted := values.insertionSort (· ≤ ·)
    let middle := values.length / 2
    let upper := sorted.getD middle 0
    if values.length % 2 ≠ 0 then upper else 0.5 * (sorted.getD (middle - 1) 0 + upper)

variable (self : NdtFitnessCircuitBreaker) (fitness : Scalar)

def appendBaseline : NdtFitnessCircuitBreaker :=
  let extended := self.baseline ++ [fitness]
  { self with baseline := extended.drop (extended.length - self.config.windowSize) }

def thresholds : NdtFitnessCircuitDecision :=
  let median := medianOf self.baseline
  let mad := medianOf (self.baseline.map fun sample => (sample - median).abs)
  let baselineReady := self.config.warmupSamples ≤ self.baseline.length
  let robustThreshold := Scalar.maxOf (median * self.config.medianMultiplier)
    (median + self.config.madMultiplier * .maxOf self.config.minimumMad mad)
  let adaptiveThreshold :=
    if baselineReady then
      Scalar.clamp (.maxOf self.config.minimumAdaptiveThreshold robustThreshold)
        self.config.minimumAdaptiveThreshold self.config.hardRejectThreshold
    else self.config.hardRejectThreshold
  { median
    mad
    baselineReady
    adaptiveThreshold
    recoveryThreshold := .maxOf self.config.minimumMad
      (adaptiveThreshold * self.config.recoveryThresholdRatio) }

def invalid : Bool := !fitness.isFinite || fitness < 0

def refused : Bool :=
  invalid fitness || config.hardRejectThreshold ≤ fitness

def reject : NdtFitnessCircuitBreaker × NdtFitnessCircuitDecision :=
  ({ self with isOpen := true, badStreak := self.config.enterConfirmations, recoveryStreak := 0 },
    { self.thresholds with
      transitionedOpen := !self.isOpen
      allowMeasurement := false
      circuitOpen := true
      state := .opened
      badStreak := self.config.enterConfirmations
      reason := if invalid fitness then "invalid_fitness_circuit_open"
        else "hard_fitness_limit_circuit_open" })

def nextStreak : Int :=
  if fitness ≤ self.thresholds.recoveryThreshold then self.recoveryStreak + 1 else 0

def recover : NdtFitnessCircuitBreaker × NdtFitnessCircuitDecision :=
  if self.config.recoveryConfirmations ≤ self.nextStreak fitness then
    ({ self.appendBaseline fitness with isOpen := false, badStreak := 0, recoveryStreak := 0 },
      { self.thresholds with
        allowMeasurement := true
        transitionedClosed := true
        state := .closed
        reason := "fitness_circuit_recovered"
        badStreak := 0
        recoveryStreak := 0 })
  else
    ({ self with recoveryStreak := self.nextStreak fitness },
      { self.thresholds with
        allowMeasurement := false
        circuitOpen := true
        state := .opened
        reason := "fitness_circuit_recovery_pending"
        badStreak := self.badStreak
        recoveryStreak := self.nextStreak fitness })

def monitor : NdtFitnessCircuitBreaker × NdtFitnessCircuitDecision :=
  if self.thresholds.baselineReady && self.thresholds.adaptiveThreshold ≤ fitness then
    if self.config.enterConfirmations ≤ self.badStreak + 1 then
      ({ self with isOpen := true, badStreak := self.badStreak + 1, recoveryStreak := 0 },
        { self.thresholds with
          allowMeasurement := false
          circuitOpen := true
          transitionedOpen := true
          state := .opened
          reason := "adaptive_fitness_circuit_open"
          badStreak := self.badStreak + 1 })
    else
      -- A single bad value is let through until it is confirmed.
      ({ self with badStreak := self.badStreak + 1, recoveryStreak := 0 },
        { self.thresholds with
          state := .closed
          reason := "adaptive_fitness_confirmation_pending"
          badStreak := self.badStreak + 1 })
  else
    let admitted := { self.appendBaseline fitness with badStreak := 0, recoveryStreak := 0 }
    let warm : Bool := self.config.warmupSamples ≤ admitted.baseline.length
    (admitted,
      { self.thresholds with
        state := if warm then .closed else .warming
        reason := if warm then "fitness_within_adaptive_limit" else "fitness_baseline_warming" })

def update : NdtFitnessCircuitBreaker × NdtFitnessCircuitDecision :=
  if !self.config.enabled then
    let usable := fitness.isFinite && 0 ≤ fitness
    (self, {
      allowMeasurement := usable
      state := .closed
      reason := if usable then "fitness_circuit_disabled" else "invalid_fitness" })
  else if refused self.config fitness then self.reject fitness
  else if self.isOpen then self.recover fitness
  else self.monitor fitness

def machine :
    Machine NdtFitnessCircuitBreaker Scalar NdtFitnessCircuitDecision where
  start := setConfig config
  step := update

end NdtFitnessCircuitBreaker
end NdtSlam
