import NdtSlam.Swing.Config
import NdtSlam.Foundation.History

/-! The estimator that tells from the raw pose whether the cargo is moving. -/

namespace NdtSlam

class ExponentialFunction where
  exp : Scalar → Scalar

inductive CargoPhysicalMotionSource where
  | none
  | externalController
  | rawPoseDelta

structure CargoPhysicalMotionConfig where
  enabled : Bool := true
  enterStationarySpeedMps : Scalar := 0.03
  exitStationarySpeedMps : Scalar := 0.08
  enterStationaryConfirmSec : Scalar := 0.50
  exitStationaryConfirmSec : Scalar := 0.20
  maximumSampleGapSec : Scalar := 0.50
  confidenceDecayTauSec : Scalar := 0.25
  minimumValidConfidence : Scalar := 0.35
  maximumPhysicalSpeedMps : Scalar := 3.0
  maximumRawPoseInnovationM : Scalar := 0.75
  velocityFilterAlpha : Scalar := 0.30

def CargoPhysicalMotionConfig.valid (config : CargoPhysicalMotionConfig) : Bool :=
  config.enterStationarySpeedMps.isFinite && 0 ≤ config.enterStationarySpeedMps &&
    config.exitStationarySpeedMps.isFinite &&
    config.enterStationarySpeedMps < config.exitStationarySpeedMps &&
    config.enterStationaryConfirmSec.isFinite && 0 ≤ config.enterStationaryConfirmSec &&
    config.exitStationaryConfirmSec.isFinite && 0 ≤ config.exitStationaryConfirmSec &&
    config.maximumSampleGapSec.isFinite && 0 < config.maximumSampleGapSec &&
    config.confidenceDecayTauSec.isFinite && 0 < config.confidenceDecayTauSec &&
    config.minimumValidConfidence.isFinite && 0 ≤ config.minimumValidConfidence &&
    config.minimumValidConfidence ≤ 1 &&
    config.maximumPhysicalSpeedMps.isFinite && 0 < config.maximumPhysicalSpeedMps &&
    config.maximumRawPoseInnovationM.isFinite && 0 < config.maximumRawPoseInnovationM &&
    config.velocityFilterAlpha.isFinite && 0 < config.velocityFilterAlpha &&
    config.velocityFilterAlpha ≤ 1

structure CargoPhysicalMotionInput where
  stampSec : Scalar := 0
  externalStateValid : Bool := false
  externalState : CargoPhysicalMotionState := .unknown
  rawPositionValid : Bool := false
  rawPosition : Vec2 := {}
  rawPoseQualityValid : Bool := true
  rawPoseInnovationM : Scalar := 0
  rawPoseStepM : Scalar := 0
  localizationDegenerate : Bool := false

structure CargoPhysicalMotionResult where
  valid : Bool := false
  state : CargoPhysicalMotionState := .unknown
  source : CargoPhysicalMotionSource := .none
  filteredSpeedMps : Scalar := 0
  confidence : Scalar := 0
  stateDurationSec : Scalar := 0
  sourceEpoch : Nat := 0
  reason : String := "not_evaluated"

structure CargoPhysicalMotionEstimator where
  config : CargoPhysicalMotionConfig := {}
  result : CargoPhysicalMotionResult := {}
  lastStampSec : Scalar := 0
  lastValidSampleStampSec : Scalar := 0
  stateSinceSec : Scalar := 0
  transitionCandidateSinceSec : Scalar := 0
  rawRejectionSinceSec : Scalar := 0
  rawRejectionCount : Nat := 0
  previousPositionValid : Bool := false
  previousPosition : Vec2 := {}
  filteredSpeedValid : Bool := false

namespace CargoPhysicalMotionEstimator

variable (self : CargoPhysicalMotionEstimator)

def resetKinematics (preserveEpoch : Bool) :
    CargoPhysicalMotionEstimator where
  config := self.config
  result := { sourceEpoch := if preserveEpoch then self.result.sourceEpoch else 0 }

def reset : CargoPhysicalMotionEstimator :=
  self.resetKinematics false

def setConfig (config : CargoPhysicalMotionConfig) : CargoPhysicalMotionEstimator where
  config := if config.valid then config else {}

def setState (state : CargoPhysicalMotionState) (stampSec : Scalar) :
    CargoPhysicalMotionEstimator :=
  { self with
    result := { self.result with state }
    stateSinceSec := if self.result.state ≠ state || self.stateSinceSec ≤ 0 then stampSec
      else self.stateSinceSec }

def answer (valid : Bool) (reason : String) : CargoPhysicalMotionEstimator :=
  { self with result := { self.result with valid, reason } }

def restart (stampSec : Scalar) (epoch : Nat) (reason : String) : CargoPhysicalMotionEstimator :=
  { self.resetKinematics false with
    result := { sourceEpoch := epoch, reason }
    lastStampSec := stampSec }

variable (input : CargoPhysicalMotionInput)

def admitStamp : Except CargoPhysicalMotionEstimator CargoPhysicalMotionEstimator :=
  if !self.config.enabled then
    let self := self.reset
    .error { self with result := { self.result with reason := "disabled" } }
  else if !input.stampSec.isFinite || input.stampSec ≤ 0 then
    .error (self.answer false "invalid_timestamp")
  else if 0 < self.lastStampSec && input.stampSec ≤ self.lastStampSec then
    .error (self.restart input.stampSec ((self.result.sourceEpoch + 1) % 2 ^ 64)
      "timestamp_rollback_reset")
  else if 0 < self.lastStampSec &&
      self.config.maximumSampleGapSec < input.stampSec - self.lastStampSec then
    .ok (self.restart input.stampSec self.result.sourceEpoch "motion_sample_gap_reset")
  else .ok { self with lastStampSec := input.stampSec }

def followController : Except CargoPhysicalMotionEstimator CargoPhysicalMotionEstimator :=
  if input.externalStateValid && input.externalState ≠ .unknown then
    let self := self.setState input.externalState input.stampSec
    .error { self with
      result := { self.result with
        valid := true
        source := .externalController
        confidence := 1
        stateDurationSec := input.stampSec - self.stateSinceSec
        reason := "external_motion_state" }
      lastValidSampleStampSec := input.stampSec
      transitionCandidateSinceSec := 0
      -- The first raw pose after the controller has no baseline.
      previousPositionValid := false
      filteredSpeedValid := false }
  else .ok self

def shortHold (stampSec : Scalar) : Bool :=
  0 < self.lastValidSampleStampSec &&
    stampSec - self.lastValidSampleStampSec ≤ self.config.maximumSampleGapSec &&
    self.result.state ≠ .unknown

def admitPose : Except CargoPhysicalMotionEstimator CargoPhysicalMotionEstimator :=
  if !input.rawPositionValid || !input.rawPosition.allFinite then
    .error (self.answer (self.shortHold input.stampSec)
      (if self.shortHold input.stampSec then "short_unknown_motion_input_hold"
        else "motion_input_unavailable"))
  else if !input.rawPoseQualityValid ||
      (input.localizationDegenerate && (!input.rawPoseInnovationM.isFinite ||
        self.config.maximumRawPoseInnovationM < input.rawPoseInnovationM)) then
    let self := { self with
      rawRejectionSinceSec := if self.rawRejectionSinceSec ≤ 0 then input.stampSec
        else self.rawRejectionSinceSec
      rawRejectionCount := self.rawRejectionCount + 1 }
    .error (self.answer (self.shortHold input.stampSec)
      (if input.localizationDegenerate then "degenerate_raw_pose_rejected_short_hold"
        else "raw_pose_quality_rejected_short_hold"))
  else .ok { self with rawRejectionSinceSec := 0, rawRejectionCount := 0 }

def admitBaseline : Except CargoPhysicalMotionEstimator CargoPhysicalMotionEstimator :=
  let baseline (reason : String) : CargoPhysicalMotionEstimator :=
    { self with
      previousPosition := input.rawPosition
      previousPositionValid := true
      lastValidSampleStampSec := input.stampSec
      result := { self.result with valid := false, source := .rawPoseDelta, reason } }
  if self.previousPositionValid && 0 < self.lastValidSampleStampSec &&
      self.config.maximumSampleGapSec < input.stampSec - self.lastValidSampleStampSec then
    .error { baseline "raw_pose_rebaseline_after_rejection" with filteredSpeedValid := false }
  else if !self.previousPositionValid then
    .error (baseline "raw_pose_baseline_initialized")
  else .ok self

section Measured

variable [EuclideanNorm] [ExponentialFunction] (self : CargoPhysicalMotionEstimator)

def measureSpeed (input : CargoPhysicalMotionInput) :
    Except CargoPhysicalMotionEstimator CargoPhysicalMotionEstimator :=
  let dt := input.stampSec - self.lastValidSampleStampSec
  let computedStep := (input.rawPosition - self.previousPosition).norm
  let reportedStep := if input.rawPoseStepM.isFinite && 0 < input.rawPoseStepM then
      input.rawPoseStepM else computedStep
  let measuredSpeed := computedStep / dt
  if !dt.isFinite || dt ≤ 1.0e-6 then
    .error (self.answer false "raw_pose_delta_time_invalid")
  else if !reportedStep.isFinite || !measuredSpeed.isFinite ||
      self.config.maximumPhysicalSpeedMps * dt < reportedStep ||
      self.config.maximumPhysicalSpeedMps < measuredSpeed then
    .error (self.answer (self.result.state ≠ .unknown) "raw_pose_drift_spike_rejected_short_hold")
  else
    .ok { self with
      previousPosition := input.rawPosition
      lastValidSampleStampSec := input.stampSec
      filteredSpeedValid := true
      result := { self.result with
        source := .rawPoseDelta
        filteredSpeedMps := if self.filteredSpeedValid then
            (1 - self.config.velocityFilterAlpha) * self.result.filteredSpeedMps +
              self.config.velocityFilterAlpha * measuredSpeed
          else measuredSpeed
        confidence := .clamp (ExponentialFunction.exp (-dt / self.config.confidenceDecayTauSec))
          0 1 } }

def admitConfidence : Except CargoPhysicalMotionEstimator CargoPhysicalMotionEstimator :=
  if self.result.confidence < self.config.minimumValidConfidence then
    .error (self.answer false "raw_pose_sample_confidence_too_low")
  else .ok self

def measure (input : CargoPhysicalMotionInput) :
    Except CargoPhysicalMotionEstimator CargoPhysicalMotionEstimator := do
  let self ← self.admitStamp input
  let self ← self.followController input
  let self ← self.admitPose input
  let self ← self.admitBaseline input
  let self ← self.measureSpeed input
  self.admitConfidence

end Measured

variable (self : CargoPhysicalMotionEstimator)

def noteCandidate (stampSec : Scalar) : CargoPhysicalMotionEstimator :=
  { self with transitionCandidateSinceSec := stampSec }

def candidateSince (stampSec : Scalar) : Scalar :=
  if self.transitionCandidateSinceSec ≤ 0 then stampSec else self.transitionCandidateSinceSec

def transition (stampSec : Scalar) : CargoPhysicalMotionEstimator :=
  let speed := self.result.filteredSpeedMps
  let since := self.candidateSince stampSec
  match self.result.state with
  | .unknown =>
    if self.config.exitStationarySpeedMps ≤ speed then self.setState .moving stampSec
    else (self.setState .stoppingSettle stampSec).noteCandidate stampSec
  | .moving =>
    if speed ≤ self.config.enterStationarySpeedMps then
      (self.setState .stoppingSettle stampSec).noteCandidate stampSec
    else self
  | .stoppingSettle =>
    if self.config.exitStationarySpeedMps ≤ speed then
      (self.setState .moving stampSec).noteCandidate 0
    else if speed ≤ self.config.enterStationarySpeedMps then
      if self.config.enterStationaryConfirmSec ≤ stampSec - since then
        (self.setState .stationary stampSec).noteCandidate 0
      else self.noteCandidate since
    else self.noteCandidate stampSec
  | .stationary =>
    if self.config.exitStationarySpeedMps ≤ speed then
      if self.config.exitStationaryConfirmSec ≤ stampSec - since then
        (self.setState .moving stampSec).noteCandidate 0
      else self.noteCandidate since
    else self.noteCandidate 0

def advance (stampSec : Scalar) : CargoPhysicalMotionEstimator :=
  let self := self.transition stampSec
  { self with
    result := { self.result with
      valid := self.result.state ≠ .unknown
      stateDurationSec := if 0 < self.stateSinceSec then stampSec - self.stateSinceSec else 0
      reason := "raw_pose_motion_estimate" } }

def update [EuclideanNorm] [ExponentialFunction] (self : CargoPhysicalMotionEstimator)
    (input : CargoPhysicalMotionInput) : CargoPhysicalMotionEstimator :=
  match self.measure input with
  | .error held => held
  | .ok sampled => sampled.advance input.stampSec

end CargoPhysicalMotionEstimator

def cargoPhysicalMotionMachine [EuclideanNorm] [ExponentialFunction]
    (config : CargoPhysicalMotionConfig) :
    Machine CargoPhysicalMotionEstimator CargoPhysicalMotionInput CargoPhysicalMotionResult where
  start := .setConfig config
  step := fun estimator input => (estimator.update input, (estimator.update input).result)

end NdtSlam
