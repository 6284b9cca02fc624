import NdtSlam.Foundation.Vector

/-! The configuration of the swing monitor, and the inputs and results of its updates. -/

namespace NdtSlam

inductive HoistMotionState where
  | unknown
  | stopped
  | up
  | down
  deriving DecidableEq

inductive CargoPhysicalMotionState where
  | unknown
  | moving
  | stoppingSettle
  | stationary
  deriving DecidableEq

inductive CargoSwingObservationState where
  | invalid
  | currentMeasurement
  | shortGapHold
  | stale
  | trackChanged
  | timestampRollback

inductive CargoSwayState where
  | notEvaluated
  | normal
  | swayDetected
  | swayWarning
  | swayAlarm
  | settling
  deriving DecidableEq

inductive CargoSkewPullState where
  | notEvaluated
  | noSkewPull
  | skewPullSuspected
  | skewPullAlarm
  deriving DecidableEq

inductive CargoTorsionState where
  | notEvaluated
  | normal
  | torsionDetected
  | torsionWarning
  | torsionAlarm
  deriving DecidableEq

inductive CargoSwingRecommendedAction where
  | none
  | watch
  | reduceTravelSpeed
  | stopTravel
  | inhibitHoistUp
  | stopAndSettle

inductive CargoRopeLengthSource where
  | measured
  | configFallback
  | invalid
  deriving DecidableEq

inductive CargoHookAnchorAuthority where
  | invalid
  | configDiagnostic
  | topicMeasured
  | externalController

inductive CargoSkewPullReadiness where
  | hoistMissing
  | hoistStale
  | hookAnchorMissing
  | hookAnchorNonauthoritative
  | ropeLengthMissing
  | angleNonauthoritative
  | historyNotMature
  | ready

structure CargoSwingConfig where
  enabled : Bool := true
  configuredSlingLengthM : Scalar := 1
  minimumRopeLengthM : Scalar := 0.30
  minimumValidObservationSec : Scalar := 0.50
  maximumObservationGapSec : Scalar := 0.30
  historyWindowSec : Scalar := 4
  stationarySettleDelaySec : Scalar := 0.30
  measurementFilterAlpha : Scalar := 0.35
  normalAngleDeg : Scalar := 2
  warningAngleDeg : Scalar := 3
  alarmAngleDeg : Scalar := 5
  immediateAlarmAngleDeg : Scalar := 7
  warningOffsetM : Scalar := 0.20
  alarmOffsetM : Scalar := 0.50
  immediateAlarmOffsetM : Scalar := 0.70
  normalSpeedMps : Scalar := 0.15
  warningSpeedMps : Scalar := 0.30
  swayEndAngleDeg : Scalar := 1
  swayEndSpeedMps : Scalar := 0.10
  swayEndConfirmSec : Scalar := 2
  minimumAlarmHoldSec : Scalar := 0.50
  maximumAlarmEvidenceHoldSec : Scalar := 0.30
  swayEndOffsetM : Scalar := 0.10
  skewSuspectAngleDeg : Scalar := 3
  skewAlarmAngleDeg : Scalar := 5
  skewSuspectOffsetM : Scalar := 0.20
  skewAlarmOffsetM : Scalar := 0.50
  skewImmediateOffsetM : Scalar := 0.70
  skewDirectionConsistency : Scalar := 0.80
  skewMinDcToAcRatio : Scalar := 2
  skewMinDurationSec : Scalar := 1
  skewAlarmConfirmSec : Scalar := 0.50
  skewAlarmHoldSec : Scalar := 0.50
  skewClearConfirmSec : Scalar := 1
  skewClearOffsetM : Scalar := 0.12
  skewClearDirectionConsistency : Scalar := 0.55
  skewMaxZeroCrossings : Int := 1
  crossingDeadbandM : Scalar := 0.03
  torsionDetectDeg : Scalar := 3
  torsionWarningDeg : Scalar := 5
  torsionAlarmDeg : Scalar := 10
  torsionWarningClearDeg : Scalar := 3
  torsionAlarmClearDeg : Scalar := 6
  torsionClearConfirmSec : Scalar := 1
  minimumIdentityConfidence : Scalar := 0.60
  minimumShapeConfidence : Scalar := 0.55
  maximumTrackingResidualM : Scalar := 0.25
  minimumOrientationConfidence : Scalar := 0.60
  minimumTorsionAspectRatio : Scalar := 1.20
  allowSkewAlarmWithoutHoistUp : Bool := false
  allowConfiguredRopeLengthAlarm : Bool := false

namespace CargoSwingConfig

variable (config : CargoSwingConfig)

def nonnegative (value : Scalar) : Bool := value.isFinite && 0 ≤ value

def positive (value : Scalar) : Bool := value.isFinite && 0 < value

def ascending (values : List Scalar) : Bool :=
  (values.all Scalar.isFinite) && ((0 :: values).zip values).all fun step => step.1 ≤ step.2

def fraction (value : Scalar) : Bool := nonnegative value && value ≤ 1

def timingValid : Bool :=
  positive config.configuredSlingLengthM && positive config.minimumRopeLengthM &&
    config.minimumRopeLengthM ≤ config.configuredSlingLengthM &&
    nonnegative config.minimumValidObservationSec && positive config.maximumObservationGapSec &&
    config.historyWindowSec.isFinite &&
    config.maximumObservationGapSec ≤ config.historyWindowSec &&
    nonnegative config.stationarySettleDelaySec && positive config.measurementFilterAlpha &&
    config.measurementFilterAlpha ≤ 1

def swayValid : Bool :=
  ascending [config.normalAngleDeg, config.warningAngleDeg, config.alarmAngleDeg,
      config.immediateAlarmAngleDeg] &&
    ascending [config.warningOffsetM, config.alarmOffsetM, config.immediateAlarmOffsetM] &&
    ascending [config.normalSpeedMps, config.warningSpeedMps] &&
    nonnegative config.swayEndAngleDeg && nonnegative config.swayEndSpeedMps &&
    nonnegative config.swayEndConfirmSec && nonnegative config.minimumAlarmHoldSec &&
    nonnegative config.maximumAlarmEvidenceHoldSec && nonnegative config.swayEndOffsetM

def skewValid : Bool :=
  ascending [config.skewSuspectAngleDeg, config.skewAlarmAngleDeg] &&
    ascending [config.skewSuspectOffsetM, config.skewAlarmOffsetM, config.skewImmediateOffsetM] &&
    fraction config.skewDirectionConsistency && nonnegative config.skewMinDcToAcRatio &&
    nonnegative config.skewMinDurationSec && nonnegative config.skewAlarmConfirmSec &&
    nonnegative config.skewAlarmHoldSec && nonnegative config.skewClearConfirmSec &&
    nonnegative config.skewClearOffsetM && fraction config.skewClearDirectionConsistency &&
    0 ≤ config.skewMaxZeroCrossings && positive config.crossingDeadbandM

def torsionValid : Bool :=
  ascending [config.torsionDetectDeg, config.torsionWarningDeg, config.torsionAlarmDeg] &&
    nonnegative config.torsionWarningClearDeg &&
    config.torsionWarningClearDeg ≤ config.torsionWarningDeg &&
    config.torsionAlarmClearDeg.isFinite &&
    config.torsionWarningClearDeg ≤ config.torsionAlarmClearDeg &&
    config.torsionAlarmClearDeg ≤ config.torsionAlarmDeg &&
    nonnegative config.torsionClearConfirmSec

def qualityValid : Bool :=
  fraction config.minimumIdentityConfidence && fraction config.minimumShapeConfidence &&
    nonnegative config.maximumTrackingResidualM && fraction config.minimumOrientationConfidence &&
    config.minimumTorsionAspectRatio.isFinite && 1 < config.minimumTorsionAspectRatio

def validConfig : Bool :=
  config.timingValid && config.swayValid && config.skewValid && config.torsionValid &&
    config.qualityValid

end CargoSwingConfig

structure CargoSwingInput where
  stampSec : Scalar := 0
  localizationValid : Bool := false
  hookLoaded : Bool := false
  hookAnchorValid : Bool := false
  hookAnchorBase : Vec3 := {}
  hookAnchorSource : String := "config"
  hookAnchorAuthority : CargoHookAnchorAuthority := .invalid
  hookAnchorXyAuthoritative : Bool := false
  hookAnchorZAuthoritative : Bool := false
  trackRetained : Bool := false
  trackLocked : Bool := false
  observationAssociatedCurrent : Bool := false
  cargoLifecycleId : Nat := 0
  trackSegmentId : Nat := 0
  measuredCenterValid : Bool := false
  measuredCenterBase : Vec3 := {}
  horizontalTrackingResidualM : Scalar := 0
  identityConfidence : Scalar := 0
  shapeConfidence : Scalar := 0
  lockedYawValid : Bool := false
  lockedYawBaseRad : Scalar := 0
  measuredYawValid : Bool := false
  measuredYawBaseRad : Scalar := 0
  orientationConfidence : Scalar := 0
  cargoLengthM : Scalar := 0
  cargoWidthM : Scalar := 0
  craneMotionState : CargoPhysicalMotionState := .unknown
  hoistMotionState : HoistMotionState := .unknown
  hoistStateAvailable : Bool := false
  hoistStateFresh : Bool := false

structure CargoSwingResult where
  valid : Bool := false
  observationState : CargoSwingObservationState := .invalid
  swayState : CargoSwayState := .notEvaluated
  skewPullState : CargoSkewPullState := .notEvaluated
  torsionState : CargoTorsionState := .notEvaluated
  offsetXyM : Vec2 := {}
  offsetM : Scalar := 0
  ropeLengthM : Scalar := 0
  ropeLengthSource : CargoRopeLengthSource := .invalid
  angleAuthoritative : Bool := false
  offsetAuthoritative : Bool := false
  hookAnchorAuthority : CargoHookAnchorAuthority := .invalid
  angleDeg : Scalar := 0
  horizontalSpeedMps : Scalar := 0
  radialSpeedMps : Scalar := 0
  oscillationAmplitudeM : Scalar := 0
  directionConsistency : Scalar := 0
  dcOffsetM : Scalar := 0
  acRmsM : Scalar := 0
  dcToAcRatio : Scalar := 0
  oscillationConfidence : Scalar := 0
  skewConfidence : Scalar := 0
  zeroCrossings : Int := 0
  yawErrorDeg : Scalar := 0
  observationAgeSec : Scalar := 0
  stateDurationSec : Scalar := 0
  swayStateDurationSec : Scalar := 0
  skewStateDurationSec : Scalar := 0
  torsionStateDurationSec : Scalar := 0
  hoistUpConfirmed : Bool := false
  alarmInhibited : Bool := false
  skewPullReadiness : CargoSkewPullReadiness := .hoistMissing
  recommendedAction : CargoSwingRecommendedAction := .none
  reason : String := "not_evaluated"

end NdtSlam
