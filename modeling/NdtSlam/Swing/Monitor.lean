import NdtSlam.Foundation.History
import NdtSlam.Swing.Statistics

/-! The monitor of the swinging load, with an alarm latch for each of its three channels. -/

namespace NdtSlam

structure SwayLatch where
  immediateAlarmLatched : Bool := false
  settlingActive : Bool := false
  swayBelowEndStampSec : Scalar := 0
  swayAlarmEnterStampSec : Scalar := 0
  lastSevereMeasurementStampSec : Scalar := 0
  settlingEnterStampSec : Scalar := 0

structure SkewLatch where
  skewAlarmLatched : Bool := false
  skewAlarmCandidateStampSec : Scalar := 0
  skewAlarmEnterStampSec : Scalar := 0
  skewClearCandidateStampSec : Scalar := 0

structure TorsionLatch where
  torsionLatchedState : CargoTorsionState := .notEvaluated
  torsionClearCandidateStampSec : Scalar := 0
  lastTorsionEvidenceStampSec : Scalar := 0

structure CargoSwingMonitor where
  config : CargoSwingConfig
  result : CargoSwingResult := {}
  history : List CargoSwingMonitor.Sample := []
  cargoLifecycleId : Nat := 0
  trackSegmentId : Nat := 0
  hookAnchorSource : String := ""
  lastInputStampSec : Scalar := 0
  lastMeasurementStampSec : Scalar := 0
  swayStateChangeStampSec : Scalar := 0
  skewStateChangeStampSec : Scalar := 0
  torsionStateChangeStampSec : Scalar := 0
  stationaryEnterStampSec : Scalar := 0
  sway : SwayLatch := {}
  skew : SkewLatch := {}
  torsion : TorsionLatch := {}
  filteredOffsetValid : Bool := false
  filteredOffset : Vec2 := {}
  previousCraneMotionState : CargoPhysicalMotionState := .unknown

namespace CargoSwingMonitor

def new (config : CargoSwingConfig) : CargoSwingMonitor where
  config := if config.validConfig then config else {}

def reset (self : CargoSwingMonitor) : CargoSwingMonitor := { config := self.config }

section Measuring

variable [SwingMath] (config : CargoSwingConfig) (input : CargoSwingInput)

structure Measurement where
  rawOffset : Vec2
  offsetM : Scalar
  measuredVerticalSeparationValid : Bool
  ropeLengthM : Scalar
  ropeSource : CargoRopeLengthSource
  angleAuthoritative : Bool
  offsetAuthoritative : Bool
  angleDeg : Scalar
  horizontalSpeed : Scalar
  radialSpeed : Scalar
  yawEvidenceValid : Bool
  yawErrorDeg : Scalar
  statistics : Statistics
  stationaryDuration : Scalar

def yawEvidenceValid : Bool :=
  input.lockedYawValid && input.measuredYawValid && input.lockedYawBaseRad.isFinite &&
    input.measuredYawBaseRad.isFinite && input.orientationConfidence.isFinite &&
    config.minimumOrientationConfidence ≤ input.orientationConfidence &&
    config.minimumShapeConfidence ≤ input.shapeConfidence && input.cargoLengthM.isFinite &&
    0 < input.cargoLengthM && input.cargoWidthM.isFinite && 0 < input.cargoWidthM &&
    config.minimumTorsionAspectRatio ≤
      Scalar.maxOf input.cargoLengthM input.cargoWidthM /
        Scalar.minOf input.cargoLengthM input.cargoWidthM

def yawErrorDeg : Scalar :=
  if yawEvidenceValid config input then
    (shortestAxialAngle input.measuredYawBaseRad input.lockedYawBaseRad).abs * kRadToDeg
  else 0

def rawOffset : Vec2 := input.measuredCenterBase.head2 - input.hookAnchorBase.head2

def measuredRopeLength : Scalar := input.hookAnchorBase.z - input.measuredCenterBase.z

def measuredVerticalSeparationValid : Bool :=
  (measuredRopeLength input).isFinite && config.minimumRopeLengthM ≤ measuredRopeLength input

def angleAuthoritative : Bool :=
  input.hookAnchorXyAuthoritative && input.hookAnchorZAuthoritative &&
    measuredVerticalSeparationValid config input

variable (self : CargoSwingMonitor)

def filterOffset : Vec2 :=
  if self.filteredOffsetValid then
    self.filteredOffset.scale (1 - config.measurementFilterAlpha) +
      (rawOffset input).scale config.measurementFilterAlpha
  else rawOffset input

def extendHistory (angleDeg : Scalar) : List Sample :=
  let sample : Sample := {
    stampSec := input.stampSec
    offset := filterOffset config input self
    angleDeg
    yawErrorDeg := yawErrorDeg config input }
  (self.history ++ [sample]).dropWhile fun sample =>
    config.historyWindowSec < input.stampSec - sample.stampSec

def measure : Measurement × List Sample :=
  let filtered := filterOffset config input self
  let dt : Scalar :=
    if 0 < self.lastMeasurementStampSec then input.stampSec - self.lastMeasurementStampSec else 0
  let previous := ((self.history.getLast?).map (·.offset)).getD filtered
  let velocity := (filtered - previous).divide dt
  -- An angle against a hook of unknown height would not be a measured one.
  let authoritative := angleAuthoritative config input
  let ropeLengthM :=
    if authoritative then measuredRopeLength input else config.configuredSlingLengthM
  let offsetM := (rawOffset input).norm
  let angleDeg := SwingMath.atan2 offsetM ropeLengthM * kRadToDeg
  let history := extendHistory config input self angleDeg
  let measurement : Measurement := {
    rawOffset := rawOffset input
    offsetM
    measuredVerticalSeparationValid := measuredVerticalSeparationValid config input
    ropeLengthM
    ropeSource :=
      if measuredVerticalSeparationValid config input && input.hookAnchorZAuthoritative then
        .measured
      else .configFallback
    angleAuthoritative := authoritative
    offsetAuthoritative := input.hookAnchorXyAuthoritative
    angleDeg
    horizontalSpeed := if 1.0e-4 < dt then velocity.norm else 0
    radialSpeed :=
      if 1.0e-4 < dt ∧ 1.0e-5 < filtered.norm then
        velocity.dot (filtered.divide filtered.norm)
      else 0
    yawEvidenceValid := yawEvidenceValid config input
    yawErrorDeg := yawErrorDeg config input
    statistics := evaluate config history
    stationaryDuration :=
      if input.craneMotionState = .stationary ∧ 0 < self.stationaryEnterStampSec then
        Scalar.maxOf 0 (input.stampSec - self.stationaryEnterStampSec)
      else 0 }
  (measurement, history)

end Measuring

section Judging

variable (config : CargoSwingConfig) (input : CargoSwingInput) (measurement : Measurement)

def immediateSwayAlarm : Bool :=
  (measurement.offsetAuthoritative &&
      config.immediateAlarmOffsetM ≤ measurement.offsetM) ||
    (measurement.angleAuthoritative &&
      config.immediateAlarmAngleDeg ≤ measurement.angleDeg)

def formalAlarmMeasurement : Bool :=
  (measurement.offsetAuthoritative && config.alarmOffsetM ≤ measurement.offsetM) ||
    (measurement.angleAuthoritative && config.alarmAngleDeg ≤ measurement.angleDeg)

def belowEnd : Bool :=
  (measurement.offsetAuthoritative || measurement.angleAuthoritative) &&
    (!measurement.angleAuthoritative || measurement.angleDeg ≤ config.swayEndAngleDeg) &&
    (!measurement.offsetAuthoritative ||
      (measurement.offsetM ≤ config.swayEndOffsetM &&
        measurement.horizontalSpeed ≤ config.swayEndSpeedMps))

def historyMature : Bool :=
  config.minimumValidObservationSec ≤ measurement.statistics.historyDuration

def severeSway (state : CargoSwayState) : Bool :=
  state == .swayWarning || state == .swayAlarm || state == .settling

def judgeSway (previous : CargoSwayState) : CargoSwayState :=
  let statistics := measurement.statistics
  if historyMature config measurement &&
      (measurement.offsetAuthoritative || measurement.angleAuthoritative) then
    if formalAlarmMeasurement config measurement then .swayAlarm
    else if (measurement.angleAuthoritative && config.warningAngleDeg ≤ measurement.angleDeg) ||
        (measurement.offsetAuthoritative &&
          (config.warningOffsetM ≤ measurement.offsetM ||
            config.warningSpeedMps ≤ measurement.horizontalSpeed ||
            (input.craneMotionState == .stationary &&
              config.stationarySettleDelaySec ≤ measurement.stationaryDuration &&
              1 ≤ statistics.oscillationZeroCrossings &&
              config.warningOffsetM ≤ statistics.oscillationAmplitude))) then .swayWarning
    else if (measurement.angleAuthoritative && config.normalAngleDeg ≤ measurement.angleDeg) ||
        (measurement.offsetAuthoritative &&
          (config.normalSpeedMps ≤ measurement.horizontalSpeed ||
            0.5 * config.warningOffsetM ≤ statistics.oscillationAmplitude)) then .swayDetected
    else .normal
  -- An immature window is no evidence that an established state is over.
  else if severeSway previous then previous
  else .notEvaluated

def raiseSway (latch : SwayLatch) : SwayLatch :=
  let raised :=
    if immediateSwayAlarm config measurement then
      { latch with
        immediateAlarmLatched := true
        settlingActive := false
        swayAlarmEnterStampSec := input.stampSec
        lastSevereMeasurementStampSec := input.stampSec
        swayBelowEndStampSec := 0 }
    else latch
  if formalAlarmMeasurement config measurement then
    { raised with lastSevereMeasurementStampSec := input.stampSec }
  else raised

def swayHoldComplete (latch : SwayLatch) : Bool :=
  0 < latch.swayAlarmEnterStampSec &&
    config.minimumAlarmHoldSec ≤ input.stampSec - latch.swayAlarmEnterStampSec

def settleSway (previous : CargoSwayState) (latch : SwayLatch) : SwayLatch × CargoSwayState :=
  if latch.immediateAlarmLatched then
    if swayHoldComplete config input latch && belowEnd config measurement then
      let started :=
        if latch.swayBelowEndStampSec ≤ 0 then { latch with swayBelowEndStampSec := input.stampSec }
        else latch
      if config.swayEndConfirmSec ≤ input.stampSec - started.swayBelowEndStampSec then
        ({ started with
            immediateAlarmLatched := false
            settlingActive := true
            settlingEnterStampSec := input.stampSec }, .settling)
      else (started, .swayAlarm)
    else ({ latch with swayBelowEndStampSec := 0 }, .swayAlarm)
  else if latch.settlingActive then
    if formalAlarmMeasurement config measurement then
      ({ latch with
          immediateAlarmLatched := true
          settlingActive := false
          swayAlarmEnterStampSec := input.stampSec }, .swayAlarm)
    else if !belowEnd config measurement then
      ({ latch with settlingEnterStampSec := input.stampSec }, .settling)
    else if config.swayEndConfirmSec ≤ input.stampSec - latch.settlingEnterStampSec then
      ({ latch with settlingActive := false }, .normal)
    else (latch, .settling)
  else (latch, judgeSway config input measurement previous)

def hoistUp : Bool := input.hoistStateFresh && input.hoistMotionState == .up

def hoistAlarmAuthorized : Bool :=
  (hoistUp input || config.allowSkewAlarmWithoutHoistUp) && measurement.offsetAuthoritative

def immediateSkewOffset : Bool :=
  measurement.offsetAuthoritative && config.skewImmediateOffsetM ≤ measurement.offsetM

def skewSuspected (meanAngleDeg : Scalar) : Bool :=
  let statistics := measurement.statistics
  ((measurement.angleAuthoritative && config.skewSuspectAngleDeg ≤ meanAngleDeg) ||
      config.skewSuspectOffsetM ≤ statistics.dcOffsetM) &&
    config.skewDirectionConsistency ≤ statistics.directionConsistency &&
    config.skewMinDcToAcRatio ≤ statistics.dcToAcRatio &&
    statistics.zeroCrossings ≤ config.skewMaxZeroCrossings &&
    config.skewMinDurationSec ≤ statistics.historyDuration

def skewAlarmEvidence (meanAngleDeg : Scalar) : Bool :=
  skewSuspected config measurement meanAngleDeg &&
    ((measurement.angleAuthoritative && config.skewAlarmAngleDeg ≤ meanAngleDeg) ||
      config.skewAlarmOffsetM ≤ measurement.statistics.dcOffsetM ||
      immediateSkewOffset config measurement)

structure SkewJudgement where
  state : CargoSkewPullState
  alarmCandidateStampSec : Scalar
  authorityMissing : Bool

def judgeSkew (meanAngleDeg candidateStampSec : Scalar) : SkewJudgement :=
  let immediate := immediateSkewOffset config measurement
  let authorized := hoistAlarmAuthorized config input measurement
  let atOnce : SkewJudgement := {
    state := if immediate then .skewPullSuspected else .notEvaluated
    alarmCandidateStampSec := candidateStampSec
    authorityMissing := immediate && !authorized }
  if !historyMature config measurement then atOnce
  else if !measurement.offsetAuthoritative then { atOnce with alarmCandidateStampSec := 0 }
  else
    -- A large offset keeps its suspicion while the history is too short to judge.
    let suspected : CargoSkewPullState :=
      if skewSuspected config measurement meanAngleDeg || immediate then .skewPullSuspected
      else .noSkewPull
    let evidence := skewAlarmEvidence config measurement meanAngleDeg
    let authorityMissing :=
      if evidence || !immediate then evidence && !authorized else atOnce.authorityMissing
    if evidence && authorized then
      let started := if candidateStampSec ≤ 0 then input.stampSec else candidateStampSec
      { state :=
          if config.skewAlarmConfirmSec ≤ input.stampSec - started then .skewPullAlarm
          else suspected
        alarmCandidateStampSec := started
        authorityMissing }
    else { state := suspected, alarmCandidateStampSec := 0, authorityMissing }

def skewHoldComplete (latch : SkewLatch) : Bool :=
  0 < latch.skewAlarmEnterStampSec &&
    config.skewAlarmHoldSec ≤ input.stampSec - latch.skewAlarmEnterStampSec

def skewClearEvidence : Bool :=
  input.hoistStateFresh &&
    (input.hoistMotionState == .stopped || input.hoistMotionState == .down) &&
    measurement.offsetAuthoritative &&
    measurement.statistics.dcOffsetM ≤ config.skewClearOffsetM &&
    measurement.statistics.directionConsistency ≤ config.skewClearDirectionConsistency

def latchSkew (state : CargoSkewPullState) (latch : SkewLatch) : SkewLatch × CargoSkewPullState :=
  if state = .skewPullAlarm then
    ({ latch with
        skewAlarmLatched := true
        skewAlarmEnterStampSec :=
          if latch.skewAlarmLatched then latch.skewAlarmEnterStampSec else input.stampSec
        skewClearCandidateStampSec := 0 }, state)
  else if latch.skewAlarmLatched then
    if skewHoldComplete config input latch && skewClearEvidence config input measurement then
      let started :=
        if latch.skewClearCandidateStampSec ≤ 0 then input.stampSec
        else latch.skewClearCandidateStampSec
      if config.skewClearConfirmSec ≤ input.stampSec - started then
        ({ latch with
            skewAlarmLatched := false
            skewAlarmEnterStampSec := 0
            skewClearCandidateStampSec := 0 }, state)
      else ({ latch with skewClearCandidateStampSec := started }, .skewPullAlarm)
    else ({ latch with skewClearCandidateStampSec := 0 }, .skewPullAlarm)
  else (latch, state)

def judgeTorsion : CargoTorsionState :=
  if historyMature config measurement && measurement.yawEvidenceValid then
    if config.torsionAlarmDeg ≤ measurement.yawErrorDeg then .torsionAlarm
    else if config.torsionWarningDeg ≤ measurement.yawErrorDeg then .torsionWarning
    else if config.torsionDetectDeg ≤ measurement.yawErrorDeg then .torsionDetected
    else .normal
  else .notEvaluated

variable (state : CargoTorsionState)

def torsionHeld : Bool :=
  state == .torsionAlarm || state == .torsionWarning

variable (latch : TorsionLatch)

def raiseTorsion : TorsionLatch :=
  if state = .torsionAlarm then
    { latch with torsionLatchedState := .torsionAlarm, torsionClearCandidateStampSec := 0 }
  else if state = .torsionWarning ∧ latch.torsionLatchedState ≠ .torsionAlarm then
    { latch with torsionLatchedState := .torsionWarning, torsionClearCandidateStampSec := 0 }
  else latch

def torsionClearDeg (held : CargoTorsionState) : Scalar :=
  if held = .torsionAlarm then config.torsionAlarmClearDeg else config.torsionWarningClearDeg

def releaseTorsion : TorsionLatch :=
  if !torsionHeld latch.torsionLatchedState then latch
  else if measurement.yawErrorDeg ≤ torsionClearDeg config latch.torsionLatchedState then
    let started :=
      if latch.torsionClearCandidateStampSec ≤ 0 then input.stampSec
      else latch.torsionClearCandidateStampSec
    if config.torsionClearConfirmSec ≤ input.stampSec - started then
      { latch with
        torsionLatchedState := if state = .torsionWarning then .torsionWarning else .notEvaluated
        torsionClearCandidateStampSec := 0 }
    else { latch with torsionClearCandidateStampSec := started }
  else { latch with torsionClearCandidateStampSec := 0 }

def latchTorsion : TorsionLatch × CargoTorsionState × Bool :=
  let state := judgeTorsion config measurement
  if measurement.yawEvidenceValid then
    let noted := { latch with lastTorsionEvidenceStampSec := input.stampSec }
    let raised := raiseTorsion state noted
    let released := releaseTorsion config input measurement state raised
    (released,
      if torsionHeld raised.torsionLatchedState &&
          released.torsionLatchedState != .notEvaluated then released.torsionLatchedState
      else state, false)
  else if latch.torsionLatchedState ≠ .notEvaluated then
    -- Without a measured orientation, the held state is reported for a while only.
    let fresh : Bool :=
      0 < latch.lastTorsionEvidenceStampSec &&
        input.stampSec - latch.lastTorsionEvidenceStampSec ≤ config.maximumAlarmEvidenceHoldSec
    (latch, if fresh then latch.torsionLatchedState else .notEvaluated, !fresh)
  else (latch, state, false)

end Judging

section Gates

variable (self : CargoSwingMonitor) (input : CargoSwingInput)

inductive Gate where
  | disabled
  | invalidTimestamp
  | timestampRollback
  | notLoaded
  | anchorStale
  | identityChanged
  | segmentChanged
  | notMeasured
  | poorQuality
  | measured
  deriving DecidableEq

def currentMeasurement : Bool :=
  input.localizationValid && input.trackRetained && input.trackLocked &&
    input.observationAssociatedCurrent && input.measuredCenterValid &&
    input.measuredCenterBase.allFinite

def trackingQualityValid (config : CargoSwingConfig) : Bool :=
  input.identityConfidence.isFinite &&
    config.minimumIdentityConfidence ≤ input.identityConfidence &&
    input.shapeConfidence.isFinite && config.minimumShapeConfidence ≤ input.shapeConfidence &&
    input.horizontalTrackingResidualM.isFinite && 0 ≤ input.horizontalTrackingResidualM &&
    input.horizontalTrackingResidualM ≤ config.maximumTrackingResidualM

def gate : Gate :=
  if !self.config.enabled then .disabled
  else if !input.stampSec.isFinite || input.stampSec ≤ 0 then .invalidTimestamp
  else if 0 < self.lastInputStampSec && input.stampSec ≤ self.lastInputStampSec then
    .timestampRollback
  else if !input.hookLoaded || input.cargoLifecycleId == 0 then .notLoaded
  else if !input.hookAnchorValid || !input.hookAnchorBase.allFinite then .anchorStale
  else if self.cargoLifecycleId != 0 && (self.cargoLifecycleId != input.cargoLifecycleId ||
      self.hookAnchorSource != input.hookAnchorSource) then .identityChanged
  else if self.trackSegmentId != 0 && self.trackSegmentId != input.trackSegmentId then
    .segmentChanged
  else if !currentMeasurement input then .notMeasured
  else if !trackingQualityValid input self.config then .poorQuality
  else .measured

def preliminaryReadiness : CargoSkewPullReadiness :=
  if !input.hoistStateAvailable then .hoistMissing
  else if !input.hoistStateFresh then .hoistStale
  else if !input.hookAnchorValid then .hookAnchorMissing
  else if !input.hookAnchorXyAuthoritative then .hookAnchorNonauthoritative
  else .historyNotMature

def adopt : CargoSwingMonitor :=
  { self with
    cargoLifecycleId := input.cargoLifecycleId
    trackSegmentId := input.trackSegmentId
    hookAnchorSource := input.hookAnchorSource
    lastInputStampSec := input.stampSec }

def ready : CargoSwingMonitor :=
  { self with result := { self.result with skewPullReadiness := preliminaryReadiness input } }

def resetMeasurementHistoryPreserveSafetyLatches : CargoSwingMonitor :=
  { self with
    history := []
    lastMeasurementStampSec := input.stampSec
    filteredOffsetValid := false
    filteredOffset := {}
    stationaryEnterStampSec := 0
    sway := { self.sway with swayBelowEndStampSec := 0 }
    skew := { self.skew with skewAlarmCandidateStampSec := 0, skewClearCandidateStampSec := 0 }
    torsion := { self.torsion with torsionClearCandidateStampSec := 0 }
    result := { self.result with
      observationState := .trackChanged
      reason := "track_segment_changed_history_reset_alarm_preserved" } }

def noteMotion : CargoSwingMonitor :=
  if input.craneMotionState = self.previousCraneMotionState then self
  else
    let noted := { self with previousCraneMotionState := input.craneMotionState }
    match input.craneMotionState with
    | .stationary =>
      { noted with
        stationaryEnterStampSec := input.stampSec
        history := []
        lastMeasurementStampSec := 0
        filteredOffsetValid := false
        filteredOffset := {} }
    | .moving => { noted with stationaryEnterStampSec := 0 }
    | .unknown => noted
    | .stoppingSettle => noted

def admitted : CargoSwingMonitor := noteMotion ((ready self input).adopt input) input

def observationAgeSec : Scalar :=
  if 0 < self.lastMeasurementStampSec then input.stampSec - self.lastMeasurementStampSec
  else .posInf

def hold : CargoSwingMonitor :=
  let age := observationAgeSec self input
  let holdLimit :=
    if self.sway.immediateAlarmLatched || self.sway.settlingActive || self.skew.skewAlarmLatched ||
        self.torsion.torsionLatchedState == .torsionAlarm || severeSway self.result.swayState then
      self.config.maximumAlarmEvidenceHoldSec
    else self.config.maximumObservationGapSec
  let valid : Bool := 0 < self.lastMeasurementStampSec && age ≤ holdLimit
  { self with result := { self.result with
      observationAgeSec := age
      valid
      observationState := if valid then .shortGapHold else .stale
      reason :=
        if valid then "short_gap_hold_no_evidence_accumulation" else "swing_evidence_stale" } }

def rejectQuality : CargoSwingMonitor :=
  { self with result := { self.result with
      valid := false
      observationState := .invalid
      observationAgeSec := observationAgeSec self input
      reason := "tracking_quality_insufficient" } }

def measurementGapReset : Bool :=
  0 < self.lastMeasurementStampSec &&
    self.config.maximumObservationGapSec < input.stampSec - self.lastMeasurementStampSec

def forgetBeforeGap : CargoSwingMonitor :=
  if measurementGapReset self input then
    { self with
      history := []
      lastMeasurementStampSec := 0
      swayStateChangeStampSec := input.stampSec
      skewStateChangeStampSec := input.stampSec
      torsionStateChangeStampSec := input.stampSec
      sway := { self.sway with swayBelowEndStampSec := 0 }
      skew := { self.skew with skewAlarmCandidateStampSec := 0 }
      filteredOffsetValid := false
      filteredOffset := {} }
  else self

end Gates

section Reporting

variable (input : CargoSwingInput) (measurement : Measurement)

def skewPullReadiness (config : CargoSwingConfig) : CargoSkewPullReadiness :=
  if !input.hoistStateAvailable then .hoistMissing
  else if !input.hoistStateFresh then .hoistStale
  else if !input.hookAnchorValid then .hookAnchorMissing
  else if !input.hookAnchorXyAuthoritative then .hookAnchorNonauthoritative
  else if !measurement.measuredVerticalSeparationValid then .ropeLengthMissing
  else if !measurement.angleAuthoritative then .angleNonauthoritative
  else if measurement.statistics.historyDuration < config.skewMinDurationSec then .historyNotMature
  else .ready

def recommendedAction (sway : CargoSwayState) (skew : CargoSkewPullState)
    (torsion : CargoTorsionState) (alarmInhibited : Bool) : CargoSwingRecommendedAction :=
  if skew = .skewPullAlarm then .stopAndSettle
  else if alarmInhibited then .inhibitHoistUp
  else if sway = .swayAlarm ∨ torsion = .torsionAlarm then .stopAndSettle
  else if sway = .swayWarning ∨ torsion = .torsionWarning then .reduceTravelSpeed
  else if sway = .swayDetected ∨ skew = .skewPullSuspected ∨ torsion = .torsionDetected then .watch
  else .none

def measuredReason (skew : CargoSkewPullState) (torsionStale alarmInhibited gapReset : Bool) :
    String :=
  if skew = .skewPullAlarm then "stop_hoist_and_travel"
  else if torsionStale then "torsion_orientation_evidence_stale_sway_skew_valid"
  else if alarmInhibited then "skew_alarm_authority_unavailable"
  else if !measurement.offsetAuthoritative then "hook_anchor_xy_nonauthoritative_diagnostic_only"
  else if gapReset then "current_measurement_after_gap_reset"
  else if measurement.ropeSource = .configFallback then "current_measurement_config_rope_fallback"
  else "current_measurement"

def changeStamp {State : Type} [DecidableEq State] (stampSec changedSec : Scalar)
    (previous state : State) : Scalar :=
  if state ≠ previous ∨ changedSec ≤ 0 then stampSec else changedSec

def report (self : CargoSwingMonitor) (sway : CargoSwayState) (skew : CargoSkewPullState)
    (torsion : CargoTorsionState) (torsionStale alarmInhibited gapReset : Bool) :
    CargoSwingMonitor :=
  let stampSec := input.stampSec
  let statistics := measurement.statistics
  let swayChanged :=
    changeStamp stampSec self.swayStateChangeStampSec self.result.swayState sway
  let skewChanged :=
    changeStamp stampSec self.skewStateChangeStampSec self.result.skewPullState skew
  let torsionChanged :=
    changeStamp stampSec self.torsionStateChangeStampSec self.result.torsionState torsion
  let swayDuration := Scalar.maxOf 0 (stampSec - swayChanged)
  let skewDuration := Scalar.maxOf 0 (stampSec - skewChanged)
  let torsionDuration := Scalar.maxOf 0 (stampSec - torsionChanged)
  { self with
    swayStateChangeStampSec := swayChanged
    skewStateChangeStampSec := skewChanged
    torsionStateChangeStampSec := torsionChanged
    result := {
      valid := true
      observationState := .currentMeasurement
      swayState := sway
      skewPullState := skew
      torsionState := torsion
      offsetXyM := measurement.rawOffset
      offsetM := measurement.offsetM
      ropeLengthM := measurement.ropeLengthM
      ropeLengthSource := measurement.ropeSource
      angleAuthoritative := measurement.angleAuthoritative
      offsetAuthoritative := measurement.offsetAuthoritative
      hookAnchorAuthority := input.hookAnchorAuthority
      angleDeg := measurement.angleDeg
      horizontalSpeedMps := measurement.horizontalSpeed
      radialSpeedMps := measurement.radialSpeed
      oscillationAmplitudeM := statistics.oscillationAmplitude
      directionConsistency := statistics.directionConsistency
      dcOffsetM := statistics.dcOffsetM
      acRmsM := statistics.acRmsM
      dcToAcRatio := statistics.dcToAcRatio
      oscillationConfidence := statistics.oscillationConfidence
      skewConfidence := statistics.skewConfidence
      zeroCrossings := statistics.zeroCrossings
      yawErrorDeg := measurement.yawErrorDeg
      observationAgeSec := 0
      stateDurationSec := .maxOf swayDuration (.maxOf skewDuration torsionDuration)
      swayStateDurationSec := swayDuration
      skewStateDurationSec := skewDuration
      torsionStateDurationSec := torsionDuration
      hoistUpConfirmed := hoistUp input
      alarmInhibited
      skewPullReadiness := skewPullReadiness input measurement self.config
      recommendedAction := recommendedAction sway skew torsion alarmInhibited
      reason := measuredReason measurement skew torsionStale alarmInhibited gapReset } }

end Reporting

section Update

variable [SwingMath] (self : CargoSwingMonitor) (input : CargoSwingInput)

def evaluateMeasurement : CargoSwingMonitor :=
  let config := self.config
  let gapReset := measurementGapReset self input
  let base := forgetBeforeGap self input
  let (measurement, history) := measure config input base
  let (sway, swayState) := settleSway config input measurement self.result.swayState
    (raiseSway config input measurement base.sway)
  let meanAngleDeg := SwingMath.atan2 measurement.statistics.meanOffset.norm
    measurement.ropeLengthM * kRadToDeg
  let judged := judgeSkew config input measurement meanAngleDeg
    base.skew.skewAlarmCandidateStampSec
  let (skew, skewState) := latchSkew config input measurement judged.state
    { base.skew with skewAlarmCandidateStampSec := judged.alarmCandidateStampSec }
  let (torsion, torsionState, torsionStale) :=
    latchTorsion config input measurement base.torsion
  let measured := { base with
    history
    filteredOffset := filterOffset config input base
    filteredOffsetValid := true
    lastMeasurementStampSec := input.stampSec
    sway, skew, torsion }
  measured.report input measurement swayState skewState torsionState torsionStale
    judged.authorityMissing gapReset

def advance : CargoSwingMonitor :=
  match gate self input with
  | .disabled => { self.reset with result := { reason := "disabled" } }
  | .invalidTimestamp =>
    { self with result := { (ready self input).result with
        valid := false, observationState := .invalid, reason := "invalid_timestamp" } }
  | .timestampRollback =>
    { self.reset with
      lastInputStampSec := input.stampSec
      result := { (ready self.reset input).result with
        observationState := .timestampRollback, reason := "timestamp_rollback_reset" } }
  | .notLoaded =>
    { self.reset with
      lastInputStampSec := input.stampSec
      result := { (ready self.reset input).result with
        reason := if input.hookLoaded then "cargo_lifecycle_invalid" else "hook_not_loaded" } }
  | .anchorStale =>
    { self with
      lastInputStampSec := input.stampSec
      result := { (ready self input).result with
        valid := false
        observationState := .stale
        reason := "hook_anchor_stale_alarm_state_held" } }
  | .identityChanged =>
    { self.reset.adopt input with
      result := { (ready self.reset input).result with
        observationState := .trackChanged
        reason := "track_lifecycle_or_anchor_changed_reset" } }
  | .segmentChanged =>
    (resetMeasurementHistoryPreserveSafetyLatches (ready self input) input).adopt input
  | .notMeasured => (admitted self input).hold input
  | .poorQuality => (admitted self input).rejectQuality input
  | .measured => (admitted self input).evaluateMeasurement input

def update : CargoSwingMonitor × CargoSwingResult :=
  (self.advance input, (self.advance input).result)

end Update

def machine [SwingMath] (config : CargoSwingConfig) :
    Machine CargoSwingMonitor CargoSwingInput CargoSwingResult where
  start := .new config
  step := update

end CargoSwingMonitor

end NdtSlam
