import NdtSlam.Alarm.StateMachine

/-! The contract every safety status must meet before its code is published. -/

namespace NdtSlam

structure StatusContractInput where
  schemaValid : Bool := false
  valid : Bool := false
  warningValid : Bool := false
  requestedCode : Int := 0
  warningCode : Int := 0
  faultCode : Int := 0
  faultMask : BitVec 32 := 0
  localizationValid : Bool := false
  hookSignalRole : Int := 1
  hookSignalValid : Bool := false
  hookSignalConflict : Bool := false
  hookLoadState : Int := 0
  noCargoConfirmed : Bool := false
  cargoValid : Bool := false
  cargoTrackId : Nat := 0
  evidenceState : Int := 0
  obstacleValid : Bool := false
  obstacleTrackId : Nat := 0
  obstacleValidatedStreak : Nat := 0
  obstacleLargeGeometryValid : Bool := false
  obstacleProvenanceValid : Bool := false
  confidence : Scalar := 0
  obstacleCount : Nat := 0
  nearestObstacleDistanceM : Scalar := .nan
  obstacleTopZMap : Scalar := .nan
  obstacleUncertaintyM : Scalar := .nan
  conservativeVerticalClearanceM : Scalar := .nan

structure StatusContractResult where
  code : Int := 35
  valid : Bool := false
  clearWithoutObstacleGeometry : Bool := false
  reason : String := "schema_mismatch"
  deriving DecidableEq

structure StatusContractConfig where
  level1DistanceM : Scalar := 3.0
  level2DistanceM : Scalar := 5.0
  minimumVerticalClearanceM : Scalar := 0.80

def isValidStatusContractConfig (config : StatusContractConfig) : Bool :=
  -- The inner distance is positive and lies below the outer one.
  config.level1DistanceM.isFinite && config.level2DistanceM.isFinite &&
    config.minimumVerticalClearanceM.isFinite && 0 < config.level1DistanceM &&
    config.level1DistanceM < config.level2DistanceM &&
    0 ≤ config.minimumVerticalClearanceM

namespace StatusContractInput

open AlarmStateMachine

def hookEmpty : Int := 2
def hookLoaded : Int := 3
def hookRoleDisabled : Int := 0
def hookRoleRequired : Int := 1
def hookRoleAuxiliary : Int := 2
def evidenceHazardCandidate : Int := 3
def evidenceReviewRequired : Int := 8

def violation (reason : String) : StatusContractResult := ⟨internalError, false, false, reason⟩

variable (input : StatusContractInput)

def hookRoleValid : Bool :=
  input.hookSignalRole == hookRoleDisabled || input.hookSignalRole == hookRoleRequired ||
    input.hookSignalRole == hookRoleAuxiliary

def gravityRequired : Bool :=
  input.hookSignalRole == hookRoleRequired

def warningCodeValid : Bool :=
  input.warningCode == 0 || input.warningCode == clear || input.warningCode == level1Warning ||
    input.warningCode == level2Warning || input.warningCode == anomalyReview

def faultCodeValid : Bool :=
  input.faultCode == 0 ||
    (systemNotReady ≤ input.faultCode && input.faultCode ≤ internalError)

def requiredMask (faultCode : Int) : BitVec 32 :=
  -- Every fault code owns one bit of the mask.
  if faultCode == systemNotReady then 1
  else if faultCode == localizationInvalid then 2
  else if faultCode == gravityInvalid then 4
  else if faultCode == cargoInvalid then 8
  else if faultCode == obstacleInvalid then 16
  else if faultCode == internalError then 32
  else 0

def hookSupportsEmpty : Bool :=
  !input.gravityRequired || (input.hookSignalValid && input.hookLoadState == hookEmpty)

def hookSupportsLoaded : Bool :=
  !input.gravityRequired || (input.hookSignalValid && input.hookLoadState == hookLoaded)

def safeEmpty : Bool :=
  input.localizationValid && input.hookSupportsEmpty && input.noCargoConfirmed &&
    !input.cargoValid

def validLoaded : Bool :=
  input.localizationValid && input.hookSupportsLoaded && !input.noCargoConfirmed &&
    input.cargoValid && input.obstacleValid

def provisionalPositiveLoaded : Bool :=
  input.localizationValid && input.hookSupportsLoaded && !input.noCargoConfirmed &&
    !input.cargoValid && input.obstacleValid &&
    (input.evidenceState == evidenceHazardCandidate ||
      input.evidenceState == evidenceReviewRequired)

def provisionalTrackContract : Bool :=
  -- Both tracks exist, and the obstacle has been validated with its provenance.
  0 < input.cargoTrackId && 0 < input.obstacleTrackId &&
    0 < input.obstacleValidatedStreak && input.obstacleLargeGeometryValid &&
    input.obstacleProvenanceValid && input.confidence.isFinite && 0 < input.confidence

def clusterGeometryValid : Bool :=
  -- A described obstacle has all its metrics.
  0 < input.obstacleCount && input.nearestObstacleDistanceM.isFinite &&
    0 ≤ input.nearestObstacleDistanceM && input.obstacleTopZMap.isFinite &&
    input.obstacleUncertaintyM.isFinite && 0 ≤ input.obstacleUncertaintyM &&
    input.conservativeVerticalClearanceM.isFinite

variable (config : StatusContractConfig)

def safeGeometry : Bool :=
  config.minimumVerticalClearanceM ≤ input.conservativeVerticalClearanceM ||
    config.level2DistanceM < input.nearestObstacleDistanceM

def level1Geometry : Bool :=
  input.nearestObstacleDistanceM ≤ config.level1DistanceM &&
    input.conservativeVerticalClearanceM < config.minimumVerticalClearanceM

def level2Geometry : Bool :=
  config.level1DistanceM < input.nearestObstacleDistanceM &&
    input.nearestObstacleDistanceM ≤ config.level2DistanceM &&
    input.conservativeVerticalClearanceM < config.minimumVerticalClearanceM

def faultStatus : StatusContractResult :=
  -- A fault never comes with a warning beside it.
  if input.requestedCode != input.faultCode || input.warningValid || input.warningCode != 0 ||
      requiredMask input.faultCode == 0 ||
      (input.faultMask &&& requiredMask input.faultCode) == 0 then
    violation "fault_contract_mismatch"
  -- Without a required signal, gravity cannot be at fault.
  else if input.faultCode == gravityInvalid && !input.gravityRequired then
    violation "auxiliary_gravity_fault_forbidden"
  else ⟨input.faultCode, true, false, "fault_status"⟩

def clearStatus : StatusContractResult :=
  if input.safeEmpty then ⟨clear, true, true, "clear_status"⟩
  else if !input.validLoaded then violation "clear_contract_mismatch"
  -- A load without any obstacle needs no geometry.
  else if input.obstacleCount == 0 then ⟨clear, true, true, "clear_status"⟩
  else if !input.clusterGeometryValid then violation "clear_contract_mismatch"
  else if !input.safeGeometry config then violation "clear_geometry_mismatch"
  else ⟨clear, true, false, "clear_status"⟩

def reviewStatus : StatusContractResult :=
  if (!input.validLoaded && !input.provisionalPositiveLoaded) || !input.clusterGeometryValid then
    violation "review_geometry_mismatch"
  else ⟨anomalyReview, true, false, "anomaly_review_status"⟩

def hazardStatus : StatusContractResult :=
  -- A provisional load may warn too, if its track is fully described.
  if (!input.validLoaded && !input.provisionalPositiveLoaded) ||
      (input.provisionalPositiveLoaded && !input.provisionalTrackContract) ||
      !input.clusterGeometryValid ||
      (input.warningCode == level1Warning && !input.level1Geometry config) ||
      (input.warningCode == level2Warning && !input.level2Geometry config) then
    violation "warning_geometry_mismatch"
  else ⟨input.warningCode, true, false, "hazard_status"⟩

end StatusContractInput

open AlarmStateMachine StatusContractInput in
def validateStatusContract (input : StatusContractInput) (config : StatusContractConfig) :
    StatusContractResult :=
  -- The schema and the domains of all codes come before their meaning.
  if !isValidStatusContractConfig config then violation "status_contract_config_invalid"
  else if !input.schemaValid then violation "schema_mismatch"
  else if !input.hookRoleValid then violation "hook_role_invalid"
  else if !input.warningCodeValid || !input.faultCodeValid ||
      !isAllowedCode input.requestedCode then
    violation "unknown_status_code"
  else if input.faultCode != 0 then input.faultStatus
  else if input.faultMask != 0 || !input.warningValid || !input.valid ||
      input.requestedCode != input.warningCode || input.warningCode == 0 then
    violation "warning_contract_mismatch"
  else if input.warningCode == clear then input.clearStatus config
  else if input.warningCode == anomalyReview then input.reviewStatus
  else input.hazardStatus config

end NdtSlam
