import NdtSlam.Cargo.ConfigValidation
import NdtSlam.Foundation.Selection
import NdtSlam.Safety.HazardEvaluator

/-! The evaluation of one frame of obstacle clusters against the load on the hook. -/

namespace NdtSlam

structure CargoObbFootprint where
  valid : Bool := false
  centerBase : Vec2 := {}
  lengthM : Scalar := 0
  widthM : Scalar := 0
  yawBaseRad : Scalar := 0
  minZ : Scalar := 0
  maxZ : Scalar := 0

structure CargoHeightState where
  valid : Bool := false
  stale : Bool := false
  bottomZ : Scalar := .nan
  bottomUncertaintyM : Scalar := .nan
  stampSec : Scalar := .nan

structure CargoSafetyConfig where
  level1DistanceM : Scalar := 3.0
  level2DistanceM : Scalar := 5.0
  minimumVerticalClearanceM : Scalar := 0.80
  cargoBottomExtraMarginM : Scalar := 0.05
  futureStampToleranceSec : Scalar := 0.05
  maximumObstacleCloudAgeSec : Scalar := 0.50
  minimumRoiFinitePoints : Nat := 20
  minimumRoiCoverageRatio : Scalar := 0.05
  obstacleTopPercentile : Scalar := 0.95
  obstacleBottomPercentile : Scalar := 0.05
  obstacleVerticalBinSizeM : Scalar := 0.10
  obstacleMinVerticalContinuityRatio : Scalar := 0.45
  overheadSeparationMarginM : Scalar := 0.10
  obstacleUncertaintyFloorM : Scalar := 0.05
  obstacleUncertaintyMaxM : Scalar := 0.30
  obstacleClusterToleranceM : Scalar := 0.25
  obstacleMinClusterPoints : Nat := 5
  obstacleMaxClusterPoints : Nat := 10000

def CargoSafetyConfig.checks (config : CargoSafetyConfig) : List ConfigCheck :=
  [.nonnegative "level1_distance_m" config.level1DistanceM,
   .nonnegative "level2_distance_m" config.level2DistanceM,
   .failsWhen "level2_distance_m" "must_be_at_least_level1"
     (config.level1DistanceM.isFinite && config.level2DistanceM.isFinite &&
       config.level2DistanceM < config.level1DistanceM),
   .failsWhen "minimum_vertical_clearance_m" "non_finite"
     (!config.minimumVerticalClearanceM.isFinite),
   .nonnegative "cargo_bottom_extra_margin_m" config.cargoBottomExtraMarginM,
   .nonnegative "future_stamp_tolerance_sec" config.futureStampToleranceSec,
   .nonnegative "maximum_obstacle_cloud_age_sec" config.maximumObstacleCloudAgeSec,
   .failsWhen "minimum_roi_finite_points" "must_be_positive"
     (config.minimumRoiFinitePoints == 0),
   .ratio "minimum_roi_coverage_ratio" config.minimumRoiCoverageRatio,
   .ratio "obstacle_top_percentile" config.obstacleTopPercentile,
   .ratio "obstacle_bottom_percentile" config.obstacleBottomPercentile,
   .failsWhen "obstacle_bottom_percentile" "must_be_below_top"
     (config.obstacleTopPercentile.isFinite && config.obstacleBottomPercentile.isFinite &&
       config.obstacleTopPercentile ≤ config.obstacleBottomPercentile),
   .failsWhen "obstacle_vertical_bin_size_m" "must_be_positive"
     (!config.obstacleVerticalBinSizeM.isFinite || config.obstacleVerticalBinSizeM ≤ 0),
   .ratio "obstacle_min_vertical_continuity_ratio" config.obstacleMinVerticalContinuityRatio,
   .nonnegative "overhead_separation_margin_m" config.overheadSeparationMarginM,
   .nonnegative "obstacle_uncertainty_floor_m" config.obstacleUncertaintyFloorM,
   .nonnegative "obstacle_uncertainty_max_m" config.obstacleUncertaintyMaxM,
   .failsWhen "obstacle_uncertainty_max_m" "below_floor"
     (config.obstacleUncertaintyFloorM.isFinite && config.obstacleUncertaintyMaxM.isFinite &&
       config.obstacleUncertaintyMaxM < config.obstacleUncertaintyFloorM),
   .failsWhen "obstacle_cluster_tolerance_m" "must_be_positive"
     (!config.obstacleClusterToleranceM.isFinite || config.obstacleClusterToleranceM ≤ 0),
   .failsWhen "obstacle_min_cluster_points" "must_be_positive"
     (config.obstacleMinClusterPoints == 0),
   .failsWhen "obstacle_max_cluster_points" "below_minimum"
     (config.obstacleMaxClusterPoints < config.obstacleMinClusterPoints),
   .failsWhen "obstacle_max_cluster_points" "exceeds_int_range"
     (2147483647 < config.obstacleMaxClusterPoints)]

def validateCargoSafetyConfig (config : CargoSafetyConfig) : CargoConfigValidationResult :=
  ConfigCheck.validate config.checks

structure ObstaclePerceptionResult where
  valid : Bool := false
  finiteInputPoints : Nat := 0
  clusters : List ObstaclePerceptionCluster := []
  reason : String := "not_executed"

structure CargoSafetyInput where
  sourceStampSec : Scalar := 0
  height : CargoHeightState := {}
  footprintBase : CargoObbFootprint := {}
  obstacleCloudBase : Option (List Vec3) := none
  evaluationTimeSec : Scalar := .nan

structure CargoSafetyClusterEvidence where
  valid : Bool := false
  clusterIndex : Nat := 0
  pointCount : Nat := 0
  warningCode : Nat := 14
  footprintDistanceM : Scalar := .posInf
  obstacleTopZ95M : Scalar := .nan
  obstacleBottomZ05M : Scalar := .nan
  obstacleMinZM : Scalar := .nan
  obstacleMaxZM : Scalar := .nan
  obstacleVerticalSpanM : Scalar := .nan
  verticalContinuityRatio : Scalar := 0
  entirelyAboveCargo : Bool := false
  obstacleTailSpreadM : Scalar := .nan
  obstacleUncertaintyM : Scalar := .nan
  conservativeClearanceM : Scalar := .nan
  verticalGeometryUnresolved : Bool := false
  potentialWarningCode : Nat := 0
  centroidBase : Vec3 := {}
  nearestPointBase : Vec3 := {}
  pointIndices : List Int := []
  uncertaintyReason : String := ""

inductive CargoSafetyFault where
  | none
  | cargoHeightInvalid
  | obstacleEvidenceInvalid
  | internalError
  deriving DecidableEq

inductive CargoSafetyEvidenceState where
  | unknown
  | clear
  | hazardConfirmed
  | hazardCandidate
  | trackConfirmationPending
  | sparsePending
  | sourceUnresolved
  | hardFault
  | reviewRequired

structure CargoSafetyResult where
  inputValid : Bool := false
  warningValid : Bool := false
  warningCode : Nat := 0
  fault : CargoSafetyFault := .none
  evidenceState : CargoSafetyEvidenceState := .hardFault
  heightStale : Bool := false
  hasClusterEvidence : Bool := false
  heightAgeSec : Scalar := .nan
  finiteInputPoints : Nat := 0
  evaluatedClusterCount : Nat := 0
  mostDangerousCluster : CargoSafetyClusterEvidence := {}
  clusterEvidence : List CargoSafetyClusterEvidence := []
  reason : String := "invalid_input"

namespace CargoSafetyEvaluator

def safeCode : Nat := 14
def level1Code : Nat := 17
def level2Code : Nat := 18

def isValidFootprint (footprint : CargoObbFootprint) : Bool :=
  footprint.valid && footprint.centerBase.allFinite && footprint.lengthM.isFinite &&
    0 < footprint.lengthM && footprint.widthM.isFinite && 0 < footprint.widthM &&
    footprint.yawBaseRad.isFinite && footprint.minZ.isFinite && footprint.maxZ.isFinite &&
    footprint.minZ < footprint.maxZ

def warningPriority (warningCode : Nat) : Nat :=
  if warningCode == level1Code then 3 else if warningCode == level2Code then 2 else 1

variable (candidate current : CargoSafetyClusterEvidence)

def isMoreDangerous : Bool :=
  if warningPriority candidate.warningCode != warningPriority current.warningCode then
    warningPriority current.warningCode < warningPriority candidate.warningCode
  else if !candidate.conservativeClearanceM.same current.conservativeClearanceM then
    candidate.conservativeClearanceM < current.conservativeClearanceM
  else if !candidate.footprintDistanceM.same current.footprintDistanceM then
    candidate.footprintDistanceM < current.footprintDistanceM
  else candidate.clusterIndex < current.clusterIndex

def isWorseUnresolved : Bool :=
  warningPriority current.potentialWarningCode < warningPriority candidate.potentialWarningCode ||
    (warningPriority candidate.potentialWarningCode ==
        warningPriority current.potentialWarningCode &&
      candidate.conservativeClearanceM < current.conservativeClearanceM)

variable (config : CargoSafetyConfig) (input : CargoSafetyInput)

def conservativeBottom : Scalar :=
  input.height.bottomZ - input.height.bottomUncertaintyM - config.cargoBottomExtraMarginM

def hazardInput : HazardEvaluationInput where
  sourceStampSec := input.sourceStampSec
  safeBottomZM := conservativeBottom config input
  cargoMaxZM := input.footprintBase.maxZ
  overheadSeparationMarginM := config.overheadSeparationMarginM
  minimumVerticalContinuityRatio := config.obstacleMinVerticalContinuityRatio
  verticalGeometryValid := true

def resolvedCode (lowClearance : Bool) (distanceM : Scalar) : Nat :=
  if lowClearance && distanceM ≤ config.level1DistanceM then level1Code
  else if lowClearance && config.level1DistanceM < distanceM &&
      distanceM ≤ config.level2DistanceM then level2Code
  else safeCode

def potentialCode (unresolvedBlocker : Bool) (distanceM : Scalar) : Nat :=
  if unresolvedBlocker then
    if distanceM ≤ config.level1DistanceM then level1Code else level2Code
  else 0

def evidenceOf (perceived : ObstaclePerceptionCluster) : CargoSafetyClusterEvidence :=
  let hazard := HazardEvaluator.evaluate (hazardInput config input) perceived
  let clearance := hazard.assessment.conservativeClearanceM
  let low := clearance < config.minimumVerticalClearanceM
  { valid := true
    clusterIndex := perceived.clusterIndex
    pointCount := perceived.pointCount
    warningCode := resolvedCode config (hazard.lowClearance && low) perceived.footprintDistanceM
    footprintDistanceM := perceived.footprintDistanceM
    obstacleTopZ95M := perceived.topZ95M
    obstacleBottomZ05M := perceived.bottomZ05M
    obstacleMinZM := perceived.minimumZM
    obstacleMaxZM := perceived.maximumZM
    obstacleVerticalSpanM := perceived.verticalSpanM
    verticalContinuityRatio := perceived.verticalContinuityRatio
    entirelyAboveCargo := hazard.entirelyAboveCargo
    obstacleTailSpreadM := perceived.tailSpreadM
    obstacleUncertaintyM := perceived.obstacleUncertaintyM
    conservativeClearanceM := clearance
    verticalGeometryUnresolved := hazard.verticalGeometryUnresolved
    potentialWarningCode := potentialCode config
      (hazard.verticalGeometryUnresolved && low &&
        perceived.footprintDistanceM ≤ config.level2DistanceM)
      perceived.footprintDistanceM
    centroidBase := perceived.centroidBase
    nearestPointBase := perceived.nearestPointBase
    pointIndices := perceived.pointIndices
    uncertaintyReason := "clamp(floor + max(0,z_max-z95), floor, max)" }

def measurable (perceived : ObstaclePerceptionCluster) : Bool :=
  (HazardEvaluator.evaluate (hazardInput config input) perceived).assessment.valid &&
    (evidenceOf config input perceived).footprintDistanceM.isFinite &&
    (evidenceOf config input perceived).obstacleTopZ95M.isFinite &&
    (evidenceOf config input perceived).obstacleUncertaintyM.isFinite &&
    (evidenceOf config input perceived).conservativeClearanceM.isFinite

variable (result : CargoSafetyResult)

def record (evidence : CargoSafetyClusterEvidence) : CargoSafetyResult :=
  let counted := { result with
    evaluatedClusterCount := result.evaluatedClusterCount + 1
    clusterEvidence := result.clusterEvidence ++ [evidence] }
  if !result.hasClusterEvidence || isMoreDangerous evidence result.mostDangerousCluster then
    { counted with mostDangerousCluster := evidence, hasClusterEvidence := true }
  else counted

def evaluateCluster (perceived : ObstaclePerceptionCluster) :
    Except CargoSafetyResult CargoSafetyResult :=
  if !measurable config input perceived then
    .error { result with
      inputValid := false
      fault := .internalError
      reason := "non_finite_cluster_result" }
  else .ok (record result (evidenceOf config input perceived))

def worstUnresolved (evidence : List CargoSafetyClusterEvidence) :
    Option CargoSafetyClusterEvidence :=
  foremost isWorseUnresolved (evidence.filter fun piece => piece.potentialWarningCode != 0)

def announce : CargoSafetyResult :=
  let code := result.mostDangerousCluster.warningCode
  let announced := { result with
    warningValid := true
    warningCode := code
    fault := CargoSafetyFault.none }
  if code == level1Code then
    { announced with evidenceState := .hazardCandidate, reason := "level1_low_clearance" }
  else if code == level2Code then
    { announced with evidenceState := .hazardCandidate, reason := "level2_low_clearance" }
  else { announced with evidenceState := .clear, reason := "clear" }

def conclude : CargoSafetyResult :=
  if !result.hasClusterEvidence then
    { result with
      inputValid := false
      warningValid := false
      warningCode := 0
      fault := .obstacleEvidenceInvalid
      evidenceState := .sparsePending
      reason := "obstacle_clusters_insufficient" }
  else
    match worstUnresolved result.clusterEvidence with
    | none => announce result
    | some unresolved =>
      if warningPriority result.mostDangerousCluster.warningCode <
          warningPriority unresolved.potentialWarningCode then
        { result with
          warningValid := false
          warningCode := 0
          fault := .obstacleEvidenceInvalid
          evidenceState := .sourceUnresolved
          reason := "vertical_continuity_insufficient_low_clearance"
          mostDangerousCluster := unresolved }
      else announce result

def evaluateClusters (clusters : List ObstaclePerceptionCluster) (result : CargoSafetyResult) :
    CargoSafetyResult :=
  if clusters.isEmpty then
    { result with
      warningValid := true
      warningCode := safeCode
      fault := .none
      evidenceState := .clear
      reason := "clear_no_external_obstacle" }
  else
    match clusters.foldlM (evaluateCluster config input) result with
    | .error rejected => rejected
    | .ok recorded => conclude recorded

def perceptionBroken (reason : String) : Bool :=
  "invalid_config:".isPrefixOf reason || reason == "clustering_failed" ||
    reason == "non_finite_cluster_result" || reason == "invalid_horizontal_query"

def heightValuesValid (height : CargoHeightState) : Bool :=
  height.bottomZ.isFinite && height.bottomUncertaintyM.isFinite &&
    !(height.bottomUncertaintyM < 0) && height.stampSec.isFinite

def evaluate (perception : ObstaclePerceptionResult) : CargoSafetyResult :=
  if !(validateCargoSafetyConfig config).valid then
    { fault := .internalError, reason := "invalid_config" }
  else if !input.evaluationTimeSec.isFinite || input.obstacleCloudBase.isNone then
    { fault := .internalError, reason := "invalid_input" }
  else if !input.height.valid then { fault := .cargoHeightInvalid, reason := "height_invalid" }
  else if !heightValuesValid input.height then
    { fault := .cargoHeightInvalid, reason := "invalid_height_values" }
  else
    let aged : CargoSafetyResult :=
      { heightAgeSec := input.evaluationTimeSec - input.height.stampSec }
    if aged.heightAgeSec < -config.futureStampToleranceSec then
      { aged with fault := .cargoHeightInvalid, reason := "height_timestamp_in_future" }
    else if input.height.stale then
      { aged with heightStale := true, fault := .cargoHeightInvalid, reason := "height_stale" }
    else if !isValidFootprint input.footprintBase then
      { aged with fault := .internalError, reason := "invalid_input" }
    else
      let counted := { aged with finiteInputPoints := perception.finiteInputPoints }
      if !perception.valid then
        { counted with
          fault := if perceptionBroken perception.reason then .internalError
            else .obstacleEvidenceInvalid
          evidenceState := .sparsePending
          reason := perception.reason }
      else evaluateClusters config input perception.clusters { counted with inputValid := true }

end CargoSafetyEvaluator
end NdtSlam
