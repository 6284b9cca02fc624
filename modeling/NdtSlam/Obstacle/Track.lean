import Mathlib.Data.List.Sort
import NdtSlam.Cargo.ConfigValidation
import NdtSlam.Cargo.PoseAuthorityIdentity
import NdtSlam.Foundation.Vector

/-! Observed obstacle clusters and the tracks that collect them over time. -/

namespace NdtSlam

inductive ObstacleSupportKind where
  | denseCurrentFrame
  | sparseMultiFrame
  deriving DecidableEq

structure SparseObstacleSupportFrame where
  stampSec : Scalar := 0
  occupiedMapCells : List Int := []

inductive ExternalProvenance where
  | none
  | outsideCargoShellOnly
  | preCargoOccupancy
  | staticMapMatch
  | cargoMovedAwayPersistence
  | dualLidarConsensus
  deriving DecidableEq

def authorizesStaticObstacle (provenance : ExternalProvenance) : Bool :=
  provenance == .preCargoOccupancy || provenance == .staticMapMatch ||
    provenance == .cargoMovedAwayPersistence || provenance == .dualLidarConsensus

structure CargoObstacleTrackerConfig where
  confirmFrames : Int := 3
  minimumPoints : Nat := 20
  level1WarningDistanceM : Scalar := 3.0
  level2WarningDistanceM : Scalar := 5.0
  acquisitionDistanceM : Scalar := 8.0
  requireFarFieldHistoryForWarnings : Bool := true
  farHistoryConfirmFrames : Int := 3
  farHistoryConfirmDurationSec : Scalar := 0.2
  embeddedDistanceThresholdM : Scalar := 0.05
  maximumObservationGapSec : Scalar := 0.60
  staleTrackSec : Scalar := 1.00
  associationMaxCentroidDistanceM : Scalar := 0.75
  associationMaxTopStepM : Scalar := 0.75
  associationNeighborCellRadius : Int := 1
  staticTrackCellOverlapMin : Scalar := 0.20
  staticTrackIouMin : Scalar := 0.10
  staticProvenanceMinCargoMotionM : Scalar := 0.30
  requireStaticCargoForWarning : Bool := true
  requireLargeGeometryForWarning : Bool := false
  staticCargoMinVoxelPoints : Nat := 80
  staticCargoMinRawEquivalentPoints : Nat := 0
  staticCargoMinXyAreaM2 : Scalar := 0.50
  staticCargoMinLongSideM : Scalar := 0.80
  staticCargoMinHeightSpanM : Scalar := 0.40
  staticCargoMinOccupiedCells : Nat := 12
  knownStaticConfirmFrames : Int := 3
  staticCargoConfirmFrames : Int := 8
  staticCargoConfirmSec : Scalar := 1.0
  staticVelocityThresholdMps : Scalar := 0.08

structure CargoObstacleObservation where
  sourceIndex : Nat := 0
  centroidMap : Vec3 := {}
  topZ95Map : Scalar := .nan
  bottomZ05Map : Scalar := 0
  verticalContinuityRatio : Scalar := 1
  entirelyAboveCargo : Bool := false
  footprintDistanceM : Scalar := .posInf
  conservativeClearanceM : Scalar := .nan
  hazardGeometryValid : Bool := true
  horizontalUncertaintyM : Scalar := 0
  pointCount : Nat := 0
  rawEquivalentPointCount : Nat := 0
  xyAreaM2 : Scalar := 0
  longSideM : Scalar := 0
  heightSpanM : Scalar := 0
  occupiedCells : Nat := 0
  occupiedMapCells : List Int := []
  cargoCenterMap : Vec2 := {}
  cargoCenterValid : Bool := false
  warningCode : Nat := 0
  warningEligible : Bool := true
  sourceValidated : Bool := true
  provenance : ExternalProvenance := .none
  poseAuthority : TemporalEvidenceAuthority := {}
  certifiedStaticProvenance : Bool := false

structure CargoObstacleTrack where
  trackId : Nat := 0
  centroidMap : Vec3 := {}
  velocityMap : Vec3 := {}
  topZ95Map : Scalar := .nan
  bottomZ05Map : Scalar := 0
  verticalContinuityRatio : Scalar := 1
  entirelyAboveCargo : Bool := false
  footprintDistanceM : Scalar := .posInf
  conservativeClearanceM : Scalar := .nan
  currentHazardGeometryValid : Bool := false
  pointCount : Nat := 0
  warningCode : Nat := 0
  totalConsecutiveObservations : Nat := 0
  validatedConsecutiveObservations : Nat := 0
  geometryValidatedConsecutiveObservations : Nat := 0
  staticProvenanceConsecutiveObservations : Nat := 0
  staticProvenanceFirstStampSec : Scalar := 0
  consecutiveObservations : Nat := 0
  firstStampSec : Scalar := 0
  lastStampSec : Scalar := 0
  lastObservationCycle : Nat := 0
  observedThisCycle : Bool := false
  confirmed : Bool := false
  staticObstacle : Bool := false
  largeClusterGeometryValid : Bool := false
  provenance : ExternalProvenance := .none
  provenanceValid : Bool := false
  separatedValidatedObservations : Nat := 0
  separatedObstacleHistoryValid : Bool := false
  currentEmbedded : Bool := false
  farFieldValidatedObservations : Nat := 0
  farFieldFirstStampSec : Scalar := 0
  farFieldDurationSec : Scalar := 0
  farFieldHistoryValid : Bool := false
  certifiedStaticProvenance : Bool := false
  currentNearField : Bool := false
  occupiedMapCells : List Int := []
  identityAnchorMapCells : List Int := []
  firstCargoCenterMap : Vec2 := {}
  firstCargoCenterValid : Bool := false
  maximumCargoDisplacementM : Scalar := 0
  lastCellOverlap : Scalar := 0
  lastCellIou : Scalar := 0
  lastNeighborCellOverlap : Scalar := 0
  lastAnchorCellOverlap : Scalar := 0
  lastAssociationCost : Scalar := 0
  associationAmbiguous : Bool := false
  associationResetReason : String := ""
  poseAuthority : TemporalEvidenceAuthority := {}
  currentSourceValidated : Bool := false
  currentWarningEligible : Bool := false
  currentSourceIndex : Nat := 0
  supportKind : ObstacleSupportKind := .denseCurrentFrame
  realCurrentPointCount : Nat := 0
  sparseSupportRing : List SparseObstacleSupportFrame := []
  sparseIndependentFrames : Nat := 0
  sparseToDenseThisCycle : Bool := false

namespace ConfigCheck

def unit (field : String) (value : Scalar) : ConfigCheck :=
  ⟨field, if !value.isFinite then some "non_finite"
    else if value ≤ 0 || 1 < value then some "outside_0_exclusive_1_inclusive" else none⟩

end ConfigCheck

variable (config : CargoObstacleTrackerConfig)

def CargoObstacleTrackerConfig.checks : List ConfigCheck :=
  [.failsWhen "confirm_frames" "must_be_at_least_2" (config.confirmFrames < 2),
   .failsWhen "minimum_points" "must_be_positive" (config.minimumPoints == 0),
   .failsWhen "far_history_confirm_frames" "must_be_at_least_2"
     (config.farHistoryConfirmFrames < 2),
   .nonnegative "far_history_confirm_duration_sec" config.farHistoryConfirmDurationSec,
   .positive "level1_warning_distance_m" config.level1WarningDistanceM,
   .positive "level2_warning_distance_m" config.level2WarningDistanceM,
   .failsWhen "level2_warning_distance_m" "must_exceed_level1"
     (config.level1WarningDistanceM.isFinite && config.level2WarningDistanceM.isFinite &&
       config.level2WarningDistanceM ≤ config.level1WarningDistanceM),
   .positive "acquisition_distance_m" config.acquisitionDistanceM,
   .failsWhen "acquisition_distance_m" "must_exceed_level2"
     (config.acquisitionDistanceM.isFinite && config.level2WarningDistanceM.isFinite &&
       config.acquisitionDistanceM ≤ config.level2WarningDistanceM),
   .nonnegative "embedded_distance_threshold_m" config.embeddedDistanceThresholdM,
   .failsWhen "embedded_distance_threshold_m" "must_be_below_level1"
     (config.embeddedDistanceThresholdM.isFinite && config.level1WarningDistanceM.isFinite &&
       config.level1WarningDistanceM ≤ config.embeddedDistanceThresholdM),
   .positive "maximum_observation_gap_sec" config.maximumObservationGapSec,
   .positive "stale_track_sec" config.staleTrackSec,
   .failsWhen "stale_track_sec" "below_observation_gap"
     (config.staleTrackSec.isFinite && config.maximumObservationGapSec.isFinite &&
       config.staleTrackSec < config.maximumObservationGapSec),
   .positive "association_max_centroid_distance_m" config.associationMaxCentroidDistanceM,
   .positive "association_max_top_step_m" config.associationMaxTopStepM,
   .failsWhen "association_neighbor_cell_radius" "outside_0_2"
     (config.associationNeighborCellRadius < 0 || 2 < config.associationNeighborCellRadius),
   .unit "static_track_cell_overlap_min" config.staticTrackCellOverlapMin,
   .unit "static_track_iou_min" config.staticTrackIouMin,
   .nonnegative "static_provenance_min_cargo_motion_m" config.staticProvenanceMinCargoMotionM,
   .failsWhen "static_cargo_min_voxel_points" "below_minimum_points"
     (config.staticCargoMinVoxelPoints < config.minimumPoints),
   .positive "static_cargo_min_xy_area_m2" config.staticCargoMinXyAreaM2,
   .positive "static_cargo_min_long_side_m" config.staticCargoMinLongSideM,
   .positive "static_cargo_min_height_span_m" config.staticCargoMinHeightSpanM,
   .failsWhen "static_cargo_min_occupied_cells" "must_be_positive"
     (config.staticCargoMinOccupiedCells == 0),
   .failsWhen "known_static_confirm_frames" "below_confirm_frames"
     (config.knownStaticConfirmFrames < config.confirmFrames),
   .failsWhen "static_cargo_confirm_frames" "below_confirm_frames"
     (config.staticCargoConfirmFrames < config.confirmFrames),
   .nonnegative "static_cargo_confirm_sec" config.staticCargoConfirmSec,
   .nonnegative "static_velocity_threshold_mps" config.staticVelocityThresholdMps]

def validateCargoObstacleTrackerConfig : CargoConfigValidationResult :=
  ConfigCheck.validate config.checks

namespace CargoObstacleTracker

def level1 : Nat := 17
def level2 : Nat := 18
def clearCode : Nat := 14

def stampEpsilonSec : Scalar := 1.0e-4

def associationCostEpsilon : Scalar := 1.0e-5

def minimumSparseObservationPoints : Nat := 5
def sparseSupportRingCapacity : Nat := 3

def minimumVerticalClearanceM : Scalar := 0.80

def warningCode (code : Nat) : Bool := code == level1 || code == level2

def currentNearHazardGeometryValid (track : CargoObstacleTrack)
    (config : CargoObstacleTrackerConfig) : Bool :=
  track.currentHazardGeometryValid && track.footprintDistanceM.isFinite &&
    0 ≤ track.footprintDistanceM && track.footprintDistanceM ≤ config.level2WarningDistanceM &&
    track.conservativeClearanceM.isFinite &&
    track.conservativeClearanceM < minimumVerticalClearanceM

variable (observation : CargoObstacleObservation) (config : CargoObstacleTrackerConfig)

def qualifiesForFarHistory : Bool :=
  if !observation.sourceValidated || !observation.footprintDistanceM.isFinite ||
      !observation.horizontalUncertaintyM.isFinite || observation.horizontalUncertaintyM < 0 then
    false
  else
    -- The distance less its uncertainty is what lies beyond the range for sure.
    config.level2WarningDistanceM <
        observation.footprintDistanceM - observation.horizontalUncertaintyM &&
      observation.footprintDistanceM ≤ config.acquisitionDistanceM

def warningDistanceValid : Bool :=
  if observation.warningCode == level1 then
    observation.footprintDistanceM ≤ config.level1WarningDistanceM
  else
    observation.warningCode == level2 &&
      config.level1WarningDistanceM < observation.footprintDistanceM &&
      observation.footprintDistanceM ≤ config.level2WarningDistanceM

def decisionCodeValid : Bool :=
  if !observation.hazardGeometryValid then
    -- Without hazard geometry nothing but a clear code is acceptable.
    !observation.warningEligible && observation.warningCode == clearCode &&
      observation.footprintDistanceM ≤ config.acquisitionDistanceM
  else if observation.warningEligible then
    warningCode observation.warningCode && warningDistanceValid observation config
  else
    observation.warningCode == clearCode &&
      config.level2WarningDistanceM < observation.footprintDistanceM &&
      observation.footprintDistanceM ≤ config.acquisitionDistanceM

def validObservation : Bool :=
  observation.centroidMap.allFinite && observation.topZ95Map.isFinite &&
    observation.bottomZ05Map.isFinite && observation.bottomZ05Map ≤ observation.topZ95Map &&
    observation.verticalContinuityRatio.isFinite && 0 ≤ observation.verticalContinuityRatio &&
    observation.verticalContinuityRatio ≤ 1 &&
    (!observation.warningEligible || !observation.entirelyAboveCargo) &&
    observation.footprintDistanceM.isFinite && 0 ≤ observation.footprintDistanceM &&
    (!observation.hazardGeometryValid || observation.conservativeClearanceM.isFinite) &&
    observation.horizontalUncertaintyM.isFinite && 0 ≤ observation.horizontalUncertaintyM &&
    minimumSparseObservationPoints ≤ observation.pointCount && decisionCodeValid observation config

def sparseObservation : Bool :=
  minimumSparseObservationPoints ≤ observation.pointCount &&
    observation.pointCount < config.minimumPoints

def supportKindOf : ObstacleSupportKind :=
  if sparseObservation observation config then .sparseMultiFrame else .denseCurrentFrame

def hasLargeStaticCargoGeometry : Bool :=
  config.staticCargoMinVoxelPoints ≤ observation.pointCount &&
    (config.staticCargoMinRawEquivalentPoints == 0 ||
      config.staticCargoMinRawEquivalentPoints ≤ observation.rawEquivalentPointCount) &&
    observation.xyAreaM2.isFinite && config.staticCargoMinXyAreaM2 ≤ observation.xyAreaM2 &&
    observation.longSideM.isFinite && config.staticCargoMinLongSideM ≤ observation.longSideM &&
    observation.heightSpanM.isFinite &&
    config.staticCargoMinHeightSpanM ≤ observation.heightSpanM &&
    config.staticCargoMinOccupiedCells ≤ observation.occupiedCells

def warningPriority (code : Nat) : Nat :=
  if code == level1 then 2 else if code == level2 then 1 else 0

def moreDangerous (candidate current : CargoObstacleTrack) : Bool :=
  -- Severity comes first.
  if warningPriority candidate.warningCode != warningPriority current.warningCode then
    warningPriority current.warningCode < warningPriority candidate.warningCode
  else if candidate.conservativeClearanceM.isFinite != current.conservativeClearanceM.isFinite then
    candidate.conservativeClearanceM.isFinite
  else if candidate.conservativeClearanceM.isFinite &&
      !candidate.conservativeClearanceM.same current.conservativeClearanceM then
    candidate.conservativeClearanceM < current.conservativeClearanceM
  else if !candidate.footprintDistanceM.same current.footprintDistanceM then
    candidate.footprintDistanceM < current.footprintDistanceM
  else candidate.trackId < current.trackId

section Cells

def countFrom (left : Int) (next : List Int → Nat) : List Int → Nat
  | [] => 0
  | right :: rights =>
    if left < right then next (right :: rights)
    else if right < left then countFrom left next rights
    else next rights + 1

def cellIntersectionCount : List Int → List Int → Nat
  | [], _ => 0
  -- Both lists ascend, so that one sweep over them meets every common cell.
  | left :: lefts, rights => countFrom left (cellIntersectionCount lefts) rights

variable (left right : List Int)

def cellOverlap : Scalar :=
  let denominator := min left.length right.length
  if denominator == 0 then 0
  else .ofNat (cellIntersectionCount left right) / .ofNat denominator

def cellIou : Scalar :=
  let intersection := cellIntersectionCount left right
  let union := left.length + right.length - intersection
  if union == 0 then 0 else .ofNat intersection / .ofNat union

def unpackCell (key : Int) : Int × Int := (key / 4294967296, key.bmod 4294967296)

def packCell (x y : Int) : Int := x.bmod 4294967296 * 4294967296 + y % 4294967296

def neighborOffsets (radius : Int) : List Int :=
  (List.range (2 * radius.toNat + 1)).map fun step => (step : Int) - radius

def directionalNeighborCellOverlap (source target : List Int) (radius : Int) : Scalar :=
  if source.isEmpty || target.isEmpty || radius ≤ 0 then 0
  else
    let matched := source.countP fun key =>
      -- A cell is matched as soon as one of its neighbors belongs to the target.
      (neighborOffsets radius).any fun dx =>
        (neighborOffsets radius).any fun dy =>
          target.contains (packCell ((unpackCell key).1 + dx) ((unpackCell key).2 + dy))
    .ofNat matched / .ofNat source.length

def neighborCellOverlap (radius : Int) : Scalar :=
  .maxOf (directionalNeighborCellOverlap left right radius)
    (directionalNeighborCellOverlap right left radius)

end Cells

section CanonicalOrder

def cellsLess : List Int → List Int → Bool
  | [], [] => false
  | [], _ :: _ => true
  | _ :: _, [] => false
  | left :: lefts, right :: rights => left < right || (left == right && cellsLess lefts rights)

variable (observation : CargoObstacleObservation)

def canonicalClearance : Scalar :=
  if observation.conservativeClearanceM.isFinite then observation.conservativeClearanceM
  else .posInf

def canonicalNumbers : List Scalar :=
  [observation.centroidMap.x, observation.centroidMap.y, observation.centroidMap.z,
    observation.topZ95Map, observation.bottomZ05Map, observation.footprintDistanceM,
    canonicalClearance observation]

def canonicalTailLess (left right : CargoObstacleObservation) : Bool :=
  if left.hazardGeometryValid != right.hazardGeometryValid then right.hazardGeometryValid
  else if left.sourceIndex != right.sourceIndex then left.sourceIndex < right.sourceIndex
  else cellsLess left.occupiedMapCells right.occupiedMapCells

def numbersLess (tail : Bool) : List Scalar → List Scalar → Bool
  | left :: lefts, right :: rights =>
    left < right || (!(right < left) && numbersLess tail lefts rights)
  | _, _ => tail

def canonicalObservationLess (left right : CargoObstacleObservation) : Bool :=
  numbersLess (canonicalTailLess left right) (canonicalNumbers left) (canonicalNumbers right)

end CanonicalOrder

end CargoObstacleTracker
end NdtSlam
