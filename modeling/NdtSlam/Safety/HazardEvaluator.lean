import NdtSlam.Foundation.Vector

/-! The geometric relation of one obstacle cluster to the load above it. -/

namespace NdtSlam

structure ObstaclePerceptionCluster where
  clusterIndex : Nat := 0
  pointCount : Nat := 0
  footprintDistanceM : Scalar := .posInf
  topZ95M : Scalar := .nan
  bottomZ05M : Scalar := .nan
  minimumZM : Scalar := .nan
  maximumZM : Scalar := .nan
  verticalSpanM : Scalar := .nan
  verticalContinuityRatio : Scalar := 0
  tailSpreadM : Scalar := .nan
  obstacleUncertaintyM : Scalar := .nan
  centroidBase : Vec3 := {}
  nearestPointBase : Vec3 := {}
  pointIndices : List Int := []

structure HazardAssessment where
  sourceStampSec : Scalar := 0
  cargoLifecycleId : Nat := 0
  cargoTrackId : Nat := 0
  obstacleTrackId : Nat := 0
  footprintDistanceM : Scalar := .posInf
  obstacleTopZM : Scalar := .nan
  safeBottomZM : Scalar := .nan
  conservativeClearanceM : Scalar := .nan
  combinedUncertaintyM : Scalar := .nan
  valid : Bool := false

structure HazardEvaluationInput where
  sourceStampSec : Scalar := 0
  cargoLifecycleId : Nat := 0
  cargoTrackId : Nat := 0
  obstacleTrackId : Nat := 0
  safeBottomZM : Scalar := 0
  cargoMaxZM : Scalar := 0
  overheadSeparationMarginM : Scalar := 0.10
  minimumVerticalContinuityRatio : Scalar := 0.45
  verticalGeometryValid : Bool := false

structure HazardEvaluationResult where
  assessment : HazardAssessment
  entirelyAboveCargo : Bool := false
  verticallyContinuous : Bool := false
  lowClearance : Bool := false
  verticalGeometryUnresolved : Bool := false
  reason : String := "not_evaluated"

namespace HazardEvaluator

def geometryValid (input : HazardEvaluationInput) (cluster : ObstaclePerceptionCluster) : Bool :=
  input.verticalGeometryValid && input.safeBottomZM.isFinite && input.cargoMaxZM.isFinite &&
    input.overheadSeparationMarginM.isFinite && !(input.overheadSeparationMarginM < 0) &&
    input.minimumVerticalContinuityRatio.isFinite &&
    !(input.minimumVerticalContinuityRatio < 0) &&
    !(1 < input.minimumVerticalContinuityRatio) && cluster.footprintDistanceM.isFinite &&
    cluster.topZ95M.isFinite && cluster.bottomZ05M.isFinite &&
    cluster.obstacleUncertaintyM.isFinite

def conservativeClearance (safeBottomZM : Scalar) (cluster : ObstaclePerceptionCluster) : Scalar :=
  safeBottomZM - (cluster.topZ95M + cluster.obstacleUncertaintyM)

def overhead (cargoMaxZM overheadSeparationMarginM : Scalar)
    (cluster : ObstaclePerceptionCluster) : Bool :=
  cargoMaxZM + overheadSeparationMarginM < cluster.bottomZ05M

def evaluate (input : HazardEvaluationInput) (cluster : ObstaclePerceptionCluster) :
    HazardEvaluationResult :=
  let assessment : HazardAssessment := {
    sourceStampSec := input.sourceStampSec
    cargoLifecycleId := input.cargoLifecycleId
    cargoTrackId := input.cargoTrackId
    obstacleTrackId := input.obstacleTrackId
    footprintDistanceM := cluster.footprintDistanceM
    obstacleTopZM := cluster.topZ95M
    safeBottomZM := input.safeBottomZM
    combinedUncertaintyM := cluster.obstacleUncertaintyM }
  if !geometryValid input cluster then { assessment, reason := "hazard_geometry_invalid" }
  else
    let clearance := conservativeClearance input.safeBottomZM cluster
    let entirelyAboveCargo := overhead input.cargoMaxZM input.overheadSeparationMarginM cluster
    let verticallyContinuous : Bool :=
      input.minimumVerticalContinuityRatio ≤ cluster.verticalContinuityRatio
    let lowClearance := !entirelyAboveCargo && verticallyContinuous
    let valid := clearance.isFinite
    { assessment := { assessment with conservativeClearanceM := clearance, valid }
      entirelyAboveCargo
      verticallyContinuous
      lowClearance
      verticalGeometryUnresolved := valid && !entirelyAboveCargo && !verticallyContinuous
      reason :=
        if valid then
          if lowClearance then "low_clearance_geometry"
          else if entirelyAboveCargo then "overhead_geometry"
          else "vertical_continuity_insufficient"
        else "hazard_result_non_finite" }

theorem geometryValid_finite {input : HazardEvaluationInput}
    {cluster : ObstaclePerceptionCluster} (usable : geometryValid input cluster = true) :
    (∃ safeBottom : ℚ, input.safeBottomZM = .fin safeBottom) ∧
      (∃ distance : ℚ, cluster.footprintDistanceM = .fin distance) ∧
      (∃ top : ℚ, cluster.topZ95M = .fin top) ∧
      ∃ uncertainty : ℚ, cluster.obstacleUncertaintyM = .fin uncertainty := by
  simp only [geometryValid, Bool.and_eq_true, Scalar.isFinite_iff] at usable
  obtain ⟨⟨⟨⟨vertical, distance⟩, top⟩, _⟩, uncertainty⟩ := usable
  exact ⟨vertical.1.1.1.1.1.1.2, distance, top, uncertainty⟩

theorem evaluate_valid {input : HazardEvaluationInput} {cluster : ObstaclePerceptionCluster} :
    (evaluate input cluster).assessment.valid = true ↔ geometryValid input cluster = true := by
  -- Usable geometry has finite heights, whose difference is finite again.
  unfold evaluate
  by_cases usable : geometryValid input cluster = true
  · obtain ⟨⟨safeBottom, bottomValue⟩, _, ⟨top, topValue⟩, uncertainty, uncertaintyValue⟩ :=
      geometryValid_finite usable
    simp [usable, conservativeClearance, bottomValue, topValue, uncertaintyValue]
  · simp [usable]

end HazardEvaluator
end NdtSlam
