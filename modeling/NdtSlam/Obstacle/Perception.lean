import Mathlib.Data.List.Sort
import NdtSlam.Foundation.Outcome
import NdtSlam.Foundation.Rigid
import NdtSlam.Safety.Evaluator

/-! The perception of obstacles: the returns of one frame, grouped into clusters. -/

namespace NdtSlam

structure ObstaclePerceptionConfig where
  futureStampToleranceSec : Scalar := 0.05
  maximumCloudAgeSec : Scalar := 0.50
  minimumRoiFinitePoints : Nat := 20
  minimumRoiCoverageRatio : Scalar := 0.05
  clusterToleranceM : Scalar := 0.25
  minimumClusterPoints : Nat := 5
  topPercentile : Scalar := 0.95
  bottomPercentile : Scalar := 0.05
  verticalBinSizeM : Scalar := 0.10
  uncertaintyFloorM : Scalar := 0.05
  uncertaintyMaxM : Scalar := 0.30

structure ObstaclePerceptionInput where
  sourceStampSec : Scalar := 0
  sourceSequence : Nat := 0
  frameId : String := "base_link"
  queryFootprint : CargoObbFootprint := {}
  cloudBase : Option (List Vec3) := none
  observationValid : Bool := false
  cloudAgeSec : Scalar := .posInf
  roiFinitePoints : Nat := 0
  roiCoverageRatio : Scalar := 0

structure ObstaclePerceptionReport extends ObstaclePerceptionResult where
  sourceStampSec : Scalar := 0
  sourceSequence : Nat := 0
  frameId : String := "base_link"
  executed : Bool := false
  queryHorizontalValid : Bool := false
  finiteFilterExecuted : Bool := false
  clusteringAttempted : Bool := false
  clusteringCompleted : Bool := false
  clusterCount : Nat := 0

def validHorizontalFootprint (footprint : CargoObbFootprint) : Bool :=
  footprint.valid && footprint.centerBase.allFinite &&
    footprint.lengthM.isFinite && 0 < footprint.lengthM &&
    footprint.widthM.isFinite && 0 < footprint.widthM &&
    footprint.yawBaseRad.isFinite

variable (config : ObstaclePerceptionConfig)

def ObstaclePerceptionConfig.faults : List (String × Bool) :=
  [("future_stamp_tolerance_sec",
      !config.futureStampToleranceSec.isFinite || config.futureStampToleranceSec < 0),
   ("maximum_cloud_age_sec",
      !config.maximumCloudAgeSec.isFinite || config.maximumCloudAgeSec < 0),
   ("minimum_roi_finite_points", config.minimumRoiFinitePoints == 0),
   ("minimum_roi_coverage_ratio",
      !config.minimumRoiCoverageRatio.isFinite || config.minimumRoiCoverageRatio < 0 ||
        1 < config.minimumRoiCoverageRatio),
   ("cluster_tolerance_m", !config.clusterToleranceM.isFinite || config.clusterToleranceM ≤ 0),
   ("minimum_cluster_points",
      config.minimumClusterPoints == 0 || 2147483647 < config.minimumClusterPoints),
   ("top_percentile",
      !config.topPercentile.isFinite || config.topPercentile < 0 || 1 < config.topPercentile),
   ("bottom_percentile",
      !config.bottomPercentile.isFinite || config.bottomPercentile < 0 ||
        config.topPercentile ≤ config.bottomPercentile),
   ("vertical_bin_size_m", !config.verticalBinSizeM.isFinite || config.verticalBinSizeM ≤ 0),
   ("uncertainty_floor_m", !config.uncertaintyFloorM.isFinite || config.uncertaintyFloorM < 0),
   ("uncertainty_max_m",
      !config.uncertaintyMaxM.isFinite || config.uncertaintyMaxM < config.uncertaintyFloorM)]

def validateObstaclePerceptionConfig : Option String :=
  (config.faults.find? fun fault => fault.2).map fun fault => fault.1

def nearestRankPercentile (values : List Scalar) (percentile : Scalar) : Scalar :=
  let rank := max 1 (min ⌈(percentile * .ofNat values.length).value⌉.toNat values.length)
  (values.insertionSort (· ≤ ·)).getD (rank - 1) .nan

variable (cloud : List Vec3)

def finiteReturns : List (Vec3 × Nat) :=
  cloud.zipIdx.filter fun entry => entry.1.allFinite

def finiteCloud : List Vec3 := (finiteReturns cloud).map fun entry => entry.1

def finiteSourceIndices : List Int :=
  (finiteReturns cloud).map fun entry => (entry.2 : Int)

section Measures

variable [CircularFunctions] [EuclideanNorm]

def pointToCargoObbDistance2D (point : Vec2) (footprint : CargoObbFootprint) : Scalar :=
  if !point.allFinite || !footprint.valid || !footprint.centerBase.allFinite ||
      footprint.lengthM ≤ 0 || footprint.widthM ≤ 0 || !footprint.yawBaseRad.isFinite then .posInf
  else
    let delta := point - footprint.centerBase
    let cosine := cos footprint.yawBaseRad
    let sine := sin footprint.yawBaseRad
    let localX := cosine * delta.x + sine * delta.y
    let localY := -sine * delta.x + cosine * delta.y
    let dx := Scalar.maxOf (localX.abs - 0.5 * footprint.lengthM) 0
    let dy := Scalar.maxOf (localY.abs - 0.5 * footprint.widthM) 0
    (⟨dx, dy⟩ : Vec2).norm

def nearerPoint (footprint : CargoObbFootprint) (nearest : Scalar × Vec3) (point : Vec3) :
    Scalar × Vec3 :=
  let distance := pointToCargoObbDistance2D point.head2 footprint
  if distance < nearest.1 then (distance, point) else nearest

variable (config : ObstaclePerceptionConfig)

def verticalContinuity (zValues : List Scalar) (bottom top span : Scalar) : Scalar :=
  let occupied := (zValues.filter fun z => !(z < bottom || top < z)).map fun z =>
    ⌊((z - bottom) / config.verticalBinSizeM).value⌋
  let expected := max 1 (⌊(span / config.verticalBinSizeM).value⌋ + 1)
  .clamp (.ofNat occupied.dedup.length / .fin expected) 0 1

def measureCluster (footprint : CargoObbFootprint) (clusterIndex : Nat) (pointIndices : List Int)
    (points : List Vec3) :
    ObstaclePerceptionCluster :=
  let zValues := points.map fun point => point.z
  let nearest := points.foldl (nearerPoint footprint) (.posInf, {})
  let topZ95 := nearestRankPercentile zValues config.topPercentile
  let bottomZ05 := nearestRankPercentile zValues config.bottomPercentile
  let maximumZ := zValues.tail.foldl Scalar.maxOf (zValues.headD .nan)
  let span := Scalar.maxOf 0 (topZ95 - bottomZ05)
  let tailSpread := Scalar.maxOf 0 (maximumZ - topZ95)
  { clusterIndex
    pointCount := points.length
    footprintDistanceM := nearest.1
    topZ95M := topZ95
    bottomZ05M := bottomZ05
    minimumZM := zValues.tail.foldl Scalar.minOf (zValues.headD .nan)
    maximumZM := maximumZ
    verticalSpanM := span
    verticalContinuityRatio := verticalContinuity config zValues bottomZ05 topZ95 span
    tailSpreadM := tailSpread
    obstacleUncertaintyM :=
      .clamp (config.uncertaintyFloorM + tailSpread) config.uncertaintyFloorM
        config.uncertaintyMaxM
    centroidBase := (points.foldl (· + ·) ({} : Vec3)).divide (.ofNat points.length)
    nearestPointBase := nearest.2
    pointIndices }

def addCluster (footprint : CargoObbFootprint) (cloud : List Vec3)
    (clusters : List ObstaclePerceptionCluster) (group : List Int × Nat) :
    Except String (List ObstaclePerceptionCluster) := do
  if group.1.isEmpty then return clusters
  refuseIf (group.1.any fun index => index < 0 || (finiteSourceIndices cloud).length ≤ index)
    "cluster_index_out_of_range"
  let cluster := measureCluster config footprint group.2
    (group.1.map fun index => (finiteSourceIndices cloud).getD index.toNat 0)
    (group.1.map fun index => (finiteCloud cloud).getD index.toNat {})
  refuseIf (!cluster.footprintDistanceM.isFinite || !cluster.topZ95M.isFinite ||
      !cluster.bottomZ05M.isFinite || !cluster.obstacleUncertaintyM.isFinite)
    "non_finite_cluster_result"
  return clusters ++ [cluster]

def observationSufficient (input : ObstaclePerceptionInput) : Bool :=
  input.observationValid && input.cloudAgeSec.isFinite &&
    !(input.cloudAgeSec < -config.futureStampToleranceSec) &&
    !(config.maximumCloudAgeSec < input.cloudAgeSec) &&
    !(input.roiFinitePoints < config.minimumRoiFinitePoints) &&
    input.roiCoverageRatio.isFinite && !(input.roiCoverageRatio < config.minimumRoiCoverageRatio)

abbrev ClusterExtraction := Scalar → Nat → List Vec3 → Except String (List (List Int))

def perceiveObstacles (extract : ClusterExtraction) (config : ObstaclePerceptionConfig)
    (input : ObstaclePerceptionInput) : ObstaclePerceptionReport :=
  let report : ObstaclePerceptionReport := {
    sourceStampSec := input.sourceStampSec
    sourceSequence := input.sourceSequence
    frameId := input.frameId
    executed := true }
  match validateObstaclePerceptionConfig config with
  | some field => { report with reason := "invalid_config:" ++ field }
  | none =>
    let queried :=
      { report with queryHorizontalValid := validHorizontalFootprint input.queryFootprint }
    match input.cloudBase with
    | none => { queried with reason := "invalid_horizontal_query" }
    | some cloud =>
      if !validHorizontalFootprint input.queryFootprint then
        { queried with reason := "invalid_horizontal_query" }
      else if !observationSufficient config input then
        { queried with reason := "obstacle_observation_insufficient" }
      else
        let filtered := {
          queried with
          finiteFilterExecuted := true
          finiteInputPoints := (finiteCloud cloud).length }
        if (finiteCloud cloud).isEmpty then
          { filtered with valid := true, reason := "clear_no_external_obstacle" }
        else if (finiteCloud cloud).length < config.minimumClusterPoints then
          { filtered with reason := "sparse_obstacle_returns" }
        else
          let attempted := { filtered with clusteringAttempted := true }
          match extract config.clusterToleranceM config.minimumClusterPoints
              (finiteCloud cloud) with
          | .error _ => { attempted with reason := "clustering_failed" }
          | .ok groups =>
            let clustered := { attempted with clusteringCompleted := true }
            match groups.zipIdx.foldlM (addCluster config input.queryFootprint cloud) [] with
            | .error reason => { clustered with reason := reason }
            | .ok clusters =>
              let counted :=
                { clustered with clusters := clusters, clusterCount := clusters.length }
              if clusters.isEmpty then
                { counted with reason := "obstacle_clusters_insufficient" }
              else { counted with valid := true, reason := "obstacle_clusters_ready" }

end Measures
end NdtSlam
