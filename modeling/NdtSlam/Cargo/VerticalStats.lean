import Mathlib.Algebra.Order.Archimedean.Basic
import Mathlib.Data.List.Dedup
import Mathlib.Data.List.Sort
import NdtSlam.Cargo.PoseAuthorityIdentity
import NdtSlam.Foundation.Rigid

/-! What the points of a suspended cargo say about its height. -/

namespace NdtSlam

structure CargoBottomFusionConfig where
  accumulationWindowSec : Scalar := 0.50
  staleResetSec : Scalar := 0.80
  stableHoldSec : Scalar := 0.50
  maxTransformSkewSec : Scalar := 0.03
  backwardsToleranceSec : Scalar := 1.0e-4
  maxAccumulatedPoints : Nat := 20000
  pointsMinPoints : Nat := 40
  pointsMinVisibleHeight : Scalar := 0.18
  pointsMinBottomBandPoints : Nat := 12
  pointsMinBottomBandXyCells : Nat := 3
  pointsMinBottomBandPointRatio : Scalar := 0.06
  pointsMinBottomBandXyCellRatio : Scalar := 0.10
  pointsMinBottomSpanRatio : Scalar := 0.30
  pointsMinVerticalBins : Nat := 4
  pointsVerticalBinSize : Scalar := 0.10
  pointsMaxVerticalGap : Scalar := 0.30
  priorHeightTolerance : Scalar := 0.30
  mapDiffMinPoints : Nat := 20
  mapStaticMinPoints : Nat := 24
  mapMinVisibleHeight : Scalar := 0.10
  mapMinBottomBandPoints : Nat := 5
  mapMinBottomBandXyCells : Nat := 2
  mapMinBottomBandPointRatio : Scalar := 0.03
  mapMinBottomBandXyCellRatio : Scalar := 0.05
  bottomBandHeight : Scalar := 0.12
  xyCellSize : Scalar := 0.10
  footprintMargin : Scalar := 0.12
  minFootprintSize : Scalar := 0.05
  maxFootprintSize : Scalar := 10.0
  pointsUncertaintyMin : Scalar := 0.035
  mapDiffUncertaintyMin : Scalar := 0.070
  mapStaticUncertaintyMin : Scalar := 0.120
  originHeightUncertaintyMin : Scalar := 0.100
  directTopFrozenUncertaintyMin : Scalar := 0.060
  recentStableUncertaintyMin : Scalar := 0.100
  invalidUncertainty : Scalar := 1.0
  tailUncertaintyGain : Scalar := 1.5
  sparseUncertaintyGain : Scalar := 0.10
  stableAgeUncertaintyPerSec : Scalar := 0.20
  pointsConfidenceBase : Scalar := 0.82
  mapDiffConfidenceBase : Scalar := 0.67
  mapStaticConfidenceBase : Scalar := 0.52
  originHeightConfidenceBase : Scalar := 0.58
  directTopFrozenConfidenceBase : Scalar := 0.74
  recentStableConfidenceBase : Scalar := 0.45
  emaAlpha : Scalar := 0.35
  directUpdateMaxJump : Scalar := 0.15
  softUpdateMaxJump : Scalar := 0.40
  softUpdateAlpha : Scalar := 0.15
  largeJumpConfirmFrames : Nat := 3
  largeJumpConfirmationTolerance : Scalar := 0.10
  minimumPriorHeight : Scalar := 0.10
  maximumPriorHeight : Scalar := 5.00

structure CargoBottomObservation where
  trackValid : Bool := false
  trackId : Nat := 0
  stampSec : Scalar := 0
  poseAuthority : TemporalEvidenceAuthority := {}
  transformStampSec : Scalar := .nan
  tMapBase : Isometry := {}
  pointsBase : List Vec3 := []
  currentTopValid : Bool := false
  currentTopSupportValid : Bool := false
  currentTopZBase : Scalar := 0
  frozenThicknessValid : Bool := false
  frozenThicknessM : Scalar := 0
  frozenThicknessStampSec : Scalar := 0
  frozenThicknessConfidence : Scalar := 0
  mapDiffHeightValid : Bool := false
  mapDiffHeightM : Scalar := 0
  mapStaticHeightValid : Bool := false
  mapStaticHeightM : Scalar := 0
  originHeightValid : Bool := false
  originHeightM : Scalar := 0
  priorHeightValid : Bool := false
  priorHeightM : Scalar := 0
  footprintValid : Bool := false
  footprintCenterBase : Vec2 := {}
  footprintSizeXy : Vec2 := {}
  footprintYawBaseRad : Scalar := 0
  trackCenterValid : Bool := false
  trackCenterBase : Vec3 := {}

structure CargoVerticalStats where
  valid : Bool := false
  supportStrong : Bool := false
  finitePoints : Nat := 0
  z02 : Scalar := 0
  z05 : Scalar := 0
  z50 : Scalar := 0
  z95 : Scalar := 0
  visibleHeight : Scalar := 0
  bottomBandPoints : Nat := 0
  occupiedXyCells : Nat := 0
  bottomBandXyCells : Nat := 0
  bottomBandPointRatio : Scalar := 0
  bottomBandXyCellRatio : Scalar := 0
  bottomBandSpanX : Scalar := 0
  bottomBandSpanY : Scalar := 0
  bottomBandSpanXRatio : Scalar := 0
  bottomBandSpanYRatio : Scalar := 0
  occupiedVerticalBins : Nat := 0
  maxVerticalGap : Scalar := 0
  rejectReason : String := ""

def Vec2.minCoeff (a : Vec2) : Scalar := .minOf a.x a.y

def Vec2.maxCoeff (a : Vec2) : Scalar := .maxOf a.x a.y

def Vec2.cwiseAbs (a : Vec2) : Vec2 := ⟨a.x.abs, a.y.abs⟩

def Vec2.cwiseMin (a b : Vec2) : Vec2 := ⟨.minOf a.x b.x, .minOf a.y b.y⟩

def Vec2.cwiseMax (a b : Vec2) : Vec2 := ⟨.maxOf a.x b.x, .maxOf a.y b.y⟩

def percentile (values : List Scalar) (q : Scalar) : Scalar :=
  if values.isEmpty then 0
  else
    let sorted := values.insertionSort (· ≤ ·)
    let position := (Scalar.clamp q 0 1 * .ofNat (values.length - 1)).value
    let low := ⌊position⌋.toNat
    let high := ⌈position⌉.toNat
    let fraction : Scalar := .fin (position - low)
    sorted.getD low 0 * (1 - fraction) + sorted.getD high 0 * fraction

def finitePoints (points : List Vec3) : List Vec3 := points.filter Vec3.allFinite

def limitPointsDeterministically (points : List Vec3) (limit : Nat) : List Vec3 :=
  if points.length ≤ limit then points
  else if limit = 0 then []
  else if limit = 1 then points.take 1
  else (List.range limit).map fun i => points.getD (i * (points.length - 1) / (limit - 1)) {}

section Rotations

variable [CircularFunctions]

def footprintLocal (center : Vec2) (yaw : Scalar) (point : Vec3) : Vec2 :=
  let delta := point.head2 - center
  ⟨cos yaw * delta.x + sin yaw * delta.y, -sin yaw * delta.x + cos yaw * delta.y⟩

def filterToFootprint (points : List Vec3) (observation : CargoBottomObservation)
    (margin : Scalar) : List Vec3 :=
  if !observation.footprintValid || !observation.footprintCenterBase.allFinite ||
      !observation.footprintSizeXy.allFinite || observation.footprintSizeXy.minCoeff ≤ 0 then points
  else
    let margins : Scalar := .maxOf 0 margin
    let half : Vec2 :=
      ⟨0.5 * observation.footprintSizeXy.x.abs + margins,
        0.5 * observation.footprintSizeXy.y.abs + margins⟩
    points.filter fun point =>
      let localPoint := footprintLocal observation.footprintCenterBase
        observation.footprintYawBaseRad point
      !(half.x < localPoint.x.abs || half.y < localPoint.y.abs : Bool)

def binIndex (coordinate size : Scalar) : Int := ⌊(coordinate / size).value⌋

def CargoBottomObservation.footprintSize (observation : CargoBottomObservation) : Vec2 :=
  if observation.footprintValid then observation.footprintSizeXy.cwiseAbs else {}

def maxBinGap (bins : List Int) (size : Scalar) : Scalar :=
  (bins.zip bins.tail).foldl
    (fun widest pair => .maxOf widest (.fin (pair.2 - pair.1 - 1 : Int) * size)) 0

def analyzeVertical (config : CargoBottomFusionConfig) (observation : CargoBottomObservation)
    (input : List Vec3) : CargoVerticalStats :=
  let points := finitePoints input
  if points.length < config.pointsMinPoints || config.xyCellSize ≤ 0 ||
      config.bottomBandHeight ≤ 0 then
    { finitePoints := points.length
      rejectReason :=
        if points.length < config.pointsMinPoints then "too_few_points"
        else "invalid_support_config" }
  else
    let footprintSize := observation.footprintSize
    let orientedCoordinates := observation.footprintCenterBase.allFinite &&
      0 < footprintSize.minCoeff && observation.footprintYawBaseRad.isFinite
    let toLocal := fun point : Vec3 =>
      if orientedCoordinates then
        footprintLocal observation.footprintCenterBase observation.footprintYawBaseRad point
      else point.head2
    let cellOf := fun point : Vec3 =>
      (binIndex (toLocal point).x config.xyCellSize, binIndex (toLocal point).y config.xyCellSize)
    let lowest := fun points : List Vec3 =>
      points.foldl (fun low point => low.cwiseMin (toLocal point)) (⟨.posInf, .posInf⟩ : Vec2)
    let highest := fun points : List Vec3 =>
      points.foldl (fun high point => high.cwiseMax (toLocal point)) (⟨.negInf, .negInf⟩ : Vec2)
    let zValues := points.map Vec3.z
    let allCells := (points.map cellOf).dedup
    let z02 := percentile zValues 0.02
    let z05 := percentile zValues 0.05
    let z50 := percentile zValues 0.50
    let z95 := percentile zValues 0.95
    let visibleHeight := z95 - z05
    -- Continuity is judged over the robust body only, so that outliers leave no false gaps.
    let body := points.filter fun point =>
      !(point.z < z02 - 1.0e-4 || z95 + 1.0e-4 < point.z : Bool)
    let verticalBins :=
      ((body.map fun point => binIndex point.z config.pointsVerticalBinSize).insertionSort
        (· ≤ ·)).dedup
    let maxVerticalGap := maxBinGap verticalBins config.pointsVerticalBinSize
    let bandTop := z05 + config.bottomBandHeight
    let band := points.filter fun point => z02 - 1.0e-4 ≤ point.z && point.z ≤ bandTop
    let bandCells := (band.map cellOf).dedup
    let bottomBandPointRatio := Scalar.ofNat band.length / .ofNat points.length
    let bottomBandXyCellRatio : Scalar :=
      if allCells.isEmpty then 0 else .ofNat bandCells.length / .ofNat allCells.length
    let inferredSize := (highest points - lowest points).cwiseMax ⟨0, 0⟩
    let span : Vec2 :=
      if band.isEmpty then {} else (highest band - lowest band).cwiseMax ⟨0, 0⟩
    let denomX := if 0 < footprintSize.x then footprintSize.x else inferredSize.x
    let denomY := if 0 < footprintSize.y then footprintSize.y else inferredSize.y
    let bottomBandSpanXRatio : Scalar :=
      if !band.isEmpty && 1.0e-4 < denomX then span.x / denomX else 0
    let bottomBandSpanYRatio : Scalar :=
      if !band.isEmpty && 1.0e-4 < denomY then span.y / denomY else 0
    let priorConsistent := !observation.priorHeightValid ||
      (observation.priorHeightM.isFinite &&
        (visibleHeight - observation.priorHeightM).abs ≤ config.priorHeightTolerance)
    let valid := z02.isFinite && z05.isFinite && z50.isFinite && z95.isFinite && 0 < visibleHeight
    { valid
      supportStrong := valid && config.pointsMinVisibleHeight ≤ visibleHeight &&
        config.pointsMinBottomBandPoints ≤ band.length &&
        config.pointsMinBottomBandXyCells ≤ bandCells.length &&
        config.pointsMinBottomBandPointRatio ≤ bottomBandPointRatio &&
        config.pointsMinBottomBandXyCellRatio ≤ bottomBandXyCellRatio &&
        config.pointsMinBottomSpanRatio ≤ bottomBandSpanXRatio &&
        config.pointsMinBottomSpanRatio ≤ bottomBandSpanYRatio &&
        config.pointsMinVerticalBins ≤ verticalBins.length &&
        maxVerticalGap ≤ config.pointsMaxVerticalGap && priorConsistent
      finitePoints := points.length
      z02, z05, z50, z95, visibleHeight
      bottomBandPoints := band.length
      occupiedXyCells := allCells.length
      bottomBandXyCells := bandCells.length
      bottomBandPointRatio, bottomBandXyCellRatio
      bottomBandSpanX := span.x
      bottomBandSpanY := span.y
      bottomBandSpanXRatio, bottomBandSpanYRatio
      occupiedVerticalBins := verticalBins.length
      maxVerticalGap
      rejectReason :=
        if !valid then "invalid_percentiles"
        else if visibleHeight < config.pointsMinVisibleHeight then "visible_height_too_small"
        else if band.length < config.pointsMinBottomBandPoints then "bottom_band_points_too_few"
        else if bandCells.length < config.pointsMinBottomBandXyCells then
          "bottom_band_cells_too_few"
        else if bottomBandPointRatio < config.pointsMinBottomBandPointRatio then
          "bottom_band_point_ratio_too_small"
        else if bottomBandXyCellRatio < config.pointsMinBottomBandXyCellRatio then
          "bottom_band_cell_ratio_too_small"
        else if bottomBandSpanXRatio < config.pointsMinBottomSpanRatio ||
            bottomBandSpanYRatio < config.pointsMinBottomSpanRatio then
          "bottom_band_lateral_span_too_small"
        else if verticalBins.length < config.pointsMinVerticalBins then "vertical_bins_too_few"
        else if config.pointsMaxVerticalGap < maxVerticalGap then "vertical_continuity_gap"
        else if !priorConsistent then "prior_height_mismatch"
        else "accepted" }

end Rotations

def candidateUncertainty (stats : CargoVerticalStats) (minimum : Scalar)
    (config : CargoBottomFusionConfig) : Scalar :=
  let lowerTail : Scalar := .maxOf 0 (stats.z05 - stats.z02)
  let sparse : Scalar := 1 - Scalar.clamp stats.bottomBandXyCellRatio 0 1
  Scalar.clamp
    (minimum + config.tailUncertaintyGain * lowerTail + config.sparseUncertaintyGain * sparse)
    minimum config.invalidUncertainty

def candidateConfidence (stats : CargoVerticalStats) (base : Scalar) : Scalar :=
  let pointSupport := Scalar.clamp (stats.bottomBandPointRatio / 0.20) 0 1
  let cellSupport := Scalar.clamp (stats.bottomBandXyCellRatio / 0.40) 0 1
  Scalar.clamp (base * (0.55 + 0.20 * pointSupport + 0.25 * cellSupport)) 0 1

def inferFootprint (points : List Vec3) : Option (Vec2 × Vec2) :=
  let finite := finitePoints points
  if finite.length < 4 then none
  else
    let x05 := percentile (finite.map Vec3.x) 0.05
    let x95 := percentile (finite.map Vec3.x) 0.95
    let y05 := percentile (finite.map Vec3.y) 0.05
    let y95 := percentile (finite.map Vec3.y) 0.95
    some (⟨0.5 * (x05 + x95), 0.5 * (y05 + y95)⟩, ⟨x95 - x05, y95 - y05⟩)

structure CargoBoxGeometry where
  valid : Bool := false
  centerBase : Vec3 := {}
  sizeBase : Vec3 := {}
  centerMap : Vec3 := {}
  sizeMap : Vec3 := {}
  bottomZBase : Scalar := 0
  topZBase : Scalar := 0
  bottomZMap : Scalar := 0
  topZMap : Scalar := 0
  cornersBase : List Vec3 := List.replicate 8 {}
  cornersMap : List Vec3 := List.replicate 8 {}

def Vec3.cwiseMin (a b : Vec3) : Vec3 := ⟨.minOf a.x b.x, .minOf a.y b.y, .minOf a.z b.z⟩

def Vec3.cwiseMax (a b : Vec3) : Vec3 := ⟨.maxOf a.x b.x, .maxOf a.y b.y, .maxOf a.z b.z⟩

def Vec3.minCoeff (a : Vec3) : Scalar := .minOf (.minOf a.x a.y) a.z

def boxFootprint (observation : CargoBottomObservation) (selectedPoints : List Vec3)
    (memoryCenter memorySize : Vec2) : Option (Vec2 × Vec2) :=
  if observation.footprintValid && observation.footprintCenterBase.allFinite &&
      observation.footprintSizeXy.allFinite && observation.footprintYawBaseRad.isFinite then
    some (observation.footprintCenterBase, observation.footprintSizeXy.cwiseAbs)
  else
    let (center, size) := (inferFootprint selectedPoints).getD (memoryCenter, memorySize)
    if center.allFinite && size.allFinite then some (center, size) else none

def CargoBoxGeometry.Spans (geometry : CargoBoxGeometry) (bottomZ topZ : Scalar) : Prop :=
  geometry.valid = true → geometry.bottomZBase = bottomZ ∧ geometry.topZBase = topZ

theorem CargoBoxGeometry.empty_spans (bottomZ topZ : Scalar) :
    ({} : CargoBoxGeometry).Spans bottomZ topZ :=
  fun valid => absurd valid (by simp)

section Corners

variable [CircularFunctions]

def boxCorners (center size : Vec2) (yaw bottomZ topZ : Scalar) : List Vec3 :=
  let hx := 0.5 * size.x
  let hy := 0.5 * size.y
  [bottomZ, topZ].flatMap fun z => [-hy, hy].flatMap fun localY => [-hx, hx].map fun localX =>
    ⟨center.x + cos yaw * localX - sin yaw * localY,
      center.y + sin yaw * localX + cos yaw * localY, z⟩

def turnedBox (transform : Isometry) (center size : Vec2) (yaw bottomZ topZ : Scalar) :
    CargoBoxGeometry :=
  let cornersBase := boxCorners center size yaw bottomZ topZ
  let cornersMap := cornersBase.map transform.apply
  if cornersMap.any fun corner => !corner.allFinite then {}
  else
    let first := cornersMap.headD {}
    let centerBase : Vec3 := ⟨center.x, center.y, 0.5 * (bottomZ + topZ)⟩
    let sizeBase : Vec3 := ⟨size.x, size.y, topZ - bottomZ⟩
    let centerMap := (cornersMap.foldl (· + ·) ({} : Vec3)).divide 8
    let sizeMap := cornersMap.foldl Vec3.cwiseMax first - cornersMap.foldl Vec3.cwiseMin first
    let heights := cornersMap.map Vec3.z
    let bottomZMap : Scalar :=
      .minOf (.minOf (heights.getD 0 0) (heights.getD 1 0))
        (.minOf (heights.getD 2 0) (heights.getD 3 0))
    let topZMap : Scalar :=
      .maxOf (.maxOf (heights.getD 4 0) (heights.getD 5 0))
        (.maxOf (heights.getD 6 0) (heights.getD 7 0))
    { valid := centerBase.allFinite && centerMap.allFinite && sizeBase.allFinite &&
        sizeMap.allFinite && 0 < sizeBase.minCoeff && 0 ≤ sizeMap.minCoeff &&
        bottomZMap ≤ topZMap
      centerBase, sizeBase, centerMap, sizeMap
      bottomZBase := bottomZ
      topZBase := topZ
      bottomZMap, topZMap, cornersBase, cornersMap }

def makeGeometry (observation : CargoBottomObservation) (selectedPoints : List Vec3)
    (bottomZ topZ : Scalar) (memoryCenter memorySize : Vec2) (config : CargoBottomFusionConfig) :
    CargoBoxGeometry :=
  if !validRigidTransform observation.tMapBase || !bottomZ.isFinite || !topZ.isFinite ||
      topZ ≤ bottomZ then {}
  else
    match boxFootprint observation selectedPoints memoryCenter memorySize with
    | none => {}
    | some (center, tight) =>
      let margin := 2 * Scalar.maxOf 0 config.footprintMargin
      let size : Vec2 := ⟨tight.x + margin, tight.y + margin⟩
      let yaw := if observation.footprintValid then observation.footprintYawBaseRad else 0
      if size.minCoeff < config.minFootprintSize || config.maxFootprintSize < size.maxCoeff then {}
      else turnedBox observation.tMapBase center size yaw bottomZ topZ

theorem turnedBox_spans (transform : Isometry) (center size : Vec2) (yaw bottomZ topZ : Scalar) :
    (turnedBox transform center size yaw bottomZ topZ).Spans bottomZ topZ := by
  unfold turnedBox
  dsimp only
  split
  · exact CargoBoxGeometry.empty_spans bottomZ topZ
  · exact fun _ => ⟨rfl, rfl⟩

theorem makeGeometry_spans (observation : CargoBottomObservation) (selectedPoints : List Vec3)
    (bottomZ topZ : Scalar) (memoryCenter memorySize : Vec2) (config : CargoBottomFusionConfig) :
    (makeGeometry observation selectedPoints bottomZ topZ memoryCenter memorySize config).Spans
      bottomZ topZ := by
  -- Every way out before the last one gives the empty box.
  unfold makeGeometry
  split
  · exact CargoBoxGeometry.empty_spans bottomZ topZ
  · split
    · exact CargoBoxGeometry.empty_spans bottomZ topZ
    · dsimp only
      split
      · exact CargoBoxGeometry.empty_spans bottomZ topZ
      · exact turnedBox_spans _ _ _ _ bottomZ topZ

end Corners
end NdtSlam
