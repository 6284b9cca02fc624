import Mathlib.Data.List.Sort
import NdtSlam.Cargo.ConfigValidation
import NdtSlam.Foundation.Selection
import NdtSlam.Foundation.SlidingWindow
import NdtSlam.Foundation.Vector

/-! The fusion of thickness and footprint evidence into the frozen geometry of a cargo. -/

namespace NdtSlam

/-- The root of the standard library, which is irrational in general and therefore given. -/
class GeometryMath where
  sqrt : Scalar → Scalar

inductive CargoThicknessSource where
  | staticOriginTopSupport
  | mapDiffRevealedSupport
  | liveVisibleExtent
  | retiredLockedShape
  | configuredFallback
  deriving DecidableEq

inductive CargoThicknessConstraint where
  | fullMeasurement
  | lowerBound
  | priorOnly
  deriving DecidableEq

inductive CargoGeometryAuthorization where
  | pending
  | positiveOnly
  | formal
  deriving DecidableEq

structure CargoGeometryFusionConfig where
  allowPositiveOnlyWithoutStaticBaseline : Bool := true
  positiveOnlyUncertaintyFloorM : Scalar := 0.25
  allowPositiveOnlyOnSourceConflict : Bool := true
  positiveOnlyConfirmFrames : Int := 3
  minimumConfirmFrames : Int := 5
  shapeConfirmationWindowFrames : Int := 8
  maximumInitialDimensionMadM : Scalar := 0.30
  maximumObservationGapSec : Scalar := 0.50
  maximumSourceDisagreementM : Scalar := 0.25
  maximumFusedUncertaintyM : Scalar := 0.20
  minimumHeightM : Scalar := 0.30
  maximumHeightM : Scalar := 2.00
  huberDeltaM : Scalar := 0.20
  configuredBottomMarginM : Scalar := 0.10
  conservativeShrinkConfirmFrames : Int := 5
  maximumShrinkPerFrameM : Scalar := 0.03
  immediateExpandEnabled : Bool := false
  conservativeExpandConfirmFrames : Int := 8
  minimumLiveShapeConfidenceForExpand : Scalar := 0.85
  minimumLiveDimensionSupport : Nat := 30
  minimumInitialShapeConfidence : Scalar := 0.55
  minimumLiveShapeConfidenceForShrink : Scalar := 0.75
  minimumPhysicalLengthM : Scalar := 0.30
  minimumPhysicalWidthM : Scalar := 0.20
  formalTransitionStartLengthM : Scalar := 0.30
  formalTransitionStartWidthM : Scalar := 0.20
  configuredFallbackIsFormalFloor : Bool := false

structure CargoThicknessObservation where
  source : CargoThicknessSource := .configuredFallback
  heightM : Scalar := .nan
  uncertaintyM : Scalar := .nan
  confidence : Scalar := 0
  valid : Bool := false
  constraint : CargoThicknessConstraint := .fullMeasurement

structure CargoGeometryFrame where
  cargoLifecycleId : Nat := 0
  trackSegmentId : Nat := 0
  stampSec : Scalar := 0
  warningTrackStable : Bool := false
  formalTrackLocked : Bool := false
  centerValid : Bool := false
  center : Vec3 := {}
  footprintValid : Bool := false
  lengthM : Scalar := 0
  widthM : Scalar := 0
  yawRad : Scalar := 0
  observedTopValid : Bool := false
  observedTopM : Scalar := .nan
  topUncertaintyM : Scalar := 0
  trackingUncertaintyM : Scalar := 0
  dimensionSupportPoints : Nat := 0
  dimensionShapeConfidence : Scalar := 0
  dimensionObservationComplete : Bool := false
  staticLengthLowerBoundM : Scalar := 0
  staticWidthLowerBoundM : Scalar := 0
  thickness : List CargoThicknessObservation := []

structure CargoFrozenGeometry where
  valid : Bool := false
  frozen : Bool := false
  formalAuthorized : Bool := false
  degradedLiveOnly : Bool := false
  authorization : CargoGeometryAuthorization := .pending
  sourceConflict : Bool := false
  cargoLifecycleId : Nat := 0
  trackSegmentId : Nat := 0
  center : Vec3 := {}
  lengthM : Scalar := 0
  widthM : Scalar := 0
  heightM : Scalar := 0
  yawRad : Scalar := 0
  heightUncertaintyM : Scalar := 1
  thicknessLowerBoundM : Scalar := 0
  thicknessUpperBoundM : Scalar := 0
  bottomM : Scalar := .nan
  conservativeBottomM : Scalar := .nan
  conservativeTopReferenceM : Scalar := .nan
  conservativeTrackingAllowanceM : Scalar := 0
  conservativeBaselineAllowanceM : Scalar := 0
  conservativeSafetyMarginM : Scalar := 0
  confirmFrames : Nat := 0
  shapeConfirmFrames : Nat := 0
  independentSources : Nat := 0
  acceptedSources : List CargoThicknessSource := []
  reason : String := "not_initialized"

structure WeightedHeight where
  source : CargoThicknessSource
  constraint : CargoThicknessConstraint
  height : Scalar
  uncertainty : Scalar
  weight : Scalar

structure FormalThicknessFusion where
  valid : Bool := false
  height : Scalar := 0
  uncertainty : Scalar := 0
  lowerBound : Scalar := 0
  upperBound : Scalar := 0

structure CargoGeometryFusion where
  config : CargoGeometryFusionConfig := {}
  configValidation : CargoConfigValidationResult := {}
  result : CargoFrozenGeometry := {}
  thicknessConfirmTrackSegmentId : Nat := 0
  thicknessCandidateWindow : List Scalar := []
  thicknessConfirmationModeInitialized : Bool := false
  thicknessConfirmationFormalMode : Bool := false
  lastStampSec : Scalar := 0
  shrinkConfirmCount : Nat := 0
  shrinkTrackSegmentId : Nat := 0
  shrinkQualityWindow : List Bool := []
  shrinkLengthWindow : List Scalar := []
  shrinkWidthWindow : List Scalar := []
  expandConfirmCount : Nat := 0
  expandTrackSegmentId : Nat := 0
  pendingExpandLengthM : Scalar := 0
  pendingExpandWidthM : Scalar := 0
  shapeConfirmCount : Nat := 0
  shapeConfirmTrackSegmentId : Nat := 0
  shapeQualityWindow : List Bool := []
  initialLengthWindow : List Scalar := []
  initialWidthWindow : List Scalar := []
  formalPromotionConfirmCount : Nat := 0
  formalPromotionTrackSegmentId : Nat := 0

/-! ### Evidence -/

def validDimensionEvidence (frame : CargoGeometryFrame) (config : CargoGeometryFusionConfig)
    (minimumShapeConfidence : Scalar) : Bool :=
  frame.footprintValid && frame.lengthM.isFinite && 0 < frame.lengthM && frame.widthM.isFinite &&
    0 < frame.widthM && frame.dimensionObservationComplete &&
    config.minimumLiveDimensionSupport ≤ frame.dimensionSupportPoints &&
    frame.dimensionShapeConfidence.isFinite &&
    minimumShapeConfidence ≤ frame.dimensionShapeConfidence

variable (config : CargoGeometryFusionConfig) (observation : CargoThicknessObservation)

def CargoThicknessObservation.usable : Bool :=
  observation.valid && observation.heightM.isFinite && observation.uncertaintyM.isFinite &&
    observation.confidence.isFinite && config.minimumHeightM ≤ observation.heightM &&
    observation.heightM ≤ config.maximumHeightM && 0 < observation.uncertaintyM &&
    0 < observation.confidence

def weightedHeight : WeightedHeight where
  source := observation.source
  constraint := observation.constraint
  height := observation.heightM
  uncertainty := observation.uncertaintyM
  weight := observation.confidence / (observation.uncertaintyM * observation.uncertaintyM)

def heaviest (observations : List CargoThicknessObservation) : Option CargoThicknessObservation :=
  foremost (fun challenger champion =>
    (weightedHeight champion).weight < (weightedHeight challenger).weight) observations

def bestObservation (frame : CargoGeometryFrame) (source : CargoThicknessSource) :
    Option CargoThicknessObservation :=
  heaviest (frame.thickness.filter fun observation =>
    observation.usable config && observation.source == source)

def weightedMedian (values : List WeightedHeight) : Scalar :=
  let sorted := values.insertionSort fun lhs rhs => ¬rhs.height < lhs.height
  let total := (sorted.map (·.weight)).foldl (· + ·) (0 : Scalar)
  let walk := sorted.foldl (fun (state : Scalar × Option Scalar) value =>
      let cumulative := state.1 + value.weight
      match state.2 with
      | some _ => state
      | none => (cumulative, if 0.5 * total ≤ cumulative then some value.height else none))
    ((0 : Scalar), none)
  match walk.2 with
  | some height => height
  | none => ((sorted.getLast?).map (·.height)).getD 0

def finiteMedian (values : List Scalar) : Scalar :=
  (values.insertionSort (· ≤ ·)).getD (values.length / 2) 0

def finiteMad (values : List Scalar) (median : Scalar) : Scalar :=
  finiteMedian ((values.filter Scalar.isFinite).map fun value => (value - median).abs)

def countTrue (window : List Bool) : Nat := window.count true

section Roots

variable [GeometryMath]

def fuseFormalThicknessPair (values : List WeightedHeight) (config : CargoGeometryFusionConfig) :
    FormalThicknessFusion :=
  if values.length ≠ 2 then {}
  else
    let median := weightedMedian values
    let robustWeight := fun value : WeightedHeight =>
      let residual := (value.height - median).abs
      let huber : Scalar :=
        if residual ≤ config.huberDeltaM then 1 else config.huberDeltaM / residual
      value.weight * huber
    let weightedSum := values.foldl (fun sum value => sum + robustWeight value * value.height)
      (0 : Scalar)
    let robustWeightSum := values.foldl (fun sum value => sum + robustWeight value) (0 : Scalar)
    let divisor := Scalar.maxOf robustWeightSum 1.0e-6
    let height := weightedSum / divisor
    let residualVariance := values.foldl (fun sum value =>
      sum + value.weight * (value.height - height) * (value.height - height)) (0 : Scalar) / divisor
    let uncertainty := GeometryMath.sqrt (1 / divisor + residualVariance)
    { height, uncertainty
      lowerBound := .maxOf config.minimumHeightM (height - uncertainty)
      upperBound := .minOf config.maximumHeightM (height + uncertainty)
      valid := height.isFinite && uncertainty.isFinite &&
        uncertainty ≤ config.maximumFusedUncertaintyM }

end Roots

/-! ### Configurations -/

variable (config : CargoGeometryFusionConfig)

def geometryConfigChecks : List ConfigCheck :=
  [.failsWhen "minimum_confirm_frames" "must_be_positive" (config.minimumConfirmFrames ≤ 0),
    .failsWhen "positive_only_confirm_frames" "must_be_positive"
      (config.positiveOnlyConfirmFrames ≤ 0),
    .failsWhen "shape_confirmation_window_frames" "must_be_positive"
      (config.shapeConfirmationWindowFrames ≤ 0),
    .failsWhen "shape_confirmation_window_frames" "below_minimum_confirm_frames"
      (0 < config.shapeConfirmationWindowFrames &&
        config.shapeConfirmationWindowFrames < config.minimumConfirmFrames),
    .failsWhen "shape_confirmation_window_frames" "below_positive_only_confirm_frames"
      (0 < config.shapeConfirmationWindowFrames &&
        config.shapeConfirmationWindowFrames < config.positiveOnlyConfirmFrames),
    .positive "maximum_initial_dimension_mad_m" config.maximumInitialDimensionMadM,
    .positive "positive_only_uncertainty_floor_m" config.positiveOnlyUncertaintyFloorM,
    .positive "maximum_observation_gap_sec" config.maximumObservationGapSec,
    .positive "maximum_source_disagreement_m" config.maximumSourceDisagreementM,
    .positive "maximum_fused_uncertainty_m" config.maximumFusedUncertaintyM,
    .positive "minimum_height_m" config.minimumHeightM,
    .positive "maximum_height_m" config.maximumHeightM,
    .failsWhen "maximum_height_m" "must_exceed_minimum_height_m"
      (config.minimumHeightM.isFinite && config.maximumHeightM.isFinite &&
        config.maximumHeightM ≤ config.minimumHeightM),
    .positive "huber_delta_m" config.huberDeltaM,
    .nonnegative "configured_bottom_margin_m" config.configuredBottomMarginM,
    .failsWhen "conservative_shrink_confirm_frames" "must_be_positive"
      (config.conservativeShrinkConfirmFrames ≤ 0),
    .positive "maximum_shrink_per_frame_m" config.maximumShrinkPerFrameM,
    .failsWhen "conservative_expand_confirm_frames" "must_be_positive"
      (config.conservativeExpandConfirmFrames ≤ 0),
    .ratio "minimum_live_shape_confidence_for_expand" config.minimumLiveShapeConfidenceForExpand,
    .failsWhen "minimum_live_dimension_support" "must_be_positive"
      (config.minimumLiveDimensionSupport == 0),
    .ratio "minimum_initial_shape_confidence" config.minimumInitialShapeConfidence,
    .ratio "minimum_live_shape_confidence_for_shrink" config.minimumLiveShapeConfidenceForShrink,
    .positive "minimum_physical_length_m" config.minimumPhysicalLengthM,
    .positive "minimum_physical_width_m" config.minimumPhysicalWidthM,
    .positive "formal_transition_start_length_m" config.formalTransitionStartLengthM,
    .failsWhen "formal_transition_start_length_m" "below_minimum_physical_length_m"
      (config.formalTransitionStartLengthM.isFinite && config.minimumPhysicalLengthM.isFinite &&
        config.formalTransitionStartLengthM < config.minimumPhysicalLengthM),
    .positive "formal_transition_start_width_m" config.formalTransitionStartWidthM,
    .failsWhen "formal_transition_start_width_m" "below_minimum_physical_width_m"
      (config.formalTransitionStartWidthM.isFinite && config.minimumPhysicalWidthM.isFinite &&
        config.formalTransitionStartWidthM < config.minimumPhysicalWidthM),
    .failsWhen "configured_fallback_is_formal_floor" "must_remain_false"
      config.configuredFallbackIsFormalFloor]

def validateCargoGeometryFusionConfig :
    CargoConfigValidationResult := ConfigCheck.validate (geometryConfigChecks config)

namespace CargoGeometryFusion

def setConfig (config : CargoGeometryFusionConfig) : CargoGeometryFusion where
  config := config
  configValidation := validateCargoGeometryFusionConfig config

def reset (self : CargoGeometryFusion) : CargoGeometryFusion where
  config := self.config
  configValidation := self.configValidation

end CargoGeometryFusion

/-! ### What a frame says about the thickness -/

structure ThicknessReading where
  staticOrigin : Option WeightedHeight := none
  revealed : Option WeightedHeight := none
  live : Option WeightedHeight := none

def isFull (value : Option WeightedHeight) : Bool :=
  value.any fun height => height.constraint == .fullMeasurement

variable (config : CargoGeometryFusionConfig)

def mutuallyConsistent (lhs rhs : Option WeightedHeight) : Bool :=
  match lhs, rhs with
  | some first, some second =>
    (first.height - second.height).abs ≤ config.maximumSourceDisagreementM
  | _, _ => false

variable (frame : CargoGeometryFrame)

def bestBySource (source : CargoThicknessSource) : Option WeightedHeight :=
  (bestObservation config frame source).map weightedHeight

def confirmationReading :
    ThicknessReading where
  staticOrigin := bestBySource config frame .staticOriginTopSupport
  revealed := bestBySource config frame .mapDiffRevealedSupport
  live := bestBySource config frame .liveVisibleExtent

def promotionReading :
    ThicknessReading where
  staticOrigin := bestBySource config frame .staticOriginTopSupport
  revealed := bestBySource config frame .mapDiffRevealedSupport
  -- Only full measurements of the visible extent compete here.
  live := (heaviest (frame.thickness.filter fun observation =>
    observation.usable config && observation.source == .liveVisibleExtent &&
      observation.constraint == .fullMeasurement)).map weightedHeight

def independentSources : Nat :=
  [CargoThicknessSource.staticOriginTopSupport, .mapDiffRevealedSupport, .liveVisibleExtent].countP
    fun source => (bestBySource config frame source).any fun height =>
      height.constraint != .priorOnly

namespace ThicknessReading

variable (config : CargoGeometryFusionConfig) (reading : ThicknessReading)

def bestStatic : Option WeightedHeight :=
  match reading.revealed with
  | some height => some height
  | none => reading.staticOrigin

def staticRevealedFormal : Bool :=
  isFull reading.staticOrigin && isFull reading.revealed &&
    mutuallyConsistent config reading.staticOrigin reading.revealed

def staticLiveFormal : Bool :=
  isFull reading.bestStatic && isFull reading.live &&
    mutuallyConsistent config reading.bestStatic reading.live

def formalPair : List WeightedHeight :=
  if reading.staticRevealedFormal config then
    reading.staticOrigin.toList ++ reading.revealed.toList
  else if reading.staticLiveFormal config then reading.bestStatic.toList ++ reading.live.toList
  else []

def sourceConflict : Bool :=
  match reading.bestStatic, reading.live with
  | some support, some live => support.height + config.maximumSourceDisagreementM < live.height
  | _, _ => false

def lowerBoundCompatible : Bool :=
  match reading.bestStatic, reading.live with
  | some support, some live =>
    support.constraint == .fullMeasurement && live.constraint == .lowerBound &&
      live.height ≤ support.height + config.maximumSourceDisagreementM
  | _, _ => false

def fullMeasurementCompatible : Bool :=
  match reading.bestStatic, reading.live with
  | some support, some live =>
    support.constraint == .fullMeasurement && live.constraint == .fullMeasurement &&
      (live.height - support.height).abs ≤ config.maximumSourceDisagreementM
  | _, _ => false

def positiveOnlyCandidate (frame : CargoGeometryFrame) : Bool :=
  frame.warningTrackStable && reading.live.isSome &&
    ((reading.bestStatic.isNone && config.allowPositiveOnlyWithoutStaticBaseline) ||
      (reading.bestStatic.isSome && reading.lowerBoundCompatible config) ||
      reading.fullMeasurementCompatible config ||
      (reading.sourceConflict config && config.allowPositiveOnlyOnSourceConflict))

end ThicknessReading

def hasFormalPair (config : CargoGeometryFusionConfig) (frame : CargoGeometryFrame) : Bool :=
  frame.formalTrackLocked &&
    ((confirmationReading config frame).staticRevealedFormal config ||
      (confirmationReading config frame).staticLiveFormal config)

def CargoGeometryFrame.placed (frame : CargoGeometryFrame) : Bool :=
  frame.centerValid && frame.center.allFinite && frame.footprintValid && frame.lengthM.isFinite &&
    frame.widthM.isFinite && frame.yawRad.isFinite && !(frame.lengthM ≤ 0) && !(frame.widthM ≤ 0)

def fusePositiveOnly (values : List WeightedHeight) (config : CargoGeometryFusionConfig) :
    FormalThicknessFusion :=
  let lowest := values.foldl (fun bound value => Scalar.maxOf bound value.height) (0 : Scalar)
  let highest := values.foldl (fun bound value =>
    Scalar.maxOf bound (value.height + value.uncertainty)) (0 : Scalar)
  let height := Scalar.clamp lowest config.minimumHeightM config.maximumHeightM
  let upper := Scalar.clamp highest height config.maximumHeightM
  let uncertainty := Scalar.maxOf (upper - height) config.positiveOnlyUncertaintyFloorM
  { height, uncertainty
    lowerBound := lowest
    upperBound := .minOf config.maximumHeightM (.maxOf upper (height + uncertainty)) }

def CargoFrozenGeometry.withBottom (config : CargoGeometryFusionConfig)
    (frame : CargoGeometryFrame) (thickness : Scalar) (result : CargoFrozenGeometry) :
    CargoFrozenGeometry :=
  let topReference := result.bottomM + result.heightM
  let tracking := Scalar.maxOf 0 frame.trackingUncertaintyM
  let baseline := if result.formalAuthorized then Scalar.maxOf 0 frame.topUncertaintyM
    else .maxOf 0.15 (3 * .maxOf 0 frame.topUncertaintyM)
  { result with
    conservativeTopReferenceM := topReference
    conservativeTrackingAllowanceM := tracking
    conservativeBaselineAllowanceM := baseline
    conservativeSafetyMarginM := config.configuredBottomMarginM
    conservativeBottomM :=
      topReference - thickness - tracking - baseline - config.configuredBottomMarginM }

namespace CargoGeometryFusion

/-! ### Maintaining a frozen geometry -/

def promotionConsistent [GeometryMath] (config : CargoGeometryFusionConfig)
    (frame : CargoGeometryFrame) : Bool :=
  frame.formalTrackLocked && frame.centerValid && frame.center.allFinite &&
    validDimensionEvidence frame config config.minimumLiveShapeConfidenceForShrink &&
    (fuseFormalThicknessPair ((promotionReading config frame).formalPair config) config).valid

def alignPromotion (self : CargoGeometryFusion) (frame : CargoGeometryFrame) (continuous : Bool) :
    CargoGeometryFusion :=
  if frame.trackSegmentId ≠ self.formalPromotionTrackSegmentId || !continuous then
    { self with
      formalPromotionConfirmCount := 0
      formalPromotionTrackSegmentId := frame.trackSegmentId }
  else self

def promote [GeometryMath] (self : CargoGeometryFusion) (frame : CargoGeometryFrame) :
    CargoGeometryFusion :=
  let reading := promotionReading self.config frame
  let promoted := fuseFormalThicknessPair (reading.formalPair self.config) self.config
  let count := if promotionConsistent self.config frame then self.formalPromotionConfirmCount + 1
    else 0
  let counted := { self with formalPromotionConfirmCount := count }
  if self.config.minimumConfirmFrames ≤ (count : Int) then
    { counted with
      result := { self.result with
        formalAuthorized := true
        degradedLiveOnly := false
        authorization := .formal
        sourceConflict := false
        independentSources := 2
        acceptedSources := (reading.formalPair self.config).map (·.source)
        heightM := promoted.height
        heightUncertaintyM := promoted.uncertainty
        thicknessLowerBoundM := promoted.lowerBound
        thicknessUpperBoundM := promoted.upperBound } }
  else counted

variable (self : CargoGeometryFusion)

def clearShrink : CargoGeometryFusion :=
  { self with
    shrinkConfirmCount := 0
    shrinkQualityWindow := []
    shrinkLengthWindow := []
    shrinkWidthWindow := [] }

def clearExpand : CargoGeometryFusion :=
  { self with
    expandConfirmCount := 0
    pendingExpandLengthM := 0
    pendingExpandWidthM := 0 }

def alignDimensions (frame : CargoGeometryFrame) (continuous : Bool) : CargoGeometryFusion :=
  let shrinking := if frame.trackSegmentId ≠ self.shrinkTrackSegmentId then
      { self.clearShrink with shrinkTrackSegmentId := frame.trackSegmentId }
    else self
  let expanding :=
    if frame.trackSegmentId ≠ shrinking.expandTrackSegmentId || !continuous then
      { shrinking.clearExpand with expandTrackSegmentId := frame.trackSegmentId }
    else shrinking
  if !continuous then expanding.clearShrink else expanding

def followPose (config : CargoGeometryFusionConfig) (frame : CargoGeometryFrame)
    (result : CargoFrozenGeometry) : CargoFrozenGeometry :=
  let centered := frame.centerValid && frame.center.allFinite
  let bottomM := if frame.observedTopValid && frame.observedTopM.isFinite then
      frame.observedTopM - result.heightM
    else if centered then frame.center.z - 0.5 * result.heightM
    else result.bottomM
  let posed := { result with
    trackSegmentId := frame.trackSegmentId
    center := if centered then frame.center else result.center
    bottomM }
  if bottomM.isFinite then
    posed.withBottom config frame (if result.formalAuthorized then
      result.heightM + result.heightUncertaintyM
      else .maxOf result.heightM result.thicknessUpperBoundM)
  else posed

def pushShrink (quality : Bool) (lengthM widthM : Scalar) : CargoGeometryFusion :=
  let limit := self.config.shapeConfirmationWindowFrames.toNat
  { self with
    shrinkQualityWindow := pushBounded limit self.shrinkQualityWindow quality
    shrinkLengthWindow := pushBounded limit self.shrinkLengthWindow lengthM
    shrinkWidthWindow := pushBounded limit self.shrinkWidthWindow widthM
    shrinkConfirmCount := countTrue (pushBounded limit self.shrinkQualityWindow quality) }

variable (frame : CargoGeometryFrame)

def expandSlowly : CargoGeometryFusion :=
  let supportedLength := Scalar.maxOf self.result.lengthM frame.lengthM
  let supportedWidth := Scalar.maxOf self.result.widthM frame.widthM
  let first := self.expandConfirmCount = 0
  let pending := { self with
    pendingExpandLengthM := if first then supportedLength
      else .minOf self.pendingExpandLengthM supportedLength
    pendingExpandWidthM := if first then supportedWidth
      else .minOf self.pendingExpandWidthM supportedWidth
    expandConfirmCount := self.expandConfirmCount + 1 }
  if self.config.conservativeExpandConfirmFrames ≤ (pending.expandConfirmCount : Int) then
    { pending with
      result := { self.result with
        lengthM := .maxOf self.result.lengthM pending.pendingExpandLengthM
        widthM := .maxOf self.result.widthM pending.pendingExpandWidthM } }.clearExpand
  else pending

def shrinkSlowly : CargoGeometryFusion :=
  let lengths := self.shrinkLengthWindow.filter Scalar.isFinite
  let widths := self.shrinkWidthWindow.filter Scalar.isFinite
  let stable := finiteMad lengths (finiteMedian lengths) ≤ self.config.maximumInitialDimensionMadM ∧
    finiteMad widths (finiteMedian widths) ≤ self.config.maximumInitialDimensionMadM
  let lengthFloor := Scalar.maxOf self.config.minimumPhysicalLengthM
    (.maxOf 0 frame.staticLengthLowerBoundM)
  let widthFloor := Scalar.maxOf self.config.minimumPhysicalWidthM
    (.maxOf 0 frame.staticWidthLowerBoundM)
  if self.config.conservativeShrinkConfirmFrames ≤ (self.shrinkConfirmCount : Int) ∧ stable then
    { self with
      result := { self.result with
        lengthM := .maxOf lengthFloor (.maxOf (finiteMedian lengths)
          (self.result.lengthM - self.config.maximumShrinkPerFrameM))
        widthM := .maxOf widthFloor (.maxOf (finiteMedian widths)
          (self.result.widthM - self.config.maximumShrinkPerFrameM)) } }.clearShrink
  else self

def reshape : CargoGeometryFusion :=
  if validDimensionEvidence frame self.config self.config.minimumLiveShapeConfidenceForShrink then
    let expands := self.result.lengthM < frame.lengthM ∨ self.result.widthM < frame.widthM
    let strong := validDimensionEvidence frame self.config
      self.config.minimumLiveShapeConfidenceForExpand = true
    if self.config.immediateExpandEnabled ∧ expands ∧ strong then
      { self with
        result := { self.result with
          lengthM := .maxOf self.result.lengthM frame.lengthM
          widthM := .maxOf self.result.widthM frame.widthM } }.clearShrink.clearExpand
    else if expands ∧ strong then self.clearShrink.expandSlowly frame
    else if expands then self.clearShrink.clearExpand
    else if frame.lengthM < self.result.lengthM ∨ frame.widthM < self.result.widthM then
      (self.clearExpand.pushShrink true frame.lengthM frame.widthM).shrinkSlowly frame
    else self.clearShrink.clearExpand
  else
    -- Weak evidence may only retain the frozen footprint.
    (self.pushShrink false .nan .nan).clearExpand

def frozenVerdict (result : CargoFrozenGeometry) : CargoFrozenGeometry :=
  let valid := frame.centerValid && frame.center.allFinite && result.bottomM.isFinite
  { result with
    valid
    reason := if valid then
        if result.authorization = .formal then "frozen_formal_geometry_pose_updated"
        else "frozen_positive_only_geometry_pose_updated"
      else "frozen_geometry_pose_or_top_invalid" }

def maintain [GeometryMath] (self : CargoGeometryFusion) (frame : CargoGeometryFrame)
    (continuous : Bool) : CargoGeometryFusion :=
  let aligned := self.alignPromotion frame continuous
  let promoted := if aligned.result.formalAuthorized then aligned else aligned.promote frame
  let ready := promoted.alignDimensions frame continuous
  let posed := { ready with result := followPose ready.config frame ready.result }
  let reshaped := posed.reshape frame
  { reshaped with result := frozenVerdict frame reshaped.result }

/-! ### Confirming a geometry -/

variable (self : CargoGeometryFusion) (frame : CargoGeometryFrame)

def alignWindows : CargoGeometryFusion :=
  let shaped := if self.shapeConfirmTrackSegmentId ≠ frame.trackSegmentId then
      { self with
        shapeConfirmTrackSegmentId := frame.trackSegmentId
        shapeConfirmCount := 0
        shapeQualityWindow := []
        initialLengthWindow := []
        initialWidthWindow := [] }
    else self
  if self.thicknessConfirmTrackSegmentId ≠ frame.trackSegmentId then
    { shaped with
      thicknessConfirmTrackSegmentId := frame.trackSegmentId
      thicknessCandidateWindow := [] }
  else shaped

def enterFrame : CargoGeometryFusion :=
  let limit := self.config.shapeConfirmationWindowFrames.toNat
  let complete := validDimensionEvidence frame self.config self.config.minimumInitialShapeConfidence
  let quality := pushBounded limit self.shapeQualityWindow complete
  { self with
    thicknessCandidateWindow := pushBounded limit self.thicknessCandidateWindow .nan
    shapeQualityWindow := quality
    initialLengthWindow := pushBounded limit self.initialLengthWindow
      (if complete then frame.lengthM else .nan)
    initialWidthWindow := pushBounded limit self.initialWidthWindow
      (if complete then frame.widthM else .nan)
    shapeConfirmCount := countTrue quality
    result := { self.result with shapeConfirmFrames := countTrue quality } }

def initialLengths : List Scalar :=
  self.initialLengthWindow.filter Scalar.isFinite

def initialWidths : List Scalar :=
  self.initialWidthWindow.filter Scalar.isFinite

def initialDimensionsStable : Bool :=
  !self.initialLengths.isEmpty && !self.initialWidths.isEmpty &&
    finiteMad self.initialLengths (finiteMedian self.initialLengths) ≤
      self.config.maximumInitialDimensionMadM &&
    finiteMad self.initialWidths (finiteMedian self.initialWidths) ≤
      self.config.maximumInitialDimensionMadM

def recordOwner : CargoGeometryFusion :=
  { self with
    result := { self.result with
      cargoLifecycleId := frame.cargoLifecycleId
      trackSegmentId := frame.trackSegmentId
      independentSources := independentSources self.config frame } }

def switchMode (formal : Bool) : CargoGeometryFusion :=
  if !self.thicknessConfirmationModeInitialized ||
      self.thicknessConfirmationFormalMode != formal then
    { self with
      thicknessConfirmationModeInitialized := true
      thicknessConfirmationFormalMode := formal
      thicknessCandidateWindow := [.nan] }
  else self

def fuseThickness [GeometryMath] (config : CargoGeometryFusionConfig)
    (frame : CargoGeometryFrame) : FormalThicknessFusion :=
  let reading := confirmationReading config frame
  if hasFormalPair config frame then fuseFormalThicknessPair (reading.formalPair config) config
  else fusePositiveOnly (reading.bestStatic.toList ++ reading.live.toList) config

def fusionAccepted [GeometryMath] (config : CargoGeometryFusionConfig)
    (frame : CargoGeometryFrame) : Bool :=
  (fuseThickness config frame).height.isFinite &&
    (fuseThickness config frame).uncertainty.isFinite &&
    !(hasFormalPair config frame &&
      config.maximumFusedUncertaintyM < (fuseThickness config frame).uncertainty)

variable (config : CargoGeometryFusionConfig) (frame : CargoGeometryFrame)

def selectedSources : List CargoThicknessSource :=
  let reading := confirmationReading config frame
  (if hasFormalPair config frame then reading.formalPair config
    else reading.bestStatic.toList ++ reading.live.toList).map (·.source)

def countConfirmed (window : List Scalar) (fused : Scalar) : Nat :=
  let candidates := window.filter Scalar.isFinite
  let robust := finiteMedian candidates
  let tolerance := 0.5 * config.maximumSourceDisagreementM
  if (fused - robust).abs ≤ tolerance then
    candidates.countP fun candidate => (candidate - robust).abs ≤ tolerance
  else 0

def smoothed (window : List Scalar) (fusion : FormalThicknessFusion) : FormalThicknessFusion :=
  let robust := finiteMedian (window.filter Scalar.isFinite)
  if (fusion.height - robust).abs ≤ 0.5 * config.maximumSourceDisagreementM then
    if hasFormalPair config frame then
      { fusion with
        height := robust
        lowerBound := .maxOf config.minimumHeightM (robust - fusion.uncertainty)
        upperBound := .minOf config.maximumHeightM (robust + fusion.uncertainty) }
    else
      { fusion with
        height := robust
        lowerBound := robust
        upperBound := .minOf config.maximumHeightM
          (.maxOf fusion.upperBound (robust + fusion.uncertainty)) }
  else fusion

def requiredConfirmFrames : Int :=
  if hasFormalPair config frame then config.minimumConfirmFrames
  else config.positiveOnlyConfirmFrames

def enterThickness [GeometryMath] (self : CargoGeometryFusion) (frame : CargoGeometryFrame) :
    CargoGeometryFusion :=
  let reading := confirmationReading self.config frame
  let fusion := fuseThickness self.config frame
  let window := replaceNewest self.thicknessCandidateWindow fusion.height
  let settled := smoothed self.config frame window fusion
  { self with
    thicknessCandidateWindow := window
    result := { self.result with
      confirmFrames := countConfirmed self.config window fusion.height
      acceptedSources := selectedSources self.config frame
      sourceConflict := reading.sourceConflict self.config
      thicknessLowerBoundM := settled.lowerBound
      thicknessUpperBoundM := settled.upperBound
      valid := false
      reason := if hasFormalPair self.config frame then "formal_thickness_confirmation_pending"
        else if reading.sourceConflict self.config then
          "positive_only_source_conflict_confirmation_pending"
        else if reading.lowerBoundCompatible self.config then
          "positive_only_lower_bound_confirmation_pending"
        else "positive_only_live_confirmation_pending" } }

def freeze [GeometryMath] (self : CargoGeometryFusion) (frame : CargoGeometryFrame) :
    CargoGeometryFusion :=
  let config := self.config
  let formal := hasFormalPair config frame
  let fusion := smoothed config frame self.thicknessCandidateWindow (fuseThickness config frame)
  let frozen := { self.result with
    frozen := true
    valid := true
    formalAuthorized := formal
    degradedLiveOnly := !formal
    authorization := if formal then .formal else .positiveOnly
    center := frame.center
    lengthM := .maxOf
      (.maxOf (finiteMedian self.initialLengths) config.formalTransitionStartLengthM)
      (.maxOf config.minimumPhysicalLengthM frame.staticLengthLowerBoundM)
    widthM := .maxOf
      (.maxOf (finiteMedian self.initialWidths) config.formalTransitionStartWidthM)
      (.maxOf config.minimumPhysicalWidthM frame.staticWidthLowerBoundM)
    heightM := fusion.height
    yawRad := frame.yawRad
    heightUncertaintyM := fusion.uncertainty
    bottomM := if frame.observedTopValid && frame.observedTopM.isFinite then
        frame.observedTopM - fusion.height
      else frame.center.z - 0.5 * fusion.height
    reason := if formal then "geometry_frozen_formal_constraints"
      else if self.result.sourceConflict then "geometry_frozen_positive_only_source_conflict"
      else "geometry_frozen_positive_only_live_bound" }
  { self with
    result := frozen.withBottom config frame
      (if formal then fusion.height + fusion.uncertainty else self.result.thicknessUpperBoundM)
    shrinkTrackSegmentId := frame.trackSegmentId
    expandTrackSegmentId := frame.trackSegmentId }

def settle [GeometryMath] (self : CargoGeometryFusion) (frame : CargoGeometryFrame) :
    CargoGeometryFusion :=
  let required := requiredConfirmFrames self.config frame
  if required ≤ (self.result.confirmFrames : Int) ∧ required ≤ (self.shapeConfirmCount : Int) ∧
      self.initialDimensionsStable then
    self.freeze frame
  else if required ≤ (self.result.confirmFrames : Int) then
    { self with
      result := { self.result with
        reason :=
          if required ≤ (self.shapeConfirmCount : Int) ∧ ¬self.initialDimensionsStable then
            "initial_dimension_mad_exceeded"
          else if hasFormalPair self.config frame then "formal_shape_confirmation_pending"
          else "positive_only_shape_confirmation_pending" } }
  else self

def confirm [GeometryMath] (self : CargoGeometryFusion) (frame : CargoGeometryFrame) :
    CargoGeometryFusion :=
  let entered := (self.alignWindows frame).enterFrame frame
  if !frame.placed then
    { entered with
      result := { entered.result with valid := false, reason := "footprint_or_center_invalid" } }
  else
    let reading := confirmationReading self.config frame
    let owned := (entered.recordOwner frame).switchMode (hasFormalPair self.config frame)
    if !hasFormalPair self.config frame && !reading.positiveOnlyCandidate self.config frame then
      { owned with
        result := { owned.result with
          valid := false
          authorization := .pending
          reason := if reading.bestStatic.isSome && reading.live.isSome then
              "thickness_full_measurement_confirmation_pending"
            else "independent_thickness_sources_insufficient"
          confirmFrames := 0 } }
    else if !fusionAccepted self.config frame then
      { owned with
        result := { owned.result with
          valid := false
          reason := "fused_thickness_uncertainty_exceeded"
          confirmFrames := 0 } }
    else (owned.enterThickness frame).settle frame

/-! ### One update -/

variable (self : CargoGeometryFusion) (frame : CargoGeometryFrame)

def rejectsStamp : Bool :=
  !frame.stampSec.isFinite || frame.stampSec ≤ 0 ||
    (0 < self.lastStampSec && frame.stampSec ≤ self.lastStampSec)

def leavesGap : Bool :=
  0 < self.lastStampSec &&
    self.config.maximumObservationGapSec < frame.stampSec - self.lastStampSec

def observationContinuous : Bool :=
  self.lastStampSec ≤ 0 ||
    frame.stampSec - self.lastStampSec ≤ self.config.maximumObservationGapSec

def changesLifecycle : Bool :=
  self.result.cargoLifecycleId != 0 && self.result.cargoLifecycleId != frame.cargoLifecycleId

def expire : CargoGeometryFusion :=
  { self with
    result := { self.result with confirmFrames := 0 }
    thicknessCandidateWindow := []
    shapeConfirmCount := 0
    shapeQualityWindow := []
    initialLengthWindow := []
    initialWidthWindow := [] }

def advance : CargoGeometryFusion :=
  { (if !self.result.frozen && self.leavesGap frame then self.expire else self) with
    lastStampSec := frame.stampSec }

def adopt : CargoGeometryFusion :=
  if self.changesLifecycle frame then { self.reset with lastStampSec := frame.stampSec } else self

def next [GeometryMath] (self : CargoGeometryFusion) (frame : CargoGeometryFrame) :
    CargoGeometryFusion :=
  if !self.configValidation.valid then
    { self with
      result := { self.result with
        valid := false
        frozen := false
        formalAuthorized := false
        authorization := .pending
        reason := "invalid_geometry_fusion_config:" ++ self.configValidation.summary } }
  else if self.rejectsStamp frame then
    { self.reset with
      result := { self.reset.result with reason := "source_time_invalid_or_rollback" } }
  else if frame.cargoLifecycleId = 0 then
    { self.advance frame with
      result := { (self.advance frame).result with
        valid := false
        reason := "cargo_lifecycle_invalid" } }
  else if ((self.advance frame).adopt frame).result.frozen then
    ((self.advance frame).adopt frame).maintain frame (self.observationContinuous frame)
  else ((self.advance frame).adopt frame).confirm frame

def update [GeometryMath] (self : CargoGeometryFusion) (frame : CargoGeometryFrame) :
    CargoGeometryFusion × CargoFrozenGeometry :=
  (self.next frame, (self.next frame).result)

end CargoGeometryFusion
end NdtSlam
