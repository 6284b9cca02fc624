import Mathlib.Data.List.Sort
import NdtSlam.Foundation.Vector
import NdtSlam.HookLoad.Filter

/-! What the identity authority of the carried load is shown in one frame. -/

namespace NdtSlam

inductive HookLoadSignalRole where
  | disabled
  | required
  | auxiliary
  deriving DecidableEq

inductive CargoGroupVerticalMode where
  | supportedEvidence
  | continuityOnly
  | invalid
  deriving DecidableEq

inductive CargoVerticalEvidenceSource where
  | componentUnion
  | rawRoiCurrentFootprint
  | rawRoiHistoryFootprintReacquire

inductive CargoIdentityLineageState where
  | unavailable
  | matched
  | ambiguous
  | worldStaticVeto
  deriving DecidableEq

inductive CargoIdentityMotionObservabilityState where
  | unknownFailClosed
  | idleZeroLoad
  | loadPresentUnobservable
  | egoMotionObservable
  | worldStaticProven
  deriving DecidableEq

structure CargoPhysicalIdentityConfig where
  maximumXyStepM : Scalar := 0.30
  maximumZSpeedMps : Scalar := 1.50
  zStepMarginM : Scalar := 0.05
  maximumSizeRelativeStep : Scalar := 0.60
  ambiguityCostMargin : Scalar := 0.08
  minimumSignificantChangeM : Scalar := 0.15
  significanceSigma : Scalar := 3
  maximumObservationGapSec : Scalar := 0.50
  maximumSourceAgeSec : Scalar := 0.50
  liftConfirmFrames : Int := 4
  historyHoldTtlSec : Scalar := 1

structure CargoVerticalEvidenceConfig where
  surfaceBandHeightM : Scalar := 0.10
  xyCellSizeM : Scalar := 0.10
  minimumSurfacePoints : Nat := 8
  minimumSurfaceCells : Nat := 2
  minimumSurfaceCoverageRatio : Scalar := 0.02
  footprintMarginM : Scalar := 0.12
  thicknessSlabMarginM : Scalar := 0.10
  groundHagMinM : Scalar := 0.15
  groundHagMaxM : Scalar := 2.50

structure CargoFootprintGridIndex where
  x : Int := 0
  y : Int := 0
  deriving DecidableEq

structure CargoPhysicalCandidateObservation where
  candidateId : Nat := 0
  memberComponentIds : List Nat := []
  stampSec : Scalar := 0
  center : Vec3 := {}
  size : Vec3 := {}
  yawRad : Scalar := 0
  z95 : Scalar := .nan
  verticalUncertaintyM : Scalar := 0.20
  pointSupport : Nat := 0

structure CargoPhysicalComponentObservation where
  componentId : Nat := 0
  pointsBase : List Vec3 := []

structure CargoShadowFrameEvidence where
  sourceStampSec : Scalar := 0
  rawRoiCurrentFrame : Option (List Vec3) := none
  rangeCloudCurrentFrame : Option (List Vec3) := none
  rangeStaticConflictMask : Option (List Nat) := none
  staticConflictContextValid : Bool := false
  groundReferenceValid : Bool := false
  groundZBase : Scalar := .nan

structure CargoFootprintSnapshot where
  valid : Bool := false
  centerBase : Vec2 := {}
  sizeXy : Vec2 := {}
  yawBaseRad : Scalar := 0
  sourceStampSec : Scalar := 0

structure CargoPhysicalGroupDescriptor where
  valid : Bool := false
  stampSec : Scalar := 0
  stableAnchor : Vec3 := {}
  aggregateExtent : Vec3 := {}
  canonicalSize : Vec3 := {}
  yawRad : Scalar := 0
  robustX05 : Scalar := .nan
  robustX95 : Scalar := .nan
  robustY05 : Scalar := .nan
  robustY95 : Scalar := .nan
  robustXyCenter : Vec2 := {}
  robustXyExtent : Vec2 := {}
  aggregatePointSupport : Nat := 0
  verticalMode : CargoGroupVerticalMode := .invalid
  verticalSource : CargoVerticalEvidenceSource := .componentUnion
  physicalVerticalZ : Scalar := .nan
  verticalUncertaintyM : Scalar := .nan
  validHypothesisTopCount : Nat := 0
  hypothesisTopMin : Scalar := .nan
  hypothesisTopMax : Scalar := .nan
  hypothesisTopSpread : Scalar := .nan
  rawRoiSupportedHypothesisCount : Nat := 0
  ownerProofRejectedHypothesisCount : Nat := 0
  ownerOverlapCellCount : Nat := 0
  ownerOverlapCoverage : Scalar := 0
  componentVerticalValid : Bool := false
  componentVerticalZ : Scalar := .nan
  rawRoiVerticalValid : Bool := false
  rawRoiVerticalZ : Scalar := .nan
  diagnosticZ05 : Scalar := .nan
  diagnosticZ95 : Scalar := .nan
  diagnosticZExtent : Scalar := .nan
  diagnosticZExtentReliable : Bool := false
  verticalRejectReason : String := "not_evaluated"

structure CargoPhysicalGroupObservation where
  frameGroupId : Nat := 0
  memberComponentIds : List Nat := []
  unionPointsBase : List Vec3 := []
  hypotheses : List CargoPhysicalCandidateObservation := []
  geometryResolved : Bool := false
  groupAmbiguous : Bool := false
  representative : CargoPhysicalCandidateObservation := {}
  descriptor : CargoPhysicalGroupDescriptor := {}

structure CargoIdentitySupportLineageObservation where
  valid : Bool := false
  state : CargoIdentityLineageState := .unavailable
  previousSourceStampSec : Scalar := 0
  sourceStampSec : Scalar := 0
  sourceAgeSec : Scalar := 0
  sourceFrameOffset : Nat := 0
  previousComponentId : Nat := 0
  currentComponentId : Nat := 0
  exactSeedFrameGroupId : Nat := 0
  robustXyCenter : Vec2 := {}
  robustXyExtent : Vec2 := {}
  robustX05 : Scalar := 0
  robustX95 : Scalar := 0
  robustY05 : Scalar := 0
  robustY95 : Scalar := 0
  baseStepM : Scalar := 0
  mapStepM : Scalar := 0
  egoXyStepM : Scalar := 0
  extentStep : Scalar := 0
  motionObservabilityState : CargoIdentityMotionObservabilityState := .unknownFailClosed

structure CargoPhysicalIdentityInput where
  pipelineStampSec : Scalar := 0
  lifecycleId : Nat := 0
  rearm : Bool := false
  nodeStartedLoaded : Bool := false
  hookRole : HookLoadSignalRole := .required
  hookRoleSource : String := "unspecified"
  localizationAuthorized : Bool := true
  poseAuthorityIdentityValid : Bool := true
  gravityValid : Bool := false
  gravityState : HookLoadState := .unknown
  groups : List CargoPhysicalGroupObservation := []
  lineageObservations : List CargoIdentitySupportLineageObservation := []
  frameEvidence : CargoShadowFrameEvidence := {}
  verticalConfig : CargoVerticalEvidenceConfig := {}

namespace CargoPhysicalIdentityInput

variable (input : CargoPhysicalIdentityInput)

def gravityLoaded : Bool := input.gravityValid && input.gravityState == .loaded

def gravityEmpty : Bool := input.gravityValid && input.gravityState == .empty

end CargoPhysicalIdentityInput

def kEpsilon : Scalar := 1.0e-9

def Vec2.allPositive (a : Vec2) : Bool := 0 < a.x && 0 < a.y

def Vec3.allPositive (a : Vec3) : Bool := 0 < a.x && 0 < a.y && 0 < a.z

def finiteDescriptor (descriptor : CargoPhysicalGroupDescriptor) : Bool :=
  descriptor.valid && 0 < descriptor.stampSec && descriptor.stampSec.isFinite &&
    descriptor.stableAnchor.allFinite && descriptor.aggregateExtent.allFinite &&
    descriptor.aggregateExtent.allPositive && descriptor.robustX05.isFinite &&
    descriptor.robustX95.isFinite && descriptor.robustY05.isFinite &&
    descriptor.robustY95.isFinite && descriptor.robustXyCenter.allFinite &&
    descriptor.robustXyExtent.allFinite && descriptor.robustXyExtent.allPositive &&
    0 < descriptor.aggregatePointSupport && descriptor.verticalMode != .invalid &&
    descriptor.physicalVerticalZ.isFinite && descriptor.verticalUncertaintyM.isFinite &&
    0 ≤ descriptor.verticalUncertaintyM

def intervalSeparation (lhsLow lhsHigh rhsLow rhsHigh : Scalar) : Scalar :=
  .maxOf 0 (Scalar.maxOf lhsLow rhsLow - Scalar.minOf lhsHigh rhsHigh)

def positiveAreaOverlap (lhsX rhsX lhsY rhsY : Scalar × Scalar) : Bool :=
  let intersectionX := Scalar.minOf lhsX.2 rhsX.2 - Scalar.maxOf lhsX.1 rhsX.1
  let intersectionY := Scalar.minOf lhsY.2 rhsY.2 - Scalar.maxOf lhsY.1 rhsY.1
  kEpsilon < intersectionX && kEpsilon < intersectionY &&
    kEpsilon < intersectionX * intersectionY

def hasPositiveAreaSupportOverlap (lhs rhs : CargoPhysicalGroupDescriptor) : Bool :=
  positiveAreaOverlap (lhs.robustX05, lhs.robustX95) (rhs.robustX05, rhs.robustX95)
    (lhs.robustY05, lhs.robustY95) (rhs.robustY05, rhs.robustY95)

def relativeStep (current previous : Scalar) : Scalar :=
  (current - previous).abs / .maxOf (.maxOf current.abs previous.abs) kEpsilon

def extentCompatible (a b : Vec2) (maximumSizeRelativeStep : Scalar) : Bool :=
  relativeStep (.minOf a.x a.y) (.minOf b.x b.y) ≤ maximumSizeRelativeStep &&
    relativeStep (.maxOf a.x a.y) (.maxOf b.x b.y) ≤ maximumSizeRelativeStep

def medianOf (values : List Scalar) : Scalar :=
  let sorted := values.insertionSort (· ≤ ·)
  let middle := values.length / 2
  if values.length % 2 = 0 then 0.5 * (sorted.getD (middle - 1) 0 + sorted.getD middle 0)
  else sorted.getD middle 0

def medianAbsoluteDeviation (values : List Scalar) (center : Scalar) : Scalar :=
  medianOf (values.map fun value => (value - center).abs)

def quantile (values : List Scalar) (probability : Scalar) : Scalar :=
  let sorted := values.insertionSort (· ≤ ·)
  if values.length = 1 then sorted.getD 0 0
  else
    let position := (probability * .ofNat (values.length - 1)).value
    let lower := ⌊position⌋.toNat
    let upper := ⌈position⌉.toNat
    sorted.getD lower 0 +
      .fin (position - lower) * (sorted.getD upper 0 - sorted.getD lower 0)

def canonicalMembers (members : List Nat) : List Nat :=
  (members.insertionSort (· ≤ ·)).dedup

def liftSignificanceThreshold [EuclideanNorm] (config : CargoPhysicalIdentityConfig)
    (baselineUncertaintyM currentUncertaintyM : Scalar) : Scalar :=
  .maxOf config.minimumSignificantChangeM
    (config.significanceSigma *
      Vec2.norm ⟨.maxOf 0 baselineUncertaintyM, .maxOf 0 currentUncertaintyM⟩)

def requiredFrames (role : HookLoadSignalRole) (gravityValid : Bool)
    (gravityState : HookLoadState) (base : Int) : Int :=
  if role ≠ .auxiliary then max 1 base
  else if gravityValid && gravityState == .empty then max 1 base + 2
  else if !gravityValid || gravityState == .unknown then max 1 base + 1
  else max 1 base

def footprintSnapshot (hypothesis : CargoPhysicalCandidateObservation)
    (sourceStampSec : Scalar) : CargoFootprintSnapshot where
  valid := hypothesis.center.allFinite && hypothesis.size.allFinite &&
    hypothesis.size.head2.allPositive && hypothesis.yawRad.isFinite &&
    sourceStampSec.isFinite && 0 < sourceStampSec
  centerBase := hypothesis.center.head2
  sizeXy := hypothesis.size.head2
  yawBaseRad := hypothesis.yawRad
  sourceStampSec

def robustFootprintSnapshot (group : CargoPhysicalGroupObservation) :
    CargoFootprintSnapshot where
  valid := group.geometryResolved && !group.groupAmbiguous &&
    group.descriptor.robustXyCenter.allFinite && group.descriptor.robustXyExtent.allFinite &&
    group.descriptor.robustXyExtent.allPositive && group.representative.yawRad.isFinite &&
    group.descriptor.stampSec.isFinite && 0 < group.descriptor.stampSec
  centerBase := group.descriptor.robustXyCenter
  sizeXy := group.descriptor.robustXyExtent
  yawBaseRad := group.representative.yawRad
  sourceStampSec := group.descriptor.stampSec

end NdtSlam
