import NdtSlam.Foundation.UnionFind
import NdtSlam.Identity.OwnerSurface

/-! The physical groups of the geometry hypotheses of one frame. -/

namespace NdtSlam.PhysicalGrouping

/-! ### Hypotheses -/

variable (candidate : CargoPhysicalCandidateObservation)

def finiteCandidate : Bool :=
  0 < candidate.stampSec && candidate.stampSec.isFinite && candidate.center.allFinite &&
    candidate.size.allFinite && candidate.size.allPositive && candidate.yawRad.isFinite &&
    candidate.z95.isFinite && candidate.verticalUncertaintyM.isFinite &&
    0 ≤ candidate.verticalUncertaintyM && !candidate.memberComponentIds.isEmpty &&
    0 < candidate.pointSupport

def overlaps (lhs rhs : List Nat) : Bool := !(common lhs rhs).isEmpty

def containsAll (container contents : List Nat) : Bool := contents.all (· ∈ container)

def equivalentGeometry [EuclideanNorm] (lhs rhs : CargoPhysicalCandidateObservation)
    (centerTolerance sizeRelativeTolerance : Scalar) : Bool :=
  let differs (left right : Scalar) : Bool :=
    sizeRelativeTolerance <
      (left - right).abs / .maxOf (.maxOf left.abs right.abs) kEpsilon
  !(centerTolerance < (lhs.center - rhs.center).norm) &&
    !differs lhs.size.x rhs.size.x && !differs lhs.size.y rhs.size.y &&
    !differs lhs.size.z rhs.size.z

def lexicographicLess : List (Bool × Bool) → Bool
  | [] => false
  | (less, greater) :: rest =>
    if less then true else if greater then false else lexicographicLess rest

def compareKeys {Key : Type} [LT Key] [DecidableLT Key] (lhs rhs : Key) : Bool × Bool :=
  (lhs < rhs, rhs < lhs)

def canonicalCandidateLess (lhs rhs : CargoPhysicalCandidateObservation) : Bool :=
  lexicographicLess [
    compareKeys lhs.memberComponentIds rhs.memberComponentIds,
    compareKeys lhs.center.x rhs.center.x, compareKeys lhs.center.y rhs.center.y,
    compareKeys lhs.center.z rhs.center.z, compareKeys lhs.size.x rhs.size.x,
    compareKeys lhs.size.y rhs.size.y, compareKeys lhs.size.z rhs.size.z,
    compareKeys lhs.yawRad rhs.yawRad, compareKeys lhs.candidateId rhs.candidateId]

variable (candidates : List CargoPhysicalCandidateObservation)

def canonicalSort : List CargoPhysicalCandidateObservation :=
  candidates.insertionSort fun lhs rhs => canonicalCandidateLess rhs lhs = false

def canonicalCandidate : CargoPhysicalCandidateObservation :=
  { candidate with memberComponentIds := canonicalMembers candidate.memberComponentIds }

def finiteCandidates : List CargoPhysicalCandidateObservation :=
  (candidates.map canonicalCandidate).filter finiteCandidate

/-! ### Joining -/

section Joining

variable (valid : List CargoPhysicalCandidateObservation)
  (parent : Fin valid.length → Fin valid.length)

def root (index : Fin valid.length) : Fin valid.length × (Fin valid.length → Fin valid.length) :=
  UnionFind.findByRecursion valid.length parent index

def join (pair : Fin valid.length × Fin valid.length) : Fin valid.length → Fin valid.length :=
  let lhs := root valid parent pair.1
  let rhs := root valid lhs.2 pair.2
  if lhs.1 ≠ rhs.1 then Function.update rhs.2 rhs.1 lhs.1 else rhs.2

def joinedParents : Fin valid.length → Fin valid.length :=
  (UnionFind.orderedPairs valid.length).foldl (fun parent pair =>
    if overlaps valid[pair.1].memberComponentIds valid[pair.2].memberComponentIds = true then
      join valid parent pair
    else parent) id

def hypothesisGroups : List (List CargoPhysicalCandidateObservation) :=
  (UnionFind.collect (root valid) (fun index => valid[index]) (List.finRange valid.length)
    (joinedParents valid)).toList.map Prod.snd

end Joining

def componentPoints (components : List CargoPhysicalComponentObservation) :
    Std.ExtTreeMap Nat (List Vec3) :=
  components.foldl (fun points component =>
    points.insertIfNew component.componentId component.pointsBase) ∅

/-! ### One group -/

def leastOf (values : List Scalar) : Scalar := values.tail.foldl Scalar.minOf (values.headD 0)

def mostOf (values : List Scalar) : Scalar := values.tail.foldl Scalar.maxOf (values.headD 0)

def representativeOf (hypotheses : List CargoPhysicalCandidateObservation) :
    CargoPhysicalCandidateObservation :=
  hypotheses.tail.foldl (fun least candidate =>
    if canonicalCandidateLess candidate least then candidate else least)
    (hypotheses.headD {})

def conflicting (lhs rhs : CargoPhysicalCandidateObservation) : Bool :=
  !overlaps lhs.memberComponentIds rhs.memberComponentIds ||
    !containsAll lhs.memberComponentIds rhs.memberComponentIds &&
      !containsAll rhs.memberComponentIds lhs.memberComponentIds

def groupAmbiguous : List CargoPhysicalCandidateObservation → Bool
  | [] => false
  | first :: rest => rest.any (conflicting first) || groupAmbiguous rest

def makeVerticalInput (hypothesis : CargoPhysicalCandidateObservation)
    (groundReferenceValid : Bool) (groundZBase : Scalar) : CargoVerticalEvidenceInput where
  footprintValid := true
  footprintCenterBase := hypothesis.center.head2
  footprintSizeXy := hypothesis.size.head2
  footprintYawBaseRad := hypothesis.yawRad
  groundReferenceValid
  groundZBase

structure GroupingContext where
  frameEvidence : Option CargoShadowFrameEvidence := none
  groundReferenceValid : Bool := false
  groundZBase : Scalar := .nan
  verticalConfig : CargoVerticalEvidenceConfig := {}
  equivalentCenterToleranceM : Scalar := 0
  equivalentSizeRelativeTolerance : Scalar := 0

structure SupportedTops where
  componentSupportedTops : List Scalar := []
  rawOwnedSupportedTops : List Scalar := []
  diagnosticOwnedZ : List Scalar := []

def pointsOf (points : Std.ExtTreeMap Nat (List Vec3)) (members : List Nat) : List Vec3 :=
  members.flatMap fun member => points[member]?.getD []

def frameStampMatches (context : GroupingContext)
    (representative : CargoPhysicalCandidateObservation) : Bool :=
  match context.frameEvidence with
  | none => false
  | some frame => frame.rawRoiCurrentFrame.isSome && frame.sourceStampSec.isFinite &&
      (frame.sourceStampSec - representative.stampSec).abs ≤ kEpsilon

def groundContextMatches (context : GroupingContext) : Bool :=
  match context.frameEvidence with
  | none => false
  | some frame => frame.groundReferenceValid == context.groundReferenceValid &&
      (!context.groundReferenceValid || frame.groundZBase.isFinite &&
        context.groundZBase.isFinite &&
        (frame.groundZBase - context.groundZBase).abs ≤ kEpsilon)

section Evidence

variable [IdentityMath] (context : GroupingContext)

def ownedFilteredZ (evidence : CargoVerticalEvidence) (ownerPoints : List Vec3)
    (input : CargoVerticalEvidenceInput) : List Scalar :=
  let config := context.verticalConfig
  let ownerCells := input.cellsOfPoints config ownerPoints
  (evidence.filteredVerticalPointsBase.filter fun point => point.allFinite &&
    input.makeCargoFootprintGridIndex point config.xyCellSizeM ∈ ownerCells).map (·.z)

variable (points : Std.ExtTreeMap Nat (List Vec3))

def addRawTop (hypothesis : CargoPhysicalCandidateObservation)
    (state : CargoPhysicalGroupDescriptor × SupportedTops) :
    CargoPhysicalGroupDescriptor × SupportedTops :=
  let (descriptor, tops) := state
  -- A hypothesis may not borrow cells of components that it does not contain.
  let ownerPoints := pointsOf points hypothesis.memberComponentIds
  let rawInput := {
    makeVerticalInput hypothesis context.groundReferenceValid context.groundZBase with
    selectedCloudBase := context.frameEvidence.bind (·.rawRoiCurrentFrame) }
  let rawEvidence := extractCargoVerticalEvidence rawInput context.verticalConfig
  let (owned, cells, coverage) :=
    proveVerticalOwnership rawEvidence ownerPoints rawInput context.verticalConfig
  let rawOwned := rawEvidence.valid && owned && rawEvidence.topZBase.isFinite
  ({ descriptor with
      ownerOverlapCellCount := max descriptor.ownerOverlapCellCount cells
      ownerOverlapCoverage := .maxOf descriptor.ownerOverlapCoverage coverage
      ownerProofRejectedHypothesisCount := descriptor.ownerProofRejectedHypothesisCount +
        if rawEvidence.valid && !owned then 1 else 0
      rawRoiSupportedHypothesisCount := descriptor.rawRoiSupportedHypothesisCount +
        if rawOwned then 1 else 0 },
    { tops with
      rawOwnedSupportedTops := tops.rawOwnedSupportedTops ++
        if rawOwned then [rawEvidence.topZBase] else []
      diagnosticOwnedZ := tops.diagnosticOwnedZ ++
        if owned then ownedFilteredZ context rawEvidence ownerPoints rawInput else [] })

def addTops (unionPoints : List Vec3) (rawUsable : Bool)
    (state : CargoPhysicalGroupDescriptor × SupportedTops)
    (hypothesis : CargoPhysicalCandidateObservation) :
    CargoPhysicalGroupDescriptor × SupportedTops :=
  let componentEvidence := extractCargoVerticalEvidence {
    makeVerticalInput hypothesis context.groundReferenceValid context.groundZBase with
    selectedPointsBase := unionPoints } context.verticalConfig
  let (descriptor, tops) := if rawUsable then addRawTop context points hypothesis state else state
  (descriptor, { tops with
    componentSupportedTops := tops.componentSupportedTops ++
      if componentEvidence.valid && componentEvidence.topZBase.isFinite then
        [componentEvidence.topZBase]
      else [] })

end Evidence

def aggregateIfConsistent (consistencyLimit : Scalar) (values : List Scalar) : Option Scalar :=
  if values.isEmpty then none
  else if mostOf values - leastOf values ≤ consistencyLimit + kEpsilon then
    some (medianOf values)
  else none

def measurePoints (finite : List Vec3) (descriptor : CargoPhysicalGroupDescriptor) :
    CargoPhysicalGroupDescriptor :=
  let xs := finite.map (·.x)
  let ys := finite.map (·.y)
  let zs := finite.map (·.z)
  let extentOf (values : List Scalar) : Scalar :=
    values.foldl Scalar.maxOf .negInf - values.foldl Scalar.minOf .posInf
  let x05 := quantile xs 0.05
  let x95 := quantile xs 0.95
  let y05 := quantile ys 0.05
  let y95 := quantile ys 0.95
  { descriptor with
    stableAnchor := ⟨medianOf xs, medianOf ys, medianOf zs⟩
    aggregateExtent := ⟨extentOf xs, extentOf ys, extentOf zs⟩
    robustX05 := x05
    robustX95 := x95
    robustY05 := y05
    robustY95 := y95
    robustXyCenter := ⟨0.5 * (x05 + x95), 0.5 * (y05 + y95)⟩
    robustXyExtent := ⟨x95 - x05, y95 - y05⟩ }

def settleVertical (ambiguous lookupComplete continuityAvailable : Bool)
    (consistencyLimit : Scalar) (tops : SupportedTops)
    (descriptor : CargoPhysicalGroupDescriptor) : CargoPhysicalGroupDescriptor :=
  -- A group has one lineage of evidence, and prefers the raw cloud.
  let selectedRaw := !tops.rawOwnedSupportedTops.isEmpty
  let supported :=
    if selectedRaw then tops.rawOwnedSupportedTops else tops.componentSupportedTops
  let counted := { descriptor with validHypothesisTopCount := supported.length }
  if !supported.isEmpty then
    let least := leastOf supported
    let most := mostOf supported
    let bounded := { counted with
      hypothesisTopMin := least
      hypothesisTopMax := most
      hypothesisTopSpread := most - least }
    if most - least ≤ consistencyLimit + kEpsilon then
      { bounded with
        verticalMode := .supportedEvidence
        physicalVerticalZ := medianOf supported
        verticalSource :=
          if selectedRaw then .rawRoiCurrentFootprint else .componentUnion
        verticalRejectReason :=
          if selectedRaw then "SUPPORTED_RAW_ROI_OWNER_PROVEN_TOP_MEDIAN"
          else "SUPPORTED_HYPOTHESIS_TOP_MEDIAN" }
    else
      { bounded with
        verticalMode := .continuityOnly
        physicalVerticalZ := bounded.stableAnchor.z
        verticalRejectReason := "CONFLICTING_HYPOTHESIS_SUPPORTED_TOPS" }
  else if continuityAvailable then
    { counted with
      verticalMode := .continuityOnly
      physicalVerticalZ := counted.stableAnchor.z
      verticalRejectReason := "NO_SUPPORTED_HYPOTHESIS_TOP" }
  else
    { counted with
      verticalMode := .invalid
      verticalRejectReason :=
        if ambiguous then "PHYSICAL_GROUP_AMBIGUOUS"
        else if lookupComplete then "INSUFFICIENT_FINITE_GROUP_POINTS"
        else "COMPONENT_POINTS_UNAVAILABLE" }

def diagnose (diagnosticOwnedZ : List Scalar) (descriptor : CargoPhysicalGroupDescriptor) :
    CargoPhysicalGroupDescriptor :=
  if diagnosticOwnedZ.isEmpty then descriptor
  else
    let z05 := quantile diagnosticOwnedZ 0.05
    let z95 := quantile diagnosticOwnedZ 0.95
    { descriptor with
      diagnosticZ05 := z05
      diagnosticZ95 := z95
      diagnosticZExtent := z95 - z05
      diagnosticZExtentReliable := (z95 - z05).isFinite }

def descriptorUsable (descriptor : CargoPhysicalGroupDescriptor) : Bool :=
  descriptor.verticalMode != .invalid && descriptor.stableAnchor.allFinite &&
    descriptor.aggregateExtent.allFinite && descriptor.aggregateExtent.allPositive &&
    descriptor.robustXyCenter.allFinite && descriptor.robustXyExtent.allFinite &&
    descriptor.robustXyExtent.allPositive && descriptor.physicalVerticalZ.isFinite &&
    descriptor.verticalUncertaintyM.isFinite

section Groups

variable [IdentityMath] (context : GroupingContext) (points : Std.ExtTreeMap Nat (List Vec3))

def describeGroup (hypotheses : List CargoPhysicalCandidateObservation)
    (representative : CargoPhysicalCandidateObservation) (members : List Nat) (ambiguous : Bool) :
    CargoPhysicalGroupDescriptor :=
  let config := context.verticalConfig
  let unionPoints := pointsOf points members
  let lookupComplete := members.all fun member => points.contains member
  let finite := unionPoints.filter Vec3.allFinite
  let maximumUncertainty :=
    hypotheses.foldl (fun most hypothesis => .maxOf most hypothesis.verticalUncertaintyM) 0
  let described : CargoPhysicalGroupDescriptor := {
    stampSec := representative.stampSec
    canonicalSize := representative.size
    yawRad := representative.yawRad
    aggregatePointSupport := finite.length
    verticalUncertaintyM := maximumUncertainty }
  let supportAvailable := lookupComplete && max 1 config.minimumSurfacePoints ≤ finite.length
  let measured := if supportAvailable then measurePoints finite described else described
  let continuityAvailable := supportAvailable && !ambiguous
  let rawUsable := frameStampMatches context representative && groundContextMatches context
  let (evident, tops) :=
    if continuityAvailable then
      hypotheses.foldl (addTops context points unionPoints rawUsable) (measured, {})
    else (measured, {})
  let consistencyLimit := config.surfaceBandHeightM + maximumUncertainty
  let component := aggregateIfConsistent consistencyLimit tops.componentSupportedTops
  let raw := aggregateIfConsistent consistencyLimit tops.rawOwnedSupportedTops
  let aggregated := { evident with
    componentVerticalValid := component.isSome
    componentVerticalZ := component.getD evident.componentVerticalZ
    rawRoiVerticalValid := raw.isSome
    rawRoiVerticalZ := raw.getD evident.rawRoiVerticalZ }
  let settled := settleVertical ambiguous lookupComplete continuityAvailable consistencyLimit tops
    (diagnose tops.diagnosticOwnedZ aggregated)
  { settled with valid := descriptorUsable settled }

def buildGroup (entry : List CargoPhysicalCandidateObservation) : CargoPhysicalGroupObservation :=
  let hypotheses := canonicalSort entry
  let representative := representativeOf hypotheses
  let members := canonicalMembers (hypotheses.flatMap (·.memberComponentIds))
  let ambiguous := groupAmbiguous hypotheses
  { memberComponentIds := members
    unionPointsBase := pointsOf points members
    hypotheses
    geometryResolved := hypotheses.tail.all fun hypothesis =>
      equivalentGeometry representative hypothesis context.equivalentCenterToleranceM
        context.equivalentSizeRelativeTolerance
    groupAmbiguous := ambiguous
    representative
    descriptor := describeGroup context points hypotheses representative members ambiguous }

def numberGroups (groups : List CargoPhysicalGroupObservation) :
    List CargoPhysicalGroupObservation :=
  (groups.insertionSort fun lhs rhs =>
    ¬rhs.memberComponentIds < lhs.memberComponentIds).mapIdx fun index group =>
      { group with frameGroupId := index + 1 }

def groupSortedCandidates (valid : List CargoPhysicalCandidateObservation) :
    List CargoPhysicalGroupObservation :=
  numberGroups ((hypothesisGroups valid).map (buildGroup context points))

end Groups

def groupCargoPhysicalCandidates [IdentityMath] (context : GroupingContext)
    (candidates : List CargoPhysicalCandidateObservation)
    (components : List CargoPhysicalComponentObservation) : List CargoPhysicalGroupObservation :=
  groupSortedCandidates context (componentPoints components)
    (canonicalSort (finiteCandidates candidates))

end NdtSlam.PhysicalGrouping
