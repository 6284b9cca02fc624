import NdtSlam.Identity.OwnerSurface

/-! What the authority remembers of one load, and what an observation of the load changes. -/

namespace NdtSlam

inductive CargoPreLiftReferenceState where
  | unseen
  | acquiring
  | paused
  | frozen
  | closed
  deriving DecidableEq

inductive CargoLiftBaselineSource where
  | preLoadFrozenBaseline
  | postLoadFirstFreshObservation
  | unavailableStartedLoaded

structure PreLiftSample where
  stampSec : Scalar := 0
  verticalZ : Scalar := .nan
  uncertaintyM : Scalar := .nan

structure LineageProvenanceSnapshot where
  sourceStampSec : Scalar := 0
  componentIds : List Nat := []

structure HistoryTrack where
  lastDescriptor : CargoPhysicalGroupDescriptor := {}
  lastRepresentativeCenter : Vec3 := {}
  lastStampSec : Scalar := 0
  recentLineageProvenance : List LineageProvenanceSnapshot := []
  associationAmbiguous : Bool := false
  lastStrongMatchStampSec : Scalar := 0
  holdStartStampSec : Scalar := 0

structure PreliftReference where
  preliftState : CargoPreLiftReferenceState := .unseen
  earliestPreliftSamples : List PreLiftSample := []
  preliftReferenceFrozen : Bool := false
  preliftReferenceZ : Scalar := .nan
  preliftReferenceUncertaintyM : Scalar := 0.20
  preliftReferenceFirstStamp : Scalar := 0
  preliftReferenceLastStamp : Scalar := 0
  preliftCloseReason : String := "none"
  frozenPreloadFootprint : CargoFootprintSnapshot := {}
  frozenPreloadOwnerSurfaceCells : List CargoFootprintGridIndex := []

structure LiftBaseline where
  surfaceLiftReferenceFrozen : Bool := false
  surfaceBaselineZ : Scalar := .nan
  surfaceBaselineUncertaintyM : Scalar := 0.20
  baselineFrozen : Bool := false
  baselineSource : CargoLiftBaselineSource := .postLoadFirstFreshObservation
  baselineZ95 : Scalar := .nan
  baselineUncertaintyM : Scalar := 0.20
  baselineStampSec : Scalar := 0

structure SupportedEvidence where
  lastSupportedEvidenceStampSec : Scalar := 0
  lastSupportedVerticalZ : Scalar := .nan
  lastSupportedVerticalUncertaintyM : Scalar := 0.20
  lastSupportedFootprint : CargoFootprintSnapshot := {}

structure LiftProgress where
  lastLiftSurfaceEvidenceStampSec : Scalar := 0
  lastLiftSurfaceZ : Scalar := .nan
  lastLiftSurfaceUncertaintyM : Scalar := 0.20
  lastLiftSurfaceOwnerOverlapCells : Nat := 0
  lastLiftSurfaceOwnerCoverage : Scalar := 0
  liftConfirmCount : Nat := 0
  liftConfirmed : Bool := false
  validationStampSec : Scalar := 0

structure History where
  id : Nat := 0
  physicalCargoEpochId : Nat := 0
  track : HistoryTrack := {}
  prelift : PreliftReference := {}
  baseline : LiftBaseline := {}
  supported : SupportedEvidence := {}
  lift : LiftProgress := {}

structure ObservationContext where
  config : CargoPhysicalIdentityConfig
  input : CargoPhysicalIdentityInput
  lifecycleId : Nat := 0
  physicalCargoEpochId : Nat := 0
  startedLoadedWithoutBaseline : Bool := false
  preliftBlockedUntilNewEpoch : Bool := false
  gravityLoadEdge : Bool := false

structure GroupSighting where
  group : CargoPhysicalGroupObservation
  lineage : Option CargoIdentitySupportLineageObservation := none
  handoffVertical : Option AssociationOnlyReacquiredVerticalEvidence := none
  competingOwnerPoints : List Vec3 := []

namespace HistoryTrack

def historyDescriptor (sighting : GroupSighting) : CargoPhysicalGroupDescriptor :=
  let descriptor := sighting.group.descriptor
  match sighting.lineage with
  | none => descriptor
  | some lineage => { descriptor with
      stableAnchor :=
        ⟨lineage.robustXyCenter.x, lineage.robustXyCenter.y, descriptor.stableAnchor.z⟩
      robustXyCenter := lineage.robustXyCenter
      robustXyExtent := lineage.robustXyExtent
      robustX05 := lineage.robustX05
      robustX95 := lineage.robustX95
      robustY05 := lineage.robustY05
      robustY95 := lineage.robustY95
      aggregateExtent :=
        ⟨lineage.robustXyExtent.x, lineage.robustXyExtent.y, descriptor.aggregateExtent.z⟩ }

variable (config : CargoPhysicalIdentityConfig)

def updatedProvenance (sighting : GroupSighting) (recent : List LineageProvenanceSnapshot) :
    List LineageProvenanceSnapshot :=
  let provenance : LineageProvenanceSnapshot := {
    sourceStampSec := sighting.group.descriptor.stampSec
    componentIds :=
      match sighting.lineage with
      | some lineage => [lineage.currentComponentId]
      | none => canonicalMembers sighting.group.memberComponentIds }
  let kept := recent.filter fun snapshot =>
    let age := provenance.sourceStampSec - snapshot.sourceStampSec
    !(!snapshot.sourceStampSec.isFinite || age < -kEpsilon ||
      config.maximumObservationGapSec + kEpsilon < age || age.abs ≤ kEpsilon)
  let extended := kept ++ [provenance]
  extended.drop (extended.length - 3)

def observed (sighting : GroupSighting) (track : HistoryTrack) : HistoryTrack := { track with
  associationAmbiguous := false
  lastDescriptor := historyDescriptor sighting
  lastRepresentativeCenter := sighting.group.representative.center
  lastStampSec := sighting.group.descriptor.stampSec
  lastStrongMatchStampSec := sighting.group.descriptor.stampSec
  recentLineageProvenance := updatedProvenance config sighting track.recentLineageProvenance }

def held (stampSec : Scalar) (track : HistoryTrack) : HistoryTrack := { track with
  lastStampSec := stampSec
  holdStartStampSec :=
    if track.holdStartStampSec ≤ 0 || track.holdStartStampSec < track.lastStrongMatchStampSec then
      stampSec
    else track.holdStartStampSec
  associationAmbiguous := false }

end HistoryTrack

def uniqueCurrentExactGroup (group : CargoPhysicalGroupObservation) : Bool :=
  !group.groupAmbiguous && group.geometryResolved && !group.unionPointsBase.isEmpty &&
    finiteDescriptor group.descriptor && group.descriptor.verticalMode == .supportedEvidence

def rawCloudOf (frame : CargoShadowFrameEvidence) (group : CargoPhysicalGroupObservation) :
    Bool :=
  frame.rawRoiCurrentFrame.isSome &&
    (frame.sourceStampSec - group.descriptor.stampSec).abs ≤ kEpsilon

namespace ObservationContext

variable (context : ObservationContext)

def surfaceReferenceAcquisitionPhase : Bool :=
  (if context.input.hookRole = .required then context.input.gravityEmpty
    else !context.startedLoadedWithoutBaseline) &&
    (context.input.hookRole == .disabled || !context.input.gravityLoaded)

variable (group : CargoPhysicalGroupObservation)

def evidenceAuthorized (history : History) : Bool :=
  context.input.localizationAuthorized && context.input.poseAuthorityIdentityValid &&
    group.descriptor.verticalMode == .supportedEvidence && !group.groupAmbiguous &&
    history.physicalCargoEpochId == context.physicalCargoEpochId

def acquireFootprint (history : History) : History :=
  if !history.prelift.frozenPreloadFootprint.valid && uniqueCurrentExactGroup group &&
      context.evidenceAuthorized group history && context.surfaceReferenceAcquisitionPhase &&
      !context.preliftBlockedUntilNewEpoch then
    { history with
      prelift := { history.prelift with
        frozenPreloadFootprint := robustFootprintSnapshot group } }
  else history

def currentSurfaceVertical [IdentityMath] (sighting : GroupSighting) (history : History) :
    AssociationOnlyReacquiredVerticalEvidence :=
  match sighting.handoffVertical with
  | some vertical => vertical
  | none =>
    if uniqueCurrentExactGroup sighting.group &&
        context.evidenceAuthorized sighting.group history &&
        history.prelift.frozenPreloadFootprint.valid &&
        rawCloudOf context.input.frameEvidence sighting.group then
      reacquireAssociationVertical context.input.frameEvidence
        history.prelift.frozenPreloadFootprint sighting.group.unionPointsBase
        context.input.verticalConfig sighting.group.descriptor.verticalUncertaintyM
        sighting.competingOwnerPoints
    else {}

def surfaceEvidenceAuthorized (sighting : GroupSighting) (history : History)
    (surface : AssociationOnlyReacquiredVerticalEvidence) : Bool :=
  context.evidenceAuthorized sighting.group history && uniqueCurrentExactGroup sighting.group &&
    surface.valid

end ObservationContext

structure FrozenLevel where
  reference : Scalar
  uncertainty : Scalar
  firstStamp : Scalar
  lastStamp : Scalar

inductive PreliftWindowVerdict where
  | incomplete
  | frozen (level : FrozenLevel)
  | departing
  | incompatible

def nondecreasing (samples : List PreLiftSample) : Bool :=
  (samples.zip samples.tail).all fun (earlier, later) =>
    !(later.verticalZ + kEpsilon < earlier.verticalZ)

def judgePreliftWindow [EuclideanNorm] (config : CargoPhysicalIdentityConfig)
    (samples : List PreLiftSample) : PreliftWindowVerdict :=
  if (samples.length : Int) ≠ max 1 config.liftConfirmFrames then .incomplete
  else
    let heights := samples.map (·.verticalZ)
    let maximumUncertainty := samples.foldl (fun most sample => .maxOf most sample.uncertaintyM) 0
    let reference := medianOf heights
    let robustDispersion := 1.4826 * medianAbsoluteDeviation heights reference
    let compatibility : Scalar := .maxOf config.minimumSignificantChangeM
      (config.significanceSigma * maximumUncertainty)
    let sorted := heights.insertionSort (· ≤ ·)
    let spread := sorted.getLastD 0 - sorted.headD 0
    let first := samples.headD {}
    let last := samples.getLastD {}
    let departureSignificance := liftSignificanceThreshold config first.uncertaintyM
      last.uncertaintyM
    let monotonicDeparture := nondecreasing samples &&
      departureSignificance + kEpsilon < last.verticalZ - first.verticalZ
    if spread ≤ compatibility && !monotonicDeparture then
      .frozen {
        reference
        uncertainty := .maxOf maximumUncertainty robustDispersion
        firstStamp := first.stampSec
        lastStamp := last.stampSec }
    else if monotonicDeparture then .departing
    else .incompatible

namespace History

def closePrelift (reason : String) (history : History) : History :=
  { history with
    prelift := { history.prelift with
      preliftState := .closed
      preliftCloseReason := reason
      earliestPreliftSamples := [] } }

def baselineOf (z uncertainty stampSec : Scalar) : LiftBaseline where
  surfaceLiftReferenceFrozen := true
  surfaceBaselineZ := z
  surfaceBaselineUncertaintyM := uncertainty
  baselineFrozen := true
  baselineSource := .preLoadFrozenBaseline
  baselineZ95 := z
  baselineUncertaintyM := uncertainty
  baselineStampSec := stampSec

variable [IdentityMath]

def freezeReference (group : CargoPhysicalGroupObservation) (config : CargoVerticalEvidenceConfig)
    (level : FrozenLevel) (history : History) : History :=
  { history with
    prelift := { history.prelift with
      preliftState := .frozen
      preliftReferenceFrozen := true
      preliftReferenceZ := level.reference
      preliftReferenceUncertaintyM := level.uncertainty
      preliftReferenceFirstStamp := level.firstStamp
      preliftReferenceLastStamp := level.lastStamp
      frozenPreloadOwnerSurfaceCells :=
        localCellsOfPoints group.unionPointsBase history.prelift.frozenPreloadFootprint config }
    baseline := baselineOf level.reference level.uncertainty level.lastStamp }

variable (context : ObservationContext)

def samplePrelift (group : CargoPhysicalGroupObservation)
    (surface : AssociationOnlyReacquiredVerticalEvidence) (history : History) : History × Bool :=
  let stampSec := group.descriptor.stampSec
  let continued :=
    match history.prelift.earliestPreliftSamples.getLast? with
    | none => []
    | some last =>
      let gap := stampSec - last.stampSec
      -- A gap starts the samples anew.
      if !(0 < gap) || context.config.maximumObservationGapSec < gap then []
      else history.prelift.earliestPreliftSamples
  let samples := continued ++
    [{ stampSec, verticalZ := surface.topZBase, uncertaintyM := surface.uncertaintyM }]
  let sampled := { history with
    prelift := { history.prelift with
      preliftState := .acquiring
      preliftCloseReason := "none"
      earliestPreliftSamples := samples } }
  match judgePreliftWindow context.config samples with
  | .incomplete => (sampled, false)
  | .frozen level => (sampled.freezeReference group context.input.verticalConfig level, true)
  | .departing => (sampled.closePrelift "EARLIEST_PREFIX_MONOTONIC_DEPARTURE", false)
  | .incompatible =>
    ({ sampled with
        prelift := { sampled.prelift with
          preliftCloseReason := "WINDOW_RESTART_PREFIX_INCOMPATIBLE"
          earliestPreliftSamples := [] } }, false)

def acquirePrelift (group : CargoPhysicalGroupObservation)
    (surface : AssociationOnlyReacquiredVerticalEvidence) (authorized : Bool) (history : History) :
    History × Bool :=
  let phase := context.surfaceReferenceAcquisitionPhase
  if !history.prelift.preliftReferenceFrozen && history.prelift.preliftState != .closed && phase &&
      authorized && !context.preliftBlockedUntilNewEpoch then
    samplePrelift context group surface history
  else if !history.prelift.preliftReferenceFrozen && history.prelift.preliftState == .acquiring &&
      phase && !authorized then
    ({ history with prelift := { history.prelift with preliftState := .paused } }, false)
  else if !history.prelift.preliftReferenceFrozen && history.prelift.preliftState == .paused &&
      phase && authorized then
    ({ history with prelift := { history.prelift with preliftState := .acquiring } }, false)
  else (history, false)

def closeAtLoadEdge (history : History) : History :=
  if !history.prelift.preliftReferenceFrozen && context.gravityLoadEdge &&
      context.input.hookRole == .required then
    history.closePrelift "LOAD_EDGE_BEFORE_REFERENCE_FROZEN"
  else history

omit [IdentityMath] in
def noteSupported (group : CargoPhysicalGroupObservation) (history : History) : History :=
  let supported := history.supported
  let stampSec := group.descriptor.stampSec
  if group.descriptor.verticalMode == .supportedEvidence &&
      supported.lastSupportedEvidenceStampSec + kEpsilon < stampSec then
    { history with
      supported := {
        lastSupportedEvidenceStampSec := stampSec
        lastSupportedVerticalZ := group.descriptor.physicalVerticalZ
        lastSupportedVerticalUncertaintyM := group.descriptor.verticalUncertaintyM
        lastSupportedFootprint :=
          if group.geometryResolved && !group.groupAmbiguous then
            footprintSnapshot group.representative stampSec
          else supported.lastSupportedFootprint } }
  else history

end History

namespace LiftProgress

def revoked (lift : LiftProgress) : LiftProgress := { lift with
  liftConfirmCount := 0
  liftConfirmed := false
  validationStampSec := 0 }

def afterGap (maximumGapSec stampSec : Scalar) (lift : LiftProgress) : LiftProgress :=
  if 0 < lift.lastLiftSurfaceEvidenceStampSec &&
      maximumGapSec < stampSec - lift.lastLiftSurfaceEvidenceStampSec then lift.revoked
  else lift

def measured (stampSec : Scalar) (surface : AssociationOnlyReacquiredVerticalEvidence)
    (lift : LiftProgress) : LiftProgress := { lift with
  lastLiftSurfaceEvidenceStampSec := stampSec
  lastLiftSurfaceZ := surface.topZBase
  lastLiftSurfaceUncertaintyM := surface.uncertaintyM
  lastLiftSurfaceOwnerOverlapCells := surface.ownerOverlapCellCount
  lastLiftSurfaceOwnerCoverage := surface.ownerOverlapCoverage }

variable [IdentityMath]

def judged (context : ObservationContext) (delta threshold uncertaintyM : Scalar)
    (lift : LiftProgress) : LiftProgress :=
  let input := context.input
  let counted : LiftProgress :=
    -- Nothing has been lifted while the hook is known to be empty.
    if input.hookRole == .auxiliary && input.gravityEmpty && !lift.liftConfirmed then
      { lift with liftConfirmCount := 0 }
    else if threshold ≤ delta then
      let advanced := { lift with liftConfirmCount := lift.liftConfirmCount + 1 }
      if requiredFrames input.hookRole input.gravityValid input.gravityState
            context.config.liftConfirmFrames ≤ advanced.liftConfirmCount &&
          !lift.liftConfirmed then
        { advanced with
          liftConfirmed := true
          validationStampSec := input.pipelineStampSec }
      else advanced
    else if !lift.liftConfirmed &&
        delta < .maxOf 0 (threshold - context.config.significanceSigma * uncertaintyM) then
      { lift with liftConfirmCount := 0 }
    else lift
  if delta < -threshold then counted.revoked else counted

def gated (context : ObservationContext) (stampSec : Scalar)
    (surface : AssociationOnlyReacquiredVerticalEvidence) (authorized : Bool)
    (baseline : LiftBaseline) (lift : LiftProgress) : LiftProgress :=
  let kept := lift.afterGap context.config.maximumObservationGapSec stampSec
  if !authorized || !baseline.baselineFrozen || !baseline.surfaceLiftReferenceFrozen ||
      !(kept.lastLiftSurfaceEvidenceStampSec + kEpsilon < stampSec) then kept
  else
    (kept.measured stampSec surface).judged context (surface.topZBase - baseline.baselineZ95)
      (liftSignificanceThreshold context.config baseline.baselineUncertaintyM
        surface.uncertaintyM)
      surface.uncertaintyM

end LiftProgress

namespace History

variable [IdentityMath]

structure Absorption where
  history : History
  surface : AssociationOnlyReacquiredVerticalEvidence := {}
  froze : Bool := false

def absorb (context : ObservationContext) (sighting : GroupSighting) (history : History) :
    Absorption :=
  let group := sighting.group
  let seen := context.acquireFootprint group
    { history with track := history.track.observed context.config sighting }
  let surface := context.currentSurfaceVertical sighting seen
  let authorized := context.surfaceEvidenceAuthorized sighting seen surface
  let (acquired, froze) := seen.acquirePrelift context group surface authorized
  let noted := (acquired.closeAtLoadEdge context).noteSupported group
  { history := { noted with
      lift := noted.lift.gated context group.descriptor.stampSec surface authorized
        noted.baseline }
    surface
    froze }

end History

end NdtSlam
