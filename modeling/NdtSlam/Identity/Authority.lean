import NdtSlam.Identity.GroupPass

/-! The authority that decides which load the hook carries. -/

namespace NdtSlam

inductive CargoPhysicalIdentityState where
  | unknown
  | ambiguous
  | validated
  deriving DecidableEq

inductive CargoExistenceSource where
  | none
  | gravityLoaded
  | strictLidar

structure SelectedIdentity where
  physicalHistoryId : Nat := 0
  frameGroupId : Nat := 0
  currentVerticalMode : CargoGroupVerticalMode := .invalid
  currentVerticalEvidenceValid : Bool := false
  geometryResolved : Bool := false
  resolvedCandidateId : Nat := 0
  resolvedMemberComponentIds : List Nat := []
  currentCandidateFresh : Bool := false
  baseline : LiftBaseline := {}
  prelift : PreliftReference := {}
  liftConfirmed : Bool := false
  liftConfirmCount : Nat := 0
  requiredLiftConfirmFrames : Int := 0
  currentSurface : AssociationOnlyReacquiredVerticalEvidence := {}
  liftDeltaM : Scalar := .nan
  liftThresholdM : Scalar := .nan
  evidenceAgeSec : Scalar := .posInf
  lastSupportedEvidenceStamp : Scalar := 0
  identityValidationStampSec : Scalar := 0

structure CargoPhysicalIdentityDecision where
  validInput : Bool := false
  cargoExists : Bool := false
  existenceSource : CargoExistenceSource := .none
  association : CargoCandidateAssociationState := .newHistory
  identity : CargoPhysicalIdentityState := .unknown
  startedLoadedWithoutBaseline : Bool := false
  loadEpoch : Nat := 0
  physicalCargoEpochId : Nat := 0
  selected : SelectedIdentity := {}
  owner : Option ProductionOwnerLock := none
  ownerFreshDescriptor : Option CargoPhysicalGroupDescriptor := none
  ownerHandoffAmbiguous : Bool := false
  preloadReferenceCertificateCreated : Bool := false
  preloadReferenceCertificate : Option FrozenPreloadReferenceCertificate := none
  preloadReferenceInvalidateReason : String := "none"
  postloadHistoryId : Option Nat := none
  formalLift : FormalLiftReport := {}
  formalLiftBoundaryAuthorized : Bool := false
  referenceLock : DiagnosticSurfaceReferenceLock := {}
  groupDiagnostics : List CargoPhysicalGroupDiagnostic := []
  reason : String := "uninitialized"

structure CargoPhysicalIdentityAuthority where
  config : CargoPhysicalIdentityConfig
  histories : List History := []
  nextHistoryId : Nat := 1
  loadEpoch : Nat := 0
  lifecycleId : Nat := 0
  physicalCargoEpochId : Nat := 0
  validatedHistoryId : Nat := 0
  productionOwnerLock : Option ProductionOwnerLock := none
  nextLockGeneration : Nat := 1
  initialized : Bool := false
  previousExistencePhase : Bool := false
  previousGravityValid : Bool := false
  previousGravityState : HookLoadState := .unknown
  startedLoadedWithoutBaseline : Bool := false
  preliftBlockedUntilNewEpoch : Bool := false
  lastPipelineStampSec : Scalar := 0
  handover : PreloadHandover := {}
  referenceLock : DiagnosticSurfaceReferenceLock := {}

def positiveOr (value default : Scalar) : Scalar := if 0 < value then value else default

def nonnegativeOr (value default : Scalar) : Scalar := if 0 ≤ value then value else default

def CargoPhysicalIdentityConfig.normalized (config : CargoPhysicalIdentityConfig) :
    CargoPhysicalIdentityConfig where
  maximumXyStepM := positiveOr config.maximumXyStepM 0.30
  maximumZSpeedMps := positiveOr config.maximumZSpeedMps 1.50
  zStepMarginM := nonnegativeOr config.zStepMarginM 0.05
  maximumSizeRelativeStep := nonnegativeOr config.maximumSizeRelativeStep 0.60
  ambiguityCostMargin := nonnegativeOr config.ambiguityCostMargin 0.08
  minimumSignificantChangeM := positiveOr config.minimumSignificantChangeM 0.15
  significanceSigma := positiveOr config.significanceSigma 3
  maximumObservationGapSec := positiveOr config.maximumObservationGapSec 0.50
  maximumSourceAgeSec := nonnegativeOr config.maximumSourceAgeSec 0.50
  liftConfirmFrames := max 1 config.liftConfirmFrames
  historyHoldTtlSec := positiveOr config.historyHoldTtlSec 1

namespace CargoPhysicalIdentityAuthority

section Epochs

variable (self : CargoPhysicalIdentityAuthority) (input : CargoPhysicalIdentityInput)

def emptyToLoadedTransition : Bool :=
  self.initialized && self.previousGravityValid && self.previousGravityState == .empty &&
    input.gravityLoaded

def lifecycleChanged : Bool := self.initialized && input.lifecycleId != self.lifecycleId

def timeRollback : Bool :=
  self.initialized && input.pipelineStampSec.isFinite &&
    input.pipelineStampSec + kEpsilon < self.lastPipelineStampSec

def stampValid : Bool :=
  input.pipelineStampSec.isFinite && 0 < input.pipelineStampSec &&
    (!self.initialized || self.timeRollback input || input.rearm ||
      input.lifecycleId != self.lifecycleId || self.lastPipelineStampSec < input.pipelineStampSec)

def rolledBack : CargoPhysicalIdentityAuthority :=
  if self.timeRollback input then
    { self with
      histories := []
      validatedHistoryId := 0
      productionOwnerLock := none
      handover := { invalidateReason := "SOURCE_TIME_ROLLBACK" }
      referenceLock := {}
      preliftBlockedUntilNewEpoch := true }
  else self

def boundaryEdges : BoundaryEdges where
  stampSec := input.pipelineStampSec
  lifecycle := self.lifecycleChanged input
  load := self.emptyToLoadedTransition input
  gravityLoaded := input.gravityLoaded
  gravityEmpty := input.gravityEmpty
  maximumGapSec := self.config.maximumObservationGapSec

def coalesced : CargoPhysicalIdentityAuthority :=
  let rolled := self.rolledBack input
  { rolled with
    handover := rolled.handover.coalesce (self.boundaryEdges input) input.rearm
      (!self.timeRollback input && !input.rearm) }

def endsEpoch : Bool := input.rearm || self.lifecycleChanged input

def epochEntered : CargoPhysicalIdentityAuthority :=
  let coalesced := self.coalesced input
  let entered :=
    if self.endsEpoch input then
      { coalesced with
        histories := []
        validatedHistoryId := 0
        productionOwnerLock := none
        previousExistencePhase := false
        startedLoadedWithoutBaseline := false
        preliftBlockedUntilNewEpoch := false
        handover := coalesced.handover.invalidate "PHYSICAL_EPOCH_END"
        loadEpoch := coalesced.loadEpoch + 1
        physicalCargoEpochId :=
          if input.lifecycleId ≠ 0 then input.lifecycleId
          else coalesced.physicalCargoEpochId + 1 }
    else coalesced
  { entered with
    physicalCargoEpochId :=
      if !self.initialized && entered.physicalCargoEpochId == 0 then
        if input.lifecycleId ≠ 0 then input.lifecycleId else 1
      else entered.physicalCargoEpochId
    lifecycleId := input.lifecycleId
    lastPipelineStampSec := input.pipelineStampSec
    initialized := true }

def unloads : Bool :=
  input.gravityEmpty && self.previousExistencePhase && input.hookRole == .required

def unloaded : CargoPhysicalIdentityAuthority :=
  if self.unloads input then
    { self with
      histories := []
      validatedHistoryId := 0
      productionOwnerLock := none
      startedLoadedWithoutBaseline := false
      preliftBlockedUntilNewEpoch := false
      handover := { self.handover.invalidate "UNLOAD" with formalLiftBoundaryAuthorized := false }
      loadEpoch := self.loadEpoch + 1
      physicalCargoEpochId := self.physicalCargoEpochId + 1 }
  else self

def gravityLoadEdge : Bool := input.gravityLoaded && !self.previousExistencePhase

def historyAtLoadEdge (history : History) : History :=
  let restarted := { history with
    lift := history.lift.revoked
    supported := { history.supported with lastSupportedEvidenceStampSec := 0 } }
  if history.prelift.preliftReferenceFrozen then restarted
  else restarted.closePrelift "LOAD_EDGE_BEFORE_REFERENCE_FROZEN"

def pickedUp : CargoPhysicalIdentityAuthority :=
  if self.gravityLoadEdge input then
    if input.hookRole = .required then
      { self with
        loadEpoch := self.loadEpoch + 1
        startedLoadedWithoutBaseline := input.nodeStartedLoaded &&
          self.histories.all fun history => !history.prelift.preliftReferenceFrozen
        histories := self.histories.map historyAtLoadEdge }
    else { self with loadEpoch := self.loadEpoch + 1 }
  else self

def entered : CargoPhysicalIdentityAuthority :=
  ((self.epochEntered input).unloaded input).pickedUp input

def observationContext : ObservationContext :=
  let entered := self.entered input
  { config := self.config
    input
    lifecycleId := entered.lifecycleId
    physicalCargoEpochId := entered.physicalCargoEpochId
    startedLoadedWithoutBaseline := entered.startedLoadedWithoutBaseline
    preliftBlockedUntilNewEpoch := entered.preliftBlockedUntilNewEpoch
    gravityLoadEdge := ((self.epochEntered input).unloaded input).gravityLoadEdge input }

end Epochs

section Groups

variable [IdentityMath] (self : CargoPhysicalIdentityAuthority)
  (input : CargoPhysicalIdentityInput)

def handoffMatch : Option (Nat × AssociationOnlyReacquiredVerticalEvidence) :=
  let entered := self.entered input
  entered.handover.handoff.bind fun handoff =>
    postLoadMatch self.config input handoff entered.histories

def handoverOffered : PreloadHandover :=
  let handover := (self.entered input).handover
  if (self.handoffMatch input).isNone && !input.groups.isEmpty then
    { handover with handoff := none }
  else handover

def framed : List FramedGroup :=
  framedGroups self.config input (self.entered input).histories (self.handoffMatch input)

def passStart : GroupPass :=
  let entered := self.entered input
  { histories := entered.histories
    nextHistoryId := entered.nextHistoryId
    handover := self.handoverOffered input
    referenceLock := entered.referenceLock }

def passed : GroupPass :=
  (self.passStart input).through (self.observationContext input) (self.framed input)

end Groups

section Judgement

variable [IdentityMath] (config : CargoPhysicalIdentityConfig)
  (input : CargoPhysicalIdentityInput)

def contradicts (certificate : FrozenPreloadReferenceCertificate) (framed : FramedGroup) :
    Bool :=
  let descriptor := framed.group.descriptor
  let frozen := certificate.frozenFootprint
  !framed.ambiguous && uniqueCurrentExactGroup framed.group && frozen.valid &&
    !(config.maximumXyStepM < (descriptor.robustXyCenter - frozen.centerBase).norm) &&
    !(relativeStep descriptor.robustXyExtent.x frozen.sizeXy.x ≤ config.maximumSizeRelativeStep &&
      relativeStep descriptor.robustXyExtent.y frozen.sizeXy.y ≤ config.maximumSizeRelativeStep)

def handoverJudged (framed : List FramedGroup) (handover : PreloadHandover) : PreloadHandover :=
  match handover.certificate with
  | none => handover
  | some certificate =>
    if input.gravityEmpty && framed.any (contradicts config certificate) then
      handover.invalidate "CONTRADICTORY_PRELOAD_OWNER"
    else handover

def freshlyConfirmed (history : History) : Bool :=
  let associationAge := input.pipelineStampSec - history.track.lastStampSec
  let supportedStamp := history.supported.lastSupportedEvidenceStampSec
  let supportedAge : Scalar :=
    if 0 < supportedStamp then input.pipelineStampSec - supportedStamp else .posInf
  history.lift.liftConfirmed &&
    (-kEpsilon ≤ associationAge && associationAge ≤ config.maximumSourceAgeSec &&
      -kEpsilon ≤ supportedAge && supportedAge ≤ config.maximumObservationGapSec) &&
    !history.track.associationAmbiguous

def occupies (current : CargoPhysicalGroupDescriptor) (history : History) : Bool :=
  let previous := history.track.lastDescriptor
  let elapsed := current.stampSec - history.track.lastStampSec
  let deferred := current.verticalMode == .continuityOnly
  current.stableAnchor.allFinite && current.robustXyCenter.allFinite &&
    current.robustXyExtent.allFinite && current.robustXyExtent.allPositive &&
    current.aggregateExtent.allFinite && current.verticalUncertaintyM.isFinite &&
    0 < elapsed && elapsed ≤ config.maximumObservationGapSec &&
    ((current.robustXyCenter - previous.robustXyCenter).norm ≤ config.maximumXyStepM ||
      hasPositiveAreaSupportOverlap current previous) &&
    (current.stableAnchor.z - previous.stableAnchor.z).abs ≤
      zLimit config elapsed current.verticalUncertaintyM previous.verticalUncertaintyM &&
    (extentSteps deferred current previous).all (· ≤ config.maximumSizeRelativeStep)

def conflictsWith (offers : List (Offer Scalar)) (histories : List History)
    (protectedHistoryId : Nat) (framed : FramedGroup) : Bool :=
  framed.ambiguous && protectedHistoryId != 0 &&
    (offers.any (fun offer => offer.row == framed.index &&
        (histories[offer.column]?).any fun history => history.id == protectedHistoryId) ||
      framed.group.groupAmbiguous &&
        (histories.find? fun history => history.id == protectedHistoryId).any
          (occupies config framed.group.descriptor))

structure Judgement where
  freshConfirmed : List History
  validatedHistoryConflict : Bool
  cargoExists : Bool
  existenceSource : CargoExistenceSource
  validatedHistoryId : Nat

def judge (offers : List (Offer Scalar)) (framed : List FramedGroup) (histories : List History)
    (validatedHistoryId : Nat) : Judgement :=
  let freshConfirmed := histories.filter (freshlyConfirmed config input)
  let sole : Option History := if freshConfirmed.length = 1 then freshConfirmed.head? else none
  let protectedHistoryId := (sole.map (·.id)).getD validatedHistoryId
  let conflict := framed.any (conflictsWith config offers histories protectedHistoryId)
  let cargoExists : Bool :=
    input.gravityLoaded || (input.hookRole != .required && !freshConfirmed.isEmpty)
  let retained :=
    if input.gravityEmpty && input.hookRole == .required then 0 else validatedHistoryId
  { freshConfirmed
    validatedHistoryConflict := conflict
    cargoExists
    existenceSource :=
      if input.gravityLoaded then .gravityLoaded
      else if cargoExists then .strictLidar
      else .none
    validatedHistoryId :=
      if conflict then 0
      else
        match sole with
        | none => 0
        | some history => if cargoExists then history.id else retained }

end Judgement

section Decisions

variable [IdentityMath] (config : CargoPhysicalIdentityConfig) (input : CargoPhysicalIdentityInput)
  (diagnostics : List CargoPhysicalGroupDiagnostic)

def currentGroup (historyId : Nat) :
    Option (CargoPhysicalGroupObservation × CargoPhysicalGroupDiagnostic) :=
  (input.groups.zip diagnostics).find? fun (_, diagnostic) =>
    diagnostic.matchedHistoryId == some historyId

def selectIdentity (history : History) : SelectedIdentity :=
  let current := currentGroup input diagnostics history.id
  let group := current.map (·.1)
  let surface : AssociationOnlyReacquiredVerticalEvidence :=
    (current.map (·.2.currentSurface)).getD {}
  let supported := group.any fun group => group.descriptor.verticalMode == .supportedEvidence
  let resolved := supported &&
    group.any fun group => group.geometryResolved && !group.groupAmbiguous
  { physicalHistoryId := history.id
    frameGroupId := (group.map (·.frameGroupId)).getD 0
    currentVerticalMode := (group.map (·.descriptor.verticalMode)).getD .invalid
    currentVerticalEvidenceValid := supported
    geometryResolved := resolved
    resolvedCandidateId :=
      if resolved then (group.map (·.representative.candidateId)).getD 0 else 0
    resolvedMemberComponentIds :=
      if resolved then (group.map (·.representative.memberComponentIds)).getD [] else []
    currentCandidateFresh := group.isSome
    baseline := history.baseline
    prelift := history.prelift
    liftConfirmed := history.lift.liftConfirmed
    liftConfirmCount := history.lift.liftConfirmCount
    requiredLiftConfirmFrames := requiredFrames input.hookRole input.gravityValid
      input.gravityState config.liftConfirmFrames
    currentSurface := surface
    liftDeltaM := if surface.valid then surface.topZBase - history.baseline.baselineZ95 else .nan
    liftThresholdM :=
      if surface.valid then
        .maxOf config.minimumSignificantChangeM (config.significanceSigma *
          Vec2.norm ⟨history.baseline.baselineUncertaintyM,
            history.lift.lastLiftSurfaceUncertaintyM⟩)
      else .nan
    evidenceAgeSec := input.pipelineStampSec - history.supported.lastSupportedEvidenceStampSec
    lastSupportedEvidenceStamp := history.supported.lastSupportedEvidenceStampSec
    identityValidationStampSec := history.lift.validationStampSec }

def identify (startedLoadedWithoutBaseline : Bool) (pass : GroupPass) (judgement : Judgement) :
    CargoPhysicalIdentityState × SelectedIdentity × String :=
  if startedLoadedWithoutBaseline then
    (.unknown, {}, "identity_evidence_unavailable_started_loaded")
  else if 1 < judgement.freshConfirmed.length || judgement.validatedHistoryConflict ||
      (judgement.freshConfirmed.isEmpty && pass.anyAmbiguity) then
    (.ambiguous, {}, "multiple_or_ambiguous_physical_groups")
  else if judgement.validatedHistoryId != 0 && judgement.cargoExists then
    match (pass.histories.filter fun history =>
        history.id == judgement.validatedHistoryId).getLast? with
    | none => (.unknown, {}, "uninitialized")
    | some history =>
      let selected := selectIdentity config input pass.diagnostics history
      (.validated, selected,
        if selected.geometryResolved then "candidate_specific_lift_validated"
        else if selected.currentVerticalEvidenceValid then
          "physical_identity_validated_geometry_ambiguous"
        else "physical_identity_retained_vertical_continuity_only")
  else
    (.unknown, {}, if judgement.cargoExists then "existence_without_candidate_identity"
      else "cargo_existence_not_proven")

omit [IdentityMath] in
def frameAssociation (pass : GroupPass) (judgement : Judgement) :
    CargoCandidateAssociationState :=
  if judgement.validatedHistoryConflict || 1 < judgement.freshConfirmed.length then .ambiguous
  else if judgement.validatedHistoryId != 0 then
    ((pass.diagnostics.find? fun diagnostic =>
      diagnostic.matchedHistoryId == some judgement.validatedHistoryId).map
        (·.association)).getD .newHistory
  else if pass.anyAmbiguity then .ambiguous
  else pass.frameAssociation

end Decisions

section Updates

variable [IdentityMath] (self : CargoPhysicalIdentityAuthority) (input : CargoPhysicalIdentityInput)
  (pass : GroupPass)

def judgement : Judgement :=
  let entered := self.entered input
  judge self.config input (feasiblePairs self.config input.groups entered.histories)
    (self.framed input) pass.histories entered.validatedHistoryId

def identification : CargoPhysicalIdentityState × SelectedIdentity × String :=
  identify self.config input (self.entered input).startedLoadedWithoutBaseline pass
    (self.judgement input pass)

def ownerLatched : Option ProductionOwnerLock :=
  let entered := self.entered input
  match entered.productionOwnerLock with
  | some owner => some owner
  | none =>
    let validated := (self.judgement input pass).validatedHistoryId
    if (self.identification input pass).1 = .validated ∧ validated ≠ 0 then
      some (ProductionOwnerLock.latch entered.nextLockGeneration validated input.pipelineStampSec)
    else none

def ownerFollowed : Option OwnerMeasurement :=
  (self.ownerLatched input pass).map fun owner =>
    owner.followed self.config (self.entered input).physicalCargoEpochId pass.histories
      pass.diagnostics input.pipelineStampSec

def lockActivated : DiagnosticSurfaceReferenceLock :=
  pass.referenceLock.activated pass.handover.formalLiftBoundaryAuthorized input.gravityLoaded

def advanced : CargoPhysicalIdentityAuthority :=
  let entered := self.entered input
  let pass := self.passed input
  let judgement := self.judgement input pass
  let lock := lockActivated input pass
  { entered with
    histories := lock.historiesAfterFrame self.config input
      (pass.diagnostics.map (·.matchedHistoryId)) pass.histories
    nextHistoryId := pass.nextHistoryId
    validatedHistoryId := judgement.validatedHistoryId
    productionOwnerLock := (self.ownerFollowed input pass).map (·.owner)
    nextLockGeneration :=
      if entered.productionOwnerLock.isNone && (self.ownerLatched input pass).isSome then
        entered.nextLockGeneration + 1
      else entered.nextLockGeneration
    previousExistencePhase := input.gravityLoaded || judgement.cargoExists
    previousGravityValid := input.gravityValid
    previousGravityState := input.gravityState
    handover := handoverJudged self.config input (self.framed input) pass.handover
    referenceLock := lock.afterFrame self.config input }

def decisionOf : CargoPhysicalIdentityDecision :=
  let entered := self.entered input
  let pass := self.passed input
  let judgement := self.judgement input pass
  let (identity, selected, reason) := self.identification input pass
  let measurement := self.ownerFollowed input pass
  let lock := lockActivated input pass
  let handover := handoverJudged self.config input (self.framed input) pass.handover
  { validInput := true
    cargoExists := judgement.cargoExists
    existenceSource := judgement.existenceSource
    association := frameAssociation pass judgement
    identity
    startedLoadedWithoutBaseline := entered.startedLoadedWithoutBaseline
    loadEpoch := entered.loadEpoch
    physicalCargoEpochId := entered.physicalCargoEpochId
    selected
    owner := measurement.map (·.owner)
    ownerFreshDescriptor := measurement.bind (·.freshDescriptor)
    ownerHandoffAmbiguous := (measurement.map (·.handoffAmbiguous)).getD false
    preloadReferenceCertificateCreated := pass.certificateCreated
    preloadReferenceCertificate := handover.certificate
    preloadReferenceInvalidateReason := handover.invalidateReason
    postloadHistoryId := pass.postloadHistoryId
    formalLift := lock.report self.config input
    formalLiftBoundaryAuthorized := handover.formalLiftBoundaryAuthorized
    referenceLock := lock.afterFrame self.config input
    groupDiagnostics := pass.diagnostics
    reason }

def update : CargoPhysicalIdentityAuthority × CargoPhysicalIdentityDecision :=
  if self.stampValid input then (self.advanced input, self.decisionOf input)
  else
    (self.rolledBack input, {
      loadEpoch := self.loadEpoch
      physicalCargoEpochId := self.physicalCargoEpochId
      reason :=
        if self.timeRollback input then "source_time_rollback_closed_current_cargo_epoch"
        else "source_time_invalid_or_not_advanced" })

omit [IdentityMath] in
def reset : CargoPhysicalIdentityAuthority := { config := self.config }

end Updates

inductive Call where
  | update (input : CargoPhysicalIdentityInput)
  | reset

def machine [IdentityMath] (config : CargoPhysicalIdentityConfig) :
    Machine CargoPhysicalIdentityAuthority Call CargoPhysicalIdentityDecision where
  start := { config := config.normalized }
  step self call :=
    match call with
    | .update input => self.update input
    | .reset => (self.reset, {})

end CargoPhysicalIdentityAuthority

abbrev IdentityEvent :=
  Event CargoPhysicalIdentityAuthority CargoPhysicalIdentityAuthority.Call

end NdtSlam
