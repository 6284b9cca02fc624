import NdtSlam.Identity.OwnerLock

/-! The pass over the groups of a frame, one after the other. -/

namespace NdtSlam

structure FramedGroup where
  index : Nat
  group : CargoPhysicalGroupObservation
  association : GroupAssociation
  lineageExactPathWon : Bool := false
  handoffVertical : Option AssociationOnlyReacquiredVerticalEvidence := none
  competingOwnerPoints : List Vec3 := []

namespace FramedGroup

def sighting (framed : FramedGroup) : GroupSighting where
  group := framed.group
  lineage := framed.association.lineage
  handoffVertical := framed.handoffVertical
  competingOwnerPoints := framed.competingOwnerPoints

def ambiguous (framed : FramedGroup) : Bool :=
  framed.group.groupAmbiguous || framed.association.verdict == .ambiguous

end FramedGroup

section PostLoad

variable (config : CargoPhysicalIdentityConfig) (input : CargoPhysicalIdentityInput)
  (handoff : PreLoadHandoffSnapshot)

def postLoadGeometry [IdentityMath] (descriptor : CargoPhysicalGroupDescriptor) : Bool :=
  let gap := descriptor.stampSec - handoff.loadEdgeStampSec
  !(gap < -kEpsilon) && !(config.maximumObservationGapSec < gap) &&
    ((descriptor.robustXyCenter - handoff.robustXyCenter).norm ≤ config.maximumXyStepM ||
      positiveAreaOverlap (descriptor.robustX05, descriptor.robustX95) handoff.robustX
        (descriptor.robustY05, descriptor.robustY95) handoff.robustY) &&
    relativeStep descriptor.robustXyExtent.x handoff.robustXyExtent.x
      ≤ config.maximumSizeRelativeStep &&
    relativeStep descriptor.robustXyExtent.y handoff.robustXyExtent.y
      ≤ config.maximumSizeRelativeStep

variable [IdentityMath] (histories : List History)

def postLoadCandidate (groupIndex : Nat) (group : CargoPhysicalGroupObservation) : Bool :=
  uniqueCurrentExactGroup group &&
    exactMatch config input.groups histories groupIndex != .ambiguous &&
    postLoadGeometry config handoff group.descriptor && rawCloudOf input.frameEvidence group

def geometricCandidates : List Nat :=
  (input.groups.zipIdx.filter fun (group, index) =>
    postLoadCandidate config input handoff histories index group).map (·.2)

def postLoadVertical (groupIndex : Nat) : AssociationOnlyReacquiredVerticalEvidence :=
  reacquirePostLoadHandoffVertical input.groups input.frameEvidence
    handoff.certificate.frozenFootprint handoff.certificate.frozenOwnerCells groupIndex
    input.verticalConfig handoff.certificate.baselineUncertaintyM

def postLoadMatch : Option (Nat × AssociationOnlyReacquiredVerticalEvidence) :=
  match geometricCandidates config input handoff histories with
  | [groupIndex] =>
    let vertical := postLoadVertical input handoff groupIndex
    if vertical.valid then some (groupIndex, vertical) else none
  | _ => none

end PostLoad

section Framing

variable [IdentityMath] (config : CargoPhysicalIdentityConfig)
  (input : CargoPhysicalIdentityInput) (histories : List History)

def competingOwnerPoints (groupIndex : Nat) : List Vec3 :=
  input.groups.zipIdx.flatMap fun (group, index) =>
    if index = groupIndex then [] else group.unionPointsBase

def framedGroups (matching : Option (Nat × AssociationOnlyReacquiredVerticalEvidence)) :
    List FramedGroup :=
  input.groups.zipIdx.map fun (group, index) => {
    index
    group
    association := associate config input histories index
    lineageExactPathWon := lineageExactPathWon config input histories index
    handoffVertical := (matching.filter fun found => found.1 == index).map (·.2)
    competingOwnerPoints := competingOwnerPoints input index }

end Framing

inductive GroupRoute where
  | ambiguous
  | skipped
  | matched (historyIndex : Nat)
  | recoveryAmbiguous
  | held (historyIndex : Nat)
  | unsupported
  | created
  deriving DecidableEq

section Routes

variable (context : ObservationContext) (group : CargoPhysicalGroupObservation)

def recoverable (history : History) : Bool :=
  let current := group.descriptor
  let track := history.track
  let strongAge := current.stampSec - track.lastStrongMatchStampSec
  let elapsed := current.stampSec - track.lastStampSec
  !(track.lastStrongMatchStampSec ≤ 0) &&
    !(strongAge < 0 || context.config.historyHoldTtlSec < strongAge) &&
    hasPositiveAreaSupportOverlap current track.lastDescriptor &&
    (current.verticalMode == .invalid ||
      (withinGap context.config elapsed &&
        !(zLimit context.config elapsed current.verticalUncertaintyM
            track.lastDescriptor.verticalUncertaintyM <
          (current.physicalVerticalZ - track.lastDescriptor.physicalVerticalZ).abs)))

def recoveryCandidates (histories : List History) : List Nat :=
  (histories.zipIdx.filter fun (history, _) => recoverable context group history).map (·.2)

def routeOf (framed : FramedGroup) (histories : List History) : GroupRoute :=
  let strong := finiteDescriptor framed.group.descriptor
  let loaded := context.input.gravityLoaded
  if framed.ambiguous then .ambiguous
  else if !strong && !loaded then .skipped
  else
    match framed.association.verdict with
    | .matched historyIndex => .matched historyIndex
    | _ =>
      if !loaded then .created
      else
        -- A load that was just picked up may be hard to see for a moment.
        match recoveryCandidates context framed.group histories with
        | [] => if strong then .created else .unsupported
        | [historyIndex] => .held historyIndex
        | _ => .recoveryAmbiguous

end Routes

structure GroupPass where
  histories : List History
  nextHistoryId : Nat
  handover : PreloadHandover
  referenceLock : DiagnosticSurfaceReferenceLock
  frameAssociation : CargoCandidateAssociationState := .newHistory
  anyAmbiguity : Bool := false
  certificateCreated : Bool := false
  postloadHistoryId : Option Nat := none
  diagnostics : List CargoPhysicalGroupDiagnostic := []

def certificateOf (lifecycleId : Nat) (stampSec : Scalar) (history : History) :
    FrozenPreloadReferenceCertificate where
  sourceLifecycleId := lifecycleId
  sourcePhysicalEpoch := history.physicalCargoEpochId
  baselineZ := history.baseline.baselineZ95
  baselineUncertaintyM := history.baseline.baselineUncertaintyM
  frozenFootprint := history.prelift.frozenPreloadFootprint
  frozenOwnerCells := history.prelift.frozenPreloadOwnerSurfaceCells
  referenceFreezeStampSec := stampSec
  sourceHistoryId := history.id

def newHistory (id physicalCargoEpochId : Nat) : History := { id, physicalCargoEpochId }

def History.keptAlive (stampSec : Scalar) (history : History) : History :=
  { history with track := history.track.held stampSec }

def History.seeded (handoff : PreLoadHandoffSnapshot) (history : History) : History :=
  let certificate := handoff.certificate
  let stampSec := certificate.referenceFreezeStampSec
  { history with
    prelift := { history.prelift with
      preliftState := .frozen
      preliftReferenceFrozen := true
      preliftReferenceZ := certificate.baselineZ
      preliftReferenceUncertaintyM := certificate.baselineUncertaintyM
      preliftReferenceFirstStamp := stampSec
      preliftReferenceLastStamp := stampSec
      frozenPreloadFootprint := certificate.frozenFootprint }
    baseline := History.baselineOf certificate.baselineZ certificate.baselineUncertaintyM stampSec
    supported := { history.supported with
      lastSupportedFootprint := certificate.frozenFootprint } }

namespace GroupPass

variable (context : ObservationContext) (framed : FramedGroup) (pass : GroupPass)

def diagnostic : CargoPhysicalGroupDiagnostic where
  frameGroupId := framed.group.frameGroupId
  descriptor := framed.group.descriptor
  lineageExactPathWon := framed.lineageExactPathWon

variable (association : CargoCandidateAssociationState)

def unassociated : GroupPass :=
  { pass with
    diagnostics := pass.diagnostics ++ [{ diagnostic framed with association }] }

def associated (historyId : Nat) (currentSurface : AssociationOnlyReacquiredVerticalEvidence)
    (handoffConsumed : Bool) :
    GroupPass :=
  { pass with
    diagnostics := pass.diagnostics ++ [{ diagnostic framed with
      matchedHistoryId := some historyId
      association
      currentSurface
      preloadHandoffConsumed := handoffConsumed }] }

def commit (froze : Bool) (history : History) : GroupPass :=
  if froze then
    match pass.handover.certificate with
    | none =>
      let certificate :=
        certificateOf context.lifecycleId framed.group.descriptor.stampSec history
      { pass with
        handover := { pass.handover with
          certificate := some certificate
          invalidateReason := "none" }
        referenceLock := pass.referenceLock.initializeFromCertificate certificate
        certificateCreated := true }
    | some _ => { pass with referenceLock := pass.referenceLock.noteOverwriteAttempt }
  else pass

def createHistory : History × Bool :=
  let fresh := newHistory pass.nextHistoryId context.physicalCargoEpochId
  let (started, seeds) :=
    match framed.handoffVertical, pass.handover.handoff with
    | some _, some handoff => (fresh.seeded handoff, true)
    | _, _ => (fresh, false)
  if context.preliftBlockedUntilNewEpoch then
    ({ started with
        prelift := { started.prelift with
          preliftState := .closed
          preliftCloseReason := "CURRENT_EPOCH_PRELIFT_BLOCKED" } }, seeds)
  else (started, seeds)

def follow [IdentityMath] (historyIndex : Nat) (history : History) : GroupPass :=
  let absorbed := history.absorb context framed.sighting
  let followed : GroupPass := { pass with
    frameAssociation :=
      if pass.frameAssociation = .ambiguous then .ambiguous else .matched
    histories := pass.histories.set historyIndex absorbed.history }
  (followed.commit context framed absorbed.froze absorbed.history).associated framed .matched
    history.id absorbed.surface false

def create [IdentityMath] : GroupPass :=
  let history := (createHistory context framed pass).1
  let seeds := (createHistory context framed pass).2
  let absorbed := history.absorb context framed.sighting
  let created : GroupPass := { pass with
    histories := pass.histories ++ [absorbed.history]
    nextHistoryId := pass.nextHistoryId + 1
    handover := if seeds then { pass.handover with handoff := none } else pass.handover
    postloadHistoryId := if seeds then some history.id else pass.postloadHistoryId }
  (created.commit context framed absorbed.froze absorbed.history).associated framed .newHistory
    history.id absorbed.surface seeds

def hold (historyIndex : Nat) (history : History) : GroupPass :=
  { pass with
    histories := pass.histories.set historyIndex
      (history.keptAlive framed.group.descriptor.stampSec) }.associated framed .recoveryHold
    history.id {} false

variable [IdentityMath]

def step : GroupPass :=
  match routeOf context framed pass.histories with
  | .ambiguous =>
    { pass with
      frameAssociation := .ambiguous
      anyAmbiguity := true }.unassociated framed .ambiguous
  | .skipped => pass.unassociated framed .newHistory
  | .matched historyIndex =>
    match pass.histories[historyIndex]? with
    | none => pass.unassociated framed .newHistory
    | some history => follow context framed pass historyIndex history
  | .recoveryAmbiguous =>
    { pass with anyAmbiguity := true }.unassociated framed .ambiguous
  | .held historyIndex =>
    match pass.histories[historyIndex]? with
    | none => pass.unassociated framed .newHistory
    | some history => hold framed pass historyIndex history
  | .unsupported => pass.unassociated framed .newHistory
  | .created => create context framed pass

def through (groups : List FramedGroup) : GroupPass :=
  groups.foldl (fun pass framed => step context framed pass) pass

end GroupPass

end NdtSlam
