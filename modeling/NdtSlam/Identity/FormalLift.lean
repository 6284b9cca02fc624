import NdtSlam.Identity.Boundary

/-! The lift of the formal reference, and its projection onto the histories. -/

namespace NdtSlam

inductive LiftEvidenceClass where
  | positive
  | unobservable
  | contradictory
  deriving DecidableEq

def classifyLiftEvidence (significant ownerValid ownerAmbiguous surfaceValid : Bool) :
    LiftEvidenceClass :=
  if significant then .positive
  else
    let ownerMissing := !ownerValid && !ownerAmbiguous
    let surfaceMissing := ownerValid && !surfaceValid
    if ownerMissing || surfaceMissing then .unobservable else .contradictory

structure FormalLiftReport where
  formalLiftLockActive : Bool := false
  formalLiftConfirmCount : Nat := 0
  formalLiftConfirmed : Bool := false
  assemblySurfaceZ : Scalar := .nan
  preclusterSurface : OwnerLockedSurfaceResult := {}
  evidence : Option LiftEvidenceClass := none

namespace DiagnosticSurfaceReferenceLock

variable (config : CargoPhysicalIdentityConfig) (input : CargoPhysicalIdentityInput)
  (lock : DiagnosticSurfaceReferenceLock)

def activates (authorized gravityLoaded : Bool) : Bool :=
  lock.phase == .preloadActive && authorized && gravityLoaded

def activated (authorized gravityLoaded : Bool) : DiagnosticSurfaceReferenceLock :=
  if lock.activates authorized gravityLoaded then
    { lock with
      phase := .postloadActive
      preclusterLiftConfirmCount := 0
      preclusterLiftConfirmed := false
      lastPositiveEvidenceStamp := 0 }
  else lock

def countAssembly (significant : Bool) : DiagnosticSurfaceReferenceLock :=
  let count := if significant then lock.assemblyLiftConfirmCount + 1 else 0
  { lock with
    assemblyLiftConfirmCount := count
    assemblyLiftConfirmed :=
      lock.assemblyLiftConfirmed || decide (max 1 config.liftConfirmFrames ≤ count) }

def record (stampSec : Scalar) (evidence : LiftEvidenceClass) :
    DiagnosticSurfaceReferenceLock :=
  match evidence with
  | .positive => { lock with
      preclusterLiftConfirmCount := lock.preclusterLiftConfirmCount + 1
      lastPositiveEvidenceStamp := stampSec }
  | .unobservable =>
    -- What cannot be seen does not count against the lift, unless it lasts too long.
    if 0 < lock.lastPositiveEvidenceStamp &&
        config.maximumObservationGapSec < stampSec - lock.lastPositiveEvidenceStamp then
      { lock with preclusterLiftConfirmCount := 0 }
    else lock
  | .contradictory => { lock with
      preclusterLiftConfirmCount := 0
      lastPositiveEvidenceStamp := 0 }

def confirm : DiagnosticSurfaceReferenceLock :=
  { lock with
    preclusterLiftConfirmed := lock.preclusterLiftConfirmed ||
      decide (max 1 config.liftConfirmFrames ≤ lock.preclusterLiftConfirmCount) }

variable [IdentityMath]

def logicalOwner : LogicalCurrentCargoObservation :=
  reconstructLogicalCurrentCargo input.groups lock.frozenFootprint lock.frozenOwnerCells
    input.verticalConfig config.maximumSizeRelativeStep

variable (owner : LogicalCurrentCargoObservation)

def ownerMembers : List CargoPhysicalGroupObservation :=
  owner.memberGroupIndices.filterMap fun index => input.groups[index]?

def assemblySurface : Scalar :=
  match input.frameEvidence.rawRoiCurrentFrame with
  | none => .nan
  | some cloud =>
    if !owner.valid || owner.memberGroupIndices.isEmpty then .nan
    else
      let frame := footprintInput lock.frozenFootprint input.frameEvidence
      let config := input.verticalConfig
      let authorized := (ownerMembers input owner).flatMap fun group =>
        frame.cellsOfPoints config group.unionPointsBase
      let points := (frame.pointsInside config.footprintMarginM cloud).filter fun point =>
        frame.makeCargoFootprintGridIndex point config.xyCellSizeM ∈ authorized
      let evidence := extractCargoVerticalEvidence { frame with selectedPointsBase := points } config
      if !points.isEmpty && evidence.valid && evidence.topZBase.isFinite then evidence.topZBase
      else .nan

def preclusterSurface : OwnerLockedSurfaceResult :=
  if owner.valid && owner.currentFootprint.valid then
    let competing := input.groups.zipIdx.flatMap fun (group, index) =>
      if decide (index ∈ owner.memberGroupIndices) || group.groupAmbiguous ||
          !group.geometryResolved then []
      else group.unionPointsBase
    let surface := computePreClusterSurfaceVertical input.frameEvidence owner.currentFootprint
      input.verticalConfig competing owner.currentOwnerCells
    if input.frameEvidence.staticConflictContextValid then surface
    else { surface with
      valid := false
      surfaceZ := .nan
      surfaceUncertainty := .nan
      rejectReason := "STATIC_CONFLICT_CONTEXT_UNAVAILABLE" }
  else { rejectReason := "NO_CURRENT_OWNER" }

def significant (surfaceZ uncertaintyM : Scalar) : Bool :=
  let lift := surfaceZ - lock.baselineZ
  surfaceZ.isFinite && lift.isFinite &&
    liftSignificanceThreshold config lock.baselineUncertaintyM uncertaintyM + kEpsilon < lift

def evidence : LiftEvidenceClass :=
  let owner := lock.logicalOwner config input
  let surface := preclusterSurface input owner
  let uncertaintyM : Scalar :=
    if surface.surfaceUncertainty.isFinite then surface.surfaceUncertainty else 0.20
  classifyLiftEvidence (lock.significant config surface.surfaceZ uncertaintyM) owner.valid
    owner.ambiguous surface.valid

def followed : DiagnosticSurfaceReferenceLock :=
  let owner := lock.logicalOwner config input
  let counted := lock.countAssembly config
    (lock.significant config (lock.assemblySurface input owner) 0.20)
  (counted.record config input.pipelineStampSec (lock.evidence config input)).confirm config

def projected (anchor count : Nat) (stampSec : Scalar) (history : History) : History :=
  if history.id = anchor then
    { history with
      lift := { history.lift with
        liftConfirmed := true
        liftConfirmCount := count
        validationStampSec := stampSec } }
  else if history.lift.liftConfirmed then { history with lift := history.lift.revoked }
  else history

variable (groupHistoryIds : List (Option Nat))

def projectionAnchor : Option Nat :=
  let owner := lock.logicalOwner config input
  if lock.preclusterLiftConfirmed && owner.valid then
    owner.memberGroupIndices.head?.bind fun index => (groupHistoryIds[index]?).join
  else none

def projectOnto (histories : List History) : List History :=
  match lock.projectionAnchor config input groupHistoryIds with
  | none => histories
  | some anchor =>
    histories.map (projected anchor lock.preclusterLiftConfirmCount input.pipelineStampSec)

def report : FormalLiftReport :=
  if lock.phase = .postloadActive then
    let owner := lock.logicalOwner config input
    { formalLiftLockActive := true
      formalLiftConfirmCount := (lock.followed config input).preclusterLiftConfirmCount
      formalLiftConfirmed := (lock.followed config input).preclusterLiftConfirmed
      assemblySurfaceZ := lock.assemblySurface input owner
      preclusterSurface := DiagnosticSurfaceReferenceLock.preclusterSurface input owner
      evidence := some (lock.evidence config input) }
  else {}

def afterFrame : DiagnosticSurfaceReferenceLock :=
  if lock.phase = .postloadActive then lock.followed config input else lock

def historiesAfterFrame (histories : List History) : List History :=
  if lock.phase = .postloadActive then
    (lock.followed config input).projectOnto config input groupHistoryIds histories
  else histories

end DiagnosticSurfaceReferenceLock

end NdtSlam
