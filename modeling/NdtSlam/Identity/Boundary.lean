import NdtSlam.Identity.Association

/-! The reference of a load on its way across the boundary between empty and loaded hook. -/

namespace NdtSlam

structure FrozenPreloadReferenceCertificate where
  sourceLifecycleId : Nat
  sourcePhysicalEpoch : Nat
  baselineZ : Scalar
  baselineUncertaintyM : Scalar
  frozenFootprint : CargoFootprintSnapshot
  frozenOwnerCells : List CargoFootprintGridIndex
  referenceFreezeStampSec : Scalar
  sourceHistoryId : Nat

structure PreLoadHandoffSnapshot where
  certificate : FrozenPreloadReferenceCertificate
  loadEdgeStampSec : Scalar := 0

namespace PreLoadHandoffSnapshot

variable (handoff : PreLoadHandoffSnapshot)

def robustXyCenter : Vec2 := handoff.certificate.frozenFootprint.centerBase

def robustXyExtent : Vec2 := handoff.certificate.frozenFootprint.sizeXy

def robustX : Scalar × Scalar :=
  (handoff.robustXyCenter.x - 0.5 * handoff.robustXyExtent.x,
    handoff.robustXyCenter.x + 0.5 * handoff.robustXyExtent.x)

def robustY : Scalar × Scalar :=
  (handoff.robustXyCenter.y - 0.5 * handoff.robustXyExtent.y,
    handoff.robustXyCenter.y + 0.5 * handoff.robustXyExtent.y)

end PreLoadHandoffSnapshot

inductive PreLoadBoundaryPhase where
  | waitingForLoad
  | waitingForLifecycle
  deriving DecidableEq

structure PendingPreLoadBoundary where
  reference : PreLoadHandoffSnapshot
  phase : PreLoadBoundaryPhase
  firstEdgeStampSec : Scalar

structure PreloadHandover where
  certificate : Option FrozenPreloadReferenceCertificate := none
  invalidateReason : String := "none"
  boundary : Option PendingPreLoadBoundary := none
  handoff : Option PreLoadHandoffSnapshot := none
  formalLiftBoundaryAuthorized : Bool := false

structure BoundaryEdges where
  stampSec : Scalar
  lifecycle : Bool
  load : Bool
  gravityLoaded : Bool
  gravityEmpty : Bool
  maximumGapSec : Scalar

namespace PendingPreLoadBoundary

variable (edges : BoundaryEdges) (boundary : PendingPreLoadBoundary)

def pendingAge : Scalar := edges.stampSec - boundary.firstEdgeStampSec

def complementary : Bool :=
  match boundary.phase with
  | .waitingForLoad => edges.load
  | .waitingForLifecycle => edges.lifecycle

def repeatEdge : Bool :=
  match boundary.phase with
  | .waitingForLoad => edges.lifecycle
  | .waitingForLifecycle => edges.load

def closes : Bool :=
  boundary.complementary edges && 0 ≤ boundary.pendingAge edges &&
    boundary.pendingAge edges ≤ edges.maximumGapSec

def givenUp : Bool :=
  edges.maximumGapSec < boundary.pendingAge edges || boundary.repeatEdge edges ||
    (boundary.phase == .waitingForLoad && !edges.gravityLoaded && !edges.gravityEmpty)

def handedOver : PreLoadHandoffSnapshot :=
  match boundary.phase with
  | .waitingForLoad => { boundary.reference with loadEdgeStampSec := edges.stampSec }
  | .waitingForLifecycle => boundary.reference

end PendingPreLoadBoundary

namespace PreloadHandover

variable (edges : BoundaryEdges) (self : PreloadHandover)

def invalidate (reason : String) : PreloadHandover :=
  { self with certificate := none, invalidateReason := reason }

def expireHandoff : PreloadHandover :=
  match self.handoff with
  | none => self
  | some handoff =>
    let age := edges.stampSec - handoff.loadEdgeStampSec
    if !edges.gravityLoaded || !(0 ≤ age) || edges.maximumGapSec < age then
      { self with handoff := none }
    else self

def underway : Bool := self.handoff.isSome || self.boundary.isSome

def clearAtRearm : PreloadHandover :=
  if self.underway then
    { certificate := none
      invalidateReason := "REARM"
      boundary := none
      handoff := none
      formalLiftBoundaryAuthorized := false }
  else self

def promoteBoundary : PreloadHandover :=
  match self.boundary, self.handoff with
  | some boundary, none =>
    if boundary.closes edges then
      { self with
        handoff := some (boundary.handedOver edges)
        boundary := none
        formalLiftBoundaryAuthorized := true }
    else if boundary.givenUp edges then { self with boundary := none }
    else self
  | _, _ => self

def capture (certificate : FrozenPreloadReferenceCertificate) : PreloadHandover :=
  let consumed := self.invalidate "CONSUMED_AT_BOUNDARY_EDGE"
  if edges.lifecycle && edges.load then
    { consumed with
      handoff := some { certificate, loadEdgeStampSec := edges.stampSec }
      formalLiftBoundaryAuthorized := true }
  else if edges.lifecycle && edges.gravityEmpty then
    { consumed with
      boundary := some {
        reference := { certificate }
        phase := .waitingForLoad
        firstEdgeStampSec := edges.stampSec } }
  else
    { consumed with
      boundary := some {
        reference := { certificate, loadEdgeStampSec := edges.stampSec }
        phase := .waitingForLifecycle
        firstEdgeStampSec := edges.stampSec } }

def captureBoundary : PreloadHandover :=
  if !self.underway && (edges.lifecycle || edges.load) then
    match self.certificate with
    | none => self
    | some certificate => self.capture edges certificate
  else self

def coalesce (rearm allowed : Bool) : PreloadHandover :=
  let expired := self.expireHandoff edges
  let cleared := if rearm then expired.clearAtRearm else expired
  if allowed then (cleared.promoteBoundary edges).captureBoundary edges else cleared

end PreloadHandover

inductive ReferenceLockPhase where
  | none
  | preloadActive
  | postloadActive
  deriving DecidableEq

structure DiagnosticSurfaceReferenceLock where
  phase : ReferenceLockPhase := .none
  baselineZ : Scalar := .nan
  baselineUncertaintyM : Scalar := 0.20
  frozenFootprint : CargoFootprintSnapshot := {}
  frozenOwnerCells : List CargoFootprintGridIndex := []
  sourceLifecycleId : Nat := 0
  sourcePhysicalEpoch : Nat := 0
  sourceHistoryId : Nat := 0
  assemblyLiftConfirmCount : Nat := 0
  assemblyLiftConfirmed : Bool := false
  preclusterLiftConfirmCount : Nat := 0
  preclusterLiftConfirmed : Bool := false
  lastPositiveEvidenceStamp : Scalar := 0
  freezeCount : Nat := 0
  overwriteAttemptCount : Nat := 0

namespace DiagnosticSurfaceReferenceLock

def initializeFromCertificate (certificate : FrozenPreloadReferenceCertificate)
    (lock : DiagnosticSurfaceReferenceLock) : DiagnosticSurfaceReferenceLock := { lock with
  phase := .preloadActive
  baselineZ := certificate.baselineZ
  baselineUncertaintyM := certificate.baselineUncertaintyM
  frozenFootprint := certificate.frozenFootprint
  frozenOwnerCells := certificate.frozenOwnerCells
  sourceLifecycleId := certificate.sourceLifecycleId
  sourcePhysicalEpoch := certificate.sourcePhysicalEpoch
  sourceHistoryId := certificate.sourceHistoryId
  assemblyLiftConfirmCount := 0
  assemblyLiftConfirmed := false
  preclusterLiftConfirmCount := 0
  preclusterLiftConfirmed := false
  lastPositiveEvidenceStamp := 0
  freezeCount := lock.freezeCount + 1 }

def noteOverwriteAttempt (lock : DiagnosticSurfaceReferenceLock) :
    DiagnosticSurfaceReferenceLock :=
  { lock with overwriteAttemptCount := lock.overwriteAttemptCount + 1 }

end DiagnosticSurfaceReferenceLock

end NdtSlam
