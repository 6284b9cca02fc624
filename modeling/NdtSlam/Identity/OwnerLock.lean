import NdtSlam.Foundation.Outcome
import NdtSlam.Identity.FormalLift

/-! The owner of the carried load, once it is known. -/

namespace NdtSlam

inductive CargoCandidateAssociationState where
  | matched
  | ambiguous
  | newHistory
  | recoveryHold
  deriving DecidableEq

structure CargoPhysicalGroupDiagnostic where
  frameGroupId : Nat
  descriptor : CargoPhysicalGroupDescriptor
  matchedHistoryId : Option Nat := none
  association : CargoCandidateAssociationState := .newHistory
  lineageExactPathWon : Bool := false
  preloadHandoffConsumed : Bool := false
  currentSurface : AssociationOnlyReacquiredVerticalEvidence := {}

structure ProductionOwnerLock where
  physicalOwnerGeneration : Nat
  originalHistoryId : Nat
  activeHistoryId : Nat
  lockGeneration : Nat
  lockStampSec : Scalar
  historyHandoffCount : Nat := 0
  historyHandoffAmbiguousCount : Nat := 0
  lastFreshOwnerStampSec : Scalar := 0
  lastFreshDescriptor : CargoPhysicalGroupDescriptor := {}

def evaluateOwnerContinuation (config : CargoPhysicalIdentityConfig)
    (lastFreshOwner : CargoPhysicalGroupDescriptor) (lastFreshOwnerStampSec : Scalar)
    (successor : CargoPhysicalGroupDescriptor) (successorLineageExactPathWon : Bool) :
    Except String Unit := do
  refuseIf (!successor.valid || !(0 < successor.stampSec) || !successor.stampSec.isFinite)
    "SUCCESSOR_NOT_FRESH"
  let dt := successor.stampSec - lastFreshOwnerStampSec
  refuseIf (!(0 ≤ dt)) "TEMPORAL_BACKWARDS"
  refuseIf (config.historyHoldTtlSec < dt) "TEMPORAL_GAP_TOO_LARGE"
  refuseIf (lastFreshOwner.physicalVerticalZ.isFinite && successor.physicalVerticalZ.isFinite &&
      config.maximumZSpeedMps * dt + config.zStepMarginM + lastFreshOwner.verticalUncertaintyM +
          successor.verticalUncertaintyM <
        (successor.physicalVerticalZ - lastFreshOwner.physicalVerticalZ).abs)
    "VERTICAL_RATE_EXCEEDED"
  refuseIf (!extentCompatible lastFreshOwner.robustXyExtent successor.robustXyExtent
      config.maximumSizeRelativeStep) "EXTENT_INCOMPATIBLE"
  refuseIf (!hasPositiveAreaSupportOverlap lastFreshOwner successor &&
      !successorLineageExactPathWon) "NO_CONTINUITY_EVIDENCE"

structure OwnerMeasurement where
  owner : ProductionOwnerLock
  freshDescriptor : Option CargoPhysicalGroupDescriptor := none
  handoffAmbiguous : Bool := false

def matchedDiagnostic (diagnostics : List CargoPhysicalGroupDiagnostic) (historyId : Nat) :
    Option CargoPhysicalGroupDiagnostic :=
  diagnostics.find? fun diagnostic =>
    diagnostic.matchedHistoryId == some historyId && diagnostic.association == .matched

namespace ProductionOwnerLock

def latch (generation historyId : Nat) (stampSec : Scalar) : ProductionOwnerLock where
  physicalOwnerGeneration := generation
  originalHistoryId := historyId
  activeHistoryId := historyId
  lockGeneration := generation
  lockStampSec := stampSec

variable (config : CargoPhysicalIdentityConfig) (physicalCargoEpochId : Nat)
  (histories : List History) (diagnostics : List CargoPhysicalGroupDiagnostic)
  (owner : ProductionOwnerLock)

def temporalReferenceStamp : Scalar :=
  match histories.find? fun history => history.id == owner.activeHistoryId with
  | some active => active.track.lastStampSec
  | none => owner.lastFreshOwnerStampSec

def successorDiagnostic (history : History) : Option CargoPhysicalGroupDiagnostic :=
  if history.id = owner.activeHistoryId ∨ history.physicalCargoEpochId ≠ physicalCargoEpochId then
    none
  else
    (matchedDiagnostic diagnostics history.id).filter fun diagnostic =>
      finiteDescriptor diagnostic.descriptor && owner.lastFreshDescriptor.valid &&
        (evaluateOwnerContinuation config owner.lastFreshDescriptor
          (owner.temporalReferenceStamp histories) diagnostic.descriptor
          diagnostic.lineageExactPathWon).toBool

def eligibleSuccessors : List (Nat × CargoPhysicalGroupDescriptor) :=
  histories.filterMap fun history =>
    (owner.successorDiagnostic config physicalCargoEpochId histories diagnostics history).map
      fun diagnostic => (history.id, diagnostic.descriptor)

def refreshed (stampSec : Scalar) (descriptor : CargoPhysicalGroupDescriptor) :
    ProductionOwnerLock :=
  { owner with
    lastFreshOwnerStampSec := stampSec
    lastFreshDescriptor := descriptor }

def followed (stampSec : Scalar) : OwnerMeasurement :=
  match matchedDiagnostic diagnostics owner.activeHistoryId with
  | some active =>
    { owner := owner.refreshed stampSec active.descriptor
      freshDescriptor := some active.descriptor }
  | none =>
    match owner.eligibleSuccessors config physicalCargoEpochId histories diagnostics with
    | [] => { owner }
    | [(successorId, descriptor)] =>
      { owner := { owner.refreshed stampSec descriptor with
          activeHistoryId := successorId
          historyHandoffCount := owner.historyHandoffCount + 1 }
        freshDescriptor := some descriptor }
    -- Several histories would continue the owner, and none of them does.
    | _ =>
      { owner := { owner with
          historyHandoffAmbiguousCount := owner.historyHandoffAmbiguousCount + 1 }
        handoffAmbiguous := true }

end ProductionOwnerLock

end NdtSlam
