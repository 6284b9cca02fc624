import NdtSlam.Foundation.Rigid

/-! The decision about one relocalization result: discarded, counted or confirmed. -/

namespace NdtSlam

def Isometry.compose (outer inner : Isometry) : Isometry where
  row0 := ⟨outer.row0.dot inner.column0, outer.row0.dot inner.column1,
    outer.row0.dot inner.column2⟩
  row1 := ⟨outer.row1.dot inner.column0, outer.row1.dot inner.column1,
    outer.row1.dot inner.column2⟩
  row2 := ⟨outer.row2.dot inner.column0, outer.row2.dot inner.column1,
    outer.row2.dot inner.column2⟩
  translation := outer.apply inner.translation

namespace Relocalization

/-- The angles and norms of the numeric libraries. -/
class PlaneMath extends EuclideanNorm, CircularFunctions where
  atan2 : Scalar → Scalar → Scalar

inductive RelocalizationMode where
  | localSearch
  | globalSearch
  deriving DecidableEq

structure RelocalizationResult where
  valid : Bool := false
  frameIndex : Nat := 0
  mapGeneration : Nat := 0
  poseVersion : Nat := 0
  mapContentVersion : Nat := 0
  stampSec : Scalar := 0
  mode : RelocalizationMode := .localSearch
  referencePose : Isometry := {}
  pose : Isometry := {}
  fitness : Scalar := .posInf
  probability : Scalar := .negInf
  mapSource : String := ""
  fixedYawSource : Option (List Vec3) := none
  fixedYawTarget : Option (List Vec3) := none
  targetCropIdentity : String := ""
  fixedYawVerified : Bool := false
  targetSnapshotId : UInt64 := 0
  yawAuthorityGeneration : UInt64 := 0
  yawReferenceHash : String := ""
  reason : String := ""

inductive RelocalizationConfirmationOutcome where
  | discardIdentity
  | discardDuplicate
  | discardStale
  | discardInvalid
  | confirming
  | confirmed

structure RelocalizationConfirmationConfig where
  requiredConfirmations : Int := 2
  maximumAgeFrames : Nat := 15
  maximumAgeSec : Scalar := 1.50
  maximumTranslationDeltaM : Scalar := 0.50
  maximumYawDeltaDeg : Scalar := 5.0

structure RelocalizationConfirmationInput where
  result : RelocalizationResult
  currentFrameIndex : Nat := 0
  currentStampSec : Scalar := 0
  expectedMapGeneration : Nat := 0
  expectedPoseVersion : Nat := 0
  expectedYawAuthorityGeneration : UInt64 := 0
  expectedYawReferenceHash : String := ""
  lastResultFrame : Nat := 0
  previousConfirmationCount : Nat := 0
  previousCorrection : Isometry := {}

structure RelocalizationConfirmationDecision where
  outcome : RelocalizationConfirmationOutcome := .discardInvalid
  updateLastResultFrame : Bool := false
  lastResultFrame : Nat := 0
  confirmationCount : Nat := 0
  correction : Isometry := {}
  reason : String := "not_evaluated"

def positive (value : Scalar) : Bool := value.isFinite && 0 < value

def halfTurn : Scalar := 3.14159265358979323846

section Poses

variable [PlaneMath]

def yawOf (pose : Isometry) : Scalar := PlaneMath.atan2 pose.row1.x pose.row0.x

def yawDeltaDeg (pose previous : Isometry) : Scalar :=
  (PlaneMath.atan2 (sin (yawOf pose - yawOf previous)) (cos (yawOf pose - yawOf previous))).abs *
    180 / halfTurn

def translationDelta (correction previous : Isometry) : Scalar :=
  (correction.translation.head2 - previous.translation.head2).norm

end Poses

def validConfig (config : RelocalizationConfirmationConfig) : Bool :=
  2 ≤ config.requiredConfirmations && 0 < config.maximumAgeFrames &&
    positive config.maximumAgeSec && positive config.maximumTranslationDeltaM &&
    positive config.maximumYawDeltaDeg

def validRailConfig (config : RelocalizationConfirmationConfig) : Bool :=
  2 ≤ config.requiredConfirmations && 0 < config.maximumAgeFrames &&
    positive config.maximumAgeSec && positive config.maximumTranslationDeltaM

section Decisions

variable (input : RelocalizationConfirmationInput) (config : RelocalizationConfirmationConfig)

def otherGeneration : Bool :=
  input.result.mapGeneration != input.expectedMapGeneration ||
    input.result.poseVersion != input.expectedPoseVersion

def otherYawReference : Bool :=
  !input.result.fixedYawVerified || input.result.targetSnapshotId == 0 ||
    input.result.yawAuthorityGeneration != input.expectedYawAuthorityGeneration ||
    input.result.yawReferenceHash == "" ||
    input.result.yawReferenceHash != input.expectedYawReferenceHash

def staleResult : Bool :=
  let age := input.currentStampSec - input.result.stampSec
  let futureFrame := decide (input.currentFrameIndex < input.result.frameIndex)
  let frameStale := !futureFrame &&
    decide (config.maximumAgeFrames < input.currentFrameIndex - input.result.frameIndex)
  futureFrame || frameStale || !age.isFinite || age < -0.05 || config.maximumAgeSec < age

def countCorrection (correction : Isometry) (consistent : Bool)
    (confirmedReason consistentReason restartedReason : String)
    (decision : RelocalizationConfirmationDecision) : RelocalizationConfirmationDecision :=
  let count := if consistent then input.previousConfirmationCount + 1 else 1
  let confirmed := decide (config.requiredConfirmations ≤ count)
  { decision with
    correction
    confirmationCount := count
    outcome := if confirmed then .confirmed else .confirming
    reason :=
      if confirmed then confirmedReason
      else if consistent then consistentReason else restartedReason }

def evaluateRelocalizationConfirmation [PlaneMath] : RelocalizationConfirmationDecision :=
  let result := input.result
  if !validConfig config || !positive input.currentStampSec then
    { reason := "invalid_confirmation_policy_input" }
  else if otherGeneration input then
    { outcome := .discardIdentity, reason := "stale_map_or_pose_generation_discarded" }
  else if result.frameIndex ≤ input.lastResultFrame then
    { outcome := .discardDuplicate, reason := "duplicate_or_out_of_order_result" }
  else
    let taken : RelocalizationConfirmationDecision :=
      { updateLastResultFrame := true, lastResultFrame := result.frameIndex }
    if staleResult input config then
      { taken with outcome := .discardStale, reason := "stale_result_discarded" }
    else if !result.valid then
      { taken with
        outcome := .discardInvalid
        reason := if result.reason == "" then "relocalization_candidate_invalid"
          else result.reason }
    else if !result.fitness.isFinite || !result.probability.isFinite ||
        !result.pose.allFinite || !result.referencePose.allFinite then
      { taken with outcome := .discardInvalid, reason := "nonfinite_relocalization_candidate" }
    else
      let correction := result.pose.compose result.referencePose.inverse
      if !correction.allFinite then
        { taken with
          outcome := .discardInvalid, reason := "nonfinite_relocalization_correction" }
      else
        let consistent := decide (0 < input.previousConfirmationCount) &&
          input.previousCorrection.allFinite &&
          translationDelta correction input.previousCorrection ≤
            config.maximumTranslationDeltaM &&
          yawDeltaDeg correction input.previousCorrection ≤ config.maximumYawDeltaDeg
        countCorrection input config correction consistent "relocalization_candidate_confirmed"
          "relocalization_candidate_consistent" "relocalization_confirmation_restarted" taken

def railCorrection (result : RelocalizationResult) : Isometry :=
  { translation := ⟨result.pose.translation.x - result.referencePose.translation.x,
      result.pose.translation.y - result.referencePose.translation.y, 0⟩ }

def evaluateRailRelocalizationConfirmation [PlaneMath] : RelocalizationConfirmationDecision :=
  let result := input.result
  if !validRailConfig config || !positive input.currentStampSec then
    { reason := "invalid_rail_confirmation_policy_input" }
  else if otherGeneration input then
    { outcome := .discardIdentity, reason := "stale_rail_map_or_pose_generation_discarded" }
  else if otherYawReference input then
    { outcome := .discardIdentity, reason := "rail_fixed_yaw_or_reference_identity_unverified" }
  else if result.frameIndex ≤ input.lastResultFrame then
    { outcome := .discardDuplicate, reason := "duplicate_or_out_of_order_rail_result" }
  else
    let taken : RelocalizationConfirmationDecision :=
      { updateLastResultFrame := true, lastResultFrame := result.frameIndex }
    if staleResult input config then
      { taken with outcome := .discardStale, reason := "stale_rail_result_discarded" }
    else if !result.valid || !result.fitness.isFinite || !result.pose.allFinite ||
        !result.referencePose.allFinite then
      { taken with outcome := .discardInvalid, reason := "invalid_rail_relocalization_candidate" }
    else
      let correction := railCorrection result
      if !correction.translation.head2.allFinite then
        { taken with outcome := .discardInvalid, reason := "nonfinite_rail_xy_correction" }
      else
        let consistent := decide (0 < input.previousConfirmationCount) &&
          input.previousCorrection.allFinite &&
          translationDelta correction input.previousCorrection ≤
            config.maximumTranslationDeltaM
        countCorrection input config correction consistent "rail_xy_candidate_confirmed"
          "rail_xy_candidate_consistent" "rail_xy_confirmation_restarted" taken

end Decisions

end Relocalization

end NdtSlam
