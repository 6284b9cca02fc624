import NdtSlam.Foundation.Scalar
import NdtSlam.StaticEvidence.Authority

/-! What the avoidance fusion reads and what it reports. -/

namespace NdtSlam

inductive PendingCargoEnvelopeSource where
  | none
  | currentCandidate
  | retiredFormalShape
  | liftOriginCandidate
  | configuredConservative
  | activeLockedTrack
  deriving DecidableEq

inductive CargoEnvelopePoseSource where
  | none
  | currentAssociatedLidar
  | shortTermTrackPrediction
  | retiredTrackPrediction
  | hookPlusLastReliableOffset
  | hookDefaultOffset
  deriving DecidableEq

inductive PendingWarningPromotionPolicy where
  | disabled
  | evidenceBackedOnly
  | legacyAnyPending
  deriving DecidableEq

structure CargoAvoidanceSourceRisk where
  available : Bool := false
  reliable : Bool := false
  hazard : Bool := false
  warningCode : Int := 0
  distanceM : Scalar := .posInf
  clearanceM : Scalar := .nan
  coverage : Scalar := 0
  cargoLifecycleId : Nat := 0
  cargoTrackId : Nat := 0
  obstacleTrackId : Nat := 0
  poseGeneration : Nat := 0
  mapGeneration : Nat := 0
  obstacleTopZMap : Scalar := .nan
  uncertaintyM : Scalar := .nan
  confidence : Scalar := 0
  farFieldHistoryValid : Bool := false
  provenanceValid : Bool := false
  certifiedStaticProvenance : Bool := false
  validatedStreak : Int := 0

inductive CargoAvoidanceHazardSource where
  | none
  | live
  | staticMap
  deriving DecidableEq

inductive CargoWarningAuthority where
  | none
  | positiveOnly
  | formal

structure AuthoritativeCargoHazard where
  valid : Bool := false
  source : CargoAvoidanceHazardSource := .none
  warningCode : Int := 0
  distanceM : Scalar := .posInf
  clearanceM : Scalar := .nan
  cargoLifecycleId : Nat := 0
  cargoTrackId : Nat := 0
  obstacleTrackId : Nat := 0
  poseGeneration : Nat := 0
  mapGeneration : Nat := 0
  obstacleTopZMap : Scalar := .nan
  uncertaintyM : Scalar := .nan
  confidence : Scalar := 0
  farFieldHistoryValid : Bool := false
  provenanceValid : Bool := false
  certifiedStaticProvenance : Bool := false
  validatedStreak : Int := 0

structure CargoAvoidanceFusionConfig where
  minimumLiveCoverageForClear : Scalar := 0.05
  pendingWarningPromotionPolicy : PendingWarningPromotionPolicy := .evidenceBackedOnly
  pendingMinimumObstacleConfirmations : Int := 3
  pendingMinimumAuthorityConfidence : Scalar := 0.55
  allowStaticOnlyPendingWarning : Bool := true

structure CargoAvoidanceFusionInput where
  localizationValid : Bool := false
  warningMotionAuthorized : Bool := true
  liveNearFieldHistoryAuthorized : Bool := true
  staticNearFieldHistoryAuthorized : Bool := true
  staticHazardTrackConfirmed : Bool := true
  anomalyReviewCandidate : Bool := false
  anomalyReviewLive : Bool := false
  anomalyReviewStatic : Bool := false
  anomalyReviewReason : String := ""
  anomalyReviewDistanceM : Scalar := .posInf
  anomalyReviewClearanceM : Scalar := .nan
  warningCandidatePresent : Bool := false
  warningCandidateCode : Int := 0
  formalCargoGeometryValid : Bool := false
  formalCargoBottomValid : Bool := false
  formalClearAuthorized : Bool := false
  pendingEnvelopeValid : Bool := false
  pendingEnvelopeSource : PendingCargoEnvelopeSource := .none
  pendingPoseSource : CargoEnvelopePoseSource := .none
  pendingRecognitionStateAllowsWarning : Bool := false
  pendingWarningQueryAllowed : Bool := false
  pendingPosePhysicallyPlausible : Bool := false
  pendingWarningStateReason : String := "recognition_state_not_warning_authorized"
  pendingSelfEvidenceValid : Bool := false
  pendingExternalSeparationValid : Bool := false
  pendingExternalObstacleAuthorized : Bool := false
  pendingExternalObstacleTrackId : Nat := 0
  pendingExternalObstacleConfirmations : Int := 0
  pendingExternalProvenanceValid : Bool := false
  pendingExternalGeometryValid : Bool := false
  pendingAuthorityConfidence : Scalar := 0
  pendingStaticObstacleAuthorized : Bool := false
  pendingStaticObstacleId : Nat := 0
  pendingStaticObstacleConfirmations : Int := 0
  pendingStaticProvenanceValid : Bool := false
  pendingStaticAuthorityConfidence : Scalar := 0
  liveObstacleOriginResolved : Bool := true
  staticSessionManifestValid : Bool := false
  staticSessionHashValid : Bool := false
  staticSessionUuidValid : Bool := false
  staticRiskContractValid : Bool := false
  staticAuthority : StaticEvidenceAuthority := .unverifiedLoadedClean
  live : CargoAvoidanceSourceRisk := {}
  staticMap : CargoAvoidanceSourceRisk := {}

structure CargoAvoidanceFusionResult where
  officialValid : Bool := false
  officialCode : Int := 33
  reason : String := "cargo_recognition_or_geometry_invalid"
  distanceM : Scalar := .posInf
  clearanceM : Scalar := .nan
  riskLive : Bool := false
  riskStatic : Bool := false
  mapLiveConflict : Bool := false
  motionNotAuthoritative : Bool := false
  anomalyReview : Bool := false
  anomalyReviewLive : Bool := false
  anomalyReviewStatic : Bool := false
  pendingWarningAuthorized : Bool := false
  pendingLiveWarningAuthorized : Bool := false
  pendingStaticWarningAuthorized : Bool := false
  pendingAuthorityReason : String := "not_evaluated"
  provisionalStatus : String := "UNKNOWN"
  authoritativeHazard : AuthoritativeCargoHazard := {}
  warningAuthority : CargoWarningAuthority := .none

end NdtSlam
