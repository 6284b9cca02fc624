import NdtSlam.Avoidance.FusionInput

/-! The fusion of live and static evidence into one official code. -/

namespace NdtSlam.CargoAvoidanceFusion

def clear : Int := 14
def near3m : Int := 17
def near5m : Int := 18
def anomalyReview : Int := 29
def localizationInvalid : Int := 31
def cargoInvalid : Int := 33
def obstacleInvalid : Int := 34

def minimumVerticalClearanceM : Scalar := 0.80

def warningCode (code : Int) : Bool := code == near3m || code == near5m

def lowClearance (clearanceM : Scalar) : Bool :=
  clearanceM.isFinite && clearanceM < minimumVerticalClearanceM

def moreSevere (lhs rhs : Int) : Int :=
  if lhs == near3m || rhs == near3m then near3m
  else if lhs == near5m || rhs == near5m then near5m
  else 0

def combineMetric (value output : Scalar) : Scalar :=
  if !value.isFinite then output
  else if !output.isFinite then value
  else output.minOf value

def selectable (risk : CargoAvoidanceSourceRisk) : Bool :=
  risk.hazard && warningCode risk.warningCode && risk.distanceM.isFinite && 0 < risk.distanceM &&
    lowClearance risk.clearanceM

def recordHazard (source : CargoAvoidanceHazardSource) (risk : CargoAvoidanceSourceRisk)
    (code : Int) : AuthoritativeCargoHazard where
  valid := true
  source := source
  warningCode := code
  distanceM := risk.distanceM
  clearanceM := risk.clearanceM
  cargoLifecycleId := risk.cargoLifecycleId
  cargoTrackId := risk.cargoTrackId
  obstacleTrackId := risk.obstacleTrackId
  poseGeneration := risk.poseGeneration
  mapGeneration := risk.mapGeneration
  obstacleTopZMap := risk.obstacleTopZMap
  uncertaintyM := risk.uncertaintyM
  confidence := risk.confidence
  farFieldHistoryValid := risk.farFieldHistoryValid
  provenanceValid := risk.provenanceValid
  certifiedStaticProvenance := risk.certifiedStaticProvenance
  validatedStreak := risk.validatedStreak

def considerHazard (selected : AuthoritativeCargoHazard) (source : CargoAvoidanceHazardSource)
    (risk : CargoAvoidanceSourceRisk) : AuthoritativeCargoHazard :=
  if !selectable risk then selected
  -- Severity comes before distance, and between equals the earlier source stays.
  else if !selected.valid || (risk.warningCode == near3m && selected.warningCode != near3m) ||
      (risk.warningCode == selected.warningCode && risk.distanceM < selected.distanceM) then
    recordHazard source risk risk.warningCode
  else selected

def selectHazard (allowLive : Bool) (live : CargoAvoidanceSourceRisk) (allowStatic : Bool)
    (staticMap : CargoAvoidanceSourceRisk) : AuthoritativeCargoHazard :=
  -- The live source is considered first, so that it wins every tie.
  let selected := if allowLive then considerHazard {} .live live else {}
  if allowStatic then considerHazard selected .staticMap staticMap else selected

def considerReviewHazard (selected : AuthoritativeCargoHazard)
    (source : CargoAvoidanceHazardSource) (risk : CargoAvoidanceSourceRisk) :
    AuthoritativeCargoHazard :=
  if !selectable risk then selected
  -- A review has one code only, so that the distance alone decides.
  else if selected.valid && selected.distanceM ≤ risk.distanceM then selected
  else recordHazard source risk anomalyReview

def selectReviewHazard (allowLive : Bool) (live : CargoAvoidanceSourceRisk) (allowStatic : Bool)
    (staticMap : CargoAvoidanceSourceRisk) : AuthoritativeCargoHazard :=
  let selected := if allowLive then considerReviewHazard {} .live live else {}
  if allowStatic then considerReviewHazard selected .staticMap staticMap else selected

def applySelectedHazard (hazard : AuthoritativeCargoHazard) (result : CargoAvoidanceFusionResult) :
    CargoAvoidanceFusionResult :=
  if !hazard.valid then { result with authoritativeHazard := hazard }
  else
    { result with
      authoritativeHazard := hazard
      officialCode := hazard.warningCode
      distanceM := hazard.distanceM
      clearanceM := hazard.clearanceM }

def pendingSourceCanCarryIdentity (source : PendingCargoEnvelopeSource) : Bool :=
  source == .currentCandidate || source == .activeLockedTrack || source == .retiredFormalShape ||
    source == .liftOriginCandidate

def pendingPoseCanCarryIdentity (source : CargoEnvelopePoseSource) : Bool :=
  source == .currentAssociatedLidar || source == .shortTermTrackPrediction ||
    source == .retiredTrackPrediction || source == .hookPlusLastReliableOffset

def reasonOr (reason fallback : String) : String := if reason.isEmpty then fallback else reason

def lowConfidence (config : CargoAvoidanceFusionConfig) (confidence : Scalar) : Bool :=
  !confidence.isFinite || confidence < config.pendingMinimumAuthorityConfidence

def firstRefusal (gates : List (Bool × String)) : Option String :=
  (gates.find? fun gate => gate.1).map Prod.snd

variable (input : CargoAvoidanceFusionInput)

def identityGates (config : CargoAvoidanceFusionConfig) :
    List (Bool × String) := [
  (!input.pendingRecognitionStateAllowsWarning,
    reasonOr input.pendingWarningStateReason "recognition_state_not_warning_authorized"),
  (!input.pendingPosePhysicallyPlausible,
    reasonOr input.pendingWarningStateReason "pending_pose_physically_implausible"),
  (!input.pendingWarningQueryAllowed, "pending_warning_query_not_authorized"),
  (config.pendingWarningPromotionPolicy == .disabled, "policy_disabled"),
  (!pendingSourceCanCarryIdentity input.pendingEnvelopeSource,
    "envelope_source_not_identity_backed"),
  (!pendingPoseCanCarryIdentity input.pendingPoseSource, "pose_source_not_identity_backed"),
  (!input.pendingSelfEvidenceValid, "cargo_self_evidence_missing")]

def externalGates (config : CargoAvoidanceFusionConfig) :
    List (Bool × String) := [
  (!input.pendingExternalSeparationValid, "cargo_external_separation_unresolved"),
  (!input.pendingExternalObstacleAuthorized || input.pendingExternalObstacleTrackId == 0,
    "external_obstacle_identity_missing"),
  (input.pendingExternalObstacleConfirmations < config.pendingMinimumObstacleConfirmations,
    "external_obstacle_confirmation_pending"),
  (!input.pendingExternalProvenanceValid, "external_obstacle_provenance_invalid")]

def authorizePendingWarning (config : CargoAvoidanceFusionConfig) : Bool × String :=
  match firstRefusal (identityGates input config ++ externalGates input config) with
  | some reason => (false, reason)
  | none =>
    -- The older policy asks for neither geometry nor confidence.
    if config.pendingWarningPromotionPolicy == .legacyAnyPending then
      (true, "legacy_identity_and_external_track_confirmed")
    else if !input.pendingExternalGeometryValid then
      (false, "external_obstacle_geometry_invalid")
    else if lowConfidence config input.pendingAuthorityConfidence then
      (false, "pending_authority_confidence_low")
    else (true, "identity_and_external_obstacle_confirmed")

def staticGates (config : CargoAvoidanceFusionConfig) :
    List (Bool × String) := [
  (lowConfidence config input.pendingAuthorityConfidence, "pending_cargo_identity_confidence_low"),
  (!input.pendingStaticObstacleAuthorized || input.pendingStaticObstacleId == 0,
    "static_obstacle_identity_missing"),
  (input.pendingStaticObstacleConfirmations < config.pendingMinimumObstacleConfirmations,
    "static_obstacle_confirmation_pending"),
  (!input.pendingStaticProvenanceValid, "static_obstacle_provenance_invalid"),
  (lowConfidence config input.pendingStaticAuthorityConfidence,
    "static_obstacle_authority_confidence_low")]

def authorizePendingStaticWarning (config : CargoAvoidanceFusionConfig) : Bool × String :=
  -- The policy is checked before the identity of the load.
  if !config.allowStaticOnlyPendingWarning then (false, "static_pending_warning_policy_disabled")
  else match firstRefusal (identityGates input config ++ staticGates input config) with
    | some reason => (false, reason)
    | none => (true, "identity_and_static_obstacle_confirmed")

section Fusion

variable (input : CargoAvoidanceFusionInput) (config : CargoAvoidanceFusionConfig)

def formalCargo : Bool := input.formalCargoGeometryValid && input.formalCargoBottomValid

def staticIdentityValid : Bool :=
  input.staticSessionManifestValid && input.staticSessionHashValid && input.staticSessionUuidValid

def staticRiskContract : Bool :=
  staticIdentityValid input && input.staticRiskContractValid &&
    (authorizeStaticEvidence input.staticAuthority).officialStaticRiskAuthorized

def liveReliable : Bool := input.live.available && input.live.reliable

def staticReliable : Bool :=
  staticRiskContract input && input.staticMap.available && input.staticMap.reliable &&
    input.staticMap.certifiedStaticProvenance

def unresolvedEmbeddedLiveHazard : Bool :=
  liveReliable input && input.live.hazard && warningCode input.live.warningCode &&
    !input.liveObstacleOriginResolved

def riskLive : Bool :=
  liveReliable input && input.liveObstacleOriginResolved && input.live.hazard &&
    warningCode input.live.warningCode && lowClearance input.live.clearanceM

def staticHazardObserved : Bool :=
  staticReliable input && input.staticMap.hazard && warningCode input.staticMap.warningCode &&
    lowClearance input.staticMap.clearanceM

def riskStatic : Bool := staticHazardObserved input && input.staticHazardTrackConfirmed

def liveClearObserved : Bool :=
  liveReliable input && input.liveObstacleOriginResolved && !riskLive input &&
    config.minimumLiveCoverageForClear ≤ input.live.coverage

def mapLiveConflict : Bool := riskStatic input && liveClearObserved input config

def warningCandidate : Bool :=
  riskLive input || riskStatic input ||
    (input.warningCandidatePresent && warningCode input.warningCandidateCode)

def liveWarningWithoutHistory : Bool :=
  (riskLive input && warningCode input.live.warningCode) && !input.liveNearFieldHistoryAuthorized

def staticWarningWithoutHistory : Bool :=
  (riskStatic input && warningCode input.staticMap.warningCode) &&
    !input.staticNearFieldHistoryAuthorized

def staticWarningIndependentlyProven : Bool :=
  staticWarningWithoutHistory input && riskStatic input &&
    -- A certified static source stands in for the missing history.
    input.staticMap.certifiedStaticProvenance &&
    if formalCargo input then staticRiskContract input && input.staticHazardTrackConfirmed
    else (authorizePendingStaticWarning input config).1

def liveStandardRisk : Bool :=
  riskLive input && !liveWarningWithoutHistory input && !input.anomalyReviewLive

def staticStandardRisk : Bool :=
  riskStatic input &&
    (!staticWarningWithoutHistory input || staticWarningIndependentlyProven input config)

def staticUnproven : Bool :=
  staticWarningWithoutHistory input && !staticWarningIndependentlyProven input config

def unresolvedFarHistoryReview : Bool :=
  liveWarningWithoutHistory input || staticUnproven input config

def observed : CargoAvoidanceFusionResult :=
  let live := liveReliable input && input.liveObstacleOriginResolved
  -- Metrics are reported from reliable sources only, the nearest and lowest of them.
  let nearest := if live then combineMetric input.live.distanceM .posInf else .posInf
  let lowest := if live then combineMetric input.live.clearanceM .nan else .nan
  { riskLive := riskLive input
    riskStatic := riskStatic input
    distanceM :=
      if staticReliable input then combineMetric input.staticMap.distanceM nearest else nearest
    clearanceM :=
      if staticReliable input then combineMetric input.staticMap.clearanceM lowest else lowest
    mapLiveConflict := mapLiveConflict input config }

def judged : CargoAvoidanceFusionResult :=
  { observed input config with
    motionNotAuthoritative := warningCandidate input && !input.warningMotionAuthorized }

def withdrawReview (result : CargoAvoidanceFusionResult) : CargoAvoidanceFusionResult :=
  { result with
    officialValid := false
    officialCode := obstacleInvalid
    anomalyReview := false
    anomalyReviewLive := false
    anomalyReviewStatic := false
    reason := "review_hazard_identity_or_metrics_invalid"
    provisionalStatus := "SOURCE_UNRESOLVED"
    pendingAuthorityReason := "review_hazard_identity_or_metrics_invalid" }

def reviewSelected (hazard : AuthoritativeCargoHazard) (result : CargoAvoidanceFusionResult) :
    CargoAvoidanceFusionResult :=
  let applied := applySelectedHazard hazard result
  if !applied.authoritativeHazard.valid then withdrawReview applied
  else
    -- The review names the source whose hazard was selected, not all that asked for it.
    { applied with
      anomalyReviewLive := applied.authoritativeHazard.source == .live
      anomalyReviewStatic := applied.authoritativeHazard.source == .staticMap }

variable (result : CargoAvoidanceFusionResult)

def applyUnresolvedFarHistoryReview : CargoAvoidanceFusionResult :=
  reviewSelected
    (selectReviewHazard (liveWarningWithoutHistory input) input.live
      (staticUnproven input config) input.staticMap)
    { result with
      officialValid := true
      officialCode := anomalyReview
      anomalyReview := true
      anomalyReviewLive := liveWarningWithoutHistory input
      anomalyReviewStatic := staticUnproven input config
      reason := "review_warning_without_true_far_history"
      provisionalStatus := "REVIEW_REQUIRED"
      pendingAuthorityReason := "warning_without_true_far_history" }

def pendingRefusal (status kind reason : String) : CargoAvoidanceFusionResult :=
  { result with
    provisionalStatus := status
    pendingAuthorityReason := reason
    reason := kind ++ reason }

def pendingAuthorized (live staticMap : Bool) (liveReason staticReason : String) :
    CargoAvoidanceFusionResult :=
  let applied := applySelectedHazard (selectHazard live input.live staticMap input.staticMap) result
  if !applied.authoritativeHazard.valid then
    -- A pending load may be warned about, but never be declared clear.
    { applied with
      officialValid := false
      officialCode := obstacleInvalid
      pendingWarningAuthorized := false
      pendingLiveWarningAuthorized := false
      pendingStaticWarningAuthorized := false
      pendingAuthorityReason := "authorized_hazard_metrics_invalid"
      reason := "pending_hazard_not_authorized:authorized_hazard_metrics_invalid" }
  else
    { applied with
      warningAuthority := .positiveOnly
      officialValid := true
      pendingAuthorityReason :=
        if live && staticMap then "live_and_static_pending_hazard_confirmed"
        else if live then liveReason else staticReason
      reason :=
        if live && staticMap then "pending_live_and_static_warning_authorized"
        else if live then "pending_live_warning_authorized"
        else "pending_static_warning_authorized" }

def pendingStandardRisk : CargoAvoidanceFusionResult :=
  -- The provisional status names the more severe of the present risks.
  let provisional := moreSevere
    (if liveStandardRisk input then input.live.warningCode else 0)
    (if staticStandardRisk input config then input.staticMap.warningCode else 0)
  let liveAuthority := if liveStandardRisk input then authorizePendingWarning input config
    else (false, "live_hazard_not_present")
  let staticAuthority := if staticStandardRisk input config then
    authorizePendingStaticWarning input config else (false, "static_hazard_not_present")
  let noted := { result with
    provisionalStatus := if provisional == near3m then "NEAR_3M" else "NEAR_5M"
    pendingLiveWarningAuthorized := liveAuthority.1
    pendingStaticWarningAuthorized := staticAuthority.1
    pendingWarningAuthorized := liveAuthority.1 || staticAuthority.1 }
  if liveAuthority.1 || staticAuthority.1 then
    pendingAuthorized input noted liveAuthority.1 staticAuthority.1 liveAuthority.2
      staticAuthority.2
  else
    -- With two refusals both reasons are reported.
    let refusal :=
      if liveStandardRisk input && staticStandardRisk input config then
        "live=" ++ liveAuthority.2 ++ ";static=" ++ staticAuthority.2
      else if liveStandardRisk input then liveAuthority.2 else staticAuthority.2
    { noted with
      pendingAuthorityReason := refusal
      reason := "pending_hazard_not_authorized:" ++ refusal }

def fusePending : CargoAvoidanceFusionResult :=
  let result := { judged input config with
    officialCode := cargoInvalid
    reason := "cargo_recognition_or_geometry_invalid" }
  -- The refusals are checked from the envelope on, and the first one is reported.
  if !input.pendingEnvelopeValid then { result with provisionalStatus := "UNKNOWN" }
  else if !input.pendingRecognitionStateAllowsWarning then
    pendingRefusal result "WARNING_AUTHORITY_REVOKED" "pending_warning_state_revoked:"
      (reasonOr input.pendingWarningStateReason "recognition_state_not_warning_authorized")
  else if !input.pendingPosePhysicallyPlausible then
    pendingRefusal result "POSE_REJECTED" "pending_hazard_not_authorized:"
      (reasonOr input.pendingWarningStateReason "pending_pose_physically_implausible")
  else if !input.pendingWarningQueryAllowed then
    pendingRefusal result "QUERY_NOT_AUTHORIZED" "pending_hazard_not_authorized:"
      "pending_warning_query_not_authorized"
  else if unresolvedEmbeddedLiveHazard input && !riskStatic input then
    pendingRefusal result "SOURCE_UNRESOLVED" "pending_hazard_not_authorized:"
      "embedded_obstacle_origin_unresolved"
  else if liveStandardRisk input || staticStandardRisk input config then
    pendingStandardRisk input config result
  else if unresolvedFarHistoryReview input config then
    applyUnresolvedFarHistoryReview input config result
  else
    { result with
      provisionalStatus := "CLEAR_NOT_AUTHORIZED"
      pendingAuthorityReason := "no_positive_hazard" }

variable (result : CargoAvoidanceFusionResult)

def formalStandardRisk : CargoAvoidanceFusionResult :=
  let live := liveStandardRisk input
  let staticMap := staticStandardRisk input config
  let applied := applySelectedHazard (selectHazard live input.live staticMap input.staticMap) result
  if !applied.authoritativeHazard.valid then
    { applied with
      officialCode := obstacleInvalid
      reason := "authorized_hazard_metrics_invalid" }
  else
    { applied with
      warningAuthority := .formal
      officialValid := true
      reason :=
        -- The static hazard is kept although the live source sees nothing.
        if result.mapLiveConflict then "MAP_LIVE_CONFLICT_static_hazard_retained"
        else if live && staticMap then "live_and_static_hazard"
        else if live then "live_hazard" else "static_hazard" }

def anomalyReviewGeometryValid : Bool :=
  input.anomalyReviewDistanceM.isFinite && input.anomalyReviewDistanceM ≤ 5.0 &&
    lowClearance input.anomalyReviewClearanceM

def applyAnomalyReview : CargoAvoidanceFusionResult :=
  let reason := reasonOr input.anomalyReviewReason "avoidance_anomaly_review_required"
  reviewSelected
    (selectReviewHazard input.anomalyReviewLive input.live input.anomalyReviewStatic
      input.staticMap)
    { result with
      officialValid := true
      officialCode := anomalyReview
      anomalyReview := true
      anomalyReviewLive := input.anomalyReviewLive
      anomalyReviewStatic := input.anomalyReviewStatic
      reason := reason
      provisionalStatus := "REVIEW_REQUIRED"
      pendingAuthorityReason := reason
      distanceM := input.anomalyReviewDistanceM
      clearanceM := input.anomalyReviewClearanceM }

def unresolvedStaticHazard : Bool :=
  -- Not every reliable source is a certified one, which only a risk has to be.
  input.staticMap.available && input.staticMap.reliable && input.staticMap.hazard &&
    warningCode input.staticMap.warningCode && lowClearance input.staticMap.clearanceM &&
    !riskStatic input

def fault (code : Int) (reason : String) : CargoAvoidanceFusionResult :=
  { result with officialCode := code, reason := reason }

def fuseFormal : CargoAvoidanceFusionResult :=
  let result := judged input config
  if liveStandardRisk input || staticStandardRisk input config then
    formalStandardRisk input config result
  else if unresolvedFarHistoryReview input config then
    applyUnresolvedFarHistoryReview input config result
  else if input.anomalyReviewCandidate && anomalyReviewGeometryValid input then
    applyAnomalyReview input result
  else if unresolvedEmbeddedLiveHazard input then
    fault result obstacleInvalid "embedded_obstacle_origin_unresolved"
  else if input.warningCandidatePresent && warningCode input.warningCandidateCode then
    fault result obstacleInvalid "warning_candidate_source_not_authorized"
  else if !input.formalClearAuthorized then
    fault result cargoInvalid "formal_cargo_clear_not_authorized"
  else if !liveClearObserved input config then
    fault result obstacleInvalid "live_roi_not_reliable_for_clear"
  else if unresolvedStaticHazard input then
    fault result obstacleInvalid "unverified_static_hazard_blocks_clear"
  else
    -- Nothing is left that speaks against the all-clear.
    { result with officialValid := true, officialCode := clear, reason := "formal_live_clear" }

def fuseCargoAvoidanceRisk : CargoAvoidanceFusionResult :=
  if !input.localizationValid then
    { officialCode := localizationInvalid, reason := "localization_invalid" }
  else if staticHazardObserved input && !input.staticHazardTrackConfirmed && !riskLive input &&
      !input.warningCandidatePresent then
    { observed input config with
      officialCode := obstacleInvalid
      reason := "static_hazard_track_confirmation_pending"
      provisionalStatus := "TRACK_CONFIRMATION_PENDING"
      pendingAuthorityReason := "static_hazard_track_confirmation_pending" }
  -- A pending load has verdicts of its own.
  else if !formalCargo input then fusePending input config
  else fuseFormal input config

end Fusion

end NdtSlam.CargoAvoidanceFusion
