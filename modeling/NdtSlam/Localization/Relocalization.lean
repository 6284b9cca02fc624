import NdtSlam.Localization.RelocalizationPolicy
import NdtSlam.MapSession.YawBinding

/-! The relocalization of the node: its flags and counters, and every operation that writes them. -/

namespace NdtSlam
namespace Relocalization

inductive RelocalizationState where
  | idle
  | degraded
  | searchingLocal
  | searchingGlobal
  | confirming
  | cooldown
  deriving DecidableEq

inductive RegistrationTargetSource where
  | unknown
  | globalMap
  | croppedActiveMap
  | localizationMap
  | persistentMap
  deriving DecidableEq

def registrationTargetSourceName : RegistrationTargetSource → String
  | .unknown => "UNKNOWN"
  | .globalMap => "GLOBAL_MAP"
  | .croppedActiveMap => "CROPPED_ACTIVE_MAP"
  | .localizationMap => "LOCALIZATION_MAP"
  | .persistentMap => "PERSISTENT_MAP"

def registrationTargetSourceFromName (source : String) : RegistrationTargetSource :=
  if source = "cropped_localization_target" then .croppedActiveMap
  else if source = "localization_target_snapshot" then .localizationMap
  else if source = "persistent_map" then .persistentMap
  else if source = "local_map" ∨ source = "bootstrap_local_map" ∨ source = "fallback_local_map" then
    .globalMap
  else .unknown

structure RegistrationTargetSnapshot where
  cloud : List Vec3
  source : RegistrationTargetSource
  contentVersion : Nat
  mapRebuildGeneration : Nat
  mapFrameUuid : String
  cropIdentity : String
  targetSnapshotId : UInt64 := 0

variable (target : RegistrationTargetSnapshot)

def makeRegistrationTargetSnapshotId : UInt64 :=
  let id := fnv1a64 (registrationTargetSourceName target.source ++ ";" ++
    toString target.contentVersion ++ ";" ++ toString target.mapRebuildGeneration ++ ";" ++
    target.mapFrameUuid ++ ";" ++ target.cropIdentity)
  if id = 0 then 1 else id

def makeRegistrationTargetSnapshot : RegistrationTargetSnapshot :=
  if target.cloud = [] ∨ target.source = .unknown then target
  else { target with targetSnapshotId := makeRegistrationTargetSnapshotId target }

structure RelocalizationJob where
  frameIndex : Nat
  mapGeneration : Nat
  poseVersion : Nat
  mapContentVersion : Nat
  stampSec : Scalar
  mode : RelocalizationMode
  referencePose : Isometry
  mapSource : String

structure RelocalizationSolution where
  valid : Bool := false
  pose : Isometry := {}
  fitness : Scalar := .posInf
  probability : Scalar := .negInf
  fixedYawSource : Option (List Vec3) := none
  fixedYawTarget : Option (List Vec3) := none
  targetCropIdentity : String := ""
  reason : String := ""

def RelocalizationJob.run (job : RelocalizationJob) (solution : RelocalizationSolution) :
    RelocalizationResult where
  valid := solution.valid
  frameIndex := job.frameIndex
  mapGeneration := job.mapGeneration
  poseVersion := job.poseVersion
  mapContentVersion := job.mapContentVersion
  stampSec := job.stampSec
  mode := job.mode
  referencePose := job.referencePose
  pose := solution.pose
  fitness := solution.fitness
  probability := solution.probability
  mapSource := job.mapSource
  fixedYawSource := solution.fixedYawSource
  fixedYawTarget := solution.fixedYawTarget
  targetCropIdentity := solution.targetCropIdentity
  reason := solution.reason

structure FixedYawTranslationInput where
  sourceCloudBase : List Vec3
  target : RegistrationTargetSnapshot
  seedPoseMapBase : Isometry
  authoritativeYawRad : Scalar

structure FixedYawTranslationResult where
  valid : Bool := false
  poseMapBase : Isometry := {}
  fitness : Scalar := 0
  reason : String := "not_evaluated"

def RelocalizationResult.verifiedAt (result : RelocalizationResult) (authority : RailYawAuthority)
    (targetSnapshotId : UInt64) (verified : FixedYawTranslationResult) : RelocalizationResult :=
  if !verified.valid || !verified.fitness.isFinite then
    { result with
      valid := false
      reason := "rail_relocalization_fixed_yaw_verify_failed:" ++ verified.reason }
  else
    { result with
      pose := verified.poseMapBase
      fitness := verified.fitness
      fixedYawVerified := true
      targetSnapshotId
      yawAuthorityGeneration := authority.generation
      yawReferenceHash := authority.reference.referenceHash
      reason := "rail_relocalization_fixed_yaw_verified" }

structure RelocalizationSettings where
  enabled : Bool := true
  railAuthority : Bool := false
  triggerFrames : Nat := 5
  globalTriggerFrames : Nat := 15
  confirmFrames : Int := 2
  requestIntervalFrames : Nat := 3
  resultMaxAgeFrames : Nat := 8
  resultMaxAgeSec : Scalar := 0.50
  globalResultMaxAgeFrames : Nat := 120
  globalResultMaxAgeSec : Scalar := 12.0
  cooldownFrames : Nat := 12
  confirmTranslationM : Scalar := 0.35
  confirmYawDeg : Scalar := 5.0
  craneConstraintEnabled : Bool := false
  yaw : YawSettings

def RelocalizationSettings.confirmationConfig (settings : RelocalizationSettings)
    (mode : RelocalizationMode) : RelocalizationConfirmationConfig where
  requiredConfirmations := settings.confirmFrames
  maximumAgeFrames :=
    if mode = .globalSearch then settings.globalResultMaxAgeFrames
    else settings.resultMaxAgeFrames
  maximumAgeSec :=
    if mode = .globalSearch then settings.globalResultMaxAgeSec else settings.resultMaxAgeSec
  maximumTranslationDeltaM := settings.confirmTranslationM
  maximumYawDeltaDeg := settings.confirmYawDeg

def RelocalizationSettings.evaluate [PlaneMath] (settings : RelocalizationSettings)
    (input : RelocalizationConfirmationInput) : RelocalizationConfirmationDecision :=
  let config := settings.confirmationConfig input.result.mode
  if settings.railAuthority then evaluateRailRelocalizationConfirmation input config
  else evaluateRelocalizationConfirmation input config

structure RailSolvers where
  solve : FixedYawTranslationInput → FixedYawTranslationResult
  applyRailYawAuthorityConstraint : RailYawAuthority → Isometry → Isometry

structure SearchMaps where
  objectsClean : Option Nat := none
  globalMap : Bool := false
  localMap : Option Nat := none
  submits : RelocalizationMode → Bool := fun _ => true

def SearchMaps.selectedMap (maps : SearchMaps) (mapGeneration : Nat) :
    RelocalizationMode → Option (String × Nat)
  | .globalSearch =>
    match maps.objectsClean with
    | some version => some ("objects_clean_static", version)
    | none =>
      if maps.globalMap then some ("global_registration_fallback", mapGeneration)
      else maps.localMap.map fun version => ("local_registration_fallback", version)
  | .localSearch => maps.localMap.map fun version => ("local_registration", version)

structure LoopClosureResult where
  valid : Bool := false
  railTranslationOnly : Bool := false
  poseVersion : Nat := 0
  mapGeneration : Nat := 0
  yawGeneration : UInt64 := 0
  yawReferenceHash : String := ""
  candidate : Int × Int := (0, 0)
  snapshotLastPose : Isometry := {}
  optimizedLastPose : Isometry := {}

structure RelocalizationNode where
  runtimeFrameIndex : Nat := 0
  lastUpdateFrame : Nat := 0
  state : RelocalizationState := .idle
  badFrames : Nat := 0
  goodFrames : Nat := 0
  confirmationCount : Nat := 0
  lastSubmitFrame : Nat := 0
  lastResultFrame : Nat := 0
  cooldownUntilFrame : Nat := 0
  forceGlobal : Bool := false
  poseReliable : Bool := true
  confirmationPose : Isometry := {}
  currentPose : Isometry := {}
  mapRebuildGeneration : Nat := 0
  keyframePoseVersion : Nat := 0
  processedLoops : List (Int × Int) := []
  binding : MapBinding
  pendingJob : Option RelocalizationJob := none
  runningJob : Option RelocalizationJob := none
  result : Option RelocalizationResult := none

inductive RelocalizationCall where
  | frame
  | consume (stampSec : Scalar) (applyCraneMotionConstraint : Isometry → Isometry)
  | update (stampSec : Scalar) (ndtHealthy : Bool) (maps : SearchMaps)
  | register (pose : Isometry)
  | loopClosure (result : LoopClosureResult)
  | reset
  | loadCloud (generated : MapUuid)
  | loadSession (heading : SessionHeading)
  | relocalize
  | rebuildMap
  | rollback
  | takeJob
  | finish (solution : RelocalizationSolution)

namespace RelocalizationNode

section Consume

variable [PlaneMath] (settings : RelocalizationSettings) (solvers : RailSolvers)
  (node : RelocalizationNode)

def ignoresResults : Bool := node.state == .idle && node.poseReliable && !node.forceGlobal

def verifyFixedYaw (result : RelocalizationResult) : RelocalizationResult :=
  if settings.railAuthority && result.valid then
    let authority := node.binding.authority
    let unavailable := { result with
      valid := false, reason := "rail_relocalization_fixed_yaw_input_unavailable" }
    if !authority.valid || authority.reference.mapFrameUuid != node.binding.mapFrameUuid.val then
      unavailable
    else
      match result.fixedYawSource, result.fixedYawTarget with
      | some (point :: points), some (place :: places) =>
        let named := registrationTargetSourceFromName result.mapSource
        let source :=
          if named = .unknown then
            if result.mode = .globalSearch then .globalMap else .croppedActiveMap
          else named
        let target := makeRegistrationTargetSnapshot {
          cloud := place :: places
          source
          contentVersion := result.mapContentVersion
          mapRebuildGeneration := result.mapGeneration
          mapFrameUuid := authority.reference.mapFrameUuid
          cropIdentity := result.targetCropIdentity }
        let verified := solvers.solve {
          sourceCloudBase := point :: points
          target
          seedPoseMapBase := result.pose
          authoritativeYawRad := authority.reference.railYawInMapRad }
        result.verifiedAt authority target.targetSnapshotId verified
      | _, _ => unavailable
  else result

def confirmationInput (stampSec : Scalar) (result : RelocalizationResult) :
    RelocalizationConfirmationInput where
  result
  currentFrameIndex := node.runtimeFrameIndex
  currentStampSec := stampSec
  expectedMapGeneration := node.mapRebuildGeneration
  expectedPoseVersion := node.keyframePoseVersion
  expectedYawAuthorityGeneration := node.binding.authority.generation
  expectedYawReferenceHash :=
    if node.binding.authority.valid then node.binding.authority.reference.referenceHash else ""
  lastResultFrame := node.lastResultFrame
  previousConfirmationCount := node.confirmationCount
  previousCorrection := node.confirmationPose

def recoveredAtCurrentStamp (result : RelocalizationResult) : Isometry :=
  if settings.railAuthority then
    solvers.applyRailYawAuthorityConstraint node.binding.authority
      { translation :=
          ⟨result.pose.translation.x +
              (node.currentPose.translation.x - result.referencePose.translation.x),
            result.pose.translation.y +
              (node.currentPose.translation.y - result.referencePose.translation.y),
            node.currentPose.translation.z⟩ }
  else result.pose.compose (result.referencePose.inverse.compose node.currentPose)

variable (applyCraneMotionConstraint : Isometry → Isometry) (pose : Isometry)

def constrained : Isometry :=
  if settings.railAuthority then
    solvers.applyRailYawAuthorityConstraint node.binding.authority pose
  else if settings.craneConstraintEnabled then applyCraneMotionConstraint pose
  else pose

def applyRelocalizedPose : RelocalizationNode :=
  { node with currentPose := pose, keyframePoseVersion := node.keyframePoseVersion + 1 }

def discarded : RelocalizationNode :=
  { node with confirmationCount := 0, confirmationPose := {}, state := .degraded }

def settled : RelocalizationNode :=
  { node.applyRelocalizedPose pose with
    confirmationCount := 0
    badFrames := 0
    goodFrames := 0
    forceGlobal := false
    poseReliable := true
    state := .cooldown
    cooldownUntilFrame := node.runtimeFrameIndex + settings.cooldownFrames }

def follow (result : RelocalizationResult) (decision : RelocalizationConfirmationDecision) :
    RelocalizationNode × Option Isometry :=
  let noted :=
    if decision.updateLastResultFrame then { node with lastResultFrame := decision.lastResultFrame }
    else node
  let counted := { noted with
    confirmationPose := decision.correction
    confirmationCount := decision.confirmationCount
    state := .confirming }
  match decision.outcome with
  | .discardDuplicate => (noted, none)
  | .discardIdentity | .discardStale | .discardInvalid => (noted.discarded, none)
  | .confirming => (counted, none)
  | .confirmed =>
    let pose := node.constrained settings solvers applyCraneMotionConstraint
      (node.recoveredAtCurrentStamp settings solvers result)
    (counted.settled settings pose, some pose)

def consumeRelocalizationResult (stampSec : Scalar)
    (applyCraneMotionConstraint : Isometry → Isometry) : RelocalizationNode × Option Isometry :=
  if settings.enabled then
    match node.result with
    | none => (node, none)
    | some found =>
      let taken := { node with result := none }
      if node.ignoresResults then (taken, none)
      else
        let result := node.verifyFixedYaw settings solvers found
        taken.follow settings solvers applyCraneMotionConstraint result
          (settings.evaluate (node.confirmationInput stampSec result))
  else (node, none)

end Consume

section Update

variable (settings : RelocalizationSettings) (node : RelocalizationNode) (stampSec : Scalar)

def submit (maps : SearchMaps) : RelocalizationNode :=
  let wide := node.forceGlobal || settings.globalTriggerFrames ≤ node.badFrames
  let mode : RelocalizationMode := if wide then .globalSearch else .localSearch
  match maps.selectedMap node.mapRebuildGeneration mode with
  | none => node
  | some (mapSource, mapContentVersion) =>
    if maps.submits mode then
      { node with
        pendingJob := some {
          frameIndex := node.runtimeFrameIndex
          mapGeneration := node.mapRebuildGeneration
          poseVersion := node.keyframePoseVersion
          mapContentVersion
          stampSec
          mode
          referencePose := node.currentPose
          mapSource }
        lastSubmitFrame := node.runtimeFrameIndex
        state := if wide then .searchingGlobal else .searchingLocal }
    else node

def search (maps : SearchMaps) : RelocalizationNode :=
  if !node.forceGlobal && node.badFrames < settings.triggerFrames then node
  else
    let degraded := { node with poseReliable := false, state := .degraded }
    if node.runningJob.isSome ||
        node.runtimeFrameIndex < node.lastSubmitFrame + settings.requestIntervalFrames then degraded
    else degraded.submit settings stampSec maps

def recovered : RelocalizationNode :=
  { node with
    badFrames := 0
    confirmationCount := 0
    poseReliable := true
    state := .cooldown
    cooldownUntilFrame := node.runtimeFrameIndex + settings.cooldownFrames
    goodFrames := 0 }

def updateRelocalization (ndtHealthy : Bool) (maps : SearchMaps) : RelocalizationNode :=
  if !settings.enabled then node
  else if ndtHealthy && node.poseReliable && node.state == .cooldown then
    { node with
      badFrames := 0
      goodFrames := 0
      state := if node.cooldownUntilFrame ≤ node.runtimeFrameIndex then .idle else .cooldown }
  else if ndtHealthy && !node.forceGlobal then
    let healthy := { node with goodFrames := node.goodFrames + 1 }
    if node.state = .idle then { healthy with badFrames := 0 }
    else if 3 ≤ healthy.goodFrames then healthy.recovered settings
    else healthy.search settings stampSec maps
  else
    { node with goodFrames := 0, badFrames := node.badFrames + 1 }.search settings stampSec maps

end Update

section Operations

variable (settings : RelocalizationSettings) (solvers : RailSolvers) (node : RelocalizationNode)
  (result : LoopClosureResult)

def loopClosureCurrent : Bool :=
  result.valid && result.poseVersion == node.keyframePoseVersion &&
    !(result.railTranslationOnly &&
      (result.mapGeneration != node.mapRebuildGeneration ||
        result.yawGeneration != node.binding.authority.generation ||
        result.yawReferenceHash != node.binding.authority.reference.referenceHash)) &&
    !node.processedLoops.contains result.candidate

def correctedRuntimePose : Isometry :=
  if result.railTranslationOnly then
    solvers.applyRailYawAuthorityConstraint node.binding.authority
      { translation :=
          ⟨node.currentPose.translation.x +
              (result.optimizedLastPose.translation.x - result.snapshotLastPose.translation.x),
            node.currentPose.translation.y +
              (result.optimizedLastPose.translation.y - result.snapshotLastPose.translation.y),
            node.currentPose.translation.z⟩ }
  else
    (result.optimizedLastPose.compose result.snapshotLastPose.inverse).compose node.currentPose

def updatePoseFromLoopClosure (pose : Isometry) : RelocalizationNode :=
  { node with
    currentPose :=
      if settings.railAuthority then
        solvers.applyRailYawAuthorityConstraint node.binding.authority pose
      else pose
    poseReliable := false
    goodFrames := 0
    badFrames := 0
    state := .degraded }

def consumeLoopClosureResult : RelocalizationNode :=
  if node.loopClosureCurrent result then
    { node with
      processedLoops := result.candidate :: node.processedLoops
      keyframePoseVersion := node.keyframePoseVersion + 1 }.updatePoseFromLoopClosure settings
        solvers (node.correctedRuntimePose solvers result)
  else node

def resetService : RelocalizationNode :=
  { node with
    keyframePoseVersion := node.keyframePoseVersion + 1
    mapRebuildGeneration := node.mapRebuildGeneration + 1
    currentPose := {}
    processedLoops := []
    forceGlobal := false
    state := .idle
    poseReliable := true
    badFrames := 0
    goodFrames := 0
    confirmationCount := 0
    confirmationPose := {}
    lastSubmitFrame := 0
    lastResultFrame := 0
    cooldownUntilFrame := 0 }

def loadMap (binding : MapBinding) : RelocalizationNode :=
  { node with
    keyframePoseVersion := node.keyframePoseVersion + 1
    mapRebuildGeneration := node.mapRebuildGeneration + 1
    currentPose := {}
    processedLoops := []
    binding
    confirmationCount := 0
    confirmationPose := {}
    lastSubmitFrame := 0
    lastResultFrame := 0
    badFrames := if settings.enabled then settings.globalTriggerFrames else 0
    goodFrames := 0
    cooldownUntilFrame := 0
    forceGlobal := settings.enabled
    poseReliable := !settings.enabled
    state := if settings.enabled then .degraded else .idle }

def relocalizeService : RelocalizationNode :=
  if settings.enabled then
    { node with
      confirmationCount := 0
      confirmationPose := {}
      lastSubmitFrame := 0
      forceGlobal := true }
  else node

def rebuildMapService : RelocalizationNode :=
  { node with
    keyframePoseVersion := node.keyframePoseVersion + 1
    mapRebuildGeneration := node.mapRebuildGeneration + 1
    processedLoops := [] }

def handleLidarTimeRollback : RelocalizationNode :=
  { node with
    mapRebuildGeneration := node.mapRebuildGeneration + 1
    badFrames := 0
    goodFrames := 0
    confirmationCount := 0
    lastSubmitFrame := 0
    lastResultFrame := 0
    cooldownUntilFrame := 0
    forceGlobal := false
    state := .idle
    poseReliable := true }

def takeJob : RelocalizationNode :=
  if node.runningJob.isNone then { node with runningJob := node.pendingJob, pendingJob := none }
  else node

def finish (solution : RelocalizationSolution) : RelocalizationNode :=
  match node.runningJob with
  | some job => { node with result := some (job.run solution), runningJob := none }
  | none => node

end Operations

variable [PlaneMath] (settings : RelocalizationSettings) (solvers : RailSolvers)

def step (node : RelocalizationNode) :
    RelocalizationCall → RelocalizationNode × Option Isometry
  | .frame => ({ node with runtimeFrameIndex := node.runtimeFrameIndex + 1 }, none)
  | .consume stampSec constraint =>
    node.consumeRelocalizationResult settings solvers stampSec constraint
  | .update stampSec ndtHealthy maps =>
    if node.lastUpdateFrame < node.runtimeFrameIndex then
      ({ node.updateRelocalization settings stampSec ndtHealthy maps with
        lastUpdateFrame := node.runtimeFrameIndex }, none)
    else (node, none)
  | .register pose => ({ node with currentPose := pose }, none)
  | .loopClosure result => (node.consumeLoopClosureResult settings solvers result, none)
  | .reset => (node.resetService, none)
  | .loadCloud generated => (node.loadMap settings (node.binding.installCloud generated), none)
  | .loadSession heading =>
    (node.loadMap settings (node.binding.installSession settings.yaw heading), none)
  | .relocalize => (node.relocalizeService settings, none)
  | .rebuildMap => (node.rebuildMapService, none)
  | .rollback => (node.handleLidarTimeRollback, none)
  | .takeJob => (node.takeJob, none)
  | .finish solution => (node.finish solution, none)

end RelocalizationNode

def machine [PlaneMath] (settings : RelocalizationSettings) (solvers : RailSolvers)
    (binding : MapBinding) : Machine RelocalizationNode RelocalizationCall (Option Isometry) where
  start := { binding }
  step node call := node.step settings solvers call

abbrev RelocalizationEvent := Event RelocalizationNode RelocalizationCall

end Relocalization
end NdtSlam
