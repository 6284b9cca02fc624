import NdtSlam.Foundation.History
import NdtSlam.Foundation.Selection
import NdtSlam.Foundation.Vector
import NdtSlam.StaticEvidence.Authority

/-! The binder that ties a load to the static object it was lifted from. -/

namespace NdtSlam

inductive CargoLiftEventState where
  | idle
  | preloadBaselineReady
  | loadDetected
  | originBinding
  | liftConfirming
  | thicknessConfirming
  | geometryFrozen
  | transport
  | placementConfirming
  | loadedReacquire
  | invalid
  deriving DecidableEq

inductive CargoOriginCandidateSource where
  | retiredFormalShape
  | operatorApprovedBaseline
  | runtimeMatureStatic
  | configuredEnvelope
  deriving DecidableEq

structure CargoLiftOriginConfig where
  maximumAnchorDistanceM : Scalar := 2.0
  minimumSignificantChangeM : Scalar := 0.15
  significanceSigma : Scalar := 3.0
  minimumSourceCoverage : Scalar := 0.35
  minimumTopCoverage : Scalar := 0.20
  minimumRevealedSupportCoverage : Scalar := 0.25
  liftConfirmFrames : Int := 4
  thicknessConfirmFrames : Int := 5
  maximumObservationGapSec : Scalar := 0.50
  maximumSourceAgeSec : Scalar := 0.50
  minimumHeightM : Scalar := 0.30
  maximumHeightM : Scalar := 5.00

structure CargoOriginCandidate where
  componentId : Nat := 0
  source : CargoOriginCandidateSource := .configuredEnvelope
  authority : StaticEvidenceAuthority := .unverifiedLoadedClean
  predatesCargoLifecycle : Bool := false
  centerMap : Vec2 := ⟨0, 0⟩
  lengthM : Scalar := 0
  widthM : Scalar := 0
  yawMapRad : Scalar := 0
  topZ95Map : Scalar := .nan
  supportZMap : Scalar := .nan
  uncertaintyM : Scalar := 0.20
  pointCount : Nat := 0
  candidateOverlap : Scalar := 0
  anchorOverlap : Scalar := 0

structure CargoLiftOriginInput where
  stampSec : Scalar := 0
  hookSignalValid : Bool := false
  hookLoaded : Bool := false
  hookWasEmpty : Bool := false
  nodeStartedLoaded : Bool := false
  anchorValid : Bool := false
  hookAnchorMap : Vec2 := ⟨0, 0⟩
  candidates : List CargoOriginCandidate := []
  currentTopValid : Bool := false
  currentTopStampSec : Scalar := 0
  currentTopZMap : Scalar := .nan
  currentTopUncertaintyM : Scalar := 0.20
  sourceCoverage : Scalar := 0
  topCoverage : Scalar := 0
  revealedSupportValid : Bool := false
  revealedSupportStampSec : Scalar := 0
  revealedSupportZMap : Scalar := .nan
  revealedSupportCoverage : Scalar := 0

structure CargoLiftOriginResult where
  valid : Bool := false
  liftConfirmed : Bool := false
  thicknessReady : Bool := false
  state : CargoLiftEventState := .idle
  origin : CargoOriginCandidate := {}
  liftDeltaM : Scalar := 0
  changeThresholdM : Scalar := 0.15
  staticThicknessM : Scalar := .nan
  revealedThicknessM : Scalar := .nan
  liftConfirmCount : Nat := 0
  thicknessConfirmCount : Nat := 0
  reason : String := "idle"

structure CargoLiftOriginBinder where
  config : CargoLiftOriginConfig
  result : CargoLiftOriginResult := {}
  previousLoaded : Bool := false
  lastStampSec : Scalar := 0
  lastValidLiftStampSec : Scalar := 0
  lastValidThicknessStampSec : Scalar := 0
  lastConsumedSupportStampSec : Scalar := 0
  lastConsumedTopStampSec : Scalar := 0
  boundComponentId : Nat := 0

/-- The square root of the machine, next to its norms. -/
class LiftMath extends EuclideanNorm where
  sqrt : Scalar → Scalar

namespace CargoLiftOriginBinder

def evidenceStampEpsilonSec : Scalar := 1.0e-6

variable (config : CargoLiftOriginConfig)

def validConfig : Bool :=
  0 < config.maximumAnchorDistanceM && 0 < config.minimumSignificantChangeM &&
    0 < config.significanceSigma &&
    0 ≤ config.minimumSourceCoverage && config.minimumSourceCoverage ≤ 1 &&
    0 ≤ config.minimumTopCoverage && config.minimumTopCoverage ≤ 1 &&
    0 ≤ config.minimumRevealedSupportCoverage && config.minimumRevealedSupportCoverage ≤ 1 &&
    0 < config.liftConfirmFrames && 0 < config.thicknessConfirmFrames &&
    0 < config.maximumObservationGapSec && 0 ≤ config.maximumSourceAgeSec &&
    config.minimumHeightM < config.maximumHeightM

def effective : CargoLiftOriginConfig :=
  if validConfig config then config else {}

def setConfig : CargoLiftOriginBinder :=
  { config := effective config }

def sourcePriority : CargoOriginCandidateSource → Scalar
  | .operatorApprovedBaseline => 4
  | .runtimeMatureStatic => 3
  | .retiredFormalShape => 2
  | .configuredEnvelope => 1

def formalStaticOrigin (candidate : CargoOriginCandidate) : Bool :=
  if !(authorizeStaticEvidence candidate.authority).formalOriginAuthorized then false
  else
    candidate.source == .operatorApprovedBaseline ||
      (candidate.source == .runtimeMatureStatic && candidate.predatesCargoLifecycle)

def usable (candidate : CargoOriginCandidate) (config : CargoLiftOriginConfig) : Bool :=
  let height := candidate.topZ95Map - candidate.supportZMap
  let provisionalSource :=
    candidate.source == .retiredFormalShape || candidate.source == .configuredEnvelope
  let authorityValid := provisionalSource || formalStaticOrigin candidate
  candidate.centerMap.allFinite &&
    candidate.lengthM.isFinite && 0 < candidate.lengthM &&
    candidate.widthM.isFinite && 0 < candidate.widthM &&
    candidate.yawMapRad.isFinite && candidate.topZ95Map.isFinite &&
    candidate.supportZMap.isFinite && candidate.uncertaintyM.isFinite &&
    0 ≤ candidate.uncertaintyM && authorityValid && height.isFinite &&
    config.minimumHeightM ≤ height && height ≤ config.maximumHeightM

def candidateScore [EuclideanNorm] (candidate : CargoOriginCandidate)
    (input : CargoLiftOriginInput) : Scalar :=
  let distance := (candidate.centerMap - input.hookAnchorMap).norm
  let topError :=
    if input.currentTopValid then (candidate.topZ95Map - input.currentTopZMap).abs else 0
  (if formalStaticOrigin candidate then 1000 else 0) + 100 * candidate.candidateOverlap +
    20 * candidate.anchorOverlap - 5 * distance - topError +
    2 * sourcePriority candidate.source + 0.001 * Scalar.ofNat candidate.pointCount

def tooFar [EuclideanNorm] (config : CargoLiftOriginConfig) (input : CargoLiftOriginInput)
    (candidate : CargoOriginCandidate) : Bool :=
  config.maximumAnchorDistanceM < (candidate.centerMap - input.hookAnchorMap).norm

def boundIdentityPresent (config : CargoLiftOriginConfig) (origin : CargoOriginCandidate)
    (input : CargoLiftOriginInput) : Bool :=
  input.candidates.any fun candidate =>
    candidate.componentId == origin.componentId && candidate.source == origin.source &&
      usable candidate config

def upgrade [EuclideanNorm] (config : CargoLiftOriginConfig) (input : CargoLiftOriginInput) :
    Option CargoOriginCandidate :=
  foremost (fun challenger current =>
      candidateScore current input < candidateScore challenger input)
    (input.candidates.filter fun candidate =>
      usable candidate config && formalStaticOrigin candidate && !tooFar config input candidate)

def bindingScore [EuclideanNorm] (self : CargoLiftOriginBinder) (input : CargoLiftOriginInput)
    (candidate : CargoOriginCandidate) : Scalar :=
  candidateScore candidate input + if candidate.componentId = self.boundComponentId then 10 else 0

def selectOrigin [EuclideanNorm] (self : CargoLiftOriginBinder) (input : CargoLiftOriginInput) :
    Option CargoOriginCandidate :=
  foremost (fun challenger current =>
      self.bindingScore input current < self.bindingScore input challenger)
    (input.candidates.filter fun candidate =>
      usable candidate self.config && !tooFar self.config input candidate)

variable (self : CargoLiftOriginBinder) (input : CargoLiftOriginInput)

def timeInvalid : Bool :=
  !input.stampSec.isFinite || input.stampSec ≤ 0 ||
    (0 < self.lastStampSec && input.stampSec ≤ self.lastStampSec)

def refuseTime : CargoLiftOriginBinder :=
  { self with
    result := { self.result with
      state := .invalid, valid := false, reason := "source_time_invalid_or_rollback" }
    previousLoaded := input.hookLoaded
    lastStampSec := input.stampSec
    lastConsumedSupportStampSec := 0
    lastConsumedTopStampSec := 0 }

def clearLift : CargoLiftOriginBinder :=
  if !self.result.liftConfirmed then
    { self with
      result := { self.result with liftConfirmCount := 0 }
      lastValidLiftStampSec := 0
      lastConsumedTopStampSec := 0 }
  else self

def clearThickness : CargoLiftOriginBinder :=
  if !self.result.thicknessReady then
    { self with
      result := { self.result with thicknessConfirmCount := 0 }
      lastValidThicknessStampSec := 0
      lastConsumedSupportStampSec := 0 }
  else self

def acceptStamp : CargoLiftOriginBinder :=
  let stamped := { self with lastStampSec := input.stampSec }
  if 0 < self.lastStampSec &&
      self.config.maximumObservationGapSec < input.stampSec - self.lastStampSec then
    stamped.clearLift.clearThickness
  else stamped

def refuseHook : CargoLiftOriginBinder :=
  { self with
    result := { self.result with
      state := .invalid, valid := false, reason := "hook_signal_invalid" }
    previousLoaded := input.hookLoaded }

def unload : CargoLiftOriginBinder :=
  let ready := input.anchorValid && !input.candidates.isEmpty
  { self with
    result :=
      { state := if ready then .preloadBaselineReady else .idle
        reason := if ready then "preload_baseline_ready" else "waiting_for_preload_baseline" }
    previousLoaded := false
    lastConsumedSupportStampSec := 0
    lastConsumedTopStampSec := 0 }

def loseOrigin : CargoLiftOriginBinder :=
  { self with
    result := { state := .invalid, reason := "origin_identity_changed" }
    boundComponentId := 0
    lastValidLiftStampSec := 0
    lastValidThicknessStampSec := 0
    lastConsumedSupportStampSec := 0
    lastConsumedTopStampSec := 0 }

def upgradeOrigin (origin : CargoOriginCandidate) : CargoLiftOriginBinder :=
  { self with
    result :=
      { origin := origin, valid := true, state := .originBinding
        staticThicknessM := origin.topZ95Map - origin.supportZMap
        reason := "formal_static_origin_upgraded" }
    boundComponentId := origin.componentId
    lastValidLiftStampSec := 0
    lastValidThicknessStampSec := 0
    lastConsumedSupportStampSec := 0
    lastConsumedTopStampSec := 0 }

def reviewOrigin [EuclideanNorm] (self : CargoLiftOriginBinder) (input : CargoLiftOriginInput) :
    CargoLiftOriginBinder :=
  if self.result.valid then
    if !boundIdentityPresent self.config self.result.origin input then self.loseOrigin
    else if !formalStaticOrigin self.result.origin then
      match upgrade self.config input with
      | some origin => self.upgradeOrigin origin
      | none => self
    else self
  else self

def bindOrigin [EuclideanNorm] (self : CargoLiftOriginBinder) (input : CargoLiftOriginInput) :
    CargoLiftOriginBinder :=
  let opened : CargoLiftOriginResult :=
    { state :=
        if input.nodeStartedLoaded && !input.hookWasEmpty then .loadedReacquire
        else .loadDetected }
  if !input.anchorValid || !input.hookAnchorMap.allFinite then
    { self with result := { opened with state := .invalid, reason := "hook_anchor_invalid" } }
  else
    match self.selectOrigin input with
    | none =>
      { self with
        result := { opened with
          state := .invalid, reason := "no_local_authorized_origin_candidate" } }
    | some selected =>
      -- The counts of a fresh result are zero whichever component was bound before.
      { self with
        result := { opened with
          origin := selected, valid := true
          staticThicknessM := selected.topZ95Map - selected.supportZMap
          state := .originBinding
          reason :=
            if input.nodeStartedLoaded then "loaded_origin_reacquired" else "lift_origin_bound" }
        boundComponentId := selected.componentId
        lastConsumedSupportStampSec := 0
        lastConsumedTopStampSec := 0 }

def settleOrigin [EuclideanNorm] (self : CargoLiftOriginBinder) (input : CargoLiftOriginInput) :
    CargoLiftOriginBinder :=
  let loadEdge := !self.previousLoaded || input.hookWasEmpty
  let reviewed := self.reviewOrigin input
  if !reviewed.result.valid &&
      (loadEdge || input.nodeStartedLoaded || reviewed.result.state == .invalid) then
    reviewed.bindOrigin input
  else reviewed

def changeThreshold [LiftMath] (config : CargoLiftOriginConfig) (origin : CargoOriginCandidate)
    (input : CargoLiftOriginInput) : Scalar :=
  .maxOf config.minimumSignificantChangeM
    (config.significanceSigma * LiftMath.sqrt
      (origin.uncertaintyM * origin.uncertaintyM +
        input.currentTopUncertaintyM * input.currentTopUncertaintyM))

def fresh (config : CargoLiftOriginConfig) (input : CargoLiftOriginInput) (stampSec : Scalar) :
    Bool :=
  stampSec.isFinite && 0 < stampSec &&
    (input.stampSec - stampSec).abs ≤ config.maximumSourceAgeSec

def topValid (config : CargoLiftOriginConfig) (input : CargoLiftOriginInput) : Bool :=
  input.currentTopValid && fresh config input input.currentTopStampSec &&
    input.currentTopZMap.isFinite && config.minimumSourceCoverage ≤ input.sourceCoverage &&
    config.minimumTopCoverage ≤ input.topCoverage

def measure [LiftMath] (self : CargoLiftOriginBinder) (input : CargoLiftOriginInput) :
    CargoLiftOriginBinder :=
  { self with
    result := { self.result with
      changeThresholdM := changeThreshold self.config self.result.origin input
      liftDeltaM :=
        if topValid self.config input then input.currentTopZMap - self.result.origin.topZ95Map
        else self.result.liftDeltaM } }

variable (self : CargoLiftOriginBinder) (input : CargoLiftOriginInput)

def lifted : Bool :=
  topValid self.config input && self.result.changeThresholdM ≤ self.result.liftDeltaM

def topEvidenceAdvanced : Bool :=
  self.lifted input &&
    self.lastConsumedTopStampSec + evidenceStampEpsilonSec < input.currentTopStampSec

def revealed : Bool :=
  input.revealedSupportValid && fresh self.config input input.revealedSupportStampSec &&
    input.revealedSupportZMap.isFinite &&
    self.config.minimumRevealedSupportCoverage ≤ input.revealedSupportCoverage &&
    self.result.changeThresholdM ≤ self.result.origin.topZ95Map - input.revealedSupportZMap

def countLift : CargoLiftOriginBinder :=
  let late := 0 < self.lastValidLiftStampSec &&
    self.config.maximumObservationGapSec < input.stampSec - self.lastValidLiftStampSec
  { self with
    result := { self.result with
      liftConfirmCount := (if late then 0 else self.result.liftConfirmCount) + 1 }
    lastValidLiftStampSec := input.stampSec
    lastConsumedTopStampSec := input.currentTopStampSec }

def tallyLift : CargoLiftOriginBinder :=
  if self.topEvidenceAdvanced input then self.countLift input
  else if !self.lifted input then
    { self with
      result := { self.result with liftConfirmCount := 0 }
      lastValidLiftStampSec := 0 }
  else self

def confirmLift : CargoLiftOriginBinder :=
  if !self.result.liftConfirmed then
    let counted := self.tallyLift input
    { counted with
      result := { counted.result with
        liftConfirmed :=
          decide (counted.config.liftConfirmFrames ≤ (counted.result.liftConfirmCount : Int)) } }
  else self

def awaitLift (waiting : Bool) : CargoLiftOriginBinder :=
  { self with
    result := { self.result with
      thicknessConfirmCount := 0, state := .liftConfirming
      reason := if waiting then "waiting_for_new_top_evidence" else "lift_confirmation_pending" }
    lastValidThicknessStampSec := 0 }

def thicknessValid : Bool :=
  let revealedThicknessM :=
    if self.revealed input then self.result.origin.topZ95Map - input.revealedSupportZMap else .nan
  self.revealed input && self.config.minimumHeightM ≤ revealedThicknessM &&
    revealedThicknessM ≤ self.config.maximumHeightM

def supportEvidenceAdvanced : Bool :=
  self.thicknessValid input &&
    self.lastConsumedSupportStampSec + evidenceStampEpsilonSec < input.revealedSupportStampSec

def countThickness : CargoLiftOriginBinder :=
  let late := 0 < self.lastValidThicknessStampSec &&
    self.config.maximumObservationGapSec < input.stampSec - self.lastValidThicknessStampSec
  { self with
    result := { self.result with
      thicknessConfirmCount := (if late then 0 else self.result.thicknessConfirmCount) + 1
      revealedThicknessM := self.result.origin.topZ95Map - input.revealedSupportZMap }
    lastValidThicknessStampSec := input.stampSec
    lastConsumedSupportStampSec := input.revealedSupportStampSec }

def tallyThickness : CargoLiftOriginBinder :=
  if self.supportEvidenceAdvanced input then self.countThickness input
  else if !self.revealed input || !self.thicknessValid input then
    { self with
      result := { self.result with thicknessConfirmCount := 0 }
      lastValidThicknessStampSec := 0 }
  else self

def confirmThickness : CargoLiftOriginBinder :=
  if !self.result.thicknessReady then
    let counted := self.tallyThickness input
    { counted with
      result := { counted.result with
        state := .thicknessConfirming
        reason :=
          if !self.thicknessValid input then "lift_confirmed_revealed_thickness_invalid"
          else if self.supportEvidenceAdvanced input then "lift_confirmed_thickness_pending"
          else "waiting_for_new_support_evidence"
        thicknessReady := decide
          (counted.config.thicknessConfirmFrames ≤ (counted.result.thicknessConfirmCount : Int)) } }
  else self

def freeze : CargoLiftOriginBinder :=
  if self.result.thicknessReady then
    { self with
      result := { self.result with
        state := .geometryFrozen, reason := "origin_and_revealed_thickness_confirmed" } }
  else self

def weigh [LiftMath] (self : CargoLiftOriginBinder) (input : CargoLiftOriginInput) :
    CargoLiftOriginBinder :=
  let measured := self.measure input
  let confirmed := measured.confirmLift input
  if !confirmed.result.liftConfirmed then
    confirmed.awaitLift (measured.lifted input && !measured.topEvidenceAdvanced input)
  else (confirmed.confirmThickness input).freeze

def advance [LiftMath] (self : CargoLiftOriginBinder) (input : CargoLiftOriginInput) :
    CargoLiftOriginBinder :=
  if self.timeInvalid input then self.refuseTime input
  else
    let stamped := self.acceptStamp input
    if !input.hookSignalValid then stamped.refuseHook input
    else if !input.hookLoaded then stamped.unload input
    else
      -- Every return of the loaded branch remembers that the hook was loaded.
      let settled := { stamped.settleOrigin input with previousLoaded := true }
      if !settled.result.valid then settled else settled.weigh input

def update [LiftMath] (self : CargoLiftOriginBinder) (input : CargoLiftOriginInput) :
    CargoLiftOriginBinder × CargoLiftOriginResult :=
  (self.advance input, (self.advance input).result)

def machine [LiftMath] (config : CargoLiftOriginConfig) :
    Machine CargoLiftOriginBinder CargoLiftOriginInput CargoLiftOriginResult where
  start := setConfig config
  step := update

end CargoLiftOriginBinder
end NdtSlam
