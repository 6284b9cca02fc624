import NdtSlam.Cargo.ConfigValidation
import NdtSlam.Cargo.PoseAuthorityIdentity
import NdtSlam.Foundation.History
import NdtSlam.Foundation.Vector

/-! The temporal filter that turns raw alarm codes into officially published ones. -/

namespace NdtSlam

structure CargoSafetyTemporalConfig where
  hazardConfirmFrames : Int := 3
  clearConfirmFrames : Int := 2
  minimumHazardClusterPoints : Nat := 20
  maximumEvidenceGapSec : Scalar := 0.60
  maximumCentroidStepM : Scalar := 0.75
  maximumDistanceStepM : Scalar := 0.75
  maximumClearanceStepM : Scalar := 0.75

structure CargoSafetyTemporalInput where
  stampSec : Scalar := 0
  rawValid : Bool := false
  rawCode : Nat := 0
  clusterPoints : Nat := 0
  clusterCentroid : Vec3 := {}
  footprintDistanceM : Scalar := 0
  conservativeClearanceM : Scalar := 0
  cargoPoseAuthority : TemporalEvidenceAuthority := {}
  obstaclePoseAuthority : TemporalEvidenceAuthority := {}

structure CargoSafetyTemporalDecision where
  stable : Bool := false
  pending : Bool := false
  newlyConfirmed : Bool := false
  useCurrentEvidence : Bool := false
  code : Nat := 0
  candidateCode : Nat := 0
  confirmedCode : Nat := 0
  evidenceCount : Nat := 0
  cargoPoseAuthority : TemporalEvidenceAuthority := {}
  obstaclePoseAuthority : TemporalEvidenceAuthority := {}
  reason : String := "not_evaluated"

def validateCargoSafetyTemporalConfig (config : CargoSafetyTemporalConfig) :
    CargoConfigValidationResult :=
  ConfigCheck.validate [
    .failsWhen "hazard_confirm_frames" "must_be_at_least_2" (config.hazardConfirmFrames < 2),
    .failsWhen "clear_confirm_frames" "must_be_at_least_2" (config.clearConfirmFrames < 2),
    .failsWhen "minimum_hazard_cluster_points" "must_be_positive"
      (config.minimumHazardClusterPoints == 0),
    .positive "maximum_evidence_gap_sec" config.maximumEvidenceGapSec,
    .positive "maximum_centroid_step_m" config.maximumCentroidStepM,
    .positive "maximum_distance_step_m" config.maximumDistanceStepM,
    .positive "maximum_clearance_step_m" config.maximumClearanceStepM]

structure CargoSafetyTemporalFilter where
  config : CargoSafetyTemporalConfig := {}
  configValidation : CargoConfigValidationResult := {}
  hasSourceStamp : Bool := false
  lastSourceStampSec : Scalar := 0
  candidateValid : Bool := false
  candidateCode : Nat := 0
  candidateCount : Nat := 0
  candidateStampSec : Scalar := 0
  candidateCentroid : Vec3 := {}
  candidateDistanceM : Scalar := 0
  candidateClearanceM : Scalar := 0
  candidateCargoPoseAuthority : TemporalEvidenceAuthority := {}
  candidateObstaclePoseAuthority : TemporalEvidenceAuthority := {}
  confirmedValid : Bool := false
  confirmedCode : Nat := 0
  confirmedCargoPoseAuthority : TemporalEvidenceAuthority := {}
  confirmedObstaclePoseAuthority : TemporalEvidenceAuthority := {}

namespace CargoSafetyTemporalFilter

def clearCode : Nat := 14

def level1Code : Nat := 17

def level2Code : Nat := 18

def stampEpsilonSec : Scalar := 1.0e-4

def isProtocolCode (code : Nat) : Bool :=
  code == clearCode || code == level1Code || code == level2Code

def isHazard (code : Nat) : Bool := code == level1Code || code == level2Code

variable (self : CargoSafetyTemporalFilter)

def reset : CargoSafetyTemporalFilter :=
  { config := self.config, configValidation := self.configValidation }

variable (config : CargoSafetyTemporalConfig)

def setConfig : CargoSafetyTemporalFilter :=
  { config, configValidation := validateCargoSafetyTemporalConfig config }

def dropCandidate : CargoSafetyTemporalFilter :=
  { self with candidateValid := false, candidateCount := 0 }

def currentDecision (reason : String) :
    CargoSafetyTemporalDecision where
  stable := self.confirmedValid
  pending := !self.confirmedValid
  code := if self.confirmedValid then self.confirmedCode else 0
  candidateCode := if self.candidateValid then self.candidateCode else 0
  confirmedCode := if self.confirmedValid then self.confirmedCode else 0
  evidenceCount := self.candidateCount
  cargoPoseAuthority :=
    if self.confirmedValid then self.confirmedCargoPoseAuthority
    else self.candidateCargoPoseAuthority
  obstaclePoseAuthority :=
    if self.confirmedValid then self.confirmedObstaclePoseAuthority
    else self.candidateObstaclePoseAuthority
  reason := reason

def pendingDecision (reason : String) :
    CargoSafetyTemporalDecision where
  stable := false
  pending := true
  code := 0
  candidateCode := if self.candidateValid then self.candidateCode else 0
  confirmedCode := if self.confirmedValid then self.confirmedCode else 0
  evidenceCount := self.candidateCount
  cargoPoseAuthority := self.candidateCargoPoseAuthority
  obstaclePoseAuthority := self.candidateObstaclePoseAuthority
  reason := reason

variable (input : CargoSafetyTemporalInput)

def invalidRaw : Bool :=
  !input.rawValid || !input.stampSec.isFinite || input.stampSec ≤ 0 ||
    !isProtocolCode input.rawCode

def authorityMismatch : Bool :=
  !input.cargoPoseAuthority.valid || !input.obstaclePoseAuthority.valid ||
    !sameTemporalEvidenceAuthority input.cargoPoseAuthority input.obstaclePoseAuthority

def rolledBack : Bool :=
  self.hasSourceStamp && input.stampSec + stampEpsilonSec < self.lastSourceStampSec

def repeatedStamp : Bool :=
  self.hasSourceStamp && input.stampSec ≤ self.lastSourceStampSec + stampEpsilonSec

variable (input : CargoSafetyTemporalInput)

def robustHazard : Bool :=
  isHazard input.rawCode && config.minimumHazardClusterPoints ≤ input.clusterPoints &&
    input.clusterCentroid.allFinite && input.footprintDistanceM.isFinite &&
    0 ≤ input.footprintDistanceM && input.conservativeClearanceM.isFinite

def sameCandidate : Bool :=
  self.candidateValid && self.candidateCode == input.rawCode &&
    sameTemporalEvidenceAuthority self.candidateCargoPoseAuthority input.cargoPoseAuthority &&
    sameTemporalEvidenceAuthority self.candidateObstaclePoseAuthority input.obstaclePoseAuthority

def gapContinuous : Bool :=
  self.sameCandidate input &&
    input.stampSec - self.candidateStampSec ≤
      self.config.maximumEvidenceGapSec + stampEpsilonSec

def spatiallyContinuous [EuclideanNorm] (self : CargoSafetyTemporalFilter)
    (input : CargoSafetyTemporalInput) : Bool :=
  (input.clusterCentroid - self.candidateCentroid).norm ≤
      self.config.maximumCentroidStepM &&
    (input.footprintDistanceM - self.candidateDistanceM).abs ≤
      self.config.maximumDistanceStepM &&
    (input.conservativeClearanceM - self.candidateClearanceM).abs ≤
      self.config.maximumClearanceStepM

def continuous [EuclideanNorm] (self : CargoSafetyTemporalFilter)
    (input : CargoSafetyTemporalInput) : Bool :=
  self.gapContinuous input && (!isHazard input.rawCode || self.spatiallyContinuous input)

def pendingReason [EuclideanNorm] (self : CargoSafetyTemporalFilter)
    (input : CargoSafetyTemporalInput) : String :=
  if isHazard input.rawCode && self.sameCandidate input && !self.gapContinuous input then
    "hazard_evidence_gap"
  else if isHazard input.rawCode && self.gapContinuous input &&
      !self.spatiallyContinuous input then
    "hazard_spatial_discontinuity"
  else if isHazard input.rawCode && self.candidateValid &&
      self.candidateCode != input.rawCode then
    "hazard_level_transition_pending"
  else if isHazard input.rawCode then "hazard_spatiotemporal_confirmation_pending"
  else "clear_confirmation_pending"

def extendCandidate [EuclideanNorm] (self : CargoSafetyTemporalFilter)
    (input : CargoSafetyTemporalInput) : CargoSafetyTemporalFilter :=
  { self with
    candidateValid := if self.continuous input then self.candidateValid else true
    candidateCode := if self.continuous input then self.candidateCode else input.rawCode
    candidateCount := if self.continuous input then self.candidateCount + 1 else 1
    candidateStampSec := input.stampSec
    candidateCargoPoseAuthority := input.cargoPoseAuthority
    candidateObstaclePoseAuthority := input.obstaclePoseAuthority
    -- The spatial record is only that of the last hazard frame.
    candidateCentroid :=
      if isHazard input.rawCode then input.clusterCentroid else self.candidateCentroid
    candidateDistanceM :=
      if isHazard input.rawCode then input.footprintDistanceM else self.candidateDistanceM
    candidateClearanceM :=
      if isHazard input.rawCode then input.conservativeClearanceM else self.candidateClearanceM }

def requiredFrames (code : Nat) : Int :=
  if isHazard code then config.hazardConfirmFrames else config.clearConfirmFrames

def confirm (self : CargoSafetyTemporalFilter) (input : CargoSafetyTemporalInput) :
    CargoSafetyTemporalFilter :=
  { self with
    confirmedValid := true
    confirmedCode := input.rawCode
    confirmedCargoPoseAuthority := input.cargoPoseAuthority
    confirmedObstaclePoseAuthority := input.obstaclePoseAuthority }

def recordStamp (self : CargoSafetyTemporalFilter) (input : CargoSafetyTemporalInput) :
    CargoSafetyTemporalFilter :=
  { self with hasSourceStamp := true, lastSourceStampSec := input.stampSec }

def absorb [EuclideanNorm] (self : CargoSafetyTemporalFilter) (input : CargoSafetyTemporalInput) :
    CargoSafetyTemporalFilter × CargoSafetyTemporalDecision :=
  let stamped := self.recordStamp input
  if isHazard input.rawCode && !robustHazard stamped.config input then
    let dropped := stamped.dropCandidate
    (dropped, dropped.pendingDecision "hazard_cluster_too_sparse")
  else
    let extended := stamped.extendCandidate input
    if requiredFrames extended.config input.rawCode ≤ extended.candidateCount then
      let confirmed := extended.confirm input
      let decision := confirmed.currentDecision
        (if isHazard input.rawCode then "hazard_spatiotemporally_confirmed"
          else "clear_temporally_confirmed")
      (confirmed,
        { decision with
          pending := false
          newlyConfirmed := !extended.confirmedValid || extended.confirmedCode != input.rawCode
          useCurrentEvidence := true })
    else
      (extended, extended.pendingDecision (stamped.pendingReason input))

def update [EuclideanNorm] (self : CargoSafetyTemporalFilter) (input : CargoSafetyTemporalInput) :
    CargoSafetyTemporalFilter × CargoSafetyTemporalDecision :=
  if !self.configValidation.valid || invalidRaw input then
    let dropped := self.dropCandidate
    (dropped, dropped.pendingDecision "invalid_raw_evidence")
  else if authorityMismatch input then
    let dropped := { self.dropCandidate with confirmedValid := false }
    (dropped, dropped.pendingDecision "pose_authority_mismatch")
  else if self.rolledBack input then
    -- Old confirmations must not leak across an epoch, and the new epoch starts with this frame.
    self.reset.absorb input
  else if self.repeatedStamp input then
    -- A repeated callback is not current physical evidence.
    (self, self.pendingDecision "repeated_source_stamp_ignored")
  else
    self.absorb input

inductive Call where
  | update (input : CargoSafetyTemporalInput)
  | reset

def machine [EuclideanNorm] (config : CargoSafetyTemporalConfig) :
    Machine CargoSafetyTemporalFilter Call (Option CargoSafetyTemporalDecision) where
  start := setConfig config
  step self call := match call with
    | .update input => ((self.update input).1, some (self.update input).2)
    | .reset => (self.reset, none)

end CargoSafetyTemporalFilter
end NdtSlam
