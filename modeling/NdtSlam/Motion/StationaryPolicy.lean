import NdtSlam.Foundation.History
import NdtSlam.Foundation.Vector

/-! The policy that holds a stationary pose, confirms real motion, and catches up with it. -/

namespace NdtSlam

inductive RuntimeMotionState where
  | moving
  | stationaryHold
  | movingConfirm
  | catchUp
  deriving DecidableEq

structure StationaryMotionPolicyConfig where
  enterConfirmFrames : Int := 20
  enterMaxRawIncrementM : Scalar := 0.015
  enterMaxSpeedMps : Scalar := 0.03
  exitConfirmFrames : Int := 3
  exitMinIncrementM : Scalar := 0.02
  exitCumulativeMotionM : Scalar := 0.15
  exitDirectionCosineMin : Scalar := 0.80
  exitEvidenceWindowSec : Scalar := 1.50
  exitMinSpeedMps : Scalar := 0.01
  exitForceAnchorDriftM : Scalar := 0.30
  movingConfirmTimeoutSec : Scalar := 1.50
  catchUpMaxStepM : Scalar := 0.08
  catchUpCompleteErrorM : Scalar := 0.03
  catchUpConfirmFrames : Int := 2
  timestampEpsilonSec : Scalar := 1.0e-6

structure StationaryMotionInput where
  stampSec : Scalar := 0
  ndtConverged : Bool := false
  ndtAccepted : Bool := false
  predictionOnly : Bool := false
  registrationQualityValid : Bool := false
  severeDegeneracy : Bool := false
  rawPosition : Vec2 := {}
  filteredPosition : Vec2 := {}
  filteredVelocity : Vec2 := {}
  rawIncrementM : Scalar := 0
  allowedPhysicalStepM : Scalar := 0

structure StationaryMotionDecision where
  state : RuntimeMotionState := .moving
  applyStationaryHold : Bool := false
  applyPositionConstraint : Bool := false
  allowLocalMapUpdate : Bool := false
  allowPersistentMapCommit : Bool := false
  movementConfirmed : Bool := false
  startCatchUp : Bool := false
  constrainedPosition : Vec2 := {}
  catchUpStepM : Scalar := 0
  reason : String := "RESET"

structure MotionSample where
  stampSec : Scalar := 0
  rawPosition : Vec2 := {}

structure StationaryMotionPolicy where
  config : StationaryMotionPolicyConfig := {}
  state : RuntimeMotionState := .moving
  hasLastStamp : Bool := false
  lastStampSec : Scalar := 0
  hasLastRawPosition : Bool := false
  lastRawPosition : Vec2 := {}
  anchorPosition : Vec2 := {}
  rawAnchorPosition : Vec2 := {}
  accumulatedMotion : Vec2 := {}
  confirmedPathLengthM : Scalar := 0
  motionSamples : List MotionSample := []
  movementConfirmStartStampSec : Scalar := 0
  stationaryEnterCount : Nat := 0
  movementConfirmCount : Nat := 0
  catchUpCompleteCount : Nat := 0

namespace StationaryMotionPolicy

variable (config : StationaryMotionPolicyConfig)

def normalizeConfig : StationaryMotionPolicyConfig :=
  let exitMinIncrementM := Scalar.maxOf 0 config.exitMinIncrementM
  let exitCumulativeMotionM := Scalar.maxOf exitMinIncrementM config.exitCumulativeMotionM
  let exitEvidenceWindowSec := Scalar.maxOf 0.1 config.exitEvidenceWindowSec
  { enterConfirmFrames := max 1 config.enterConfirmFrames
    exitConfirmFrames := max 1 config.exitConfirmFrames
    catchUpConfirmFrames := max 1 config.catchUpConfirmFrames
    enterMaxRawIncrementM := Scalar.maxOf 0 config.enterMaxRawIncrementM
    enterMaxSpeedMps := Scalar.maxOf 0 config.enterMaxSpeedMps
    exitMinIncrementM := exitMinIncrementM
    exitCumulativeMotionM := exitCumulativeMotionM
    exitDirectionCosineMin := Scalar.clamp config.exitDirectionCosineMin (-1) 1
    exitEvidenceWindowSec := exitEvidenceWindowSec
    exitMinSpeedMps := Scalar.maxOf 0 config.exitMinSpeedMps
    exitForceAnchorDriftM := Scalar.maxOf exitCumulativeMotionM config.exitForceAnchorDriftM
    movingConfirmTimeoutSec := Scalar.maxOf exitEvidenceWindowSec config.movingConfirmTimeoutSec
    catchUpMaxStepM := Scalar.maxOf 1.0e-6 config.catchUpMaxStepM
    catchUpCompleteErrorM := Scalar.maxOf 0 config.catchUpCompleteErrorM
    timestampEpsilonSec := Scalar.maxOf 0 config.timestampEpsilonSec }

def setConfig : StationaryMotionPolicy :=
  { config := normalizeConfig config }

def lengthEpsilon : Scalar := 1.0e-9

variable (self : StationaryMotionPolicy) (stampSec : Scalar)

def isFreshTimestamp : Bool :=
  stampSec.isFinite &&
    (!self.hasLastStamp || self.lastStampSec + self.config.timestampEpsilonSec < stampSec)

variable (input : StationaryMotionInput)

def isReliableMeasurement : Bool :=
  input.ndtConverged && input.ndtAccepted && !input.predictionOnly &&
    input.registrationQualityValid && !input.severeDegeneracy && input.rawPosition.allFinite &&
    input.filteredPosition.allFinite && input.filteredVelocity.allFinite &&
    input.rawIncrementM.isFinite && input.allowedPhysicalStepM.isFinite &&
    0 < input.allowedPhysicalStepM &&
    input.rawIncrementM ≤ input.allowedPhysicalStepM + lengthEpsilon

def enterStationary : StationaryMotionPolicy :=
  { self with
    state := .stationaryHold
    anchorPosition := input.filteredPosition
    rawAnchorPosition := input.rawPosition
    accumulatedMotion := {}
    confirmedPathLengthM := 0
    motionSamples := [⟨input.stampSec, input.rawPosition⟩]
    movementConfirmStartStampSec := 0
    movementConfirmCount := 0
    catchUpCompleteCount := 0 }

def beginMovementConfirmation : StationaryMotionPolicy :=
  { self with
    state := .movingConfirm, movementConfirmStartStampSec := stampSec, catchUpCompleteCount := 0 }

def rejectMovementEvidence : StationaryMotionPolicy :=
  { self with
    state := .stationaryHold
    anchorPosition := input.filteredPosition
    rawAnchorPosition := input.rawPosition
    accumulatedMotion := {}
    confirmedPathLengthM := 0
    motionSamples :=
      if input.rawPosition.allFinite && input.stampSec.isFinite then
        [⟨input.stampSec, input.rawPosition⟩] else []
    movementConfirmStartStampSec := 0
    movementConfirmCount := 0
    catchUpCompleteCount := 0 }

def dropOldSamples (minimumStamp : Scalar) : List MotionSample → List MotionSample
  | first :: second :: third :: rest =>
    if second.stampSec < minimumStamp then dropOldSamples minimumStamp (second :: third :: rest)
    else first :: second :: third :: rest
  | few => few

def pruneMotionSamples : StationaryMotionPolicy :=
  { self with
    motionSamples :=
      dropOldSamples (stampSec - self.config.exitEvidenceWindowSec) self.motionSamples }

def appendMotionSample (rawPosition : Vec2) : StationaryMotionPolicy :=
  if !stampSec.isFinite || !rawPosition.allFinite then self
  else match self.motionSamples.getLast? with
    | some newest =>
      if stampSec ≤ newest.stampSec + self.config.timestampEpsilonSec then self
      else pruneMotionSamples
        { self with motionSamples := self.motionSamples ++ [⟨stampSec, rawPosition⟩] } stampSec
    | none => pruneMotionSamples { self with motionSamples := [⟨stampSec, rawPosition⟩] } stampSec

def baseDecision : StationaryMotionDecision :=
  let writable := self.state == .moving && isReliableMeasurement input
  let decision : StationaryMotionDecision :=
    { state := self.state, constrainedPosition := input.filteredPosition
      allowLocalMapUpdate := writable, allowPersistentMapCommit := writable }
  match self.state with
  | .stationaryHold =>
    { decision with
      applyStationaryHold := true
      applyPositionConstraint := true
      constrainedPosition := self.anchorPosition
      allowLocalMapUpdate := false
      allowPersistentMapCommit := false }
  | .catchUp =>
    { decision with
      applyPositionConstraint := true
      allowLocalMapUpdate := false
      allowPersistentMapCommit := false }
  | .moving | .movingConfirm => decision

def recordObservation : StationaryMotionPolicy :=
  let stamped := { self with hasLastStamp := true, lastStampSec := input.stampSec }
  if isReliableMeasurement input then
    { stamped with hasLastRawPosition := true, lastRawPosition := input.rawPosition }
  else stamped

theorem recordObservation_frame {self : StationaryMotionPolicy}
    {input : StationaryMotionInput} :
    (self.recordObservation input).state = self.state ∧
      (self.recordObservation input).config = self.config ∧
      (self.recordObservation input).motionSamples = self.motionSamples ∧
      (self.recordObservation input).rawAnchorPosition = self.rawAnchorPosition ∧
      (self.recordObservation input).hasLastStamp = true ∧
      (self.recordObservation input).lastStampSec = input.stampSec := by
  unfold recordObservation
  dsimp only
  split_ifs <;> exact ⟨rfl, rfl, rfl, rfl, rfl, rfl⟩

section Norms

variable [EuclideanNorm] (self : StationaryMotionPolicy) (input : StationaryMotionInput)

def rawDeltaNorm : Scalar :=
  (if isReliableMeasurement input && self.hasLastRawPosition then
    input.rawPosition - self.lastRawPosition else {}).norm

def physicallyPlausible : Bool :=
  isReliableMeasurement input && self.hasLastRawPosition &&
    self.rawDeltaNorm input ≤ input.allowedPhysicalStepM + lengthEpsilon

def stationaryEvidence : Bool :=
  isReliableMeasurement input &&
    input.rawIncrementM ≤ self.config.enterMaxRawIncrementM + lengthEpsilon &&
    input.filteredVelocity.norm ≤ self.config.enterMaxSpeedMps + lengthEpsilon

def updateMoving : StationaryMotionPolicy × StationaryMotionDecision :=
  let evidence := self.stationaryEvidence input
  let counted := { self with
    stationaryEnterCount := if evidence then self.stationaryEnterCount + 1 else 0 }
  if self.config.enterConfirmFrames ≤ counted.stationaryEnterCount then
    let held := counted.enterStationary input
    (held, { held.baseDecision input with reason := "STATIONARY_CONFIRMED" })
  else
    (counted, { counted.baseDecision input with
      reason :=
        if evidence then "STATIONARY_ENTRY_PENDING"
        else if isReliableMeasurement input then "MOVING" else "UNRELIABLE_MEASUREMENT" })

def releaseGuard : StationaryMotionPolicy × StationaryMotionDecision :=
  let released := { self with
    state := .moving, stationaryEnterCount := 0, movementConfirmCount := 0
    accumulatedMotion := {}, confirmedPathLengthM := 0 }
  (released, { released.baseDecision input with
    state := released.state
    allowLocalMapUpdate := false
    allowPersistentMapCommit := false
    reason := "CATCH_UP_COMPLETE_RELEASE_GUARD" })

def updateCatchUp : StationaryMotionPolicy × StationaryMotionDecision :=
  let decision := self.baseDecision input
  if !isReliableMeasurement input then
    ({ self with catchUpCompleteCount := 0 },
      { decision with
        constrainedPosition := input.filteredPosition, reason := "CATCH_UP_WAIT_RELIABLE" })
  else
    let error := input.rawPosition - input.filteredPosition
    let step := error.norm.minOf self.config.catchUpMaxStepM
    let residual := Scalar.maxOf 0 (error.norm - step)
    let counted := { self with
      catchUpCompleteCount :=
        if residual ≤ self.config.catchUpCompleteErrorM + lengthEpsilon then
          self.catchUpCompleteCount + 1 else 0 }
    if self.config.catchUpConfirmFrames ≤ counted.catchUpCompleteCount then
      counted.releaseGuard input
    else
      (counted, { decision with
        constrainedPosition :=
          if 1.0e-12 < error.norm then input.filteredPosition + error.scale (step / error.norm)
          else decision.constrainedPosition
        catchUpStepM := step
        reason := "CATCH_UP_BOUNDED" })

def pathLength : List MotionSample → Scalar
  | first :: second :: rest =>
    (second.rawPosition - first.rawPosition).norm + pathLength (second :: rest)
  | _ => 0

variable (samples : List MotionSample)

def netMotion : Vec2 :=
  match samples.head?, samples.getLast? with
  | some oldest, some newest =>
    if 2 ≤ samples.length then newest.rawPosition - oldest.rawPosition else {}
  | _, _ => {}

def evidenceDuration : Scalar :=
  match samples.head?, samples.getLast? with
  | some oldest, some newest =>
    if 2 ≤ samples.length then newest.stampSec - oldest.stampSec else 0
  | _, _ => 0

def directionCoherence : Scalar :=
  if 1.0e-12 < pathLength samples then (netMotion samples).norm / pathLength samples else 0

def windowSpeed : Scalar :=
  if 1.0e-6 < evidenceDuration samples then
    (netMotion samples).norm / evidenceDuration samples else 0

variable (config : StationaryMotionPolicyConfig) (samples : List MotionSample)

def enoughSteps : Bool :=
  config.exitConfirmFrames ≤ (samples.length - 1 : Nat)

def confirmedByWindow : Bool :=
  enoughSteps config samples &&
    config.exitCumulativeMotionM ≤ (netMotion samples).norm + lengthEpsilon &&
    config.exitDirectionCosineMin ≤ directionCoherence samples + lengthEpsilon &&
    config.exitMinSpeedMps ≤ windowSpeed samples + lengthEpsilon

def anchorDrift : Scalar :=
  if input.rawPosition.allFinite then (input.rawPosition - self.rawAnchorPosition).norm else 0

def forcedAnchorRelease : Bool :=
  enoughSteps self.config samples &&
    self.config.exitForceAnchorDriftM ≤ self.anchorDrift input + lengthEpsilon

def updateWindow (credible : Bool) : StationaryMotionPolicy :=
  let windowed := if credible then self.appendMotionSample input.stampSec input.rawPosition
    else self.pruneMotionSamples input.stampSec
  { windowed with
    accumulatedMotion := netMotion windowed.motionSamples
    confirmedPathLengthM := pathLength windowed.motionSamples
    movementConfirmCount := windowed.motionSamples.length - 1 }

theorem updateWindow_frame {self : StationaryMotionPolicy} {input : StationaryMotionInput}
    (credible : Bool) :
    (self.updateWindow input credible).state = self.state ∧
      (self.updateWindow input credible).config = self.config ∧
      (self.updateWindow input credible).hasLastStamp = self.hasLastStamp ∧
      (self.updateWindow input credible).lastStampSec = self.lastStampSec := by
  -- A sample is added, or the window is only pruned.
  cases credible with
  | false => exact ⟨rfl, rfl, rfl, rfl⟩
  | true =>
    simp only [updateWindow, if_true, appendMotionSample]
    split_ifs
    · exact ⟨rfl, rfl, rfl, rfl⟩
    split
    · split_ifs <;> exact ⟨rfl, rfl, rfl, rfl⟩
    · exact ⟨rfl, rfl, rfl, rfl⟩

def updateHold (self : StationaryMotionPolicy) (input : StationaryMotionInput)
    (credible : Bool) : StationaryMotionPolicy × StationaryMotionDecision :=
  let windowed := self.updateWindow input credible
  let samples := windowed.motionSamples
  let started := credible &&
    self.config.exitMinIncrementM ≤ windowed.confirmedPathLengthM + lengthEpsilon
  let current := if windowed.state == .stationaryHold && started then
    windowed.beginMovementConfirmation input.stampSec else windowed
  if confirmedByWindow self.config samples || self.forcedAnchorRelease input samples then
    let released := { current with state := .catchUp, catchUpCompleteCount := 0 }
    (released, { released.baseDecision input with
      movementConfirmed := true
      startCatchUp := true
      constrainedPosition := input.filteredPosition
      reason := if confirmedByWindow self.config samples then "MOVEMENT_CONFIRMED_START_CATCH_UP"
        else "ANCHOR_DRIFT_FAILSAFE_START_CATCH_UP" })
  else if current.state == .movingConfirm then
    if self.config.movingConfirmTimeoutSec <
          input.stampSec - current.movementConfirmStartStampSec &&
        self.anchorDrift input < self.config.exitCumulativeMotionM &&
        directionCoherence samples < self.config.exitDirectionCosineMin then
      let rejected := current.rejectMovementEvidence input
      (rejected, { rejected.baseDecision input with reason := "DRIFT_ONLY_REJECTED" })
    else
      (current, { current.baseDecision input with
        reason := if credible then "MOVEMENT_CONFIRM_PENDING" else "MOVEMENT_CONFIRM_GAP" })
  else
    (current, { current.baseDecision input with
      reason := if isReliableMeasurement input then "STATIONARY_HOLD"
        else "UNRELIABLE_MOVE_EVIDENCE" })

def update (self : StationaryMotionPolicy) (input : StationaryMotionInput) :
    StationaryMotionPolicy × StationaryMotionDecision :=
  if !self.isFreshTimestamp input.stampSec then
    -- The answer to a stale stamp follows from the state that earlier observations left.
    (self, { self.baseDecision input with reason := "DUPLICATE_OR_NONFINITE_STAMP" })
  else
    let recorded := self.recordObservation input
    match self.state with
    | .moving => recorded.updateMoving input
    | .catchUp => recorded.updateCatchUp input
    | .stationaryHold | .movingConfirm =>
      recorded.updateHold input (self.physicallyPlausible input)

def machine :
    Machine StationaryMotionPolicy StationaryMotionInput StationaryMotionDecision where
  start := setConfig config
  step self input := self.update input

end Norms

end StationaryMotionPolicy
end NdtSlam
