import NdtSlam.Motion.StationaryPolicy

/-! Which observations end a stationary hold, and when these are real measurements. -/

namespace NdtSlam.StationaryMotionPolicy

section Exits

variable [EuclideanNorm]

def holding (self : StationaryMotionPolicy) : Bool :=
  self.state == .stationaryHold || self.state == .movingConfirm

variable (event : Event StationaryMotionPolicy StationaryMotionInput)

def ExitsHold : Prop :=
  event.before.holding = true ∧ (event.before.update event.call).1.state = .catchUp

def RealEvidence : Prop :=
  event.before.isFreshTimestamp event.call.stampSec = true ∧
    isReliableMeasurement event.call = true ∧ event.before.physicallyPlausible event.call = true

def exitCriterion (self : StationaryMotionPolicy) (input : StationaryMotionInput)
    (samples : List MotionSample) : Bool :=
  confirmedByWindow self.config samples || self.forcedAnchorRelease input samples

/--
A fresh observation without a credible step meets the earlier window in a state ready to exit.
-/
def UnsupportedRelease : Prop :=
  event.before.holding = true ∧ event.before.isFreshTimestamp event.call.stampSec = true ∧
    event.before.physicallyPlausible event.call = false ∧
    event.before.exitCriterion event.call
      (event.before.pruneMotionSamples event.call.stampSec).motionSamples = true

section Steps

variable {self : StationaryMotionPolicy} {input : StationaryMotionInput}

theorem updateHold_exits (held : self.holding = true) (credible : Bool) :
    (self.updateHold input credible).1.state = .catchUp ↔
      self.exitCriterion input (self.updateWindow input credible).motionSamples = true := by
  have frame := (@updateWindow_frame _ self input credible).1
  -- Neither a hold nor a confirmation is a catch-up.
  have steady : self.state ≠ .catchUp := by
    intro catching
    simp [holding, catching] at held
  unfold updateHold exitCriterion
  dsimp only
  split_ifs with started released confirming rejected
  all_goals simp_all [beginMovementConfirmation, rejectMovementEvidence]

theorem update_exits (held : self.holding = true) :
    (self.update input).1.state = .catchUp ↔
      self.isFreshTimestamp input.stampSec = true ∧
        self.exitCriterion input ((self.recordObservation input).updateWindow input
          (self.physicallyPlausible input)).motionSamples = true := by
  obtain ⟨state, config, samples, anchor, -, -⟩ := @recordObservation_frame self input
  have heldLater : (self.recordObservation input).holding = true := by
    simpa [holding, state] using held
  have sameCriterion : ∀ window, (self.recordObservation input).exitCriterion input window =
      self.exitCriterion input window := by
    intro window
    unfold exitCriterion forcedAnchorRelease anchorDrift
    rw [config, anchor]
  have steady : self.state ≠ .catchUp := by
    intro catching
    simp [holding, catching] at held
  have exits := @updateHold_exits _ (self.recordObservation input) input heldLater
    (self.physicallyPlausible input)
  unfold update
  by_cases fresh : self.isFreshTimestamp input.stampSec = true
  · -- In both hold states the frame is digested by the same function.
    simp only [fresh, Bool.not_true, Bool.false_eq_true, if_false, true_and]
    rw [← sameCriterion, ← exits]
    cases stateIs : self.state with
    | moving => simp [holding, stateIs] at held
    | catchUp => exact absurd stateIs steady
    | stationaryHold => rfl
    | movingConfirm => rfl
  · simp [fresh, steady]

theorem exit_supported_iff (event : Event StationaryMotionPolicy StationaryMotionInput) :
    (ExitsHold event → RealEvidence event) ↔ ¬ UnsupportedRelease event := by
  obtain ⟨self, input⟩ := event
  -- Without a credible step the window is the earlier one, pruned.
  have pruned : self.physicallyPlausible input = false →
      ((self.recordObservation input).updateWindow input
        (self.physicallyPlausible input)).motionSamples =
      (self.pruneMotionSamples input.stampSec).motionSamples := by
    intro doubtful
    obtain ⟨-, config, samples, -, -, -⟩ := @recordObservation_frame self input
    simp [doubtful, updateWindow, pruneMotionSamples, config, samples]
  constructor
  · rintro supported ⟨held, fresh, doubtful, criterion⟩
    have exits : ExitsHold ⟨self, input⟩ :=
      ⟨held, (update_exits held).mpr ⟨fresh, by rw [pruned doubtful]; exact criterion⟩⟩
    have credible : self.physicallyPlausible input = true := (supported exits).2.2
    rw [doubtful] at credible
    exact absurd credible (by simp)
  · rintro supported ⟨held, exits⟩
    obtain ⟨fresh, criterion⟩ := (update_exits held).mp exits
    by_cases credible : self.physicallyPlausible input = true
    · -- Plausibility includes reliability.
      have reliable : isReliableMeasurement input = true := by
        simp only [physicallyPlausible, Bool.and_eq_true] at credible
        exact credible.1.1
      exact ⟨fresh, reliable, credible⟩
    · have doubtful : self.physicallyPlausible input = false := by simpa using credible
      rw [pruned doubtful] at criterion
      exact absurd ⟨held, fresh, doubtful, criterion⟩ supported

end Steps

/-- In a run every hold ends on real evidence exactly when no step is an unsupported release. -/
theorem exits_supported_iff (config : StationaryMotionPolicyConfig)
    (calls : List StationaryMotionInput) :
    (∀ event ∈ (machine config).trace calls, ExitsHold event → RealEvidence event) ↔
      ∀ event ∈ (machine config).trace calls, ¬ UnsupportedRelease event := by
  constructor
  · intro supported event member
    exact (exit_supported_iff event).mp (supported event member)
  · intro supported event member
    exact (exit_supported_iff event).mpr (supported event member)

end Exits

def slowObservation (stampSec position : Scalar) : StationaryMotionInput :=
  { stampSec, ndtConverged := true, ndtAccepted := true, registrationQualityValid := true
    rawPosition := ⟨position, 0⟩, rawIncrementM := 0.001, allowedPhysicalStepM := 0.25 }

theorem predicted_frame_ends_hold :
    ¬ ∀ [EuclideanNorm] (config : StationaryMotionPolicyConfig)
      (calls : List StationaryMotionInput),
      ∀ event ∈ (machine config).trace calls, ExitsHold event → RealEvidence event := by
  intro claimed
  -- One frame enters the hold, three fill the window, and the last lies five metres away.
  let earlier : List StationaryMotionInput :=
    [slowObservation 1.3 0.003, slowObservation 1.2 0.002, slowObservation 1.1 0.001,
      slowObservation 1 0]
  let predicted : StationaryMotionInput :=
    { slowObservation 1.4 5 with predictionOnly := true }
  have exits : @ExitsHold axisNorm
      ⟨(@machine axisNorm { enterConfirmFrames := 1 }).run earlier, predicted⟩ := by
    constructor <;> with_unfolding_all decide
  have real := @claimed axisNorm { enterConfirmFrames := 1 } (predicted :: earlier) _
    (List.mem_cons_self ..) exits
  exact absurd real.2.1 (by decide)

end NdtSlam.StationaryMotionPolicy
