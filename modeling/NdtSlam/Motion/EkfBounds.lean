import NdtSlam.Motion.EkfCovariance

/-! When the velocity and the output steps of the filter keep their limits over a whole run. -/

namespace NdtSlam

open Matrix

namespace CraneMotionEKF

structure PositiveLimits (config : CraneMotionEKFConfig ℝ) : Prop where
  speedX : 0 < config.maxSpeedX
  speedY : 0 < config.maxSpeedY
  speed : 0 < config.maxSpeedMps
  accelX : 0 < config.maxAccelX
  accelY : 0 < config.maxAccelY
  stepFactor : 0 < config.maxStepSafetyFactor
  stepMin : 0 < config.maxStepMinM
  stepMax : 0 < config.maxStepMaxM

structure VelocityBounded (config : CraneMotionEKFConfig ℝ) (velocity : Planar ℝ) : Prop where
  x : |velocity 0| ≤ config.maxSpeedX
  y : |velocity 1| ≤ config.maxSpeedY
  speed : planarNorm velocity ≤ config.maxSpeedMps

variable (config : CraneMotionEKFConfig ℝ) (filter : CraneMotionEKF ℝ)

noncomputable def movedOutput :
    CraneMotionCall ℝ → Option (ℝ × Planar ℝ)
  | .predictWithoutMeasurement poseTemplate stamp reason =>
    some (stamp, (filter.predictWithoutMeasurement config poseTemplate stamp reason).2)
  | .updateWithNDT frame => some (frame.stamp, (filter.updateWithNDT config frame).2)
  | _ => none

/-- A call leaves a bounded velocity behind, and moves the output of a started filter no further
than it may. -/
structure CallBounded (config : CraneMotionEKFConfig ℝ) (filter : CraneMotionEKF ℝ)
    (call : CraneMotionCall ℝ) : Prop where
  velocity : VelocityBounded config ((craneMotionMachine config).step filter call).1.x.velocity
  step : filter.initialized = true →
    ∀ stamp position, movedOutput config filter call = some (stamp, position) →
      planarNorm (position - filter.x.position)
        ≤ computeMaxOutputStep config (filter.sanitizeDt stamp)

noncomputable def predictedDisplacement (stamp : ℝ) : Planar ℝ :=
  (predictState config filter (filter.sanitizeDt stamp)).position - filter.x.position

noncomputable def frameDisplacement (frame : NdtFrame ℝ) : Planar ℝ :=
  (candidateState config filter frame).position - filter.x.position

def StepFits (dt : ℝ) (displacement : Planar ℝ) : Prop :=
  planarNorm displacement ≤ computeMaxOutputStep config dt ∨ 1.0e-9 ≤ planarNorm displacement

def SpeedFits (dt : ℝ) (displacement : Planar ℝ) : Prop :=
  planarNorm displacement ≤ computeMaxOutputStep config dt ∨
    planarNorm (boundAxes config fun axis =>
      displacement axis * (computeMaxOutputStep config dt / planarNorm displacement)
        / max dt 1.0e-3) ≤ config.maxSpeedMps

def LeftOut (frame : NdtFrame ℝ) : Prop :=
  (config.rejectHighFitness && config.ndtFitnessRejectThreshold < frame.fitness) = true ∨
    rejectsInnovation config filter frame = true

/-- The displacements that a call asks for can be limited as they have to be. -/
def CallFits :
    CraneMotionCall ℝ → Prop
  | .predictWithoutMeasurement _ stamp _ =>
    filter.initialized = true →
      StepFits config (filter.sanitizeDt stamp) (predictedDisplacement config filter stamp)
  | .updateWithNDT frame =>
    filter.initialized = true →
      (LeftOut config filter frame →
        StepFits config (filter.sanitizeDt frame.stamp)
          (predictedDisplacement config filter frame.stamp)) ∧
      (¬LeftOut config filter frame →
        StepFits config (filter.sanitizeDt frame.stamp) (frameDisplacement config filter frame) ∧
          SpeedFits config (filter.sanitizeDt frame.stamp) (frameDisplacement config filter frame))
  | _ => True

variable {config : CraneMotionEKFConfig ℝ}

/-! ### Bounded velocities -/

theorem boundAxes_within (positive : PositiveLimits config) (velocity : Planar ℝ) :
    |boundAxes config velocity 0| ≤ config.maxSpeedX ∧
      |boundAxes config velocity 1| ≤ config.maxSpeedY :=
  ⟨abs_stdClamp_le positive.speedX, abs_stdClamp_le positive.speedY⟩

theorem boundAxes_of_within {velocity : Planar ℝ} (x : |velocity 0| ≤ config.maxSpeedX)
    (y : |velocity 1| ≤ config.maxSpeedY) : boundAxes config velocity = velocity := by
  funext axis
  fin_cases axis
  · exact stdClamp_of_abs_le x
  · exact stdClamp_of_abs_le y

theorem VelocityBounded.scale {velocity : Planar ℝ} (bounded : VelocityBounded config velocity)
    {ratio : ℝ} (small : |ratio| ≤ 1) :
    VelocityBounded config fun axis => velocity axis * ratio := by
  -- Scaling by at most one shortens every coordinate, and the vector with them.
  have shorter : ∀ axis, |velocity axis * ratio| ≤ |velocity axis| := by
    intro axis
    rw [abs_mul]
    exact mul_le_of_le_one_right (abs_nonneg _) small
  exact ⟨(shorter 0).trans bounded.x, (shorter 1).trans bounded.y,
    (planarNorm_mono shorter).trans bounded.speed⟩

section

variable (positive : PositiveLimits config)
include positive

theorem VelocityBounded.zero :
    VelocityBounded config 0 := by
  constructor
  · simpa using positive.speedX.le
  · simpa using positive.speedY.le
  · simpa using positive.speed.le

theorem boundSpeed_bounded (velocity : Planar ℝ) :
    VelocityBounded config (boundSpeed config (boundAxes config velocity)) := by
  obtain ⟨x, y⟩ := boundAxes_within positive velocity
  generalize boundAxes config velocity = bounded at x y ⊢
  unfold boundSpeed
  by_cases fast : 0 < config.maxSpeedMps ∧ config.maxSpeedMps < planarNorm bounded
  · -- The ratio of the limit to the speed is below one, and scales the speed to the limit.
    have moving : 0 < planarNorm bounded := fast.1.trans fast.2
    have ratio : |config.maxSpeedMps / planarNorm bounded| ≤ 1 := by
      rw [abs_of_pos (div_pos fast.1 moving), div_le_one moving]
      exact fast.2.le
    have shorter : ∀ axis, |bounded axis * (config.maxSpeedMps / planarNorm bounded)|
        ≤ |bounded axis| := by
      intro axis
      rw [abs_mul]
      exact mul_le_of_le_one_right (abs_nonneg _) ratio
    simp only [if_pos fast]
    refine ⟨(shorter 0).trans x, (shorter 1).trans y, ?_⟩
    rw [planarNorm_mul, abs_of_pos (div_pos fast.1 moving), mul_div_cancel₀ _ moving.ne']
  · simp only [if_neg fast]
    exact ⟨x, y, not_lt.mp fun above => fast ⟨positive.speed, above⟩⟩

theorem candidateState_bounded (filter : CraneMotionEKF ℝ) (frame : NdtFrame ℝ) :
    VelocityBounded config (candidateState config filter frame).velocity :=
  boundSpeed_bounded positive _

/-! ### Limited steps -/

theorem computeMaxOutputStep_pos (dt : ℝ) :
    0 < computeMaxOutputStep config dt :=
  stdClamp_pos positive.stepMin positive.stepMax

theorem limitedDelta_norm {dt : ℝ} {displacement : Planar ℝ}
    (long : computeMaxOutputStep config dt < planarNorm displacement) :
    planarNorm (fun axis =>
      displacement axis * (computeMaxOutputStep config dt / planarNorm displacement))
        = computeMaxOutputStep config dt := by
  have allowed := computeMaxOutputStep_pos positive dt
  have moving : 0 < planarNorm displacement := allowed.trans long
  rw [planarNorm_mul, abs_of_pos (div_pos allowed moving), mul_div_cancel₀ _ moving.ne']

theorem enforceOutputStep_bounded (previousPos : Planar ℝ) (dt : ℝ) {state : MotionState ℝ}
    (bounded : VelocityBounded config state.velocity) :
    (planarNorm ((enforceOutputStep config previousPos dt state).state.position - previousPos)
        ≤ computeMaxOutputStep config dt ∧
      VelocityBounded config (enforceOutputStep config previousPos dt state).state.velocity) ↔
      StepFits config dt (state.position - previousPos) ∧
        SpeedFits config dt (state.position - previousPos) := by
  unfold enforceOutputStep
  by_cases short : planarNorm (state.position - previousPos) ≤ computeMaxOutputStep config dt
  · simp only [if_pos (Or.inl short)]
    exact ⟨fun _ => ⟨.inl short, .inl short⟩, fun _ => ⟨short, bounded⟩⟩
  · by_cases tiny : planarNorm (state.position - previousPos) < 1.0e-9
    · -- The displacement passes for none, and stays too long.
      simp only [if_pos (Or.inr tiny)]
      exact ⟨fun limits => absurd limits.1 short,
        fun fits => fits.1.elim (absurd · short) fun long => absurd tiny (not_lt.mpr long)⟩
    · -- The position is one longest step away, and the velocity follows from that step.
      simp only [if_neg (not_or.mpr ⟨short, tiny⟩)]
      have step := limitedDelta_norm positive (not_le.mp short)
      constructor
      · intro limits
        exact ⟨.inr (not_lt.mp tiny), .inr limits.2.speed⟩
      · intro fits
        obtain ⟨x, y⟩ := boundAxes_within positive fun axis =>
          (state.position - previousPos) axis * (computeMaxOutputStep config dt
            / planarNorm (state.position - previousPos)) / max dt 1.0e-3
        refine ⟨?_, x, y, fits.2.resolve_left short⟩
        rw [add_sub_cancel_left]
        exact step.le

end

/-! ### Predictions -/

variable (filter : CraneMotionEKF ℝ)

theorem sanitizeDt_range (stamp : ℝ) :
    0 < filter.sanitizeDt stamp ∧ filter.sanitizeDt stamp ≤ 1 := by
  unfold sanitizeDt
  by_cases outside : stamp - filter.lastStamp ≤ 1.0e-4 ∨ 1 < stamp - filter.lastStamp
  · simp only [if_pos outside]
    norm_num
  · simp only [if_neg outside]
    rw [not_or, not_le, not_lt] at outside
    exact ⟨lt_trans (by norm_num) outside.1, outside.2⟩

theorem predictedDisplacement_eq (stamp : ℝ) (axis : Fin 2) :
    predictedDisplacement config filter stamp axis =
      (predictState config filter (filter.sanitizeDt stamp)).velocity axis
        * max (filter.sanitizeDt stamp) 1.0e-3 := by
  have step : boundedDt (filter.sanitizeDt stamp) = max (filter.sanitizeDt stamp) 1.0e-3 := by
    unfold boundedDt
    rw [min_eq_left (sanitizeDt_range filter stamp).2, max_comm]
  rw [← step]
  show filter.x.position axis + boundedDt (filter.sanitizeDt stamp) * _ - filter.x.position axis = _
  rw [add_sub_cancel_left, mul_comm]
  rfl

theorem predictedDisplacement_speedFits (positive : PositiveLimits config)
    (filter : CraneMotionEKF ℝ) (stamp : ℝ) :
    SpeedFits config (filter.sanitizeDt stamp) (predictedDisplacement config filter stamp) := by
  have bounded : VelocityBounded config
      (predictState config filter (filter.sanitizeDt stamp)).velocity :=
    boundSpeed_bounded positive _
  by_cases short : planarNorm (predictedDisplacement config filter stamp)
      ≤ computeMaxOutputStep config (filter.sanitizeDt stamp)
  · exact .inl short
  · right
    -- The limited step gives back a part of the velocity that it came from.
    have allowed := computeMaxOutputStep_pos positive (filter.sanitizeDt stamp)
    have moving := allowed.trans (not_le.mp short)
    have time : max (filter.sanitizeDt stamp) 1.0e-3 ≠ 0 :=
      (lt_max_of_lt_left (sanitizeDt_range filter stamp).1).ne'
    have part := @VelocityBounded.scale config _ bounded
      (computeMaxOutputStep config (filter.sanitizeDt stamp)
        / planarNorm (predictedDisplacement config filter stamp)) (by
      rw [abs_of_pos (div_pos allowed moving), div_le_one moving]
      exact (not_le.mp short).le)
    have same : (fun axis => predictedDisplacement config filter stamp axis
        * (computeMaxOutputStep config (filter.sanitizeDt stamp)
          / planarNorm (predictedDisplacement config filter stamp))
        / max (filter.sanitizeDt stamp) 1.0e-3) = fun axis =>
        (predictState config filter (filter.sanitizeDt stamp)).velocity axis
          * (computeMaxOutputStep config (filter.sanitizeDt stamp)
            / planarNorm (predictedDisplacement config filter stamp)) := by
      funext axis
      rw [predictedDisplacement_eq, mul_right_comm, mul_div_cancel_right₀ _ time]
    rw [same, boundAxes_of_within part.x part.y]
    exact part.speed

theorem prediction_bounded (positive : PositiveLimits config) (filter : CraneMotionEKF ℝ)
    (stamp : ℝ) :
    (planarNorm ((enforceOutputStep config filter.x.position (filter.sanitizeDt stamp)
          (predictState config filter (filter.sanitizeDt stamp))).state.position
            - filter.x.position) ≤ computeMaxOutputStep config (filter.sanitizeDt stamp) ∧
      VelocityBounded config (enforceOutputStep config filter.x.position (filter.sanitizeDt stamp)
        (predictState config filter (filter.sanitizeDt stamp))).state.velocity) ↔
      StepFits config (filter.sanitizeDt stamp) (predictedDisplacement config filter stamp) := by
  rw [enforceOutputStep_bounded positive _ _ (boundSpeed_bounded positive _)]
  exact and_iff_left (predictedDisplacement_speedFits positive filter stamp)

/-! ### Calls -/

@[simp] theorem maybeRecover_x :
    (maybeRecover config filter).x = filter.x := by
  unfold maybeRecover
  split_ifs
  · rfl
  · rfl

@[simp] theorem countFrame_x :
    (countFrame config filter).x = filter.x := by
  unfold countFrame
  split_ifs
  · rw [maybeRecover_x]
  · rfl

@[simp] theorem rateFrame_x (fitness : ℝ) :
    (rateFrame config filter fitness).x = filter.x := by
  unfold rateFrame
  split_ifs
  · rfl
  · rfl

@[simp] theorem recoverRated_x :
    (recoverRated config filter).x = filter.x := by
  unfold recoverRated
  split_ifs
  · rw [maybeRecover_x]
  · rfl

variable {filter : CraneMotionEKF ℝ}

theorem predictWithoutMeasurement_x (started : filter.initialized = true) (poseTemplate : Planar ℝ)
    (stamp : ℝ) (reason : String) :
    (filter.predictWithoutMeasurement config poseTemplate stamp reason).1.x
        = (enforceOutputStep config filter.x.position (filter.sanitizeDt stamp)
          (predictState config filter (filter.sanitizeDt stamp))).state ∧
      (filter.predictWithoutMeasurement config poseTemplate stamp reason).2
        = (filter.predictWithoutMeasurement config poseTemplate stamp reason).1.x.position := by
  unfold predictWithoutMeasurement
  rw [if_neg (by simp [started])]
  exact ⟨by simp, rfl⟩

theorem updateWithNDT_leftOut (started : filter.initialized = true) {frame : NdtFrame ℝ}
    (leftOut : LeftOut config filter frame) :
    (filter.updateWithNDT config frame).1.x
        = (enforceOutputStep config filter.x.position (filter.sanitizeDt frame.stamp)
          (predictState config filter (filter.sanitizeDt frame.stamp))).state ∧
      (filter.updateWithNDT config frame).2
        = (filter.updateWithNDT config frame).1.x.position := by
  unfold updateWithNDT
  rw [if_neg (by simp [started])]
  by_cases unfit :
      (config.rejectHighFitness && config.ndtFitnessRejectThreshold < frame.fitness) = true
  · simp only [if_pos unfit]
    exact @predictWithoutMeasurement_x config (filter.noteHighFitness frame) started
      frame.poseTemplate frame.stamp "HIGH_FITNESS"
  · simp only [if_neg unfit, if_pos (leftOut.resolve_left unfit)]
    exact ⟨by simp [rejectFrame], trivial⟩

theorem updateWithNDT_takenIn (started : filter.initialized = true) {frame : NdtFrame ℝ}
    (takenIn : ¬LeftOut config filter frame) :
    (filter.updateWithNDT config frame).1.x
        = (enforceOutputStep config filter.x.position (filter.sanitizeDt frame.stamp)
          (candidateState config filter frame)).state ∧
      (filter.updateWithNDT config frame).2
        = (filter.updateWithNDT config frame).1.x.position := by
  unfold updateWithNDT
  rw [if_neg (by simp [started])]
  simp only [if_neg fun unfit => takenIn (.inl unfit),
    if_neg fun rejected => takenIn (.inr rejected)]
  exact ⟨by simp [acceptFrame, correctFrame], trivial⟩

theorem callBounded_of_step {call : CraneMotionCall ℝ} (started : filter.initialized = true)
    {stamp : ℝ} {position : Planar ℝ}
    (moved : movedOutput config filter call = some (stamp, position)) {state : MotionState ℝ}
    (reached : ((craneMotionMachine config).step filter call).1.x = state)
    (answered : position = ((craneMotionMachine config).step filter call).1.x.position) :
    CallBounded config filter call ↔
      planarNorm (state.position - filter.x.position)
          ≤ computeMaxOutputStep config (filter.sanitizeDt stamp) ∧
        VelocityBounded config state.velocity := by
  subst reached answered
  constructor
  · intro bounded
    exact ⟨bounded.step started _ _ moved, bounded.velocity⟩
  · rintro ⟨step, velocity⟩
    refine ⟨velocity, fun _ stamp' position' moved' => ?_⟩
    obtain ⟨rfl, rfl⟩ := Prod.mk.inj (Option.some.inj (moved.symm.trans moved'))
    exact step

theorem callBounded_of_velocity {call : CraneMotionCall ℝ}
    (still : filter.initialized = true → movedOutput config filter call = none)
    (velocity : VelocityBounded config
      ((craneMotionMachine config).step filter call).1.x.velocity) :
    CallBounded config filter call := by
  refine ⟨velocity, fun started stamp position moved => ?_⟩
  rw [still started] at moved
  cases moved

theorem callBounded_iff (positive : PositiveLimits config)
    (bounded : VelocityBounded config filter.x.velocity) (call : CraneMotionCall ℝ) :
    CallBounded config filter call ↔ CallFits config filter call := by
  have rest := VelocityBounded.zero positive
  cases call with
  | initializeAt firstPose stamp =>
    exact iff_of_true (callBounded_of_velocity (fun _ => rfl) rest) trivial
  | predictWithoutMeasurement poseTemplate stamp reason =>
    by_cases started : filter.initialized = true
    · obtain ⟨reached, answered⟩ := predictWithoutMeasurement_x started poseTemplate stamp reason
      rw [@callBounded_of_step config filter (.predictWithoutMeasurement poseTemplate stamp reason)
        started _ _ rfl _ reached answered, prediction_bounded positive]
      exact ⟨fun fits _ => fits, fun fits => fits started⟩
    · -- A filter that has not started keeps its state.
      refine iff_of_true (callBounded_of_velocity (fun now => absurd now started) ?_)
        fun now => absurd now started
      simpa [craneMotionMachine, predictWithoutMeasurement, started] using bounded
  | updateWithNDT frame =>
    by_cases started : filter.initialized = true
    · by_cases leftOut : LeftOut config filter frame
      · obtain ⟨reached, answered⟩ := updateWithNDT_leftOut started leftOut
        rw [@callBounded_of_step config filter (.updateWithNDT frame) started _ _ rfl _ reached
          answered, prediction_bounded positive]
        exact ⟨fun fits _ => ⟨fun _ => fits, absurd leftOut⟩,
          fun fits => (fits started).1 leftOut⟩
      · obtain ⟨reached, answered⟩ := updateWithNDT_takenIn started leftOut
        rw [@callBounded_of_step config filter (.updateWithNDT frame) started _ _ rfl _ reached
          answered,
          enforceOutputStep_bounded positive _ _ (candidateState_bounded positive filter frame)]
        exact ⟨fun fits _ => ⟨(absurd · leftOut), fun _ => fits⟩,
          fun fits => (fits started).2 leftOut⟩
    · -- The first frame starts the filter at rest.
      refine iff_of_true (callBounded_of_velocity (fun now => absurd now started) ?_)
        fun now => absurd now started
      simpa [craneMotionMachine, updateWithNDT, started, initializeAt] using rest
  | applyStationaryConstraint poseTemplate anchorPosition stamp =>
    refine iff_of_true (callBounded_of_velocity (fun _ => rfl) ?_) trivial
    by_cases started : filter.initialized = true
    · simpa [craneMotionMachine, applyStationaryConstraint, started] using rest
    · simpa [craneMotionMachine, applyStationaryConstraint, started] using bounded
  | applyZeroVelocityConstraint =>
    refine iff_of_true (callBounded_of_velocity (fun _ => rfl) ?_) trivial
    by_cases started : filter.initialized = true
    · simpa [craneMotionMachine, applyZeroVelocityConstraint, started] using rest
    · simpa [craneMotionMachine, applyZeroVelocityConstraint, started] using bounded

/--
All calls of a run keep the limits exactly if the displacements that they ask for can be limited
as they have to be.
-/
theorem limits_kept (config : CraneMotionEKFConfig ℝ) (positive : PositiveLimits config)
    (calls : List (CraneMotionCall ℝ)) :
    (∀ event ∈ (craneMotionMachine config).trace calls,
        CallBounded config event.before event.call) ↔
      ∀ event ∈ (craneMotionMachine config).trace calls,
        CallFits config event.before event.call := by
  -- A run of bounded calls leads to a bounded velocity, on which the next call is decided.
  have general : ((∀ event ∈ (craneMotionMachine config).trace calls,
        CallBounded config event.before event.call) ↔
      ∀ event ∈ (craneMotionMachine config).trace calls,
        CallFits config event.before event.call) ∧
      ((∀ event ∈ (craneMotionMachine config).trace calls,
        CallBounded config event.before event.call) →
        VelocityBounded config ((craneMotionMachine config).run calls).x.velocity) := by
    induction calls with
    | nil => exact ⟨by simp [Machine.trace], fun _ => VelocityBounded.zero positive⟩
    | cons call older ih =>
      obtain ⟨same, reached⟩ := ih
      have decided := fun bounded => callBounded_iff positive (reached bounded) call
      simp only [Machine.trace, List.forall_mem_cons]
      refine ⟨⟨fun bounded => ?_, fun fits => ?_⟩, fun bounded => bounded.1.velocity⟩
      · exact ⟨(decided bounded.2).mp bounded.1, same.mp bounded.2⟩
      · have bounded := same.mpr fits.2
        exact ⟨(decided bounded).mpr fits.1, bounded⟩
  exact general.1

/-! ### Two short runs -/

noncomputable def firstFrame (x : ℝ) : NdtFrame ℝ :=
  { pose := ![x, 0], fitness := 0, poseTemplate := 0, stamp := 0.1 }

theorem firstFrame_takenIn (x : ℝ) :
    ¬LeftOut {} (initializeAt {} 0 0) (firstFrame x) := by
  -- Its fitness is below every threshold.
  rintro (unfit | rejected)
  · norm_num [firstFrame] at unfit
  · norm_num [rejectsInnovation, firstFrame] at rejected

theorem gain_axes (position both velocity : ℝ) {noise : ℝ} (seen : position + noise ≠ 0) :
    gain (fromBlocks (position • 1) (both • 1) (both • 1) (velocity • 1)) (noise • 1)
      = fromRows ((position / (position + noise)) • (1 : Matrix (Fin 2) (Fin 2) ℝ))
        ((both / (position + noise)) • 1) := by
  unfold gain
  rw [inverse2_eq, seen_block, toBlocks_fromBlocks₁₁, ← add_smul]
  have inverse : ((position + noise) • (1 : Matrix (Fin 2) (Fin 2) ℝ))⁻¹
      = (position + noise)⁻¹ • 1 := by
    apply inv_eq_left_inv
    rw [Matrix.smul_mul, Matrix.one_mul, smul_smul, inv_mul_cancel₀ seen, one_smul]
  rw [inverse, seen_column, fromRows_mul]
  simp [smul_smul, div_eq_inv_mul]

theorem predictState_start (dt : ℝ) :
    predictState ({} : CraneMotionEKFConfig ℝ) (initializeAt {} 0 0) dt = ⟨0, 0⟩ := by
  have rest : boundAxes ({} : CraneMotionEKFConfig ℝ) (0 : Planar ℝ) = 0 := by
    rw [boundAxes_of_within (by norm_num) (by norm_num)]
  have still : boundSpeed ({} : CraneMotionEKFConfig ℝ) (0 : Planar ℝ) = 0 := by
    unfold boundSpeed
    rw [planarNorm_zero, if_neg (by norm_num)]
  unfold predictState
  simp only [initializeAt, rest, still]
  congr 1
  funext axis
  simp

theorem firstFrame_displacement {x : ℝ} (within : |x| ≤ 0.35) :
    frameDisplacement {} (initializeAt {} 0 0) (firstFrame x)
      = ![1.0250075 / 1.0450075 * x, 0] := by
  have noise : measurementCovariance ({} : CraneMotionEKFConfig ℝ) (firstFrame x)
      = (0.02 : ℝ) • 1 := by
    norm_num [measurementCovariance, measurementR, firstFrame, computeSlowFrameExtraR, stdClamp]
  -- The innovation is within the gate.
  have innovation : (gateInnovation ({} : CraneMotionEKFConfig ℝ) (firstFrame x) 0
      (frameInnovation {} (initializeAt {} 0 0) (firstFrame x))).1 = ![x, 0] := by
    have near := stdClamp_of_abs_le within
    have still : stdClamp (0 : ℝ) (-0.35) 0.35 = 0 := stdClamp_of_abs_le (by norm_num)
    unfold frameInnovation
    rw [predictState_start]
    simp [gateInnovation, directionalGate, firstFrame, near, still]
  unfold frameDisplacement candidateState
  dsimp only
  rw [predictState_start, innovation, noise]
  show (MotionState.correct _ (gain (predictCovariance {} (initializeAt {} 0 0)
    (sanitizeDt (initializeAt {} 0 0) 0.1)) _) _).position - 0 = _
  rw [predictCovariance_start, gain_axes _ _ _ (by norm_num), sub_zero]
  funext axis
  fin_cases axis <;> norm_num [MotionState.correct, fromRows_mulVec, smul_mulVec]

theorem computeMaxOutputStep_default (dt : ℝ) :
    0.08 ≤ computeMaxOutputStep ({} : CraneMotionEKFConfig ℝ) dt ∧
      computeMaxOutputStep ({} : CraneMotionEKFConfig ℝ) dt ≤ 0.25 :=
  ⟨le_stdClamp (by norm_num), stdClamp_le (by norm_num)⟩

theorem default_positiveLimits : PositiveLimits {} := by
  constructor <;> norm_num

theorem near_frame_keeps_limits : PositiveLimits {} ∧
    ∀ event ∈ (craneMotionMachine ({} : CraneMotionEKFConfig ℝ)).trace
        [.updateWithNDT (firstFrame 0.05), .initializeAt 0 0],
      CallBounded {} event.before event.call := by
  refine ⟨default_positiveLimits, (limits_kept {} default_positiveLimits _).mpr ?_⟩
  have short : planarNorm (frameDisplacement {} (initializeAt {} 0 0) (firstFrame 0.05))
      ≤ computeMaxOutputStep {} (sanitizeDt (initializeAt {} 0 0) (firstFrame 0.05).stamp) := by
    refine le_trans ?_ (computeMaxOutputStep_default _).1
    rw [firstFrame_displacement (by norm_num [abs_le]), planarNorm_first]
    norm_num [abs_le]
  simp only [Machine.trace, List.forall_mem_cons, List.not_mem_nil, false_imp_iff, implies_true,
    and_true, CallFits]
  intro _
  exact ⟨(absurd · (firstFrame_takenIn 0.05)), fun _ => ⟨.inl short, .inl short⟩⟩

theorem far_frame_breaks_speed_limit :
    ¬∀ event ∈ (craneMotionMachine ({} : CraneMotionEKFConfig ℝ)).trace
        [.updateWithNDT (firstFrame 0.3), .initializeAt 0 0],
      CallBounded {} event.before event.call := by
  intro bounded
  have fits : CallFits {} (initializeAt {} 0 0) (.updateWithNDT (firstFrame 0.3)) :=
    (callBounded_iff default_positiveLimits (VelocityBounded.zero default_positiveLimits) _).mp
      (bounded _ List.mem_cons_self)
  have speed := ((fits rfl).2 (firstFrame_takenIn 0.3)).2
  obtain ⟨lower, upper⟩ := computeMaxOutputStep_default
    (sanitizeDt (initializeAt {} 0 0) (firstFrame 0.3).stamp)
  have time : max (sanitizeDt (initializeAt {} 0 0) (firstFrame 0.3).stamp) (1.0e-3 : ℝ) = 0.1 := by
    norm_num [sanitizeDt, initializeAt, firstFrame]
  unfold SpeedFits at speed
  rw [firstFrame_displacement (by norm_num [abs_le]), planarNorm_first, time] at speed
  generalize computeMaxOutputStep ({} : CraneMotionEKFConfig ℝ) _ = longest
    at speed lower upper
  rcases speed with short | slow
  · norm_num [abs_of_pos] at short
    linarith
  · -- The longest step takes a tenth of a second, at more than half a metre per second.
    have first := (abs_first_le_planarNorm _).trans slow
    have fast : (0.8 : ℝ) ≤ stdClamp (1.0250075 / 1.0450075 * 0.3
        * (longest / |1.0250075 / 1.0450075 * 0.3|) / 0.1) (-2) 2 := by
      refine le_stdClamp_of_le ?_ (by norm_num)
      rw [abs_of_pos (by norm_num), mul_div_cancel₀ _ (by norm_num), le_div_iff₀ (by norm_num)]
      norm_num at lower ⊢
      exact lower
    have slow' := (le_abs_self _).trans first
    norm_num [boundAxes] at slow' fast
    linarith

end CraneMotionEKF
end NdtSlam
