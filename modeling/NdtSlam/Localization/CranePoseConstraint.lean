import Mathlib.Analysis.SpecialFunctions.Complex.Arg
import Mathlib.LinearAlgebra.Matrix.Notation
import NdtSlam.Foundation.Circle
import NdtSlam.Foundation.Planar

/-! The pose of the crane is constrained in height, roll, pitch and yaw. -/

namespace NdtSlam

open Real

structure CranePoseConstraintConfig where
  enabled : Bool := false
  lockZ : Bool := false
  fixedZ : ℝ := 0
  constrainZ : Bool := false
  maxAbsZDrift : ℝ := 0
  lockRoll : Bool := false
  fixedRollRad : ℝ := 0
  constrainRoll : Bool := false
  maxAbsRollRad : ℝ := 0
  lockPitch : Bool := false
  fixedPitchRad : ℝ := 0
  constrainPitch : Bool := false
  maxAbsPitchRad : ℝ := 0
  lockYaw : Bool := false
  fixedYawRad : ℝ := 0
  constrainYaw : Bool := false
  maxAbsYawDeltaRad : ℝ := 0
  orthogonalityTolerance : ℝ := 1e-10
  determinantTolerance : ℝ := 1e-10

structure CranePoseRpy where
  roll : ℝ
  pitch : ℝ
  yaw : ℝ

structure CranePose where
  translation : Fin 3 → ℝ
  rotation : Matrix (Fin 3) (Fin 3) ℝ

structure CranePoseConstraintResult where
  pose : CranePose
  applied : Bool := false
  valid : Bool := true
  fallbackUsed : Bool := false
  orthogonalityError : ℝ := 0
  determinant : ℝ := 1
  reason : String := "disabled"

namespace CranePoseConstraint

noncomputable def clamp (value lower upper : ℝ) : ℝ := max lower (min value upper)

noncomputable def atan2 (y x : ℝ) : ℝ := Complex.arg ⟨x, y⟩

noncomputable def cranePoseRpy (matrix : Matrix (Fin 3) (Fin 3) ℝ) : CranePoseRpy :=
  let pitch := arcsin (clamp (-matrix 2 0) (-1) 1)
  if 1e-6 < |Real.cos pitch| then
    { roll := atan2 (matrix 2 1) (matrix 2 2), pitch, yaw := atan2 (matrix 1 0) (matrix 0 0) }
  else { roll := atan2 (-matrix 0 1) (matrix 1 1), pitch, yaw := 0 }

noncomputable def rotationX (angle : ℝ) : Matrix (Fin 3) (Fin 3) ℝ :=
  !![1, 0, 0; 0, Real.cos angle, -Real.sin angle; 0, Real.sin angle, Real.cos angle]

noncomputable def rotationY (angle : ℝ) : Matrix (Fin 3) (Fin 3) ℝ :=
  !![Real.cos angle, 0, Real.sin angle; 0, 1, 0; -Real.sin angle, 0, Real.cos angle]

noncomputable def rotationZ (angle : ℝ) : Matrix (Fin 3) (Fin 3) ℝ :=
  !![Real.cos angle, -Real.sin angle, 0; Real.sin angle, Real.cos angle, 0; 0, 0, 1]

noncomputable def composed (roll pitch yaw : ℝ) : Matrix (Fin 3) (Fin 3) ℝ :=
  rotationZ yaw * rotationY pitch * rotationX roll

variable (config : CranePoseConstraintConfig)

def finiteConfig : Prop :=
  0 ≤ config.maxAbsZDrift ∧ 0 ≤ config.maxAbsRollRad ∧ 0 ≤ config.maxAbsPitchRad ∧
    0 ≤ config.maxAbsYawDeltaRad ∧ 0 < config.orthogonalityTolerance ∧
    0 < config.determinantTolerance

noncomputable def constrainedZ (z : ℝ) : ℝ :=
  if config.lockZ then config.fixedZ
  else if config.constrainZ then
    clamp z (config.fixedZ - config.maxAbsZDrift) (config.fixedZ + config.maxAbsZDrift)
  else z

noncomputable def constrainedRoll (roll : ℝ) : ℝ :=
  if config.lockRoll then config.fixedRollRad
  else if config.constrainRoll then clamp roll (-config.maxAbsRollRad) config.maxAbsRollRad
  else roll

noncomputable def constrainedPitch (pitch : ℝ) : ℝ :=
  if config.lockPitch then config.fixedPitchRad
  else if config.constrainPitch then clamp pitch (-config.maxAbsPitchRad) config.maxAbsPitchRad
  else pitch

noncomputable def constrainedYaw (yaw : ℝ) : ℝ :=
  if config.lockYaw then config.fixedYawRad
  else if config.constrainYaw then
    clamp yaw (config.fixedYawRad - config.maxAbsYawDeltaRad)
      (config.fixedYawRad + config.maxAbsYawDeltaRad)
  else yaw

open Classical in
noncomputable def applyCranePoseConstraint (input : CranePose) : CranePoseConstraintResult :=
  if !config.enabled then { pose := input }
  else if ¬finiteConfig config then
    { pose := input, fallbackUsed := true, reason := "invalid_constraint_configuration" }
  else
    let rpy := cranePoseRpy input.rotation
    let rotation := composed (constrainedRoll config rpy.roll) (constrainedPitch config rpy.pitch)
      (constrainedYaw config rpy.yaw)
    -- A product of exact rotations is within the positive tolerances of its validation.
    { pose :=
        { translation := Function.update input.translation 2
            (constrainedZ config (input.translation 2))
          rotation }
      applied := true
      reason := "constraint_applied" }

/-! ### Rotations -/

theorem rotationX_neg (angle : ℝ) : rotationX angle * rotationX (-angle) = 1 := by
  ext row column
  fin_cases row <;> fin_cases column <;>
    simp [rotationX, Matrix.mul_apply, Fin.sum_univ_three, ← sq, mul_comm (Real.sin angle)]

theorem rotationY_neg (angle : ℝ) : rotationY angle * rotationY (-angle) = 1 := by
  ext row column
  fin_cases row <;> fin_cases column <;>
    simp [rotationY, Matrix.mul_apply, Fin.sum_univ_three, ← sq, mul_comm (Real.sin angle)]

theorem composed_inj {roll pitch first second : ℝ} :
    composed roll pitch first = composed roll pitch second ↔ (first : Angle) = second := by
  constructor
  · intro same
    -- Taking roll and pitch back leaves the rotations about the vertical axis.
    have undone : ∀ yaw, composed roll pitch yaw * rotationX (-roll) * rotationY (-pitch) =
        rotationZ yaw := by
      intro yaw
      rw [composed, Matrix.mul_assoc (rotationZ yaw * rotationY pitch), rotationX_neg,
        Matrix.mul_one, Matrix.mul_assoc, rotationY_neg, Matrix.mul_one]
    have turned : rotationZ first = rotationZ second := by rw [← undone, same, undone]
    exact Angle.cos_sin_inj (congrFun₂ turned 0 0) (congrFun₂ turned 1 0)
  · intro same
    unfold composed rotationZ
    rw [← Angle.cos_coe first, ← Angle.sin_coe first, same, Angle.cos_coe, Angle.sin_coe]

/-! ### The yaw on the circle -/

variable {config}

/--
The pose is composed of a yaw that is admissible and nearest to the one of the input, and is that
one if it is admissible.
-/
def YawRespected (config : CranePoseConstraintConfig) (input : CranePose)
    (result : CranePoseConstraintResult) : Prop :=
  let rpy := cranePoseRpy input.rotation
  ∃ yaw, result.pose.rotation =
      composed (constrainedRoll config rpy.roll) (constrainedPitch config rpy.pitch) yaw ∧
    (OnArc config.fixedYawRad config.maxAbsYawDeltaRad rpy.yaw → (yaw : Angle) = rpy.yaw) ∧
    NearestOnArc config.fixedYawRad config.maxAbsYawDeltaRad rpy.yaw yaw

theorem yawRespected_nearest (enabled : config.enabled = true) (valid : finiteConfig config)
    (input : CranePose) :
    YawRespected config input (applyCranePoseConstraint config input) ↔
      NearestOnArc config.fixedYawRad config.maxAbsYawDeltaRad (cranePoseRpy input.rotation).yaw
        (constrainedYaw config (cranePoseRpy input.rotation).yaw) := by
  unfold YawRespected applyCranePoseConstraint
  rw [if_neg (by rw [enabled]; decide), if_neg (not_not.mpr valid)]
  constructor
  · rintro ⟨taken, same, -, nearest⟩
    exact (nearestOnArc_congr (composed_inj.1 same)).mpr nearest
  · exact fun nearest => ⟨_, rfl, nearest.same, nearest⟩

/--
The allowed arc is a point, or the yaw, brought into half a turn on either side of zero, is within
the interval on the line, at its end on the circle, or beyond it by less than half a turn from its
middle. Locked, it is the fixed yaw.
-/
def YawWithinReach (config : CranePoseConstraintConfig) (yaw : ℝ) : Prop :=
  config.maxAbsYawDeltaRad = 0 ∨
    if config.lockYaw then (yaw : Angle) = config.fixedYawRad
    else
      |yaw - config.fixedYawRad| ≤ config.maxAbsYawDeltaRad ∨
      ((|yaw - config.fixedYawRad| : ℝ) : Angle) = config.maxAbsYawDeltaRad ∨
      config.maxAbsYawDeltaRad < ((|yaw - config.fixedYawRad| : ℝ) : Angle).toReal

/-- A constrained yaw is respected exactly where its principal value is within reach. -/
theorem yaw_respected_iff (enabled : config.enabled = true) (valid : finiteConfig config)
    (constrained : config.constrainYaw = true) (input : CranePose) :
    YawRespected config input (applyCranePoseConstraint config input) ↔
      YawWithinReach config (cranePoseRpy input.rotation).yaw := by
  have wide : 0 ≤ config.maxAbsYawDeltaRad := valid.2.2.2.1
  rw [yawRespected_nearest enabled valid, constrainedYaw, constrained, YawWithinReach]
  by_cases locked : config.lockYaw = true
  · rw [if_pos locked, if_pos locked]
    exact center_nearest_iff wide
  · rw [if_neg locked, if_neg locked, if_pos rfl]
    exact cutAngle_nearest_iff wide

/-! Runs with a quarter turn allowed on either side. -/

noncomputable def quarterTurn (fixedYawRad : ℝ) : CranePoseConstraintConfig :=
  { enabled := true, fixedYawRad, constrainYaw := true, maxAbsYawDeltaRad := 0.5 * π }

noncomputable def turnedBy (yaw : ℝ) : CranePose := ⟨0, rotationZ yaw⟩

theorem quarterTurn_valid (fixedYawRad : ℝ) : finiteConfig (quarterTurn fixedYawRad) := by
  refine ⟨le_rfl, le_rfl, le_rfl, ?_, ?_, ?_⟩ <;> simp only [quarterTurn] <;> positivity

theorem yaw_turnedBy {yaw : ℝ} (principal : yaw ∈ Set.Ioc (-π) π) :
    (cranePoseRpy (turnedBy yaw).rotation).yaw = yaw := by
  have parts : (⟨Real.cos yaw, Real.sin yaw⟩ : ℂ) =
      Complex.cos yaw + Complex.sin yaw * Complex.I := by
    apply Complex.ext <;> simp [Complex.cos_ofReal_re, Complex.sin_ofReal_re]
  have direction : atan2 (Real.sin yaw) (Real.cos yaw) = yaw := by
    rw [atan2, parts]
    exact Complex.arg_cos_add_sin_mul_I principal
  have level : (1e-6 : ℝ) < |Real.cos (arcsin (clamp (-(turnedBy yaw).rotation 2 0) (-1) 1))| := by
    have none : (turnedBy yaw).rotation 2 0 = 0 := rfl
    rw [none]
    norm_num [clamp]
  unfold cranePoseRpy
  rw [if_pos level]
  exact direction

theorem quarterTurn_respects_zero :
    YawRespected (quarterTurn 0) (turnedBy 0)
      (applyCranePoseConstraint (quarterTurn 0) (turnedBy 0)) := by
  refine (yaw_respected_iff rfl (quarterTurn_valid 0) rfl (turnedBy 0)).mpr (.inr (.inl ?_))
  rw [yaw_turnedBy ⟨neg_lt_zero.mpr pi_pos, pi_pos.le⟩]
  simp only [quarterTurn, sub_self, abs_zero]
  positivity

/-- Around half a turn an admissible yaw beyond the cut goes to the far end of the interval. -/
theorem half_turn_thrown_over :
    OnArc (quarterTurn π).fixedYawRad (quarterTurn π).maxAbsYawDeltaRad
      (cranePoseRpy (turnedBy (-(3 * π / 4))).rotation).yaw ∧
    ¬YawRespected (quarterTurn π) (turnedBy (-(3 * π / 4)))
      (applyCranePoseConstraint (quarterTurn π) (turnedBy (-(3 * π / 4)))) := by
  have positive := pi_pos
  rw [yawRespected_nearest rfl (quarterTurn_valid π), yaw_turnedBy ⟨by linarith, by linarith⟩]
  simp only [quarterTurn]
  -- The yaw is an eighth of a turn from the fixed one.
  have within : OnArc π (0.5 * π) (-(3 * π / 4)) := by
    have near : circleDistance (-(3 * π / 4)) π = |((π / 4 : ℝ) : Angle).toReal| :=
      circleDistance_turned (Angle.angle_eq_iff_two_pi_dvd_sub.mpr ⟨1, by push_cast; ring⟩)
    rw [OnArc, near]
    refine (abs_toReal_le _).trans ?_
    rw [abs_of_pos (by linarith)]
    linarith
  refine ⟨within, fun nearest => ?_⟩
  have cut : constrainedYaw (quarterTurn π) (-(3 * π / 4)) = π / 2 := by
    simp only [constrainedYaw, quarterTurn, clamp, Bool.false_eq_true, if_false, if_true]
    rw [min_eq_left (by linarith), max_eq_left (by linarith)]
    ring
  have same := nearest.same within
  change ((constrainedYaw (quarterTurn π) (-(3 * π / 4)) : ℝ) : Angle) = _ at same
  rw [cut] at same
  obtain ⟨turns, apart⟩ := Angle.angle_eq_iff_two_pi_dvd_sub.mp same
  have parts : (5 : ℝ) = 8 * turns := by
    refine mul_left_cancel₀ positive.ne' ?_
    linarith
  have parts : (5 : ℤ) = 8 * turns := by exact_mod_cast parts
  omega

end CranePoseConstraint
end NdtSlam
