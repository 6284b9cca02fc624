import NdtSlam.Foundation.Covariance
import NdtSlam.Motion.CraneMotionEkf

/-! When the covariance of the filter stays a covariance over a whole run. -/

namespace NdtSlam

open Matrix

namespace CraneMotionEKF

structure PositiveNoise (config : CraneMotionEKFConfig ℝ) : Prop where
  position : 0 < config.qPos
  velocity : 0 < config.qVel

variable (config : CraneMotionEKFConfig ℝ)

def MeasurementDefinite : CraneMotionCall ℝ → Prop
  | .updateWithNDT frame => (measurementCovariance config frame).PosDef
  | _ => True

variable (filter : CraneMotionEKF ℝ)

noncomputable def innovationCovariances : CraneMotionCall ℝ → List (Matrix (Fin 2) (Fin 2) ℝ)
  | .updateWithNDT frame => [innovationCovariance config filter frame]
  | .applyStationaryConstraint _ _ _ =>
    [measurementMatrix ℝ * filter.P * (measurementMatrix ℝ)ᵀ
      + max 1.0e-9 config.stationaryPositionHoldVariance • 1]
  | _ => []

structure CallSound (config : CraneMotionEKFConfig ℝ) (filter : CraneMotionEKF ℝ)
    (call : CraneMotionCall ℝ) : Prop where
  covariance : ((craneMotionMachine config).step filter call).1.P.PosSemidef
  nis : 0 ≤ ((craneMotionMachine config).step filter call).1.status.nis
  invertible : ∀ S ∈ innovationCovariances config filter call, IsUnit S.det

def BoundFits (velocity explained : Matrix (Fin 2) (Fin 2) ℝ) (bound : ℝ) : Prop :=
  explained 0 0 ≤ min (velocity 0 0) bound ∧ explained 1 1 ≤ min (velocity 1 1) bound ∧
    (velocity 0 1 - explained 0 1) ^ 2
      ≤ (min (velocity 0 0) bound - explained 0 0) * (min (velocity 1 1) bound - explained 1 1)

noncomputable def explainedVelocity (position : Matrix (Fin 2) (Fin 2) ℝ) :
    Matrix (Fin 2) (Fin 2) ℝ :=
  filter.P.toBlocks₁₂ᵀ * position⁻¹ * filter.P.toBlocks₁₂

/-- The call does not bound the velocity variances below what the rest of the state needs. -/
def EditFits :
    CraneMotionCall ℝ → Prop
  | .applyZeroVelocityConstraint =>
    filter.initialized = true →
      BoundFits filter.P.toBlocks₂₂ (explainedVelocity filter filter.P.toBlocks₁₁) 0.0004
  | .applyStationaryConstraint _ _ _ =>
    filter.initialized = true →
      BoundFits (filter.P.toBlocks₂₂ - explainedVelocity filter (filter.P.toBlocks₁₁
        + max 1.0e-9 config.stationaryPositionHoldVariance • 1)) 0
        (max 1.0e-9 config.stationaryVelocityHoldVariance)
  | _ => True

structure Regular (P : Matrix MotionIndex MotionIndex ℝ) : Prop where
  covariance : P.PosSemidef
  position : P.toBlocks₁₁.PosDef

/-! ### Predictions and measurements -/

theorem inverse2_eq (S : Matrix (Fin 2) (Fin 2) ℝ) : inverse2 S = S⁻¹ := by
  rw [inv_def, adjugate_fin_two, det_fin_two, Ring.inverse_eq_inv']
  rfl

variable (P : Matrix MotionIndex MotionIndex ℝ)

theorem seen_column {A B C D : Matrix (Fin 2) (Fin 2) ℝ} :
    fromBlocks A B C D * (measurementMatrix ℝ)ᵀ = fromRows A C := by
  simp [measurementMatrix, transpose_fromCols, fromBlocks_mul_fromRows]

theorem seen_block :
    measurementMatrix ℝ * P * (measurementMatrix ℝ)ᵀ = P.toBlocks₁₁ := by
  conv_lhs => rw [← fromBlocks_toBlocks P]
  simp [measurementMatrix, fromCols_mul_fromBlocks, transpose_fromCols, fromCols_mul_fromRows]

theorem josephUpdate_eq (R : Matrix (Fin 2) (Fin 2) ℝ) :
    josephUpdate P R = Covariance.joseph P R (measurementMatrix ℝ)
      (P * (measurementMatrix ℝ)ᵀ
        * (measurementMatrix ℝ * P * (measurementMatrix ℝ)ᵀ + R)⁻¹) := by
  unfold josephUpdate gain Covariance.joseph
  rw [inverse2_eq]

variable {P : Matrix MotionIndex MotionIndex ℝ}

theorem josephUpdate_blocks {R : Matrix (Fin 2) (Fin 2) ℝ} (covariance : P.PosSemidef)
    (noise : R.PosDef) :
    (josephUpdate P R).toBlocks₁₁
        = P.toBlocks₁₁ - P.toBlocks₁₁ * (P.toBlocks₁₁ + R)⁻¹ * P.toBlocks₁₁ ∧
      (josephUpdate P R).toBlocks₂₂
        = P.toBlocks₂₂ - P.toBlocks₁₂ᵀ * (P.toBlocks₁₁ + R)⁻¹ * P.toBlocks₁₂ := by
  rw [josephUpdate_eq, Covariance.joseph_optimal covariance noise, seen_block]
  have blocks := Covariance.eq_fromBlocks covariance
  generalize P.toBlocks₁₁ = A at blocks ⊢
  generalize P.toBlocks₁₂ = B at blocks ⊢
  generalize P.toBlocks₂₂ = D at blocks ⊢
  -- Seeing the position picks the first block column, and the first block row.
  have column : P * (measurementMatrix ℝ)ᵀ = fromRows A Bᵀ := by rw [blocks, seen_column]
  have row : measurementMatrix ℝ * P = fromCols A B := by
    rw [blocks]
    simp [measurementMatrix, fromCols_mul_fromBlocks]
  rw [column, row, blocks, fromRows_mul, fromRows_mul_fromCols]
  exact ⟨rfl, rfl⟩

theorem josephUpdate_regular
    {R : Matrix (Fin 2) (Fin 2) ℝ} (regular : Regular P) (noise : R.PosDef) :
    Regular (josephUpdate P R) := by
  constructor
  · rw [josephUpdate_eq]
    exact Covariance.joseph_posSemidef regular.covariance noise.posSemidef _ _
  · rw [(josephUpdate_blocks regular.covariance noise).1]
    exact Covariance.measured_posDef regular.position noise

theorem axisCovariance_regular {position velocity : ℝ} (first : 0 < position)
    (second : 0 < velocity) : Regular (axisCovariance position velocity) := by
  have definite : (position • (1 : Matrix (Fin 2) (Fin 2) ℝ)).PosDef := PosDef.one.smul first
  constructor
  · unfold axisCovariance
    have fits := Covariance.fromBlocks_posSemidef 0 (velocity • (1 : Matrix (Fin 2) (Fin 2) ℝ))
      definite
    rw [transpose_zero] at fits
    refine fits.mpr ?_
    simpa using (PosDef.one.smul second).posSemidef
  · exact definite

theorem boundedDt_pos (dt : ℝ) : 0 < boundedDt dt :=
  lt_max_of_lt_left (by norm_num)

noncomputable def accelerated (dt : ℝ) : Matrix MotionIndex (Fin 2) ℝ :=
  fromRows ((0.5 * dt * dt) • 1) (dt • 1)

theorem processNoise_eq (dt : ℝ) :
    processNoise config dt =
      accelerated dt * (config.qVel • (1 : Matrix (Fin 2) (Fin 2) ℝ)) * (accelerated dt)ᵀ
        + fromBlocks ((config.qPos * dt) • 1) 0 0 0 := by
  unfold processNoise accelerated
  dsimp only
  rw [transpose_fromRows, fromRows_mul, fromRows_mul_fromCols, fromBlocks_add]
  -- Every block is a multiple of the identity.
  congr 1
  all_goals
    simp only [Matrix.mul_smul, transpose_smul, transpose_one, Matrix.mul_one, smul_smul,
      ← add_smul, add_zero]
    congr 1
    ring

variable {config : CraneMotionEKFConfig ℝ}

theorem predictCovariance_regular (positive : PositiveNoise config) {filter : CraneMotionEKF ℝ}
    (covariance : filter.P.PosSemidef) (dt : ℝ) :
    Regular (predictCovariance config filter dt) := by
  have step := boundedDt_pos dt
  unfold predictCovariance
  rw [processNoise_eq, ← add_assoc]
  generalize boundedDt dt = time at step
  have moved := Covariance.map covariance (transition time)
  have pushed := Covariance.map (PosDef.one.smul positive.velocity).posSemidef
    (accelerated time)
  have drift : (0 : ℝ) < config.qPos * time := mul_pos positive.position step
  have definite : ((config.qPos * time) • (1 : Matrix (Fin 2) (Fin 2) ℝ)).PosDef :=
    PosDef.one.smul drift
  constructor
  · refine (moved.add pushed).add ?_
    have fits := Covariance.fromBlocks_posSemidef 0 (0 : Matrix (Fin 2) (Fin 2) ℝ) definite
    rw [transpose_zero] at fits
    exact fits.mpr (by simpa using PosSemidef.zero)
  · -- The drift makes the block of the position definite.
    exact PosDef.posSemidef_add (Covariance.block_posSemidef (moved.add pushed)).1 definite

variable {filter : CraneMotionEKF ℝ}

theorem maybeRecover_regular (regular : Regular filter.P) :
    Regular (maybeRecover config filter).P := by
  unfold maybeRecover
  split_ifs
  · exact regular
  · exact axisCovariance_regular (by norm_num) (by norm_num)

theorem maybeRecover_nis : (maybeRecover config filter).status.nis = filter.status.nis := by
  unfold maybeRecover
  split_ifs
  · rfl
  · rfl

/-! ### Bounded variances -/

noncomputable def boundDiagonal (M : Matrix (Fin 2) (Fin 2) ℝ) (bound : ℝ) :
    Matrix (Fin 2) (Fin 2) ℝ :=
  !![min (M 0 0) bound, M 0 1; M 1 0, min (M 1 1) bound]

variable (A B C D : Matrix (Fin 2) (Fin 2) ℝ)

theorem boundEntry_velocity (bound : ℝ) :
    boundEntry (boundEntry (fromBlocks A B C D) (.inr 0) bound) (.inr 1) bound
      = fromBlocks A B C (boundDiagonal D bound) := by
  ext row column
  rcases row with row | row <;> rcases column with column | column
  · rfl
  · simp [boundEntry]
  · simp [boundEntry]
  · fin_cases row <;> fin_cases column <;> simp [boundEntry, boundDiagonal]

theorem boundEntry_position (bound : ℝ) :
    boundEntry (boundEntry (fromBlocks A B C D) (.inl 0) bound) (.inl 1) bound
      = fromBlocks (boundDiagonal A bound) B C D := by
  ext row column
  rcases row with row | row <;> rcases column with column | column
  · fin_cases row <;> fin_cases column <;> simp [boundEntry, boundDiagonal]
  · simp [boundEntry]
  · simp [boundEntry]
  · rfl

theorem boundDiagonal_eq {M : Matrix (Fin 2) (Fin 2) ℝ} {bound : ℝ}
    (within : ∀ axis, M axis axis ≤ bound) : boundDiagonal M bound = M := by
  unfold boundDiagonal
  rw [min_eq_left (within 0), min_eq_left (within 1)]
  exact (eta_fin_two M).symm

theorem boundFits_iff {velocity explained : Matrix (Fin 2) (Fin 2) ℝ} {bound : ℝ}
    (symmetric : velocityᵀ = velocity) (symmetric' : explainedᵀ = explained) :
    (boundDiagonal velocity bound - explained).PosSemidef ↔
      BoundFits velocity explained bound := by
  have lower : velocity 1 0 = velocity 0 1 := congrFun (congrFun symmetric 0) 1
  have lower' : explained 1 0 = explained 0 1 := congrFun (congrFun symmetric' 0) 1
  rw [Covariance.posSemidef_two (by simp [boundDiagonal, lower, lower'])]
  simp [boundDiagonal, BoundFits]

theorem explainedVelocity_transpose {position : Matrix (Fin 2) (Fin 2) ℝ}
    (symmetric : positionᵀ = position) :
    (explainedVelocity filter position)ᵀ = explainedVelocity filter position := by
  unfold explainedVelocity
  rw [transpose_mul, transpose_mul, transpose_transpose, transpose_nonsing_inv, symmetric,
    Matrix.mul_assoc]

theorem zeroVelocity_covariance (regular : Regular filter.P)
    (initialized : filter.initialized = true) :
    (filter.applyZeroVelocityConstraint.P.PosSemidef ↔
        BoundFits filter.P.toBlocks₂₂ (explainedVelocity filter filter.P.toBlocks₁₁) 0.0004) ∧
      filter.applyZeroVelocityConstraint.P.toBlocks₁₁.PosDef := by
  have blocks := Covariance.eq_fromBlocks regular.covariance
  have edited : filter.applyZeroVelocityConstraint.P = fromBlocks filter.P.toBlocks₁₁
      filter.P.toBlocks₁₂ filter.P.toBlocks₁₂ᵀ (boundDiagonal filter.P.toBlocks₂₂ 0.0004) := by
    rw [← boundEntry_velocity, ← blocks]
    simp [applyZeroVelocityConstraint, initialized]
  have symmetric := Covariance.transpose_eq (Covariance.block_posSemidef regular.covariance).2
  have symmetric' := Covariance.transpose_eq regular.position.posSemidef
  rw [edited, toBlocks_fromBlocks₁₁, Covariance.fromBlocks_posSemidef _ _ regular.position]
  exact ⟨boundFits_iff symmetric (explainedVelocity_transpose symmetric'), regular.position⟩

theorem stationary_covariance (regular : Regular filter.P) (initialized : filter.initialized = true)
    (poseTemplate anchorPosition : Planar ℝ) (stamp : ℝ) :
    ((filter.applyStationaryConstraint config poseTemplate anchorPosition stamp).1.P.PosSemidef ↔
        BoundFits (filter.P.toBlocks₂₂ - explainedVelocity filter (filter.P.toBlocks₁₁
          + max 1.0e-9 config.stationaryPositionHoldVariance • 1)) 0
          (max 1.0e-9 config.stationaryVelocityHoldVariance)) ∧
      (filter.applyStationaryConstraint config poseTemplate anchorPosition
        stamp).1.P.toBlocks₁₁.PosDef := by
  have hold : 0 < max 1.0e-9 config.stationaryPositionHoldVariance :=
    lt_max_of_lt_left (by norm_num)
  generalize variance : max 1.0e-9 config.stationaryPositionHoldVariance = noise at hold ⊢
  have definite : (noise • (1 : Matrix (Fin 2) (Fin 2) ℝ)).PosDef := PosDef.one.smul hold
  obtain ⟨position, velocity⟩ := josephUpdate_blocks regular.covariance definite
  have updated := josephUpdate_regular regular definite
  -- The bound on the position variances changes nothing, since the anchor is measured that well.
  have within : ∀ axis, (josephUpdate filter.P (noise • 1)).toBlocks₁₁ axis axis ≤ noise := by
    intro axis
    rw [position]
    exact Covariance.measured_le regular.position.posSemidef hold axis
  have edited : (filter.applyStationaryConstraint config poseTemplate anchorPosition stamp).1.P
      = fromBlocks (josephUpdate filter.P (noise • 1)).toBlocks₁₁ 0 0ᵀ (boundDiagonal
        (filter.P.toBlocks₂₂ - explainedVelocity filter (filter.P.toBlocks₁₁ + noise • 1))
        (max 1.0e-9 config.stationaryVelocityHoldVariance)) := by
    unfold explainedVelocity
    rw [← velocity, transpose_zero, ← boundEntry_velocity]
    conv_rhs => rw [← boundDiagonal_eq within, ← boundEntry_position]
    simp [applyStationaryConstraint, initialized, variance]
  have symmetric : (filter.P.toBlocks₂₂ - explainedVelocity filter
      (filter.P.toBlocks₁₁ + noise • 1))ᵀ = filter.P.toBlocks₂₂
        - explainedVelocity filter (filter.P.toBlocks₁₁ + noise • 1) := by
    unfold explainedVelocity
    rw [← velocity]
    exact Covariance.transpose_eq (Covariance.block_posSemidef updated.covariance).2
  rw [edited, toBlocks_fromBlocks₁₁, Covariance.fromBlocks_posSemidef _ _ updated.position]
  refine ⟨?_, updated.position⟩
  rw [← boundFits_iff symmetric transpose_zero]
  simp

/-! ### Calls -/

variable {config : CraneMotionEKFConfig ℝ} {filter : CraneMotionEKF ℝ}

theorem predictWithoutMeasurement_regular (positive : PositiveNoise config)
    (regular : Regular filter.P) (nis : 0 ≤ filter.status.nis) (poseTemplate : Planar ℝ)
    (stamp : ℝ) (reason : String) :
    Regular (filter.predictWithoutMeasurement config poseTemplate stamp reason).1.P ∧
      0 ≤ (filter.predictWithoutMeasurement config poseTemplate stamp reason).1.status.nis := by
  unfold predictWithoutMeasurement
  by_cases initialized : filter.initialized = true
  · rw [if_neg (by simp [initialized])]
    refine ⟨maybeRecover_regular
      (predictCovariance_regular positive regular.covariance _), ?_⟩
    dsimp only
    rw [maybeRecover_nis]
  · rw [if_pos (by simpa using initialized)]
    exact ⟨regular, nis⟩

variable {frame : NdtFrame ℝ}

theorem innovationCovariance_posDef (positive : PositiveNoise config)
    (covariance : filter.P.PosSemidef) (noise : (measurementCovariance config frame).PosDef) :
    (innovationCovariance config filter frame).PosDef :=
  Covariance.innovation_posDef (predictCovariance_regular positive covariance _).covariance noise _

theorem frameNis_nonneg (positive : PositiveNoise config) (covariance : filter.P.PosSemidef)
    (noise : (measurementCovariance config frame).PosDef) :
    0 ≤ frameNis config filter frame := by
  have definite := innovationCovariance_posDef positive covariance noise
  unfold frameNis
  rw [inverse2_eq]
  simpa using definite.inv.posSemidef.dotProduct_mulVec_nonneg (frameInnovation config filter frame)

theorem rejectFrame_regular (positive : PositiveNoise config) (covariance : filter.P.PosSemidef)
    (frame : NdtFrame ℝ) :
    Regular (rejectFrame config filter frame).P ∧
      (rejectFrame config filter frame).status.nis = frameNis config filter frame := by
  unfold rejectFrame
  exact ⟨maybeRecover_regular (predictCovariance_regular positive covariance _),
    maybeRecover_nis⟩

theorem countFrame_regular (regular : Regular filter.P) :
    Regular (countFrame config filter).P ∧
      (countFrame config filter).status.nis = filter.status.nis := by
  unfold countFrame
  split_ifs
  · exact ⟨maybeRecover_regular regular, maybeRecover_nis⟩
  · exact ⟨regular, rfl⟩

theorem rateFrame_regular (regular : Regular filter.P) (fitness : ℝ) :
    Regular (rateFrame config filter fitness).P ∧
      (rateFrame config filter fitness).status.nis = filter.status.nis := by
  unfold rateFrame
  split_ifs
  · exact ⟨regular, rfl⟩
  · exact ⟨regular, rfl⟩

theorem recoverRated_regular (regular : Regular filter.P) :
    Regular (recoverRated config filter).P ∧
      (recoverRated config filter).status.nis = filter.status.nis := by
  unfold recoverRated
  split_ifs
  · exact ⟨maybeRecover_regular regular, maybeRecover_nis⟩
  · exact ⟨regular, rfl⟩

theorem acceptFrame_regular (positive : PositiveNoise config) (covariance : filter.P.PosSemidef)
    (noise : (measurementCovariance config frame).PosDef) :
    Regular (acceptFrame config filter frame).P ∧
      (acceptFrame config filter frame).status.nis = frameNis config filter frame := by
  have updated := josephUpdate_regular (predictCovariance_regular positive covariance
    (filter.sanitizeDt frame.stamp)) noise
  obtain ⟨counted, same⟩ := @countFrame_regular config (correctFrame config filter frame) updated
  obtain ⟨rated, same'⟩ := @rateFrame_regular config _ counted frame.fitness
  obtain ⟨recovered, same''⟩ := @recoverRated_regular config _ rated
  exact ⟨recovered, same''.trans (same'.trans same)⟩

theorem updateWithNDT_regular (positive : PositiveNoise config) (regular : Regular filter.P)
    (nis : 0 ≤ filter.status.nis) (noise : (measurementCovariance config frame).PosDef) :
    Regular (filter.updateWithNDT config frame).1.P ∧
      0 ≤ (filter.updateWithNDT config frame).1.status.nis := by
  have measured := frameNis_nonneg positive regular.covariance noise
  unfold updateWithNDT
  by_cases initialized : filter.initialized = true
  · rw [if_neg (by simp [initialized])]
    by_cases unfit :
        (config.rejectHighFitness && config.ndtFitnessRejectThreshold < frame.fitness) = true
    · rw [if_pos unfit]
      exact @predictWithoutMeasurement_regular config (filter.noteHighFitness frame) positive
        regular nis frame.poseTemplate frame.stamp "HIGH_FITNESS"
    · rw [if_neg unfit]
      by_cases rejected : rejectsInnovation config filter frame = true
      · rw [if_pos rejected]
        obtain ⟨kept, same⟩ := rejectFrame_regular positive regular.covariance frame
        exact ⟨kept, same ▸ measured⟩
      · rw [if_neg rejected]
        obtain ⟨kept, same⟩ := acceptFrame_regular positive regular.covariance noise
        exact ⟨kept, same ▸ measured⟩
  · -- The first frame starts the filter.
    rw [if_pos (by simpa using initialized)]
    exact ⟨axisCovariance_regular one_pos two_pos, le_rfl⟩

theorem innovationCovariances_invertible (positive : PositiveNoise config)
    (regular : Regular filter.P) {call : CraneMotionCall ℝ}
    (measured : MeasurementDefinite config call) :
    ∀ S ∈ innovationCovariances config filter call, IsUnit S.det := by
  intro S inverted
  rw [← isUnit_iff_isUnit_det]
  cases call with
  | updateWithNDT frame =>
    obtain rfl := List.mem_singleton.mp inverted
    exact (innovationCovariance_posDef positive regular.covariance measured).isUnit
  | applyStationaryConstraint poseTemplate anchorPosition stamp =>
    obtain rfl := List.mem_singleton.mp inverted
    have hold : 0 < max 1.0e-9 config.stationaryPositionHoldVariance :=
      lt_max_of_lt_left (by norm_num)
    exact (Covariance.innovation_posDef regular.covariance (PosDef.one.smul hold) _).isUnit
  | initializeAt firstPose stamp => cases inverted
  | predictWithoutMeasurement poseTemplate stamp reason => cases inverted
  | applyZeroVelocityConstraint => cases inverted

theorem callSound_iff (positive : PositiveNoise config) (regular : Regular filter.P)
    (nis : 0 ≤ filter.status.nis) {call : CraneMotionCall ℝ}
    (measured : MeasurementDefinite config call) :
    (CallSound config filter call ↔ EditFits config filter call) ∧
      (CallSound config filter call →
        Regular ((craneMotionMachine config).step filter call).1.P) := by
  have inverts := innovationCovariances_invertible positive regular measured
  -- Without an edit, both the covariance and the measure of the innovation stay as they must be.
  have unedited : Regular ((craneMotionMachine config).step filter call).1.P ∧
      0 ≤ ((craneMotionMachine config).step filter call).1.status.nis →
      EditFits config filter call → (CallSound config filter call ↔ EditFits config filter call) ∧
        (CallSound config filter call →
          Regular ((craneMotionMachine config).step filter call).1.P) := by
    rintro ⟨kept, measure⟩ fits
    exact ⟨⟨fun _ => fits, fun _ => ⟨kept.covariance, measure, inverts⟩⟩, fun _ => kept⟩
  cases call with
  | initializeAt firstPose stamp =>
    exact unedited ⟨axisCovariance_regular one_pos two_pos, le_rfl⟩ trivial
  | predictWithoutMeasurement poseTemplate stamp reason =>
    exact unedited (predictWithoutMeasurement_regular positive regular nis _ _ _) trivial
  | updateWithNDT frame =>
    exact unedited (updateWithNDT_regular positive regular nis measured) trivial
  | applyStationaryConstraint poseTemplate anchorPosition stamp =>
    by_cases initialized : filter.initialized = true
    · obtain ⟨fits, position⟩ :=
        @stationary_covariance config filter regular initialized poseTemplate anchorPosition stamp
      have measure : 0 ≤ (filter.applyStationaryConstraint config poseTemplate anchorPosition
          stamp).1.status.nis := by
        simpa [applyStationaryConstraint, initialized] using nis
      exact ⟨⟨fun sound _ => fits.mp sound.covariance,
        fun edit => ⟨fits.mpr (edit initialized), measure, inverts⟩⟩,
        fun sound => ⟨sound.covariance, position⟩⟩
    · have same : filter.applyStationaryConstraint config poseTemplate anchorPosition stamp
          = (filter, poseTemplate) := by simp [applyStationaryConstraint, initialized]
      refine unedited ?_ fun started => absurd started initialized
      show Regular (filter.applyStationaryConstraint config poseTemplate anchorPosition stamp).1.P ∧
        0 ≤ (filter.applyStationaryConstraint config poseTemplate anchorPosition stamp).1.status.nis
      rw [same]
      exact ⟨regular, nis⟩
  | applyZeroVelocityConstraint =>
    by_cases initialized : filter.initialized = true
    · obtain ⟨fits, position⟩ := zeroVelocity_covariance regular initialized
      have measure : 0 ≤ filter.applyZeroVelocityConstraint.status.nis := by
        simpa [applyZeroVelocityConstraint, initialized] using nis
      exact ⟨⟨fun sound _ => fits.mp sound.covariance,
        fun edit => ⟨fits.mpr (edit initialized), measure, inverts⟩⟩,
        fun sound => ⟨sound.covariance, position⟩⟩
    · have same : filter.applyZeroVelocityConstraint = filter := by
        simp [applyZeroVelocityConstraint, initialized]
      refine unedited ?_ fun started => absurd started initialized
      show Regular filter.applyZeroVelocityConstraint.P ∧
        0 ≤ filter.applyZeroVelocityConstraint.status.nis
      rw [same]
      exact ⟨regular, nis⟩

theorem start_regular : Regular (craneMotionMachine config).start.P :=
  ⟨PosSemidef.one, PosDef.one.submatrix Sum.inl_injective⟩

/--
All calls of a run leave a covariance behind exactly if no call bounds the velocity variances
below what the rest of the state needs.
-/
theorem covariance_kept (config : CraneMotionEKFConfig ℝ) (positive : PositiveNoise config)
    (calls : List (CraneMotionCall ℝ))
    (measured : ∀ call ∈ calls, MeasurementDefinite config call) :
    (∀ event ∈ (craneMotionMachine config).trace calls,
        CallSound config event.before event.call) ↔
      ∀ event ∈ (craneMotionMachine config).trace calls,
        EditFits config event.before event.call := by
  -- A run of sound calls leads to a regular covariance, on which the next call is decided.
  have general : ((∀ event ∈ (craneMotionMachine config).trace calls,
        CallSound config event.before event.call) ↔
      ∀ event ∈ (craneMotionMachine config).trace calls,
        EditFits config event.before event.call) ∧
      ((∀ event ∈ (craneMotionMachine config).trace calls,
        CallSound config event.before event.call) →
        Regular ((craneMotionMachine config).run calls).P ∧
          0 ≤ ((craneMotionMachine config).run calls).status.nis) := by
    induction calls with
    | nil => exact ⟨by simp [Machine.trace], fun _ => ⟨start_regular, le_rfl⟩⟩
    | cons call older ih =>
      rw [List.forall_mem_cons] at measured
      obtain ⟨same, reached⟩ := ih measured.2
      have decided := fun sound => @callSound_iff config ((craneMotionMachine config).run older)
        positive (reached sound).1 (reached sound).2 call measured.1
      simp only [Machine.trace, List.forall_mem_cons]
      refine ⟨⟨fun sound => ?_, fun fits => ?_⟩, fun sound => ?_⟩
      · exact ⟨(decided sound.2).1.mp sound.1, same.mp sound.2⟩
      · have sound := same.mpr fits.2
        exact ⟨(decided sound).1.mpr fits.1, sound⟩
      · exact ⟨(decided sound.2).2 sound.1, sound.1.nis⟩
  exact general.1

/-! ### Two short runs -/

noncomputable def originFrame : NdtFrame ℝ :=
  { pose := 0, fitness := 0, poseTemplate := 0, stamp := 0 }

theorem rest_at_start_keeps_covariance : PositiveNoise {} ∧
    ∀ event ∈ (craneMotionMachine ({} : CraneMotionEKFConfig ℝ)).trace
        [.applyZeroVelocityConstraint, .updateWithNDT originFrame],
      CallSound {} event.before event.call := by
  have noise : measurementR ({} : CraneMotionEKFConfig ℝ) originFrame = 0.02 := by
    norm_num [measurementR, originFrame, computeSlowFrameExtraR, stdClamp]
  have positive : PositiveNoise {} := ⟨by norm_num, by norm_num⟩
  refine ⟨positive, (covariance_kept {} positive _ ?_).mpr ?_⟩
  · simp only [List.forall_mem_cons, List.not_mem_nil, false_imp_iff, implies_true, and_true,
      MeasurementDefinite, true_and]
    show (measurementR ({} : CraneMotionEKFConfig ℝ) originFrame
      • (1 : Matrix (Fin 2) (Fin 2) ℝ)).PosDef
    rw [noise]
    exact PosDef.one.smul (by norm_num)
  · simp only [Machine.trace, List.forall_mem_cons, List.not_mem_nil, false_imp_iff, implies_true,
      and_true, EditFits]
    -- At the start the position explains nothing of the velocity.
    intro _
    have start : ((craneMotionMachine ({} : CraneMotionEKFConfig ℝ)).run
        [.updateWithNDT originFrame]).P = axisCovariance 1 2 := rfl
    unfold explainedVelocity
    rw [start]
    norm_num [BoundFits, axisCovariance, toBlocks_fromBlocks₁₂]

theorem predictCovariance_start :
    predictCovariance ({} : CraneMotionEKFConfig ℝ) (initializeAt {} 0 0)
        (sanitizeDt (initializeAt {} 0 0) 0.1) = fromBlocks ((1.0250075 : ℝ) • 1)
          ((0.20015 : ℝ) • 1) ((0.20015 : ℝ) • 1) ((2.003 : ℝ) • 1) := by
  have step : boundedDt (sanitizeDt (initializeAt {} 0 0) (0.1 : ℝ)) = 0.1 := by
    norm_num [boundedDt, sanitizeDt, initializeAt]
  unfold predictCovariance
  rw [step]
  simp only [initializeAt, axisCovariance, transition, processNoise, fromBlocks_transpose,
    fromBlocks_multiply, fromBlocks_add, transpose_one, transpose_smul, transpose_zero,
    Matrix.mul_one, Matrix.mul_zero,
    Matrix.mul_smul, smul_smul, add_zero, zero_add, ← add_smul]
  norm_num
  rw [← add_smul]
  norm_num

theorem rest_after_prediction_breaks_covariance :
    ¬∀ event ∈ (craneMotionMachine ({} : CraneMotionEKFConfig ℝ)).trace
        [.applyZeroVelocityConstraint, .predictWithoutMeasurement 0 0.1 "NDT_UNAVAILABLE",
          .initializeAt 0 0],
      CallSound {} event.before event.call := by
  intro sound
  have covariance := (sound _ List.mem_cons_self).covariance
  have edited : ((craneMotionMachine ({} : CraneMotionEKFConfig ℝ)).step
      ((craneMotionMachine ({} : CraneMotionEKFConfig ℝ)).run
        [.predictWithoutMeasurement 0 0.1 "NDT_UNAVAILABLE", .initializeAt 0 0])
      .applyZeroVelocityConstraint).1.P
        = fromBlocks ((1.0250075 : ℝ) • 1) ((0.20015 : ℝ) • 1) ((0.20015 : ℝ) • 1)
          (boundDiagonal ((2.003 : ℝ) • 1) 0.0004) := by
    rw [← boundEntry_velocity, ← predictCovariance_start]
    rfl
  rw [edited] at covariance
  -- Along one axis, the correlation is greater than both variances allow.
  have axis := (Covariance.posSemidef_two (by simp)).mp
    (covariance.submatrix ![Sum.inl (0 : Fin 2), Sum.inr 0])
  norm_num [boundDiagonal] at axis

end CraneMotionEKF
end NdtSlam
