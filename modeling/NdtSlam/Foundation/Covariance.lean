import Mathlib.Algebra.Order.Star.Real
import Mathlib.Analysis.Matrix.PosDef
import Mathlib.Data.Matrix.ColumnRowPartitioned

/-! Covariance matrices: predictions, measurements, and blocks of correlated quantities. -/

namespace NdtSlam.Covariance

open Matrix

section General

variable {State Seen : Type} {P : Matrix State State ℝ}

theorem transpose_eq (covariance : P.PosSemidef) : Pᵀ = P := by
  have hermitian := covariance.isHermitian
  rwa [IsHermitian, conjTranspose_eq_transpose_of_trivial] at hermitian

theorem block_posSemidef {P : Matrix (State ⊕ Seen) (State ⊕ Seen) ℝ}
    (covariance : P.PosSemidef) : P.toBlocks₁₁.PosSemidef ∧ P.toBlocks₂₂.PosSemidef :=
  ⟨covariance.submatrix Sum.inl, covariance.submatrix Sum.inr⟩

theorem eq_fromBlocks {P : Matrix (State ⊕ Seen) (State ⊕ Seen) ℝ} (covariance : P.PosSemidef) :
    P = fromBlocks P.toBlocks₁₁ P.toBlocks₁₂ P.toBlocks₁₂ᵀ P.toBlocks₂₂ := by
  have symmetric := transpose_eq covariance
  have lower : P.toBlocks₂₁ = P.toBlocks₁₂ᵀ := by
    conv_lhs => rw [← symmetric]
    rfl
  rw [← lower, fromBlocks_toBlocks]

variable [Fintype State]

theorem map [Fintype Seen] (covariance : P.PosSemidef) (F : Matrix Seen State ℝ) :
    (F * P * Fᵀ).PosSemidef := by
  have mapped := covariance.mul_mul_conjTranspose_same F
  rwa [conjTranspose_eq_transpose_of_trivial] at mapped

variable [Fintype Seen] {R : Matrix Seen Seen ℝ}

theorem innovation_posDef (covariance : P.PosSemidef) (noise : R.PosDef) (H : Matrix Seen State ℝ) :
    (H * P * Hᵀ + R).PosDef :=
  PosDef.posSemidef_add (map covariance H) noise

variable [DecidableEq State]

theorem fromBlocks_posSemidef {A : Matrix State State ℝ} (B : Matrix State Seen ℝ)
    (D : Matrix Seen Seen ℝ) (definite : A.PosDef) :
    (fromBlocks A B Bᵀ D).PosSemidef ↔ (D - Bᵀ * A⁻¹ * B).PosSemidef := by
  have inverse : Invertible A := definite.isUnit.invertible
  have schur := PosDef.fromBlocks₁₁ B D definite
  rwa [conjTranspose_eq_transpose_of_trivial] at schur


def joseph (P : Matrix State State ℝ) (R : Matrix Seen Seen ℝ) (H : Matrix Seen State ℝ)
    (K : Matrix State Seen ℝ) : Matrix State State ℝ :=
  (1 - K * H) * P * (1 - K * H)ᵀ + K * R * Kᵀ

theorem joseph_posSemidef (covariance : P.PosSemidef) (noise : R.PosSemidef)
    (H : Matrix Seen State ℝ) (K : Matrix State Seen ℝ) : (joseph P R H K).PosSemidef :=
  (map covariance _).add (map noise _)

variable [DecidableEq Seen]

theorem joseph_optimal (covariance : P.PosSemidef) (noise : R.PosDef) (H : Matrix Seen State ℝ) :
    joseph P R H (P * Hᵀ * (H * P * Hᵀ + R)⁻¹)
      = P - P * Hᵀ * (H * P * Hᵀ + R)⁻¹ * (H * P) := by
  have definite := innovation_posDef covariance noise H
  have symmetric := transpose_eq covariance
  have symmetric' := transpose_eq definite.posSemidef
  have unit := (isUnit_iff_isUnit_det _).mp definite.isUnit
  generalize innovation : H * P * Hᵀ + R = S at definite symmetric' unit
  -- What the measurement explains is the gain on both sides of the innovation.
  have explained : (P * Hᵀ * S⁻¹)ᵀ = S⁻¹ * (H * P) := by
    rw [transpose_mul, transpose_mul, transpose_transpose, symmetric, transpose_nonsing_inv,
      symmetric']
  have noiseEq : R = S - H * P * Hᵀ := by rw [← innovation]; abel
  have cancel : S * S⁻¹ = 1 := mul_nonsing_inv S unit
  have cancel' : S⁻¹ * S = 1 := nonsing_inv_mul S unit
  unfold joseph
  rw [transpose_sub, transpose_one, transpose_mul, explained, noiseEq]
  have expand : (1 - P * Hᵀ * S⁻¹ * H) * P * (1 - Hᵀ * (S⁻¹ * (H * P)))
      + P * Hᵀ * S⁻¹ * (S - H * P * Hᵀ) * (S⁻¹ * (H * P))
      = P - P * Hᵀ * S⁻¹ * (H * P) - P * Hᵀ * (S⁻¹ * (H * P))
        + P * Hᵀ * (S⁻¹ * S) * (S⁻¹ * (H * P)) := by
    simp only [Matrix.mul_sub, Matrix.sub_mul, Matrix.mul_one, Matrix.one_mul, Matrix.mul_assoc]
    abel
  rw [expand, cancel']
  simp only [Matrix.mul_one, Matrix.mul_assoc]
  abel

end General

section Own

variable {State : Type} [Fintype State] [DecidableEq State]

theorem measured_posDef {A R : Matrix State State ℝ} (definite : A.PosDef) (noise : R.PosDef) :
    (A - A * (A + R)⁻¹ * A).PosDef := by
  have optimal := joseph_optimal definite.posSemidef noise 1
  simp only [Matrix.one_mul, Matrix.mul_one, transpose_one] at optimal
  rw [← optimal]
  unfold joseph
  -- What is left of the old estimate is an invertible share of it.
  have total : (A + R).PosDef := definite.add noise
  have unit := (isUnit_iff_isUnit_det _).mp total.isUnit
  have share : (1 : Matrix State State ℝ) - A * (A + R)⁻¹ * 1 = R * (A + R)⁻¹ := by
    have whole : (A + R) * (A + R)⁻¹ = 1 := mul_nonsing_inv _ unit
    rw [Matrix.mul_one, ← whole, Matrix.add_mul, add_sub_cancel_left]
  have invertible : IsUnit (R * (A + R)⁻¹) := noise.isUnit.mul total.inv.isUnit
  rw [share]
  refine PosDef.add_posSemidef ?_ (map noise.posSemidef _)
  have kept := (IsUnit.posDef_star_right_conjugate_iff invertible).mpr definite
  rwa [star_eq_conjTranspose, conjTranspose_eq_transpose_of_trivial] at kept

theorem measured_le {A : Matrix State State ℝ} (covariance : A.PosSemidef) {noise : ℝ}
    (positive : 0 < noise) (index : State) :
    (A - A * (A + noise • 1)⁻¹ * A) index index ≤ noise := by
  have definite : (A + noise • 1).PosDef :=
    PosDef.posSemidef_add covariance (PosDef.one.smul positive)
  have unit := (isUnit_iff_isUnit_det _).mp definite.isUnit
  generalize total : A + noise • 1 = S at definite unit
  have part : A = S - noise • 1 := by rw [← total]; abel
  have cancel : S * S⁻¹ = 1 := mul_nonsing_inv S unit
  have cancel' : S⁻¹ * S = 1 := nonsing_inv_mul S unit
  -- The rest is the noise, less its share of the inverse.
  have rest : A - A * S⁻¹ * A = noise • 1 - (noise * noise) • S⁻¹ := by
    rw [part]
    simp only [Matrix.mul_sub, Matrix.sub_mul, cancel', Matrix.mul_one, Matrix.smul_mul,
      Matrix.mul_smul, Matrix.one_mul, cancel, smul_sub, smul_smul]
    abel
  have share : 0 ≤ S⁻¹ index index := definite.inv.posSemidef.diag_nonneg
  rw [rest]
  simp only [Matrix.sub_apply, Matrix.smul_apply, one_apply_eq, smul_eq_mul, mul_one]
  nlinarith [mul_nonneg (mul_nonneg positive.le positive.le) share]

end Own

theorem posSemidef_two {M : Matrix (Fin 2) (Fin 2) ℝ} (symmetric : M 1 0 = M 0 1) :
    M.PosSemidef ↔ 0 ≤ M 0 0 ∧ 0 ≤ M 1 1 ∧ M 0 1 ^ 2 ≤ M 0 0 * M 1 1 := by
  constructor
  · intro covariance
    have determinant := covariance.det_nonneg
    rw [det_fin_two, symmetric] at determinant
    exact ⟨covariance.diag_nonneg, covariance.diag_nonneg, by nlinarith⟩
  · rintro ⟨first, second, correlation⟩
    refine PosSemidef.of_dotProduct_mulVec_nonneg ?_ fun v => ?_
    · ext row column
      rw [conjTranspose_eq_transpose_of_trivial, transpose_apply]
      fin_cases row <;> fin_cases column <;> simp [symmetric]
    · simp only [star_trivial, dotProduct, mulVec, Fin.sum_univ_two, symmetric]
      -- A quadratic form in two variables is completed to squares.
      rcases first.eq_or_lt with zero | positive
      · have none : M 0 1 = 0 := by
          rw [← zero, zero_mul] at correlation
          exact pow_eq_zero_iff two_ne_zero |>.mp (le_antisymm correlation (sq_nonneg _))
        rw [← zero, none]
        nlinarith [mul_nonneg second (sq_nonneg (v 1))]
      · have square : 0 ≤ M 0 0 * (v 0 * (M 0 0 * v 0 + M 0 1 * v 1)
            + v 1 * (M 0 1 * v 0 + M 1 1 * v 1)) := by
          nlinarith [sq_nonneg (M 0 0 * v 0 + M 0 1 * v 1),
            mul_nonneg (sub_nonneg.mpr correlation) (sq_nonneg (v 1))]
        exact nonneg_of_mul_nonneg_right square positive

end NdtSlam.Covariance
