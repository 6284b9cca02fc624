import Mathlib.Analysis.SpecialFunctions.Pow.Real

/-! Planar vectors over an ordered field, their lengths, and values brought into an interval. -/

namespace NdtSlam

open Matrix

/-- A field with lengths of planar vectors. -/
class Hypot (K : Type) where
  hypot : K → K → K

export Hypot (hypot)

instance twoAxes : NeZero 2 := ⟨two_ne_zero⟩

abbrev Planar (K : Type) := Fin 2 → K

section Operations

variable {K : Type} [Field K] [LinearOrder K]

def stdClamp (value low high : K) : K :=
  if value < low then low else if high < value then high else value

variable [Hypot K]

def planarNorm (vector : Planar K) : K := hypot (vector 0) (vector 1)

def planarNormalized (vector : Planar K) : Planar K :=
  if 0 < vector ⬝ᵥ vector then fun axis => vector axis / planarNorm vector else vector

end Operations

noncomputable instance : Hypot ℝ := ⟨fun x y => √(x ^ 2 + y ^ 2)⟩

/-! ### Lengths -/

variable (vector : Planar ℝ)

theorem planarNorm_eq :
    planarNorm vector = √(vector 0 ^ 2 + vector 1 ^ 2) := rfl

@[simp] theorem planarNorm_zero : planarNorm (0 : Planar ℝ) = 0 := by
  simp [planarNorm_eq]

theorem planarNorm_mul (factor : ℝ) :
    planarNorm (fun axis => vector axis * factor) = planarNorm vector * |factor| := by
  rw [planarNorm_eq, planarNorm_eq, ← Real.sqrt_sq_eq_abs, ← Real.sqrt_mul (by positivity)]
  congr 1
  ring

theorem planarNorm_mono {first second : Planar ℝ} (smaller : ∀ axis, |first axis| ≤ |second axis|) :
    planarNorm first ≤ planarNorm second :=
  Real.sqrt_le_sqrt (add_le_add (sq_le_sq.mpr (smaller 0)) (sq_le_sq.mpr (smaller 1)))

theorem abs_first_le_planarNorm : |vector 0| ≤ planarNorm vector :=
  Real.abs_le_sqrt (by linarith [sq_nonneg (vector 1)])

theorem planarNorm_first (x : ℝ) : planarNorm ![x, 0] = |x| := by
  simp [planarNorm_eq, Real.sqrt_sq_eq_abs]

/-! ### Values brought into an interval -/

theorem abs_stdClamp_le {value bound : ℝ} (positive : 0 < bound) :
    |stdClamp value (-bound) bound| ≤ bound := by
  unfold stdClamp
  rw [abs_le]
  split_ifs with below above
  · exact ⟨le_rfl, by linarith⟩
  · exact ⟨by linarith, le_rfl⟩
  · exact ⟨not_lt.mp below, not_lt.mp above⟩

theorem stdClamp_of_abs_le {value bound : ℝ} (within : |value| ≤ bound) :
    stdClamp value (-bound) bound = value := by
  rw [abs_le] at within
  unfold stdClamp
  rw [if_neg (not_lt.mpr within.1), if_neg (not_lt.mpr within.2)]

variable {value low high : ℝ}

theorem stdClamp_pos (below : 0 < low) (above : 0 < high) :
    0 < stdClamp value low high := by
  unfold stdClamp
  split_ifs with less greater
  · exact below
  · exact above
  · exact below.trans_le (not_lt.mp less)

theorem le_stdClamp_of_le {bound value low high : ℝ} (reached : bound ≤ value)
    (under : bound ≤ high) : bound ≤ stdClamp value low high := by
  unfold stdClamp
  split_ifs with less greater
  · exact reached.trans less.le
  · exact under
  · exact reached

theorem le_stdClamp (ordered : low ≤ high) :
    low ≤ stdClamp value low high := by
  unfold stdClamp
  split_ifs with less greater
  · exact le_rfl
  · exact ordered
  · exact not_lt.mp less

theorem stdClamp_le (ordered : low ≤ high) :
    stdClamp value low high ≤ high := by
  unfold stdClamp
  split_ifs with less greater
  · exact ordered
  · exact le_rfl
  · exact not_lt.mp greater

end NdtSlam
