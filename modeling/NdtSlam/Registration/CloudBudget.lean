import Mathlib.Tactic.Linarith
import NdtSlam.Registration.CloudBuilder

/-! The budget of the registration cloud: its size, and the share of the ground in it. -/

namespace NdtSlam.RegistrationCloud

section Thinning

variable {size maximum first second : Nat}

theorem sourcePlace_advances (larger : maximum < size) (ahead : first < second)
    (inside : second < maximum) :
    sourcePlace size maximum first < sourcePlace size maximum second := by
  have positive : (0 : ℚ) < maximum := by exact_mod_cast (by omega : 0 < maximum)
  have stride : 1 ≤ (size : ℚ) / maximum := by
    rw [one_le_div positive]
    exact_mod_cast larger.le
  have step : (first : ℚ) + 1 ≤ second := by exact_mod_cast ahead
  have last : (second : ℚ) + 1 ≤ maximum := by exact_mod_cast inside
  -- The last place taken lies a stride below the size.
  have below : ⌊(second : ℚ) * (size / maximum)⌋₊ ≤ size - 1 := by
    have short : (second : ℚ) * (size / maximum) + size / maximum ≤ size := by
      calc (second : ℚ) * (size / maximum) + size / maximum
          = (second + 1) * (size / maximum) := by ring
        _ ≤ maximum * (size / maximum) := by gcongr
        _ = size := mul_div_cancel₀ _ positive.ne'
    have floor := Nat.floor_le (a := (second : ℚ) * (size / maximum)) (by positivity)
    have room : (⌊(second : ℚ) * (size / maximum)⌋₊ : ℚ) + 1 ≤ size := by linarith
    have room : ⌊(second : ℚ) * (size / maximum)⌋₊ + 1 ≤ size := by exact_mod_cast room
    omega
  have next : ⌊(first : ℚ) * (size / maximum)⌋₊ + 1 ≤ ⌊(second : ℚ) * (size / maximum)⌋₊ := by
    have floor := Nat.floor_le (a := (first : ℚ) * (size / maximum)) (by positivity)
    refine Nat.le_floor ?_
    push_cast
    nlinarith
  unfold sourcePlace
  omega

theorem limitUniform_spec (cloud : List Vec3) (maximum : Nat) :
    (limitUniform cloud maximum).Sublist cloud ∧
      (limitUniform cloud maximum).length = min cloud.length maximum := by
  unfold limitUniform
  split
  · next none => simp [none]
  · split
    · next within => exact ⟨List.Sublist.refl _, by omega⟩
    · next some beyond =>
      have larger : maximum < cloud.length := not_le.mp beyond
      have inside : ∀ index, sourcePlace cloud.length maximum index < cloud.length := by
        intro index
        unfold sourcePlace
        omega
      refine ⟨?_, by simp; omega⟩
      -- The points are those at increasing places.
      have places : ((List.finRange maximum).map fun index : Fin maximum =>
          (⟨sourcePlace cloud.length maximum index, inside index⟩ : Fin cloud.length)).Pairwise
            (· < ·) := by
        refine List.pairwise_map.mpr ((List.pairwise_lt_finRange maximum).imp ?_)
        intro first second ahead
        exact sourcePlace_advances larger ahead second.isLt
      have taken := List.map_getElem_sublist places
      rw [List.map_map] at taken
      rw [← List.map_coe_finRange_eq_range, List.map_map]
      convert taken using 2
      funext index
      simp [inside]

end Thinning

section Budget

variable {config : RegistrationCloudBuildConfig}

theorem fraction_fin (number : config.groundMaxFraction ≠ .nan) :
    ∃ fraction : ℚ, (normalized config).groundMaxFraction = .fin fraction ∧ 0 ≤ fraction ∧
      fraction ≤ 0.49 := by
  show ∃ fraction : ℚ, Scalar.clamp config.groundMaxFraction 0 0.49 = .fin fraction ∧ _
  unfold Scalar.clamp
  split
  · exact ⟨0, rfl, le_rfl, by norm_num⟩
  · next above =>
    split
    · exact ⟨0.49, rfl, by norm_num, le_rfl⟩
    · next below =>
      have low := Scalar.fin_le_of_not_lt number above
      cases value : config.groundMaxFraction with
      | nan => exact absurd value number
      | negInf => exact absurd (by rw [value]; rfl) above
      | posInf => exact absurd (by rw [value]; rfl) below
      | fin fraction =>
        rw [value] at above below
        exact ⟨fraction, rfl, not_lt.mp fun less => above (Scalar.fin_lt_fin.2 less),
          not_lt.mp fun more => below (Scalar.fin_lt_fin.2 more)⟩

theorem repeated_length (source : List Vec3) (copies : Int) :
    (repeated source copies).length = copies.toNat * source.length := by
  simp [repeated]

theorem share_le {fraction : ℚ} (isFraction : config.groundMaxFraction = .fin fraction)
    (low : 0 ≤ fraction) (high : fraction ≤ 0.49) {groundPoints nonGroundPoints : Nat}
    (capped : groundPoints ≤ ratioCap config nonGroundPoints) :
    share groundPoints (nonGroundPoints + groundPoints) ≤ config.groundMaxFraction := by
  have rest : 0 < 1 - fraction := by linarith
  have part : (groundPoints : ℚ) ≤ fraction * (nonGroundPoints + groundPoints) := by
    unfold ratioCap at capped
    rw [isFraction] at capped
    by_cases some : (0 : Scalar) < .fin fraction
    · have quotient : ((Scalar.fin fraction * .ofNat nonGroundPoints) / (1 - .fin fraction)).value =
          fraction * nonGroundPoints / (1 - fraction) := by
        have divisor : (1 : Scalar) - .fin fraction = .fin (1 - fraction) := by
          rw [← Scalar.fin_sub_fin]
          rfl
        rw [divisor]
        show Scalar.value (if 1 - fraction = 0 then _ else _) = _
        rw [if_neg rest.ne']
        rfl
      simp only [if_pos some, quotient] at capped
      have floor := Nat.floor_le (div_nonneg (mul_nonneg low nonGroundPoints.cast_nonneg) rest.le)
      have bound : (groundPoints : ℚ) ≤ fraction * nonGroundPoints / (1 - fraction) :=
        (Nat.cast_le.mpr capped).trans floor
      rw [le_div_iff₀ rest] at bound
      linarith
    · rw [if_neg some, Nat.le_zero] at capped
      subst capped
      simpa using mul_nonneg low nonGroundPoints.cast_nonneg
  unfold share
  rw [isFraction]
  split
  · next some =>
    have positive : (0 : ℚ) < (nonGroundPoints + groundPoints : Nat) := Nat.cast_pos.mpr some
    show (if ((nonGroundPoints + groundPoints : Nat) : ℚ) = 0 then _ else _) ≤ _
    rw [if_neg positive.ne', Scalar.fin_le_fin, div_le_iff₀ positive]
    push_cast
    exact part
  · exact Scalar.fin_le_fin.2 (by simpa using low)

theorem ground_within (ground : List Vec3) (nonGroundPoints : Nat) :
    (limitedGround config nonGroundPoints ground).length ≤ ratioCap config nonGroundPoints ∧
      (limitedGround config nonGroundPoints ground).length ≤
        targetPoints config - nonGroundPoints := by
  rw [limitedGround, (limitUniform_spec _ _).2]
  omega

/-- The cloud fits, and its ground, which comes last, has no more than its share. -/
structure KeepsBudget (config : RegistrationCloudBuildConfig)
    (result : RegistrationCloudBuildResult) : Prop where
  size : result.cloud.length ≤ targetPoints config
  total : result.totalPoints = result.cloud.length
  last : result.groundComponent <:+ result.cloud
  share : result.groundFraction = share result.groundComponent.length result.cloud.length
  bounded : result.groundFraction ≤ config.groundMaxFraction
  contract : result.reason ≠ "ground_fraction_or_size_contract_failed"

theorem assembled_keepsBudget {fraction : ℚ}
    (isFraction : config.groundMaxFraction = .fin fraction) (low : 0 ≤ fraction)
    (high : fraction ≤ 0.49) {result : RegistrationCloudBuildResult} {usedRecovery : Bool}
    {uncertain ground : List Vec3} {nonGroundPoints : Nat}
    (quality : result.structureQualityValid = true)
    (points : (repeated result.staticComponent config.staticObjectRepeat).length +
      (repeated uncertain config.uncertainCandidateRepeat).length = nonGroundPoints)
    (fits : nonGroundPoints + ground.length ≤ targetPoints config)
    (capped : ground.length ≤ ratioCap config nonGroundPoints) :
    KeepsBudget config (assembled config result usedRecovery uncertain ground) := by
  have size : (repeated result.staticComponent config.staticObjectRepeat ++
      repeated uncertain config.uncertainCandidateRepeat ++ ground).length =
        nonGroundPoints + ground.length := by
    rw [List.length_append, List.length_append, points]
  have bounded := share_le isFraction low high capped
  rw [← size] at bounded fits
  refine ⟨fits, rfl, List.suffix_append _ _, rfl, bounded, ?_⟩
  -- Only the least size can be missing.
  have slack : share ground.length (repeated result.staticComponent config.staticObjectRepeat ++
      repeated uncertain config.uncertainCandidateRepeat ++ ground).length ≤
        config.groundMaxFraction + 1.0e-9 := by
    refine Scalar.le_trans bounded ?_
    rw [isFraction]
    exact Scalar.fin_le_fin.2 (by norm_num)
  unfold assembled
  dsimp only
  generalize repeated result.staticComponent config.staticObjectRepeat ++
    repeated uncertain config.uncertainCandidateRepeat ++ ground = cloud at fits slack ⊢
  have most : cloud.length ≤ config.maxNdtPoints := fits.trans (min_le_right _ _)
  by_cases less : cloud.length < config.minRegistrationPoints
  · rw [if_pos less]
    split
    · decide
    · split_ifs <;> decide
  · have valid : contractHolds config result.structureQualityValid cloud.length
        (share ground.length cloud.length) = true := by
      simp [contractHolds, quality, not_lt.mp less, most, slack]
    rw [valid, if_neg (by decide)]
    split_ifs <;> decide

variable [VoxelGrid] {staticObjects uncertain ground : List Vec3}

theorem static_within (staticObjects : List Vec3) (some : 1 ≤ config.staticObjectRepeat)
    (room : config.staticObjectRepeat ≤ targetPoints config) :
    (repeated (limitedStatic config staticObjects) config.staticObjectRepeat).length ≤
      targetPoints config := by
  have limited : (limitedStatic config staticObjects).length ≤
      max 1 (targetPoints config / config.staticObjectRepeat.toNat) := by
    rw [limitedStatic, (limitUniform_spec _ _).2]
    exact min_le_right _ _
  -- Since one copy fits, so do as many as the quotient says.
  have fits : 1 ≤ targetPoints config / config.staticObjectRepeat.toNat :=
    (Nat.one_le_div_iff (by omega)).mpr (by omega)
  rw [max_eq_right fits] at limited
  rw [repeated_length]
  exact (Nat.mul_le_mul_left _ limited).trans (Nat.mul_div_le _ _)

theorem uncertain_within (uncertain : List Vec3) (staticPoints : Nat) :
    (repeated (limitedUncertain config staticPoints uncertain)
      config.uncertainCandidateRepeat).length ≤ targetPoints config - staticPoints := by
  rw [repeated_length, limitedUncertain, (limitUniform_spec _ _).2]
  exact (Nat.mul_le_mul (by omega) (min_le_right _ _)).trans (Nat.mul_div_le _ _)

theorem assembled_of_enough
    (enough : (buildStructurePreservingRegistrationCloud staticObjects uncertain ground
      config).structureQualityValid = true) :
    let used := normalized config
    let result := started used (limitedStatic used staticObjects)
    let staticPoints := (repeated result.staticComponent used.staticObjectRepeat).length
    let selected := limitedUncertain used staticPoints uncertain
    let nonGroundPoints := staticPoints + (repeated selected used.uncertainCandidateRepeat).length
    result.structureQualityValid = true ∧ ∃ usedRecovery,
      buildStructurePreservingRegistrationCloud staticObjects uncertain ground config =
        assembled used result usedRecovery selected
          (limitedGround used nonGroundPoints ground) := by
  intro used result staticPoints selected nonGroundPoints
  unfold buildStructurePreservingRegistrationCloud at enough ⊢
  by_cases poor : (!result.structureQualityValid) = true
  · -- Without enough structure the result says so.
    rw [if_pos poor] at enough
    exact ⟨enough, absurd poor (by rw [enough]; decide)⟩
  · rw [if_neg poor]
    exact ⟨by simpa using poor, _, rfl⟩

/--
A cloud with enough structure keeps its budget exactly when its share of the ground is a number.
-/
theorem registration_budget_iff
    (room : (normalized config).staticObjectRepeat ≤ targetPoints (normalized config))
    (enough : (buildStructurePreservingRegistrationCloud staticObjects uncertain ground
      config).structureQualityValid = true) :
    (KeepsBudget (normalized config)
        (buildStructurePreservingRegistrationCloud staticObjects uncertain ground config) ∧
      ∀ cloud maximum, (limitUniform cloud maximum).Sublist cloud ∧
        (limitUniform cloud maximum).length = min cloud.length maximum) ↔
    config.groundMaxFraction ≠ .nan := by
  obtain ⟨quality, usedRecovery, built⟩ := assembled_of_enough enough
  rw [built]
  constructor
  · -- Nothing is at most what is not a number.
    intro kept isNan
    have bounded := kept.1.bounded
    have clamped : (normalized config).groundMaxFraction = .nan := by
      show Scalar.clamp config.groundMaxFraction 0 0.49 = .nan
      rw [isNan]
      rfl
    rw [clamped] at bounded
    generalize (assembled _ _ usedRecovery _ _).groundFraction = share at bounded
    cases share <;> cases bounded
  · intro number
    obtain ⟨fraction, isFraction, low, high⟩ := fraction_fin number
    refine ⟨?_, limitUniform_spec⟩
    have static := static_within staticObjects (le_max_left _ _) room
    have nonGround := Nat.add_le_of_le_sub' static (uncertain_within uncertain _)
    exact assembled_keepsBudget isFraction low high quality rfl
      (Nat.add_le_of_le_sub' nonGround (ground_within _ _).2) (ground_within _ _).1

end Budget

/-! Runs with a filter that keeps all points, on one point of structure. -/

@[reducible] def allPoints : VoxelGrid := ⟨fun _ cloud => cloud⟩

def onePoint (groundMaxFraction : Scalar) : RegistrationCloudBuildConfig :=
  { groundMaxFraction, staticObjectRepeat := 1, minStaticObjectPoints := 1, minStructureXyCells := 1
    minRegistrationPoints := 1, targetRegistrationPoints := 1, maxNdtPoints := 1 }

theorem onePoint_keepsBudget :
    (KeepsBudget (normalized (onePoint 0.35))
        (@buildStructurePreservingRegistrationCloud allPoints [{}] [] [] (onePoint 0.35)) ∧
      ∀ cloud maximum, (limitUniform cloud maximum).Sublist cloud ∧
        (limitUniform cloud maximum).length = min cloud.length maximum) ↔
    (onePoint 0.35).groundMaxFraction ≠ .nan :=
  @registration_budget_iff (onePoint 0.35) allPoints [{}] [] [] (by decide)
    (by with_unfolding_all decide)

/-- A share that is not a number is normalized to itself, and no cloud meets it. -/
theorem share_not_number :
    let config := onePoint .nan
    let result := @buildStructurePreservingRegistrationCloud allPoints [{}] [] [] config
    (normalized config).staticObjectRepeat ≤ targetPoints (normalized config) ∧
      result.structureQualityValid = true ∧ result.totalPoints = 1 ∧ result.groundPoints = 0 ∧
      ¬result.groundFraction ≤ (normalized config).groundMaxFraction ∧
      result.reason = "ground_fraction_or_size_contract_failed" := by
  with_unfolding_all decide

end NdtSlam.RegistrationCloud
