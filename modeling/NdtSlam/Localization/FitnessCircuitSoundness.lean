import Mathlib.Data.List.GetD
import Mathlib.Tactic.Positivity
import NdtSlam.Localization.FitnessCircuit

/-! Which measurements an open circuit keeps out, and for which limits it has a real hysteresis. -/

namespace NdtSlam
namespace NdtFitnessCircuitBreaker

section Medians

def Nonneg (values : List Scalar) : Prop := ∀ value ∈ values, ∃ q : ℚ, 0 ≤ q ∧ value = .fin q

variable {values : List Scalar}

theorem Nonneg.getD (nonneg : Nonneg values) (position : Nat) :
    ∃ q : ℚ, 0 ≤ q ∧ values.getD position 0 = .fin q := by
  rcases Nat.lt_or_ge position values.length with within | beyond
  · rw [List.getD_eq_getElem values 0 within]
    exact nonneg _ (List.getElem_mem within)
  · rw [List.getD_eq_default values 0 beyond]
    exact ⟨0, le_rfl, rfl⟩

theorem medianOf_nonneg (nonneg : Nonneg values) :
    ∃ q : ℚ, 0 ≤ q ∧ medianOf values = .fin q := by
  unfold medianOf
  by_cases empty : values.isEmpty = true
  · rw [if_pos empty]
    exact ⟨0, le_rfl, rfl⟩
  · rw [if_neg empty]
    -- Sorting does not change which numbers there are.
    have sorted : Nonneg (values.insertionSort (· ≤ ·)) := by
      intro value member
      exact nonneg value ((List.mem_insertionSort _).mp member)
    obtain ⟨upper, upperNonneg, upperEq⟩ := sorted.getD (values.length / 2)
    obtain ⟨lower, lowerNonneg, lowerEq⟩ := sorted.getD (values.length / 2 - 1)
    dsimp only
    by_cases odd : values.length % 2 ≠ 0
    · rw [if_pos odd]
      exact ⟨upper, upperNonneg, upperEq⟩
    · rw [if_neg odd, upperEq, lowerEq]
      exact ⟨0.5 * (lower + upper), by positivity, rfl⟩

theorem Nonneg.deviations (nonneg : Nonneg values) (centre : ℚ) :
    Nonneg (values.map fun sample => (sample - .fin centre).abs) := by
  intro deviation member
  obtain ⟨sample, among, rfl⟩ := List.mem_map.mp member
  obtain ⟨q, -, rfl⟩ := nonneg sample among
  exact ⟨|q - centre|, abs_nonneg _, by simp⟩

theorem medianOf_zeros (count : Nat) : medianOf (List.replicate count 0) = 0 := by
  unfold medianOf
  by_cases empty : (List.replicate count (0 : Scalar)).isEmpty = true
  · rw [if_pos empty]
  · rw [if_neg empty]
    -- Whatever position is read, it holds a zero.
    have sorted : (List.replicate count (0 : Scalar)).insertionSort (· ≤ ·) =
        List.replicate count 0 := by
      refine List.eq_replicate_iff.mpr ⟨by simp, ?_⟩
      intro value member
      exact List.eq_of_mem_replicate ((List.mem_insertionSort _).mp member)
    have reads : ∀ position, (List.replicate count (0 : Scalar)).getD position 0 = 0 := by
      intro position
      rcases Nat.lt_or_ge position count with within | beyond
      · simp [within]
      · simp [beyond]
    dsimp only
    rw [sorted, reads, reads]
    split_ifs
    · rfl
    · with_unfolding_all decide

end Medians

section Limits

structure Limits (config : NdtFitnessCircuitBreakerConfig) where
  floor : ℚ
  ceiling : ℚ
  medianFactor : ℚ
  madFactor : ℚ
  minimumMad : ℚ
  ratio : ℚ
  floorEq : config.minimumAdaptiveThreshold = .fin floor
  ceilingEq : config.hardRejectThreshold = .fin ceiling
  medianFactorEq : config.medianMultiplier = .fin medianFactor
  madFactorEq : config.madMultiplier = .fin madFactor
  minimumMadEq : config.minimumMad = .fin minimumMad
  ratioEq : config.recoveryThresholdRatio = .fin ratio
  floorPos : 0 < floor
  floorBelow : floor < ceiling
  medianFactorGe : 1 ≤ medianFactor
  madFactorPos : 0 < madFactor
  minimumMadPos : 0 < minimumMad
  ratioPos : 0 < ratio
  ratioBelow : ratio < 1

theorem limits_of_valid {config : NdtFitnessCircuitBreakerConfig}
    (valid : validConfig config = true) : Nonempty (Limits config) := by
  simp only [validConfig, Bool.and_eq_true, decide_eq_true_eq] at valid
  obtain ⟨⟨⟨⟨⟨⟨⟨⟨⟨⟨⟨⟨⟨⟨⟨⟨⟨-, -⟩, -⟩, floorFinite⟩, floorPos⟩, ceilingFinite⟩, floorBelow⟩,
    medianFinite⟩, medianGe⟩, madFinite⟩, madPos⟩, minimumFinite⟩, minimumPos⟩, ratioFinite⟩,
    ratioPos⟩, ratioBelow⟩, -⟩, -⟩ := valid
  obtain ⟨floor, floorEq⟩ := Scalar.isFinite_iff.1 floorFinite
  obtain ⟨ceiling, ceilingEq⟩ := Scalar.isFinite_iff.1 ceilingFinite
  obtain ⟨medianFactor, medianFactorEq⟩ := Scalar.isFinite_iff.1 medianFinite
  obtain ⟨madFactor, madFactorEq⟩ := Scalar.isFinite_iff.1 madFinite
  obtain ⟨minimumMad, minimumMadEq⟩ := Scalar.isFinite_iff.1 minimumFinite
  obtain ⟨ratio, ratioEq⟩ := Scalar.isFinite_iff.1 ratioFinite
  rw [floorEq] at floorPos floorBelow
  rw [ceilingEq] at floorBelow
  rw [medianFactorEq] at medianGe
  rw [madFactorEq] at madPos
  rw [minimumMadEq] at minimumPos
  rw [ratioEq] at ratioPos ratioBelow
  exact ⟨{
    floor, ceiling, medianFactor, madFactor, minimumMad, ratio
    floorEq, ceilingEq, medianFactorEq, madFactorEq, minimumMadEq, ratioEq
    floorPos := Scalar.fin_lt_fin.1 floorPos
    floorBelow := Scalar.fin_lt_fin.1 floorBelow
    medianFactorGe := Scalar.fin_le_fin.1 medianGe
    madFactorPos := Scalar.fin_lt_fin.1 madPos
    minimumMadPos := Scalar.fin_lt_fin.1 minimumPos
    ratioPos := Scalar.fin_lt_fin.1 ratioPos
    ratioBelow := Scalar.fin_lt_fin.1 ratioBelow }⟩

variable {self : NdtFitnessCircuitBreaker} (limits : Limits self.config)

theorem recoveryThreshold_eq {adaptive : ℚ}
    (adaptiveEq : self.thresholds.adaptiveThreshold = .fin adaptive) :
    self.thresholds.recoveryThreshold =
      .fin (max limits.minimumMad (adaptive * limits.ratio)) := by
  show Scalar.maxOf self.config.minimumMad
    (self.thresholds.adaptiveThreshold * self.config.recoveryThresholdRatio) = _
  rw [adaptiveEq, limits.minimumMadEq, limits.ratioEq, Scalar.fin_mul_fin, Scalar.maxOf_fin_fin]

theorem adaptiveThreshold_warming (warming : self.baseline.length < self.config.warmupSamples) :
    self.thresholds.adaptiveThreshold = .fin limits.ceiling := by
  rw [← limits.ceilingEq]
  exact if_neg (by simpa using warming)

theorem adaptiveThreshold_ready (ready : self.config.warmupSamples ≤ self.baseline.length)
    {median mad : ℚ} (medianEq : self.thresholds.median = .fin median)
    (madEq : self.thresholds.mad = .fin mad) :
    self.thresholds.adaptiveThreshold =
      .fin (min (max limits.floor (max (median * limits.medianFactor)
        (median + limits.madFactor * max limits.minimumMad mad))) limits.ceiling) := by
  have unfolded : self.thresholds.adaptiveThreshold =
      Scalar.clamp (.maxOf self.config.minimumAdaptiveThreshold
        (.maxOf (self.thresholds.median * self.config.medianMultiplier)
          (self.thresholds.median +
            self.config.madMultiplier * .maxOf self.config.minimumMad self.thresholds.mad)))
        self.config.minimumAdaptiveThreshold self.config.hardRejectThreshold :=
    if_pos (by simpa using ready)
  rw [unfolded, medianEq, madEq, limits.floorEq, limits.ceilingEq, limits.medianFactorEq,
    limits.madFactorEq, limits.minimumMadEq]
  simp only [Scalar.maxOf_fin_fin, Scalar.fin_mul_fin, Scalar.fin_add_fin]
  exact Scalar.clamp_of_le (le_max_left _ _)

theorem adaptiveThreshold_ge (nonneg : Nonneg self.baseline) :
    ∃ adaptive, self.thresholds.adaptiveThreshold = .fin adaptive ∧
      min (max limits.floor (limits.madFactor * limits.minimumMad)) limits.ceiling ≤ adaptive := by
  rcases Nat.lt_or_ge self.baseline.length self.config.warmupSamples with warming | ready
  · exact ⟨limits.ceiling, adaptiveThreshold_warming limits warming, min_le_right _ _⟩
  · -- Median and spread are numbers from zero on, so they only raise the threshold.
    obtain ⟨median, medianNonneg, medianEq⟩ := medianOf_nonneg nonneg
    obtain ⟨mad, madNonneg, madEq⟩ := medianOf_nonneg (nonneg.deviations median)
    have madIs : self.thresholds.mad = .fin mad := by
      show medianOf (self.baseline.map fun sample => (sample - medianOf self.baseline).abs) = _
      rw [medianEq, madEq]
    refine ⟨_, adaptiveThreshold_ready limits ready medianEq madIs, ?_⟩
    refine min_le_min_right _ (max_le_max_left _ ?_)
    have spread : limits.madFactor * limits.minimumMad ≤
        limits.madFactor * max limits.minimumMad mad :=
      mul_le_mul_of_nonneg_left (le_max_left _ _) limits.madFactorPos.le
    exact le_max_of_le_right (by linarith)

theorem recoveryThreshold_lt {adaptive : ℚ}
    (adaptiveEq : self.thresholds.adaptiveThreshold = .fin adaptive)
    (spread : limits.minimumMad < adaptive) :
    self.thresholds.recoveryThreshold < self.thresholds.adaptiveThreshold := by
  rw [recoveryThreshold_eq limits adaptiveEq, adaptiveEq, Scalar.fin_lt_fin]
  -- A fraction of a positive number lies below it.
  have positive : 0 < adaptive := limits.minimumMadPos.trans spread
  exact max_lt spread (mul_lt_of_lt_one_right positive limits.ratioBelow)

theorem minimumMad_lt {adaptive : ℚ}
    (adaptiveEq : self.thresholds.adaptiveThreshold = .fin adaptive)
    (apart : self.thresholds.recoveryThreshold < self.thresholds.adaptiveThreshold) :
    limits.minimumMad < adaptive := by
  rw [recoveryThreshold_eq limits adaptiveEq, adaptiveEq, Scalar.fin_lt_fin] at apart
  exact (le_max_left _ _).trans_lt apart

theorem minimumMad_lt_hard (limits : Limits self.config)
    (warming : self.baseline.length < self.config.warmupSamples)
    (apart : self.thresholds.recoveryThreshold < self.thresholds.adaptiveThreshold) :
    self.config.minimumMad < self.config.hardRejectThreshold := by
  have below := minimumMad_lt limits (adaptiveThreshold_warming limits warming) apart
  rw [limits.minimumMadEq, limits.ceilingEq, Scalar.fin_lt_fin]
  exact below

theorem minimumMad_lt_flat (limits : Limits self.config)
    (zeros : self.baseline = List.replicate self.config.warmupSamples 0)
    (apart : self.thresholds.recoveryThreshold < self.thresholds.adaptiveThreshold) :
    self.config.minimumMad < self.config.minimumAdaptiveThreshold ∨
      1 < self.config.madMultiplier := by
  have medianEq : self.thresholds.median = .fin 0 := by
    show medianOf self.baseline = 0
    rw [zeros, medianOf_zeros]
  have madEq : self.thresholds.mad = .fin 0 := by
    show medianOf (self.baseline.map fun sample => (sample - medianOf self.baseline).abs) = 0
    have still : ((0 : Scalar) - 0).abs = 0 := by with_unfolding_all decide
    rw [zeros, medianOf_zeros, List.map_replicate, still, medianOf_zeros]
  have ready : self.config.warmupSamples ≤ self.baseline.length := by
    rw [zeros, List.length_replicate]
  have below := minimumMad_lt limits (adaptiveThreshold_ready limits ready medianEq madEq) apart
  rw [limits.minimumMadEq, limits.floorEq, limits.madFactorEq]
  -- Median and spread are zero, so the floor and the minimal spread are what is left.
  rw [zero_mul, zero_add, max_eq_left limits.minimumMadPos.le] at below
  have positive := mul_pos limits.madFactorPos limits.minimumMadPos
  rw [max_eq_right positive.le] at below
  rcases lt_max_iff.mp (lt_min_iff.mp below).1 with belowFloor | steep
  · exact .inl (Scalar.fin_lt_fin.2 belowFloor)
  · refine .inr (Scalar.fin_lt_fin.2 ?_)
    by_contra gentle
    have atMostOne : limits.madFactor ≤ 1 := by exact_mod_cast not_lt.mp gentle
    have shrunk := mul_le_mul_of_nonneg_right atMostOne limits.minimumMadPos.le
    linarith

end Limits

section Steps

variable {self after : NdtFitnessCircuitBreaker} {fitness : Scalar}
  {decision : NdtFitnessCircuitDecision}

inductive Course (self : NdtFitnessCircuitBreaker) (fitness : Scalar)
    (after : NdtFitnessCircuitBreaker) (decision : NdtFitnessCircuitDecision) : Prop where
  | rejects (opens : after.isOpen = true) (restarts : after.recoveryStreak = 0)
      (kept : after.baseline = self.baseline) (barred : decision.allowMeasurement = false)
  | waits (wasOpen : self.isOpen = true) (stays : after.isOpen = true)
      (counted : after.recoveryStreak = nextStreak self fitness)
      (kept : after.baseline = self.baseline) (barred : decision.allowMeasurement = false)
  | recovers (wasOpen : self.isOpen = true) (closes : after.isOpen = false)
      (enough : self.config.recoveryConfirmations ≤ nextStreak self fitness)
      (appended : after.baseline = (self.appendBaseline fitness).baseline)
  | doubts (wasClosed : self.isOpen = false) (stays : after.isOpen = false)
      (kept : after.baseline = self.baseline)
  | trips (wasClosed : self.isOpen = false) (opens : after.isOpen = true)
      (restarts : after.recoveryStreak = 0) (kept : after.baseline = self.baseline)
      (barred : decision.allowMeasurement = false)
  | admits (wasClosed : self.isOpen = false) (stays : after.isOpen = false)
      (below : self.thresholds.baselineReady = true →
        ¬self.thresholds.adaptiveThreshold ≤ fitness)
      (appended : after.baseline = (self.appendBaseline fitness).baseline)

section

variable (enabled : self.config.enabled = true)
include enabled

theorem update_of_refused (bad : refused self.config fitness = true) :
    self.update fitness = self.reject fitness := by
  unfold update
  rw [if_neg (by simp [enabled]), if_pos bad]

theorem update_of_sane (sane : refused self.config fitness = false) :
    self.update fitness = if self.isOpen then self.recover fitness else self.monitor fitness := by
  unfold update
  rw [if_neg (by simp [enabled]), if_neg (by simp [sane])]

theorem update_course :
    Course self fitness (self.update fitness).1 (self.update fitness).2 := by
  cases bad : refused self.config fitness with
  | true =>
    rw [update_of_refused enabled bad]
    exact .rejects rfl rfl rfl rfl
  | false =>
    rw [update_of_sane enabled bad]
    cases before : self.isOpen with
    | true =>
      -- The open circuit either closes now or waits.
      rw [if_pos rfl]
      unfold recover
      by_cases enough : self.config.recoveryConfirmations ≤ nextStreak self fitness
      · rw [if_pos enough]
        exact .recovers before rfl enough rfl
      · rw [if_neg enough]
        exact .waits before before rfl rfl rfl
    | false =>
      rw [if_neg (by simp)]
      unfold monitor
      by_cases doubtful : (self.thresholds.baselineReady &&
          decide (self.thresholds.adaptiveThreshold ≤ fitness)) = true
      · rw [if_pos doubtful]
        by_cases confirmed : self.config.enterConfirmations ≤ self.badStreak + 1
        · rw [if_pos confirmed]
          exact .trips before rfl rfl rfl rfl
        · rw [if_neg confirmed]
          exact .doubts before before rfl
      · rw [if_neg doubtful]
        refine .admits before before ?_ rfl
        intro ready high
        exact doubtful (by simp [ready, high])

theorem refused_barred (bad : refused self.config fitness = true) :
    (self.update fitness).2.allowMeasurement = false := by
  rw [update_of_refused enabled bad]
  rfl

theorem update_limits :
    (self.update fitness).1.config = self.config ∧
      (self.update fitness).2.adaptiveThreshold = self.thresholds.adaptiveThreshold ∧
      (self.update fitness).2.recoveryThreshold = self.thresholds.recoveryThreshold ∧
      ((self.update fitness).2.transitionedOpen = true →
        (self.update fitness).1.isOpen = true ∧ (self.update fitness).1.recoveryStreak = 0) := by
  cases bad : refused self.config fitness with
  | true =>
    rw [update_of_refused enabled bad]
    exact ⟨rfl, rfl, rfl, fun _ => ⟨rfl, rfl⟩⟩
  | false =>
    rw [update_of_sane enabled bad]
    -- The branches differ in their counters and in the reason they give.
    unfold recover monitor
    dsimp only
    split_ifs
    all_goals refine ⟨rfl, rfl, rfl, ?_⟩
    all_goals first
      | exact fun _ => ⟨rfl, rfl⟩
      | exact fun opened => absurd opened (by simp [thresholds])

end

theorem sane_fin {config : NdtFitnessCircuitBreakerConfig} (limits : Limits config)
    (sane : refused config fitness = false) :
    ∃ q : ℚ, 0 ≤ q ∧ q < limits.ceiling ∧ fitness = .fin q := by
  simp only [refused, invalid, Bool.or_eq_false_iff, Bool.not_eq_false', decide_eq_false_iff_not]
    at sane
  obtain ⟨⟨finite, notNegative⟩, notHard⟩ := sane
  obtain ⟨q, rfl⟩ := Scalar.isFinite_iff.1 finite
  rw [limits.ceilingEq, Scalar.fin_le_fin] at notHard
  exact ⟨q, not_lt.mp fun below => notNegative (Scalar.fin_lt_fin.2 below), not_le.mp notHard, rfl⟩

theorem sane_of_appended (enabled : self.config.enabled = true)
    (changed : (self.update fitness).1.baseline ≠ self.baseline) :
    refused self.config fitness = false := by
  cases bad : refused self.config fitness with
  | false => rfl
  | true =>
    rw [update_of_refused enabled bad] at changed
    exact absurd rfl changed

end Steps

end NdtFitnessCircuitBreaker
end NdtSlam
