import Mathlib.Data.Prod.Lex
import NdtSlam.Safety.Evaluator

/-! How the evaluation of a frame decides on its clusters. -/

namespace NdtSlam.CargoSafetyEvaluator

variable {config : CargoSafetyConfig} {input : CargoSafetyInput}
  {perception : ObstaclePerceptionResult} {perceived : ObstaclePerceptionCluster}
  {clusters : List ObstaclePerceptionCluster}

section Evidence

section

variable (config : CargoSafetyConfig) (input : CargoSafetyInput)
  (perceived : ObstaclePerceptionCluster)

def clearanceOf : Scalar :=
  HazardEvaluator.conservativeClearance (conservativeBottom config input) perceived

def overheadOf : Bool :=
  HazardEvaluator.overhead input.footprintBase.maxZ config.overheadSeparationMarginM perceived

def continuousOf : Bool :=
  config.obstacleMinVerticalContinuityRatio ≤ perceived.verticalContinuityRatio

def lowOf : Bool :=
  clearanceOf config input perceived < config.minimumVerticalClearanceM

end

theorem measurable_iff : measurable config input perceived = true ↔
    HazardEvaluator.geometryValid (hazardInput config input) perceived = true := by
  -- Usable geometry already makes every tested metric finite.
  constructor
  · intro measured
    simp only [measurable, Bool.and_eq_true] at measured
    exact HazardEvaluator.evaluate_valid.1 measured.1.1.1.1
  · intro usable
    obtain ⟨⟨safeBottom, bottomValue⟩, ⟨distance, distanceValue⟩, ⟨top, topValue⟩, uncertainty,
      uncertaintyValue⟩ := HazardEvaluator.geometryValid_finite usable
    simp [measurable, evidenceOf, HazardEvaluator.evaluate, usable,
      HazardEvaluator.conservativeClearance, bottomValue, distanceValue, topValue,
      uncertaintyValue]

theorem measurable_numbers (measured : measurable config input perceived = true) :
    (∃ distance : ℚ, perceived.footprintDistanceM = .fin distance) ∧
      (∃ clearance : ℚ, clearanceOf config input perceived = .fin clearance) ∧
      (∃ top : ℚ, perceived.topZ95M = .fin top) ∧
      ∃ uncertainty : ℚ, perceived.obstacleUncertaintyM = .fin uncertainty := by
  obtain ⟨⟨safeBottom, bottomValue⟩, distance, ⟨top, topValue⟩, uncertainty, uncertaintyValue⟩ :=
    HazardEvaluator.geometryValid_finite (measurable_iff.1 measured)
  have bottom : conservativeBottom config input = .fin safeBottom := bottomValue
  have clearance : clearanceOf config input perceived = .fin (safeBottom - (top + uncertainty)) := by
    simp [clearanceOf, HazardEvaluator.conservativeClearance, bottom, topValue, uncertaintyValue]
  exact ⟨distance, ⟨_, clearance⟩, ⟨top, topValue⟩, uncertainty, uncertaintyValue⟩

theorem evidenceOf_measured (measured : measurable config input perceived = true) :
    (evidenceOf config input perceived).conservativeClearanceM =
        clearanceOf config input perceived ∧
      (evidenceOf config input perceived).warningCode =
        resolvedCode config (!overheadOf config input perceived &&
          continuousOf config perceived && lowOf config input perceived)
          perceived.footprintDistanceM ∧
      (evidenceOf config input perceived).potentialWarningCode =
        potentialCode config (!overheadOf config input perceived &&
          !continuousOf config perceived && lowOf config input perceived &&
          perceived.footprintDistanceM ≤ config.level2DistanceM)
          perceived.footprintDistanceM := by
  -- The clearance is finite, so its validity drops out of the unresolved test.
  have usable := measurable_iff.1 measured
  obtain ⟨_, ⟨clearance, clearanceValue⟩, _⟩ := measurable_numbers measured
  have finite : (HazardEvaluator.conservativeClearance
      (hazardInput config input).safeBottomZM perceived).isFinite = true :=
    Scalar.isFinite_iff.2 ⟨clearance, clearanceValue⟩
  simp only [evidenceOf, HazardEvaluator.evaluate, usable, Bool.not_true, Bool.false_eq_true,
    if_false, finite, Bool.true_and]
  exact ⟨rfl, rfl, rfl⟩

theorem resolvedCode_cases (low : Bool) (distanceM : Scalar) :
    resolvedCode config low distanceM = safeCode ∨ resolvedCode config low distanceM = level1Code ∨
      resolvedCode config low distanceM = level2Code := by
  unfold resolvedCode
  split_ifs
  all_goals simp

theorem potentialCode_cases (blocker : Bool) (distanceM : Scalar) :
    potentialCode config blocker distanceM = 0 ∨
      potentialCode config blocker distanceM = level1Code ∨
      potentialCode config blocker distanceM = level2Code := by
  unfold potentialCode
  split_ifs
  all_goals simp

end Evidence

section Order

def dangerKey (evidence : CargoSafetyClusterEvidence) : ℕᵒᵈ ×ₗ ℚ ×ₗ ℚ ×ₗ ℕ :=
  toLex (OrderDual.toDual (warningPriority evidence.warningCode),
    toLex (evidence.conservativeClearanceM.value,
      toLex (evidence.footprintDistanceM.value, evidence.clusterIndex)))

theorem isMoreDangerous_iff {first second : CargoSafetyClusterEvidence}
    {firstClearance firstDistance secondClearance secondDistance : ℚ}
    (clearance : first.conservativeClearanceM = .fin firstClearance)
    (distance : first.footprintDistanceM = .fin firstDistance)
    (clearance' : second.conservativeClearanceM = .fin secondClearance)
    (distance' : second.footprintDistanceM = .fin secondDistance) :
    isMoreDangerous first second = true ↔ dangerKey first < dangerKey second := by
  simp only [dangerKey, Prod.Lex.toLex_lt_toLex, clearance, distance, clearance', distance',
    Scalar.value, OrderDual.toDual_lt_toDual]
  unfold isMoreDangerous
  simp only [clearance, distance, clearance', distance', Scalar.same, bne_iff_ne, ne_eq]
  -- Each level of the comparison is decided by the first difference.
  split_ifs with severity nearer closer
  all_goals simp_all

end Order

section Recording

def leading (result : CargoSafetyResult) : Option CargoSafetyClusterEvidence :=
  if result.hasClusterEvidence then some result.mostDangerousCluster else none

def recorded (evidence : List CargoSafetyClusterEvidence) (result : CargoSafetyResult) :
    CargoSafetyResult :=
  evidence.foldl record result

variable {result : CargoSafetyResult} {evidence : List CargoSafetyClusterEvidence}

theorem leading_record (piece : CargoSafetyClusterEvidence) :
    leading (record result piece) = keepBetter isMoreDangerous (leading result) piece := by
  unfold record leading keepBetter
  cases known : result.hasClusterEvidence with
  | false => simp
  | true =>
    by_cases worse : isMoreDangerous piece result.mostDangerousCluster = true
    all_goals simp [worse]

theorem leading_recorded (fresh : result.hasClusterEvidence = false) :
    leading (recorded evidence result) = foremost isMoreDangerous evidence := by
  -- Recording and keeping the better of two run side by side.
  have along : ∀ start : CargoSafetyResult,
      leading (recorded evidence start) =
        evidence.foldl (keepBetter isMoreDangerous) (leading start) := by
    induction evidence with
    | nil =>
      intro start
      rfl
    | cons piece rest ih =>
      intro start
      have next := ih (record start piece)
      rw [leading_record] at next
      exact next
  have empty : leading result = none := by simp [leading, fresh]
  rw [along result, empty]
  rfl

theorem recorded_frame :
    (recorded evidence result).evaluatedClusterCount =
        result.evaluatedClusterCount + evidence.length ∧
      (recorded evidence result).clusterEvidence = result.clusterEvidence ++ evidence ∧
      (recorded evidence result).inputValid = result.inputValid ∧
      (recorded evidence result).warningValid = result.warningValid ∧
      (recorded evidence result).fault = result.fault := by
  have one : ∀ (start : CargoSafetyResult) (piece : CargoSafetyClusterEvidence),
      (record start piece).evaluatedClusterCount = start.evaluatedClusterCount + 1 ∧
        (record start piece).clusterEvidence = start.clusterEvidence ++ [piece] ∧
        (record start piece).inputValid = start.inputValid ∧
        (record start piece).warningValid = start.warningValid ∧
        (record start piece).fault = start.fault := by
    intro start piece
    unfold record
    split_ifs
    all_goals simp
  induction evidence generalizing result with
  | nil => simp [recorded]
  | cons piece rest ih =>
    obtain ⟨count, kept, input, warned, fault⟩ := one result piece
    obtain ⟨count', kept', input', warned', fault'⟩ := @ih (record result piece)
    refine ⟨?_, ?_, input'.trans input, warned'.trans warned, fault'.trans fault⟩
    · have total : (recorded rest (record result piece)).evaluatedClusterCount =
          result.evaluatedClusterCount + (rest.length + 1) := by omega
      exact total
    · have joined : (recorded rest (record result piece)).clusterEvidence =
          result.clusterEvidence ++ piece :: rest := by simp [kept', kept]
      exact joined

theorem foldlM_evaluateCluster (measured : ∀ perceived ∈ clusters,
    measurable config input perceived = true) (result : CargoSafetyResult) :
    clusters.foldlM (evaluateCluster config input) result =
      .ok (recorded (clusters.map (evidenceOf config input)) result) := by
  induction clusters generalizing result with
  | nil => rfl
  | cons head rest ih =>
    obtain ⟨headMeasured, restMeasured⟩ := List.forall_mem_cons.mp measured
    have step : evaluateCluster config input result head =
        .ok (record result (evidenceOf config input head)) := by
      simp [evaluateCluster, headMeasured]
    rw [List.foldlM_cons, step]
    exact ih restMeasured _

theorem foldlM_evaluateCluster_refused (result : CargoSafetyResult)
    (unmeasured : ¬∀ perceived ∈ clusters, measurable config input perceived = true) :
    ∃ rejected, clusters.foldlM (evaluateCluster config input) result = .error rejected ∧
      rejected.inputValid = false ∧ rejected.warningValid = result.warningValid ∧
      rejected.fault = .internalError := by
  induction clusters generalizing result with
  | nil => simp at unmeasured
  | cons head rest ih =>
    rw [List.foldlM_cons]
    by_cases headMeasured : measurable config input head = true
    · -- The fault lies further back.
      have step : evaluateCluster config input result head =
          .ok (record result (evidenceOf config input head)) := by
        simp [evaluateCluster, headMeasured]
      rw [step]
      have later : ¬∀ perceived ∈ rest, measurable config input perceived = true := by
        intro restMeasured
        exact unmeasured (List.forall_mem_cons.mpr ⟨headMeasured, restMeasured⟩)
      obtain ⟨rejected, refused, input', warned, fault⟩ := ih (record result _) later
      have same := (@recorded_frame result [evidenceOf config input head]).2.2.2.1
      exact ⟨rejected, refused, input', warned.trans same, fault⟩
    · have step : evaluateCluster config input result head =
          .error { result with
            inputValid := false
            fault := .internalError
            reason := "non_finite_cluster_result" } := by
        simp [evaluateCluster, headMeasured]
      rw [step]
      exact ⟨_, rfl, rfl, rfl, rfl⟩

end Recording

section Decision

variable {result : CargoSafetyResult}

def Unrivalled (result : CargoSafetyResult) : Prop :=
  ∀ unresolved, worstUnresolved result.clusterEvidence = some unresolved →
    warningPriority unresolved.potentialWarningCode ≤
      warningPriority result.mostDangerousCluster.warningCode

theorem conclude_announced (known : result.hasClusterEvidence = true)
    (unrivalled : Unrivalled result) : conclude result = announce result := by
  unfold conclude
  rw [if_neg (by simp [known])]
  cases worst : worstUnresolved result.clusterEvidence with
  | none => rfl
  | some unresolved =>
    have bounded := unrivalled unresolved worst
    exact if_neg (not_lt.mpr bounded)

theorem conclude_refused
    (rivalled : ¬(result.hasClusterEvidence = true ∧ Unrivalled result)) :
    (conclude result).warningValid = false := by
  unfold conclude
  split_ifs with missing
  · rfl
  · -- Some unresolved obstacle is more severe.
    have known : result.hasClusterEvidence = true := by simpa using missing
    cases worst : worstUnresolved result.clusterEvidence with
    | none =>
      have unrivalled : Unrivalled result := by
        intro unresolved found
        rw [worst] at found
        cases found
      exact absurd ⟨known, unrivalled⟩ rivalled
    | some unresolved =>
      dsimp only
      split_ifs with severe
      · rfl
      · have unrivalled : Unrivalled result := by
          intro other found
          rw [worst, Option.some.injEq] at found
          subst found
          exact not_lt.mp severe
        exact absurd ⟨known, unrivalled⟩ rivalled

theorem announce_frame :
    (announce result).warningValid = true ∧
      (announce result).warningCode = result.mostDangerousCluster.warningCode ∧
      (announce result).fault = .none ∧
      (announce result).mostDangerousCluster = result.mostDangerousCluster ∧
      (announce result).hasClusterEvidence = result.hasClusterEvidence ∧
      (announce result).inputValid = result.inputValid ∧
      (announce result).evaluatedClusterCount = result.evaluatedClusterCount := by
  unfold announce
  dsimp only
  split_ifs
  all_goals simp

end Decision

section Frame

def ready (config : CargoSafetyConfig) (input : CargoSafetyInput)
    (perception : ObstaclePerceptionResult) : Bool :=
  (validateCargoSafetyConfig config).valid && input.evaluationTimeSec.isFinite &&
    !input.obstacleCloudBase.isNone && input.height.valid && heightValuesValid input.height &&
    !(input.evaluationTimeSec - input.height.stampSec < -config.futureStampToleranceSec) &&
    !input.height.stale && isValidFootprint input.footprintBase && perception.valid

def freshResult (input : CargoSafetyInput) (perception : ObstaclePerceptionResult) :
    CargoSafetyResult where
  heightAgeSec := input.evaluationTimeSec - input.height.stampSec
  finiteInputPoints := perception.finiteInputPoints
  inputValid := true

theorem evaluate_ready (passes : ready config input perception = true) :
    evaluate config input perception =
      evaluateClusters config input perception.clusters (freshResult input perception) := by
  simp only [ready, Bool.and_eq_true, Bool.not_eq_true'] at passes
  obtain ⟨⟨⟨⟨⟨⟨⟨⟨configured, timed⟩, clouded⟩, measured⟩, usable⟩, past⟩, current⟩, outlined⟩,
    perceived⟩ := passes
  simp only [decide_eq_false_iff_not] at past
  simp [evaluate, configured, timed, clouded, measured, usable, past, current, outlined,
    perceived, freshResult]

theorem evaluate_unready (fails : ready config input perception = false) :
    (evaluate config input perception).warningValid = false := by
  -- Every branch but the last leaves the warning at its default.
  unfold evaluate
  dsimp only
  split_ifs with configured timed measured usable past current outlined perceived
  · rfl
  · rfl
  · rfl
  · rfl
  · rfl
  · rfl
  · rfl
  · rfl
  · rfl
  · -- A frame that comes through all checks is a ready one.
    have passes : ready config input perception = true := by
      simp only [Bool.not_eq_true', Bool.or_eq_true, not_or, Bool.not_eq_false] at *
      simp [ready, configured, timed.1, timed.2, measured, usable, past, current, outlined,
        perceived]
    rw [passes] at fails
    cases fails

theorem evaluateClusters_nil (result : CargoSafetyResult) :
    evaluateClusters config input [] result =
      { result with
        warningValid := true
        warningCode := safeCode
        fault := .none
        evidenceState := .clear
        reason := "clear_no_external_obstacle" } := rfl

theorem evaluateClusters_measured (some_ : clusters ≠ []) (measured : ∀ perceived ∈ clusters,
    measurable config input perceived = true) (result : CargoSafetyResult) :
    evaluateClusters config input clusters result =
      conclude (recorded (clusters.map (evidenceOf config input)) result) := by
  unfold evaluateClusters
  rw [if_neg (by simpa using some_), foldlM_evaluateCluster measured]

theorem evaluateClusters_unmeasured {result : CargoSafetyResult}
    (fresh : result.warningValid = false)
    (unmeasured : ¬∀ perceived ∈ clusters, measurable config input perceived = true) :
    (evaluateClusters config input clusters result).warningValid = false := by
  have some_ : clusters ≠ [] := by
    intro empty
    exact unmeasured (by simp [empty])
  obtain ⟨rejected, refused, _, warned, _⟩ := foldlM_evaluateCluster_refused result unmeasured
  unfold evaluateClusters
  rw [if_neg (by simpa using some_), refused]
  exact warned.trans fresh

def moreDangerousCluster (config : CargoSafetyConfig) (input : CargoSafetyInput)
    (first second : ObstaclePerceptionCluster) : Bool :=
  isMoreDangerous (evidenceOf config input first) (evidenceOf config input second)

theorem moreDangerousCluster_iff {first second : ObstaclePerceptionCluster}
    (measured : measurable config input first = true)
    (measured' : measurable config input second = true) :
    moreDangerousCluster config input first second = true ↔
      dangerKey (evidenceOf config input first) < dangerKey (evidenceOf config input second) := by
  obtain ⟨⟨distance, distanceValue⟩, ⟨clearance, clearanceValue⟩, _⟩ := measurable_numbers measured
  obtain ⟨⟨distance', distanceValue'⟩, ⟨clearance', clearanceValue'⟩, _⟩ :=
    measurable_numbers measured'
  exact isMoreDangerous_iff ((evidenceOf_measured measured).1.trans clearanceValue) distanceValue
    ((evidenceOf_measured measured').1.trans clearanceValue') distanceValue'

structure Announced (config : CargoSafetyConfig) (input : CargoSafetyInput)
    (clusters : List ObstaclePerceptionCluster) (leader : ObstaclePerceptionCluster)
    (result : CargoSafetyResult) : Prop where
  measured : ∀ perceived ∈ clusters, measurable config input perceived = true
  foremost : foremost (moreDangerousCluster config input) clusters = some leader
  recorded : ∃ entry : CargoSafetyResult, result = announce entry ∧
    entry.mostDangerousCluster = evidenceOf config input leader ∧
    entry.hasClusterEvidence = true ∧ entry.inputValid = true ∧
    entry.evaluatedClusterCount = clusters.length ∧
    entry.clusterEvidence = clusters.map (evidenceOf config input) ∧ Unrivalled entry

theorem evaluate_warned_ready (warned : (evaluate config input perception).warningValid = true) :
    ready config input perception = true := by
  by_contra fails
  rw [evaluate_unready (by simpa using fails)] at warned
  cases warned

theorem evaluate_announced (warned : (evaluate config input perception).warningValid = true)
    (some_ : perception.clusters ≠ []) :
    ∃ leader, Announced config input perception.clusters leader
      (evaluate config input perception) := by
  have passes := evaluate_warned_ready warned
  rw [evaluate_ready passes] at warned ⊢
  -- An unmeasurable cluster would have ended the evaluation.
  have measured : ∀ perceived ∈ perception.clusters, measurable config input perceived = true := by
    by_contra unmeasured
    rw [evaluateClusters_unmeasured rfl unmeasured] at warned
    cases warned
  rw [evaluateClusters_measured some_ measured] at warned ⊢
  have decided : (recorded (perception.clusters.map (evidenceOf config input))
      (freshResult input perception)).hasClusterEvidence = true ∧
      Unrivalled (recorded (perception.clusters.map (evidenceOf config input))
        (freshResult input perception)) := by
    by_contra rivalled
    rw [conclude_refused rivalled] at warned
    cases warned
  rw [conclude_announced decided.1 decided.2]
  have lead := @leading_recorded (freshResult input perception)
    (perception.clusters.map (evidenceOf config input)) rfl
  rw [foremost_map] at lead
  unfold leading at lead
  rw [if_pos decided.1] at lead
  obtain ⟨leader, found, same⟩ := Option.map_eq_some_iff.mp lead.symm
  obtain ⟨count, kept, inputValid, _⟩ := @recorded_frame (freshResult input perception)
    (perception.clusters.map (evidenceOf config input))
  refine ⟨leader, measured, found, _, rfl, same.symm, decided.1, inputValid, ?_, ?_, decided.2⟩
  · simpa [freshResult] using count
  · simpa [freshResult] using kept

end Frame

end NdtSlam.CargoSafetyEvaluator
