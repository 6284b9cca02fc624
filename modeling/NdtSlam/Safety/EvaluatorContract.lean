import NdtSlam.Alarm.StatusContract
import NdtSlam.Safety.EvaluatorDecision

/-! The status of an evaluated frame, and when the contract of the alarm accepts it. -/

namespace NdtSlam

structure MapHeightRow where
  x : ℚ
  y : ℚ
  z : ℚ
  offset : ℚ

def MapHeightRow.heightOf (row : MapHeightRow) (point : Vec3) : Scalar :=
  .fin row.x * point.x + .fin row.y * point.y + .fin row.z * point.z + .fin row.offset

def CargoSafetyEvidenceState.number : CargoSafetyEvidenceState → Int
  | .unknown => 0
  | .clear => 1
  | .hazardConfirmed => 2
  | .hazardCandidate => 3
  | .trackConfirmationPending => 4
  | .sparsePending => 5
  | .sourceUnresolved => 6
  | .hardFault => 7
  | .reviewRequired => 8

def CargoSafetyConfig.thresholds (config : CargoSafetyConfig) : StatusContractConfig where
  level1DistanceM := config.level1DistanceM
  level2DistanceM := config.level2DistanceM
  minimumVerticalClearanceM := config.minimumVerticalClearanceM

structure FormalCargoContext where
  poseMapBase : MapHeightRow
  hookSignalRole : Int
  hookSignalValid : Bool
  hookSignalConflict : Bool
  hookLoadState : Int
  cargoTrackId : Nat
  obstacleTrackId : Nat
  obstacleValidatedStreak : Nat
  obstacleLargeGeometryValid : Bool
  obstacleProvenanceValid : Bool
  confidence : Scalar
  roleKnown : hookSignalRole = 0 ∨ hookSignalRole = 1 ∨ hookSignalRole = 2
  loaded : hookSignalRole = 1 → hookSignalValid = true ∧ hookLoadState = 3

def FormalCargoContext.status (context : FormalCargoContext) (result : CargoSafetyResult) :
    StatusContractInput where
  schemaValid := true
  valid := true
  warningValid := result.warningValid
  requestedCode := result.warningCode
  warningCode := result.warningCode
  faultCode := 0
  faultMask := 0
  localizationValid := true
  hookSignalRole := context.hookSignalRole
  hookSignalValid := context.hookSignalValid
  hookSignalConflict := context.hookSignalConflict
  hookLoadState := context.hookLoadState
  noCargoConfirmed := false
  cargoValid := true
  cargoTrackId := context.cargoTrackId
  evidenceState := result.evidenceState.number
  obstacleValid := result.inputValid && result.fault == .none
  obstacleTrackId := context.obstacleTrackId
  obstacleValidatedStreak := context.obstacleValidatedStreak
  obstacleLargeGeometryValid := context.obstacleLargeGeometryValid
  obstacleProvenanceValid := context.obstacleProvenanceValid
  confidence := context.confidence
  -- The count travels in 32 bits.
  obstacleCount := min result.evaluatedClusterCount 4294967295
  -- Without evidence the message keeps its zeros.
  nearestObstacleDistanceM :=
    if result.hasClusterEvidence then result.mostDangerousCluster.footprintDistanceM else 0
  obstacleTopZMap :=
    if result.hasClusterEvidence then
      context.poseMapBase.heightOf {
        x := result.mostDangerousCluster.nearestPointBase.x
        y := result.mostDangerousCluster.nearestPointBase.y
        z := result.mostDangerousCluster.obstacleTopZ95M }
    else 0
  obstacleUncertaintyM :=
    if result.hasClusterEvidence then result.mostDangerousCluster.obstacleUncertaintyM else 0
  conservativeVerticalClearanceM :=
    if result.hasClusterEvidence then result.mostDangerousCluster.conservativeClearanceM else 0

namespace StatusContractInput

open AlarmStateMachine

def geometryMatches (input : StatusContractInput) (config : StatusContractConfig) : Bool :=
  if input.warningCode == clear then input.safeGeometry config
  else if input.warningCode == level1Warning then input.level1Geometry config
  else input.level2Geometry config

structure WarnsOfLoad (status : StatusContractInput) : Prop where
  schema : status.schemaValid = true
  valid : status.valid = true
  warned : status.warningValid = true
  requested : status.requestedCode = status.warningCode
  known : status.warningCode = clear ∨ status.warningCode = level1Warning ∨
    status.warningCode = level2Warning
  faultless : status.faultCode = 0
  unmasked : status.faultMask = 0
  role : status.hookRoleValid = true
  loaded : status.validLoaded = true

variable {status : StatusContractInput} {config : StatusContractConfig}

theorem validateStatusContract_warns (warns : WarnsOfLoad status)
    (configured : isValidStatusContractConfig config = true) :
    validateStatusContract status config =
      if status.warningCode == clear then status.clearStatus config
      else status.hazardStatus config := by
  obtain ⟨schema, valid, warned, requested, known, faultless, unmasked, role, _⟩ := warns
  rcases known with code | code | code
  all_goals
    simp [validateStatusContract, configured, schema, role, warningCodeValid, faultCodeValid,
      isAllowedCode, faultless, requested, code, unmasked, warned, valid, clear, level1Warning,
      level2Warning, anomalyReview]

theorem warns_accepted_iff (warns : WarnsOfLoad status) (counted : 0 < status.obstacleCount) :
    ((validateStatusContract status config).valid = true ∧
        (validateStatusContract status config).code = status.warningCode) ↔
      isValidStatusContractConfig config = true ∧ status.clusterGeometryValid = true ∧
        status.geometryMatches config = true := by
  by_cases configured : isValidStatusContractConfig config = true
  · -- A load on the hook excludes the empty hook and the provisional load.
    have loaded := warns.loaded
    have notEmpty : status.safeEmpty = false := by
      simp only [validLoaded, Bool.and_eq_true] at loaded
      simp [safeEmpty, loaded]
    have notProvisional : status.provisionalPositiveLoaded = false := by
      simp only [validLoaded, Bool.and_eq_true] at loaded
      simp [provisionalPositiveLoaded, loaded]
    have some_ : status.obstacleCount ≠ 0 := by omega
    rw [validateStatusContract_warns warns configured]
    rcases warns.known with code | code | code
    · by_cases described : status.clusterGeometryValid = true
      all_goals by_cases safe : status.safeGeometry config = true
      all_goals
        simp [geometryMatches, clearStatus, violation, configured, code, notEmpty, loaded, some_,
          described, safe]
    · by_cases described : status.clusterGeometryValid = true
      all_goals by_cases near : status.level1Geometry config = true
      all_goals
        simp [geometryMatches, hazardStatus, violation, configured, code, notProvisional, loaded,
          described, near, clear, level1Warning, level2Warning]
    · by_cases described : status.clusterGeometryValid = true
      all_goals by_cases near : status.level2Geometry config = true
      all_goals
        simp [geometryMatches, hazardStatus, violation, configured, code, notProvisional, loaded,
          described, near, clear, level1Warning, level2Warning]
  · have refused : validateStatusContract status config =
        violation "status_contract_config_invalid" := by
      simp [validateStatusContract, configured]
    simp [refused, configured, violation]

theorem warns_accepted_unobstructed (warns : WarnsOfLoad status)
    (code : status.warningCode = clear) (counted : status.obstacleCount = 0) :
    ((validateStatusContract status config).valid = true ∧
        (validateStatusContract status config).code = status.warningCode) ↔
      isValidStatusContractConfig config = true := by
  by_cases configured : isValidStatusContractConfig config = true
  · rw [validateStatusContract_warns warns configured]
    have loaded := warns.loaded
    by_cases empty : status.safeEmpty = true
    all_goals simp [clearStatus, configured, code, loaded, counted, empty]
  · have refused : validateStatusContract status config =
        violation "status_contract_config_invalid" := by
      simp [validateStatusContract, configured]
    simp [refused, configured, violation]

end StatusContractInput

namespace CargoSafetyEvaluator

open StatusContractInput

/-- The measurements of the cluster can be put into a status. -/
structure Presentable (perceived : ObstaclePerceptionCluster) : Prop where
  distance : 0 ≤ perceived.footprintDistanceM
  uncertainty : 0 ≤ perceived.obstacleUncertaintyM
  nearestX : perceived.nearestPointBase.x.isFinite = true
  nearestY : perceived.nearestPointBase.y.isFinite = true

def CloseOverhead (config : CargoSafetyConfig) (input : CargoSafetyInput)
    (perceived : ObstaclePerceptionCluster) : Prop :=
  overheadOf config input perceived = true ∧ lowOf config input perceived = true ∧
    perceived.footprintDistanceM ≤ config.level2DistanceM

variable {config : CargoSafetyConfig} {input : CargoSafetyInput}
  {perception : ObstaclePerceptionResult} {perceived : ObstaclePerceptionCluster}

theorem heightOf_finite (row : MapHeightRow) (x y : Scalar) (z : ℚ) :
    (row.heightOf ⟨x, y, .fin z⟩).isFinite = true ↔ x.isFinite = true ∧ y.isFinite = true := by
  simp [MapHeightRow.heightOf, Scalar.add_isFinite, Scalar.fin_mul_isFinite]

theorem resolvedCode_safe {low : Bool} {distance : ℚ}
    (code : resolvedCode config low (.fin distance) = safeCode)
    (near : Scalar.fin distance ≤ config.level2DistanceM)
    {level1 : ℚ} (level1Value : config.level1DistanceM = .fin level1) : low = false := by
  cases low with
  | false => rfl
  | true =>
    -- A distance is either within the first level or beyond it.
    exfalso
    rcases le_or_gt distance level1 with within | beyond
    · simp [resolvedCode, level1Value, within, level1Code, safeCode] at code
    · simp [resolvedCode, level1Value, near, not_le.mpr beyond, beyond, level2Code,
        safeCode] at code

theorem resolvedCode_level1 {low : Bool} {distanceM : Scalar}
    (code : resolvedCode config low distanceM = level1Code) :
    low = true ∧ distanceM ≤ config.level1DistanceM := by
  unfold resolvedCode at code
  split_ifs at code with near far
  · simpa using near
  · simp [level1Code, level2Code] at code
  · simp [level1Code, safeCode] at code

theorem resolvedCode_level2 {low : Bool} {distanceM : Scalar}
    (code : resolvedCode config low distanceM = level2Code) :
    low = true ∧ config.level1DistanceM < distanceM ∧ distanceM ≤ config.level2DistanceM := by
  unfold resolvedCode at code
  split_ifs at code with near far
  · simp [level1Code, level2Code] at code
  · simpa [and_assoc] using far
  · simp [level2Code, safeCode] at code

theorem unrivalled_safe {result : CargoSafetyResult} (unrivalled : Unrivalled result)
    (code : result.mostDangerousCluster.warningCode = safeCode)
    {clusters : List ObstaclePerceptionCluster}
    (kept : result.clusterEvidence = clusters.map (evidenceOf config input))
    (member : perceived ∈ clusters) :
    (evidenceOf config input perceived).potentialWarningCode = 0 := by
  by_contra hidden
  -- A potential code is a warning, which outranks the safe code.
  have among : evidenceOf config input perceived ∈
      result.clusterEvidence.filter fun piece => piece.potentialWarningCode != 0 := by
    rw [kept]
    simp only [List.mem_filter, bne_iff_ne, ne_eq]
    exact ⟨List.mem_map_of_mem member, hidden⟩
  cases worst : worstUnresolved result.clusterEvidence with
  | none =>
    have empty := foremost_eq_none.1 worst
    rw [empty] at among
    cases among
  | some unresolved =>
    have bounded := unrivalled unresolved worst
    have found := (List.mem_filter.mp (foremost_mem worst))
    rw [kept] at found
    obtain ⟨source, _, rfl⟩ := List.mem_map.mp found.1
    have nonzero : (evidenceOf config input source).potentialWarningCode ≠ 0 := by
      simpa using found.2
    rcases @potentialCode_cases config _ source.footprintDistanceM with none_ | warning | warning
    · exact nonzero none_
    · have priority : warningPriority (evidenceOf config input source).potentialWarningCode = 3 := by
        rw [show (evidenceOf config input source).potentialWarningCode = level1Code from warning]
        rfl
      rw [priority, code] at bounded
      simp [warningPriority, safeCode, level1Code, level2Code] at bounded
    · have priority : warningPriority (evidenceOf config input source).potentialWarningCode = 2 := by
        rw [show (evidenceOf config input source).potentialWarningCode = level2Code from warning]
        rfl
      rw [priority, code] at bounded
      simp [warningPriority, safeCode, level1Code, level2Code] at bounded

theorem thresholds_numbers (valid : (validateCargoSafetyConfig config).valid = true) :
    (∃ level1 : ℚ, config.level1DistanceM = .fin level1) ∧
      (∃ level2 : ℚ, config.level2DistanceM = .fin level2) ∧
      ∃ minimum : ℚ, config.minimumVerticalClearanceM = .fin minimum := by
  have passes := (ConfigCheck.validate_valid config.checks).mp valid
  obtain ⟨level1, _, level1Value⟩ := ConfigCheck.nonnegative_passes (passes _ List.mem_cons_self)
  obtain ⟨level2, _, level2Value⟩ :=
    ConfigCheck.nonnegative_passes (passes _ (List.mem_cons_of_mem _ List.mem_cons_self))
  have clearance := passes (.failsWhen "minimum_vertical_clearance_m" "non_finite"
    (!config.minimumVerticalClearanceM.isFinite)) (by simp [CargoSafetyConfig.checks])
  refine ⟨⟨level1, level1Value⟩, ⟨level2, level2Value⟩, Scalar.isFinite_iff.1 ?_⟩
  simpa [ConfigCheck.failsWhen] using clearance

variable {context : FormalCargoContext}

theorem status_warns {result : CargoSafetyResult}
    (warned : result.warningValid = true) (inputValid : result.inputValid = true)
    (faultless : result.fault = .none)
    (known : result.warningCode = safeCode ∨ result.warningCode = level1Code ∨
      result.warningCode = level2Code) : WarnsOfLoad (context.status result) where
  schema := rfl
  valid := rfl
  warned := warned
  requested := rfl
  known := by
    rcases known with code | code | code
    · exact .inl (congrArg Nat.cast code)
    · exact .inr (.inl (congrArg Nat.cast code))
    · exact .inr (.inr (congrArg Nat.cast code))
  faultless := rfl
  unmasked := rfl
  role := by
    rcases context.roleKnown with role | role | role
    all_goals
      simp [FormalCargoContext.status, hookRoleValid, role, hookRoleDisabled, hookRoleRequired,
        hookRoleAuxiliary]
  loaded := by
    -- A required signal is valid and reports the load.
    by_cases required : context.hookSignalRole = 1
    · obtain ⟨signal, state⟩ := context.loaded required
      simp [FormalCargoContext.status, validLoaded, hookSupportsLoaded, signal, state, hookLoaded,
        inputValid, faultless]
    · simp [FormalCargoContext.status, validLoaded, hookSupportsLoaded, gravityRequired,
        hookRoleRequired, required, inputValid, faultless]

theorem status_describes {result : CargoSafetyResult}
    (measured : measurable config input perceived = true)
    (shown : result.mostDangerousCluster = evidenceOf config input perceived)
    (present : result.hasClusterEvidence = true) (counted : 0 < result.evaluatedClusterCount) :
    (context.status result).clusterGeometryValid = true ↔ Presentable perceived := by
  obtain ⟨⟨distance, distanceValue⟩, ⟨clearance, clearanceValue⟩, ⟨top, topValue⟩, uncertainty,
    uncertaintyValue⟩ := measurable_numbers measured
  have clearanceShown := (evidenceOf_measured measured).1.trans clearanceValue
  have height := heightOf_finite context.poseMapBase perceived.nearestPointBase.x
    perceived.nearestPointBase.y top
  have total : 0 < min result.evaluatedClusterCount 4294967295 := by omega
  constructor
  · intro described
    simp only [clusterGeometryValid, FormalCargoContext.status, present, shown, if_true,
      Bool.and_eq_true, decide_eq_true_eq] at described
    obtain ⟨⟨⟨⟨⟨_, near⟩, tall⟩, _⟩, sure⟩, _⟩ := described
    obtain ⟨x, y⟩ := height.mp (by simpa [evidenceOf, topValue] using tall)
    exact ⟨near, sure, x, y⟩
  · intro presentable
    have tall := height.mpr ⟨presentable.nearestX, presentable.nearestY⟩
    have near := presentable.distance
    have sure := presentable.uncertainty
    simp only [clusterGeometryValid, FormalCargoContext.status, present, shown, if_true,
      Bool.and_eq_true, decide_eq_true_eq, clearanceShown, Scalar.isFinite_fin, and_true]
    simp only [evidenceOf, distanceValue, topValue, uncertaintyValue, Scalar.isFinite_fin, and_true]
    rw [distanceValue] at near
    rw [uncertaintyValue] at sure
    exact ⟨⟨⟨total, near⟩, tall⟩, sure⟩

theorem codeless_overhead (valid : (validateCargoSafetyConfig config).valid = true)
    (measured : measurable config input perceived = true)
    (safe : (evidenceOf config input perceived).warningCode = safeCode)
    (revealed : (evidenceOf config input perceived).potentialWarningCode = 0)
    (low : lowOf config input perceived = true)
    (near : perceived.footprintDistanceM ≤ config.level2DistanceM) :
    overheadOf config input perceived = true := by
  obtain ⟨⟨level1, level1Value⟩, _⟩ := thresholds_numbers valid
  obtain ⟨⟨distance, distanceValue⟩, _⟩ := measurable_numbers measured
  obtain ⟨_, code, potential⟩ := evidenceOf_measured measured
  rw [safe] at code
  rw [revealed] at potential
  by_contra below
  have notOverhead : overheadOf config input perceived = false := by simpa using below
  cases continuous : continuousOf config perceived with
  | true =>
    -- A dense cluster below would be resolved as a warning.
    rw [notOverhead, continuous, low, distanceValue] at code
    rw [distanceValue] at near
    have impossible := resolvedCode_safe code.symm near level1Value
    simp at impossible
  | false =>
    -- A sparse cluster below would be remembered as a possible warning.
    rw [notOverhead, continuous, low] at potential
    simp only [potentialCode, near, decide_true, Bool.not_false, Bool.and_self, if_true,
      level1Code, level2Code] at potential
    split_ifs at potential

theorem warning_meaning (measured : measurable config input perceived = true)
    (warning : (evidenceOf config input perceived).warningCode ≠ safeCode) :
    overheadOf config input perceived = false ∧ lowOf config input perceived = true ∧
      ((evidenceOf config input perceived).warningCode = level1Code ∧
          perceived.footprintDistanceM ≤ config.level1DistanceM ∨
        (evidenceOf config input perceived).warningCode = level2Code ∧
          config.level1DistanceM < perceived.footprintDistanceM ∧
          perceived.footprintDistanceM ≤ config.level2DistanceM) := by
  obtain ⟨_, code, _⟩ := evidenceOf_measured measured
  rw [code] at warning ⊢
  generalize decided : (!overheadOf config input perceived && continuousOf config perceived &&
    lowOf config input perceived) = resolved at warning ⊢
  rcases @resolvedCode_cases config resolved perceived.footprintDistanceM with safe | level | level
  · exact absurd safe warning
  · obtain ⟨holds, near⟩ := resolvedCode_level1 level
    simp only [holds, Bool.and_eq_true, Bool.not_eq_true'] at decided
    exact ⟨decided.1.1, decided.2, .inl ⟨level, near⟩⟩
  · obtain ⟨holds, far, near⟩ := resolvedCode_level2 level
    simp only [holds, Bool.and_eq_true, Bool.not_eq_true'] at decided
    exact ⟨decided.1.1, decided.2, .inr ⟨level, far, near⟩⟩

theorem status_matches {result : CargoSafetyResult}
    (valid : (validateCargoSafetyConfig config).valid = true)
    (measured : measurable config input perceived = true)
    (shown : result.mostDangerousCluster = evidenceOf config input perceived)
    (present : result.hasClusterEvidence = true)
    (code : result.warningCode = (evidenceOf config input perceived).warningCode)
    (revealed : result.warningCode = safeCode →
      (evidenceOf config input perceived).potentialWarningCode = 0) :
    (context.status result).geometryMatches config.thresholds = true ↔
      ¬CloseOverhead config input perceived := by
  obtain ⟨_, ⟨level2, level2Value⟩, minimum, minimumValue⟩ := thresholds_numbers valid
  obtain ⟨⟨distance, distanceValue⟩, ⟨clearance, clearanceValue⟩, _⟩ := measurable_numbers measured
  have clearanceShown := (evidenceOf_measured measured).1
  by_cases safe : (evidenceOf config input perceived).warningCode = safeCode
  · -- An all-clear needs a safe clearance or distance by the numbers alone.
    have shows : (context.status result).geometryMatches config.thresholds =
        (config.minimumVerticalClearanceM ≤ clearanceOf config input perceived ||
          config.level2DistanceM < perceived.footprintDistanceM : Bool) := by
      simp only [geometryMatches, FormalCargoContext.status, code, safe, safeGeometry, present,
        shown, clearanceShown, CargoSafetyConfig.thresholds, safeCode, AlarmStateMachine.clear]
      rfl
    rw [shows]
    have hidden : CloseOverhead config input perceived ↔
        clearance < minimum ∧ distance ≤ level2 := by
      constructor
      · intro close
        have low := close.2.1
        have near := close.2.2
        simp only [lowOf, clearanceValue, minimumValue, Scalar.fin_lt_fin,
          decide_eq_true_eq] at low
        rw [distanceValue, level2Value, Scalar.fin_le_fin] at near
        exact ⟨low, near⟩
      · intro close
        have low : lowOf config input perceived = true := by
          simp [lowOf, clearanceValue, minimumValue, close.1]
        have near : perceived.footprintDistanceM ≤ config.level2DistanceM := by
          rw [distanceValue, level2Value]
          exact Scalar.fin_le_fin.2 close.2
        exact ⟨codeless_overhead valid measured safe (revealed (code.trans safe)) low near, low,
          near⟩
    rw [hidden, clearanceValue, minimumValue, distanceValue, level2Value]
    simp only [Bool.or_eq_true, decide_eq_true_eq, Scalar.fin_le_fin, Scalar.fin_lt_fin, not_and_or,
      not_lt, not_le]
  · -- A warning is about a low cluster within its distances.
    obtain ⟨below, low, level⟩ := warning_meaning measured safe
    have open_ : ¬CloseOverhead config input perceived := by
      intro close
      have above := close.1
      rw [below] at above
      cases above
    have lowShown : clearanceOf config input perceived < config.minimumVerticalClearanceM := by
      simpa [lowOf] using low
    simp only [open_, not_false_eq_true, iff_true]
    rcases level with ⟨level, near⟩ | ⟨level, far, near⟩
    · simp only [geometryMatches, FormalCargoContext.status, code, level, level1Geometry, present,
        shown, clearanceShown, CargoSafetyConfig.thresholds]
      have within := And.intro near lowShown
      simpa [level1Code, AlarmStateMachine.clear, AlarmStateMachine.level1Warning, evidenceOf]
        using within
    · simp only [geometryMatches, FormalCargoContext.status, code, level, level2Geometry, present,
        shown, clearanceShown, CargoSafetyConfig.thresholds]
      have within := And.intro (And.intro far near) lowShown
      simpa [level2Code, AlarmStateMachine.clear, AlarmStateMachine.level1Warning, evidenceOf]
        using within

/--
The contract accepts the status of a warning or an all-clear under exactly one condition.

The thresholds must be ones the contract can use, and the most dangerous cluster must have
presentable measurements and must not hang close above the load.
-/
theorem status_accepted_iff (context : FormalCargoContext) (config : CargoSafetyConfig)
    (input : CargoSafetyInput) (perception : ObstaclePerceptionResult)
    (warned : (evaluate config input perception).warningValid = true) :
    ((validateStatusContract (context.status (evaluate config input perception))
          config.thresholds).valid = true ∧
        (validateStatusContract (context.status (evaluate config input perception))
          config.thresholds).code = (evaluate config input perception).warningCode) ↔
      isValidStatusContractConfig config.thresholds = true ∧
        ∀ leader, Leads (moreDangerousCluster config input) perception.clusters leader →
          Presentable leader ∧ ¬CloseOverhead config input leader := by
  have passes := evaluate_warned_ready warned
  have valid : (validateCargoSafetyConfig config).valid = true := by
    simp only [ready, Bool.and_eq_true] at passes
    exact passes.1.1.1.1.1.1.1.1
  by_cases empty : perception.clusters = []
  · -- Without clusters the status reports no obstacle at all.
    have clearResult := evaluate_ready passes
    rw [empty, evaluateClusters_nil] at clearResult
    rw [clearResult, empty]
    have warns := @status_warns context { freshResult input perception with
      warningValid := true
      warningCode := safeCode
      fault := .none
      evidenceState := .clear
      reason := "clear_no_external_obstacle" } rfl rfl rfl (.inl rfl)
    have accepted := @warns_accepted_unobstructed _ config.thresholds warns rfl rfl
    have leaderless : ∀ leader, ¬Leads (moreDangerousCluster config input) [] leader := by
      intro leader leads
      obtain ⟨earlier, later, split, _⟩ := leads
      simp at split
    constructor
    · intro agreed
      exact ⟨accepted.mp agreed, fun leader leads => absurd leads (leaderless leader)⟩
    · intro condition
      exact accepted.mpr condition.1
  · -- The status describes the foremost cluster, which is the only leader.
    obtain ⟨leader, announced⟩ := evaluate_announced warned empty
    obtain ⟨measured, found, entry, same, shown, present, inputValid, count, kept, unrivalled⟩ :=
      announced
    obtain ⟨announcedValid, announcedCode, faultless, announcedShown, announcedPresent,
      announcedInput, announcedCount⟩ := @announce_frame entry
    rw [same]
    have member := foremost_mem found
    have code := announcedCode.trans (congrArg (·.warningCode) shown)
    have known : (announce entry).warningCode = safeCode ∨
        (announce entry).warningCode = level1Code ∨
        (announce entry).warningCode = level2Code := by
      rw [code, (evidenceOf_measured (measured leader member)).2.1]
      exact resolvedCode_cases _ _
    have warns := @status_warns context _ announcedValid (announcedInput.trans inputValid)
      faultless known
    have counted : 0 < (announce entry).evaluatedClusterCount := by
      rw [announcedCount, count]
      exact List.length_pos_of_ne_nil empty
    have total : 0 < (context.status (announce entry)).obstacleCount := by
      show 0 < min _ _
      omega
    have describes := @status_describes _ _ _ context _ (measured leader member)
      (announcedShown.trans shown) (announcedPresent.trans present) counted
    have revealed : (announce entry).warningCode = safeCode →
        (evidenceOf config input leader).potentialWarningCode = 0 := by
      intro safe
      exact unrivalled_safe unrivalled (announcedCode.symm.trans safe) kept member
    have fits := @status_matches _ _ _ context _ valid (measured leader member)
      (announcedShown.trans shown) (announcedPresent.trans present) code revealed
    have ordered : ∀ first ∈ perception.clusters, ∀ second ∈ perception.clusters,
        moreDangerousCluster config input first second = true ↔
          dangerKey (evidenceOf config input first) < dangerKey (evidenceOf config input second) :=
      fun first among second among' =>
        moreDangerousCluster_iff (measured first among) (measured second among')
    have leads := (foremost_leads ordered found).1
    refine (warns_accepted_iff warns total).trans (and_congr_right fun _ => ?_)
    rw [describes, fits]
    constructor
    · intro condition other leadsToo
      rw [← leads_unique leads leadsToo]
      exact condition
    · intro condition
      exact condition leader leads

def suspendedLoad : CargoSafetyInput where
  height := { valid := true, bottomZ := 1, bottomUncertaintyM := 0, stampSec := 10 }
  footprintBase := { valid := true, lengthM := 1, widthM := 1, minZ := 1, maxZ := 2 }
  obstacleCloudBase := some []
  evaluationTimeSec := 10

def unsignalledLoad : FormalCargoContext where
  poseMapBase := ⟨0, 0, 1, 0⟩
  hookSignalRole := 0
  hookSignalValid := false
  hookSignalConflict := false
  hookLoadState := 0
  cargoTrackId := 1
  obstacleTrackId := 1
  obstacleValidatedStreak := 1
  obstacleLargeGeometryValid := true
  obstacleProvenanceValid := true
  confidence := 1
  roleKnown := .inl rfl
  loaded := fun required => absurd required (by decide)

def oneCluster (distance bottom top : Scalar) : ObstaclePerceptionResult where
  valid := true
  clusters := [{
    footprintDistanceM := distance
    topZ95M := top
    bottomZ05M := bottom
    verticalContinuityRatio := 1
    obstacleUncertaintyM := 0 }]

attribute [local semireducible] Rat.add Rat.sub Rat.mul Rat.inv Rat.ofScientific

theorem status_accepted_near :
    (evaluate {} suspendedLoad (oneCluster 2 0 1)).warningCode = 17 ∧
      (validateStatusContract (unsignalledLoad.status (evaluate {} suspendedLoad
        (oneCluster 2 0 1))) ({} : CargoSafetyConfig).thresholds).code = 17 := by
  have warned : (evaluate {} suspendedLoad (oneCluster 2 0 1)).warningValid = true := by
    decide
  have code : (evaluate {} suspendedLoad (oneCluster 2 0 1)).warningCode = 17 := by
    decide
  have accepted := (status_accepted_iff unsignalledLoad {} suspendedLoad (oneCluster 2 0 1)
    warned).mpr ⟨by decide, ?_⟩
  · exact ⟨code, accepted.2.trans (congrArg Nat.cast code)⟩
  · intro leader leads
    obtain ⟨earlier, later, split, _⟩ := leads
    -- The only cluster is the leader.
    have alone : leader ∈ (oneCluster 2 0 1).clusters := by simp [split]
    simp only [oneCluster, List.mem_singleton] at alone
    subst alone
    refine ⟨⟨by decide, by decide, rfl, rfl⟩, ?_⟩
    intro close
    exact absurd close.1 (by decide)

theorem overhead_clear_refused :
    (evaluate {} suspendedLoad (oneCluster 2 3 4)).warningValid = true ∧
      (evaluate {} suspendedLoad (oneCluster 2 3 4)).warningCode = 14 ∧
      validateStatusContract (unsignalledLoad.status (evaluate {} suspendedLoad
        (oneCluster 2 3 4))) ({} : CargoSafetyConfig).thresholds =
          ⟨35, false, false, "clear_geometry_mismatch"⟩ := by
  decide

end CargoSafetyEvaluator

end NdtSlam
