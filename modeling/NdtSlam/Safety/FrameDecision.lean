import NdtSlam.Safety.EvaluatorContract

/-! The decision on a frame, as a statement about all of its clusters in any order. -/

namespace NdtSlam.CargoSafetyEvaluator

variable {config : CargoSafetyConfig} {input : CargoSafetyInput}
  {perception : ObstaclePerceptionResult} {perceived : ObstaclePerceptionCluster}
  {clusters : List ObstaclePerceptionCluster}

/-! ### What the decision should be -/

structure FiniteCluster (perceived : ObstaclePerceptionCluster) : Prop where
  distance : perceived.footprintDistanceM.isFinite = true
  top : perceived.topZ95M.isFinite = true
  bottom : perceived.bottomZ05M.isFinite = true
  uncertainty : perceived.obstacleUncertaintyM.isFinite = true

section Specification

variable (config : CargoSafetyConfig) (input : CargoSafetyInput)
  (perceived : ObstaclePerceptionCluster)

def SafeCluster : Prop :=
  overheadOf config input perceived = true ∨
    config.minimumVerticalClearanceM ≤ clearanceOf config input perceived ∨
    config.level2DistanceM < perceived.footprintDistanceM

def AtLevel (code : Nat) (distanceM : Scalar) : Prop :=
  (code = level1Code ∧ distanceM ≤ config.level1DistanceM) ∨
    (code = level2Code ∧ config.level1DistanceM < distanceM ∧ distanceM ≤ config.level2DistanceM)

def LowCluster : Prop :=
  overheadOf config input perceived = false ∧
    clearanceOf config input perceived < config.minimumVerticalClearanceM

def Resolves (code : Nat) (perceived : ObstaclePerceptionCluster) : Prop :=
  LowCluster config input perceived ∧ continuousOf config perceived = true ∧
    AtLevel config code perceived.footprintDistanceM

def MayCallFor (code : Nat) (perceived : ObstaclePerceptionCluster) : Prop :=
  LowCluster config input perceived ∧ continuousOf config perceived = false ∧
    AtLevel config code perceived.footprintDistanceM

def UnresolvedNear (perceived : ObstaclePerceptionCluster) : Prop :=
  LowCluster config input perceived ∧ continuousOf config perceived = false ∧
    perceived.footprintDistanceM ≤ config.level2DistanceM

variable (clusters : List ObstaclePerceptionCluster)

def AllClear : Prop :=
  ∀ perceived ∈ clusters, SafeCluster config input perceived ∧
    ¬UnresolvedNear config input perceived

def CallsFor (code : Nat) : Prop :=
  (∃ perceived ∈ clusters, Resolves config input code perceived) ∧
    (∀ perceived ∈ clusters, ∀ other, Resolves config input other perceived →
      warningPriority other ≤ warningPriority code) ∧
    ∀ perceived ∈ clusters, ∀ other, MayCallFor config input other perceived →
      warningPriority other ≤ warningPriority code

end Specification

/-! ### The evidence of one cluster -/

structure Measured (config : CargoSafetyConfig) (input : CargoSafetyInput)
    (perceived : ObstaclePerceptionCluster) : Prop where
  measurable : measurable config input perceived = true
  level1 : ∃ level1 : ℚ, config.level1DistanceM = .fin level1
  level2 : ∃ level2 : ℚ, config.level2DistanceM = .fin level2
  minimum : ∃ minimum : ℚ, config.minimumVerticalClearanceM = .fin minimum
  ordered : ¬config.level2DistanceM < config.level1DistanceM

theorem FiniteCluster.measured (finite : FiniteCluster perceived)
    (passes : ready config input perception = true) : Measured config input perceived := by
  simp only [ready, Bool.and_eq_true, Bool.not_eq_true', heightValuesValid, isValidFootprint]
    at passes
  obtain ⟨⟨⟨⟨⟨⟨⟨⟨valid, -⟩, -⟩, -⟩, height⟩, -⟩, -⟩, outline⟩, -⟩ := passes
  obtain ⟨level1, level2, minimum⟩ := thresholds_numbers valid
  have checked := (ConfigCheck.validate_valid config.checks).mp valid
  obtain ⟨margin, -, marginValue⟩ := ConfigCheck.nonnegative_passes
    (checked (.nonnegative "cargo_bottom_extra_margin_m" config.cargoBottomExtraMarginM)
      (by simp [CargoSafetyConfig.checks]))
  obtain ⟨separation, separationPositive, separationValue⟩ := ConfigCheck.nonnegative_passes
    (checked (.nonnegative "overhead_separation_margin_m" config.overheadSeparationMarginM)
      (by simp [CargoSafetyConfig.checks]))
  obtain ⟨ratio, ratioPositive, ratioBounded, ratioValue⟩ := ConfigCheck.ratio_passes
    (checked (.ratio "obstacle_min_vertical_continuity_ratio"
      config.obstacleMinVerticalContinuityRatio) (by simp [CargoSafetyConfig.checks]))
  have order := ConfigCheck.failsWhen_passes
    (checked (.failsWhen "level2_distance_m" "must_be_at_least_level1"
      (config.level1DistanceM.isFinite && config.level2DistanceM.isFinite &&
        config.level2DistanceM < config.level1DistanceM)) (by simp [CargoSafetyConfig.checks]))
  refine ⟨?_, level1, level2, minimum, ?_⟩
  · obtain ⟨⟨⟨bottom, uncertainty⟩, -⟩, -⟩ := height
    obtain ⟨⟨-, top⟩, -⟩ := outline
    have lowest : (conservativeBottom config input).isFinite = true := by
      unfold conservativeBottom
      rw [marginValue]
      exact Scalar.sub_isFinite.2 ⟨Scalar.sub_isFinite.2 ⟨bottom, uncertainty⟩, rfl⟩
    have apart : ¬(Scalar.fin separation < 0) := by
      intro negative
      exact absurd (Scalar.fin_lt_fin.1 negative) (not_lt.mpr separationPositive)
    have share : ¬(Scalar.fin ratio < 0) := by
      intro negative
      exact absurd (Scalar.fin_lt_fin.1 negative) (not_lt.mpr ratioPositive)
    have whole : ¬((1 : Scalar) < Scalar.fin ratio) := by
      intro above
      exact absurd (Scalar.fin_lt_fin.1 above) (not_lt.mpr ratioBounded)
    rw [measurable_iff]
    simp [HazardEvaluator.geometryValid, hazardInput, lowest, top, separationValue, ratioValue,
      apart, share, whole, finite.distance, finite.top, finite.bottom, finite.uncertainty]
  · obtain ⟨first, firstValue⟩ := level1
    obtain ⟨second, secondValue⟩ := level2
    simpa [firstValue, secondValue] using order

theorem atLevel_cases {distance level1 level2 : ℚ} (first : config.level1DistanceM = .fin level1)
    (second : config.level2DistanceM = .fin level2) (code : Nat) :
    AtLevel config code (.fin distance) ↔
      (code = level1Code ∧ distance ≤ level1) ∨
        (code = level2Code ∧ level1 < distance ∧ distance ≤ level2) := by
  simp [AtLevel, first, second]

section

variable (measured : Measured config input perceived)
include measured

theorem Measured.resolves_iff (code : Nat) :
    Resolves config input code perceived ↔
      (evidenceOf config input perceived).warningCode = code ∧ code ≠ safeCode := by
  obtain ⟨measurable, ⟨level1, first⟩, ⟨level2, second⟩, -, -⟩ := measured
  obtain ⟨⟨distance, distanceValue⟩, -⟩ := measurable_numbers measurable
  rw [(evidenceOf_measured measurable).2.1]
  simp only [Resolves, LowCluster, lowOf, distanceValue, atLevel_cases first second, resolvedCode,
    first, second, Scalar.fin_le_fin, Scalar.fin_lt_fin]
  -- The two levels do not overlap, and neither of their codes is the safe one.
  simp only [safeCode, level1Code, level2Code]
  cases overheadOf config input perceived with
  | true => simp; omega
  | false =>
    cases continuousOf config perceived with
    | false => simp; omega
    | true =>
      by_cases low : clearanceOf config input perceived < config.minimumVerticalClearanceM
      · simp only [low]
        by_cases near : distance ≤ level1
        · simp [near, not_lt.mpr near]; omega
        · by_cases far : distance ≤ level2
          · simp [near, not_le.mp near, far]; omega
          · simp [near, far]; omega
      · simp [low]; omega

theorem Measured.mayCallFor_iff (code : Nat) :
    MayCallFor config input code perceived ↔
      (evidenceOf config input perceived).potentialWarningCode = code ∧ code ≠ 0 := by
  obtain ⟨measurable, ⟨level1, first⟩, ⟨level2, second⟩, -, ordered⟩ := measured
  obtain ⟨⟨distance, distanceValue⟩, -⟩ := measurable_numbers measurable
  rw [(evidenceOf_measured measurable).2.2]
  have below : level1 ≤ level2 := by
    rw [first, second, Scalar.fin_lt_fin] at ordered
    exact not_lt.mp ordered
  simp only [MayCallFor, LowCluster, lowOf, distanceValue, atLevel_cases first second,
    potentialCode, first, second, Scalar.fin_le_fin]
  simp only [level1Code, level2Code]
  cases overheadOf config input perceived with
  | true => simp; omega
  | false =>
    cases continuousOf config perceived with
    | true => simp; omega
    | false =>
      by_cases low : clearanceOf config input perceived < config.minimumVerticalClearanceM
      · simp only [low]
        by_cases near : distance ≤ level1
        · simp [near, near.trans below, not_lt.mpr near]; omega
        · by_cases far : distance ≤ level2
          · simp [near, not_le.mp near, far]; omega
          · simp [near, far]; omega
      · simp [low]; omega

theorem Measured.level_exists :
    (∃ code, AtLevel config code perceived.footprintDistanceM) ↔
      perceived.footprintDistanceM ≤ config.level2DistanceM := by
  obtain ⟨measurable, ⟨level1, first⟩, ⟨level2, second⟩, -, ordered⟩ := measured
  obtain ⟨⟨distance, distanceValue⟩, -⟩ := measurable_numbers measurable
  have below : level1 ≤ level2 := by
    rw [first, second, Scalar.fin_lt_fin] at ordered
    exact not_lt.mp ordered
  simp only [distanceValue, atLevel_cases first second, second, Scalar.fin_le_fin]
  constructor
  · rintro ⟨code, ⟨-, near⟩ | ⟨-, -, far⟩⟩
    · exact near.trans below
    · exact far
  · intro within
    rcases le_or_gt distance level1 with near | beyond
    · exact ⟨level1Code, .inl ⟨rfl, near⟩⟩
    · exact ⟨level2Code, .inr ⟨rfl, beyond, within⟩⟩

theorem Measured.safe_iff :
    SafeCluster config input perceived ↔ ¬(LowCluster config input perceived ∧
      perceived.footprintDistanceM ≤ config.level2DistanceM) := by
  obtain ⟨measurable, -, ⟨level2, second⟩, ⟨minimum, least⟩, -⟩ := measured
  obtain ⟨⟨distance, distanceValue⟩, ⟨clearance, clearanceValue⟩, -⟩ :=
    measurable_numbers measurable
  simp only [SafeCluster, LowCluster, clearanceValue, distanceValue, second, least,
    Scalar.fin_le_fin, Scalar.fin_lt_fin, not_and, not_le]
  cases overheadOf config input perceived with
  | true => simp
  | false =>
    simp only [Bool.false_eq_true, false_or, true_and]
    constructor
    · rintro (high | far) low
      · exact absurd low (not_lt.mpr high)
      · exact far
    · intro far
      exact (le_or_gt minimum clearance).imp id far

theorem Measured.clear_iff :
    (SafeCluster config input perceived ∧ ¬UnresolvedNear config input perceived) ↔
      (evidenceOf config input perceived).warningCode = safeCode ∧
        (evidenceOf config input perceived).potentialWarningCode = 0 := by
  have noCode : (evidenceOf config input perceived).warningCode = safeCode ↔
      ∀ code, ¬Resolves config input code perceived := by
    simp only [measured.resolves_iff]
    constructor
    · rintro safe code ⟨same, other⟩
      exact other (same.symm.trans safe)
    · intro none
      by_contra other
      exact none _ ⟨rfl, other⟩
  have noPotential : (evidenceOf config input perceived).potentialWarningCode = 0 ↔
      ∀ code, ¬MayCallFor config input code perceived := by
    simp only [measured.mayCallFor_iff]
    constructor
    · rintro zero code ⟨same, other⟩
      exact other (same.symm.trans zero)
    · intro none
      by_contra other
      exact none _ ⟨rfl, other⟩
  rw [measured.safe_iff, noCode, noPotential]
  constructor
  · rintro ⟨safe, -⟩
    refine ⟨?_, ?_⟩
    · rintro code ⟨low, -, level⟩
      exact safe ⟨low, measured.level_exists.mp ⟨code, level⟩⟩
    · rintro code ⟨low, -, level⟩
      exact safe ⟨low, measured.level_exists.mp ⟨code, level⟩⟩
  · rintro ⟨none, noneHidden⟩
    -- Whether the extent is believed or not, a low cluster has a code of one kind.
    have safe : ¬(LowCluster config input perceived ∧
        perceived.footprintDistanceM ≤ config.level2DistanceM) := by
      rintro ⟨low, within⟩
      obtain ⟨code, level⟩ := measured.level_exists.mpr within
      cases continuous : continuousOf config perceived with
      | true => exact none code ⟨low, continuous, level⟩
      | false => exact noneHidden code ⟨low, continuous, level⟩
    exact ⟨safe, fun ⟨low, _, within⟩ => safe ⟨low, within⟩⟩

end

/-! ### All clusters of a frame -/

theorem severity_le {Rest : Type} [LinearOrder Rest] {first second : Nat} {rest rest' : Rest}
    (below : toLex (OrderDual.toDual first, rest) ≤ toLex (OrderDual.toDual second, rest')) :
    second ≤ first := by
  rcases Prod.Lex.toLex_le_toLex.mp below with severe | ⟨same, -⟩
  · exact (OrderDual.toDual_lt_toDual.mp severe).le
  · exact (OrderDual.toDual_inj.mp same).ge

theorem recorded_leader (some_ : clusters ≠ []) (measured : ∀ perceived ∈ clusters,
    measurable config input perceived = true) {fresh : CargoSafetyResult}
    (empty : fresh.hasClusterEvidence = false) :
    ∃ leader ∈ clusters,
      (recorded (clusters.map (evidenceOf config input)) fresh).hasClusterEvidence = true ∧
      (recorded (clusters.map (evidenceOf config input)) fresh).mostDangerousCluster
        = evidenceOf config input leader ∧
      ∀ perceived ∈ clusters, warningPriority (evidenceOf config input perceived).warningCode
        ≤ warningPriority (evidenceOf config input leader).warningCode := by
  have lead := @leading_recorded fresh (clusters.map (evidenceOf config input)) empty
  rw [foremost_map] at lead
  cases found : foremost (moreDangerousCluster config input) clusters with
  | none => exact absurd (foremost_eq_none.1 found) some_
  | some leader =>
    have chosen : leading (recorded (clusters.map (evidenceOf config input)) fresh)
        = some (evidenceOf config input leader) :=
      lead.trans (congrArg (Option.map (evidenceOf config input)) found)
    unfold leading at chosen
    split at chosen
    · rename_i known
      have ordered : ∀ first ∈ clusters, ∀ second ∈ clusters,
          moreDangerousCluster config input first second = true ↔
            dangerKey (evidenceOf config input first)
              < dangerKey (evidenceOf config input second) :=
        fun first member second memberToo =>
          moreDangerousCluster_iff (measured first member) (measured second memberToo)
      have least := (foremost_leads ordered found).2
      refine ⟨leader, foremost_mem found, known, Option.some.inj chosen, ?_⟩
      intro perceived member
      exact severity_le (least perceived member)
    · cases chosen

def unresolvedKey (evidence : CargoSafetyClusterEvidence) : ℕᵒᵈ ×ₗ ℚ :=
  toLex (OrderDual.toDual (warningPriority evidence.potentialWarningCode),
    evidence.conservativeClearanceM.value)

theorem isWorseUnresolved_iff {first second : CargoSafetyClusterEvidence}
    {clearance clearance' : ℚ} (value : first.conservativeClearanceM = .fin clearance)
    (value' : second.conservativeClearanceM = .fin clearance') :
    isWorseUnresolved first second = true ↔ unresolvedKey first < unresolvedKey second := by
  simp only [isWorseUnresolved, unresolvedKey, Prod.Lex.toLex_lt_toLex, value, value',
    Scalar.value, OrderDual.toDual_lt_toDual, OrderDual.toDual_inj, Bool.or_eq_true,
    Bool.and_eq_true, decide_eq_true_eq, beq_iff_eq, Scalar.fin_lt_fin]

variable {entry : CargoSafetyResult}

theorem unrivalled_iff (measured : ∀ perceived ∈ clusters, Measured config input perceived)
    (kept : entry.clusterEvidence = clusters.map (evidenceOf config input)) :
    Unrivalled entry ↔ ∀ perceived ∈ clusters, ∀ code, MayCallFor config input code perceived →
      warningPriority code ≤ warningPriority entry.mostDangerousCluster.warningCode := by
  have listed : ∀ piece, piece ∈ entry.clusterEvidence.filter
      (fun piece => piece.potentialWarningCode != 0) ↔
      ∃ perceived ∈ clusters, piece = evidenceOf config input perceived ∧
        piece.potentialWarningCode ≠ 0 := by
    intro piece
    rw [kept, List.mem_filter, List.mem_map]
    constructor
    · rintro ⟨⟨perceived, member, rfl⟩, nonzero⟩
      exact ⟨perceived, member, rfl, by simpa using nonzero⟩
    · rintro ⟨perceived, member, rfl, nonzero⟩
      exact ⟨⟨perceived, member, rfl⟩, by simpa using nonzero⟩
  constructor
  · intro unrivalled perceived member code calls
    obtain ⟨same, nonzero⟩ := ((measured perceived member).mayCallFor_iff code).mp calls
    have among := (listed (evidenceOf config input perceived)).mpr
      ⟨perceived, member, rfl, by rwa [same]⟩
    cases worst : worstUnresolved entry.clusterEvidence with
    | none =>
      rw [foremost_eq_none.1 worst] at among
      cases among
    | some unresolved =>
      have ordered : ∀ first ∈ entry.clusterEvidence.filter
          (fun piece => piece.potentialWarningCode != 0), ∀ second ∈ entry.clusterEvidence.filter
          (fun piece => piece.potentialWarningCode != 0),
          isWorseUnresolved first second = true ↔ unresolvedKey first < unresolvedKey second := by
        intro first memberFirst second memberSecond
        obtain ⟨source, from_, rfl, -⟩ := (listed first).mp memberFirst
        obtain ⟨source', from', rfl, -⟩ := (listed second).mp memberSecond
        obtain ⟨-, ⟨clearance, value⟩, -⟩ := measurable_numbers (measured source from_).measurable
        obtain ⟨-, ⟨clearance', value'⟩, -⟩ :=
          measurable_numbers (measured source' from').measurable
        exact isWorseUnresolved_iff
          ((evidenceOf_measured (measured source from_).measurable).1.trans value)
          ((evidenceOf_measured (measured source' from').measurable).1.trans value')
      have least := (foremost_leads ordered worst).2 _ among
      rw [← same]
      exact (severity_le least).trans (unrivalled unresolved worst)
  · intro bounded unresolved worst
    obtain ⟨perceived, member, rfl, nonzero⟩ := (listed unresolved).mp (foremost_mem worst)
    exact bounded perceived member _
      (((measured perceived member).mayCallFor_iff _).mpr ⟨rfl, nonzero⟩)

/-! ### The decision -/

structure FiniteFrame (config : CargoSafetyConfig) (input : CargoSafetyInput)
    (perception : ObstaclePerceptionResult) : Prop where
  passes : ready config input perception = true
  finite : ∀ perceived ∈ perception.clusters, FiniteCluster perceived

/-- What the decision on a frame amounts to. -/
structure Decided (config : CargoSafetyConfig) (input : CargoSafetyInput)
    (clusters : List ObstaclePerceptionCluster) (result : CargoSafetyResult) : Prop where
  clear : (result.warningValid = true ∧ result.warningCode = safeCode) ↔
    AllClear config input clusters
  warns : ∀ code, code = level1Code ∨ code = level2Code →
    ((result.warningValid = true ∧ result.warningCode = code) ↔
      CallsFor config input clusters code)
  unresolved : ¬AllClear config input clusters → ¬CallsFor config input clusters level1Code →
    ¬CallsFor config input clusters level2Code →
    result.warningValid = false ∧ result.warningCode = 0 ∧
      result.fault = .obstacleEvidenceInvalid ∧ result.evidenceState = .sourceUnresolved

theorem conclude_rivalled (known : entry.hasClusterEvidence = true) (rivalled : ¬Unrivalled entry) :
    (conclude entry).warningValid = false ∧ (conclude entry).warningCode = 0 ∧
      (conclude entry).fault = .obstacleEvidenceInvalid ∧
      (conclude entry).evidenceState = .sourceUnresolved := by
  unfold conclude
  rw [if_neg (by simp [known])]
  cases worst : worstUnresolved entry.clusterEvidence with
  | none =>
    refine absurd (fun unresolved found => ?_) rivalled
    rw [worst] at found
    cases found
  | some unresolved =>
    dsimp only
    split_ifs with severe
    · exact ⟨rfl, rfl, rfl, rfl⟩
    · refine absurd (fun other found => ?_) rivalled
      rw [worst, Option.some.injEq] at found
      subst found
      exact not_lt.mp severe

theorem conclude_decided (measured : ∀ perceived ∈ clusters, Measured config input perceived)
    {leader : ObstaclePerceptionCluster} (member : leader ∈ clusters)
    (known : entry.hasClusterEvidence = true)
    (leads : entry.mostDangerousCluster = evidenceOf config input leader)
    (kept : entry.clusterEvidence = clusters.map (evidenceOf config input))
    (severe : ∀ perceived ∈ clusters,
      warningPriority (evidenceOf config input perceived).warningCode
        ≤ warningPriority (evidenceOf config input leader).warningCode) :
    Decided config input clusters (conclude entry) := by
  have rivals := unrivalled_iff measured kept
  rw [leads] at rivals
  have codes : ∀ perceived ∈ clusters, (evidenceOf config input perceived).warningCode = safeCode ∨
      (evidenceOf config input perceived).warningCode = level1Code ∨
      (evidenceOf config input perceived).warningCode = level2Code := by
    intro perceived among
    rw [(evidenceOf_measured (measured perceived among).measurable).2.1]
    exact resolvedCode_cases _ _
  have announced : Unrivalled entry → (conclude entry).warningValid = true ∧
      (conclude entry).warningCode = (evidenceOf config input leader).warningCode := by
    intro unrivalled
    rw [conclude_announced known unrivalled]
    obtain ⟨valid, code, -⟩ := @announce_frame entry
    exact ⟨valid, code.trans (congrArg _ leads)⟩
  have refused : ∀ {code}, (conclude entry).warningValid = true ∧
      (conclude entry).warningCode = code → Unrivalled entry ∧
        (evidenceOf config input leader).warningCode = code := by
    rintro code ⟨valid, same⟩
    have unrivalled : Unrivalled entry := by
      by_contra rivalled
      exact absurd ((conclude_rivalled known rivalled).1.symm.trans valid) (by simp)
    exact ⟨unrivalled, (announced unrivalled).2.symm.trans same⟩
  -- A frame is clear exactly if its leader is safe and nothing rivals it.
  have clear : ((conclude entry).warningValid = true ∧ (conclude entry).warningCode = safeCode) ↔
      AllClear config input clusters := by
    constructor
    · intro cleared perceived among
      obtain ⟨unrivalled, safe⟩ := refused cleared
      rw [(measured perceived among).clear_iff]
      have bounded := severe perceived among
      rw [safe] at bounded
      refine ⟨?_, ?_⟩
      · rcases codes perceived among with code | code | code
        · exact code
        · rw [code] at bounded
          exact absurd bounded (by decide)
        · rw [code] at bounded
          exact absurd bounded (by decide)
      · by_contra hidden
        have calls := ((measured perceived among).mayCallFor_iff _).mpr ⟨rfl, hidden⟩
        have rival := rivals.mp unrivalled perceived among _ calls
        obtain ⟨-, -, level⟩ := calls
        rw [safe] at rival
        rcases level with ⟨code, -⟩ | ⟨code, -⟩
        · rw [code] at rival
          exact absurd rival (by decide)
        · rw [code] at rival
          exact absurd rival (by decide)
    · intro all
      have none : Unrivalled entry := by
        refine rivals.mpr fun perceived among code calls => ?_
        obtain ⟨same, nonzero⟩ := ((measured perceived among).mayCallFor_iff code).mp calls
        have zero := (((measured perceived among).clear_iff).mp (all perceived among)).2
        exact absurd (same.symm.trans zero) nonzero
      obtain ⟨valid, code⟩ := announced none
      exact ⟨valid, code.trans (((measured leader member).clear_iff).mp (all leader member)).1⟩
  have warns : ∀ code, code = level1Code ∨ code = level2Code →
      (((conclude entry).warningValid = true ∧ (conclude entry).warningCode = code) ↔
        CallsFor config input clusters code) := by
    intro code level
    have unsafe_ : code ≠ safeCode := by
      rcases level with rfl | rfl
      · decide
      · decide
    constructor
    · intro warned
      obtain ⟨unrivalled, same⟩ := refused warned
      refine ⟨⟨leader, member, ?_⟩, ?_, ?_⟩
      · exact ((measured leader member).resolves_iff code).mpr ⟨same, unsafe_⟩
      · intro perceived among other resolves
        obtain ⟨own, -⟩ := ((measured perceived among).resolves_iff other).mp resolves
        have bounded := severe perceived among
        rwa [own, same] at bounded
      · intro perceived among other calls
        have bounded := rivals.mp unrivalled perceived among other calls
        rwa [same] at bounded
    · rintro ⟨⟨perceived, among, resolves⟩, worst, unrivalled⟩
      obtain ⟨own, -⟩ := ((measured perceived among).resolves_iff code).mp resolves
      have above := severe perceived among
      rw [own] at above
      -- The leader is at least as severe as the code, and no more severe either.
      have same : (evidenceOf config input leader).warningCode = code := by
        rcases codes leader member with lead | lead | lead
        · rw [lead] at above
          rcases level with rfl | rfl
          · exact absurd above (by decide)
          · exact absurd above (by decide)
        · have below := worst leader member level1Code
            (((measured leader member).resolves_iff _).mpr ⟨lead, by decide⟩)
          rcases level with rfl | rfl
          · exact lead
          · exact absurd below (by decide)
        · rw [lead] at above
          rcases level with rfl | rfl
          · exact absurd above (by decide)
          · exact lead
      obtain ⟨valid, reported⟩ := announced (rivals.mpr fun perceived among other calls => by
        rw [same]
        exact unrivalled perceived among other calls)
      exact ⟨valid, reported.trans same⟩
  refine ⟨clear, warns, fun notClear notFirst notSecond => ?_⟩
  refine conclude_rivalled known fun unrivalled => ?_
  -- An announced code would be one of the three.
  obtain ⟨valid, code⟩ := announced unrivalled
  rcases codes leader member with lead | lead | lead
  · exact notClear (clear.mp ⟨valid, code.trans lead⟩)
  · exact notFirst ((warns _ (.inl rfl)).mp ⟨valid, code.trans lead⟩)
  · exact notSecond ((warns _ (.inr rfl)).mp ⟨valid, code.trans lead⟩)

theorem Decided.perm {other : List ObstaclePerceptionCluster} {first second : CargoSafetyResult}
    (decided : Decided config input clusters first) (decidedToo : Decided config input other second)
    (same : ∀ perceived, perceived ∈ clusters ↔ perceived ∈ other) :
    first.warningValid = second.warningValid ∧ first.warningCode = second.warningCode := by
  have clear : AllClear config input clusters ↔ AllClear config input other := by
    simp only [AllClear, same]
  have calls : ∀ code, CallsFor config input clusters code ↔ CallsFor config input other code := by
    intro code
    simp only [CallsFor, same]
  -- Either one of the three codes is announced for both, or both are refused.
  have agree : ∀ {code}, (first.warningValid = true ∧ first.warningCode = code) →
      (second.warningValid = true ∧ second.warningCode = code) →
      first.warningValid = second.warningValid ∧ first.warningCode = second.warningCode :=
    fun one two => ⟨one.1.trans two.1.symm, one.2.trans two.2.symm⟩
  by_cases cleared : AllClear config input clusters
  · exact agree (decided.clear.mpr cleared) (decidedToo.clear.mpr (clear.mp cleared))
  by_cases near : CallsFor config input clusters level1Code
  · exact agree ((decided.warns _ (.inl rfl)).mpr near)
      ((decidedToo.warns _ (.inl rfl)).mpr ((calls _).mp near))
  by_cases far : CallsFor config input clusters level2Code
  · exact agree ((decided.warns _ (.inr rfl)).mpr far)
      ((decidedToo.warns _ (.inr rfl)).mpr ((calls _).mp far))
  obtain ⟨invalid, code, -⟩ := decided.unresolved cleared near far
  obtain ⟨invalid', code', -⟩ := decidedToo.unresolved (mt clear.mpr cleared)
    (mt (calls _).mpr near) (mt (calls _).mpr far)
  exact ⟨invalid.trans invalid'.symm, code.trans code'.symm⟩

theorem FiniteFrame.decided (frame : FiniteFrame config input perception) :
    Decided config input perception.clusters (evaluate config input perception) := by
  have measured : ∀ perceived ∈ perception.clusters, Measured config input perceived :=
    fun perceived member => (frame.finite perceived member).measured frame.passes
  rw [evaluate_ready frame.passes]
  by_cases empty : perception.clusters = []
  · -- Without clusters the frame is clear.
    rw [empty, evaluateClusters_nil]
    refine ⟨iff_of_true ⟨rfl, rfl⟩ (by simp [AllClear]), ?_, ?_⟩
    · intro code level
      refine iff_of_false ?_ (by simp [CallsFor])
      rintro ⟨-, same⟩
      rcases level with rfl | rfl
      · exact absurd (show safeCode = level1Code from same) (by decide)
      · exact absurd (show safeCode = level2Code from same) (by decide)
    · exact fun notClear => absurd (by simp [AllClear]) notClear
  · have measurable := fun perceived member => (measured perceived member).measurable
    rw [evaluateClusters_measured empty measurable]
    obtain ⟨leader, member, known, leads, severe⟩ :=
      @recorded_leader config input _ empty measurable (freshResult input perception) rfl
    obtain ⟨-, kept, -⟩ := @recorded_frame (freshResult input perception)
      (perception.clusters.map (evidenceOf config input))
    exact conclude_decided measured member known leads (by simpa [freshResult] using kept) severe

/--
The decision on a frame equals its specification, and does not depend on the order of the clusters.
-/
theorem evaluate_decided (config : CargoSafetyConfig) (input : CargoSafetyInput)
    (perception : ObstaclePerceptionResult) (frame : FiniteFrame config input perception) :
    Decided config input perception.clusters (evaluate config input perception) ∧
      ∀ clusters, clusters.Perm perception.clusters →
        (evaluate config input { perception with clusters }).warningValid
            = (evaluate config input perception).warningValid ∧
          (evaluate config input { perception with clusters }).warningCode
            = (evaluate config input perception).warningCode := by
  refine ⟨frame.decided, fun clusters permuted => ?_⟩
  have shuffled : FiniteFrame config input { perception with clusters } :=
    ⟨frame.passes, fun perceived member => frame.finite perceived (permuted.mem_iff.mp member)⟩
  exact shuffled.decided.perm frame.decided fun perceived => permuted.mem_iff

theorem evaluate_decided_near :
    Decided {} suspendedLoad (oneCluster 2 0 1).clusters
      (evaluate {} suspendedLoad (oneCluster 2 0 1)) := by
  have frame : FiniteFrame {} suspendedLoad (oneCluster 2 0 1) := by
    refine ⟨by with_unfolding_all decide, fun perceived member => ?_⟩
    simp only [oneCluster, List.mem_singleton] at member
    subst member
    exact ⟨rfl, rfl, rfl, rfl⟩
  exact (evaluate_decided {} suspendedLoad (oneCluster 2 0 1) frame).1

end NdtSlam.CargoSafetyEvaluator
