import NdtSlam.Avoidance.Fusion

/-! Exactly which inputs the avoidance fusion declares clear, and when that is sound. -/

namespace NdtSlam.CargoAvoidanceFusion

variable (risk : CargoAvoidanceSourceRisk)

def lowHazard : Bool :=
  risk.hazard && warningCode risk.warningCode && lowClearance risk.clearanceM

def unmeasuredHazard : Bool :=
  risk.hazard && warningCode risk.warningCode && !risk.clearanceM.isFinite

/-- The conditions under which every earlier verdict is passed over. -/
structure ClearPath (input : CargoAvoidanceFusionInput) (config : CargoAvoidanceFusionConfig) :
    Prop where
  localization : input.localizationValid = true
  geometry : input.formalCargoGeometryValid = true
  bottom : input.formalCargoBottomValid = true
  authorized : input.formalClearAuthorized = true
  available : input.live.available = true
  reliable : input.live.reliable = true
  resolved : input.liveObstacleOriginResolved = true
  coverage : config.minimumLiveCoverageForClear ≤ input.live.coverage
  liveHigh : lowHazard input.live = false
  staticHigh : (input.staticMap.available && input.staticMap.reliable &&
    lowHazard input.staticMap) = false
  noReview : (input.anomalyReviewCandidate && anomalyReviewGeometryValid input) = false
  noCandidate : (input.warningCandidatePresent && warningCode input.warningCandidateCode) = false

def HazardSafe : Prop :=
  risk.hazard = true → warningCode risk.warningCode = true →
    risk.clearanceM.isFinite = true ∧ minimumVerticalClearanceM ≤ risk.clearanceM

/-- A clear verdict is backed by every authority it needs and contradicted by no reliable source. -/
def ClearSound (input : CargoAvoidanceFusionInput) (config : CargoAvoidanceFusionConfig) : Prop :=
  (fuseCargoAvoidanceRisk input config).officialCode = clear →
    input.localizationValid = true ∧ input.formalCargoGeometryValid = true ∧
    input.formalCargoBottomValid = true ∧ input.formalClearAuthorized = true ∧
    input.live.available = true ∧ input.live.reliable = true ∧
    input.liveObstacleOriginResolved = true ∧
    config.minimumLiveCoverageForClear ≤ input.live.coverage ∧
    (liveReliable input = true → HazardSafe input.live) ∧
    (staticReliable input = true → HazardSafe input.staticMap)

section Codes

variable {input : CargoAvoidanceFusionInput} {config : CargoAvoidanceFusionConfig}
  {result : CargoAvoidanceFusionResult} {selected hazard : AuthoritativeCargoHazard}
  {risk live staticMap : CargoAvoidanceSourceRisk} {source : CargoAvoidanceHazardSource}

theorem warningCode_ne_clear {code : Int} (warns : warningCode code = true) : code ≠ clear := by
  rintro rfl
  exact absurd warns (by decide)

theorem considerHazard_warns
    (warns : selected.valid = true → warningCode selected.warningCode = true) :
    (considerHazard selected source risk).valid = true →
      warningCode (considerHazard selected source risk).warningCode = true := by
  unfold considerHazard
  split_ifs with unusable
  · exact warns
  · -- A recorded risk was checked to carry a hazard code.
    intro _
    simp only [Bool.not_eq_true', Bool.not_eq_false, selectable, Bool.and_eq_true] at unusable
    exact unusable.1.1.1.2
  · exact warns

theorem considerReviewHazard_code
    (reviews : selected.valid = true → selected.warningCode = anomalyReview) :
    (considerReviewHazard selected source risk).valid = true →
      (considerReviewHazard selected source risk).warningCode = anomalyReview := by
  -- Either the record stays, or a new one is written under the review code.
  unfold considerReviewHazard
  split_ifs
  · exact reviews
  · exact reviews
  · exact fun _ => rfl

theorem selected_keeps {Good : AuthoritativeCargoHazard → Prop}
    {consider : AuthoritativeCargoHazard → CargoAvoidanceHazardSource →
      CargoAvoidanceSourceRisk → AuthoritativeCargoHazard}
    (keeps : ∀ selected source risk, (selected.valid = true → Good selected) →
      (consider selected source risk).valid = true → Good (consider selected source risk))
    (allowLive allowStatic : Bool) :
    let first := if allowLive then consider {} .live live else {}
    let second := if allowStatic then consider first .staticMap staticMap else first
    second.valid = true → Good second := by
  intro first second
  -- Nothing is selected at first, so that there is nothing to be shown of it.
  have none_ : ({} : AuthoritativeCargoHazard).valid = true → Good {} :=
    fun absent => nomatch absent
  have kept : first.valid = true → Good first := by
    cases allowLive with
    | true => exact keeps _ _ _ none_
    | false => exact none_
  cases allowStatic with
  | true => exact keeps _ _ _ kept
  | false => exact kept

variable {allowLive allowStatic : Bool}

theorem selectHazard_warns
    (valid : (selectHazard allowLive live allowStatic staticMap).valid = true) :
    warningCode (selectHazard allowLive live allowStatic staticMap).warningCode = true :=
  @selected_keeps live staticMap (fun hazard => warningCode hazard.warningCode = true)
    considerHazard (fun _ _ _ => considerHazard_warns) allowLive allowStatic valid

theorem selectReviewHazard_code
    (valid : (selectReviewHazard allowLive live allowStatic staticMap).valid = true) :
    (selectReviewHazard allowLive live allowStatic staticMap).warningCode = anomalyReview :=
  @selected_keeps live staticMap (fun hazard => hazard.warningCode = anomalyReview)
    considerReviewHazard (fun _ _ _ => considerReviewHazard_code) allowLive allowStatic valid

theorem applySelectedHazard_valid (valid : hazard.valid = true) :
    (applySelectedHazard hazard result).officialCode = hazard.warningCode ∧
      (applySelectedHazard hazard result).authoritativeHazard = hazard := by
  simp [applySelectedHazard, valid]

@[simp] theorem applySelectedHazard_hazard :
    (applySelectedHazard hazard result).authoritativeHazard = hazard := by
  -- The record is attached whether it is valid or not.
  unfold applySelectedHazard
  split_ifs <;> rfl

theorem reviewSelected_not_clear
    (reviews : hazard.valid = true → hazard.warningCode = anomalyReview) :
    (reviewSelected hazard result).officialCode ≠ clear := by
  unfold reviewSelected
  dsimp only
  rw [applySelectedHazard_hazard]
  -- A valid record brings its own code, and an invalid one withdraws the review.
  by_cases valid : hazard.valid = true
  · simp only [valid, Bool.not_true, Bool.false_eq_true, if_false]
    rw [(applySelectedHazard_valid valid).1, reviews valid]
    decide
  · simp [valid, withdrawReview, obstacleInvalid, clear]

theorem selected_not_clear
    {reported faulted : CargoAvoidanceFusionResult}
    (fault : faulted.officialCode = obstacleInvalid)
    (report : reported.officialCode = (applySelectedHazard
      (selectHazard allowLive live allowStatic staticMap) result).officialCode) :
    (if !(applySelectedHazard (selectHazard allowLive live allowStatic staticMap)
      result).authoritativeHazard.valid then faulted else reported).officialCode ≠ clear := by
  rw [applySelectedHazard_hazard]
  -- A valid record brings a hazard code, and an invalid one the fault.
  by_cases valid : (selectHazard allowLive live allowStatic staticMap).valid = true
  · rw [if_neg (by simp [valid]), report, (applySelectedHazard_valid valid).1]
    exact warningCode_ne_clear (selectHazard_warns valid)
  · rw [if_pos (by simp [valid]), fault]
    decide

theorem ite_not_clear {condition : Prop} [Decidable condition]
    {yes no : CargoAvoidanceFusionResult} (left : yes.officialCode ≠ clear)
    (right : no.officialCode ≠ clear) : (if condition then yes else no).officialCode ≠ clear :=
  iteInduction (motive := fun chosen : CargoAvoidanceFusionResult => chosen.officialCode ≠ clear)
    (fun _ => left) (fun _ => right)

theorem pendingStandardRisk_not_clear (kept : result.officialCode ≠ clear) :
    (pendingStandardRisk input config result).officialCode ≠ clear :=
  -- An authorized risk is selected, and a refused one leaves the code as it was.
  ite_not_clear (selected_not_clear rfl rfl) kept

theorem fusePending_not_clear : (fusePending input config).officialCode ≠ clear := by
  -- The refusals keep the cargo fault, and the two positive verdicts are no clear either.
  have refused : cargoInvalid ≠ clear := by decide
  have risk := fun result => @pendingStandardRisk_not_clear input config result
  exact ite_not_clear refused (ite_not_clear refused (ite_not_clear refused
    (ite_not_clear refused (ite_not_clear refused (ite_not_clear (risk _ refused)
      (ite_not_clear (reviewSelected_not_clear selectReviewHazard_code) refused))))))

end Codes

section Clear

variable {input : CargoAvoidanceFusionInput} {config : CargoAvoidanceFusionConfig}

theorem ClearPath.no_risk (path : ClearPath input config) :
    riskLive input = false ∧ staticHazardObserved input = false ∧ riskStatic input = false := by
  have live := path.liveHigh
  have static := path.staticHigh
  simp only [lowHazard] at live static
  -- Each risk contains the low hazard that the path excludes.
  have observed : staticHazardObserved input = false := by
    simp only [staticHazardObserved, staticReliable]
    grind
  refine ⟨?_, observed, by simp [riskStatic, observed]⟩
  simp only [riskLive]
  grind

theorem ClearPath.clears (path : ClearPath input config) :
    (fuseCargoAvoidanceRisk input config).officialCode = clear := by
  obtain ⟨noLive, noObserved, noStatic⟩ := path.no_risk
  -- Without a risk there is no warning, with or without history.
  have noStandard : (liveStandardRisk input || staticStandardRisk input config) = false := by
    simp [liveStandardRisk, staticStandardRisk, noLive, noStatic]
  have noHistory : unresolvedFarHistoryReview input config = false := by
    simp [unresolvedFarHistoryReview, liveWarningWithoutHistory, staticUnproven,
      staticWarningWithoutHistory, noLive, noStatic]
  have noEmbedded : unresolvedEmbeddedLiveHazard input = false := by
    simp [unresolvedEmbeddedLiveHazard, path.resolved]
  have cleared : liveClearObserved input config = true := by
    simp [liveClearObserved, liveReliable, path.available, path.reliable, path.resolved, noLive,
      path.coverage]
  have noUnresolved : unresolvedStaticHazard input = false := by
    have static := path.staticHigh
    simp only [lowHazard] at static
    simp only [unresolvedStaticHazard]
    grind
  -- Every condition of the cascade fails until the last one.
  simp [fuseCargoAvoidanceRisk, fuseFormal, path.localization, noObserved, formalCargo,
    path.geometry, path.bottom, noStandard, noHistory, path.noReview, noEmbedded,
    path.noCandidate, path.authorized, cleared, noUnresolved]

theorem no_risk_of_passed
    (standard : ¬(liveStandardRisk input || staticStandardRisk input config) = true)
    (history : ¬unresolvedFarHistoryReview input config = true)
    (clearLive : riskLive input = false) :
    riskStatic input = false := by
  -- A static risk either has history, or is proven without it, or asks for a review.
  simp only [liveStandardRisk, staticStandardRisk, unresolvedFarHistoryReview, staticUnproven,
    clearLive] at standard history
  grind

theorem ClearPath.of_clear (clears : (fuseCargoAvoidanceRisk input config).officialCode = clear) :
    ClearPath input config := by
  -- A fault code is not the clear code.
  have localization : localizationInvalid ≠ clear := by decide
  have obstacle : obstacleInvalid ≠ clear := by decide
  have cargo : cargoInvalid ≠ clear := by decide
  unfold fuseCargoAvoidanceRisk at clears
  split_ifs at clears with noLocalization early pending
  · exact absurd clears localization
  · exact absurd clears obstacle
  · exact absurd clears fusePending_not_clear
  unfold fuseFormal at clears
  dsimp only at clears
  split_ifs at clears with standard history review embedded candidate unauthorized unclear static
  · exact absurd clears (selected_not_clear rfl rfl)
  · exact absurd clears (reviewSelected_not_clear selectReviewHazard_code)
  · exact absurd clears (reviewSelected_not_clear selectReviewHazard_code)
  · exact absurd clears obstacle
  · exact absurd clears obstacle
  · exact absurd clears cargo
  · exact absurd clears obstacle
  · exact absurd clears obstacle
  -- What remains is the last branch, behind eight failed conditions.
  simp only [Bool.not_eq_true', Bool.not_eq_false, formalCargo, Bool.and_eq_true,
    liveClearObserved, liveReliable, decide_eq_true_eq]
    at noLocalization pending unauthorized unclear
  obtain ⟨⟨⟨live, resolved⟩, noLive⟩, coverage⟩ := unclear
  -- The live source is clear, so that a static risk alone would have been reported.
  have noStatic := no_risk_of_passed standard history noLive
  exact {
    localization := noLocalization, geometry := pending.1, bottom := pending.2
    authorized := unauthorized, available := live.1, reliable := live.2, resolved, coverage
    liveHigh := by
      simp only [riskLive, liveReliable, live.1, live.2, resolved] at noLive
      simpa [lowHazard] using noLive
    staticHigh := by
      simp only [unresolvedStaticHazard, noStatic] at static
      simp only [lowHazard]
      grind
    noReview := by simpa using review
    noCandidate := by simpa using candidate }

theorem hazardSafe_of_measured {risk : CargoAvoidanceSourceRisk}
    (high : lowHazard risk = false) (measured : unmeasuredHazard risk = false) :
    HazardSafe risk := by
  -- A hazard that is neither low nor unmeasured leaves one case.
  intro hazard warns
  simp only [lowHazard, unmeasuredHazard, hazard, warns, Bool.true_and, Bool.not_eq_false']
    at high measured
  refine ⟨measured, ?_⟩
  -- A finite clearance below the minimum would be a low one.
  obtain ⟨clearance, value⟩ := Scalar.isFinite_iff.1 measured
  obtain ⟨least, leastEq⟩ : ∃ least, minimumVerticalClearanceM = .fin least := ⟨_, rfl⟩
  simp only [lowClearance, value, leastEq, Scalar.isFinite_fin, Scalar.fin_lt_fin, Bool.true_and,
    decide_eq_false_iff_not, not_lt] at high
  rw [value, leastEq, Scalar.fin_le_fin]
  exact high

/--
A clear verdict is sound exactly when the clear path meets no reliable hazard without a measure.

A hazard whose clearance is not finite counts neither as low nor as a reason to withhold the clear.
-/
theorem clear_sound_iff (input : CargoAvoidanceFusionInput) (config : CargoAvoidanceFusionConfig) :
    ClearSound input config ↔ ¬ (ClearPath input config ∧
      (unmeasuredHazard input.live = true ∨
        (staticReliable input = true ∧ unmeasuredHazard input.staticMap = true))) := by
  -- A hazard of unknown clearance is not a safe one.
  have unsafe_of : ∀ {risk}, unmeasuredHazard risk = true → ¬ HazardSafe risk := by
    intro risk unmeasured safe
    simp only [unmeasuredHazard, Bool.and_eq_true, Bool.not_eq_true'] at unmeasured
    have finite := (safe unmeasured.1.1 unmeasured.1.2).1
    rw [unmeasured.2] at finite
    exact absurd finite (by simp)
  constructor
  · -- On the clear path a sound verdict vouches for both sources.
    rintro sound ⟨path, live | ⟨reliable, static⟩⟩
    · have vouched := sound path.clears
      have reliable : liveReliable input = true := by
        simp [liveReliable, path.available, path.reliable]
      exact unsafe_of live (vouched.2.2.2.2.2.2.2.2.1 reliable)
    · have vouched := sound path.clears
      exact unsafe_of static (vouched.2.2.2.2.2.2.2.2.2 reliable)
  · intro noneSilent clears
    -- A clear verdict comes along the clear path, where nothing is low.
    have path := ClearPath.of_clear clears
    refine ⟨path.localization, path.geometry, path.bottom, path.authorized, path.available,
      path.reliable, path.resolved, path.coverage, fun _ => ?_, fun reliable => ?_⟩
    · apply hazardSafe_of_measured path.liveHigh
      by_contra silent
      exact noneSilent ⟨path, .inl (by simpa using silent)⟩
    · -- A reliable static source is also an available one, which the path speaks about.
      have high : lowHazard input.staticMap = false := by
        have static := path.staticHigh
        simp only [staticReliable, Bool.and_eq_true] at reliable
        simpa [reliable.1.1.2, reliable.1.2] using static
      apply hazardSafe_of_measured high
      by_contra silent
      exact noneSilent ⟨path, .inr ⟨reliable, by simpa using silent⟩⟩

end Clear

def unknownClearanceInput : CargoAvoidanceFusionInput :=
  { localizationValid := true, formalCargoGeometryValid := true, formalCargoBottomValid := true
    formalClearAuthorized := true
    live := { available := true, reliable := true, hazard := true, warningCode := near3m
              distanceM := 1, clearanceM := .nan, coverage := 1 } }

theorem unknown_clearance_declared_clear : ¬ ClearSound unknownClearanceInput {} := by
  intro sound
  -- The unknown clearance is not low, so that nothing withholds the clear.
  have clears : (fuseCargoAvoidanceRisk unknownClearanceInput {}).officialCode = clear := by
    with_unfolding_all decide
  obtain ⟨-, -, -, -, -, -, -, -, live, -⟩ := sound clears
  have finite := (live (by decide) rfl rfl).1
  exact absurd finite (by decide)

end NdtSlam.CargoAvoidanceFusion
