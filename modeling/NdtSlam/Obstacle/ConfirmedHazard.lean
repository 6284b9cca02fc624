import NdtSlam.Obstacle.TrackerRuns

/-! Over every run, a confirmed hazard is backed by the observations of its track. -/

namespace NdtSlam.CargoObstacleTracker

section Selecting

variable {config : CargoObstacleTrackerConfig} {policy : CargoObstacleAuthorityPolicy}
  {selection : Selection} {track chosen : CargoObstacleTrack} {tracks : List CargoObstacleTrack}

theorem select_selected (found : (select config policy selection track).selected = some chosen) :
    selection.selected = some chosen ∨ chosen = track ∧ track.observedThisCycle = true ∧
      formalWarningAuthorized config policy track = true := by
  unfold select at found
  by_cases unobserved : (!track.observedThisCycle) = true
  · rw [if_pos unobserved] at found
    exact .inl found
  · rw [if_neg unobserved] at found
    dsimp only at found
    by_cases authorized : (formalWarningAuthorized config policy track &&
        outranks track selection.selected) = true
    · -- The track is chosen in place of the one before.
      rw [if_pos authorized] at found
      simp only [Bool.not_eq_true', Bool.not_eq_false] at unobserved
      cases found
      exact .inr ⟨rfl, unobserved, ((Bool.and_eq_true _ _).mp authorized).1⟩
    · -- A review and a candidate are chosen beside it.
      rw [if_neg authorized] at found
      split_ifs at found
      all_goals exact .inl found

theorem selectAll_selected
    (found : (tracks.foldl (select config policy) selection).selected = some chosen) :
    selection.selected = some chosen ∨ chosen ∈ tracks ∧ chosen.observedThisCycle = true ∧
      formalWarningAuthorized config policy chosen = true := by
  -- Whoever is chosen last was chosen by one of the steps.
  induction tracks generalizing selection with
  | nil => exact .inl found
  | cons head rest ih =>
    rw [List.foldl_cons] at found
    rcases ih found with earlier | ⟨member, observed, authorized⟩
    · rcases select_selected earlier with before | ⟨rfl, observed, authorized⟩
      · exact .inl before
      · exact .inr ⟨List.mem_cons_self, observed, authorized⟩
    · exact .inr ⟨List.mem_cons_of_mem _ member, observed, authorized⟩

variable [EuclideanNorm] {self : CargoObstacleTracker} {stampSec : Scalar} {hazardObserved : Bool}

theorem project_confirmed
    (confirmed : (self.project policy stampSec hazardObserved).confirmedHazard = true) :
    ∃ track ∈ self.tracks, track.observedThisCycle = true ∧
      formalWarningAuthorized self.config policy track = true ∧
      (self.project policy stampSec hazardObserved).selectedTrackId = track.trackId ∧
      (self.project policy stampSec hazardObserved).selectedCertifiedStaticProvenance =
        track.certifiedStaticProvenance := by
  unfold project at confirmed ⊢
  dsimp only at confirmed ⊢
  cases chosen : (self.tracks.foldl (select self.config policy) {}).selected with
  | none =>
    -- Without a chosen track the decision is a review or a pending one.
    rw [chosen] at confirmed
    cases reviewed : (self.tracks.foldl (select self.config policy) {}).reviewSelected with
    | none =>
      rw [reviewed] at confirmed
      cases candidate : (self.tracks.foldl (select self.config policy) {}).candidate with
      | none =>
        rw [candidate] at confirmed
        cases confirmed
      | some other =>
        rw [candidate] at confirmed
        cases confirmed
    | some other =>
      rw [reviewed] at confirmed
      cases confirmed
  | some track =>
    rcases selectAll_selected chosen with before | ⟨member, observed, authorized⟩
    · cases before
    · exact ⟨track, member, observed, authorized, rfl, rfl⟩

end Selecting

section Eligibility

variable {config : CargoObstacleTrackerConfig} {stampSec : Scalar} {cycle : Nat}
  {observation : CargoObstacleObservation} {grown : Maturity}

theorem warningRanges (valid : (validateCargoObstacleTrackerConfig config).valid = true) :
    ∃ inner outer : ℚ, inner < outer ∧ config.level1WarningDistanceM = .fin inner ∧
      config.level2WarningDistanceM = .fin outer := by
  -- Both ranges are checked by themselves, and then against each other.
  have passes := (ConfigCheck.validate_valid config.checks).mp valid
  obtain ⟨inner, _, innerEq⟩ := ConfigCheck.positive_passes
    (passes (.positive "level1_warning_distance_m" config.level1WarningDistanceM)
      (by simp [CargoObstacleTrackerConfig.checks]))
  obtain ⟨outer, _, outerEq⟩ := ConfigCheck.positive_passes
    (passes (.positive "level2_warning_distance_m" config.level2WarningDistanceM)
      (by simp [CargoObstacleTrackerConfig.checks]))
  have order := passes (.failsWhen "level2_warning_distance_m" "must_exceed_level1"
    (config.level1WarningDistanceM.isFinite && config.level2WarningDistanceM.isFinite &&
      config.level2WarningDistanceM ≤ config.level1WarningDistanceM))
    (by simp [CargoObstacleTrackerConfig.checks])
  refine ⟨inner, outer, ?_, innerEq, outerEq⟩
  simpa [ConfigCheck.failsWhen, innerEq, outerEq] using order

theorem eligible_within (valid : (validateCargoObstacleTrackerConfig config).valid = true)
    (wellFormed : validObservation observation config = true)
    (eligible : currentlyEligible observation = true) :
    observation.footprintDistanceM ≤ config.level2WarningDistanceM := by
  simp only [currentlyEligible, Bool.and_eq_true] at eligible
  simp only [validObservation, Bool.and_eq_true] at wellFormed
  -- The code of a valid observation fits its distance.
  obtain ⟨_, coded⟩ := wellFormed
  obtain ⟨⟨measured, eligible⟩, _⟩ := eligible
  simp only [decisionCodeValid, measured, eligible, Bool.not_true, Bool.false_eq_true, if_false,
    if_true, Bool.and_eq_true] at coded
  have near := coded.2
  unfold warningDistanceValid at near
  split_ifs at near with inner
  · -- The inner range lies within the outer one.
    rw [decide_eq_true_eq] at near
    obtain ⟨low, high, order, lowEq, highEq⟩ := warningRanges valid
    rw [lowEq] at near
    rw [highEq]
    exact Scalar.le_of_lt (Scalar.lt_of_le_of_lt near (Scalar.fin_lt_fin.2 order))
  · simp only [Bool.and_eq_true, decide_eq_true_eq] at near
    exact near.2

theorem eligible_near (valid : (validateCargoObstacleTrackerConfig config).valid = true)
    (wellFormed : validObservation observation config = true)
    (eligible : currentlyEligible observation = true) :
    qualifiesForFarHistory observation config = false := by
  by_contra qualifies
  rw [Bool.not_eq_false] at qualifies
  have within := eligible_within valid wellFormed eligible
  obtain ⟨_, distant⟩ := qualifies_distant qualifies
  -- The uncertainty of a valid observation only shortens its distance.
  simp only [validObservation, Bool.and_eq_true, decide_eq_true_eq] at wellFormed
  obtain ⟨⟨⟨⟨⟨⟨⟨_, distanceFinite⟩, _⟩, _⟩, uncertaintyFinite⟩, uncertain⟩, _⟩, _⟩ := wellFormed
  obtain ⟨distance, distanceEq⟩ := Scalar.isFinite_iff.1 distanceFinite
  obtain ⟨uncertainty, uncertaintyEq⟩ := Scalar.isFinite_iff.1 uncertaintyFinite
  obtain ⟨_, outer, _, _, outerEq⟩ := warningRanges valid
  rw [uncertaintyEq] at uncertain
  have nonnegative : 0 ≤ uncertainty := Scalar.fin_le_fin.1 uncertain
  rw [distanceEq, outerEq, Scalar.fin_le_fin] at within
  rw [distanceEq, uncertaintyEq, outerEq, Scalar.fin_sub_fin, Scalar.fin_lt_fin] at distant
  linarith

theorem streak_authorized
    (long : 2 ≤ (grown.advance config stampSec observation cycle).validated) :
    observation.poseAuthority.valid = true := by
  -- A streak that is longer than one has been continued.
  rw [advance_streak] at long
  by_cases follows : grown.follows config stampSec observation cycle = true
  · simp only [Maturity.follows, Bool.and_eq_true] at follows
    exact (sameTemporalEvidenceAuthority_iff.1 follows.1.1).1
  · rw [if_neg follows] at long
    split_ifs at long
    all_goals omega

end Eligibility

section Soundness

variable [EuclideanNorm]

/-- A confirmed hazard is what a reciprocal match of its track has made of it. -/
theorem confirmed_sound (config : CargoObstacleTrackerConfig) (calls : List TrackerCall)
    (call : TrackerCall)
    (confirmed : (((machine config).run calls).update call).2.confirmedHazard = true) :
    ConfirmedSoundly stampEpsilonSec config ((machine config).trace calls)
      ⟨(machine config).run calls, call⟩ (((machine config).run calls).update call).2 := by
  have tracked := run_tracked config calls
  generalize (machine config).trace calls = past at tracked ⊢
  generalize (machine config).run calls = self at tracked confirmed ⊢
  -- Only an active call confirms anything.
  have active : ¬Idle ⟨self, call⟩ := by
    intro idle
    rw [(update_idle idle).2] at confirmed
    cases confirmed
  -- The chosen track has been observed and authorized in this cycle.
  obtain ⟨valid, _⟩ := active_usable active
  rw [tracked.configured] at valid
  have updated := update_active active
  dsimp only at updated
  rw [updated] at confirmed ⊢
  obtain ⟨track, member, observed, authorized, named, certified⟩ := project_confirmed confirmed
  rw [finished_frame.1, tracked.configured] at authorized
  simp only [formalWarningAuthorized, Bool.and_eq_true] at authorized
  obtain ⟨⟨⟨⟨⟨⟨⟨⟨_, eligible⟩, _⟩, established⟩, distant⟩, _⟩, validated⟩, _⟩, _⟩ := authorized
  cases finished_cases active member with
  | alone present _ same =>
    -- A track that is left alone is not observed.
    obtain ⟨_, unobserved, _⟩ := beginCycle_track present
    rw [same eligible, unobserved] at observed
    cases observed
  | begun _ _ fresh =>
    rw [fresh, created_unconfirmed] at established
    cases established
  | @advanced start earlier observation pair present matches_ wellFormed same matured shape =>
    -- The track is what its reciprocal match has made of it.
    have shaped := shape eligible
    obtain ⟨standing, source, streak⟩ := @matched_standing config call.stampSec
      (finished ⟨self, call⟩).cycle observation pair earlier _
    rw [tracked.configured] at shaped matured wellFormed
    rw [shaped, standing] at eligible
    rw [shaped, source] at validated
    rw [shaped, streak, decide_eq_true_eq, same] at established
    -- The invariant describes the track as it was before the call.
    obtain ⟨steady, _, before, among, sameBefore⟩ := beginCycle_track present
    have supported := tracked.grown before among
    rw [← sameBefore] at supported
    have stamped := tracked.stamped (List.ne_nil_of_mem among)
    have later := later_of_active active stamped (tracked.finite stamped) steady
    have cycle : (finished ⟨self, call⟩).cycle = self.cycle + 1 :=
      finished_frame.2.1.trans (beginCycle_counts steady).1
    have id : track.trackId = start.trackId :=
      (congrArg Maturity.trackId matured).trans advance_trackId
    rw [id] at named
    -- A confirmed streak counts at least two observations, under one valid authority.
    have authority : observation.poseAuthority.valid = true := by
      have two := (frames_at_least_two valid).1
      have long : 2 ≤ ((maturity start).advance config call.stampSec observation
          (finished ⟨self, call⟩).cycle).validated := by
        omega
      exact streak_authorized long
    have warns : observation.warningEligible = true := by
      simp only [currentlyEligible, Bool.and_eq_true] at eligible
      exact eligible.1.2
    unfold ConfirmedSoundly
    rw [named, certified]
    refine ⟨observation, matches_, validated, warns, ?_, ?_⟩
    · -- The streak that confirms the track is a run of validated observations.
      obtain ⟨opening, run⟩ :=
        advance_validated supported (.inl matches_) cycle later authority validated
      exact ⟨_, opening, established, run⟩
    · intro required uncertified
      -- The observation is near, so that the far history was complete before it.
      have complete : track.farFieldHistoryValid = true := by
        simpa [required, uncertified] using distant
      have grown : (maturity track).farValid = true := complete
      have near := eligible_near valid wellFormed eligible
      have kept : ((maturity start).kept observation).farValid = true := by
        by_contra incomplete
        rw [Bool.not_eq_true] at incomplete
        rw [matured, (advance_near incomplete near).2] at grown
        cases grown
      obtain ⟨full, agree⟩ := kept_complete kept
      exact farHistory_transfer agree (supported.history full).2

end Soundness

def clusterAt (footprintDistanceM : Scalar) (warningCode : Nat) (warningEligible : Bool) :
    CargoObstacleObservation :=
  { footprintDistanceM, warningCode, warningEligible
    topZ95Map := 1
    conservativeClearanceM := 0.3
    pointCount := 30
    poseAuthority := { valid := true } }

def farFrame (stampSec : Scalar) : TrackerCall where
  stampSec
  observations := [clusterAt 7 clearCode false]
  policy := { requireStaticCargoForWarning := false }

def nearFrame (stampSec : Scalar) : TrackerCall where
  stampSec
  observations := [clusterAt 4 level2 true]
  policy := { requireStaticCargoForWarning := false }

attribute [local semireducible] Rat.add Rat.sub Rat.mul Rat.inv Rat.ofScientific

theorem stale_track_retired :
    ((@machine axisNorm {}).run ([farFrame 10.1] ++ [farFrame 10, farFrame 1])).Retires 1 := by
  refine @trackId_never_reused axisNorm {} [farFrame 10.1] [farFrame 10, farFrame 1] 1 ?_
    ⟨by decide, by decide⟩
  rw [Machine.during_cons, not_or]
  exact ⟨by decide, Machine.not_during_nil _⟩

theorem confirmed_sound_approach :
    let tracker := (@machine axisNorm {}).run [farFrame 1.2, farFrame 1.1, farFrame 1]
    (@update axisNorm tracker (nearFrame 1.3)).2.confirmedHazard = true ∧
      @ConfirmedSoundly axisNorm stampEpsilonSec {}
        ((@machine axisNorm {}).trace [farFrame 1.2, farFrame 1.1, farFrame 1])
        ⟨tracker, nearFrame 1.3⟩ (@update axisNorm tracker (nearFrame 1.3)).2 := by
  intro tracker
  have confirmed : (@update axisNorm tracker (nearFrame 1.3)).2.confirmedHazard = true := by
    decide
  exact ⟨confirmed, @confirmed_sound axisNorm {} [farFrame 1.2, farFrame 1.1, farFrame 1]
    (nearFrame 1.3) confirmed⟩

theorem history_short_of_duration :
    ¬ ∀ [EuclideanNorm] (config : CargoObstacleTrackerConfig) (calls : List TrackerCall)
      (call : TrackerCall),
      (((machine config).run calls).update call).2.confirmedHazard = true →
      ConfirmedSoundly 0 config ((machine config).trace calls)
        ⟨(machine config).run calls, call⟩ (((machine config).run calls).update call).2 := by
  intro claimed
  -- The cluster is confirmed after 0.19995 s of far frames, where 0.2 s are configured.
  have confirmed : (@update axisNorm ((@machine axisNorm {}).run
      [farFrame 1.19995, farFrame 1.1, farFrame 1]) (nearFrame 1.3)).2.confirmedHazard = true := by
    decide
  obtain ⟨_, _, _, _, _, history⟩ := @claimed axisNorm {}
    [farFrame 1.19995, farFrame 1.1, farFrame 1] (nearFrame 1.3) confirmed
  have uncertified : (@update axisNorm ((@machine axisNorm {}).run
      [farFrame 1.19995, farFrame 1.1, farFrame 1])
      (nearFrame 1.3)).2.selectedCertifiedStaticProvenance = false := by
    decide
  obtain ⟨newer, older, _, opening, last, split, run, _, long, _⟩ := history rfl uncertified
  -- Whichever two of the far frames open and close the run, they are too close together.
  obtain ⟨begins, ends⟩ := run.ends_in_past
  have stamps : ∀ event ∈ older, event.call.stampSec ∈ ([1.19995, 1.1, 1] : List Scalar) := by
    intro event member
    have among : event ∈ (@machine axisNorm {}).trace
        [farFrame 1.19995, farFrame 1.1, farFrame 1] := by
      rw [split]
      exact List.mem_append_right _ member
    simp only [Machine.trace, List.mem_cons, List.not_mem_nil, or_false] at among
    rcases among with rfl | rfl | rfl
    · exact List.mem_cons_self
    · exact List.mem_cons_of_mem _ List.mem_cons_self
    · exact List.mem_cons_of_mem _ (List.mem_cons_of_mem _ List.mem_cons_self)
  have short : ∀ first ∈ ([1.19995, 1.1, 1] : List Scalar),
      ∀ final ∈ ([1.19995, 1.1, 1] : List Scalar), ¬(0.2 : Scalar) ≤ final - first + 0 := by
    decide
  exact short _ (stamps opening begins) _ (stamps last ends) long

end NdtSlam.CargoObstacleTracker
