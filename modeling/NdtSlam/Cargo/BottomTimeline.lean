import NdtSlam.Cargo.BottomDownward

/-! What the estimator of the cargo bottom forgets when the time line of its track is broken. -/

namespace NdtSlam

variable {config : CargoBottomFusionConfig} {observation : CargoBottomObservation}

/-- Nothing of the past of a track is left, apart from the newest result. -/
structure BottomTemporalState.Cleared (temporal : BottomTemporalState) : Prop where
  frames : temporal.accumulatedFrames = []
  ema : temporal.emaValid = false
  stable : temporal.stable.valid = false
  final : temporal.finalValid = false
  pending : temporal.pendingLargeJump = false

/-- The observation passes all checks and belongs to the track that is followed. -/
structure CargoBottomFusion.Continues (before : CargoBottomFusion)
    (observation : CargoBottomObservation) : Prop where
  config : before.config.Valid
  tracked : observation.untracked = false
  accepted : observation.refusal before.config = none
  follows : before.follows observation = true

def CargoBottomFusion.Discontinuous (self : CargoBottomFusion)
    (observation : CargoBottomObservation) : Prop :=
  self.rollsBack observation = true ∨ self.leavesGap observation = true ∨
    self.losesCenter observation = true

def CargoBottomFusion.Repeats (self : CargoBottomFusion) (observation : CargoBottomObservation) :
    Prop :=
  self.rollsBack observation = false ∧
    observation.stampSec ≤ self.lastStampSec + self.config.backwardsToleranceSec

/-- The observation has no usable point, and no height that goes with a current top. -/
structure CargoBottomObservation.OffersNothing (observation : CargoBottomObservation) : Prop where
  points : finitePoints observation.pointsBase = []
  heights : observation.currentTopValid = true → observation.mapDiffHeightValid = false ∧
    observation.mapStaticHeightValid = false ∧ observation.originHeightValid = false ∧
    (observation.frozenThicknessValid && observation.currentTopSupportValid) = false

/-! ### What is held depends on the final output -/

structure BottomTemporalState.Anchored (temporal : BottomTemporalState) : Prop where
  ema : temporal.finalValid = false → temporal.emaValid = false
  stable : temporal.finalValid = false → temporal.stable.valid = false
  pending : temporal.finalValid = false → temporal.pendingLargeJump = false

theorem BottomTemporalState.Anchored.empty : ({} : BottomTemporalState).Anchored :=
  ⟨fun _ => rfl, fun _ => rfl, fun _ => rfl⟩

variable {temporal : BottomTemporalState}

theorem BottomTemporalState.Anchored.ofFinal (final : temporal.finalValid = true) :
    temporal.Anchored :=
  ⟨fun missing => absurd (final.symm.trans missing) (by simp),
    fun missing => absurd (final.symm.trans missing) (by simp),
    fun missing => absurd (final.symm.trans missing) (by simp)⟩

theorem BottomTemporalState.Anchored.ingest (anchored : temporal.Anchored) :
    (temporal.ingest config observation).Anchored := by
  obtain ⟨frames, newest, same⟩ := @BottomTemporalState.ingest_eq config temporal observation
  rw [same]
  exact { anchored with }

namespace CargoBottomFusion

variable {self ready : CargoBottomFusion} {blank : CargoBottomResult}

theorem withoutCandidate_kept :
    (self.withoutCandidate observation blank).1.temporal.accumulatedFrames
        = self.temporal.accumulatedFrames ∧
      (self.withoutCandidate observation blank).1.temporal.emaValid = self.temporal.emaValid ∧
      (self.withoutCandidate observation blank).1.temporal.stable = self.temporal.stable ∧
      (self.withoutCandidate observation blank).1.temporal.finalValid = self.temporal.finalValid ∧
      (self.temporal.pendingLargeJump = false →
        (self.withoutCandidate observation blank).1.temporal.pendingLargeJump = false) ∧
      (self.withoutCandidate observation blank).1.temporal.lastResultAvailable = true := by
  unfold withoutCandidate
  dsimp only
  split
  · exact ⟨rfl, rfl, rfl, rfl, fun _ => rfl, rfl⟩
  · exact ⟨rfl, rfl, rfl, rfl, fun waiting => waiting, rfl⟩

structure Anchored (before : CargoBottomFusion) : Prop where
  temporal : before.temporal.Anchored
  available : before.hasTrack = true → before.temporal.lastResultAvailable = true

theorem Anchored.ofReset : (reset self).Anchored :=
  ⟨.empty, fun tracked => absurd tracked (by simp [reset])⟩

section Rotations

variable [CircularFunctions]

theorem withCandidate_final (selected : SelectedCandidate) :
    (self.withCandidate observation blank selected).1.temporal.finalValid = true ∧
      (self.withCandidate observation blank selected).1.temporal.lastResultAvailable = true := by
  unfold withCandidate
  dsimp only
  split <;> exact ⟨rfl, rfl⟩

theorem process_anchored (anchored : self.temporal.Anchored) :
    (self.process observation).1.temporal.Anchored ∧
      (self.process observation).1.temporal.lastResultAvailable = true := by
  have ingested : (self.ingest observation).temporal.Anchored := anchored.ingest
  unfold process
  dsimp only
  split
  · obtain ⟨-, ema, stable, final, pending, available⟩ := @withoutCandidate_kept observation
      (self.ingest observation)
      (evidenceResult self.config observation ((self.ingest observation).evidence observation))
    refine ⟨⟨?_, ?_, ?_⟩, available⟩
    · intro missing
      rw [ema]
      exact ingested.ema (final.symm.trans missing)
    · intro missing
      rw [stable]
      exact ingested.stable (final.symm.trans missing)
    · intro missing
      exact pending (ingested.pending (final.symm.trans missing))
  · rename_i selected chosen
    obtain ⟨final, available⟩ := @withCandidate_final observation (self.ingest observation)
      (evidenceResult self.config observation ((self.ingest observation).evidence observation))
      _ selected
    exact ⟨.ofFinal final, available⟩

theorem Anchored.update (anchored : self.Anchored) : (self.update observation).1.Anchored := by
  unfold CargoBottomFusion.update
  split
  · exact .ofReset
  · dsimp only
    split
    · exact .ofReset
    · split
      · exact anchored
      · unfold accept
        split
        · rename_i ready proceeds
          -- What is processed starts from nothing, or from what was anchored before.
          have start : ready.temporal.Anchored := by
            unfold continuity at proceeds
            split_ifs at proceeds
            · obtain rfl := Continuity.proceeds.inj proceeds
              exact .empty
            · obtain rfl := Continuity.proceeds.inj proceeds
              exact { anchored.temporal with }
            · obtain rfl := Continuity.proceeds.inj proceeds
              exact anchored.temporal
          obtain ⟨temporal, available⟩ := @process_anchored observation ready _ start
          exact ⟨temporal, fun _ => available⟩
        · exact ⟨⟨fun _ => rfl, fun _ => rfl, fun _ => rfl⟩, fun _ => rfl⟩
        · exact anchored

theorem run_anchored (config : CargoBottomFusionConfig)
    (observations : List CargoBottomObservation) :
    ((bottomMachine config).run observations).Anchored := by
  refine @Machine.run_invariant _ _ _ (bottomMachine config)
    (fun _ state => state.Anchored) ?_ ?_ observations
  · exact ⟨.empty, fun tracked => absurd tracked (by simp [bottomMachine])⟩
  · intro past state observation anchored
    exact anchored.update

/-- Whatever is fed, only finite heights are held, and none before the first final one. -/
theorem memory_well_formed (config : CargoBottomFusionConfig)
    (observations : List CargoBottomObservation) :
    let temporal := ((bottomMachine config).run observations).temporal
    temporal.FiniteHeights ∧ temporal.Anchored :=
  ⟨(run_isFinite config observations).2, (run_anchored config observations).temporal⟩

end Rotations
end CargoBottomFusion

/-! ### Accumulation that starts anew -/

theorem limitPointsDeterministically_nil {points : List Vec3} {limit : Nat} (allowed : limit ≠ 0) :
    limitPointsDeterministically points limit = [] ↔ points = [] := by
  unfold limitPointsDeterministically
  split_ifs with few one
  · rfl
  · -- More than one point cannot be none.
    cases points with
    | nil => simp at few
    | cons first rest => simp
  · constructor
    · intro empty
      have length := congrArg List.length empty
      simp only [List.length_map, List.length_range, List.length_nil] at length
      omega
    · rintro rfl
      simp at few

theorem CargoBottomObservation.frame_nil (valid : config.Valid) :
    (observation.frame config).pointsMap = [] ↔ finitePoints observation.pointsBase = [] := by
  have allowed : config.maxAccumulatedPoints ≠ 0 := by
    have passes := valid.passes ("max_accumulated_points", _) (by
      unfold CargoBottomFusionConfig.faults
      iterate 5 apply List.mem_cons_of_mem
      exact List.mem_cons_self)
    simpa using passes
  unfold CargoBottomObservation.frame
  rw [limitPointsDeterministically_nil allowed, List.map_eq_nil_iff]

theorem enforceAccumulationLimit_single (frame : AccumulatedFrame) :
    ∃ points, enforceAccumulationLimit config [frame] = [{ frame with pointsMap := points }] :=
  ⟨_, rfl⟩

theorem purgeAccumulation_own (valid : config.Valid) (tracked : observation.untracked = false)
    (frame : AccumulatedFrame) (own : frame.stampSec = observation.stampSec) :
    purgeAccumulation config observation.stampSec [frame] ≠ [] := by
  have window : finiteNonNegative config.accumulationWindowSec = true := by
    have passes := valid.passes ("accumulation_window_sec", _) (by
      unfold CargoBottomFusionConfig.faults
      exact List.mem_cons_self)
    simpa using passes
  simp only [finiteNonNegative, Bool.and_eq_true, decide_eq_true_eq] at window
  simp only [CargoBottomObservation.untracked, Bool.or_eq_false_iff, Bool.not_eq_false'] at tracked
  obtain ⟨width, sameWidth⟩ := Scalar.isFinite_iff.1 window.1
  obtain ⟨stamp, sameStamp⟩ := Scalar.isFinite_iff.1 tracked.1.1.2
  have wide : (0 : ℚ) ≤ width := by
    have nonneg := window.2
    rw [sameWidth] at nonneg
    exact_mod_cast Scalar.fin_le_fin.1 nonneg
  have kept : ¬frame.stampSec < observation.stampSec - config.accumulationWindowSec := by
    rw [own, sameStamp, sameWidth, Scalar.fin_sub_fin, Scalar.fin_lt_fin]
    linarith
  unfold purgeAccumulation
  rw [List.dropWhile_cons_of_neg (by simpa using kept)]
  obtain ⟨points, same⟩ := @enforceAccumulationLimit_single config frame
  rw [same]
  simp

theorem BottomTemporalState.ingest_frames (valid : config.Valid)
    (tracked : observation.untracked = false) (empty : temporal.accumulatedFrames = []) :
    (temporal.ingest config observation).accumulatedFrames = [] ↔
      finitePoints observation.pointsBase = [] := by
  show purgeAccumulation config observation.stampSec
    (temporal.appendPoints config observation).accumulatedFrames = [] ↔ _
  unfold BottomTemporalState.appendPoints
  by_cases noPoints : observation.pointsBase.isEmpty = true
  · rw [if_pos noPoints, empty, List.isEmpty_iff.mp noPoints]
    exact iff_of_true rfl rfl
  · rw [if_neg noPoints, if_neg (by simp [empty])]
    dsimp only
    by_cases unusable : (observation.frame config).pointsMap.isEmpty = true
    · rw [if_pos unusable, empty]
      exact iff_of_true rfl ((observation.frame_nil valid).mp (List.isEmpty_iff.mp unusable))
    · rw [if_neg unusable, empty]
      -- The new frame is the only one, and it stays.
      obtain ⟨points, same⟩ := @enforceAccumulationLimit_single config (observation.frame config)
      have single : enforceAccumulationLimit config
          (makeRoom config.maxAccumulatedPoints (observation.frame config).pointsMap.length []
            ++ [observation.frame config]) = [{ observation.frame config with pointsMap := points }] :=
        same
      rw [single]
      refine iff_of_false (purgeAccumulation_own valid tracked _ rfl) ?_
      rw [← observation.frame_nil valid, ← List.isEmpty_iff]
      exact unusable

/-! ### Observations that offer nothing -/

theorem preferCandidate_none {source : CargoBottomSource} {stats : CargoVerticalStats}
    {candidate : SelectedCandidate → SelectedCandidate} {selected : Option SelectedCandidate}
    (real : 0 < cargoBottomSourcePriority source) :
    preferCandidate source stats candidate selected = none ↔
      selected = none ∧ stats.supportStrong = false := by
  unfold preferCandidate
  cases selected with
  | none =>
    -- Every real source is preferred over none at all.
    have outranked : ¬cargoBottomSourcePriority source
        ≤ cargoBottomSourcePriority CargoBottomSource.invalid := not_le.mpr real
    cases strong : stats.supportStrong with
    | false => simp
    | true => simp [outranked]
  | some current =>
    constructor
    · intro nothing
      split at nothing <;> cases nothing
    · rintro ⟨missing, -⟩
      cases missing

theorem heightPriorStats_weak {given : Bool} {height : Scalar} :
    (heightPriorStats observation given height).supportStrong = false ↔
      (observation.currentTopValid = true → given = false) := by
  unfold heightPriorStats
  cases given with
  | false => simp
  | true =>
    cases top : observation.currentTopValid with
    | false => simp
    | true => simp

section Rotations

variable [CircularFunctions]

theorem selectObserved_none (authority : TemporalEvidenceAuthority)
    (frames : List AccumulatedFrame) :
    selectObserved config authority observation (bottomEvidence config frames observation) = none ↔
      (bottomEvidence config frames observation).pointsStats.supportStrong = false ∧
        (observation.currentTopValid = true → observation.mapDiffHeightValid = false ∧
          observation.mapStaticHeightValid = false ∧ observation.originHeightValid = false ∧
          (observation.frozenThicknessValid && observation.currentTopSupportValid) = false) := by
  have points : ∀ evidence : BottomEvidence,
      selectFromPoints config authority observation evidence none = none ↔
        evidence.pointsStats.supportStrong = false := by
    intro evidence
    unfold selectFromPoints
    rw [preferCandidate_none (by decide)]
    exact and_iff_right rfl
  have prior : ∀ (source : CargoBottomSource) (stats : CargoVerticalStats)
      (uncertainty confidence : Scalar) (reason : String) (selected : Option SelectedCandidate),
      0 < cargoBottomSourcePriority source →
      (selectFromHeightPrior observation source stats uncertainty confidence reason selected = none ↔
        selected = none ∧ stats.supportStrong = false) := by
    intro source stats uncertainty confidence reason selected real
    exact preferCandidate_none real
  unfold selectObserved
  dsimp only
  rw [prior _ _ _ _ _ _ (by decide), prior _ _ _ _ _ _ (by decide), prior _ _ _ _ _ _ (by decide),
    prior _ _ _ _ _ _ (by decide), points]
  -- Each height prior is supported together with a top only.
  have mapDiff : (bottomEvidence config frames observation).mapDiffStats.supportStrong = false ↔ _ :=
    @heightPriorStats_weak observation _ _
  have mapStatic : (bottomEvidence config frames observation).mapStaticStats.supportStrong = false ↔
      _ := @heightPriorStats_weak observation _ _
  have origin : (bottomEvidence config frames observation).originHeightStats.supportStrong = false ↔
      _ := @heightPriorStats_weak observation _ _
  have direct : (bottomEvidence config frames observation).directTopFrozenStats.supportStrong
      = false ↔ (observation.currentTopValid = true →
        (observation.frozenThicknessValid && observation.currentTopSupportValid) = false) := by
    rw [← @heightPriorStats_weak observation _ observation.frozenThicknessM,
      ← (@directTopFrozenStats_eq observation).1]
    rfl
  rw [mapDiff, mapStatic, origin, direct]
  constructor
  · rintro ⟨⟨⟨⟨weak, first⟩, second⟩, third⟩, fourth⟩
    exact ⟨weak, fun top => ⟨first top, third top, fourth top, second top⟩⟩
  · rintro ⟨weak, rest⟩
    exact ⟨⟨⟨⟨weak, fun top => (rest top).1⟩, fun top => (rest top).2.2.2⟩,
      fun top => (rest top).2.1⟩, fun top => (rest top).2.2.1⟩

theorem analyzeVertical_nil (valid : config.Valid) :
    (analyzeVertical config observation []).supportStrong = false := by
  have demanded : config.pointsMinPoints ≠ 0 := by
    have passes := valid.passes ("minimum_points", _) (by
      unfold CargoBottomFusionConfig.faults
      iterate 6 apply List.mem_cons_of_mem
      exact List.mem_cons_self)
    simpa using passes
  have few : (finitePoints []).length < config.pointsMinPoints := Nat.pos_of_ne_zero demanded
  unfold analyzeVertical
  dsimp only
  rw [if_pos (by simp [few])]

theorem bottomEvidence_pointless (valid : config.Valid)
    (pointless : finitePoints observation.pointsBase = []) :
    (bottomEvidence config [] observation).pointsStats.supportStrong = false := by
  have filtered : filterToFootprint [] observation config.footprintMargin = [] := by
    unfold filterToFootprint
    split <;> rfl
  have weak := @analyzeVertical_nil config observation _ valid
  unfold bottomEvidence alignedAccumulatedPoints
  dsimp only
  rw [pointless, List.flatMap_nil, filtered, weak]
  exact weak

end Rotations

/-! ### The time line -/

namespace CargoBottomFusion

variable {self : CargoBottomFusion}

def underAuthority (self : CargoBottomFusion) (observation : CargoBottomObservation) :
    CargoBottomFusion :=
  { self with
    trackPoseAuthority := observation.poseAuthority
    temporal := { self.temporal with accumulatedFrames := [], newestPointsStampSec := 0 } }

theorem Continues.processes (continues : self.Continues observation)
    (changes : self.changesAuthority observation = true) :
    self.Processes observation (self.underAuthority observation) := by
  refine ⟨continues.config, continues.tracked, continues.accepted, ?_⟩
  unfold continuity
  rw [if_neg (by simp [continues.follows]), if_pos changes]
  rfl

theorem Continues.interrupted (continues : self.Continues observation)
    (keeps : self.changesAuthority observation = false)
    (broken : self.Discontinuous observation) :
    ∃ reason, self.continuity observation = .interrupted reason := by
  unfold continuity
  rw [if_neg (by simp [continues.follows]), if_neg (by simp [keeps])]
  rcases broken with back | gap | lost
  · exact ⟨_, if_pos back⟩
  · by_cases back : self.rollsBack observation = true
    · exact ⟨_, if_pos back⟩
    · exact ⟨_, by rw [if_neg back, if_pos gap]⟩
  · by_cases back : self.rollsBack observation = true
    · exact ⟨_, if_pos back⟩
    · by_cases gap : self.leavesGap observation = true
      · exact ⟨_, by rw [if_neg back, if_pos gap]⟩
      · exact ⟨_, by rw [if_neg back, if_neg gap, if_pos lost]⟩

variable [CircularFunctions]

theorem Continues.update_eq (continues : self.Continues observation) :
    self.update observation = self.accept observation := by
  have valid : self.config.invalidField = none := continues.config
  unfold update
  rw [valid]
  simp only [continues.tracked, Bool.false_eq_true, if_false, continues.accepted]

theorem Continues.cleared (continues : self.Continues observation)
    (keeps : self.changesAuthority observation = false)
    (broken : self.Discontinuous observation) :
    (self.update observation).1.temporal.Cleared ∧ (self.update observation).2.valid = false := by
  obtain ⟨reason, interrupted⟩ := continues.interrupted keeps broken
  rw [continues.update_eq]
  unfold accept
  rw [interrupted]
  exact ⟨⟨rfl, rfl, rfl, rfl, rfl⟩, rfl⟩

theorem Continues.cleared_iff (continues : self.Continues observation) (anchored : self.Anchored)
    (changes : self.changesAuthority observation = true) :
    ((self.update observation).1.temporal.Cleared ∧ (self.update observation).2.valid = false) ↔
      self.temporal.finalValid = false ∧ observation.OffersNothing := by
  rw [(continues.processes changes).update_eq]
  obtain ⟨frames, newest, ingested⟩ := @BottomTemporalState.ingest_eq self.config
    (self.underAuthority observation).temporal observation
  have pointless : ((self.underAuthority observation).ingest observation).temporal.accumulatedFrames
      = [] ↔ finitePoints observation.pointsBase = [] :=
    BottomTemporalState.ingest_frames continues.config continues.tracked rfl
  have kept : ((self.underAuthority observation).ingest observation).temporal
      = { (self.underAuthority observation).temporal with
          accumulatedFrames := frames, newestPointsStampSec := newest } := ingested
  have heights := @selectObserved_none self.config observation _ observation.poseAuthority
    ((self.underAuthority observation).ingest observation).temporal.accumulatedFrames
  unfold process
  dsimp only
  cases chosen : ((self.underAuthority observation).ingest observation).candidate observation with
  | some selected =>
    -- A candidate becomes the final output, so that something is held afterwards.
    refine iff_of_false ?_ ?_
    · rintro ⟨cleared, -⟩
      exact absurd ((withCandidate_final selected).1.symm.trans cleared.final) (by simp)
    · rintro ⟨noFinal, nothing⟩
      have noFrames := pointless.mpr nothing.points
      have noHeight : selectObserved self.config observation.poseAuthority observation
          (bottomEvidence self.config
            ((self.underAuthority observation).ingest observation).temporal.accumulatedFrames
            observation) = none := by
        refine heights.mpr ⟨?_, nothing.heights⟩
        rw [noFrames]
        exact bottomEvidence_pointless continues.config nothing.points
      have noStable : ((self.underAuthority observation).ingest observation).temporal.stable.valid
          = false := by
        rw [kept]
        exact anchored.temporal.stable noFinal
      unfold candidate selectCandidate at chosen
      have observed : selectObserved ((self.underAuthority observation).ingest observation).config
          ((self.underAuthority observation).ingest observation).trackPoseAuthority observation
          (((self.underAuthority observation).ingest observation).evidence observation) = none :=
        noHeight
      rw [observed] at chosen
      unfold holdStable at chosen
      simp [noStable] at chosen
  | none =>
    obtain ⟨sameFrames, ema, stable, final, pending, -⟩ := @withoutCandidate_kept observation
      ((self.underAuthority observation).ingest observation)
      (evidenceResult (self.underAuthority observation).config observation
        (((self.underAuthority observation).ingest observation).evidence observation))
    have observed : selectObserved ((self.underAuthority observation).ingest observation).config
        ((self.underAuthority observation).ingest observation).trackPoseAuthority observation
        (((self.underAuthority observation).ingest observation).evidence observation) = none := by
      unfold candidate selectCandidate at chosen
      split at chosen
      · cases chosen
      · assumption
    constructor
    · rintro ⟨cleared, -⟩
      refine ⟨?_, pointless.mp (sameFrames.symm.trans cleared.frames), (heights.mp observed).2⟩
      have noFinal := final.symm.trans cleared.final
      rw [kept] at noFinal
      exact noFinal
    · rintro ⟨noFinal, nothing⟩
      refine ⟨⟨sameFrames.trans (pointless.mpr nothing.points), ?_, ?_, ?_, ?_⟩, rfl⟩
      · rw [ema, kept]
        exact anchored.temporal.ema noFinal
      · rw [stable, kept]
        exact anchored.temporal.stable noFinal
      · rw [final, kept]
        exact noFinal
      · refine pending ?_
        rw [kept]
        exact anchored.temporal.pending noFinal

theorem process_authority :
    (self.process observation).1.trackPoseAuthority = self.trackPoseAuthority := by
  unfold process
  dsimp only
  split <;> rfl

theorem Continues.repeated (continues : self.Continues observation) (anchored : self.Anchored)
    (keeps : self.changesAuthority observation = false)
    (unbroken : ¬self.Discontinuous observation) (repeats : self.Repeats observation) :
    self.update observation = (self, self.temporal.lastResult) := by
  unfold Discontinuous at unbroken
  simp only [not_or] at unbroken
  obtain ⟨forward, near, tracked⟩ := unbroken
  have follows := continues.follows
  simp only [CargoBottomFusion.follows, Bool.and_eq_true] at follows
  have again : self.repeatsStamp observation = true := by
    simp [repeatsStamp, repeats.2, anchored.available follows.1]
  have repeated : self.continuity observation = .repeated := by
    unfold continuity
    rw [if_neg (by simp [continues.follows]), if_neg (by simp [keeps]), if_neg forward, if_neg near,
      if_neg tracked, if_pos again]
  rw [continues.update_eq]
  unfold accept
  rw [repeated]

end CargoBottomFusion

/-- When the time line of a track is kept, after any run. -/
theorem timeline_kept_iff [CircularFunctions] (config : CargoBottomFusionConfig)
    (observations : List CargoBottomObservation) (observation : CargoBottomObservation)
    (continues : ((bottomMachine config).run observations).Continues observation) :
    (((bottomMachine config).run observations).Discontinuous observation →
      (((((bottomMachine config).run observations).update observation).1.temporal.Cleared ∧
          (((bottomMachine config).run observations).update observation).2.valid = false) ↔
        (((bottomMachine config).run observations).changesAuthority observation = false ∨
          ((bottomMachine config).run observations).temporal.finalValid = false ∧
            observation.OffersNothing))) ∧
      (¬((bottomMachine config).run observations).Discontinuous observation →
        ((bottomMachine config).run observations).Repeats observation →
        (((bottomMachine config).run observations).changesAuthority observation = false →
          ((bottomMachine config).run observations).update observation
            = ((bottomMachine config).run observations,
              ((bottomMachine config).run observations).temporal.lastResult)) ∧
        (((bottomMachine config).run observations).changesAuthority observation = true →
          observation.poseAuthority
            ≠ ((bottomMachine config).run observations).trackPoseAuthority →
          (((bottomMachine config).run observations).update observation).1
            ≠ (bottomMachine config).run observations)) := by
  have anchored := CargoBottomFusion.run_anchored config observations
  generalize (bottomMachine config).run observations = self at *
  constructor
  · intro broken
    cases changes : self.changesAuthority observation with
    | false => exact iff_of_true (continues.cleared changes broken) (.inl rfl)
    | true =>
      rw [continues.cleared_iff anchored changes]
      simp
  · intro unbroken repeats
    refine ⟨fun keeps => continues.repeated anchored keeps unbroken repeats, ?_⟩
    intro changes other same
    -- The new authority is noted, which is a change of the state.
    have noted : (self.update observation).1.trackPoseAuthority = observation.poseAuthority := by
      rw [(continues.processes changes).update_eq]
      exact CargoBottomFusion.process_authority
    rw [same] at noted
    exact other noted.symm

section Samples

attribute [local instance] unturned
attribute [local semireducible] Rat.add Rat.sub Rat.mul Rat.inv Rat.ofScientific

theorem timeline_kept_sample :
    ((((bottomMachine {}).run [toppedCargo 1 5]).update (toppedCargo 5 5)).1.temporal.Cleared ∧
      (((bottomMachine {}).run [toppedCargo 1 5]).update (toppedCargo 5 5)).2.valid = false) ∧
    (((bottomMachine {}).run [toppedCargo 1 5]).update (toppedCargo 1 5)).1
      = (bottomMachine {}).run [toppedCargo 1 5] := by
  have gap := timeline_kept_iff {} [toppedCargo 1 5] (toppedCargo 5 5)
    ⟨by decide, by decide, by decide, by decide⟩
  have again := timeline_kept_iff {} [toppedCargo 1 5] (toppedCargo 1 5)
    ⟨by decide, by decide, by decide, by decide⟩
  refine ⟨(gap.1 (.inr (.inl (by decide)))).mpr (.inl (by decide)), ?_⟩
  have unbroken : ¬((bottomMachine {}).run [toppedCargo 1 5]).Discontinuous (toppedCargo 1 5) := by
    rintro (back | near | lost)
    · revert back
      decide
    · revert near
      decide
    · revert lost
      decide
  rw [(again.2 unbroken ⟨by decide, by decide⟩).1 (by decide)]

private def rebasedCargo (stampSec top : Scalar) : CargoBottomObservation :=
  { toppedCargo stampSec top with
    poseAuthority := { valid := true, poseIdentity := { keyframePoseVersion := 1 } } }

/-- After a gap of four seconds, or a rollback of half a second, a bottom is valid at once. -/
theorem rebased_timeline_broken :
    (((bottomMachine {}).run [toppedCargo 1 5]).Continues (rebasedCargo 5 4) ∧
      ((bottomMachine {}).run [toppedCargo 1 5]).leavesGap (rebasedCargo 5 4) = true ∧
      (((bottomMachine {}).run [toppedCargo 1 5]).update (rebasedCargo 5 4)).2.valid = true) ∧
    ((bottomMachine {}).run [toppedCargo 1 5]).Continues (rebasedCargo 0.5 4) ∧
      ((bottomMachine {}).run [toppedCargo 1 5]).rollsBack (rebasedCargo 0.5 4) = true ∧
      (((bottomMachine {}).run [toppedCargo 1 5]).update (rebasedCargo 0.5 4)).2.valid = true := by
  refine ⟨⟨⟨?_, ?_, ?_, ?_⟩, ?_, ?_⟩, ⟨?_, ?_, ?_, ?_⟩, ?_, ?_⟩
  all_goals decide

end Samples
end NdtSlam
