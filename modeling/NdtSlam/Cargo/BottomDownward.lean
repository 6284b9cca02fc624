import NdtSlam.Cargo.BottomHeights

/-! A lower bottom that is measured in absolute terms, and what the output gate makes of it. -/

namespace NdtSlam

variable {observation : CargoBottomObservation}

def DirectSelection (observation : CargoBottomObservation) (selected : Option SelectedCandidate) :
    Prop :=
  ∀ candidate, selected = some candidate → candidate.source = .directTopFrozenThickness →
    (directTopFrozenStats observation).supportStrong = true ∧
      candidate.bottomZBase = (directTopFrozenStats observation).z05

variable {selected : Option SelectedCandidate}

theorem DirectSelection.prefer {source : CargoBottomSource} {stats : CargoVerticalStats}
    {candidate : SelectedCandidate → SelectedCandidate}
    (before : DirectSelection observation selected)
    (other : ∀ base, (candidate base).source ≠ .directTopFrozenThickness) :
    DirectSelection observation (preferCandidate source stats candidate selected) := by
  unfold preferCandidate
  split
  · exact before
  · intro chosen found direct
    obtain rfl := Option.some.inj found
    exact absurd direct (other _)

theorem DirectSelection.preferDirect {uncertainty confidence : Scalar} {reason : String}
    (before : DirectSelection observation selected) :
    DirectSelection observation (selectFromHeightPrior observation .directTopFrozenThickness
      (directTopFrozenStats observation) uncertainty confidence reason selected) := by
  unfold selectFromHeightPrior preferCandidate
  split
  · exact before
  · rename_i preferred
    simp only [Bool.or_eq_true, Bool.not_eq_true', not_or, Bool.not_eq_false] at preferred
    intro chosen found _
    obtain rfl := Option.some.inj found
    exact ⟨preferred.1, rfl⟩

namespace CargoBottomFusion

structure Processes (before : CargoBottomFusion) (observation : CargoBottomObservation)
    (ready : CargoBottomFusion) : Prop where
  config : before.config.Valid
  tracked : observation.untracked = false
  accepted : observation.refusal before.config = none
  proceeds : before.continuity observation = .proceeds ready

variable {self ready : CargoBottomFusion} [CircularFunctions]

theorem Processes.update_eq (processes : self.Processes observation ready) :
    self.update observation = ready.process observation := by
  have valid : self.config.invalidField = none := processes.config
  unfold update
  rw [valid]
  simp only [processes.tracked, Bool.false_eq_true, if_false, processes.accepted]
  unfold accept
  rw [processes.proceeds]

end CargoBottomFusion

/-! ### The direct measurement -/

theorem direct_bottom [CircularFunctions] {ready : CargoBottomFusion} {selected : SelectedCandidate}
    (measured : ready.candidate observation = some selected)
    (direct : selected.source = .directTopFrozenThickness) :
    selected.bottomZBase = observation.currentTopZBase - observation.frozenThicknessM := by
  have observed : DirectSelection observation
      (selectObserved ready.config ready.trackPoseAuthority observation
        (ready.evidence observation)) := by
    -- The direct measurement competes as the third of five candidates.
    unfold selectObserved
    refine DirectSelection.prefer (.prefer (.preferDirect (.prefer (.prefer ?_ ?_) ?_)) ?_) ?_
    · exact fun _ found => absurd found (by simp)
    all_goals simp
  unfold CargoBottomFusion.candidate selectCandidate at measured
  split at measured
  · rename_i chosen found
    obtain rfl := Option.some.inj measured
    obtain ⟨sameSource, sameBottom, -⟩ := noteLowerEdge_same (ready.evidence observation) chosen
    obtain ⟨strong, bottom⟩ := observed chosen found (sameSource.symm.trans direct)
    obtain ⟨sameSupport, sameHeight, -⟩ := @directTopFrozenStats_eq observation
    rw [sameBottom, bottom, sameHeight]
    exact (heightPriorStats_strong (sameSupport.symm.trans strong)).2.2.1
  · -- A held estimate has a source of its own.
    unfold holdStable at measured
    dsimp only at measured
    split at measured
    · obtain rfl := Option.some.inj measured
      cases direct
    · cases measured

/-! ### The output gate -/

def BottomTemporalState.Softens (temporal : BottomTemporalState) (config : CargoBottomFusionConfig)
    (observation : CargoBottomObservation) (selected : SelectedCandidate) : Prop :=
  ¬temporal.jumpTo observation selected ≤ config.directUpdateMaxJump ∧
    temporal.jumpTo observation selected ≤ config.softUpdateMaxJump

variable {config : CargoBottomFusionConfig} {temporal : BottomTemporalState}

theorem outputGate_direct {selected : SelectedCandidate}
    (direct : selected.source = .directTopFrozenThickness)
    (comparable : temporal.finalFrameCompatible observation = true)
    (lower : selected.bottomZBase < temporal.previousBottom observation) :
    (temporal.Softens config observation selected →
        (temporal.outputGate config observation selected).2.1.bottomZBase
          = blend config.softUpdateAlpha selected.bottomZBase
            (temporal.previousBottom observation)) ∧
      (¬temporal.Softens config observation selected →
        (temporal.outputGate config observation selected).2.1.bottomZBase
          = selected.bottomZBase) := by
  have absolute : selected.absoluteCurrentVertical = true := by
    simp [SelectedCandidate.absoluteCurrentVertical, direct]
  unfold BottomTemporalState.outputGate
  rw [if_neg (by simp [comparable])]
  by_cases small : temporal.jumpTo observation selected ≤ config.directUpdateMaxJump
  · rw [if_pos small]
    refine ⟨fun softens => absurd small softens.1, fun _ => ?_⟩
    unfold BottomTemporalState.passDirect
    rw [if_pos (by simp [direct])]
  · rw [if_neg small]
    by_cases moderate : temporal.jumpTo observation selected ≤ config.softUpdateMaxJump
    · rw [if_pos moderate]
      exact ⟨fun _ => rfl, fun keeps => absurd ⟨small, moderate⟩ keeps⟩
    · rw [if_neg moderate]
      refine ⟨fun softens => absurd softens.2 moderate, fun _ => ?_⟩
      -- A large jump downwards is accepted without confirmation.
      unfold BottomTemporalState.passLarge
      rw [if_pos (by simp [absolute, lower])]

theorem blend_le_iff {weight new old : ℚ} (bounded : weight ≤ 1) (lower : new < old) :
    blend (.fin weight) (.fin new) (.fin old) ≤ .fin new ↔ weight = 1 := by
  have value : blend (.fin weight) (.fin new) (.fin old)
      = .fin (weight * new + (1 - weight) * old) := by
    show Scalar.fin weight * .fin new + ((1 : Scalar) - .fin weight) * .fin old = _
    have one : (1 : Scalar) = .fin 1 := rfl
    rw [one, Scalar.fin_sub_fin, Scalar.fin_mul_fin, Scalar.fin_mul_fin, Scalar.fin_add_fin]
  rw [value, Scalar.fin_le_fin]
  constructor
  · intro within
    -- The excess over the lower value is the rest of the weight times the distance.
    have excess : (1 - weight) * (old - new) ≤ 0 := by linarith
    by_contra other
    have rest : 0 < 1 - weight := sub_pos.mpr (lt_of_le_of_ne bounded other)
    have distance : 0 < old - new := sub_pos.mpr lower
    exact absurd excess (not_le.mpr (mul_pos rest distance))
  · rintro rfl
    linarith

theorem smooth_direct {selected : SelectedCandidate}
    (direct : selected.source = .directTopFrozenThickness) :
    temporal.smooth config observation selected
      = ({ temporal with emaValid := false, emaSource := .invalid, emaUsesTrackCenter := false },
        selected) := by
  have absolute : selected.absoluteCurrentVertical = true := by
    simp [SelectedCandidate.absoluteCurrentVertical, direct]
  unfold BottomTemporalState.smooth
  rw [if_neg (by simp [direct]), if_pos absolute]

theorem withCandidate_direct [CircularFunctions] {ready : CargoBottomFusion}
    {blank : CargoBottomResult}
    {selected : SelectedCandidate} (direct : selected.source = .directTopFrozenThickness) :
    (ready.withCandidate observation blank selected).1.temporal.previousBottom observation
        = ((ready.temporal.smooth ready.config observation selected).1.outputGate ready.config
            observation selected).2.1.bottomZBase ∧
      ((ready.withCandidate observation blank selected).2.geometry.valid = true →
        (ready.withCandidate observation blank selected).2.geometry.bottomZBase
          = (ready.withCandidate observation blank selected).1.temporal.previousBottom
            observation) := by
  have absolute : selected.absoluteCurrentVertical = true := by
    simp [SelectedCandidate.absoluteCurrentVertical, direct]
  have reported : (ready.withCandidate observation blank selected).1.temporal.previousBottom
      observation = ((ready.temporal.smooth ready.config observation selected).1.outputGate
        ready.config observation selected).2.1.bottomZBase := by
    -- The final output is recorded in absolute terms.
    unfold CargoBottomFusion.withCandidate
    rw [smooth_direct direct]
    dsimp only
    rw [absolute]
    split <;> rfl
  refine ⟨reported, ?_⟩
  intro valid
  rw [reported]
  unfold CargoBottomFusion.withCandidate at valid ⊢
  rw [smooth_direct direct] at valid ⊢
  exact (makeGeometry_spans _ _ _ _ _ _ _ valid).1

/-! ### Whole runs -/

theorem BottomTemporalState.ingest_eq (temporal : BottomTemporalState)
    (observation : CargoBottomObservation) :
    ∃ frames newest, temporal.ingest config observation
      = { temporal with accumulatedFrames := frames, newestPointsStampSec := newest } := by
  unfold BottomTemporalState.ingest BottomTemporalState.appendPoints
  dsimp only
  split_ifs
  · exact ⟨_, _, rfl⟩
  · exact ⟨_, _, rfl⟩
  · exact ⟨_, _, rfl⟩
  · exact ⟨_, _, rfl⟩

theorem CargoBottomFusion.Processes.ingested {self ready : CargoBottomFusion}
    (processes : self.Processes observation ready) (follows : self.follows observation = true) :
    ready.config = self.config ∧ ∃ frames newest, (ready.ingest observation).temporal
      = { self.temporal with accumulatedFrames := frames, newestPointsStampSec := newest } := by
  have proceeds := processes.proceeds
  unfold CargoBottomFusion.continuity at proceeds
  rw [if_neg (by simp [follows])] at proceeds
  split_ifs at proceeds
  · obtain rfl := Continuity.proceeds.inj proceeds
    obtain ⟨frames, newest, same⟩ := BottomTemporalState.ingest_eq
      { self.temporal with accumulatedFrames := [], newestPointsStampSec := 0 } observation
    exact ⟨rfl, frames, newest, same⟩
  · obtain rfl := Continuity.proceeds.inj proceeds
    exact ⟨rfl, BottomTemporalState.ingest_eq self.temporal observation⟩

/-- When a lower bottom that was measured in absolute terms is reported, after any run. -/
theorem downward_reported_iff [CircularFunctions] (config : CargoBottomFusionConfig)
    (observations : List CargoBottomObservation) (observation : CargoBottomObservation)
    {ready : CargoBottomFusion} {selected : SelectedCandidate}
    (processes : ((bottomMachine config).run observations).Processes observation ready)
    (measured : (ready.ingest observation).candidate observation = some selected)
    (direct : selected.source = .directTopFrozenThickness)
    (follows : ((bottomMachine config).run observations).follows observation = true)
    (comparable : ((bottomMachine config).run observations).temporal.finalFrameCompatible
      observation = true)
    (lower : selected.bottomZBase
      < ((bottomMachine config).run observations).temporal.previousBottom observation) :
    selected.bottomZBase = observation.currentTopZBase - observation.frozenThicknessM ∧
      ((((bottomMachine config).run observations).update observation).2.geometry.valid = true →
        (((bottomMachine config).run observations).update observation).2.geometry.bottomZBase
          = (((bottomMachine config).run observations).update
              observation).1.temporal.previousBottom observation) ∧
      ((((bottomMachine config).run observations).update observation).1.temporal.previousBottom
          observation ≤ selected.bottomZBase ↔
        ¬((bottomMachine config).run observations).temporal.Softens config observation selected ∨
          config.softUpdateAlpha = 1) := by
  obtain ⟨sameConfig, finite⟩ := run_isFinite config observations
  generalize (bottomMachine config).run observations = self at *
  subst sameConfig
  obtain ⟨sameConfig, frames, newest, ingested⟩ := processes.ingested follows
  have usable := UsableHeights.ofAccepted processes.accepted
  have start : (ready.ingest observation).temporal.FiniteHeights := by
    rw [ingested]
    exact { finite with }
  have heights := candidate_isFinite start usable selected measured
  have updated : self.update observation = (ready.ingest observation).withCandidate observation
      (evidenceResult ready.config observation ((ready.ingest observation).evidence observation))
      selected := by
    rw [processes.update_eq]
    unfold CargoBottomFusion.process
    dsimp only
    rw [measured]
  obtain ⟨reported, shown⟩ := @withCandidate_direct observation _ (ready.ingest observation)
    (evidenceResult ready.config observation ((ready.ingest observation).evidence observation))
    selected direct
  refine ⟨direct_bottom measured direct, ?_, ?_⟩
  · rw [updated]
    exact shown
  · rw [updated, reported, smooth_direct direct, ingested]
    -- Neither the points nor the averages matter for the gate.
    obtain ⟨softened, passed⟩ := @outputGate_direct observation (ready.ingest observation).config
      { self.temporal with
        accumulatedFrames := frames, newestPointsStampSec := newest
        emaValid := false, emaSource := .invalid, emaUsesTrackCenter := false }
      selected direct comparable lower
    have gateConfig : (ready.ingest observation).config = self.config := sameConfig
    rw [gateConfig] at softened passed ⊢
    by_cases softens : self.temporal.Softens self.config observation selected
    · rw [softened softens]
      obtain ⟨weight, sameWeight, -, bounded⟩ := unitInterval_fin processes.config.gate.2.2
      obtain ⟨new, sameNew⟩ := Scalar.isFinite_iff.1 heights.bottom
      obtain ⟨old, sameOld⟩ := Scalar.isFinite_iff.1 (finite.previous usable).1
      have below : new < old := by
        rw [sameNew, sameOld] at lower
        exact Scalar.fin_lt_fin.1 lower
      have same : BottomTemporalState.previousBottom
          { self.temporal with
            accumulatedFrames := frames, newestPointsStampSec := newest
            emaValid := false, emaSource := .invalid, emaUsesTrackCenter := false } observation
          = self.temporal.previousBottom observation := rfl
      rw [same, sameWeight, sameNew, sameOld, blend_le_iff bounded below]
      constructor
      · rintro rfl
        exact .inr rfl
      · rintro (keeps | one)
        · exact absurd softens keeps
        · exact Scalar.fin.inj one
    · have finiteBottom := Scalar.le_refl_of_finite heights.bottom
      rw [passed softens]
      exact iff_of_true finiteBottom (.inl softens)

section Samples

@[reducible] def unturned : CircularFunctions where
  cos _ := 1
  sin _ := 0

attribute [local instance] unturned
attribute [local semireducible] Rat.add Rat.sub Rat.mul Rat.inv Rat.ofScientific

def toppedCargo (stampSec top : Scalar) : CargoBottomObservation where
  trackValid := true
  trackId := 1
  stampSec := stampSec
  transformStampSec := stampSec
  poseAuthority := { valid := true }
  currentTopValid := true
  currentTopSupportValid := true
  currentTopZBase := top
  frozenThicknessValid := true
  frozenThicknessM := 2
  frozenThicknessConfidence := 1
  footprintValid := true
  footprintSizeXy := ⟨1, 1⟩

private def settledCargo : CargoBottomFusion := (bottomMachine {}).run [toppedCargo 1 5]

theorem downward_reported_fallen :
    (settledCargo.update (toppedCargo 1.1 3)).1.temporal.previousBottom (toppedCargo 1.1 3) ≤ 1 := by
  have processes : settledCargo.Processes (toppedCargo 1.1 3) settledCargo := by
    refine ⟨by decide, by decide, by decide, ?_⟩
    unfold CargoBottomFusion.continuity
    rw [if_neg (by decide), if_neg (by decide), if_neg (by decide),
      if_neg (by decide), if_neg (by decide), if_neg (by decide)]
  have measured : ((settledCargo.ingest (toppedCargo 1.1 3)).candidate (toppedCargo 1.1 3)).map
      (fun selected => (selected.source, selected.bottomZBase, selected.topZBase))
      = some (.directTopFrozenThickness, 1, 3) := by
    decide
  obtain ⟨selected, chosen, heights⟩ := Option.map_eq_some_iff.mp measured
  simp only [Prod.mk.injEq] at heights
  obtain ⟨direct, bottom, top⟩ := heights
  have reported := downward_reported_iff {} [toppedCargo 1 5] (toppedCargo 1.1 3) processes chosen
    direct (by decide) (by decide) (by rw [bottom]; decide)
  rw [bottom] at reported
  refine reported.2.2.mpr (.inl ?_)
  rintro ⟨-, moderate⟩
  unfold BottomTemporalState.jumpTo at moderate
  rw [bottom, top] at moderate
  revert moderate
  decide

/-- A bottom that falls by twenty centimeters from three meters is reported at 2.97 meters. -/
theorem downward_reported_high :
    settledCargo.temporal.previousBottom (toppedCargo 1.1 4.8) = 3 ∧
      (settledCargo.update (toppedCargo 1.1 4.8)).2.valid = true ∧
      (settledCargo.update (toppedCargo 1.1 4.8)).2.source = .directTopFrozenThickness ∧
      (toppedCargo 1.1 4.8).currentTopZBase - (toppedCargo 1.1 4.8).frozenThicknessM = 2.8 ∧
      (settledCargo.update (toppedCargo 1.1 4.8)).2.geometry.bottomZBase = 2.97 := by
  refine ⟨?_, ?_, ?_, ?_, ?_⟩
  all_goals decide

end Samples
end NdtSlam
