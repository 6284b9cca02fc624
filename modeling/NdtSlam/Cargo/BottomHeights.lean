import NdtSlam.Cargo.BottomFusion
import NdtSlam.Foundation.History

/-! Every height that the estimator of the cargo bottom selects or remembers is a number. -/

namespace NdtSlam

variable {config : CargoBottomFusionConfig} {observation : CargoBottomObservation}

/-! ### What the checks let pass -/

namespace CargoBottomFusionConfig

theorem Valid.passes (valid : config.Valid) (fault : String × Bool)
    (listed : fault ∈ config.faults) : fault.2 = false := by
  unfold Valid invalidField at valid
  rw [Option.map_eq_none_iff] at valid
  simpa using List.find?_eq_none.mp valid fault listed

theorem Valid.gate (valid : config.Valid) :
    finiteNonNegative config.directUpdateMaxJump = true ∧
      finiteNonNegative config.softUpdateMaxJump = true ∧
      unitInterval config.softUpdateAlpha = true := by
  have gate := valid.passes ("source_transition_gate", _) (by
    unfold faults
    iterate 17 apply List.mem_cons_of_mem
    exact List.mem_cons_self)
  simp only [Bool.or_eq_false_iff, Bool.not_eq_false'] at gate
  exact ⟨gate.1.1.1.1.1, gate.1.1.1.1.2, gate.1.1.2⟩

theorem Valid.ema (valid : config.Valid) : unitInterval config.emaAlpha = true := by
  have tuning := valid.passes ("confidence_or_ema", _) (by
    unfold faults
    iterate 16 apply List.mem_cons_of_mem
    exact List.mem_cons_self)
  simp only [Bool.or_eq_false_iff, Bool.not_eq_false'] at tuning
  exact tuning.2

end CargoBottomFusionConfig

variable {value : Scalar}

theorem unitInterval_fin (unit : unitInterval value = true) :
    ∃ q : ℚ, value = .fin q ∧ 0 ≤ q ∧ q ≤ 1 := by
  simp only [unitInterval, Bool.and_eq_true, decide_eq_true_eq] at unit
  obtain ⟨⟨finite, low⟩, high⟩ := unit
  obtain ⟨q, rfl⟩ := Scalar.isFinite_iff.1 finite
  have nonneg : (0 : ℚ) ≤ q := by exact_mod_cast Scalar.fin_le_fin.1 low
  have bounded : q ≤ (1 : ℚ) := by exact_mod_cast Scalar.fin_le_fin.1 high
  exact ⟨q, rfl, nonneg, bounded⟩

theorem clamp_unit_isFinite (finite : value.isFinite = true) :
    (Scalar.clamp value 0 1).isFinite = true := by
  unfold Scalar.clamp
  split_ifs
  · rfl
  · rfl
  · exact finite

theorem percentile_isFinite {values : List Scalar}
    (finite : ∀ value ∈ values, value.isFinite = true) (q : Scalar) :
    (percentile values q).isFinite = true := by
  -- Both neighbours are sorted values, or the default beyond the end of the list.
  have entry : ∀ position, ((values.insertionSort (· ≤ ·)).getD position 0).isFinite = true := by
    intro position
    rw [List.getD_eq_getElem?_getD]
    cases found : (values.insertionSort (· ≤ ·))[position]? with
    | none => rfl
    | some value =>
      have member := List.mem_of_getElem? found
      rw [List.mem_insertionSort] at member
      exact finite value member
  unfold percentile
  split
  · rfl
  · dsimp only
    refine Scalar.add_isFinite.2 ⟨Scalar.mul_isFinite (entry _) ?_, Scalar.mul_isFinite (entry _) rfl⟩
    exact Scalar.sub_isFinite.2 ⟨rfl, rfl⟩

section Rotations

variable [CircularFunctions]

theorem analyzeVertical_isFinite (points : List Vec3) :
    (analyzeVertical config observation points).z05.isFinite = true ∧
      (analyzeVertical config observation points).z95.isFinite = true := by
  have finite : ∀ value ∈ (finitePoints points).map Vec3.z, value.isFinite = true := by
    intro value member
    obtain ⟨point, kept, rfl⟩ := List.mem_map.mp member
    have allFinite := (List.mem_filter.mp kept).2
    simp only [Vec3.allFinite, Bool.and_eq_true] at allFinite
    exact allFinite.2
  -- Without enough points both heights are zero, and otherwise they are percentiles.
  have either : ∀ (refused : Prop) [Decidable refused] (blank stats : CargoVerticalStats),
      blank.z05.isFinite = true ∧ blank.z95.isFinite = true →
      stats.z05.isFinite = true ∧ stats.z95.isFinite = true →
      (if refused then blank else stats).z05.isFinite = true ∧
        (if refused then blank else stats).z95.isFinite = true := by
    intro refused _ blank stats first second
    split
    · exact first
    · exact second
  exact either _ _ _ ⟨rfl, rfl⟩ ⟨percentile_isFinite finite _, percentile_isFinite finite _⟩

end Rotations

structure UsableHeights (observation : CargoBottomObservation) : Prop where
  center : observation.trackCenterValid = true → observation.trackCenterBase.z.isFinite = true
  top : observation.currentTopValid = true → observation.currentTopZBase.isFinite = true
  mapDiff : observation.mapDiffHeightValid = true → observation.mapDiffHeightM.isFinite = true
  mapStatic : observation.mapStaticHeightValid = true → observation.mapStaticHeightM.isFinite = true
  origin : observation.originHeightValid = true → observation.originHeightM.isFinite = true
  thickness : observation.frozenThicknessValid = true → observation.frozenThicknessM.isFinite = true

theorem validHeightPrior_isFinite {given : Bool}
    (passes : CargoBottomObservation.validHeightPrior config given value = true)
    (valid : given = true) : value.isFinite = true := by
  subst valid
  simp only [CargoBottomObservation.validHeightPrior, Bool.not_true, Bool.false_or,
    Bool.and_eq_true] at passes
  exact passes.1.1

theorem UsableHeights.ofAccepted (accepted : observation.refusal config = none) :
    UsableHeights observation := by
  unfold CargoBottomObservation.refusal at accepted
  split_ifs at accepted with skew footprint center heights
  simp only [CargoBottomObservation.invalidHeights, Bool.or_eq_true, not_or, Bool.not_eq_true,
    Bool.not_eq_false'] at heights
  obtain ⟨⟨⟨⟨⟨⟨-, mapDiff⟩, mapStatic⟩, origin⟩, thickness⟩, -⟩, top⟩ := heights
  refine ⟨?_, ?_, validHeightPrior_isFinite mapDiff, validHeightPrior_isFinite mapStatic,
    validHeightPrior_isFinite origin, validHeightPrior_isFinite thickness⟩
  · intro tracked
    have finite : observation.trackCenterBase.allFinite = true := by simpa [tracked] using center
    simp only [Vec3.allFinite, Bool.and_eq_true] at finite
    exact finite.2
  · intro given
    simpa [given] using top

structure SelectedCandidate.FiniteHeights (selected : SelectedCandidate) : Prop where
  bottom : selected.bottomZBase.isFinite = true
  top : selected.topZBase.isFinite = true

structure BottomTemporalState.FiniteHeights (temporal : BottomTemporalState) : Prop where
  emaBottom : temporal.emaBottomZBase.isFinite = true
  emaTop : temporal.emaTopZBase.isFinite = true
  stableBottom : temporal.stable.bottomZBase.isFinite = true
  stableTop : temporal.stable.topZBase.isFinite = true
  stableBottomOffset : temporal.stable.bottomOffsetFromTrackCenter.isFinite = true
  stableTopOffset : temporal.stable.topOffsetFromTrackCenter.isFinite = true
  finalBottom : temporal.finalBottomValue.isFinite = true
  finalTop : temporal.finalTopValue.isFinite = true
  pendingBottom : temporal.pendingBottomValue.isFinite = true
  pendingTop : temporal.pendingTopValue.isFinite = true
  positiveBottom : temporal.pendingLatestPositiveBottom.isFinite = true
  positiveTop : temporal.pendingLatestPositiveTop.isFinite = true

theorem BottomTemporalState.FiniteHeights.empty :
    ({} : BottomTemporalState).FiniteHeights :=
  ⟨rfl, rfl, rfl, rfl, rfl, rfl, rfl, rfl, rfl, rfl, rfl, rfl⟩

/-! ### Selected heights are finite -/

variable {height : Scalar}

theorem heightPriorStats_strong {given : Bool}
    (strong : (heightPriorStats observation given height).supportStrong = true) :
    given = true ∧ observation.currentTopValid = true ∧
      (heightPriorStats observation given height).z05 = observation.currentTopZBase - height ∧
      (heightPriorStats observation given height).z95 = observation.currentTopZBase := by
  unfold heightPriorStats at strong ⊢
  by_cases unavailable : (!given || !observation.currentTopValid) = true
  · rw [if_pos unavailable] at strong
    cases strong
  · rw [if_neg unavailable]
    simp only [Bool.or_eq_true, Bool.not_eq_true', not_or, Bool.not_eq_false] at unavailable
    exact ⟨unavailable.1, unavailable.2, rfl, rfl⟩

theorem heightPriorStats_isFinite {given : Bool} (usable : UsableHeights observation)
    (finite : given = true → height.isFinite = true)
    (strong : (heightPriorStats observation given height).supportStrong = true) :
    (heightPriorStats observation given height).z05.isFinite = true ∧
      (heightPriorStats observation given height).z95.isFinite = true := by
  obtain ⟨valid, topValid, bottom, top⟩ := heightPriorStats_strong strong
  rw [bottom, top]
  exact ⟨Scalar.sub_isFinite.2 ⟨usable.top topValid, finite valid⟩, usable.top topValid⟩

theorem directTopFrozenStats_eq :
    (directTopFrozenStats observation).supportStrong
        = (heightPriorStats observation (observation.frozenThicknessValid &&
          observation.currentTopSupportValid) observation.frozenThicknessM).supportStrong ∧
      (directTopFrozenStats observation).z05
        = (heightPriorStats observation (observation.frozenThicknessValid &&
          observation.currentTopSupportValid) observation.frozenThicknessM).z05 ∧
      (directTopFrozenStats observation).z95
        = (heightPriorStats observation (observation.frozenThicknessValid &&
          observation.currentTopSupportValid) observation.frozenThicknessM).z95 := by
  unfold directTopFrozenStats
  dsimp only
  split <;> exact ⟨rfl, rfl, rfl⟩

def FiniteSelection (selected : Option SelectedCandidate) : Prop :=
  ∀ candidate, selected = some candidate → candidate.FiniteHeights

theorem FiniteSelection.none : FiniteSelection none := fun _ found => absurd found (by simp)

variable {selected : Option SelectedCandidate}

theorem FiniteSelection.prefer {source : CargoBottomSource} {stats : CargoVerticalStats}
    {candidate : SelectedCandidate → SelectedCandidate} (before : FiniteSelection selected)
    (finite : stats.supportStrong = true → ∀ base, (candidate base).FiniteHeights) :
    FiniteSelection (preferCandidate source stats candidate selected) := by
  unfold preferCandidate
  split
  · exact before
  · rename_i preferred
    simp only [Bool.or_eq_true, Bool.not_eq_true', not_or, Bool.not_eq_false] at preferred
    intro chosen found
    obtain rfl := Option.some.inj found
    exact finite preferred.1 _

theorem FiniteSelection.heightPrior {source : CargoBottomSource} {stats : CargoVerticalStats}
    {uncertainty confidence : Scalar} {reason : String}
    (before : FiniteSelection selected)
    (finite : stats.supportStrong = true → stats.z05.isFinite = true ∧ stats.z95.isFinite = true) :
    FiniteSelection (selectFromHeightPrior observation source stats uncertainty confidence reason
      selected) :=
  before.prefer fun strong _ => ⟨(finite strong).1, (finite strong).2⟩

theorem holdStable_isFinite {temporal : BottomTemporalState} (finite : temporal.FiniteHeights)
    (usable : UsableHeights observation) :
    FiniteSelection (holdStable config temporal.stable observation) := by
  unfold holdStable
  dsimp only
  split
  · intro candidate found
    obtain rfl := Option.some.inj found
    -- The estimate either moves along with the center, or stays where it was.
    cases follows : temporal.stable.trackCenterValid && observation.trackCenterValid with
    | false => exact ⟨finite.stableBottom, finite.stableTop⟩
    | true =>
      simp only [Bool.and_eq_true] at follows
      have center := usable.center follows.2
      exact ⟨Scalar.add_isFinite.2 ⟨center, finite.stableBottomOffset⟩,
        Scalar.add_isFinite.2 ⟨center, finite.stableTopOffset⟩⟩
  · exact FiniteSelection.none

theorem noteLowerEdge_same (evidence : BottomEvidence) (selected : SelectedCandidate) :
    (noteLowerEdge evidence selected).source = selected.source ∧
      (noteLowerEdge evidence selected).bottomZBase = selected.bottomZBase ∧
      (noteLowerEdge evidence selected).topZBase = selected.topZBase := by
  unfold noteLowerEdge
  split <;> exact ⟨rfl, rfl, rfl⟩

section Rotations

variable [CircularFunctions]

theorem selectObserved_isFinite (usable : UsableHeights observation)
    (authority : TemporalEvidenceAuthority) (frames : List AccumulatedFrame) :
    FiniteSelection (selectObserved config authority observation
      (bottomEvidence config frames observation)) := by
  have points : (bottomEvidence config frames observation).pointsStats.z05.isFinite = true ∧
      (bottomEvidence config frames observation).pointsStats.z95.isFinite = true := by
    unfold bottomEvidence
    dsimp only
    split <;> exact analyzeVertical_isFinite _
  have direct : (directTopFrozenStats observation).supportStrong = true →
      (directTopFrozenStats observation).z05.isFinite = true ∧
        (directTopFrozenStats observation).z95.isFinite = true := by
    obtain ⟨sameSupport, sameBottom, sameTop⟩ := @directTopFrozenStats_eq observation
    rw [sameSupport, sameBottom, sameTop]
    refine heightPriorStats_isFinite usable ?_
    intro given
    simp only [Bool.and_eq_true] at given
    exact usable.thickness given.1
  -- The candidates compete one after the other, and each has finite heights.
  unfold selectObserved
  refine FiniteSelection.heightPrior (.heightPrior (.heightPrior (.heightPrior ?_ ?_) direct) ?_) ?_
  · exact FiniteSelection.none.prefer fun _ _ => ⟨points.1, points.2⟩
  · exact heightPriorStats_isFinite usable usable.mapDiff
  · exact heightPriorStats_isFinite usable usable.mapStatic
  · exact heightPriorStats_isFinite usable usable.origin

theorem candidate_isFinite {self : CargoBottomFusion} (finite : self.temporal.FiniteHeights)
    (usable : UsableHeights observation) : FiniteSelection (self.candidate observation) := by
  unfold CargoBottomFusion.candidate selectCandidate
  have observed := @selectObserved_isFinite self.config observation _ usable
    self.trackPoseAuthority self.temporal.accumulatedFrames
  split
  · rename_i selected chosen
    intro candidate found
    obtain rfl := Option.some.inj found
    obtain ⟨-, sameBottom, sameTop⟩ := noteLowerEdge_same (self.evidence observation) selected
    have heights := observed selected chosen
    exact ⟨sameBottom ▸ heights.bottom, sameTop ▸ heights.top⟩
  · exact holdStable_isFinite finite usable

end Rotations

/-! ### Filtered heights are finite -/

theorem relativeHeight_isFinite {follows : Bool}
    (center : follows = true → observation.trackCenterBase.z.isFinite = true)
    (finite : height.isFinite = true) :
    (relativeHeight follows observation height).isFinite = true := by
  unfold relativeHeight
  split
  · rename_i tracked
    exact Scalar.sub_isFinite.2 ⟨finite, center tracked⟩
  · exact finite

theorem absoluteHeight_isFinite {follows : Bool}
    (center : follows = true → observation.trackCenterBase.z.isFinite = true)
    (finite : value.isFinite = true) :
    (absoluteHeight follows observation value).isFinite = true := by
  unfold absoluteHeight
  split
  · rename_i tracked
    exact Scalar.add_isFinite.2 ⟨center tracked, finite⟩
  · exact finite

theorem blend_isFinite {alpha new old : Scalar} (weight : alpha.isFinite = true)
    (newFinite : new.isFinite = true) (oldFinite : old.isFinite = true) :
    (blend alpha new old).isFinite = true := by
  unfold blend
  refine Scalar.add_isFinite.2 ⟨Scalar.mul_isFinite weight newFinite, ?_⟩
  exact Scalar.mul_isFinite (Scalar.sub_isFinite.2 ⟨rfl, weight⟩) oldFinite

namespace BottomTemporalState

variable {temporal : BottomTemporalState} {selected : SelectedCandidate}

section

variable (finite : temporal.FiniteHeights)
include finite

theorem FiniteHeights.previous (usable : UsableHeights observation) :
    (temporal.previousBottom observation).isFinite = true ∧
      (temporal.previousTop observation).isFinite = true := by
  have center : (temporal.finalUsesTrackCenter && observation.trackCenterValid) = true →
      observation.trackCenterBase.z.isFinite = true := by
    intro follows
    simp only [Bool.and_eq_true] at follows
    exact usable.center follows.2
  exact ⟨absoluteHeight_isFinite center finite.finalBottom,
    absoluteHeight_isFinite center finite.finalTop⟩

theorem FiniteHeights.smooth (heights : selected.FiniteHeights) (valid : config.Valid)
    (usable : UsableHeights observation) :
    (temporal.smooth config observation selected).1.FiniteHeights ∧
      (temporal.smooth config observation selected).2.FiniteHeights := by
  unfold BottomTemporalState.smooth
  split_ifs with held absolute
  · exact ⟨finite, heights⟩
  · exact ⟨{ finite with }, heights⟩
  · -- Both averages mix finite values, in whichever frame they are taken.
    have weight : (Scalar.clamp config.emaAlpha 0 1).isFinite = true := by
      obtain ⟨alpha, same, -, -⟩ := unitInterval_fin valid.ema
      rw [same]
      exact clamp_unit_isFinite rfl
    have bottom := relativeHeight_isFinite usable.center heights.bottom
    have top := relativeHeight_isFinite usable.center heights.top
    have bottomValue : ∀ resumes : Bool, (if resumes = true then
        blend (Scalar.clamp config.emaAlpha 0 1)
          (relativeHeight observation.trackCenterValid observation selected.bottomZBase)
          temporal.emaBottomZBase
        else relativeHeight observation.trackCenterValid observation selected.bottomZBase
        ).isFinite = true := by
      intro resumes
      split
      · exact blend_isFinite weight bottom finite.emaBottom
      · exact bottom
    have topValue : ∀ resumes : Bool, (if resumes = true then
        blend (Scalar.clamp config.emaAlpha 0 1)
          (relativeHeight observation.trackCenterValid observation selected.topZBase)
          temporal.emaTopZBase
        else relativeHeight observation.trackCenterValid observation selected.topZBase
        ).isFinite = true := by
      intro resumes
      split
      · exact blend_isFinite weight top finite.emaTop
      · exact top
    exact ⟨{ finite with emaBottom := bottomValue _, emaTop := topValue _ },
      ⟨absoluteHeight_isFinite usable.center (bottomValue _),
        absoluteHeight_isFinite usable.center (topValue _)⟩⟩

theorem FiniteHeights.clearPending :
    temporal.clearPending.FiniteHeights := { finite with }

section

variable (heights : selected.FiniteHeights)
include heights

theorem FiniteHeights.countJump :
    (temporal.countJump config observation selected).FiniteHeights := by
  unfold BottomTemporalState.countJump
  dsimp only
  split_ifs
  · exact { finite with positiveBottom := heights.bottom, positiveTop := heights.top }
  · exact { finite with
      pendingBottom := heights.bottom, pendingTop := heights.top
      positiveBottom := heights.bottom, positiveTop := heights.top }
  · exact { finite with }
  · exact { finite with pendingBottom := heights.bottom, pendingTop := heights.top }

theorem FiniteHeights.outputGate (valid : config.Valid) (usable : UsableHeights observation) :
    (temporal.outputGate config observation selected).1.FiniteHeights ∧
      (temporal.outputGate config observation selected).2.1.FiniteHeights := by
  have previous := finite.previous usable
  have counted : (temporal.countJump config observation selected).FiniteHeights :=
    finite.countJump heights
  unfold BottomTemporalState.outputGate
  split_ifs with incompatible direct soft
  · exact ⟨finite, heights⟩
  · unfold passDirect
    split_ifs
    · exact ⟨finite.clearPending, heights⟩
    · exact ⟨finite.clearPending, heights⟩
    · exact ⟨finite, heights⟩
  · obtain ⟨alpha, same, -, -⟩ := unitInterval_fin valid.gate.2.2
    have weight : config.softUpdateAlpha.isFinite = true := by
      rw [same]
      rfl
    exact ⟨finite.clearPending, blend_isFinite weight heights.bottom previous.1,
      blend_isFinite weight heights.top previous.2⟩
  · unfold passLarge
    dsimp only
    split_ifs with downward waiting absolute
    · exact ⟨finite.clearPending, heights.bottom, heights.top⟩
    · refine ⟨counted, ?_⟩
      unfold heldCandidate
      dsimp only
      split_ifs
      · exact ⟨previous.1, previous.2⟩
      · exact ⟨previous.1, previous.2⟩
    · exact ⟨counted.clearPending, counted.positiveBottom, counted.positiveTop⟩
    · exact ⟨counted.clearPending, counted.pendingBottom, counted.pendingTop⟩

theorem FiniteHeights.recordFinal (usable : UsableHeights observation) (absolute : Bool) :
    (temporal.recordFinal observation absolute selected).FiniteHeights := by
  have center : (!absolute && observation.trackCenterValid) = true →
      observation.trackCenterBase.z.isFinite = true := by
    intro follows
    simp only [Bool.and_eq_true] at follows
    exact usable.center follows.2
  exact { finite with
    finalBottom := relativeHeight_isFinite center heights.bottom
    finalTop := relativeHeight_isFinite center heights.top }

theorem FiniteHeights.recordStable (usable : UsableHeights observation) (absolute : Bool)
    (geometry : CargoBoxGeometry) :
    (temporal.recordStable config observation absolute selected geometry).FiniteHeights := by
  cases follows : !absolute && observation.trackCenterValid with
  | false =>
    refine { finite with
      stableBottom := heights.bottom, stableTop := heights.top
      stableBottomOffset := ?_, stableTopOffset := ?_ }
    · simp only [BottomTemporalState.recordStable, follows]
      exact finite.stableBottomOffset
    · simp only [BottomTemporalState.recordStable, follows]
      exact finite.stableTopOffset
  | true =>
    have center : observation.trackCenterBase.z.isFinite = true := by
      simp only [Bool.and_eq_true] at follows
      exact usable.center follows.2
    refine { finite with
      stableBottom := heights.bottom, stableTop := heights.top
      stableBottomOffset := ?_, stableTopOffset := ?_ }
    · simp only [BottomTemporalState.recordStable, follows, if_true]
      exact Scalar.sub_isFinite.2 ⟨heights.bottom, center⟩
    · simp only [BottomTemporalState.recordStable, follows, if_true]
      exact Scalar.sub_isFinite.2 ⟨heights.top, center⟩

end

theorem FiniteHeights.ingest :
    (temporal.ingest config observation).FiniteHeights := by
  have appended : (temporal.appendPoints config observation).FiniteHeights := by
    unfold appendPoints
    split_ifs
    · exact finite
    · exact finite
    · dsimp only
      split_ifs
      · exact finite
      · exact { finite with }
  exact { appended with }

end

end BottomTemporalState

/-! ### Whole runs -/

def bottomMachine [CircularFunctions] (config : CargoBottomFusionConfig) :
    Machine CargoBottomFusion CargoBottomObservation CargoBottomResult where
  start := { config := config }
  step := CargoBottomFusion.update

namespace CargoBottomFusion

variable {self : CargoBottomFusion} [CircularFunctions]

theorem process_isFinite (valid : self.config.Valid) (finite : self.temporal.FiniteHeights)
    (usable : UsableHeights observation) :
    (self.process observation).1.temporal.FiniteHeights := by
  have ingested : (self.ingest observation).temporal.FiniteHeights := finite.ingest
  have candidates := candidate_isFinite ingested usable
  unfold process
  dsimp only
  cases chosen : (self.ingest observation).candidate observation with
  | none =>
    -- At most a waiting jump expires.
    show (withoutCandidate _ _ _).1.temporal.FiniteHeights
    unfold withoutCandidate
    dsimp only
    split
    · exact { ingested with }
    · exact { ingested with }
  | some selected =>
    obtain ⟨smoothed, candidate⟩ := ingested.smooth (candidates selected chosen) valid usable
    obtain ⟨gated, passed⟩ := smoothed.outputGate candidate valid usable
    have final := gated.recordFinal passed usable selected.absoluteCurrentVertical
    show (withCandidate _ _ _ _).1.temporal.FiniteHeights
    unfold withCandidate
    dsimp only
    split
    · exact { final.recordStable passed usable _ _ with }
    · exact { final with }

theorem update_isFinite (finite : self.temporal.FiniteHeights) :
    (self.update observation).1.temporal.FiniteHeights := by
  unfold update
  split
  · exact .empty
  · rename_i valid
    dsimp only
    split
    · exact .empty
    · split
      · exact finite
      · rename_i accepted
        have usable := UsableHeights.ofAccepted accepted
        unfold accept
        split
        · rename_i ready proceeds
          -- The state from which an observation is processed remembers nothing new.
          have start : ready.config = self.config ∧ ready.temporal.FiniteHeights := by
            unfold continuity at proceeds
            split_ifs at proceeds
            · obtain rfl := Continuity.proceeds.inj proceeds
              exact ⟨rfl, .empty⟩
            · obtain rfl := Continuity.proceeds.inj proceeds
              exact ⟨rfl, { finite with }⟩
            · obtain rfl := Continuity.proceeds.inj proceeds
              exact ⟨rfl, finite⟩
          exact process_isFinite (start.1.symm ▸ valid) start.2 usable
        · exact { BottomTemporalState.FiniteHeights.empty with }
        · exact finite

theorem update_config : (self.update observation).1.config = self.config := by
  unfold update
  split
  · rfl
  · dsimp only
    split
    · rfl
    · split
      · rfl
      · unfold accept
        split
        · rename_i ready proceeds
          have start : ready.config = self.config := by
            unfold continuity at proceeds
            split_ifs at proceeds <;> obtain rfl := Continuity.proceeds.inj proceeds <;> rfl
          unfold process
          dsimp only
          split <;> exact start
        · rfl
        · rfl

end CargoBottomFusion

variable [CircularFunctions]

theorem run_isFinite (config : CargoBottomFusionConfig)
    (observations : List CargoBottomObservation) :
    ((bottomMachine config).run observations).config = config ∧
      ((bottomMachine config).run observations).temporal.FiniteHeights := by
  refine @Machine.run_invariant _ _ _ (bottomMachine config)
    (fun _ state => state.config = config ∧ state.temporal.FiniteHeights) ?_ ?_ observations
  · exact ⟨rfl, .empty⟩
  · rintro past state observation ⟨same, finite⟩
    exact ⟨CargoBottomFusion.update_config.trans same, CargoBottomFusion.update_isFinite finite⟩

end NdtSlam
