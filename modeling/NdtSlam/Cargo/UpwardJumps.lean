import Mathlib.Data.List.Chain
import NdtSlam.Cargo.BottomTimeline

/-! A higher bottom far from the one before, which must be confirmed by several observations. -/

namespace NdtSlam

variable {config : CargoBottomFusionConfig} {observation : CargoBottomObservation}

/-! ### The output gate -/

theorem CargoBottomFusionConfig.Valid.softAboveDirect (valid : config.Valid) :
    ¬config.softUpdateMaxJump < config.directUpdateMaxJump := by
  have gate := valid.passes ("source_transition_gate", _) (by
    unfold faults
    iterate 17 apply List.mem_cons_of_mem
    exact List.mem_cons_self)
  simp only [Bool.or_eq_false_iff, decide_eq_false_iff_not] at gate
  exact gate.1.1.1.2

namespace BottomTemporalState

variable {temporal : BottomTemporalState} {selected : SelectedCandidate}

structure JumpsFar (config : CargoBottomFusionConfig) (temporal : BottomTemporalState)
    (observation : CargoBottomObservation) (selected : SelectedCandidate) : Prop where
  comparable : temporal.finalFrameCompatible observation = true
  beyondDirect : ¬temporal.jumpTo observation selected ≤ config.directUpdateMaxJump
  beyondSoft : ¬temporal.jumpTo observation selected ≤ config.softUpdateMaxJump
  notLower : ¬(selected.absoluteCurrentVertical = true ∧
    selected.bottomZBase < temporal.previousBottom observation)

inductive GateCourse (config : CargoBottomFusionConfig) (temporal : BottomTemporalState)
    (observation : CargoBottomObservation) (selected : SelectedCandidate) :
    BottomTemporalState × SelectedCandidate × Bool → Prop where
  | unguarded (incomparable : temporal.finalFrameCompatible observation = false) :
      GateCourse config temporal observation selected (temporal, selected, false)
  | pauses (held : selected.source = .recentStable)
      (comparable : temporal.finalFrameCompatible observation = true)
      (small : temporal.jumpTo observation selected ≤ config.directUpdateMaxJump) :
      GateCourse config temporal observation selected (temporal, selected, false)
  | passes (small : temporal.jumpTo observation selected ≤ config.directUpdateMaxJump) :
      GateCourse config temporal observation selected (temporal.clearPending, selected, false)
  | softens (moderate : temporal.jumpTo observation selected ≤ config.softUpdateMaxJump)
      (passed : SelectedCandidate) (blended : passed.bottomZBase =
        blend config.softUpdateAlpha selected.bottomZBase (temporal.previousBottom observation)) :
      GateCourse config temporal observation selected (temporal.clearPending, passed, false)
  | falls (lower : selected.bottomZBase < temporal.previousBottom observation)
      (passed : SelectedCandidate) (keeps : passed.bottomZBase = selected.bottomZBase) :
      GateCourse config temporal observation selected (temporal.clearPending, passed, false)
  | waits (far : temporal.JumpsFar config observation selected) (passed : SelectedCandidate)
      (holds : passed.bottomZBase = temporal.previousBottom observation) :
      GateCourse config temporal observation selected
        (temporal.countJump config observation selected, passed, true)
  | confirms (far : temporal.JumpsFar config observation selected) (passed : SelectedCandidate)
      (enough : config.largeJumpConfirmFrames
        ≤ (temporal.countJump config observation selected).pendingLargeJumpCount) :
      GateCourse config temporal observation selected
        ((temporal.countJump config observation selected).clearPending, passed, false)

theorem outputGate_course :
    GateCourse config temporal observation selected
      (temporal.outputGate config observation selected) := by
  unfold outputGate
  cases comparable : temporal.finalFrameCompatible observation with
  | false => exact .unguarded comparable
  | true =>
    rw [if_neg (by simp)]
    by_cases small : temporal.jumpTo observation selected ≤ config.directUpdateMaxJump
    · rw [if_pos small]
      unfold passDirect
      by_cases current : selected.source = .recentStable
      · rw [if_neg (not_not.mpr current)]
        split
        · exact .passes small
        · exact .pauses current comparable small
      · rw [if_pos current]
        exact .passes small
    · rw [if_neg small]
      by_cases moderate : temporal.jumpTo observation selected ≤ config.softUpdateMaxJump
      · rw [if_pos moderate]
        exact .softens moderate _ rfl
      · rw [if_neg moderate]
        unfold passLarge
        by_cases lower : selected.absoluteCurrentVertical = true ∧
            selected.bottomZBase < temporal.previousBottom observation
        · rw [if_pos (by simpa using lower)]
          exact .falls lower.2 _ rfl
        · rw [if_neg (by simpa using lower)]
          have far : temporal.JumpsFar config observation selected :=
            ⟨comparable, small, moderate, lower⟩
          dsimp only
          split
          · refine .waits far _ ?_
            unfold heldCandidate
            dsimp only
            split
            · rfl
            · rfl
          · rename_i enough
            exact .confirms far _ (Nat.le_of_not_lt enough)

theorem FiniteHeights.bottom_within (finite : temporal.FiniteHeights)
    (heights : selected.FiniteHeights) (usable : UsableHeights observation) :
    ∃ old rise jump : ℚ, temporal.previousBottom observation = .fin old ∧
      selected.bottomZBase = .fin (old + rise) ∧
      temporal.jumpTo observation selected = .fin jump ∧ |rise| ≤ jump := by
  -- All six values are numbers, and the jump is the largest of three differences.
  obtain ⟨old, sameOld⟩ := Scalar.isFinite_iff.1 (finite.previous usable).1
  obtain ⟨oldTop, sameOldTop⟩ := Scalar.isFinite_iff.1 (finite.previous usable).2
  obtain ⟨new, sameNew⟩ := Scalar.isFinite_iff.1 heights.bottom
  obtain ⟨newTop, sameNewTop⟩ := Scalar.isFinite_iff.1 heights.top
  refine ⟨old, new - old, max (max |new - old| |newTop - oldTop|)
    |newTop - new - (oldTop - old)|, sameOld, ?_, ?_, ?_⟩
  · rw [sameNew, add_sub_cancel]
  · unfold jumpTo
    simp only [sameOld, sameOldTop, sameNew, sameNewTop, Scalar.fin_sub_fin, Scalar.abs_fin,
      Scalar.maxOf_fin_fin]
  · exact le_max_of_le_left (le_max_left _ _)

theorem GateCourse.confirmed {outcome : BottomTemporalState × SelectedCandidate × Bool}
    (course : GateCourse config temporal observation selected outcome) (valid : config.Valid)
    (finite : temporal.FiniteHeights) (heights : selected.FiniteHeights)
    (usable : UsableHeights observation)
    (comparable : temporal.finalFrameCompatible observation = true)
    (rises : config.softUpdateMaxJump
      < outcome.2.1.bottomZBase - temporal.previousBottom observation) :
    temporal.JumpsFar config observation selected ∧ config.largeJumpConfirmFrames
      ≤ (temporal.countJump config observation selected).pendingLargeJumpCount := by
  obtain ⟨old, rise, jump, sameOld, sameNew, sameJump, within⟩ :=
    finite.bottom_within heights usable
  obtain ⟨directFinite, softFinite, weight⟩ := valid.gate
  simp only [finiteNonNegative, Bool.and_eq_true, decide_eq_true_eq] at softFinite
  obtain ⟨soft, sameSoft⟩ := Scalar.isFinite_iff.1 softFinite.1
  have nonneg : 0 ≤ soft := by
    have bound := softFinite.2
    rw [sameSoft] at bound
    exact_mod_cast Scalar.fin_le_fin.1 bound
  have ordered : ∀ direct : ℚ, config.directUpdateMaxJump = .fin direct → direct ≤ soft := by
    intro direct sameDirect
    have below := valid.softAboveDirect
    rw [sameDirect, sameSoft] at below
    exact not_lt.mp fun above => below (Scalar.fin_lt_fin.2 above)
  rw [sameOld, sameSoft] at rises
  have small : temporal.jumpTo observation selected ≤ config.directUpdateMaxJump → rise ≤ soft := by
    intro small
    simp only [finiteNonNegative, Bool.and_eq_true] at directFinite
    obtain ⟨direct, sameDirect⟩ := Scalar.isFinite_iff.1 directFinite.1
    rw [sameJump, sameDirect] at small
    exact (le_abs_self rise).trans (within.trans ((Scalar.fin_le_fin.1 small).trans
      (ordered direct sameDirect)))
  -- Every other course leaves the bottom within the soft limit.
  cases course with
  | unguarded incomparable => exact absurd (comparable.symm.trans incomparable) (by simp)
  | pauses _ _ near =>
    rw [sameNew, Scalar.fin_sub_fin, Scalar.fin_lt_fin] at rises
    have bounded := small near
    linarith
  | passes near =>
    rw [sameNew, Scalar.fin_sub_fin, Scalar.fin_lt_fin] at rises
    have bounded := small near
    linarith
  | softens moderate passed blended =>
    obtain ⟨alpha, sameAlpha, positive, below⟩ := unitInterval_fin weight
    have value : blend config.softUpdateAlpha selected.bottomZBase (.fin old)
        = .fin (old + alpha * rise) := by
      have one : (1 : Scalar) = .fin 1 := rfl
      unfold blend
      rw [sameAlpha, sameNew, one, Scalar.fin_sub_fin, Scalar.fin_mul_fin, Scalar.fin_mul_fin,
        Scalar.fin_add_fin]
      congr 1
      ring
    rw [sameJump, sameSoft, Scalar.fin_le_fin] at moderate
    have share : alpha * rise ≤ alpha * soft :=
      mul_le_mul_of_nonneg_left ((le_abs_self rise).trans (within.trans moderate)) positive
    have bounded : alpha * soft ≤ soft := mul_le_of_le_one_left nonneg below
    rw [blended, sameOld, value, Scalar.fin_sub_fin, Scalar.fin_lt_fin] at rises
    linarith
  | falls lower passed keeps =>
    rw [sameOld, sameNew, Scalar.fin_lt_fin] at lower
    rw [keeps, sameNew, Scalar.fin_sub_fin, Scalar.fin_lt_fin] at rises
    linarith
  | waits _ passed holds =>
    rw [holds, sameOld, Scalar.fin_sub_fin, Scalar.fin_lt_fin] at rises
    linarith
  | confirms far _ enough => exact ⟨far, enough⟩

theorem countJump_pending :
    (temporal.countJump config observation selected).pendingLargeJump = true ∧
      (temporal.countJump config observation selected).pendingSource = selected.source ∧
      (selected.source = .directTopFrozenThickness →
        (temporal.countJump config observation selected).pendingLastPositiveStamp
          = observation.stampSec) ∧
      ((temporal.countJump config observation selected).pendingLargeJumpCount = 1 ∨
        temporal.pendingLargeJump = true ∧ temporal.pendingSource = selected.source ∧
          (temporal.countJump config observation selected).pendingLargeJumpCount
            = temporal.pendingLargeJumpCount + 1) := by
  have direct : selected.source = .directTopFrozenThickness →
      selected.absoluteCurrentVertical = true := fun same => beq_iff_eq.mpr same
  unfold countJump
  cases same : temporal.samePending config selected with
  | false =>
    simp only [Bool.false_eq_true, if_false]
    split
    · exact ⟨rfl, rfl, fun _ => rfl, .inl rfl⟩
    · rename_i relative
      exact ⟨rfl, rfl, fun absolute => absurd (direct absolute) relative, .inl rfl⟩
  | true =>
    simp only [samePending, Bool.and_eq_true, beq_iff_eq] at same
    obtain ⟨⟨waiting, source⟩, -⟩ := same
    simp only [if_true]
    split
    · exact ⟨waiting, source, fun _ => rfl, .inr ⟨waiting, source, rfl⟩⟩
    · rename_i relative
      exact ⟨waiting, source, fun absolute => absurd (direct absolute) relative,
        .inr ⟨waiting, source, rfl⟩⟩

end BottomTemporalState

/-! ### Before the gate -/

theorem smooth_keeps (temporal : BottomTemporalState) (selected : SelectedCandidate) :
    (∃ valid source uses bottom top, (temporal.smooth config observation selected).1
      = { temporal with
          emaValid := valid, emaSource := source, emaUsesTrackCenter := uses
          emaBottomZBase := bottom, emaTopZBase := top }) ∧
      (temporal.smooth config observation selected).2.source = selected.source := by
  unfold BottomTemporalState.smooth
  split
  · exact ⟨⟨_, _, _, _, _, rfl⟩, rfl⟩
  · split
    · exact ⟨⟨_, _, _, _, _, rfl⟩, rfl⟩
    · exact ⟨⟨_, _, _, _, _, rfl⟩, rfl⟩

variable {self ready : CargoBottomFusion}

theorem CargoBottomFusion.Processes.fresh (processes : self.Processes observation ready)
    (other : self.follows observation = false) :
    (ready.ingest observation).temporal.finalValid = false ∧
      (ready.ingest observation).temporal.pendingLargeJump = false := by
  have proceeds := processes.proceeds
  unfold CargoBottomFusion.continuity at proceeds
  rw [if_pos (by simp [other])] at proceeds
  obtain rfl := Continuity.proceeds.inj proceeds
  obtain ⟨frames, newest, same⟩ := BottomTemporalState.ingest_eq {} observation
  unfold CargoBottomFusion.ingest
  rw [same]
  exact ⟨rfl, rfl⟩

theorem CargoBottomFusion.Processes.ready_config (processes : self.Processes observation ready) :
    ready.config = self.config := by
  have proceeds := processes.proceeds
  unfold CargoBottomFusion.continuity at proceeds
  split_ifs at proceeds
  · obtain rfl := Continuity.proceeds.inj proceeds
    rfl
  · obtain rfl := Continuity.proceeds.inj proceeds
    rfl
  · obtain rfl := Continuity.proceeds.inj proceeds
    rfl

structure SameWait (before after : BottomTemporalState) : Prop where
  finalValid : after.finalValid = before.finalValid
  uses : after.finalUsesTrackCenter = before.finalUsesTrackCenter
  bottom : after.finalBottomValue = before.finalBottomValue
  waiting : after.pendingLargeJump = before.pendingLargeJump
  source : after.pendingSource = before.pendingSource
  count : after.pendingLargeJumpCount = before.pendingLargeJumpCount
  stamp : after.pendingLastPositiveStamp = before.pendingLastPositiveStamp

theorem comparable_iff {temporal : BottomTemporalState}
    (centered : observation.trackCenterValid = true) :
    temporal.finalFrameCompatible observation = temporal.finalValid := by
  simp [BottomTemporalState.finalFrameCompatible, centered]

/-! ### What is counted -/

abbrev BottomEvent := Event CargoBottomFusion CargoBottomObservation

section Events

variable [CircularFunctions]

structure CargoBottomFusion.Weighs (before : CargoBottomFusion)
    (observation : CargoBottomObservation) (ready : CargoBottomFusion)
    (chosen : SelectedCandidate) : Prop where
  processes : before.Processes observation ready
  chosen : (ready.ingest observation).candidate observation = some chosen

def CargoBottomFusion.weighed (ready : CargoBottomFusion) (observation : CargoBottomObservation)
    (chosen : SelectedCandidate) : BottomTemporalState × SelectedCandidate :=
  (ready.ingest observation).temporal.smooth ready.config observation chosen

def CountsTowards (source : CargoBottomSource) (event : BottomEvent) : Prop :=
  ∃ ready chosen, event.before.Weighs event.call ready chosen ∧ chosen.source = source ∧
    (ready.weighed event.call chosen).1.JumpsFar event.before.config event.call
      (ready.weighed event.call chosen).2

inductive Unseen (event : BottomEvent) : Prop where
  | refused (reason : String) (tracked : event.call.untracked = false)
      (refusal : event.call.refusal event.before.config = some reason)
  | repeated (again : event.before.continuity event.call = .repeated)
  | unsupported (ready : CargoBottomFusion) (processes : event.before.Processes event.call ready)
      (follows : event.before.follows event.call = true)
      (nothing : (ready.ingest event.call).candidate event.call = none)
  | held (ready : CargoBottomFusion) (chosen : SelectedCandidate)
      (weighs : event.before.Weighs event.call ready chosen)
      (follows : event.before.follows event.call = true) (stable : chosen.source = .recentStable)
      (near : (ready.weighed event.call chosen).1.jumpTo event.call
        (ready.weighed event.call chosen).2 ≤ event.before.config.directUpdateMaxJump)

def SoonAfter (holdSec : Scalar) (source : CargoBottomSource) (earlier later : BottomEvent) :
    Prop :=
  earlier.call.stampSec < later.call.stampSec ∧ (source = .directTopFrozenThickness →
    later.call.stampSec - earlier.call.stampSec ≤ holdSec)

/--
An observation that finds an absolute jump waiting and prolongs it comes soon enough after the last
one that was counted, and one that repeats a stamp does not see the cargo far below the result
that it repeats.
-/
structure TimelyBottom (event : BottomEvent) : Prop where
  resumes : CountsTowards .directTopFrozenThickness event →
    event.before.temporal.pendingLargeJump = true →
    event.before.temporal.pendingSource = .directTopFrozenThickness →
    event.call.stampSec - event.before.temporal.pendingLastPositiveStamp
      ≤ event.before.config.stableHoldSec
  repeats : event.before.continuity event.call = .repeated →
    ¬event.before.config.softUpdateMaxJump
      < event.before.temporal.lastResult.geometry.bottomZBase
        - event.before.temporal.previousBottom event.call

structure RisesFar (event : BottomEvent) : Prop where
  follows : event.before.follows event.call = true
  final : event.before.temporal.finalValid = true
  valid : (event.before.update event.call).2.valid = true
  rises : event.before.config.softUpdateMaxJump
    < (event.before.update event.call).2.geometry.bottomZBase
      - event.before.temporal.previousBottom event.call

/-- As many observations of one source as are required led up to an event, and it is the last. -/
def JumpConfirmed (config : CargoBottomFusionConfig) (event : BottomEvent)
    (older : List BottomEvent) : Prop :=
  ∃ source count opening, config.largeJumpConfirmFrames ≤ count ∧
    EvidenceChain (CountsTowards source) Unseen (SoonAfter config.stableHoldSec source) count
      opening event (event :: older)

structure AdvancingRun (config : CargoBottomFusionConfig)
    (observations : List CargoBottomObservation) : Prop where
  ascending : observations.Pairwise fun newer older => older.stampSec < newer.stampSec
  near : observations.IsChain fun newer older =>
    newer.stampSec - older.stampSec ≤ config.staleResetSec
  centered : ∀ observation ∈ observations, observation.trackCenterValid = true

def JumpTrack (config : CargoBottomFusionConfig) (past : List BottomEvent)
    (temporal : BottomTemporalState) : Prop :=
  temporal.pendingLargeJump = true → ∃ opening last,
    EvidenceChain (CountsTowards temporal.pendingSource) Unseen
      (SoonAfter config.stableHoldSec temporal.pendingSource) temporal.pendingLargeJumpCount
      opening last past ∧
    (temporal.pendingSource = .directTopFrozenThickness →
      temporal.pendingLastPositiveStamp = last.call.stampSec)

/-! ### One observation -/

variable {past : List BottomEvent} {event : BottomEvent} {temporal : BottomTemporalState}
  {selected : SelectedCandidate}

theorem JumpTrack.of_clear (clear : temporal.pendingLargeJump = false) :
    JumpTrack config past temporal :=
  fun waiting => absurd (clear.symm.trans waiting) (by simp)

theorem JumpTrack.unseen (held : JumpTrack config past temporal) (unseen : Unseen event) :
    JumpTrack config (event :: past) temporal := by
  intro waiting
  obtain ⟨opening, last, chain, stamp⟩ := held waiting
  exact ⟨opening, last, chain.idle unseen, stamp⟩

theorem JumpTrack.counts (held : JumpTrack config past temporal)
    (counts : CountsTowards selected.source event)
    (later : ∀ earlier ∈ past, earlier.call.stampSec < event.call.stampSec)
    (soon : selected.source = .directTopFrozenThickness → temporal.pendingLargeJump = true →
      temporal.pendingSource = .directTopFrozenThickness →
      event.call.stampSec - temporal.pendingLastPositiveStamp ≤ config.stableHoldSec) :
    ∃ opening, EvidenceChain (CountsTowards selected.source) Unseen
      (SoonAfter config.stableHoldSec selected.source)
      (temporal.countJump config event.call selected).pendingLargeJumpCount opening event
      (event :: past) := by
  obtain ⟨-, -, -, count⟩ := @BottomTemporalState.countJump_pending config event.call temporal
    selected
  rcases count with one | ⟨waiting, source, more⟩
  · rw [one]
    exact ⟨event, .first counts past⟩
  · -- The observation follows the one that was counted last.
    obtain ⟨opening, last, chain, stamp⟩ := held waiting
    rw [source] at chain stamp
    rw [more]
    refine ⟨opening, chain.next counts ⟨later last chain.ends_in_past.2, fun absolute => ?_⟩⟩
    rw [← stamp absolute]
    exact soon absolute waiting (source.trans absolute)

theorem JumpTrack.gate {outcome : BottomTemporalState × SelectedCandidate × Bool}
    (held : JumpTrack config past temporal)
    (course : temporal.GateCourse config event.call selected outcome)
    (counts : temporal.JumpsFar config event.call selected → CountsTowards selected.source event)
    (unseen : temporal.finalFrameCompatible event.call = true → selected.source = .recentStable →
      temporal.jumpTo event.call selected ≤ config.directUpdateMaxJump → Unseen event)
    (clear : temporal.finalFrameCompatible event.call = false → temporal.pendingLargeJump = false)
    (later : ∀ earlier ∈ past, earlier.call.stampSec < event.call.stampSec)
    (soon : temporal.JumpsFar config event.call selected →
      selected.source = .directTopFrozenThickness → temporal.pendingLargeJump = true →
      temporal.pendingSource = .directTopFrozenThickness →
      event.call.stampSec - temporal.pendingLastPositiveStamp ≤ config.stableHoldSec) :
    JumpTrack config (event :: past) outcome.1 := by
  cases course with
  | unguarded incomparable => exact .of_clear (clear incomparable)
  | pauses stable comparable small => exact held.unseen (unseen comparable stable small)
  | passes => exact .of_clear rfl
  | softens => exact .of_clear rfl
  | falls => exact .of_clear rfl
  | waits far =>
    intro _
    obtain ⟨opening, chain⟩ := held.counts (counts far) later (soon far)
    obtain ⟨-, source, stamp, -⟩ := @BottomTemporalState.countJump_pending config event.call
      temporal selected
    rw [source]
    exact ⟨opening, event, chain, stamp⟩
  | confirms => exact .of_clear rfl

theorem JumpTrack.same {before after : BottomTemporalState} (held : JumpTrack config past before)
    (same : SameWait before after) : JumpTrack config past after := by
  intro waiting
  obtain ⟨opening, last, chain, stamp⟩ := held (same.waiting.symm.trans waiting)
  rw [same.source, same.count, same.stamp]
  exact ⟨opening, last, chain, stamp⟩

theorem JumpTrack.recordFinal {absolute : Bool} (held : JumpTrack config past temporal) :
    JumpTrack config past (temporal.recordFinal observation absolute selected) :=
  held

variable {chosen : SelectedCandidate}

theorem CargoBottomFusion.Weighs.same (weighs : self.Weighs observation ready chosen)
    (follows : self.follows observation = true) :
    SameWait self.temporal (ready.weighed observation chosen).1 := by
  obtain ⟨-, frames, newest, ingested⟩ := weighs.processes.ingested follows
  obtain ⟨⟨valid, source, uses, bottom, top, smoothed⟩, -⟩ := @smooth_keeps ready.config observation
    (ready.ingest observation).temporal chosen
  have weighed : (ready.weighed observation chosen).1 = _ := smoothed
  rw [weighed, ingested]
  exact ⟨rfl, rfl, rfl, rfl, rfl, rfl, rfl⟩

theorem CargoBottomFusion.Weighs.fresh (weighs : self.Weighs observation ready chosen)
    (other : self.follows observation = false) :
    (ready.weighed observation chosen).1.finalValid = false ∧
      (ready.weighed observation chosen).1.pendingLargeJump = false := by
  obtain ⟨final, waiting⟩ := weighs.processes.fresh other
  obtain ⟨⟨valid, source, uses, bottom, top, smoothed⟩, -⟩ := @smooth_keeps ready.config observation
    (ready.ingest observation).temporal chosen
  have weighed : (ready.weighed observation chosen).1 = _ := smoothed
  rw [weighed]
  exact ⟨final, waiting⟩

theorem CargoBottomFusion.Weighs.update_wait (weighs : self.Weighs observation ready chosen) :
    SameWait
      (((ready.weighed observation chosen).1.outputGate ready.config observation
        (ready.weighed observation chosen).2).1.recordFinal observation
          chosen.absoluteCurrentVertical
          ((ready.weighed observation chosen).1.outputGate ready.config observation
            (ready.weighed observation chosen).2).2.1)
      (self.update observation).1.temporal ∧
    ((self.update observation).2.valid = true →
      (self.update observation).2.geometry.bottomZBase
        = ((ready.weighed observation chosen).1.outputGate ready.config observation
            (ready.weighed observation chosen).2).2.1.bottomZBase) := by
  rw [weighs.processes.update_eq]
  unfold CargoBottomFusion.process
  dsimp only
  rw [weighs.chosen]
  show SameWait _ (CargoBottomFusion.withCandidate _ _ _ _).1.temporal ∧ _
  constructor
  · unfold CargoBottomFusion.withCandidate
    dsimp only
    split
    · exact ⟨rfl, rfl, rfl, rfl, rfl, rfl, rfl⟩
    · exact ⟨rfl, rfl, rfl, rfl, rfl, rfl, rfl⟩
  · intro valid
    have usable : (makeGeometry observation _ _ _ _ _ _).valid = true :=
      (Bool.and_eq_true _ _ ▸ valid : _ ∧ _).2
    exact (makeGeometry_spans _ _ _ _ _ _ _ usable).1

structure Prepared (config : CargoBottomFusionConfig) (past : List BottomEvent)
    (event : BottomEvent) : Prop where
  config : event.before.config = config
  heights : event.before.temporal.FiniteHeights
  anchored : event.before.Anchored
  centered : event.call.trackCenterValid = true
  later : ∀ earlier ∈ past, earlier.call.stampSec < event.call.stampSec
  timely : TimelyBottom event

theorem JumpTrack.weighs {ready : CargoBottomFusion}
    (held : JumpTrack config past event.before.temporal) (prepared : Prepared config past event)
    (weighs : event.before.Weighs event.call ready chosen) :
    JumpTrack config (event :: past) (event.before.update event.call).1.temporal ∧
      (RisesFar event → JumpConfirmed config event past) := by
  have sameConfig := weighs.processes.ready_config.trans prepared.config
  have source : (ready.weighed event.call chosen).2.source = chosen.source :=
    (smooth_keeps (ready.ingest event.call).temporal chosen).2
  have counts : (ready.weighed event.call chosen).1.JumpsFar config event.call
      (ready.weighed event.call chosen).2 →
      CountsTowards (ready.weighed event.call chosen).2.source event := by
    intro far
    exact ⟨ready, chosen, weighs, source.symm, prepared.config.symm ▸ far⟩
  obtain ⟨after, reported⟩ := weighs.update_wait
  rw [sameConfig] at after reported
  have course := @BottomTemporalState.outputGate_course config event.call
    (ready.weighed event.call chosen).1 (ready.weighed event.call chosen).2
  cases follows : event.before.follows event.call with
  | false =>
    -- The candidate passes unguarded, and nothing waits.
    obtain ⟨noFinal, clear⟩ := weighs.fresh follows
    have fresh : JumpTrack config past (ready.weighed event.call chosen).1 := .of_clear clear
    have apart : ¬(ready.weighed event.call chosen).1.finalFrameCompatible event.call = true := by
      rw [comparable_iff prepared.centered, noFinal]
      simp
    have gated := fresh.gate course counts (fun comparable => absurd comparable apart)
      (fun _ => clear) prepared.later (fun far => absurd far.comparable apart)
    refine ⟨gated.recordFinal.same after, fun rises => ?_⟩
    exact absurd (follows.symm.trans rises.follows) (by simp)
  | true =>
    have same := weighs.same follows
    have waiting := held.same same
    have soon : (ready.weighed event.call chosen).1.JumpsFar config event.call
        (ready.weighed event.call chosen).2 →
        (ready.weighed event.call chosen).2.source = .directTopFrozenThickness →
        (ready.weighed event.call chosen).1.pendingLargeJump = true →
        (ready.weighed event.call chosen).1.pendingSource = .directTopFrozenThickness →
        event.call.stampSec - (ready.weighed event.call chosen).1.pendingLastPositiveStamp
          ≤ config.stableHoldSec := by
      intro far direct waits pending
      rw [same.stamp, ← prepared.config]
      exact prepared.timely.resumes (direct ▸ counts far) (same.waiting.symm.trans waits)
        (same.source.symm.trans pending)
    refine ⟨(waiting.gate course counts ?_ ?_ prepared.later soon).recordFinal.same after, ?_⟩
    · intro _ stable near
      exact .held ready chosen weighs follows (source.symm.trans stable)
        (prepared.config.symm ▸ near)
    · intro apart
      rw [comparable_iff prepared.centered, same.finalValid] at apart
      exact same.waiting.trans (prepared.anchored.temporal.pending apart)
    · intro rises
      have usable := UsableHeights.ofAccepted weighs.processes.accepted
      have valid := prepared.config ▸ weighs.processes.config
      obtain ⟨-, frames, newest, ingested⟩ := weighs.processes.ingested follows
      have start : (ready.ingest event.call).temporal.FiniteHeights := by
        rw [ingested]
        exact { prepared.heights with }
      have selected := candidate_isFinite start usable chosen weighs.chosen
      obtain ⟨finite, heights⟩ := start.smooth selected (sameConfig.symm ▸ valid) usable
      have previous : (ready.weighed event.call chosen).1.previousBottom event.call
          = event.before.temporal.previousBottom event.call := by
        unfold BottomTemporalState.previousBottom
        rw [same.uses, same.bottom]
      have above := rises.rises
      rw [reported rises.valid, ← previous, prepared.config] at above
      obtain ⟨far, enough⟩ := course.confirmed valid finite heights usable
        ((comparable_iff prepared.centered).trans (same.finalValid.trans rises.final)) above
      obtain ⟨opening, chain⟩ := waiting.counts (counts far) prepared.later (soon far)
      exact ⟨_, _, opening, enough, chain⟩

theorem JumpTrack.unsupported {ready : CargoBottomFusion}
    (held : JumpTrack config past event.before.temporal)
    (processes : event.before.Processes event.call ready)
    (nothing : (ready.ingest event.call).candidate event.call = none) :
    JumpTrack config (event :: past) (event.before.update event.call).1.temporal ∧
      (event.before.update event.call).2.valid = false := by
  rw [processes.update_eq]
  unfold CargoBottomFusion.process
  dsimp only
  rw [nothing]
  refine ⟨?_, rfl⟩
  unfold CargoBottomFusion.withoutCandidate
  dsimp only
  split
  · exact .of_clear rfl
  · -- What waits for the track that is followed goes on waiting.
    cases follows : event.before.follows event.call with
    | false =>
      refine .of_clear ?_
      exact (processes.fresh follows).2
    | true =>
      obtain ⟨-, frames, newest, ingested⟩ := processes.ingested follows
      rw [ingested]
      exact (held.unseen (.unsupported ready processes follows nothing)).same
        ⟨rfl, rfl, rfl, rfl, rfl, rfl, rfl⟩

theorem JumpTrack.update (held : JumpTrack config past event.before.temporal)
    (prepared : Prepared config past event) :
    JumpTrack config (event :: past) (event.before.update event.call).1.temporal ∧
      (RisesFar event → JumpConfirmed config event past) := by
  have silent : (event.before.update event.call).2.valid = false →
      RisesFar event → JumpConfirmed config event past :=
    fun invalid rises => absurd (rises.valid.symm.trans invalid) (by simp)
  cases valid : event.before.config.invalidField with
  | some field =>
    unfold CargoBottomFusion.update at silent ⊢
    rw [valid] at silent ⊢
    exact ⟨.of_clear rfl, silent rfl⟩
  | none =>
    cases tracked : event.call.untracked with
    | true =>
      unfold CargoBottomFusion.update at silent ⊢
      rw [valid] at silent ⊢
      simp only [tracked, if_true] at silent ⊢
      exact ⟨.of_clear rfl, silent rfl⟩
    | false =>
      cases refusal : event.call.refusal event.before.config with
      | some reason =>
        unfold CargoBottomFusion.update at silent ⊢
        rw [valid] at silent ⊢
        simp only [tracked, Bool.false_eq_true, if_false, refusal] at silent ⊢
        exact ⟨held.unseen (.refused reason tracked refusal), silent rfl⟩
      | none =>
        have updated : event.before.update event.call = event.before.accept event.call := by
          unfold CargoBottomFusion.update
          rw [valid]
          simp only [tracked, Bool.false_eq_true, if_false, refusal]
        cases continuity : event.before.continuity event.call with
        | proceeds ready =>
          have processes : event.before.Processes event.call ready :=
            ⟨valid, tracked, refusal, continuity⟩
          cases chosen : (ready.ingest event.call).candidate event.call with
          | none =>
            obtain ⟨kept, invalid⟩ := held.unsupported processes chosen
            exact ⟨kept, silent invalid⟩
          | some selected => exact held.weighs prepared ⟨processes, chosen⟩
        | interrupted reason =>
          rw [updated] at silent ⊢
          unfold CargoBottomFusion.accept at silent ⊢
          rw [continuity] at silent ⊢
          exact ⟨.of_clear rfl, silent rfl⟩
        | repeated =>
          have result : event.before.update event.call
              = (event.before, event.before.temporal.lastResult) := by
            rw [updated]
            unfold CargoBottomFusion.accept
            rw [continuity]
          refine ⟨?_, fun rises => ?_⟩
          · rw [result]
            exact held.unseen (.repeated continuity)
          · -- The result that is repeated does not lie far above the previous output.
            have above := rises.rises
            rw [result] at above
            exact absurd above (prepared.timely.repeats continuity)

/-! ### Whole runs -/

theorem AdvancingRun.prepared {older : List CargoBottomObservation}
    (run : AdvancingRun config (observation :: older))
    (timely : TimelyBottom ⟨(bottomMachine config).run older, observation⟩) :
    Prepared config ((bottomMachine config).trace older)
      ⟨(bottomMachine config).run older, observation⟩ where
  config := (run_isFinite config older).1
  heights := (run_isFinite config older).2
  anchored := CargoBottomFusion.run_anchored config older
  centered := run.centered observation List.mem_cons_self
  later _ member :=
    (List.pairwise_cons.mp run.ascending).1 _ (Machine.call_mem_of_mem_trace _ member)
  timely := timely

omit [CircularFunctions] in
theorem AdvancingRun.older {newer older : List CargoBottomObservation}
    (run : AdvancingRun config (newer ++ older)) : AdvancingRun config older where
  ascending := (List.pairwise_append.mp run.ascending).2.1
  near := run.near.right_of_append
  centered observation member := run.centered observation (List.mem_append_right newer member)

theorem run_jumpTrack (config : CargoBottomFusionConfig)
    (observations : List CargoBottomObservation) (run : AdvancingRun config observations)
    (timely : ∀ event ∈ (bottomMachine config).trace observations, TimelyBottom event) :
    JumpTrack config ((bottomMachine config).trace observations)
      ((bottomMachine config).run observations).temporal := by
  -- The run and its past grow by the same observation.
  induction observations with
  | nil => exact .of_clear rfl
  | cons observation older ih =>
    have before := ih (@AdvancingRun.older config [observation] older run) fun event member =>
      timely event (List.mem_cons_of_mem _ member)
    have here := timely ⟨(bottomMachine config).run older, observation⟩ List.mem_cons_self
    exact (before.update (run.prepared here)).1

/--
Where observations advance and are timely, a valid bottom far above the one before is reported only
after as many observations of its source as are required.
-/
theorem upward_jump_confirmed (config : CargoBottomFusionConfig)
    (observations : List CargoBottomObservation) (run : AdvancingRun config observations)
    (timely : ∀ event ∈ (bottomMachine config).trace observations, TimelyBottom event)
    {newer older : List BottomEvent} {event : BottomEvent}
    (split : (bottomMachine config).trace observations = newer ++ event :: older)
    (rises : RisesFar event) : JumpConfirmed config event older := by
  obtain ⟨later, earlier, same, rfl, start⟩ := Machine.trace_split_calls _ split
  obtain ⟨before, observation⟩ := event
  obtain rfl : before = (bottomMachine config).run earlier := start
  rw [same] at run
  have here := timely ⟨(bottomMachine config).run earlier, observation⟩ (by rw [split]; simp)
  have shorter := run.older
  have before := @AdvancingRun.older config [observation] earlier shorter
  have past := run_jumpTrack config earlier before fun event member =>
    timely event (by rw [split]; simp [member])
  exact (past.update (shorter.prepared here)).2 rises

end Events

section Samples

attribute [local instance] unturned
attribute [local semireducible] Rat.add Rat.sub Rat.mul Rat.inv Rat.ofScientific

def centeredCargo (stampSec top : Scalar) : CargoBottomObservation :=
  { toppedCargo stampSec top with trackCenterValid := true }

def raisedCargo (stampSec : Scalar) : List CargoBottomObservation :=
  [centeredCargo stampSec 8, centeredCargo 1.1 8, centeredCargo 1 5]

theorem third_sight_confirms :
    JumpConfirmed {} ⟨(bottomMachine {}).run (raisedCargo 1.2), centeredCargo 1.3 8⟩
      ((bottomMachine {}).trace (raisedCargo 1.2)) := by
  refine upward_jump_confirmed {} (centeredCargo 1.3 8 :: raisedCargo 1.2) ?_ ?_
    (List.nil_append _).symm ?_
  · exact ⟨by decide, by decide, by decide⟩
  · intro event member
    simp only [Machine.trace, raisedCargo, List.mem_cons, List.not_mem_nil, or_false] at member
    -- No observation comes late, and no result that could be repeated lies far above.
    rcases member with rfl | rfl | rfl | rfl
    · exact ⟨fun _ _ _ => by decide, fun _ => by decide⟩
    · exact ⟨fun _ _ _ => by decide, fun _ => by decide⟩
    · exact ⟨fun _ waiting => absurd waiting (by decide), fun _ => by decide⟩
    · exact ⟨fun _ waiting => absurd waiting (by decide), fun _ => by decide⟩
  · exact ⟨by decide, by decide, by decide, by decide⟩

/-- A raised top is confirmed no matter how long the sights of it lie apart. -/
theorem late_sights_confirm :
    ¬∀ (config : CargoBottomFusionConfig) (observations : List CargoBottomObservation)
      (newer older : List BottomEvent) (event : BottomEvent), AdvancingRun config observations →
      (bottomMachine config).trace observations = newer ++ event :: older → RisesFar event →
      JumpConfirmed config event older := by
  intro confirmed
  let before := (bottomMachine {}).run (raisedCargo 1.7)
  obtain ⟨source, count, opening, enough, chain⟩ := confirmed {}
    (centeredCargo 2.3 8 :: raisedCargo 1.7) [] ((bottomMachine {}).trace (raisedCargo 1.7))
    ⟨before, centeredCargo 2.3 8⟩ ⟨by decide, by decide, by decide⟩ rfl
    ⟨by decide, by decide, by decide, by decide⟩
  have proceeds : before.continuity (centeredCargo 2.3 8) = .proceeds before := by
    unfold CargoBottomFusion.continuity
    rw [if_neg (by decide), if_neg (by decide), if_neg (by decide),
      if_neg (by decide), if_neg (by decide), if_neg (by decide)]
  have measured : ((before.ingest (centeredCargo 2.3 8)).candidate (centeredCargo 2.3 8)).map
      (·.source) = some .directTopFrozenThickness := by
    decide
  have direct : ∀ ready chosen, before.Weighs (centeredCargo 2.3 8) ready chosen →
      chosen.source = .directTopFrozenThickness := by
    intro ready chosen weighs
    obtain rfl := Continuity.proceeds.inj (proceeds.symm.trans weighs.processes.proceeds)
    rw [weighs.chosen] at measured
    exact Option.some.inj measured
  have absolute : source = .directTopFrozenThickness := by
    obtain ⟨ready, chosen, weighs, same, -⟩ := chain.last_counted
    exact same.symm.trans (direct ready chosen weighs)
  cases chain with
  | first =>
    have three : 3 ≤ 1 := enough
    omega
  | next chain counts continues =>
    -- Every earlier sight came more than half a second before.
    have soon := continues.2 absolute
    have member := chain.ends_in_past.2
    simp only [Machine.trace, raisedCargo, List.mem_cons, List.not_mem_nil, or_false] at member
    rcases member with rfl | rfl | rfl
    all_goals exact absurd soon (by decide)
  | idle chain ignored =>
    -- The late sight does show the height of the cargo.
    cases ignored with
    | refused reason tracked refusal =>
      have accepted : (centeredCargo 2.3 8).refusal before.config = none := by decide
      exact absurd (accepted.symm.trans refusal) (by simp)
    | repeated again => exact absurd (proceeds.symm.trans again) (by simp)
    | unsupported ready processes follows nothing =>
      obtain rfl := Continuity.proceeds.inj (proceeds.symm.trans processes.proceeds)
      rw [nothing] at measured
      cases measured
    | held ready chosen weighs follows stable near =>
      exact absurd ((direct ready chosen weighs).symm.trans stable) (by simp)

end Samples

end NdtSlam
