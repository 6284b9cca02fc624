import NdtSlam.Foundation.ClearTimer
import NdtSlam.Foundation.Outcome
import NdtSlam.Motion.CargoPhysicalMotion

/-! The cargo is stationary after slow samples, where each of them follows another one. -/

namespace NdtSlam

abbrev MotionEvent := Event CargoPhysicalMotionEstimator CargoPhysicalMotionInput

def sampledReason : String := "raw_pose_motion_estimate"

namespace CargoPhysicalMotionEstimator

structure Kept (before after : CargoPhysicalMotionEstimator) : Prop where
  config : after.config = before.config
  state : after.result.state = before.result.state
  candidate : after.transitionCandidateSinceSec = before.transitionCandidateSinceSec
  stamp : after.lastStampSec = before.lastStampSec

theorem Kept.refl (self : CargoPhysicalMotionEstimator) : self.Kept self := ⟨rfl, rfl, rfl, rfl⟩

theorem Kept.trans {first second third : CargoPhysicalMotionEstimator}
    (once : first.Kept second) (again : second.Kept third) : first.Kept third where
  config := again.config.trans once.config
  state := again.state.trans once.state
  candidate := again.candidate.trans once.candidate
  stamp := again.stamp.trans once.stamp

def Stage (before : CargoPhysicalMotionEstimator)
    (outcome : Except CargoPhysicalMotionEstimator CargoPhysicalMotionEstimator) : Prop :=
  match outcome with
  | .error held => before.Kept held ∧ held.result.reason ≠ sampledReason
  | .ok after => before.Kept after

variable {before : CargoPhysicalMotionEstimator}

theorem Stage.bind
    {first : Except CargoPhysicalMotionEstimator CargoPhysicalMotionEstimator}
    {next : CargoPhysicalMotionEstimator →
      Except CargoPhysicalMotionEstimator CargoPhysicalMotionEstimator}
    (stage : before.Stage first) (later : ∀ after, first = .ok after → after.Stage (next after)) :
    before.Stage (first >>= next) := by
  cases first with
  | error held => exact stage
  | ok after =>
    have continued : after.Stage (next after) := later after rfl
    show before.Stage (next after)
    -- Whether the second stage answers or goes on, it keeps what the first one has kept.
    cases outcome : next after with
    | error held =>
      rw [outcome] at continued
      exact ⟨Kept.trans stage continued.1, continued.2⟩
    | ok last =>
      rw [outcome] at continued
      exact Kept.trans stage continued

variable {self : CargoPhysicalMotionEstimator} {input : CargoPhysicalMotionInput}

theorem Kept.answer (kept : before.Kept self) {valid : Bool} {reason : String}
    (other : reason ≠ sampledReason) :
    before.Stage (.error (self.answer valid reason)) :=
  ⟨⟨kept.config, kept.state, kept.candidate, kept.stamp⟩, other⟩

/-! ### The stages of an update -/

theorem admitPose_stage : self.Stage (self.admitPose input) := by
  unfold admitPose
  dsimp only
  by_cases unavailable : (!input.rawPositionValid || !input.rawPosition.allFinite) = true
  · rw [if_pos unavailable]
    apply (Kept.refl self).answer
    split_ifs <;> decide
  · rw [if_neg unavailable]
    by_cases refused : (!input.rawPoseQualityValid || (input.localizationDegenerate &&
        (!input.rawPoseInnovationM.isFinite ||
          self.config.maximumRawPoseInnovationM < input.rawPoseInnovationM))) = true
    · rw [if_pos refused]
      refine Kept.answer (?_ : self.Kept _) ?_
      · exact ⟨rfl, rfl, rfl, rfl⟩
      · cases input.localizationDegenerate <;> decide
    · rw [if_neg refused]
      exact ⟨rfl, rfl, rfl, rfl⟩

theorem admitBaseline_stage : self.Stage (self.admitBaseline input) := by
  unfold admitBaseline
  dsimp only
  split_ifs
  · exact ⟨⟨rfl, rfl, rfl, rfl⟩, by simp [sampledReason]⟩
  · exact ⟨⟨rfl, rfl, rfl, rfl⟩, by simp [sampledReason]⟩
  · exact .refl self

variable {after : CargoPhysicalMotionEstimator}

theorem admitBaseline_ok (goes : self.admitBaseline input = .ok after) :
    self.previousPositionValid = true := by
  unfold admitBaseline at goes
  dsimp only at goes
  split_ifs at goes with stale missing
  simpa using missing

theorem admitPose_ok (goes : self.admitPose input = .ok after) :
    after.previousPositionValid = self.previousPositionValid := by
  unfold admitPose at goes
  dsimp only at goes
  split_ifs at goes
  cases goes
  rfl

theorem admitConfidence_stage : self.Stage self.admitConfidence := by
  unfold admitConfidence
  split_ifs
  · exact (Kept.refl self).answer (by decide)
  · exact .refl self

theorem followController_ok
    (alone : ¬(input.externalStateValid = true ∧ input.externalState ≠ .unknown)) :
    self.followController input = .ok self := by
  unfold followController
  rw [if_neg (by simpa using alone)]

theorem admitStamp_ok (goes : self.admitStamp input = .ok after) :
    after.config = self.config ∧ after.lastStampSec = input.stampSec ∧
      input.stampSec.isFinite = true ∧ 0 < input.stampSec ∧
      (after.result.state = .unknown ∧ after.previousPositionValid = false ∨
        after.result.state = self.result.state ∧
          after.transitionCandidateSinceSec = self.transitionCandidateSinceSec ∧
          (0 < self.lastStampSec →
            ¬self.config.maximumSampleGapSec < input.stampSec - self.lastStampSec)) := by
  unfold admitStamp at goes
  split_ifs at goes with disabled invalid rollback gap
  all_goals
    simp only [Bool.or_eq_true, Bool.not_eq_true', not_or, Bool.not_eq_false,
      decide_eq_true_eq] at invalid
    have positive : 0 < input.stampSec := by
      obtain ⟨value, stamp⟩ := Scalar.isFinite_iff.1 invalid.1
      rw [stamp] at invalid ⊢
      exact Scalar.fin_lt_fin.2 (not_le.mp fun low => invalid.2 (Scalar.fin_le_fin.2 low))
    cases goes
  · exact ⟨rfl, rfl, invalid.1, positive, .inl ⟨rfl, rfl⟩⟩
  · refine ⟨rfl, rfl, invalid.1, positive, .inr ⟨rfl, rfl, ?_⟩⟩
    intro known late
    exact gap (by simp [known, late])

variable {held : CargoPhysicalMotionEstimator}

theorem admitStamp_error (ends : self.admitStamp input = .error held) :
    held.config = self.config ∧ held.result.reason ≠ sampledReason ∧
      (held.result.state = .unknown ∨ held.result.state = self.result.state ∧
        held.transitionCandidateSinceSec = self.transitionCandidateSinceSec) := by
  unfold admitStamp at ends
  dsimp only at ends
  split_ifs at ends with disabled invalid rollback
  all_goals cases ends
  · exact ⟨rfl, by simp [sampledReason], .inl rfl⟩
  · exact ⟨rfl, by simp [answer, sampledReason], .inr ⟨rfl, rfl⟩⟩
  · exact ⟨rfl, by simp [restart, sampledReason], .inl rfl⟩

/-! ### What an accepted sample does to the state -/

theorem advance_frame (stampSec : Scalar) :
    (self.advance stampSec).config = self.config ∧
      (self.advance stampSec).lastStampSec = self.lastStampSec ∧
      (self.advance stampSec).result.filteredSpeedMps = self.result.filteredSpeedMps ∧
      (self.advance stampSec).result.reason = sampledReason := by
  have frame : (self.transition stampSec).config = self.config ∧
      (self.transition stampSec).lastStampSec = self.lastStampSec ∧
      (self.transition stampSec).result.filteredSpeedMps = self.result.filteredSpeedMps := by
    unfold transition
    cases self.result.state
    all_goals
      dsimp only
      split_ifs <;> exact ⟨rfl, rfl, rfl⟩
  exact ⟨frame.1, frame.2.1, frame.2.2, rfl⟩

variable {stampSec : Scalar}

theorem advance_settling (state : self.result.state = .stoppingSettle) :
    (self.advance stampSec).result.state = .moving ∨
      (self.advance stampSec).result.state = .stoppingSettle ∧
        ¬self.result.filteredSpeedMps ≤ self.config.enterStationarySpeedMps ∨
      self.result.filteredSpeedMps ≤ self.config.enterStationarySpeedMps ∧
        ((self.advance stampSec).result.state = .stationary ∧
            (self.advance stampSec).transitionCandidateSinceSec = 0 ∧
            self.config.enterStationaryConfirmSec ≤ stampSec - self.candidateSince stampSec ∨
          (self.advance stampSec).result.state = .stoppingSettle ∧
            (self.advance stampSec).transitionCandidateSinceSec =
              self.candidateSince stampSec) := by
  unfold advance transition
  rw [state]
  dsimp only
  split_ifs with fast slow elapsed
  · exact .inl rfl
  · exact .inr (.inr ⟨slow, .inl ⟨rfl, rfl, elapsed⟩⟩)
  · exact .inr (.inr ⟨slow, .inr ⟨state, rfl⟩⟩)
  · exact .inr (.inl ⟨state, slow⟩)

theorem advance_stationary (state : self.result.state = .stationary) :
    (self.advance stampSec).result.state = .stationary ∧
        (self.advance stampSec).transitionCandidateSinceSec = 0 ∨
      self.config.exitStationarySpeedMps ≤ self.result.filteredSpeedMps ∧
        ((self.advance stampSec).result.state = .moving ∧
            self.config.exitStationaryConfirmSec ≤ stampSec - self.candidateSince stampSec ∨
          (self.advance stampSec).result.state = .stationary ∧
            (self.advance stampSec).transitionCandidateSinceSec =
              self.candidateSince stampSec) := by
  unfold advance transition
  rw [state]
  dsimp only
  split_ifs with fast elapsed
  · exact .inr ⟨fast, .inl ⟨rfl, elapsed⟩⟩
  · exact .inr ⟨fast, .inr ⟨state, rfl⟩⟩
  · exact .inl ⟨state, rfl⟩

theorem advance_other (unsettled : self.result.state ≠ .stoppingSettle)
    (free : self.result.state ≠ .stationary) :
    (self.advance stampSec).result.state ≠ .stationary ∧
      ((self.advance stampSec).result.state = .stoppingSettle →
        (self.advance stampSec).transitionCandidateSinceSec = stampSec) := by
  unfold advance transition
  cases state : self.result.state with
  | unknown =>
    dsimp only
    split_ifs
    · exact ⟨by simp [setState], by simp [setState]⟩
    · exact ⟨by simp [setState, noteCandidate], fun _ => rfl⟩
  | moving =>
    dsimp only
    split_ifs
    · exact ⟨by simp [setState, noteCandidate], fun _ => rfl⟩
    · exact ⟨free, fun settles => absurd settles unsettled⟩
  | stoppingSettle => exact absurd state unsettled
  | stationary => exact absurd state free

section Measured

variable [EuclideanNorm] [ExponentialFunction]

theorem measureSpeed_stage : self.Stage (self.measureSpeed input) := by
  unfold measureSpeed
  dsimp only
  split_ifs
  all_goals first
    | exact (Kept.refl self).answer (by decide)
    | exact ⟨rfl, rfl, rfl, rfl⟩

def sample (self : CargoPhysicalMotionEstimator) (input : CargoPhysicalMotionInput) :
    Except CargoPhysicalMotionEstimator CargoPhysicalMotionEstimator := do
  let self ← self.admitPose input
  let self ← self.admitBaseline input
  let self ← self.measureSpeed input
  self.admitConfidence

theorem sample_stage : self.Stage (self.sample input) :=
  admitPose_stage.bind fun _ _ => admitBaseline_stage.bind fun _ _ =>
    measureSpeed_stage.bind fun _ _ => admitConfidence_stage

section

variable (alone : ¬(input.externalStateValid = true ∧ input.externalState ≠ .unknown))
include alone

theorem measure_alone :
    self.measure input = self.admitStamp input >>= fun self => self.sample input := by
  unfold measure
  cases self.admitStamp input with
  | error held => rfl
  | ok admitted =>
    show (admitted.followController input >>= _) = _
    rw [followController_ok alone]
    rfl

theorem measure_error (ends : self.measure input = .error held) :
    held.config = self.config ∧ held.result.reason ≠ sampledReason ∧
      (held.result.state = .unknown ∨ held.result.state = self.result.state ∧
        held.transitionCandidateSinceSec = self.transitionCandidateSinceSec) := by
  rw [measure_alone alone] at ends
  cases admits : self.admitStamp input with
  | error refused =>
    rw [admits] at ends
    cases ends
    exact admitStamp_error admits
  | ok admitted =>
    obtain ⟨config, -, -, -, either⟩ := admitStamp_ok admits
    rw [admits] at ends
    have stopped : admitted.sample input = .error held := ends
    have stage := @sample_stage admitted input _ _
    rw [stopped] at stage
    refine ⟨stage.1.config.trans config, stage.2, ?_⟩
    -- A gap has ended the state, and otherwise the stamp has left it as it was.
    rcases either with ⟨unknown, -⟩ | ⟨state, candidate, -⟩
    · exact .inl (stage.1.state.trans unknown)
    · exact .inr ⟨stage.1.state.trans state, stage.1.candidate.trans candidate⟩

theorem measure_ok {sampled : CargoPhysicalMotionEstimator}
    (accepted : self.measure input = .ok sampled) :
    sampled.config = self.config ∧ sampled.result.state = self.result.state ∧
      sampled.transitionCandidateSinceSec = self.transitionCandidateSinceSec ∧
      sampled.lastStampSec = input.stampSec ∧ input.stampSec.isFinite = true ∧
      0 < input.stampSec ∧ (0 < self.lastStampSec →
        ¬self.config.maximumSampleGapSec < input.stampSec - self.lastStampSec) := by
  rw [measure_alone alone, bind_eq_ok] at accepted
  obtain ⟨admitted, admits, goes⟩ := accepted
  obtain ⟨config, stamp, finite, positive, either⟩ := admitStamp_ok admits
  have kept := @sample_stage admitted input _ _
  rw [goes] at kept
  change admitted.Kept sampled at kept
  rcases either with ⟨-, without⟩ | ⟨state, candidate, close⟩
  · -- After a gap the pose is a baseline, and not a sample.
    obtain ⟨posed, poses, goes⟩ := bind_eq_ok.1 goes
    obtain ⟨based, bases, -⟩ := bind_eq_ok.1 goes
    have known := admitBaseline_ok bases
    rw [admitPose_ok poses, without] at known
    cases known
  · exact ⟨kept.config.trans config, kept.state.trans state, kept.candidate.trans candidate,
      kept.stamp.trans stamp, finite, positive, close⟩

end

end Measured
end CargoPhysicalMotionEstimator

def Close (earlier later : MotionEvent) : Prop :=
  later.call.stampSec - earlier.call.stampSec ≤ later.before.config.maximumSampleGapSec

def ContinuouslyShown (counted : MotionEvent → Prop) (durationSec : Scalar)
    (past : List MotionEvent) (event : MotionEvent) : Prop :=
  ConfirmedBy counted (fun _ => True) Close (·.call.stampSec) durationSec past event

def CandidateTimed (counted : MotionEvent → Prop) (past : List MotionEvent)
    (estimator : CargoPhysicalMotionEstimator) : Prop :=
  Timed counted (fun _ => True) Close (·.call.stampSec) past estimator.transitionCandidateSinceSec

section Candidates

variable {past : List MotionEvent} {event : MotionEvent} {counted : MotionEvent → Prop}
  {after : CargoPhysicalMotionEstimator}

theorem ContinuouslyShown.single {durationSec : Scalar} (counts : counted event)
    (finite : event.call.stampSec.isFinite = true) (brief : durationSec ≤ 0) :
    ContinuouslyShown counted durationSec past event := by
  refine ⟨1, event, .first counts past, ?_⟩
  obtain ⟨stamp, known⟩ := Scalar.isFinite_iff.1 finite
  dsimp only
  rw [known, Scalar.fin_sub_fin, sub_self]
  exact brief
theorem CandidateTimed.start (counts : counted event)
    (starts : after.transitionCandidateSinceSec = event.call.stampSec) :
    CandidateTimed counted (event :: past) after :=
  .inr ⟨1, event, event, .first counts past, starts.symm⟩

theorem CandidateTimed.none (stops : after.transitionCandidateSinceSec = 0) :
    CandidateTimed counted past after := by
  unfold CandidateTimed
  rw [stops]
  exact .stopped past

end Candidates

section Evidence

variable [EuclideanNorm] [ExponentialFunction] (event : MotionEvent)

def WithoutController : Prop :=
  ¬(event.call.externalStateValid = true ∧ event.call.externalState ≠ .unknown)

def Slow : Prop :=
  ∃ sampled, event.before.measure event.call = .ok sampled ∧
    sampled.result.filteredSpeedMps ≤ event.before.config.enterStationarySpeedMps

def Fast : Prop :=
  ∃ sampled, event.before.measure event.call = .ok sampled ∧
    event.before.config.exitStationarySpeedMps ≤ sampled.result.filteredSpeedMps

def BecomesStationary : Prop :=
  event.before.result.state ≠ .stationary ∧
    (event.before.update event.call).result.state = .stationary

def LeavesStationary : Prop :=
  event.before.result.state = .stationary ∧
    (event.before.update event.call).result.state = .moving

structure FollowsEvidence (event : MotionEvent) : Prop where
  settling : event.before.result.state = .stoppingSettle →
    ¬event.before.transitionCandidateSinceSec ≤ 0 →
    0 < event.before.config.enterStationaryConfirmSec → Slow event →
    event.before.result.reason = sampledReason ∧
      event.before.result.filteredSpeedMps ≤ event.before.config.enterStationarySpeedMps
  leaving : event.before.result.state = .stationary →
    ¬event.before.transitionCandidateSinceSec ≤ 0 → Fast event →
    event.before.result.reason = sampledReason ∧
      event.before.config.exitStationarySpeedMps ≤ event.before.result.filteredSpeedMps

structure EvidenceKept (past : List MotionEvent) (estimator : CargoPhysicalMotionEstimator) :
    Prop where
  valid : estimator.config.valid = true
  newest : estimator.result.reason = sampledReason → ∃ event older, past = event :: older ∧
    estimator.lastStampSec = event.call.stampSec ∧ event.call.stampSec.isFinite = true ∧
    0 < event.call.stampSec
  settling : estimator.result.state = .stoppingSettle → 0 < estimator.config.enterStationaryConfirmSec →
    estimator.result.reason = sampledReason →
    estimator.result.filteredSpeedMps ≤ estimator.config.enterStationarySpeedMps →
    CandidateTimed Slow past estimator
  leaving : estimator.result.state = .stationary → estimator.result.reason = sampledReason →
    estimator.config.exitStationarySpeedMps ≤ estimator.result.filteredSpeedMps →
    CandidateTimed Fast past estimator

variable {past : List MotionEvent} {event : MotionEvent}

section

variable (alone : WithoutController event)
include alone

variable {sampled : CargoPhysicalMotionEstimator}

theorem EvidenceKept.continues (kept : EvidenceKept past event.before)
    (accepted : event.before.measure event.call = .ok sampled)
    (recent : event.before.result.reason = sampledReason) :
    Continues (fun _ => True) Close past event := by
  obtain ⟨previous, older, rfl, last, finite, positive⟩ := kept.newest recent
  obtain ⟨-, -, -, -, stamped, -, near⟩ := CargoPhysicalMotionEstimator.measure_ok alone accepted
  rw [last] at near
  refine .ofHead trivial ?_
  -- The threshold and both stamps are finite, so what is not beyond it is within it.
  have valid := kept.valid
  simp only [CargoPhysicalMotionConfig.valid, Bool.and_eq_true] at valid
  obtain ⟨gap, threshold⟩ := Scalar.isFinite_iff.1
    (show event.before.config.maximumSampleGapSec.isFinite = true by tauto)
  obtain ⟨difference, apart⟩ := Scalar.isFinite_iff.1 (Scalar.sub_isFinite.2 ⟨stamped, finite⟩)
  have within := near positive
  unfold Close
  rw [apart, threshold] at within ⊢
  exact Scalar.fin_le_of_not_lt (by simp) within


/-! ### One update -/

structure SampleKept (past : List MotionEvent) (event : MotionEvent)
    (after : CargoPhysicalMotionEstimator) : Prop where
  settling : after.result.state = .stoppingSettle → 0 < after.config.enterStationaryConfirmSec →
    after.result.filteredSpeedMps ≤ after.config.enterStationarySpeedMps →
    CandidateTimed Slow (event :: past) after
  leaving : after.result.state = .stationary →
    after.config.exitStationarySpeedMps ≤ after.result.filteredSpeedMps →
    CandidateTimed Fast (event :: past) after
  becomes : event.before.result.state ≠ .stationary → after.result.state = .stationary →
    ContinuouslyShown Slow event.before.config.enterStationaryConfirmSec past event
  leaves : event.before.result.state = .stationary → after.result.state = .moving →
    ContinuouslyShown Fast event.before.config.exitStationaryConfirmSec past event

theorem EvidenceKept.sample_settling (kept : EvidenceKept past event.before)
    (uninterrupted : FollowsEvidence event)
    (accepted : event.before.measure event.call = .ok sampled)
    (state : event.before.result.state = .stoppingSettle) :
    SampleKept past event (sampled.advance event.call.stampSec) := by
  obtain ⟨config, keptState, candidate, -, finite, -, -⟩ :=
    CargoPhysicalMotionEstimator.measure_ok alone accepted
  obtain ⟨afterConfig, -, afterSpeed, -⟩ := sampled.advance_frame event.call.stampSec
  have notHeld : ¬event.before.result.state = .stationary := by
    rw [state]
    simp
  have since : sampled.candidateSince event.call.stampSec =
      startTimer event.call.stampSec event.before.transitionCandidateSinceSec := by
    rw [← candidate]
    rfl
  rcases @CargoPhysicalMotionEstimator.advance_settling sampled event.call.stampSec
      (keptState.trans state) with
    ended | ⟨ended, notSlow⟩ | ⟨slow, outcome⟩
  · exact ⟨by simp [ended], by simp [ended], by simp [ended], fun held => absurd held notHeld⟩
  · refine ⟨?_, by simp [ended], by simp [ended], fun held => absurd held notHeld⟩
    intro _ _ slow
    rw [afterConfig, afterSpeed] at slow
    exact absurd slow notSlow
  · have counts : Slow event := ⟨sampled, accepted, config ▸ slow⟩
    -- Where the confirmation takes time, the candidate is timed by uninterrupted evidence.
    have timed : 0 < event.before.config.enterStationaryConfirmSec →
        CandidateTimed Slow past event.before ∧
          (¬event.before.transitionCandidateSinceSec ≤ 0 →
            Continues (fun _ => True) Close past event) := by
      intro takes
      by_cases still : event.before.transitionCandidateSinceSec ≤ 0
      · exact ⟨.inl still, fun runs => absurd still runs⟩
      · obtain ⟨recent, before⟩ := uninterrupted.settling state still takes counts
        exact ⟨kept.settling state takes recent before,
          fun _ => kept.continues alone accepted recent⟩
    rcases outcome with ⟨ended, stopped, elapsed⟩ | ⟨ended, runsOn⟩
    · refine ⟨by simp [ended], fun _ _ => .none stopped, ?_, by simp [ended]⟩
      intro _ _
      by_cases takes : 0 < event.before.config.enterStationaryConfirmSec
      · obtain ⟨runs, continues⟩ := timed takes
        refine Timed.confirm runs (fun _ _ => trivial) counts continues ?_
        rw [← since, ← config]
        exact elapsed
      · -- Without a time to wait for, this sample is enough.
        have valid := kept.valid
        simp only [CargoPhysicalMotionConfig.valid, Bool.and_eq_true] at valid
        obtain ⟨duration, lasts⟩ := Scalar.isFinite_iff.1
          (show event.before.config.enterStationaryConfirmSec.isFinite = true by tauto)
        rw [lasts] at takes ⊢
        exact .single counts finite
          (Scalar.fin_le_fin.2 (not_lt.mp fun above => takes (Scalar.fin_lt_fin.2 above)))
    · refine ⟨?_, by simp [ended], by simp [ended], fun held => absurd held notHeld⟩
      intro _ takes _
      rw [afterConfig, config] at takes
      obtain ⟨runs, continues⟩ := timed takes
      unfold CandidateTimed
      rw [runsOn, since]
      exact Timed.proceed runs (fun _ _ => trivial) counts continues

theorem EvidenceKept.sample_stationary (kept : EvidenceKept past event.before)
    (uninterrupted : FollowsEvidence event)
    (accepted : event.before.measure event.call = .ok sampled)
    (state : event.before.result.state = .stationary) :
    SampleKept past event (sampled.advance event.call.stampSec) := by
  obtain ⟨config, keptState, candidate, -⟩ :=
    CargoPhysicalMotionEstimator.measure_ok alone accepted
  have since : sampled.candidateSince event.call.stampSec =
      startTimer event.call.stampSec event.before.transitionCandidateSinceSec := by
    rw [← candidate]
    rfl
  rcases @CargoPhysicalMotionEstimator.advance_stationary sampled event.call.stampSec
      (keptState.trans state) with
    ⟨ended, stopped⟩ | ⟨fast, outcome⟩
  · exact ⟨by simp [ended], fun _ _ => .none stopped, fun other => absurd state other,
      by simp [ended]⟩
  · have counts : Fast event := ⟨sampled, accepted, config ▸ fast⟩
    -- A candidate that runs is timed by uninterrupted evidence.
    have timed : CandidateTimed Fast past event.before ∧
        (¬event.before.transitionCandidateSinceSec ≤ 0 →
          Continues (fun _ => True) Close past event) := by
      by_cases still : event.before.transitionCandidateSinceSec ≤ 0
      · exact ⟨.inl still, fun runs => absurd still runs⟩
      · obtain ⟨recent, before⟩ := uninterrupted.leaving state still counts
        exact ⟨kept.leaving state recent before, fun _ => kept.continues alone accepted recent⟩
    obtain ⟨runs, continues⟩ := timed
    rcases outcome with ⟨ended, elapsed⟩ | ⟨ended, runsOn⟩
    · refine ⟨by simp [ended], by simp [ended], by simp [ended], ?_⟩
      intro _ _
      refine Timed.confirm runs (fun _ _ => trivial) counts continues ?_
      rw [← since, ← config]
      exact elapsed
    · refine ⟨by simp [ended], ?_, fun other => absurd state other, by simp [ended]⟩
      intro _ _
      unfold CandidateTimed
      rw [runsOn, since]
      exact Timed.proceed runs (fun _ _ => trivial) counts continues

theorem sample_other (accepted : event.before.measure event.call = .ok sampled)
    (unsettled : event.before.result.state ≠ .stoppingSettle)
    (free : event.before.result.state ≠ .stationary) :
    SampleKept past event (sampled.advance event.call.stampSec) := by
  obtain ⟨config, keptState, -⟩ := CargoPhysicalMotionEstimator.measure_ok alone accepted
  obtain ⟨afterConfig, -, afterSpeed, -⟩ := sampled.advance_frame event.call.stampSec
  rw [← keptState] at unsettled free
  obtain ⟨notHeld, starts⟩ :=
    @CargoPhysicalMotionEstimator.advance_other sampled event.call.stampSec unsettled free
  refine ⟨?_, fun held => absurd held notHeld, fun _ held => absurd held notHeld,
    fun held => absurd (keptState.trans held) free⟩
  intro settles _ slow
  rw [afterConfig, afterSpeed, config] at slow
  exact .start ⟨sampled, accepted, slow⟩ (starts settles)

theorem EvidenceKept.step (kept : EvidenceKept past event.before)
    (uninterrupted : FollowsEvidence event) :
    EvidenceKept (event :: past) (event.before.update event.call) ∧
      (BecomesStationary event →
        ContinuouslyShown Slow event.before.config.enterStationaryConfirmSec past event) ∧
      (LeavesStationary event →
        ContinuouslyShown Fast event.before.config.exitStationaryConfirmSec past event) := by
  unfold BecomesStationary LeavesStationary CargoPhysicalMotionEstimator.update
  cases measured : event.before.measure event.call with
  | error held =>
    -- Nothing was sampled, so nothing is confirmed and nothing has to be timed.
    obtain ⟨config, reason, state⟩ :=
      CargoPhysicalMotionEstimator.measure_error alone measured
    dsimp only
    refine ⟨⟨by rw [config]; exact kept.valid, fun recent => absurd recent reason,
      fun _ _ recent => absurd recent reason, fun _ recent => absurd recent reason⟩, ?_, ?_⟩
    · rintro ⟨other, ended⟩
      rcases state with unknown | ⟨same, -⟩
      · rw [unknown] at ended
        cases ended
      · exact absurd (same.symm.trans ended) other
    · rintro ⟨before, ended⟩
      rcases state with unknown | ⟨same, -⟩
      · rw [unknown] at ended
        cases ended
      · rw [same, before] at ended
        cases ended
  | ok sampled =>
    obtain ⟨config, -, -, stamp, finite, positive, -⟩ :=
      CargoPhysicalMotionEstimator.measure_ok alone measured
    obtain ⟨afterConfig, afterStamp, -, -⟩ := sampled.advance_frame event.call.stampSec
    have sample : SampleKept past event (sampled.advance event.call.stampSec) := by
      by_cases settling : event.before.result.state = .stoppingSettle
      · exact kept.sample_settling alone uninterrupted measured settling
      · by_cases held : event.before.result.state = .stationary
        · exact kept.sample_stationary alone uninterrupted measured held
        · exact sample_other alone measured settling held
    dsimp only
    refine ⟨⟨?_, fun _ => ⟨event, past, rfl, afterStamp.trans stamp, finite, positive⟩,
      fun ended takes _ slow => sample.settling ended takes slow,
      fun ended _ fast => sample.leaving ended fast⟩,
      fun becomes => sample.becomes becomes.1 becomes.2,
      fun leaves => sample.leaves leaves.1 leaves.2⟩
    rw [afterConfig, config]
    exact kept.valid

end

theorem evidenceKept_run {config : CargoPhysicalMotionConfig}
    {calls : List CargoPhysicalMotionInput}
    (alone : ∀ event ∈ (cargoPhysicalMotionMachine config).trace calls, WithoutController event)
    (uninterrupted : ∀ event ∈ (cargoPhysicalMotionMachine config).trace calls,
      FollowsEvidence event) :
    EvidenceKept ((cargoPhysicalMotionMachine config).trace calls)
      ((cargoPhysicalMotionMachine config).run calls) := by
  -- The run and its trace grow by the same update.
  induction calls with
  | nil =>
    have fresh : ((cargoPhysicalMotionMachine config).run []).result = {} := rfl
    refine ⟨?_, by simp [fresh, sampledReason], by simp [fresh], by simp [fresh]⟩
    show (if config.valid then config else {} : CargoPhysicalMotionConfig).valid = true
    split_ifs with valid
    · exact valid
    · with_unfolding_all decide
  | cons call older ih =>
    obtain ⟨aloneNow, alonePast⟩ := List.forall_mem_cons.mp alone
    obtain ⟨now, before⟩ := List.forall_mem_cons.mp uninterrupted
    exact ((ih alonePast before).step aloneNow now).1

/-- The cargo is found stationary, and moving again, after uninterrupted evidence of it. -/
theorem stationary_needs_slow_evidence (config : CargoPhysicalMotionConfig)
    (calls : List CargoPhysicalMotionInput)
    (alone : ∀ event ∈ (cargoPhysicalMotionMachine config).trace calls, WithoutController event)
    (uninterrupted : ∀ event ∈ (cargoPhysicalMotionMachine config).trace calls,
      FollowsEvidence event)
    {newer older : List MotionEvent} {event : MotionEvent}
    (split : (cargoPhysicalMotionMachine config).trace calls = newer ++ event :: older) :
    (BecomesStationary event →
      ContinuouslyShown Slow event.before.config.enterStationaryConfirmSec older event) ∧
    (LeavesStationary event →
      ContinuouslyShown Fast event.before.config.exitStationaryConfirmSec older event) := by
  obtain ⟨earlier, past, before⟩ := (cargoPhysicalMotionMachine config).trace_split split
  rw [split] at alone uninterrupted
  have kept : EvidenceKept older event.before := by
    rw [past, before]
    apply evidenceKept_run
    · intro other member
      exact alone other (by simp [past, member])
    · intro other member
      exact uninterrupted other (by simp [past, member])
  exact (kept.step (alone event (by simp)) (uninterrupted event (by simp))).2

end Evidence

section Samples

abbrev shortSeries : ExponentialFunction where
  exp x := 1 + x * (1 + x / 2 * (1 + x / 3 * (1 + x / 4 * (1 + x / 5 * (1 + x / 6)))))

attribute [local instance] axisNorm shortSeries
attribute [local semireducible] Rat.add Rat.sub Rat.mul Rat.inv Rat.ofScientific

def seenInPlace (stampSec : Scalar) : CargoPhysicalMotionInput :=
  { stampSec, rawPositionValid := true }

def steadySamples : List CargoPhysicalMotionInput :=
  [seenInPlace 1.6, seenInPlace 1.4, seenInPlace 1.2, seenInPlace 1.0]

theorem stationary_after_steady_samples :
    ContinuouslyShown Slow
      ((cargoPhysicalMotionMachine {}).run steadySamples).config.enterStationaryConfirmSec
      ((cargoPhysicalMotionMachine {}).trace steadySamples)
      ⟨(cargoPhysicalMotionMachine {}).run steadySamples, seenInPlace 1.7⟩ := by
  have quiet : ∀ before stampSec, WithoutController ⟨before, seenInPlace stampSec⟩ :=
    fun _ _ both => Bool.noConfusion both.1
  have split : (cargoPhysicalMotionMachine {}).trace (seenInPlace 1.7 :: steadySamples) =
      [] ++ ⟨(cargoPhysicalMotionMachine {}).run steadySamples, seenInPlace 1.7⟩ ::
        (cargoPhysicalMotionMachine {}).trace steadySamples := rfl
  refine (stationary_needs_slow_evidence {} _ ?_ ?_ split).1
    ⟨by decide, by decide⟩
  · exact List.forall_mem_cons.mpr ⟨quiet _ _, List.forall_mem_cons.mpr ⟨quiet _ _,
      List.forall_mem_cons.mpr ⟨quiet _ _, List.forall_mem_cons.mpr ⟨quiet _ _,
        List.forall_mem_cons.mpr ⟨quiet _ _, by simp [Machine.trace]⟩⟩⟩⟩⟩
  -- The first two samples find no candidate, and the other ones a sample in the same place.
  · refine List.forall_mem_cons.mpr ⟨⟨fun _ _ _ _ => by decide,
      fun held => absurd held (by decide)⟩, ?_⟩
    refine List.forall_mem_cons.mpr ⟨⟨fun _ _ _ _ => by decide,
      fun held => absurd held (by decide)⟩, ?_⟩
    refine List.forall_mem_cons.mpr ⟨⟨fun _ _ _ _ => by decide,
      fun held => absurd held (by decide)⟩, ?_⟩
    refine List.forall_mem_cons.mpr ⟨⟨fun settles => absurd settles (by decide),
      fun held => absurd held (by decide)⟩, ?_⟩
    exact List.forall_mem_cons.mpr ⟨⟨fun settles => absurd settles (by decide),
      fun held => absurd held (by decide)⟩, by simp [Machine.trace]⟩

def uncertainSamples : List CargoPhysicalMotionInput :=
  [seenInPlace 1.4, seenInPlace 1.1, seenInPlace 1.0]

/-- Half a second with a sample that was not accepted makes the cargo stationary as well. -/
theorem stationary_through_uncertain_sample :
    ¬∀ (config : CargoPhysicalMotionConfig) (calls : List CargoPhysicalMotionInput),
      config.valid = true →
      (∀ event ∈ (cargoPhysicalMotionMachine config).trace calls, WithoutController event) →
      ∀ newer event older,
        (cargoPhysicalMotionMachine config).trace calls = newer ++ event :: older →
        BecomesStationary event →
        ContinuouslyShown Slow config.enterStationaryConfirmSec older event := by
  intro shown
  have quiet : ∀ before stampSec, WithoutController ⟨before, seenInPlace stampSec⟩ :=
    fun _ _ both => Bool.noConfusion both.1
  -- The sample before the last one would have to be evidence, but it was not accepted.
  have refused : ¬Slow ⟨(cargoPhysicalMotionMachine {}).run uncertainSamples.tail,
      seenInPlace 1.4⟩ := by
    rintro ⟨sampled, accepted, -⟩
    have doubtful : (((cargoPhysicalMotionMachine {}).run uncertainSamples.tail).measure
      (seenInPlace 1.4)).toBool = false := by decide
    dsimp only at accepted
    rw [accepted] at doubtful
    cases doubtful
  obtain ⟨count, opening, chain, lasts⟩ := shown {} (seenInPlace 1.6 :: uncertainSamples)
    (by decide)
    (List.forall_mem_cons.mpr ⟨quiet _ _, List.forall_mem_cons.mpr ⟨quiet _ _,
      List.forall_mem_cons.mpr ⟨quiet _ _, List.forall_mem_cons.mpr
        ⟨quiet _ _, by simp [Machine.trace]⟩⟩⟩⟩)
    [] _ _ rfl ⟨by decide, by decide⟩
  cases chain with
  | first => exact absurd lasts (by decide)
  | next earlier =>
    cases earlier with
    | first counts => exact refused counts
    | next _ counts => exact refused counts
    | idle _ ignored => exact ignored trivial
  | idle _ ignored => exact ignored trivial

end Samples
end NdtSlam
