import NdtSlam.Obstacle.Maturity

/-! What lies behind a confirmed hazard: the observations of its track over the past cycles. -/

namespace NdtSlam.CargoObstacleTracker

abbrev TrackerEvent := Event CargoObstacleTracker TrackerCall

def Idle (event : TrackerEvent) : Prop :=
  event.before.callInvalid event.call.stampSec = true ∨
    event.before.stampRepeated event.call.stampSec = true

def begun (event : TrackerEvent) : CargoObstacleTracker :=
  event.before.beginCycle event.call.stampSec

section Predicates

variable [EuclideanNorm]

def frame (event : TrackerEvent) : List (CargoObstacleObservation × AssociationOutcome) :=
  (begun event).cycleOutcomes event.call.stampSec event.call.observations

/-- The observation and the track of the id are the only good choice for each other. -/
structure Matches (event : TrackerEvent) (id : Nat) (observation : CargoObstacleObservation) :
    Prop where
  active : ¬Idle event
  reciprocal : ∃ pair track, (observation, .reciprocal pair) ∈ frame event ∧
    (begun event).tracks[pair.trackIndex]? = some track ∧ track.trackId = id

structure Begins (event : TrackerEvent) (id : Nat) (observation : CargoObstacleObservation) :
    Prop where
  active : ¬Idle event
  unowned : ∃ before after, frame event = before ++ (observation, .unowned) :: after ∧
    id = (begun event).nextTrackId + before.countP fun item => isUnowned item.2

def Observes (event : TrackerEvent) (id : Nat) (observation : CargoObstacleObservation) : Prop :=
  Matches event id observation ∨ Begins event id observation

def ValidatedBy (id : Nat) (authority : TemporalEvidenceAuthority) (event : TrackerEvent) : Prop :=
  ∃ observation, Observes event id observation ∧ observation.sourceValidated = true ∧
    sameTemporalEvidenceAuthority observation.poseAuthority authority = true

variable (config : CargoObstacleTrackerConfig)

def FarBy (id : Nat) (authority : TemporalEvidenceAuthority) (event : TrackerEvent) : Prop :=
  ∃ observation, Observes event id observation ∧ observation.sourceValidated = true ∧
    sameTemporalEvidenceAuthority observation.poseAuthority authority = true ∧
    config.level2WarningDistanceM <
      observation.footprintDistanceM - observation.horizontalUncertaintyM

def Follows (earlier later : TrackerEvent) : Prop := earlier.call.stampSec < later.call.stampSec

def Carries (id : Nat) (authority : TemporalEvidenceAuthority) (event : TrackerEvent) : Prop :=
  Idle event ∨ ∃ track ∈ (begun event).tracks, track.trackId = id ∧
    sameTemporalEvidenceAuthority track.poseAuthority authority = true

abbrev ValidatedRun (id : Nat) (authority : TemporalEvidenceAuthority) :=
  EvidenceChain (ValidatedBy id authority) Idle Follows

abbrev FarRun (id : Nat) (authority : TemporalEvidenceAuthority) :=
  EvidenceChain (FarBy config id authority) Idle Follows

def FarHistory (tolerance : Scalar) (config : CargoObstacleTrackerConfig) (id : Nat)
    (authority : TemporalEvidenceAuthority) (past : List TrackerEvent) : Prop :=
  ∃ newer older count opening last, past = newer ++ older ∧
    FarRun config id authority count opening last older ∧
    config.farHistoryConfirmFrames ≤ (count : Int) ∧
    config.farHistoryConfirmDurationSec ≤
      last.call.stampSec - opening.call.stampSec + tolerance ∧
    ∀ event ∈ newer, Carries id authority event

/-- What stands behind a confirmed hazard of the event. -/
def ConfirmedSoundly (tolerance : Scalar) (config : CargoObstacleTrackerConfig)
    (past : List TrackerEvent) (event : TrackerEvent) (decision : CargoObstacleTrackerDecision) :
    Prop :=
  ∃ observation, Matches event decision.selectedTrackId observation ∧
    observation.sourceValidated = true ∧ observation.warningEligible = true ∧
    (∃ (count : Nat) (opening : TrackerEvent), config.confirmFrames ≤ (count : Int) ∧
      ValidatedRun decision.selectedTrackId observation.poseAuthority count opening event
        (event :: past)) ∧
    (config.requireFarFieldHistoryForWarnings = true →
      decision.selectedCertifiedStaticProvenance = false →
      FarHistory tolerance config decision.selectedTrackId observation.poseAuthority past)

structure Grown (config : CargoObstacleTrackerConfig) (past : List TrackerEvent)
    (state : CargoObstacleTracker) (grown : Maturity) : Prop where
  named : grown.trackId < state.nextTrackId
  seen : grown.lastCycle ≤ state.cycle
  clock : grown.lastCycle = state.cycle → grown.lastStampSec = state.lastStampSec
  validated : grown.lastCycle = state.cycle → grown.poseAuthority.valid = true →
    0 < grown.validated → ∃ opening last, last.call.stampSec = grown.lastStampSec ∧
      ValidatedRun grown.trackId grown.poseAuthority grown.validated opening last past
  far : grown.farValid = false → grown.lastCycle = state.cycle →
    grown.poseAuthority.valid = true → 0 < grown.farCount →
    ∃ opening last, opening.call.stampSec = grown.farFirstStampSec ∧
      last.call.stampSec = grown.lastStampSec ∧
      FarRun config grown.trackId grown.poseAuthority grown.farCount opening last past
  history : grown.farValid = true → grown.poseAuthority.valid = true ∧
    FarHistory stampEpsilonSec config grown.trackId grown.poseAuthority past

structure Tracked (config : CargoObstacleTrackerConfig) (past : List TrackerEvent)
    (state : CargoObstacleTracker) : Prop where
  configured : state.config = config
  stamped : state.tracks ≠ [] → state.hasStamp = true
  finite : state.hasStamp = true → state.lastStampSec.isFinite = true
  grown : ∀ track ∈ state.tracks, Grown config past state (maturity track)

end Predicates

section Facts

variable {config : CargoObstacleTrackerConfig} {event : TrackerEvent}
  {observation : CargoObstacleObservation}

theorem active_usable (active : ¬Idle event) :
    (validateCargoObstacleTrackerConfig event.before.config).valid = true ∧
      event.call.stampSec.isFinite = true := by
  -- The call is neither invalid nor repeated, and only the first matters here.
  have usable : event.before.callInvalid event.call.stampSec = false := by
    by_contra invalid
    exact active (.inl (by simpa using invalid))
  -- Validity is a conjunction of three tests of the call.
  simp only [callInvalid, Bool.or_eq_false_iff, Bool.not_eq_false'] at usable
  exact usable.1

theorem frames_at_least_two (valid : (validateCargoObstacleTrackerConfig config).valid = true) :
    2 ≤ config.confirmFrames ∧ 2 ≤ config.farHistoryConfirmFrames := by
  -- Both numbers of frames have a check of their own.
  have passes := (ConfigCheck.validate_valid config.checks).mp valid
  have confirm := passes _ List.mem_cons_self
  have far := passes (.failsWhen "far_history_confirm_frames" "must_be_at_least_2"
    (config.farHistoryConfirmFrames < 2)) (by simp [CargoObstacleTrackerConfig.checks])
  have enough := ConfigCheck.failsWhen_passes confirm
  have enoughFar := ConfigCheck.failsWhen_passes far
  rw [decide_eq_false_iff_not, not_lt] at enough enoughFar
  exact ⟨enough, enoughFar⟩

theorem qualifies_distant (qualifies : qualifiesForFarHistory observation config = true) :
    observation.sourceValidated = true ∧ config.level2WarningDistanceM <
      observation.footprintDistanceM - observation.horizontalUncertaintyM := by
  unfold qualifiesForFarHistory at qualifies
  -- The guard of the source excludes unvalidated and unmeasured observations.
  split_ifs at qualifies with unusable
  simp only [Bool.or_eq_true, not_or, Bool.not_eq_true', Bool.not_eq_false] at unusable
  simp only [Bool.and_eq_true, decide_eq_true_eq] at qualifies
  exact ⟨unusable.1.1.1, qualifies.1⟩

end Facts

section Authorities

variable [EuclideanNorm] {config : CargoObstacleTrackerConfig} {id : Nat}
  {authority other : TemporalEvidenceAuthority} {past : List TrackerEvent}
  {count : Nat} {opening last : TrackerEvent}

section

variable (agree : sameTemporalEvidenceAuthority other authority = true)
include agree

theorem validatedRun_transfer (run : ValidatedRun id authority count opening last past) :
    ValidatedRun id other count opening last past := by
  -- Only the observations behind the events change their authority.
  refine run.weaken ?_ (fun _ idle => idle) (fun _ _ _ _ followed => followed)
  intro event validated
  obtain ⟨observation, observes, valid, same⟩ := validated
  exact ⟨observation, observes, valid, sameTemporalEvidenceAuthority_transfer agree same⟩

theorem farRun_transfer (run : FarRun config id authority count opening last past) :
    FarRun config id other count opening last past := by
  -- Only the observations behind the events change their authority.
  refine run.weaken ?_ (fun _ idle => idle) (fun _ _ _ _ followed => followed)
  intro event far
  obtain ⟨observation, observes, valid, same, distant⟩ := far
  exact ⟨observation, observes, valid, sameTemporalEvidenceAuthority_transfer agree same, distant⟩

theorem farHistory_transfer {tolerance : Scalar}
    (history : FarHistory tolerance config id authority past) :
    FarHistory tolerance config id other past := by
  obtain ⟨newer, older, count, opening, last, split, run, enough, long, carried⟩ := history
  refine ⟨newer, older, count, opening, last, split, farRun_transfer agree run, enough, long, ?_⟩
  -- The events since the far run carry the track on under the other authority too.
  intro event member
  rcases carried event member with idle | ⟨track, among, named, same⟩
  · exact .inl idle
  · exact .inr ⟨track, among, named, sameTemporalEvidenceAuthority_transfer agree same⟩

end

theorem farHistory_carried {tolerance : Scalar} {event : TrackerEvent}
    (carries : Carries id authority event)
    (history : FarHistory tolerance config id authority past) :
    FarHistory tolerance config id authority (event :: past) := by
  obtain ⟨newer, older, count, opening, last, split, run, enough, long, carried⟩ := history
  -- The new event joins those since the far run.
  refine ⟨event :: newer, older, count, opening, last, by rw [split]; rfl, run, enough, long, ?_⟩
  intro later member
  rcases List.mem_cons.mp member with rfl | member
  · exact carries
  · exact carried later member

end Authorities

section Advances

variable {config : CargoObstacleTrackerConfig} {stampSec : Scalar} {cycle : Nat}
  {observation : CargoObstacleObservation} {grown : Maturity}

theorem advance_trackId :
    (grown.advance config stampSec observation cycle).trackId = grown.trackId := by
  -- Neither the reset nor the counters touch the identity.
  have kept : (grown.kept observation).trackId = grown.trackId := by
    unfold Maturity.kept
    split_ifs
    all_goals rfl
  rw [← kept]
  unfold Maturity.advance Maturity.countFar
  dsimp only
  split_ifs
  all_goals rfl

theorem advance_streak : (grown.advance config stampSec observation cycle).validated =
    if observation.sourceValidated then
      if grown.follows config stampSec observation cycle then
        (grown.kept observation).validated + 1
      else 1
    else 0 := by
  -- Only the far counters depend on how the far history stands.
  unfold Maturity.advance Maturity.countFar
  dsimp only
  split_ifs
  all_goals simp_all [Maturity.countValidated]

theorem advance_near (incomplete : (grown.kept observation).farValid = false)
    (near : qualifiesForFarHistory observation config = false) :
    (grown.advance config stampSec observation cycle).farCount = 0 ∧
      (grown.advance config stampSec observation cycle).farValid = false := by
  -- The far counters restart from nothing.
  simp [Maturity.advance, Maturity.countFar, Maturity.countValidated, incomplete, near]

theorem advance_complete (complete : (grown.kept observation).farValid = true) :
    (grown.advance config stampSec observation cycle).farValid = true := by
  simp [Maturity.advance, Maturity.countFar, Maturity.countValidated, complete]

theorem kept_complete (complete : (grown.kept observation).farValid = true) :
    grown.farValid = true ∧
      sameTemporalEvidenceAuthority observation.poseAuthority grown.poseAuthority = true := by
  -- A reset would have cleared the flag.
  unfold Maturity.kept at complete
  split_ifs at complete with same
  exact ⟨complete, same⟩

theorem advance_authorized (frames : 2 ≤ config.farHistoryConfirmFrames)
    (incomplete : (grown.kept observation).farValid = false)
    (complete : (grown.advance config stampSec observation cycle).farValid = true) :
    observation.poseAuthority.valid = true := by
  by_contra unauthorized
  -- Without an authority the observation follows nothing, so that it is a first one.
  have follows : grown.follows config stampSec observation cycle = false := by
    have other : grown.same observation = false := by
      by_contra same
      rw [Bool.not_eq_false] at same
      exact unauthorized (sameTemporalEvidenceAuthority_iff.1 same).1
    simp [Maturity.follows, other]
  by_cases qualifies : qualifiesForFarHistory observation config = true
  · -- A first far observation counts one, which is too few.
    have short : config.farHistoryConfirmFrames ≤ 1 := by
      simp [Maturity.advance, Maturity.countFar, Maturity.countValidated, incomplete, qualifies,
        follows] at complete
      exact complete.1
    omega
  · have near := (@advance_near config stampSec cycle observation grown incomplete
      (by simpa using qualifies)).2
    rw [near] at complete
    cases complete

end Advances

section Steps

variable [EuclideanNorm] {config : CargoObstacleTrackerConfig} {past : List TrackerEvent}
  {state after : CargoObstacleTracker} {grown : Maturity} {event : TrackerEvent}
  {observation : CargoObstacleObservation}

theorem Grown.idle (supported : Grown config past state grown) (idle : Idle event) :
    Grown config (event :: past) state grown where
  named := supported.named
  seen := supported.seen
  clock := supported.clock
  validated := by
    intro current authorized positive
    obtain ⟨opening, last, stamp, run⟩ := supported.validated current authorized positive
    exact ⟨opening, last, stamp, .idle run idle⟩
  far := by
    intro incomplete current authorized positive
    obtain ⟨opening, last, first, stamp, run⟩ :=
      supported.far incomplete current authorized positive
    exact ⟨opening, last, first, stamp, .idle run idle⟩
  history := by
    intro complete
    obtain ⟨authorized, history⟩ := supported.history complete
    exact ⟨authorized, farHistory_carried (.inl idle) history⟩

theorem Grown.carried (supported : Grown config past state grown)
    (cycle : after.cycle = state.cycle + 1) (next : state.nextTrackId ≤ after.nextTrackId)
    (survives : ∃ track ∈ (begun event).tracks, maturity track = grown) :
    Grown config (event :: past) after grown := by
  -- The last observation of the track is now a missed cycle ago.
  have behind : grown.lastCycle ≠ after.cycle := by
    have seen := supported.seen
    omega
  exact {
    named := lt_of_lt_of_le supported.named next
    seen := by
      have seen := supported.seen
      omega
    clock := fun current => absurd current behind
    validated := fun current => absurd current behind
    far := fun _ current => absurd current behind
    history := by
      -- The track is among those of the cycle, so that it lives on through it.
      intro complete
      obtain ⟨authorized, history⟩ := supported.history complete
      obtain ⟨track, member, rfl⟩ := survives
      have itself := sameTemporalEvidenceAuthority_self authorized
      exact ⟨authorized, farHistory_carried (.inr ⟨track, member, rfl, itself⟩) history⟩ }

theorem farRun_span {id count : Nat} {authority : TemporalEvidenceAuthority}
    {opening last : TrackerEvent}
    (run : FarRun config id authority count opening last past) :
    Scalar.maxOf 0 (last.call.stampSec - opening.call.stampSec) =
      last.call.stampSec - opening.call.stampSec := by
  -- Later stamps of later stamps are later stamps.
  have transitive : ∀ first second third : TrackerEvent, Follows first second →
      Follows second third → Follows first third := by
    intro first second third earlier later
    exact Scalar.lt_of_le_of_lt (Scalar.le_of_lt earlier) later
  obtain ⟨counted, order⟩ := run.spans transitive
  -- Both stamps are numbers, since both events are counted.
  have finite : ∀ event : TrackerEvent, FarBy config id authority event →
      event.call.stampSec.isFinite = true := by
    intro event far
    obtain ⟨observation, observes, _⟩ := far
    rcases observes with matching | beginning
    · exact (active_usable matching.active).2
    · exact (active_usable beginning.active).2
  obtain ⟨first, firstValue⟩ := Scalar.isFinite_iff.1 (finite opening counted)
  obtain ⟨final, finalValue⟩ := Scalar.isFinite_iff.1 (finite last run.last_counted)
  have ordered : first ≤ final := by
    rcases order with same | followed
    · rw [same, finalValue] at firstValue
      cases firstValue
      exact le_rfl
    · unfold Follows at followed
      rw [firstValue, finalValue, Scalar.fin_lt_fin] at followed
      exact followed.le
  rw [firstValue, finalValue, Scalar.fin_sub_fin]
  unfold Scalar.maxOf
  split_ifs with positive
  · rfl
  · -- A span that is not positive is zero.
    have none_ : final - first = 0 := by
      have nonpositive : ¬(0 : ℚ) < final - first := fun longer =>
        positive (Scalar.fin_lt_fin.2 longer)
      linarith
    rw [none_]
    rfl

theorem advance_validated (supported : Grown config past state grown)
    (observes : Observes event grown.trackId observation)
    (cycle : after.cycle = state.cycle + 1) (later : state.lastStampSec < event.call.stampSec)
    (authorized : observation.poseAuthority.valid = true)
    (validated : observation.sourceValidated = true) :
    ∃ opening, ValidatedRun grown.trackId observation.poseAuthority
      (grown.advance config event.call.stampSec observation after.cycle).validated opening event
      (event :: past) := by
  -- The event counts by the observation itself.
  have counted : ValidatedBy grown.trackId observation.poseAuthority event :=
    ⟨observation, observes, validated, sameTemporalEvidenceAuthority_self authorized⟩
  rw [advance_streak, if_pos validated]
  -- Either the streak goes on, or the observation is the first one of a streak.
  by_cases following : grown.follows config event.call.stampSec observation after.cycle = true
  · simp only [Maturity.follows, Bool.and_eq_true, beq_iff_eq] at following
    obtain ⟨⟨same, last⟩, gap⟩ := following
    have kept : grown.kept observation = grown := if_pos same
    have agree : sameTemporalEvidenceAuthority observation.poseAuthority grown.poseAuthority =
        true := same
    rw [if_pos (by simp [Maturity.follows, same, last, gap]), kept]
    rcases Nat.eq_zero_or_pos grown.validated with none_ | positive
    · -- The first validated observation of a track that was already followed.
      rw [none_]
      exact ⟨event, .first counted past⟩
    · -- A track with a streak was observed in the cycle right before this one.
      have current : grown.lastCycle = state.cycle := by omega
      have valid := (sameTemporalEvidenceAuthority_iff.1 agree).2.1
      obtain ⟨opening, earlier, stamp, run⟩ := supported.validated current valid positive
      refine ⟨opening, .next (validatedRun_transfer agree run) counted ?_⟩
      unfold Follows
      rw [stamp, supported.clock current]
      exact later
  · rw [if_neg following]
    exact ⟨event, .first counted past⟩

theorem advance_far (supported : Grown config past state grown)
    (observes : Observes event grown.trackId observation)
    (cycle : after.cycle = state.cycle + 1) (later : state.lastStampSec < event.call.stampSec)
    (authorized : observation.poseAuthority.valid = true)
    (incomplete : (grown.kept observation).farValid = false)
    (qualifies : qualifiesForFarHistory observation config = true) :
    ∃ opening, opening.call.stampSec = (grown.advance config event.call.stampSec observation
        after.cycle).farFirstStampSec ∧
      FarRun config grown.trackId observation.poseAuthority
        (grown.advance config event.call.stampSec observation after.cycle).farCount opening event
        (event :: past) ∧
      ((grown.advance config event.call.stampSec observation after.cycle).farValid = true →
        config.farHistoryConfirmFrames ≤ ((grown.advance config event.call.stampSec observation
            after.cycle).farCount : Int) ∧
          config.farHistoryConfirmDurationSec ≤ Scalar.maxOf 0 (event.call.stampSec -
            opening.call.stampSec) + stampEpsilonSec) := by
  obtain ⟨validated, distant⟩ := qualifies_distant qualifies
  -- The event counts by the observation itself.
  have counted : FarBy config grown.trackId observation.poseAuthority event :=
    ⟨observation, observes, validated, sameTemporalEvidenceAuthority_self authorized, distant⟩
  by_cases prolongs : grown.follows config event.call.stampSec observation after.cycle = true ∧
      (grown.kept observation).farCount ≠ 0
  · -- The far run of the track is prolonged by the observation.
    obtain ⟨following, running⟩ := prolongs
    have follows := following
    simp only [Maturity.follows, Bool.and_eq_true, beq_iff_eq] at follows
    obtain ⟨⟨same, last⟩, _⟩ := follows
    have kept : grown.kept observation = grown := if_pos same
    have agree : sameTemporalEvidenceAuthority observation.poseAuthority grown.poseAuthority =
        true := same
    rw [kept] at incomplete running
    have current : grown.lastCycle = state.cycle := by omega
    obtain ⟨opening, earlier, first, stamp, run⟩ := supported.far incomplete current
      (sameTemporalEvidenceAuthority_iff.1 agree).2.1 (Nat.pos_of_ne_zero running)
    have advanced : grown.advance config event.call.stampSec observation after.cycle =
        { grown.countValidated observation true with
          farCount := grown.farCount + 1
          farValid :=
            config.farHistoryConfirmFrames ≤ (grown.farCount + 1 : Nat) &&
              config.farHistoryConfirmDurationSec ≤ Scalar.maxOf 0 (event.call.stampSec -
                grown.farFirstStampSec) + stampEpsilonSec
          lastStampSec := event.call.stampSec
          lastCycle := after.cycle
          poseAuthority := observation.poseAuthority } := by
      simp [Maturity.advance, Maturity.countFar, following, kept, Maturity.countValidated,
        incomplete, qualifies, running]
    rw [advanced]
    refine ⟨opening, first, .next (farRun_transfer agree run) counted ?_, ?_⟩
    · unfold Follows
      rw [stamp, supported.clock current]
      exact later
    · intro complete
      simp only [Bool.and_eq_true, decide_eq_true_eq] at complete
      rw [first]
      exact complete
  · -- The observation is the first one of a far run.
    have restarts : (!grown.follows config event.call.stampSec observation after.cycle ||
        (grown.kept observation).farCount == 0) = true := by
      by_contra continues
      simp only [Bool.or_eq_true, not_or, Bool.not_eq_true', Bool.not_eq_false, beq_iff_eq]
        at continues
      exact prolongs ⟨continues.1, continues.2⟩
    have started : (grown.kept observation).countValidated observation
        (grown.follows config event.call.stampSec observation after.cycle) =
          { grown.kept observation with
            validated := ((grown.kept observation).countValidated observation
              (grown.follows config event.call.stampSec observation after.cycle)).validated } := rfl
    have advanced : grown.advance config event.call.stampSec observation after.cycle =
        { (grown.kept observation).countValidated observation
            (grown.follows config event.call.stampSec observation after.cycle) with
          farCount := 1
          farFirstStampSec := event.call.stampSec
          farValid :=
            config.farHistoryConfirmFrames ≤ (1 : Nat) &&
              config.farHistoryConfirmDurationSec ≤ Scalar.maxOf 0 (event.call.stampSec -
                event.call.stampSec) + stampEpsilonSec
          lastStampSec := event.call.stampSec
          lastCycle := after.cycle
          poseAuthority := observation.poseAuthority } := by
      simp only [Maturity.advance, Maturity.countFar, Maturity.countValidated, incomplete,
        qualifies, restarts, Bool.false_eq_true, if_false, if_true]
    rw [advanced]
    refine ⟨event, rfl, .first counted past, ?_⟩
    intro complete
    simpa using complete

theorem Grown.advance (supported : Grown config past state grown)
    (observes : Observes event grown.trackId observation)
    (survives : ∃ track ∈ (begun event).tracks, maturity track = grown)
    (frames : 2 ≤ config.farHistoryConfirmFrames)
    (cycle : after.cycle = state.cycle + 1) (stamp : after.lastStampSec = event.call.stampSec)
    (next : state.nextTrackId ≤ after.nextTrackId)
    (later : state.lastStampSec < event.call.stampSec) :
    Grown config (event :: past) after
      (grown.advance config event.call.stampSec observation after.cycle) := by
  -- The identity, the cycle and the stamp are those of the event.
  have named := @advance_trackId config event.call.stampSec after.cycle observation grown
  exact {
    named := by
      rw [named]
      exact lt_of_lt_of_le supported.named next
    seen := le_rfl
    clock := fun _ => stamp.symm
    validated := by
      intro _ authorized positive
      have validated : observation.sourceValidated = true := by
        by_contra unvalidated
        rw [advance_streak, if_neg unvalidated] at positive
        exact absurd positive (lt_irrefl 0)
      obtain ⟨opening, run⟩ :=
        advance_validated supported observes cycle later authorized validated
      rw [named]
      exact ⟨opening, event, rfl, run⟩
    far := by
      intro incomplete _ authorized positive
      -- A history that was kept complete would still be complete.
      have keptIncomplete : (grown.kept observation).farValid = false := by
        by_contra complete
        rw [advance_complete (by simpa using complete)] at incomplete
        cases incomplete
      have qualifies : qualifiesForFarHistory observation config = true := by
        by_contra near
        rw [(advance_near keptIncomplete (by simpa using near)).1] at positive
        exact absurd positive (lt_irrefl 0)
      obtain ⟨opening, first, run, _⟩ :=
        advance_far supported observes cycle later authorized keptIncomplete qualifies
      rw [named]
      exact ⟨opening, event, first, rfl, run⟩
    history := by
      intro complete
      rw [named]
      cases keptComplete : (grown.kept observation).farValid with
      | true =>
        -- The history was complete before, and the track has lived on.
        obtain ⟨before, agree⟩ := kept_complete keptComplete
        obtain ⟨_, history⟩ := supported.history before
        obtain ⟨track, member, rfl⟩ := survives
        have carries : Carries (maturity track).trackId observation.poseAuthority event :=
          .inr ⟨track, member, rfl, sameTemporalEvidenceAuthority_symm agree⟩
        exact ⟨(sameTemporalEvidenceAuthority_iff.1 agree).1,
          farHistory_carried carries (farHistory_transfer agree history)⟩
      | false =>
        -- The history is completed just now, by the far run that ends in the event.
        have authorized := advance_authorized frames keptComplete complete
        have qualifies : qualifiesForFarHistory observation config = true := by
          by_contra near
          rw [(advance_near keptComplete (by simpa using near)).2] at complete
          cases complete
        -- The run ends in the event itself, so that no event lies in between.
        obtain ⟨opening, _, run, completed⟩ :=
          advance_far supported observes cycle later authorized keptComplete qualifies
        obtain ⟨enough, long⟩ := completed complete
        rw [farRun_span run] at long
        exact ⟨authorized, [], event :: past, _, opening, event, rfl, run, enough, long,
          by simp⟩ }

end Steps

end NdtSlam.CargoObstacleTracker
