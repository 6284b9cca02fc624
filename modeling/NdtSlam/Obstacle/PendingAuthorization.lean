import NdtSlam.Obstacle.PendingStaticHazard

/-! Over every run, an authorized static hazard is backed by a chain of confirmations. -/

namespace NdtSlam.PendingStaticHazardTracker

abbrev HazardEvent := Event PendingStaticHazardTracker PendingStaticHazardObservation

def Accepted (self : PendingStaticHazardTracker) (observation : PendingStaticHazardObservation) :
    Prop :=
  self.inputInvalid observation = false ∧ evidenceValid observation = true

def Repeats (event : HazardEvent) : Prop :=
  Accepted event.before event.call ∧
    (event.before.rollBack event.call).repeatsStamp event.call = true

def Counts (event : HazardEvent) : Prop :=
  Accepted event.before event.call ∧
    (event.before.rollBack event.call).repeatsStamp event.call = false

structure Agrees (observation : PendingStaticHazardObservation) (event : HazardEvent) : Prop where
  lifecycle : event.call.cargoLifecycleId = observation.cargoLifecycleId
  generation : event.call.mapGeneration = observation.mapGeneration
  authority : sameTemporalEvidenceAuthority event.call.poseAuthority observation.poseAuthority =
    true

structure Continues (config : PendingStaticHazardTrackerConfig) (earlier later : HazardEvent) :
    Prop where
  advances : earlier.call.stampSec < later.call.stampSec
  gap : later.call.stampSec - earlier.call.stampSec ≤
    config.maximumObservationGapSec + stampEpsilonSec
  overlap : config.minimumCellOverlap ≤ cellOverlap (normalizeCells later.call.matchedCellKeys)
    (normalizeCells earlier.call.matchedCellKeys)

abbrev Confirmations (config : PendingStaticHazardTrackerConfig)
    (observation : PendingStaticHazardObservation) :=
  EvidenceChain (fun event => Counts event ∧ Agrees observation event) Repeats (Continues config)

def regionId (observation : PendingStaticHazardObservation) : BitVec 32 :=
  makeStaticObstacleId observation.mapGeneration (normalizeCells observation.matchedCellKeys)

structure Region (config : PendingStaticHazardTrackerConfig) (past : List HazardEvent)
    (state : PendingStaticHazardTracker) : Prop where
  configured : state.config = config
  backed : state.active = true → ∃ opening last,
    state.obstacleId = regionId opening.call ∧
    state.lastStampSec = last.call.stampSec ∧
    state.cargoLifecycleId = last.call.cargoLifecycleId ∧
    state.mapGeneration = last.call.mapGeneration ∧
    state.poseAuthority = last.call.poseAuthority ∧
    state.matchedCellKeys = normalizeCells last.call.matchedCellKeys ∧
    Confirmations config last.call state.confirmations opening last past

variable {config : PendingStaticHazardTrackerConfig} {self : PendingStaticHazardTracker}
  {observation other : PendingStaticHazardObservation} {past : List HazardEvent}
  {event : HazardEvent}

theorem Agrees.trans {before : PendingStaticHazardTracker} (agrees : Agrees other event)
    (follows : Agrees observation ⟨before, other⟩) : Agrees observation event where
  lifecycle := agrees.lifecycle.trans follows.lifecycle
  generation := agrees.generation.trans follows.generation
  authority := sameTemporalEvidenceAuthority_trans agrees.authority follows.authority

theorem Accepted.agrees (accepted : Accepted self observation) :
    Agrees observation ⟨self, observation⟩ := by
  have valid : observation.poseAuthority.valid = true := by
    have checked := accepted.2
    simp only [evidenceValid, Bool.and_eq_true] at checked
    exact checked.2
  exact ⟨rfl, rfl, sameTemporalEvidenceAuthority_iff.2 ⟨valid, valid, rfl⟩⟩

theorem Accepted.finite (accepted : Accepted self observation) :
    observation.stampSec.isFinite = true := by
  have usable := accepted.1
  simp only [inputInvalid, Bool.or_eq_false_iff, Bool.not_eq_false'] at usable
  exact usable.1.2

theorem Region.rollBack (region : Region config past self) :
    Region config past (self.rollBack observation) := by
  unfold PendingStaticHazardTracker.rollBack
  split_ifs
  · exact ⟨region.configured, fun active => nomatch active⟩
  · exact region

theorem Region.context (region : Region config past self)
    (context : self.sameContext observation = true) (before : PendingStaticHazardTracker) :
    ∃ opening last, self.obstacleId = regionId opening.call ∧
      self.lastStampSec = last.call.stampSec ∧
      Confirmations config observation self.confirmations opening last past ∧
      (observation.stampSec.isFinite = true → self.repeatsStamp observation = false →
        Continues config last ⟨before, observation⟩) := by
  have facts := context
  simp only [sameContext, Bool.and_eq_true, beq_iff_eq, decide_eq_true_eq] at facts
  obtain ⟨⟨⟨⟨⟨active, lifecycle⟩, generation⟩, authority⟩, gap⟩, overlap⟩ := facts
  obtain ⟨opening, last, id, stamp, lifecycle', generation', authority', cells, chain⟩ :=
    region.backed active
  rw [stamp, region.configured] at gap
  rw [region.configured, regionOverlap, if_pos active, cells] at overlap
  -- The chain agrees with the last observation, which agrees with the new one.
  have follows : Agrees observation ⟨last.before, last.call⟩ := by
    refine ⟨(lifecycle.trans lifecycle').symm, (generation.trans generation').symm, ?_⟩
    rw [authority'] at authority
    exact sameTemporalEvidenceAuthority_symm authority
  refine ⟨opening, last, id, stamp, chain.weaken (fun event counted =>
    ⟨counted.1, counted.2.trans follows⟩) (fun _ repeats => repeats)
    (fun _ _ _ _ continues => continues), fun finite advances => ⟨?_, gap, overlap⟩⟩
  -- A stamp that repeats nothing lies after the last one by more than the tolerance.
  simp only [repeatsStamp, context, Bool.true_and, decide_eq_false_iff_not] at advances
  obtain ⟨newest, newestEq⟩ := Scalar.isFinite_iff.1 chain.last_counted.1.1.finite
  obtain ⟨now, nowEq⟩ := Scalar.isFinite_iff.1 finite
  have epsilon : stampEpsilonSec = .fin (1 / 10000) := by
    show Scalar.fin (OfScientific.ofScientific 10 true 5) = _
    norm_num
  show last.call.stampSec < observation.stampSec
  rw [stamp, newestEq, nowEq, epsilon, Scalar.fin_add_fin, Scalar.fin_le_fin, not_le] at advances
  rw [newestEq, nowEq, Scalar.fin_lt_fin]
  linarith

theorem Region.confirm (region : Region config past (self.rollBack observation))
    (counts : Counts ⟨self, observation⟩) : ∃ opening,
      ((self.rollBack observation).confirm observation).obstacleId = regionId opening.call ∧
      Confirmations config observation
        ((self.rollBack observation).confirm observation).confirmations opening
        ⟨self, observation⟩ (⟨self, observation⟩ :: past) := by
  have agrees := counts.1.agrees
  unfold PendingStaticHazardTracker.confirm
  dsimp only
  by_cases context : (self.rollBack observation).sameContext observation = true
  · rw [if_pos context]
    obtain ⟨opening, last, id, _, chain, continues⟩ := region.context context self
    exact ⟨opening, id, .next chain ⟨counts, agrees⟩ (continues counts.1.finite counts.2)⟩
  · rw [if_neg context]
    exact ⟨⟨self, observation⟩, rfl, .first ⟨counts, agrees⟩ past⟩

theorem confirm_frame : (self.confirm observation).config = self.config ∧
    (self.confirm observation).active = true ∧
    (self.confirm observation).lastStampSec = observation.stampSec ∧
    (self.confirm observation).cargoLifecycleId = observation.cargoLifecycleId ∧
    (self.confirm observation).mapGeneration = observation.mapGeneration ∧
    (self.confirm observation).poseAuthority = observation.poseAuthority ∧
    (self.confirm observation).matchedCellKeys =
      normalizeCells observation.matchedCellKeys := by
  unfold PendingStaticHazardTracker.confirm
  dsimp only
  by_cases context : self.sameContext observation = true
  · rw [if_pos context]
    simp only [sameContext, Bool.and_eq_true, beq_iff_eq] at context
    obtain ⟨⟨⟨⟨⟨active, lifecycle⟩, generation⟩, _⟩, _⟩, _⟩ := context
    exact ⟨rfl, active, rfl, lifecycle.symm, generation.symm, rfl, rfl⟩
  · rw [if_neg context]
    exact ⟨rfl, rfl, rfl, rfl, rfl, rfl, rfl⟩

inductive Course (self : PendingStaticHazardTracker)
    (observation : PendingStaticHazardObservation) : Prop where
  | refused (after : (self.update observation).1 = self.reset)
      (denied : (self.update observation).2.authorized = false)
  | repeated (repeats : Repeats ⟨self, observation⟩) (overlap : Scalar) (pending : String)
      (update : self.update observation = (self.rollBack observation,
        (self.rollBack observation).answer observation overlap pending))
  | confirmed (counts : Counts ⟨self, observation⟩) (overlap : Scalar) (pending : String)
      (update : self.update observation = ((self.rollBack observation).confirm observation,
        ((self.rollBack observation).confirm observation).answer observation overlap pending))

theorem update_course (self : PendingStaticHazardTracker)
    (observation : PendingStaticHazardObservation) : Course self observation := by
  by_cases invalid : self.inputInvalid observation = true
  · refine .refused ?_ ?_
    · unfold update
      rw [if_pos invalid]
    · unfold update
      rw [if_pos invalid]
  · by_cases refused : (!evidenceValid observation) = true
    · refine .refused ?_ ?_
      · unfold update
        rw [if_neg invalid, if_pos refused]
      · unfold update
        rw [if_neg invalid, if_pos refused]
    · -- Both checks are passed, so that the observation is accepted.
      have accepted : Accepted self observation :=
        ⟨Bool.eq_false_iff.mpr invalid, by simpa using refused⟩
      by_cases repeats : (self.rollBack observation).repeatsStamp observation = true
      · refine .repeated ⟨accepted, repeats⟩ ((self.rollBack observation).regionOverlap observation)
          "repeated_static_hazard_stamp" ?_
        unfold update
        rw [if_neg invalid, if_neg refused]
        dsimp only
        rw [if_pos repeats]
      · refine .confirmed ⟨accepted, Bool.eq_false_iff.mpr repeats⟩
          ((self.rollBack observation).regionOverlap observation)
          "static_pending_hazard_confirmation_pending" ?_
        unfold update
        rw [if_neg invalid, if_neg refused]
        dsimp only
        rw [if_neg repeats]

theorem Region.step (region : Region config past self) :
    Region config (⟨self, observation⟩ :: past) (self.update observation).1 := by
  have current : Region config past (self.rollBack observation) := region.rollBack
  cases update_course self observation with
  | refused after denied =>
    rw [after]
    exact ⟨region.configured, fun active => nomatch active⟩
  | repeated repeats overlap pending update =>
    rw [update]
    refine ⟨current.configured, fun active => ?_⟩
    obtain ⟨opening, last, id, stamp, lifecycle, generation, authority, cells, chain⟩ :=
      current.backed active
    exact ⟨opening, last, id, stamp, lifecycle, generation, authority, cells,
      .idle chain repeats⟩
  | confirmed counts overlap pending update =>
    rw [update]
    obtain ⟨config', active, stamp, lifecycle, generation, authority, cells⟩ :=
      @confirm_frame (self.rollBack observation) observation
    obtain ⟨opening, id, chain⟩ := current.confirm counts
    exact ⟨config'.trans current.configured, fun _ => ⟨opening, ⟨self, observation⟩, id, stamp,
      lifecycle, generation, authority, cells, chain⟩⟩

theorem run_region (valid : validConfig config = true)
    (calls : List PendingStaticHazardObservation) :
    Region config ((machine config).trace calls) ((machine config).run calls) := by
  -- A new tracker has no region, and every observation keeps the invariant.
  refine (machine config).run_invariant ⟨?_, fun active => nomatch active⟩
    (fun past state observation region => region.step) calls
  show (if validConfig config then config else {}) = config
  rw [if_pos valid]

theorem update_cells {keys : List Int}
    (same : ∀ key, key ∈ keys ↔ key ∈ observation.matchedCellKeys) :
    self.update { observation with matchedCellKeys := keys } = self.update observation := by
  -- Nothing looks at the cells before they are in ascending order.
  have cells : normalizeCells keys = normalizeCells observation.matchedCellKeys :=
    ascending_congr same
  unfold update evidenceValid repeatsStamp sameContext PendingStaticHazardTracker.confirm
    sameContext regionOverlap
  dsimp only
  rw [cells]
  rfl

/-- An authorized static hazard is backed by enough accepted confirmations in a row. -/
theorem authorized_backed (valid : validConfig config = true)
    (calls : List PendingStaticHazardObservation) (observation : PendingStaticHazardObservation) :
    ((((machine config).run calls).update observation).2.authorized = true →
      Accepted ((machine config).run calls) observation ∧
        (((machine config).run calls).update observation).2.warningCode =
          observation.warningCode ∧
        ∃ (count : Nat) (opening last : HazardEvent),
          config.minimumConfirmations ≤ (count : Int) ∧
          Confirmations config observation count opening last
            ((machine config).trace (observation :: calls)) ∧
          (((machine config).run calls).update observation).2.obstacleId =
            regionId opening.call) ∧
      ∀ keys : List Int, (∀ key, key ∈ keys ↔ key ∈ observation.matchedCellKeys) →
        ((machine config).run calls).update { observation with matchedCellKeys := keys } =
          ((machine config).run calls).update observation := by
  refine ⟨fun authorized => ?_, fun keys same => update_cells same⟩
  have region := run_region valid calls
  show Accepted _ _ ∧ _ ∧ ∃ (count : Nat) (opening last : HazardEvent), _ ∧
    Confirmations config observation count opening last
      (⟨(machine config).run calls, observation⟩ :: (machine config).trace calls) ∧ _
  generalize (machine config).run calls = self at authorized region ⊢
  have current : Region config ((machine config).trace calls) (self.rollBack observation) :=
    region.rollBack
  cases update_course self observation with
  | refused after denied =>
    rw [denied] at authorized
    cases authorized
  | repeated repeats overlap pending update =>
    rw [update] at authorized ⊢
    have enough := of_decide_eq_true authorized
    rw [current.configured] at enough
    -- The repetition leaves the confirmations of its region as they are.
    have context : (self.rollBack observation).sameContext observation = true :=
      ((Bool.and_eq_true _ _).mp repeats.2).1
    obtain ⟨opening, last, id, _, chain, _⟩ := current.context context self
    exact ⟨repeats.1, rfl, _, opening, last, enough, .idle chain repeats, id⟩
  | confirmed counts overlap pending update =>
    rw [update] at authorized ⊢
    have enough := of_decide_eq_true authorized
    rw [confirm_frame.1, current.configured] at enough
    obtain ⟨opening, id, chain⟩ := current.confirm counts
    exact ⟨counts.1, rfl, _, opening, _, enough, chain, id⟩

def hazardAt (stampSec : Scalar) : PendingStaticHazardObservation where
  stampSec
  cargoLifecycleId := 7
  mapGeneration := 3
  authorityValid := true
  queryValid := true
  queryBounded := true
  hazard := true
  warningCode := near5m
  matchedCellKeys := [10, 11, 12, 13]
  poseAuthority := { valid := true }

theorem authorized_backed_third :
    ∃ (count : Nat) (opening last : HazardEvent), 3 ≤ (count : Int) ∧
      Confirmations {} (hazardAt 1.2) count opening last
        ((machine {}).trace [hazardAt 1.2, hazardAt 1.1, hazardAt 1]) ∧
      (((machine {}).run [hazardAt 1.1, hazardAt 1]).update (hazardAt 1.2)).2.obstacleId =
        regionId opening.call := by
  have authorized : (((machine {}).run [hazardAt 1.1, hazardAt 1]).update
      (hazardAt 1.2)).2.authorized = true := by
    with_unfolding_all decide
  exact ((authorized_backed (by with_unfolding_all decide) [hazardAt 1.1, hazardAt 1]
    (hazardAt 1.2)).1 authorized).2.2

end NdtSlam.PendingStaticHazardTracker
