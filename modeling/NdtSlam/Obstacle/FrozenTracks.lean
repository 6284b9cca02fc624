import NdtSlam.Foundation.Extrema
import NdtSlam.Obstacle.LosingObservations

/-! A doubt about the owner of an observation freezes every track that it concerns. -/

namespace NdtSlam.CargoObstacleTracker

section Writes

variable [EuclideanNorm] {config : CargoObstacleTrackerConfig} {stampSec : Scalar}
  {cycle index : Nat} {track : CargoObstacleTrack}
  {observed : CargoObstacleObservation × AssociationOutcome}
  {items : List (CargoObstacleObservation × AssociationOutcome)}

def authoritative (track : CargoObstacleTrack) : CargoObstacleTrack :=
  { track with
    observedThisCycle := false
    sparseToDenseThisCycle := false
    currentSourceIndex := 0
    currentSourceValidated := false
    currentWarningEligible := false
    associationAmbiguous := false
    associationResetReason := ""
    lastCellOverlap := 0
    lastCellIou := 0
    lastNeighborCellOverlap := 0
    lastAnchorCellOverlap := 0
    lastAssociationCost := 0 }

def Disputes (index : Nat) : AssociationOutcome → Prop
  | .contested trackIndices => index ∈ trackIndices
  | .unowned => False
  | .ambiguous pair => pair.trackIndex = index
  | .reciprocal _ => False

def Doubtful (track : CargoObstacleTrack) : Prop :=
  track.associationAmbiguous = true ∧ track.currentWarningEligible = false

theorem writeTo_unmatched (unclaimed : ¬Claims index observed.2) :
    authoritative (writeTo config stampSec cycle index track observed) = authoritative track ∧
      (Disputes index observed.2 →
        Doubtful (writeTo config stampSec cycle index track observed)) ∧
      (Doubtful track → Doubtful (writeTo config stampSec cycle index track observed)) := by
  -- Freezing a track and recording a pair write to flags and metrics only.
  obtain ⟨observation, outcome⟩ := observed
  cases outcome with
  | contested trackIndices =>
    by_cases competes : index ∈ trackIndices
    · have frozen : writeTo config stampSec cycle index track
          (observation, .contested trackIndices) = freezeAuthority observation track :=
        if_pos competes
      rw [frozen]
      exact ⟨rfl, fun _ => ⟨rfl, rfl⟩, fun _ => ⟨rfl, rfl⟩⟩
    · have kept : writeTo config stampSec cycle index track
          (observation, .contested trackIndices) = track := if_neg competes
      rw [kept]
      exact ⟨rfl, fun disputes => absurd disputes competes, id⟩
  | unowned => exact ⟨rfl, fun disputes => disputes.elim, id⟩
  | ambiguous pair =>
    by_cases here : pair.trackIndex = index
    · have frozen : writeTo config stampSec cycle index track (observation, .ambiguous pair) =
          freezeAuthority observation (recordPair observation pair track) := if_pos here
      rw [frozen]
      exact ⟨rfl, fun _ => ⟨rfl, rfl⟩, fun _ => ⟨rfl, rfl⟩⟩
    · have kept : writeTo config stampSec cycle index track (observation, .ambiguous pair) =
          track := if_neg here
      rw [kept]
      exact ⟨rfl, fun disputes => absurd disputes here, id⟩
  | reciprocal pair =>
    have other : pair.trackIndex ≠ index := fun same => unclaimed ⟨pair, rfl, same⟩
    have kept : writeTo config stampSec cycle index track (observation, .reciprocal pair) =
        track := if_neg other
    rw [kept]
    exact ⟨rfl, fun disputes => disputes.elim, id⟩

theorem writeAll_authoritative (unclaimed : ∀ observed ∈ items, ¬Claims index observed.2) :
    authoritative (items.foldl (writeTo config stampSec cycle index) track) =
      authoritative track := by
  induction items generalizing track with
  | nil => rfl
  | cons head rest ih =>
    obtain ⟨headUnclaimed, restUnclaimed⟩ := List.forall_mem_cons.mp unclaimed
    rw [List.foldl_cons, ih restUnclaimed]
    exact (writeTo_unmatched headUnclaimed).1

theorem writeAll_doubtful (unclaimed : ∀ observed ∈ items, ¬Claims index observed.2)
    (doubt : Doubtful track ∨ ∃ observed ∈ items, Disputes index observed.2) :
    Doubtful (items.foldl (writeTo config stampSec cycle index) track) := by
  -- No later write takes the doubt away again.
  induction items generalizing track with
  | nil =>
    rcases doubt with doubtful | ⟨_, member, _⟩
    · exact doubtful
    · cases member
  | cons head rest ih =>
    obtain ⟨headUnclaimed, restUnclaimed⟩ := List.forall_mem_cons.mp unclaimed
    obtain ⟨_, disputed, kept⟩ := @writeTo_unmatched _ config stampSec cycle index track head
      headUnclaimed
    rw [List.foldl_cons]
    apply ih restUnclaimed
    rcases doubt with doubtful | ⟨observed, member, disputes⟩
    · exact .inl (kept doubtful)
    · rcases List.mem_cons.mp member with rfl | later
      · exact .inl (disputed disputes)
      · exact .inr ⟨observed, later, disputes⟩

end Writes

section Places

structure Placed (track : CargoObstacleTrack) : Prop where
  centroid : track.centroidMap.allFinite = true
  velocity : track.velocityMap.allFinite = true
  stamp : track.lastStampSec.isFinite = true

variable {config : CargoObstacleTrackerConfig} {stampSec : Scalar} {cycle index : Nat}
  {observation : CargoObstacleObservation} {pair : AssociationPair} {following still : Bool}
  {track : CargoObstacleTrack}

theorem velocity_finite {place before : Vec3} {elapsedSec : Scalar}
    (here : place.allFinite = true) (there : before.allFinite = true)
    (elapsed : stampEpsilonSec < elapsedSec) (finite : elapsedSec.isFinite = true) :
    ((place - before).divide elapsedSec).allFinite = true := by
  obtain ⟨seconds, rfl⟩ := Scalar.isFinite_iff.1 finite
  have positive : (0 : ℚ) < seconds := by
    have epsilon : stampEpsilonSec = .fin (1 / 10000) := by
      show Scalar.fin (OfScientific.ofScientific 10 true 5) = _
      norm_num
    rw [epsilon, Scalar.fin_lt_fin] at elapsed
    linarith
  rw [Vec3.allFinite_iff] at here there ⊢
  obtain ⟨x, y, z⟩ := here
  obtain ⟨x', y', z'⟩ := there
  exact ⟨Scalar.div_isFinite (Scalar.sub_isFinite.2 ⟨x, x'⟩) positive.ne' rfl,
    Scalar.div_isFinite (Scalar.sub_isFinite.2 ⟨y, y'⟩) positive.ne' rfl,
    Scalar.div_isFinite (Scalar.sub_isFinite.2 ⟨z, z'⟩) positive.ne' rfl⟩

theorem continueMotion_velocity (placed : Placed track)
    (finite : observation.centroidMap.allFinite = true) (stamp : stampSec.isFinite = true) :
    (continueMotion stampSec observation
      (recordPair observation pair track)).velocityMap.allFinite = true := by
  unfold continueMotion
  dsimp only
  split_ifs with other elapsed
  · -- Another authority begins at rest.
    rfl
  · exact velocity_finite finite placed.centroid elapsed
      (Scalar.sub_isFinite.2 ⟨stamp, placed.stamp⟩)
  · exact placed.velocity

theorem measure_velocity : (measure config stampSec observation following track).velocityMap =
    track.velocityMap := by
  unfold measure
  dsimp only
  split_ifs
  · rfl
  · rfl

theorem trackFarHistory_velocity :
    (trackFarHistory config stampSec observation following track).velocityMap =
      track.velocityMap := by
  unfold trackFarHistory
  dsimp only
  rw [apply_ite CargoObstacleTrack.velocityMap, apply_ite CargoObstacleTrack.velocityMap]
  split_ifs
  all_goals rfl

theorem created_placed {id : Nat} {first : Bool}
    (finite : observation.centroidMap.allFinite = true) (stamp : stampSec.isFinite = true) :
    Placed (created config stampSec observation cycle id first) := by
  -- It begins at rest, with a ring of sparse frames or without.
  unfold created
  dsimp only
  by_cases sparse : (supportKindOf observation config == .sparseMultiFrame) = true
  · rw [if_pos sparse]
    exact ⟨finite, rfl, stamp⟩
  · rw [if_neg sparse]
    exact ⟨finite, rfl, stamp⟩

variable [EuclideanNorm]

theorem followCargo_velocity :
    (followCargo observation track).velocityMap = track.velocityMap := by
  unfold followCargo
  rw [apply_ite CargoObstacleTrack.velocityMap]
  split_ifs
  all_goals rfl

theorem matched_velocity : (matched config stampSec observation cycle pair track).velocityMap =
    (continueMotion stampSec observation (recordPair observation pair track)).velocityMap := by
  unfold matched
  dsimp only
  -- The stages after the motion write to other fields.
  show (trackFarHistory config stampSec observation _ _).velocityMap = _
  rw [trackFarHistory_velocity]
  show (followCargo observation _).velocityMap = _
  rw [followCargo_velocity]
  exact measure_velocity

theorem matched_placed (placed : Placed track)
    (finite : observation.centroidMap.allFinite = true) (stamp : stampSec.isFinite = true) :
    Placed (matched config stampSec observation cycle pair track) := by
  have shows := congrArg Measurement.centroidMap
    (@matched_measurement config stampSec cycle observation pair track _)
  refine ⟨?_, ?_, stamp⟩
  · have centroid : (matched config stampSec observation cycle pair track).centroidMap =
        observation.centroidMap := shows
    rw [centroid]
    exact finite
  · rw [matched_velocity]
    exact continueMotion_velocity placed finite stamp

theorem writeAll_placed {items : List (CargoObstacleObservation × AssociationOutcome)}
    (placed : Placed track)
    (finite : ∀ observed ∈ items, observed.1.centroidMap.allFinite = true)
    (stamp : stampSec.isFinite = true) :
    Placed (items.foldl (writeTo config stampSec cycle index) track) := by
  -- Only a reciprocal match moves a track.
  induction items generalizing track with
  | nil => exact placed
  | cons head rest ih =>
    obtain ⟨headFinite, restFinite⟩ := List.forall_mem_cons.mp finite
    rw [List.foldl_cons]
    apply ih _ restFinite
    by_cases claimed : Claims index head.2
    · obtain ⟨observation, outcome⟩ := head
      obtain ⟨pair, rfl, here⟩ := claimed
      have written : writeTo config stampSec cycle index track (observation, .reciprocal pair) =
          matched config stampSec observation cycle pair track := if_pos here
      rw [written]
      exact matched_placed placed headFinite stamp
    · have kept := (@writeTo_unmatched _ config stampSec cycle index track head claimed).1
      have centroid := congrArg CargoObstacleTrack.centroidMap kept
      have velocity := congrArg CargoObstacleTrack.velocityMap kept
      have stamped := congrArg CargoObstacleTrack.lastStampSec kept
      dsimp only [authoritative] at centroid velocity stamped
      exact ⟨by rw [centroid]; exact placed.centroid, by rw [velocity]; exact placed.velocity,
        by rw [stamped]; exact placed.stamp⟩

end Places

section Costs

variable {config : CargoObstacleTrackerConfig} {stampSec : Scalar}
  {observation : CargoObstacleObservation} {track : CargoObstacleTrack} {pair : AssociationPair}
  {observationIndex trackIndex : Nat}

theorem share_isFinite (count : Nat) {total : Nat} (positive : total ≠ 0) :
    (Scalar.ofNat count / Scalar.ofNat total).isFinite = true :=
  Scalar.div_isFinite rfl (Nat.cast_ne_zero.mpr positive) rfl

variable (left right : List Int)

theorem cellOverlap_isFinite :
    (cellOverlap left right).isFinite = true := by
  unfold cellOverlap
  dsimp only
  split_ifs with empty
  · rfl
  · exact share_isFinite _ (by simpa using empty)

theorem cellIou_isFinite : (cellIou left right).isFinite = true := by
  unfold cellIou
  dsimp only
  split_ifs with empty
  · rfl
  · exact share_isFinite _ (by simpa using empty)

theorem neighborCellOverlap_isFinite (radius : Int) :
    (neighborCellOverlap left right radius).isFinite = true := by
  have directional : ∀ source target : List Int,
      (directionalNeighborCellOverlap source target radius).isFinite = true := by
    intro source target
    unfold directionalNeighborCellOverlap
    split_ifs with unusable
    · rfl
    · -- The source has cells to divide by.
      simp only [Bool.or_eq_true, not_or, List.isEmpty_iff] at unusable
      exact share_isFinite _ (by simpa using unusable.1.1)
  exact Scalar.maxOf_isFinite (directional left right) (directional right left)

variable [EuclideanNorm]

theorem centroidDistance_isFinite
    (norms : ∀ step : Vec2, step.allFinite = true → step.norm.isFinite = true)
    (placed : Placed track) (finite : observation.centroidMap.allFinite = true)
    (stamp : stampSec.isFinite = true) :
    (centroidDistance stampSec observation track).isFinite = true := by
  have gap : (Scalar.maxOf 0 (stampSec - track.lastStampSec)).isFinite = true :=
    Scalar.maxOf_isFinite rfl (Scalar.sub_isFinite.2 ⟨stamp, placed.stamp⟩)
  obtain ⟨x, y, _⟩ := Vec3.allFinite_iff.1 finite
  obtain ⟨x', y', _⟩ := Vec3.allFinite_iff.1 placed.centroid
  obtain ⟨vx, vy, _⟩ := Vec3.allFinite_iff.1 placed.velocity
  -- The step from the predicted place is finite in either direction.
  apply norms
  rw [Vec2.allFinite, Bool.and_eq_true]
  exact ⟨Scalar.sub_isFinite.2 ⟨x, Scalar.add_isFinite.2 ⟨x', Scalar.mul_isFinite vx gap⟩⟩,
    Scalar.sub_isFinite.2 ⟨y, Scalar.add_isFinite.2 ⟨y', Scalar.mul_isFinite vy gap⟩⟩⟩

theorem legalPair_cost
    (norms : ∀ step : Vec2, step.allFinite = true → step.norm.isFinite = true)
    (valid : (validateCargoObstacleTrackerConfig config).valid = true) (placed : Placed track)
    (finite : observation.centroidMap.allFinite = true) (stamp : stampSec.isFinite = true)
    (legal : legalPair config stampSec observationIndex observation trackIndex track =
      some pair) : pair.cost.isFinite = true := by
  have passes := (ConfigCheck.validate_valid config.checks).mp valid
  obtain ⟨scale, positive, scaleEq⟩ := ConfigCheck.positive_passes
    (passes (.positive "association_max_centroid_distance_m"
      config.associationMaxCentroidDistanceM) (by simp [CargoObstacleTrackerConfig.checks]))
  have distance : (centroidDistance stampSec observation track /
      config.associationMaxCentroidDistanceM).isFinite = true :=
    Scalar.div_isFinite (centroidDistance_isFinite norms placed finite stamp) positive.ne' scaleEq
  have cells := Scalar.maxOf_isFinite (Scalar.maxOf_isFinite
      (cellOverlap_isFinite observation.occupiedMapCells track.occupiedMapCells)
      (cellIou_isFinite observation.occupiedMapCells track.occupiedMapCells))
    (Scalar.mul_isFinite (a := 0.80) rfl (neighborCellOverlap_isFinite
      observation.occupiedMapCells track.occupiedMapCells config.associationNeighborCellRadius))
  -- The cost is the distance by its scale, and one less the share of common cells.
  unfold legalPair at legal
  dsimp only at legal
  split_ifs at legal
  · cases legal
    exact Scalar.add_isFinite.2 ⟨distance, rfl⟩
  · cases legal
    exact Scalar.add_isFinite.2 ⟨distance, Scalar.sub_isFinite.2 ⟨rfl, cells⟩⟩

def Legal (config : CargoObstacleTrackerConfig) (stampSec : Scalar)
    (observation : CargoObstacleObservation) (track : CargoObstacleTrack) : Prop :=
  (legalPair config stampSec 0 observation 0 track).isSome = true

theorem legalPair_indexed :
    legalPair config stampSec observationIndex observation trackIndex track =
      (legalPair config stampSec 0 observation 0 track).map fun pair =>
        { pair with observationIndex, trackIndex } := by
  unfold legalPair
  dsimp only
  split_ifs
  all_goals rfl

end Costs

section Counting

theorem bestCost_counts {pairs : List AssociationPair} (nonempty : pairs ≠ [])
    (finite : ∀ pair ∈ pairs, pair.cost.isFinite = true) : 0 < (bestCost pairs).2 := by
  -- The first cost is counted, and from then on the count never falls to zero.
  have counted : ∀ (costs : List Scalar) (best : Scalar × Nat), 0 < best.2 →
      0 < (costs.foldl accumulateBest best).2 := by
    intro costs
    induction costs with
    | nil => exact fun best positive => positive
    | cons cost rest ih =>
      intro best positive
      rw [List.foldl_cons]
      apply ih
      unfold accumulateBest
      split_ifs
      · exact Nat.one_pos
      · exact Nat.succ_pos _
      · exact positive
  cases pairs with
  | nil => exact absurd rfl nonempty
  | cons pair rest =>
    obtain ⟨cost, costEq⟩ := Scalar.isFinite_iff.1 (finite pair List.mem_cons_self)
    unfold bestCost
    rw [List.map_cons, List.foldl_cons]
    apply counted
    -- Every finite cost lies below the infinite one.
    have below : pair.cost + associationCostEpsilon < .posInf := by
      rw [costEq]
      rfl
    unfold accumulateBest
    rw [if_pos below]
    exact Nat.one_pos

theorem outcomeOf_owned {pairs : List AssociationPair} {pair : AssociationPair}
    (legal : pair ∈ pairs) (finite : ∀ pair ∈ pairs, pair.cost.isFinite = true) :
    outcomeOf pairs pair.observationIndex ≠ .unowned := by
  have owned : pair ∈ pairsOfObservation pairs pair.observationIndex :=
    List.mem_filter.mpr ⟨legal, beq_self_eq_true _⟩
  have counts := bestCost_counts (List.ne_nil_of_mem owned) fun other member =>
    finite other (List.mem_of_mem_filter member)
  unfold outcomeOf
  cases (grantedPairs pairs).find? fun other =>
      other.observationIndex == pair.observationIndex with
  | some granted =>
    dsimp only
    split_ifs
    all_goals nofun
  | none =>
    dsimp only
    rw [if_pos counts]
    nofun

end Counting

section Runs

variable {config : CargoObstacleTrackerConfig} {event : TrackerEvent}
  {self : CargoObstacleTracker} {stampSec : Scalar} {track : CargoObstacleTrack}

theorem beginCycle_authoritative (member : track ∈ (self.beginCycle stampSec).tracks) :
    ∃ earlier ∈ self.tracks, authoritative track = authoritative earlier := by
  unfold beginCycle at member
  dsimp only at member
  -- Only two flags of a kept track are cleared.
  obtain ⟨earlier, kept, rfl⟩ := List.mem_map.mp member
  have present := List.mem_of_mem_filter kept
  split_ifs at present with rolledBack
  · -- A jump back in time leaves no track.
    cases present
  · exact ⟨earlier, present, rfl⟩

theorem Placed.of_authoritative {other : CargoObstacleTrack} (placed : Placed other)
    (same : authoritative track = authoritative other) : Placed track := by
  have centroid := congrArg CargoObstacleTrack.centroidMap same
  have velocity := congrArg CargoObstacleTrack.velocityMap same
  have stamp := congrArg CargoObstacleTrack.lastStampSec same
  dsimp only [authoritative] at centroid velocity stamp
  exact {
    centroid := by rw [centroid]; exact placed.centroid
    velocity := by rw [velocity]; exact placed.velocity
    stamp := by rw [stamp]; exact placed.stamp }

theorem track_unique {other : CargoObstacleTrack} (numbered : Numbered self)
    (present : track ∈ self.tracks) (present' : other ∈ self.tracks)
    (same : track.trackId = other.trackId) : track = other :=
  List.inj_on_of_nodup_map numbered.distinct present present' same

variable [EuclideanNorm]

theorem frame_finite {observed : CargoObstacleObservation × AssociationOutcome}
    (member : observed ∈ frame event) : observed.1.centroidMap.allFinite = true := by
  obtain ⟨original, _, valid, cells, same⟩ := cycleOutcomes_valid member
  rw [same]
  simp only [validObservation, Bool.and_eq_true] at valid
  tauto

theorem finished_placed (active : ¬Idle event)
    (placed : ∀ track ∈ event.before.tracks, Placed track) :
    ∀ track ∈ (finished event).tracks, Placed track := by
  intro track member
  have stamp := (active_usable active).2
  obtain ⟨index, position⟩ := List.mem_iff_getElem?.mp member
  -- The track was there at the begin of the cycle, or an observation began it.
  rcases observeItems_track cycleOutcomes_inBounds le_rfl position with
    ⟨start, found, rfl⟩ | ⟨before, observation, after, first, split, rfl⟩
  · obtain ⟨earlier, present, same⟩ := beginCycle_authoritative (List.mem_of_getElem? found)
    exact writeAll_placed ((placed earlier present).of_authoritative same)
      (fun observed => frame_finite) stamp
  · have among : (observation, AssociationOutcome.unowned) ∈ frame event := by
      show _ ∈ (begun event).cycleOutcomes event.call.stampSec event.call.observations
      rw [split]
      exact List.mem_append_right before List.mem_cons_self
    exact created_placed (frame_finite among) stamp

theorem run_placed (config : CargoObstacleTrackerConfig) (calls : List TrackerCall) :
    ∀ track ∈ ((machine config).run calls).tracks, Placed track := by
  -- A new tracker has no tracks, and an idle call changes none.
  refine @Machine.run_invariant _ _ _ (machine config)
    (fun _ state => ∀ track ∈ state.tracks, Placed track) ?_ ?_ calls
  · exact fun track member => nomatch member
  · intro past state call placed
    show ∀ track ∈ (state.update call).1.tracks, Placed track
    by_cases active : Idle ⟨state, call⟩
    · have kept : (state.update call).1 = state := (update_idle active).1
      rwa [kept]
    · have step : (state.update call).1 = finished ⟨state, call⟩ :=
        congrArg Prod.fst (update_active active)
      rw [step]
      exact finished_placed active placed

/-- In every run the tracks are told apart by their ids, and all their places are finite. -/
theorem tracks_well_formed (config : CargoObstacleTrackerConfig) (calls : List TrackerCall) :
    let state := (machine config).run calls
    (state.tracks.map (·.trackId)).Nodup ∧
      ∀ track ∈ state.tracks, track.trackId < state.nextTrackId ∧ Placed track := by
  obtain ⟨used, distinct⟩ := run_numbered config calls
  exact ⟨distinct, fun track member =>
    ⟨used _ (List.mem_map_of_mem member), run_placed config calls track member⟩⟩

theorem begins_not_legal
    (norms : ∀ step : Vec2, step.allFinite = true → step.norm.isFinite = true)
    (placed : ∀ track ∈ event.before.tracks, Placed track) {id : Nat}
    {observation : CargoObstacleObservation} (begins : Begins event id observation)
    (present : track ∈ (begun event).tracks) :
    ¬Legal event.before.config event.call.stampSec observation track := by
  intro legal
  obtain ⟨valid, stamp⟩ := active_usable begins.active
  have config : (begun event).config = event.before.config := beginCycle_frame.1
  have placed' : ∀ track ∈ (begun event).tracks, Placed track := by
    intro track member
    obtain ⟨earlier, before, same⟩ := beginCycle_authoritative member
    exact (placed earlier before).of_authoritative same
  obtain ⟨before, after, split, _⟩ := begins.unowned
  have among : (observation, AssociationOutcome.unowned) ∈ frame event := by
    rw [split]
    exact List.mem_append_right before List.mem_cons_self
  -- The outcome belongs to an index, under which the legal pair is listed.
  obtain ⟨⟨observation', index⟩, indexed, outcome⟩ := List.mem_map.mp among
  obtain ⟨rfl, unowned⟩ := Prod.mk.inj outcome
  obtain ⟨trackIndex, position⟩ := List.mem_iff_getElem?.mp present
  obtain ⟨pair, found⟩ := Option.isSome_iff_exists.mp legal
  have listed : { pair with observationIndex := index, trackIndex } ∈
      legalPairs (begun event).config event.call.stampSec
        (validObservations (begun event).config event.call.observations) (begun event).tracks := by
    unfold legalPairs
    rw [List.mem_insertionSort]
    refine List.mem_flatMap.mpr ⟨_, indexed, List.mem_filterMap.mpr ⟨(track, trackIndex),
      List.mem_zipIdx_iff_getElem?.mpr position, ?_⟩⟩
    rw [legalPair_indexed, config, found]
    rfl
  refine outcomeOf_owned listed ?_ unowned
  -- Every legal pair joins a finite observation and a placed track.
  intro other member
  unfold legalPairs at member
  rw [List.mem_insertionSort] at member
  obtain ⟨observed, shown, rest⟩ := List.mem_flatMap.mp member
  obtain ⟨tracked, there, joins⟩ := List.mem_filterMap.mp rest
  rw [config] at joins
  refine legalPair_cost norms valid
    (placed' tracked.1 (List.mem_of_getElem? (List.mem_zipIdx_iff_getElem?.mp there))) ?_ stamp
    joins
  exact @frame_finite event _ (observed.1, _) (List.mem_map.mpr ⟨observed, shown, rfl⟩)

/-- An observation of the call is assigned to the track of the id without reciprocity, or
competes for it. -/
structure Disputed (event : TrackerEvent) (id : Nat) : Prop where
  active : ¬Idle event
  disputed : ∃ observed ∈ frame event, ∃ index start, Disputes index observed.2 ∧
    (begun event).tracks[index]? = some start ∧ start.trackId = id

/-- What a dispute makes of a track. -/
structure FrozenBy (event : TrackerEvent) (before : CargoObstacleTrack) : Prop where
  frozen : ∃ after ∈ (event.before.update event.call).1.tracks,
    after.trackId = before.trackId ∧ authoritative after = authoritative before ∧
      after.associationAmbiguous = true
  unconfirmed : (event.before.update event.call).2.confirmedHazard = true →
    (event.before.update event.call).2.selectedTrackId ≠ before.trackId

theorem disputed_frozen (numbered : Numbered event.before)
    (numbered' : Numbered (event.before.update event.call).1) {before : CargoObstacleTrack}
    (present : before ∈ event.before.tracks) (disputed : Disputed event before.trackId)
    (unmatched : ∀ observation, ¬Matches event before.trackId observation) :
    FrozenBy event before := by
  obtain ⟨active, observed, member, index, start, disputes, found, named⟩ := disputed
  -- The track at the index is the one of the id, with two flags cleared.
  obtain ⟨earlier, among, same⟩ := beginCycle_authoritative (List.mem_of_getElem? found)
  have ids : start.trackId = earlier.trackId :=
    (congrArg CargoObstacleTrack.trackId same : (authoritative start).trackId = _)
  obtain rfl : earlier = before := track_unique numbered among present (ids.symm.trans named)
  have unclaimed : ∀ observed ∈ frame event, ¬Claims index observed.2 := by
    rintro ⟨observation, outcome⟩ shown ⟨pair, rfl, here⟩
    exact unmatched observation ⟨active, pair, start, shown, by rw [here]; exact found, named⟩
  have written : (finished event).tracks[index]? = some ((frame event).foldl
      (writeTo (begun event).config event.call.stampSec (begun event).cycle index) start) := by
    have existing := (List.getElem?_eq_some_iff.mp found).1
    exact (observeItems_existing existing).trans (by rw [found]; rfl)
  have step : (event.before.update event.call).1 = finished event :=
    congrArg Prod.fst (update_active active)
  have kept := @writeAll_authoritative _ (begun event).config event.call.stampSec
    (begun event).cycle index start (frame event) unclaimed
  have doubtful : Doubtful ((frame event).foldl
      (writeTo (begun event).config event.call.stampSec (begun event).cycle index) start) :=
    writeAll_doubtful unclaimed (.inr ⟨observed, member, disputes⟩)
  generalize (frame event).foldl
    (writeTo (begun event).config event.call.stampSec (begun event).cycle index) start = after
    at written kept doubtful
  have remains : after ∈ (event.before.update event.call).1.tracks := by
    rw [step]
    exact List.mem_of_getElem? written
  have sameId : after.trackId = earlier.trackId :=
    (congrArg CargoObstacleTrack.trackId kept : (authoritative after).trackId = _).trans ids
  refine ⟨⟨after, remains, sameId, kept.trans same, doubtful.1⟩, ?_⟩
  -- A confirmed hazard is eligible for a warning, which the track is not.
  intro confirmed selected
  have decision : (event.before.update event.call).2 = (finished event).project event.call.policy
      event.call.stampSec (hazardAmong event.before.config event.call.observations) :=
    congrArg Prod.snd (update_active active)
  rw [decision] at confirmed selected
  obtain ⟨chosen, inside, _, authorized, chosenId, _⟩ := project_confirmed confirmed
  rw [← step] at inside
  have ids' : chosen.trackId = after.trackId := by rw [← chosenId, selected, sameId]
  rw [track_unique numbered' inside remains ids', formalWarningAuthorized, doubtful.2,
    Bool.and_false] at authorized
  simp at authorized

/-- An ambiguous association freezes the tracks it concerns, and begins no track. -/
theorem ambiguity_freezes
    (norms : ∀ step : Vec2, step.allFinite = true → step.norm.isFinite = true)
    (config : CargoObstacleTrackerConfig) (past : List TrackerCall) (call : TrackerCall) :
    (∀ before ∈ ((machine config).run past).tracks,
        Disputed ⟨(machine config).run past, call⟩ before.trackId →
        (∀ observation, ¬Matches ⟨(machine config).run past, call⟩ before.trackId observation) →
        FrozenBy ⟨(machine config).run past, call⟩ before) ∧
      ∀ id observation, Begins ⟨(machine config).run past, call⟩ id observation →
        ∀ track ∈ (begun ⟨(machine config).run past, call⟩).tracks,
          ¬Legal config call.stampSec observation track := by
  refine ⟨fun before present disputed unmatched => ?_,
    fun id observation begins track present => ?_⟩
  · have numbered : Numbered (((machine config).run past).update call).1 :=
      run_numbered config (call :: past)
    exact @disputed_frozen ⟨(machine config).run past, call⟩ _ (run_numbered config past) numbered
      before present disputed unmatched
  · have unlawful := begins_not_legal norms (run_placed config past) begins present
    have configured : ((machine config).run past).config = config :=
      (run_tracked config past).configured
    dsimp only at unlawful
    rwa [configured] at unlawful

end Runs

def fragmentsFrame : TrackerCall :=
  { farFrame 1.1 with
    observations := [{ clusterAt 7 clearCode false with centroidMap := { x := -0.3 } },
      { clusterAt 7 clearCode false with sourceIndex := 1, centroidMap := { x := 0.3 } }] }

def disputesFirst : AssociationOutcome → Bool
  | .ambiguous pair => pair.trackIndex == 0
  | _ => false

def isReciprocal : AssociationOutcome → Bool
  | .reciprocal _ => true
  | _ => false

attribute [local semireducible] Rat.add Rat.sub Rat.mul Rat.inv Rat.ofScientific

theorem ambiguity_freezes_fragments :
    ∃ before ∈ ((@machine axisNorm {}).run [farFrame 1]).tracks,
      @FrozenBy axisNorm ⟨(@machine axisNorm {}).run [farFrame 1], fragmentsFrame⟩ before := by
  let event : TrackerEvent := ⟨(@machine axisNorm {}).run [farFrame 1], fragmentsFrame⟩
  have active : ¬Idle event := by
    unfold Idle
    decide
  have disputed : (@frame axisNorm event).any (fun observed =>
      disputesFirst observed.2) = true := by
    decide
  have unmatched : (@frame axisNorm event).all (fun observed =>
      !isReciprocal observed.2) = true := by
    decide
  have ids : event.before.tracks.map (·.trackId) = [1] := by decide
  have ids' : (begun event).tracks.map (·.trackId) = [1] := by decide
  -- The only track is the one that both fragments are near to.
  obtain ⟨before, only, named⟩ := List.map_eq_singleton_iff.mp ids
  obtain ⟨start, only', named'⟩ := List.map_eq_singleton_iff.mp ids'
  have present : before ∈ event.before.tracks := by rw [only]; exact List.mem_singleton_self _
  refine ⟨before, present, (@ambiguity_freezes axisNorm ?_ {} [farFrame 1]
    fragmentsFrame).1 before present (@Disputed.mk axisNorm event _ active ?_) ?_⟩
  · intro step finite
    rw [Vec2.allFinite, Bool.and_eq_true] at finite
    obtain ⟨x, xEq⟩ := Scalar.isFinite_iff.1 finite.1
    obtain ⟨y, yEq⟩ := Scalar.isFinite_iff.1 finite.2
    show (step.x.abs + step.y.abs).isFinite = true
    rw [xEq, yEq]
    rfl
  · obtain ⟨⟨observation, outcome⟩, member, disputes⟩ := List.any_eq_true.mp disputed
    refine ⟨_, member, 0, start, ?_, by rw [only']; rfl, named'.trans named.symm⟩
    cases outcome with
    | ambiguous pair => exact eq_of_beq disputes
    | contested => cases disputes
    | unowned => cases disputes
    | reciprocal => cases disputes
  · rintro observation ⟨_, pair, track, member, _⟩
    have other := List.all_eq_true.mp unmatched _ member
    cases other

end NdtSlam.CargoObstacleTracker
