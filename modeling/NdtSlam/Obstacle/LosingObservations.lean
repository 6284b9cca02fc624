import NdtSlam.Obstacle.ConfirmedHazard

/-! What the observations that lose a track do to the one that wins it. -/

namespace NdtSlam.CargoObstacleTracker

def Contests (index : Nat) : AssociationOutcome → Prop
  | .contested trackIndices => index ∈ trackIndices
  | _ => False

def LeavesTo (index : Nat) (outcome : AssociationOutcome) : Prop :=
  ∀ pair, grantOf outcome = some pair → pair.trackIndex ≠ index

section Hiding

variable {config : CargoObstacleTrackerConfig} {stampSec : Scalar} {cycle : Nat}
  {observation : CargoObstacleObservation} {pair : AssociationPair} {following still : Bool}
  {track : CargoObstacleTrack}

def hideSource (track : CargoObstacleTrack) : CargoObstacleTrack :=
  { track with
    observedThisCycle := false
    currentSourceIndex := 0
    currentSourceValidated := false
    currentWarningEligible := false }

theorem measure_hideSource : measure config stampSec observation following (hideSource track) =
    hideSource (measure config stampSec observation following track) := by
  -- The ring of sparse frames is another field.
  unfold measure
  dsimp only [hideSource]
  split_ifs
  · rfl
  · rfl

theorem countStreaks_hideSource :
    countStreaks config observation following (hideSource track) =
      hideSource (countStreaks config observation following track) := rfl

theorem separate_hideSource : separate config observation following (hideSource track) =
    hideSource (separate config observation following track) := rfl

theorem trackFarHistory_hideSource :
    trackFarHistory config stampSec observation following (hideSource track) =
      hideSource (trackFarHistory config stampSec observation following track) := by
  unfold trackFarHistory
  rw [apply_ite hideSource, apply_ite hideSource]
  rfl

theorem settle_hideSource :
    settle config stampSec observation cycle following still (hideSource track) =
      settle config stampSec observation cycle following still track := rfl

variable (loser : CargoObstacleObservation)

theorem continueMotion_freeze :
    hideSource (continueMotion stampSec observation
        (recordPair observation pair (freezeAuthority loser track))) =
      hideSource (continueMotion stampSec observation (recordPair observation pair track)) := by
  -- The reason of the freeze is cleared under the same authority, and replaced under another one.
  have recorded : sameAuthority observation
      (recordPair observation pair (freezeAuthority loser track)) =
        sameAuthority observation track := rfl
  have recorded' : sameAuthority observation (recordPair observation pair track) =
      sameAuthority observation track := rfl
  have frozen : sameAuthority observation (freezeAuthority loser track) =
      sameAuthority observation track := rfl
  unfold continueMotion
  dsimp only
  rw [recorded, recorded']
  cases same : sameAuthority observation track with
  | false => rfl
  | true =>
    simp only [recordPair, frozen, same, Bool.not_true, Bool.false_eq_true, if_false, if_true]
    rw [apply_ite hideSource, apply_ite hideSource]
    rfl

variable [EuclideanNorm]

theorem followCargo_hideSource : followCargo observation (hideSource track) =
    hideSource (followCargo observation track) := by
  -- Only the positions of the load change.
  unfold followCargo
  rw [apply_ite hideSource]
  rfl

theorem assignProvenance_hideSource : assignProvenance config observation (hideSource track) =
    hideSource (assignProvenance config observation track) := rfl

theorem stages_hideSource (moved : CargoObstacleTrack) :
    settle config stampSec observation cycle following still
        (trackFarHistory config stampSec observation following
          (separate config observation following (assignProvenance config observation
            (followCargo observation (countStreaks config observation following
              (measure config stampSec observation following (hideSource moved))))))) =
      settle config stampSec observation cycle following still
        (trackFarHistory config stampSec observation following
          (separate config observation following (assignProvenance config observation
            (followCargo observation (countStreaks config observation following
              (measure config stampSec observation following moved)))))) := by
  -- No stage looks at the current source, and the last one replaces it.
  rw [measure_hideSource, countStreaks_hideSource, followCargo_hideSource,
    assignProvenance_hideSource, separate_hideSource, trackFarHistory_hideSource,
    settle_hideSource]

theorem staticMotionValid_hideSource (moved : CargoObstacleTrack) :
    staticMotionValid config (followCargo observation (countStreaks config observation following
        (measure config stampSec observation following (hideSource moved)))) =
      staticMotionValid config (followCargo observation (countStreaks config observation following
        (measure config stampSec observation following moved))) := by
  rw [measure_hideSource, countStreaks_hideSource, followCargo_hideSource]
  rfl

theorem matched_freeze :
    matched config stampSec observation cycle pair (freezeAuthority loser track) =
      matched config stampSec observation cycle pair track := by
  -- The stages after the recording do not look at what a freeze has left of itself.
  have follows : consecutive config stampSec observation cycle (freezeAuthority loser track) =
      consecutive config stampSec observation cycle track := rfl
  unfold matched
  dsimp only
  rw [follows, ← stages_hideSource, ← staticMotionValid_hideSource, continueMotion_freeze,
    stages_hideSource, staticMotionValid_hideSource]

end Hiding

section Writes

variable [EuclideanNorm] {config : CargoObstacleTrackerConfig} {stampSec : Scalar}
  {cycle index : Nat} {track : CargoObstacleTrack} {state : CargoObstacleTracker}
  {observation : CargoObstacleObservation} {pair : AssociationPair}
  {observed : CargoObstacleObservation × AssociationOutcome}
  {items : List (CargoObstacleObservation × AssociationOutcome)}

theorem writeTo_ungranted (leaves : LeavesTo index observed.2) :
    (Contests index observed.2 ∧
        writeTo config stampSec cycle index track observed = freezeAuthority observed.1 track) ∨
      (¬Contests index observed.2 ∧
        writeTo config stampSec cycle index track observed = track) := by
  obtain ⟨observation, outcome⟩ := observed
  cases outcome with
  | contested trackIndices =>
    by_cases among : index ∈ trackIndices
    · exact .inl ⟨among, if_pos among⟩
    · exact .inr ⟨among, if_neg among⟩
  | unowned => exact .inr ⟨id, rfl⟩
  | ambiguous pair =>
    -- The granted pair names another track.
    exact .inr ⟨id, if_neg (leaves pair rfl)⟩
  | reciprocal pair => exact .inr ⟨id, if_neg (leaves pair rfl)⟩

theorem matched_writeAll (leaves : ∀ observed ∈ items, LeavesTo index observed.2) :
    matched config stampSec observation cycle pair
        (items.foldl (writeTo config stampSec cycle index) track) =
      matched config stampSec observation cycle pair track := by
  -- Each of them is a freeze or nothing.
  induction items generalizing track with
  | nil => rfl
  | cons head rest ih =>
    obtain ⟨headLeaves, restLeaves⟩ := List.forall_mem_cons.mp leaves
    rw [List.foldl_cons, ih restLeaves]
    rcases writeTo_ungranted headLeaves with ⟨_, frozen⟩ | ⟨_, kept⟩
    · rw [frozen, matched_freeze]
    · rw [kept]

theorem writeAll_uncontested (leaves : ∀ observed ∈ items, LeavesTo index observed.2)
    (uncontested : ∀ observed ∈ items, ¬Contests index observed.2) :
    items.foldl (writeTo config stampSec cycle index) track = track := by
  induction items generalizing track with
  | nil => rfl
  | cons head rest ih =>
    obtain ⟨headLeaves, restLeaves⟩ := List.forall_mem_cons.mp leaves
    obtain ⟨headPeace, restPeace⟩ := List.forall_mem_cons.mp uncontested
    rcases writeTo_ungranted headLeaves with ⟨contests, _⟩ | ⟨_, kept⟩
    · exact absurd contests headPeace
    · rw [List.foldl_cons, kept]
      exact ih restLeaves restPeace

theorem writeAll_ambiguous (leaves : ∀ observed ∈ items, LeavesTo index observed.2)
    (doubtful : track.associationAmbiguous = true ∨
      ∃ observed ∈ items, Contests index observed.2) :
    (items.foldl (writeTo config stampSec cycle index) track).associationAmbiguous = true := by
  -- The first contest makes the track ambiguous, and later ones do not undo it.
  induction items generalizing track with
  | nil =>
    rcases doubtful with ambiguous | ⟨_, member, _⟩
    · exact ambiguous
    · cases member
  | cons head rest ih =>
    obtain ⟨headLeaves, restLeaves⟩ := List.forall_mem_cons.mp leaves
    rw [List.foldl_cons]
    apply ih restLeaves
    rcases @writeTo_ungranted _ config stampSec cycle index track head headLeaves with
      ⟨_, frozen⟩ | ⟨peaceful, kept⟩
    · rw [frozen]
      exact .inl rfl
    · rw [kept]
      rcases doubtful with ambiguous | ⟨observed, member, contests⟩
      · exact .inl ambiguous
      · rcases List.mem_cons.mp member with rfl | later
        · exact absurd contests peaceful
        · exact .inr ⟨observed, later, contests⟩

theorem observeItems_existing (existing : index < state.tracks.length) :
    (items.foldl (observe stampSec) state).tracks[index]? =
      (state.tracks[index]?).map
        (items.foldl (writeTo state.config stampSec state.cycle index)) := by
  induction items generalizing state with
  | nil => simp
  | cons head rest ih =>
    -- Neither the configuration nor the clock changes, and no track is lost.
    obtain ⟨config, cycle, _⟩ := @observe_frame _ stampSec state head
    have grows := @observe_length _ stampSec state head
    rw [List.foldl_cons, ih (by omega), observe_track existing, config, cycle, Option.map_map]
    rfl

end Writes

section Measurements

structure Measurement where
  ambiguous : Bool
  observed : Bool
  sourceIndex : Nat
  sourceValidated : Bool
  warningEligible : Bool
  warningCode : Nat
  centroidMap : Vec3
  topZ95Map : Scalar
  bottomZ05Map : Scalar
  verticalContinuityRatio : Scalar
  entirelyAboveCargo : Bool
  footprintDistanceM : Scalar
  conservativeClearanceM : Scalar
  hazardGeometryValid : Bool
  pointCount : Nat
  occupiedMapCells : List Int
  poseAuthority : TemporalEvidenceAuthority

def measurement (track : CargoObstacleTrack) : Measurement where
  ambiguous := track.associationAmbiguous
  observed := track.observedThisCycle
  sourceIndex := track.currentSourceIndex
  sourceValidated := track.currentSourceValidated
  warningEligible := track.currentWarningEligible
  warningCode := track.warningCode
  centroidMap := track.centroidMap
  topZ95Map := track.topZ95Map
  bottomZ05Map := track.bottomZ05Map
  verticalContinuityRatio := track.verticalContinuityRatio
  entirelyAboveCargo := track.entirelyAboveCargo
  footprintDistanceM := track.footprintDistanceM
  conservativeClearanceM := track.conservativeClearanceM
  hazardGeometryValid := track.currentHazardGeometryValid
  pointCount := track.realCurrentPointCount
  occupiedMapCells := track.occupiedMapCells
  poseAuthority := track.poseAuthority

def measurementOf (observation : CargoObstacleObservation) : Measurement where
  ambiguous := false
  observed := true
  sourceIndex := observation.sourceIndex
  sourceValidated := observation.sourceValidated
  warningEligible := currentlyEligible observation
  warningCode := observation.warningCode
  centroidMap := observation.centroidMap
  topZ95Map := observation.topZ95Map
  bottomZ05Map := observation.bottomZ05Map
  verticalContinuityRatio := observation.verticalContinuityRatio
  entirelyAboveCargo := observation.entirelyAboveCargo
  footprintDistanceM := observation.footprintDistanceM
  conservativeClearanceM := observation.conservativeClearanceM
  hazardGeometryValid := observation.hazardGeometryValid
  pointCount := observation.pointCount
  occupiedMapCells := observation.occupiedMapCells
  poseAuthority := observation.poseAuthority

variable {config : CargoObstacleTrackerConfig} {stampSec : Scalar} {cycle : Nat}
  {observation : CargoObstacleObservation} {pair : AssociationPair} {following still : Bool}
  {track : CargoObstacleTrack}

theorem continueMotion_unambiguous : (measurement (continueMotion stampSec observation
    (recordPair observation pair track))).ambiguous = false := by
  -- Neither another authority nor a new velocity is a doubt.
  unfold continueMotion
  dsimp only
  rw [apply_ite measurement, apply_ite measurement]
  split_ifs
  all_goals rfl

theorem measure_measurement : measurement (measure config stampSec observation following track) =
    { measurementOf observation with
      ambiguous := track.associationAmbiguous
      observed := track.observedThisCycle
      sourceIndex := track.currentSourceIndex
      sourceValidated := track.currentSourceValidated
      warningEligible := track.currentWarningEligible
      occupiedMapCells := track.occupiedMapCells
      poseAuthority := track.poseAuthority } := by
  -- The ring of sparse frames is not shown.
  unfold measure
  dsimp only
  split_ifs
  · rfl
  · rfl

theorem countStreaks_measurement :
    measurement (countStreaks config observation following track) = measurement track := rfl

theorem separate_measurement :
    measurement (separate config observation following track) = measurement track := rfl

theorem trackFarHistory_measurement :
    measurement (trackFarHistory config stampSec observation following track) =
      measurement track := by
  unfold trackFarHistory
  rw [apply_ite measurement, apply_ite measurement]
  split_ifs
  all_goals rfl

theorem settle_measurement :
    measurement (settle config stampSec observation cycle following still track) =
      { measurement track with
        observed := true
        sourceIndex := observation.sourceIndex
        sourceValidated := observation.sourceValidated
        warningEligible := currentlyEligible observation
        occupiedMapCells := observation.occupiedMapCells
        poseAuthority := observation.poseAuthority } := rfl

variable [EuclideanNorm]

theorem followCargo_measurement :
    measurement (followCargo observation track) = measurement track := by
  unfold followCargo
  rw [apply_ite measurement]
  split_ifs
  all_goals rfl

theorem assignProvenance_measurement :
    measurement (assignProvenance config observation track) = measurement track := rfl

theorem matched_measurement : measurement (matched config stampSec observation cycle pair track) =
    measurementOf observation := by
  have certain := @continueMotion_unambiguous stampSec observation pair track
  unfold matched
  dsimp only
  rw [settle_measurement, trackFarHistory_measurement, separate_measurement,
    assignProvenance_measurement, followCargo_measurement, countStreaks_measurement,
    measure_measurement]
  -- The source and the cells come last, and the doubt was cleared first.
  simp only [measurementOf, Measurement.mk.injEq, and_true]
  exact certain

end Measurements

section Standing

variable [EuclideanNorm]

def WarnsAs (config : CargoObstacleTrackerConfig) (track other : CargoObstacleTrack) : Prop :=
  (∀ policy, formalWarningAuthorized config policy track =
      formalWarningAuthorized config policy other) ∧
    noFarReviewAuthorized config track = noFarReviewAuthorized config other

/-- A match stands exactly when no later observation in canonical order contests its track. -/
theorem match_stands_iff (self : CargoObstacleTracker) (call : TrackerCall)
    (active : ¬Idle ⟨self, call⟩)
    {before after : List (CargoObstacleObservation × AssociationOutcome)}
    {observation : CargoObstacleObservation} {pair : AssociationPair}
    (canonical : (self.beginCycle call.stampSec).cycleOutcomes call.stampSec call.observations =
      before ++ (observation, .reciprocal pair) :: after) :
    ∃ start final, (self.beginCycle call.stampSec).tracks[pair.trackIndex]? = some start ∧
      (self.update call).1.tracks[pair.trackIndex]? = some final ∧
      (measurement final = measurementOf observation ∧
          WarnsAs self.config final (matched self.config call.stampSec observation
            (self.beginCycle call.stampSec).cycle pair start) ↔
        ∀ loser ∈ after, ¬Contests pair.trackIndex loser.2) := by
  have apart := @cycleOutcomes_grants_apart _ (self.beginCycle call.stampSec) call.stampSec
    call.observations
  have inBounds := @cycleOutcomes_inBounds _ (self.beginCycle call.stampSec) call.stampSec
    call.observations
  rw [canonical] at apart inBounds
  -- The match is the only grant of its track, so that the others can only freeze it.
  rw [List.pairwise_append, List.pairwise_cons] at apart
  obtain ⟨_, ⟨ahead, _⟩, across⟩ := apart
  have earlierLeaves : ∀ other ∈ before, LeavesTo pair.trackIndex other.2 := by
    intro other member granted grants
    exact across other member _ List.mem_cons_self granted pair grants rfl
  have laterLeaves : ∀ other ∈ after, LeavesTo pair.trackIndex other.2 := by
    intro other member granted grants
    exact (ahead other member pair granted rfl grants).symm
  have existing : pair.trackIndex < (self.beginCycle call.stampSec).tracks.length :=
    inBounds (observation, .reciprocal pair)
      (List.mem_append_right before List.mem_cons_self)
  have found := List.getElem?_eq_getElem existing
  generalize (self.beginCycle call.stampSec).tracks[pair.trackIndex] = start at found
  -- What the track is in the end, one write after the other.
  have written : (self.update call).1.tracks[pair.trackIndex]? = some
      (after.foldl (writeTo self.config call.stampSec (self.beginCycle call.stampSec).cycle
        pair.trackIndex) (matched self.config call.stampSec observation
          (self.beginCycle call.stampSec).cycle pair start)) := by
    have updated := congrArg Prod.fst (update_active active)
    dsimp only at updated
    rw [updated]
    unfold finished begun observeAll
    dsimp only
    rw [observeItems_existing existing, canonical, found, beginCycle_frame.1, Option.map_some,
      List.foldl_append, List.foldl_cons]
    congr 2
    exact (if_pos rfl).trans (matched_writeAll earlierLeaves)
  refine ⟨start, _, found, written, ?_, ?_⟩
  · rintro ⟨shows, _⟩ loser member contests
    -- A later contest would leave the track ambiguous.
    have ambiguous := @writeAll_ambiguous _ self.config call.stampSec
      (self.beginCycle call.stampSec).cycle pair.trackIndex (matched self.config call.stampSec
        observation (self.beginCycle call.stampSec).cycle pair start) after laterLeaves
      (.inr ⟨loser, member, contests⟩)
    have certain := congrArg Measurement.ambiguous shows
    cases ambiguous.symm.trans certain
  · intro uncontested
    rw [writeAll_uncontested laterLeaves uncontested]
    exact ⟨matched_measurement, fun _ => rfl, rfl⟩

end Standing

def fragmentFrame (stampSec : Scalar) : TrackerCall :=
  { nearFrame stampSec with
    observations := [clusterAt 4 level2 true,
      { clusterAt 4 level2 true with sourceIndex := 1, centroidMap := { x := 0.3 } }] }

def matchesFirst : List (CargoObstacleObservation × AssociationOutcome) → Bool
  | (_, .reciprocal pair) :: _ => pair.trackIndex == 0
  | _ => false

attribute [local semireducible] Rat.add Rat.sub Rat.mul Rat.inv Rat.ofScientific

theorem match_stands_alone :
    let tracker := (@machine axisNorm {}).run [farFrame 1.2, farFrame 1.1, farFrame 1]
    ∃ observation pair final,
      @cycleOutcomes axisNorm (tracker.beginCycle 1.3) 1.3 (nearFrame 1.3).observations =
        [(observation, .reciprocal pair)] ∧
      (@update axisNorm tracker (nearFrame 1.3)).1.tracks[pair.trackIndex]? = some final ∧
      measurement final = measurementOf observation := by
  intro tracker
  have active : ¬Idle ⟨tracker, nearFrame 1.3⟩ := by
    unfold Idle
    decide
  have first : matchesFirst (@cycleOutcomes axisNorm (tracker.beginCycle 1.3) 1.3
      (nearFrame 1.3).observations) = true := by
    decide
  have single : (@cycleOutcomes axisNorm (tracker.beginCycle 1.3) 1.3
      (nearFrame 1.3).observations).length = 1 := by
    decide
  obtain ⟨⟨observation, outcome⟩, canonical⟩ := List.length_eq_one_iff.mp single
  rw [canonical] at first
  cases outcome with
  | reciprocal pair =>
    obtain ⟨start, final, _, written, stands⟩ := @match_stands_iff axisNorm tracker
      (nearFrame 1.3) active [] [] observation pair canonical
    exact ⟨observation, pair, final, canonical, written, (stands.mpr (by simp)).1⟩
  | contested => cases first
  | unowned => cases first
  | ambiguous => cases first

theorem match_suppressed_by_fragment :
    ¬ ∀ [EuclideanNorm] (self : CargoObstacleTracker) (call : TrackerCall),
      ¬Idle ⟨self, call⟩ →
      ∀ (before after : List (CargoObstacleObservation × AssociationOutcome))
        (observation : CargoObstacleObservation) (pair : AssociationPair),
      (self.beginCycle call.stampSec).cycleOutcomes call.stampSec call.observations =
        before ++ (observation, .reciprocal pair) :: after →
      ∃ final, (self.update call).1.tracks[pair.trackIndex]? = some final ∧
        measurement final = measurementOf observation := by
  intro claimed
  let tracker := (@machine axisNorm {}).run [farFrame 1.2, farFrame 1.1, farFrame 1]
  have active : ¬Idle ⟨tracker, fragmentFrame 1.3⟩ := by
    unfold Idle
    decide
  have first : matchesFirst (@cycleOutcomes axisNorm (tracker.beginCycle 1.3) 1.3
      (fragmentFrame 1.3).observations) = true := by
    decide
  have ambiguous : (((@update axisNorm tracker (fragmentFrame 1.3)).1.tracks[0]?).map
      (·.associationAmbiguous)) = some true := by
    decide
  -- The match comes first, and yet its track ends up ambiguous.
  cases outcomes : @cycleOutcomes axisNorm (tracker.beginCycle 1.3) 1.3
      (fragmentFrame 1.3).observations with
  | nil =>
    rw [outcomes] at first
    cases first
  | cons head rest =>
    obtain ⟨observation, outcome⟩ := head
    rw [outcomes] at first
    cases outcome with
    | reciprocal pair =>
      obtain ⟨final, found, shows⟩ := @claimed axisNorm tracker (fragmentFrame 1.3) active []
        rest observation pair outcomes
      have here : pair.trackIndex = 0 := by simpa [matchesFirst] using first
      rw [here] at found
      rw [found, Option.map_some, Option.some.injEq] at ambiguous
      have certain := congrArg Measurement.ambiguous shows
      cases ambiguous.symm.trans certain
    | contested => cases first
    | unowned => cases first
    | ambiguous => cases first

end NdtSlam.CargoObstacleTracker
