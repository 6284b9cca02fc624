import NdtSlam.Obstacle.CycleTracks

/-! The part of a track that its authority to warn rests on, and how it grows. -/

namespace NdtSlam.CargoObstacleTracker

structure Maturity where
  trackId : Nat
  validated : Nat
  farCount : Nat
  farFirstStampSec : Scalar
  farValid : Bool
  lastStampSec : Scalar
  lastCycle : Nat
  poseAuthority : TemporalEvidenceAuthority

def maturity (track : CargoObstacleTrack) : Maturity where
  trackId := track.trackId
  validated := track.validatedConsecutiveObservations
  farCount := track.farFieldValidatedObservations
  farFirstStampSec := track.farFieldFirstStampSec
  farValid := track.farFieldHistoryValid
  lastStampSec := track.lastStampSec
  lastCycle := track.lastObservationCycle
  poseAuthority := track.poseAuthority

namespace Maturity

variable (config : CargoObstacleTrackerConfig) (stampSec : Scalar)
  (observation : CargoObstacleObservation) (cycle : Nat) (grown : Maturity)

def same : Bool := sameTemporalEvidenceAuthority observation.poseAuthority grown.poseAuthority

def follows : Bool :=
  grown.same observation && grown.lastCycle + 1 == cycle &&
    stampSec - grown.lastStampSec ≤ config.maximumObservationGapSec + stampEpsilonSec

def kept : Maturity :=
  if grown.same observation then grown
  else { grown with validated := 0, farCount := 0, farFirstStampSec := 0, farValid := false }

def countValidated (following : Bool) : Maturity :=
  { grown with
    validated :=
      if observation.sourceValidated then if following then grown.validated + 1 else 1 else 0 }

def countFar (following : Bool) : Maturity :=
  if grown.farValid then grown
  else if qualifiesForFarHistory observation config then
    let restarts := !following || grown.farCount == 0
    let count := if restarts then 1 else grown.farCount + 1
    let firstStampSec := if restarts then stampSec else grown.farFirstStampSec
    { grown with
      farCount := count
      farFirstStampSec := firstStampSec
      farValid :=
        config.farHistoryConfirmFrames ≤ count &&
          config.farHistoryConfirmDurationSec ≤
            Scalar.maxOf 0 (stampSec - firstStampSec) + stampEpsilonSec }
  else { grown with farCount := 0, farFirstStampSec := 0 }

def advance : Maturity :=
  let following := grown.follows config stampSec observation cycle
  let counted := (grown.kept observation).countValidated observation following
  { counted.countFar config stampSec observation following with
    lastStampSec := stampSec
    lastCycle := cycle
    poseAuthority := observation.poseAuthority }

end Maturity

section Stages

variable {config : CargoObstacleTrackerConfig} {stampSec : Scalar} {cycle : Nat}
  {observation : CargoObstacleObservation} {pair : AssociationPair} {following still : Bool}
  {track : CargoObstacleTrack}

theorem recordPair_maturity : maturity (recordPair observation pair track) = maturity track := rfl

theorem continueMotion_maturity :
    maturity (continueMotion stampSec observation track) = (maturity track).kept observation := by
  unfold continueMotion Maturity.kept
  dsimp only
  have agreed : (maturity track).same observation = sameAuthority observation track := rfl
  rw [agreed]
  cases sameAuthority observation track with
  | false => rfl
  | true =>
    -- A new velocity is no maturity.
    simp only [Bool.not_true, Bool.false_eq_true, if_false, if_true]
    split_ifs
    all_goals rfl

theorem measure_maturity :
    maturity (measure config stampSec observation following track) = maturity track := by
  -- The ring of sparse frames is no maturity either.
  unfold measure
  dsimp only
  split_ifs
  all_goals rfl

theorem countStreaks_maturity : maturity (countStreaks config observation following track) =
    (maturity track).countValidated observation following := rfl

theorem followCargo_maturity [EuclideanNorm] :
    maturity (followCargo observation track) = maturity track := by
  -- Only the positions of the load change.
  unfold followCargo
  dsimp only
  split_ifs
  all_goals rfl

theorem assignProvenance_maturity [EuclideanNorm] :
    maturity (assignProvenance config observation track) = maturity track := rfl

theorem separate_maturity :
    maturity (separate config observation following track) = maturity track := rfl

theorem trackFarHistory_maturity :
    maturity (trackFarHistory config stampSec observation following track) =
      (maturity track).countFar config stampSec observation following := by
  unfold trackFarHistory Maturity.countFar
  dsimp only
  -- Both definitions ask the same questions of the track.
  have complete : (maturity track).farValid = track.farFieldHistoryValid := rfl
  have count : (maturity track).farCount = track.farFieldValidatedObservations := rfl
  rw [complete, count]
  split_ifs
  all_goals rfl

theorem settle_maturity :
    maturity (settle config stampSec observation cycle following still track) =
      { maturity track with
        lastStampSec := stampSec
        lastCycle := cycle
        poseAuthority := observation.poseAuthority } := rfl

theorem matched_maturity [EuclideanNorm] :
    maturity (matched config stampSec observation cycle pair track) =
      (maturity track).advance config stampSec observation cycle := by
  -- Each stage acts on the maturity as it does on the track.
  have following : consecutive config stampSec observation cycle track =
      (maturity track).follows config stampSec observation cycle := rfl
  unfold matched
  dsimp only
  rw [settle_maturity, trackFarHistory_maturity, separate_maturity, assignProvenance_maturity,
    followCargo_maturity, countStreaks_maturity, measure_maturity, continueMotion_maturity,
    recordPair_maturity, following]
  rfl

theorem matched_standing [EuclideanNorm] :
    (matched config stampSec observation cycle pair track).currentWarningEligible =
        currentlyEligible observation ∧
      (matched config stampSec observation cycle pair track).currentSourceValidated =
        observation.sourceValidated ∧
      (matched config stampSec observation cycle pair track).confirmed =
        decide (config.confirmFrames ≤ ((maturity track).advance config stampSec observation
          cycle).validated) := by
  -- The streak that settles the confirmation is the one of the maturity.
  have streak := congrArg Maturity.validated
    (@matched_maturity config stampSec cycle observation pair track _)
  refine ⟨rfl, rfl, ?_⟩
  rw [← streak]
  rfl

end Stages

section Writes

variable [EuclideanNorm] {config : CargoObstacleTrackerConfig} {stampSec : Scalar}
  {cycle index : Nat} {track : CargoObstacleTrack}
  {observed : CargoObstacleObservation × AssociationOutcome}
  {items : List (CargoObstacleObservation × AssociationOutcome)}

def Claims (index : Nat) (outcome : AssociationOutcome) : Prop :=
  ∃ pair, outcome = .reciprocal pair ∧ pair.trackIndex = index

theorem writeTo_unclaimed (unclaimed : ¬Claims index observed.2) :
    maturity (writeTo config stampSec cycle index track observed) = maturity track ∧
      (writeTo config stampSec cycle index track observed = track ∨
        (writeTo config stampSec cycle index track observed).currentWarningEligible = false) := by
  -- Only a reciprocal match of the track could do more than freeze it.
  obtain ⟨observation, outcome⟩ := observed
  cases outcome with
  | contested trackIndices =>
    unfold writeTo
    dsimp only
    split_ifs
    · exact ⟨rfl, .inr rfl⟩
    · exact ⟨rfl, .inl rfl⟩
  | unowned => exact ⟨rfl, .inl rfl⟩
  | ambiguous pair =>
    unfold writeTo
    dsimp only
    split_ifs
    · exact ⟨rfl, .inr rfl⟩
    · exact ⟨rfl, .inl rfl⟩
  | reciprocal pair =>
    have other : pair.trackIndex ≠ index := fun same => unclaimed ⟨pair, rfl, same⟩
    have kept : writeTo config stampSec cycle index track (observation, .reciprocal pair) =
        track := if_neg other
    rw [kept]
    exact ⟨rfl, .inl rfl⟩

theorem writeAll_unclaimed (unclaimed : ∀ observed ∈ items, ¬Claims index observed.2)
    (track : CargoObstacleTrack) :
    maturity (items.foldl (writeTo config stampSec cycle index) track) = maturity track ∧
      (items.foldl (writeTo config stampSec cycle index) track = track ∨
        (items.foldl (writeTo config stampSec cycle index) track).currentWarningEligible =
          false) := by
  -- The maturity is kept by every single write.
  induction items generalizing track with
  | nil => exact ⟨rfl, .inl rfl⟩
  | cons head rest ih =>
    obtain ⟨headUnclaimed, restUnclaimed⟩ := List.forall_mem_cons.mp unclaimed
    obtain ⟨kept, first⟩ := @writeTo_unclaimed _ config stampSec cycle index track head
      headUnclaimed
    obtain ⟨keptToo, later⟩ := ih restUnclaimed
      (writeTo config stampSec cycle index track head)
    rw [List.foldl_cons]
    refine ⟨keptToo.trans kept, ?_⟩
    -- Once frozen, a track regains its eligibility only from a reciprocal match.
    rcases later with unchanged | frozen
    · rw [unchanged]
      exact first
    · exact .inr frozen

theorem writeAll_cases (notRivals : items.Pairwise NotRivals) (track : CargoObstacleTrack) :
    (maturity (items.foldl (writeTo config stampSec cycle index) track) = maturity track ∧
        ((items.foldl (writeTo config stampSec cycle index) track).currentWarningEligible = true →
          items.foldl (writeTo config stampSec cycle index) track = track)) ∨
      ∃ observation pair earlier, (observation, .reciprocal pair) ∈ items ∧
        pair.trackIndex = index ∧ maturity earlier = maturity track ∧
        maturity (items.foldl (writeTo config stampSec cycle index) track) =
          (maturity track).advance config stampSec observation cycle ∧
        ((items.foldl (writeTo config stampSec cycle index) track).currentWarningEligible = true →
          items.foldl (writeTo config stampSec cycle index) track =
            matched config stampSec observation cycle pair earlier) := by
  by_cases claimed : ∃ observed ∈ items, Claims index observed.2
  · -- The one reciprocal match splits the writes into those before and those after it.
    obtain ⟨⟨observation, outcome⟩, member, pair, rfl, here⟩ := claimed
    obtain ⟨before, after, rfl⟩ := List.append_of_mem member
    rw [List.pairwise_append, List.pairwise_cons] at notRivals
    obtain ⟨_, ⟨ahead, _⟩, across⟩ := notRivals
    have unclaimedBefore : ∀ observed ∈ before, ¬Claims index observed.2 := by
      intro observed among claims
      obtain ⟨pair', outcome, here'⟩ := claims
      exact across observed among _ List.mem_cons_self pair' pair outcome rfl
        (here'.trans here.symm)
    have unclaimedAfter : ∀ observed ∈ after, ¬Claims index observed.2 := by
      intro observed among claims
      obtain ⟨pair', outcome, here'⟩ := claims
      exact ahead observed among pair pair' rfl outcome (here.trans here'.symm)
    obtain ⟨keptBefore, _⟩ := @writeAll_unclaimed _ config stampSec cycle index before
      unclaimedBefore track
    have written : ∀ earlier, writeTo config stampSec cycle index earlier
        (observation, .reciprocal pair) = matched config stampSec observation cycle pair earlier :=
      fun earlier => if_pos here
    rw [List.foldl_append, List.foldl_cons, written]
    obtain ⟨keptAfter, final⟩ := @writeAll_unclaimed _ config stampSec cycle index after
      unclaimedAfter (matched config stampSec observation cycle pair
        (before.foldl (writeTo config stampSec cycle index) track))
    refine .inr ⟨observation, pair, _, member, here, keptBefore, ?_, ?_⟩
    · rw [keptAfter, matched_maturity, keptBefore]
    · intro eligible
      rcases final with unchanged | frozen
      · exact unchanged
      · rw [frozen] at eligible
        cases eligible
  · have unclaimed : ∀ observed ∈ items, ¬Claims index observed.2 := by
      intro observed member claims
      exact claimed ⟨observed, member, claims⟩
    obtain ⟨kept, final⟩ := @writeAll_unclaimed _ config stampSec cycle index items unclaimed track
    refine .inl ⟨kept, ?_⟩
    intro eligible
    rcases final with unchanged | frozen
    · exact unchanged
    · rw [frozen] at eligible
      cases eligible

end Writes

end NdtSlam.CargoObstacleTracker
