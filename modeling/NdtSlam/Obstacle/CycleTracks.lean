import Mathlib.Data.List.Pairwise
import NdtSlam.Obstacle.Tracker

/-! What one cycle of the tracker does to each track. -/

namespace NdtSlam.CargoObstacleTracker

section Grants

variable {pairs : List AssociationPair} {pair : AssociationPair}

def Apart (first second : AssociationPair) : Prop :=
  first.observationIndex ≠ second.observationIndex ∧ first.trackIndex ≠ second.trackIndex

theorem grant_keeps {granted : List AssociationPair} (legal : ∀ other ∈ granted, other ∈ pairs)
    (apart : granted.Pairwise Apart) (member : pair ∈ pairs) :
    (∀ other ∈ grant granted pair, other ∈ pairs) ∧ (grant granted pair).Pairwise Apart := by
  unfold grant
  split_ifs with taken
  · exact ⟨legal, apart⟩
  · -- The new pair shares nothing with an earlier one.
    have free : ∀ other ∈ granted, Apart other pair := by
      intro other among
      simp only [List.any_eq_true, not_exists, not_and, Bool.or_eq_true, beq_iff_eq, not_or]
        at taken
      exact taken other among
    constructor
    · intro other among
      rcases List.mem_append.mp among with among | among
      · exact legal other among
      · rw [List.mem_singleton.mp among]
        exact member
    · rw [List.pairwise_append]
      refine ⟨apart, List.pairwise_singleton _ _, ?_⟩
      intro other among last same
      rw [List.mem_singleton.mp same]
      exact free other among

theorem grantedPairs_sound (pairs : List AssociationPair) :
    (∀ pair ∈ grantedPairs pairs, pair ∈ pairs) ∧ (grantedPairs pairs).Pairwise Apart := by
  -- Generalize over the pairs granted before and the pairs still to come.
  have general : ∀ (rest granted : List AssociationPair), (∀ pair ∈ rest, pair ∈ pairs) →
      (∀ pair ∈ granted, pair ∈ pairs) → granted.Pairwise Apart →
      (∀ pair ∈ rest.foldl grant granted, pair ∈ pairs) ∧
        (rest.foldl grant granted).Pairwise Apart := by
    intro rest
    induction rest with
    | nil =>
      intro granted _ legal apart
      exact ⟨legal, apart⟩
    | cons head rest ih =>
      intro granted coming legal apart
      obtain ⟨headLegal, restLegal⟩ := List.forall_mem_cons.mp coming
      obtain ⟨legal', apart'⟩ := grant_keeps legal apart headLegal
      exact ih (grant granted head) restLegal legal' apart'
  exact general pairs [] (fun _ member => member) (by simp) List.Pairwise.nil

theorem granted_track_unique {first second : AssociationPair}
    (granted : first ∈ grantedPairs pairs) (granted' : second ∈ grantedPairs pairs)
    (same : first.trackIndex = second.trackIndex) : first = second := by
  by_contra different
  have symmetric : Std.Symm (Apart) := ⟨fun _ _ apart => ⟨apart.1.symm, apart.2.symm⟩⟩
  exact ((grantedPairs_sound pairs).2.forall granted granted' different).2 same

def grantOf : AssociationOutcome → Option AssociationPair
  | .contested _ => none
  | .unowned => none
  | .ambiguous pair => some pair
  | .reciprocal pair => some pair

theorem outcomeOf_grant {index : Nat} (grants : grantOf (outcomeOf pairs index) = some pair) :
    pair ∈ grantedPairs pairs ∧ pair.observationIndex = index := by
  unfold outcomeOf at grants
  cases found : (grantedPairs pairs).find? (fun pair => pair.observationIndex == index) with
  | none =>
    -- An observation without a granted pair is contested or unowned.
    rw [found] at grants
    dsimp only at grants
    split_ifs at grants
    all_goals cases grants
  | some granted =>
    rw [found] at grants
    have named := List.find?_some found
    have member := List.mem_of_find?_eq_some found
    dsimp only at grants
    split_ifs at grants
    all_goals
      cases grants
      exact ⟨member, by simpa using named⟩

def InBounds (bound : Nat) : AssociationOutcome → Prop
  | .contested trackIndices => ∀ index ∈ trackIndices, index < bound
  | .unowned => True
  | .ambiguous pair => pair.trackIndex < bound
  | .reciprocal pair => pair.trackIndex < bound

theorem outcomeOf_inBounds {bound : Nat} (legal : ∀ pair ∈ pairs, pair.trackIndex < bound)
    (index : Nat) : InBounds bound (outcomeOf pairs index) := by
  unfold outcomeOf
  cases found : (grantedPairs pairs).find? (fun pair => pair.observationIndex == index) with
  | none =>
    dsimp only
    split_ifs
    · -- The competitors come from legal pairs.
      intro trackIndex member
      obtain ⟨pair, owned, rfl⟩ := List.mem_map.mp member
      exact legal pair (List.mem_of_mem_filter owned)
    · trivial
  | some granted =>
    -- A granted pair is a legal one.
    have member := (grantedPairs_sound pairs).1 granted (List.mem_of_find?_eq_some found)
    dsimp only
    split_ifs
    · exact legal granted member
    · exact legal granted member

end Grants

section Frame

variable [EuclideanNorm]

theorem legalPairs_inBounds {config : CargoObstacleTrackerConfig} {stampSec : Scalar}
    {observations : List CargoObstacleObservation} {tracks : List CargoObstacleTrack} :
    ∀ pair ∈ legalPairs config stampSec observations tracks, pair.trackIndex < tracks.length := by
  intro pair member
  -- Sorting keeps the members, each of which comes from an indexed track.
  unfold legalPairs at member
  rw [List.mem_insertionSort] at member
  obtain ⟨observed, _, among⟩ := List.mem_flatMap.mp member
  obtain ⟨tracked, indexed, legal⟩ := List.mem_filterMap.mp among
  have position := List.mem_zipIdx_iff_getElem?.mp indexed
  have named : pair.trackIndex = tracked.2 := by
    unfold legalPair at legal
    dsimp only at legal
    split_ifs at legal
    all_goals
      cases legal
      rfl
  rw [named]
  exact (List.getElem?_eq_some_iff.mp position).1

variable {self : CargoObstacleTracker} {stampSec : Scalar}
  {observations : List CargoObstacleObservation}

theorem cycleOutcomes_inBounds : ∀ observed ∈ self.cycleOutcomes stampSec observations,
    InBounds self.tracks.length observed.2 := by
  intro observed member
  obtain ⟨indexed, _, rfl⟩ := List.mem_map.mp member
  exact outcomeOf_inBounds legalPairs_inBounds indexed.2

theorem cycleOutcomes_grants_apart : (self.cycleOutcomes stampSec observations).Pairwise
    fun first second => ∀ pair pair', grantOf first.2 = some pair → grantOf second.2 = some pair' →
      pair.trackIndex ≠ pair'.trackIndex := by
  unfold cycleOutcomes outcomes
  rw [List.pairwise_map]
  -- Observations of distinct indices are granted distinct pairs.
  have distinct : (validObservations self.config observations).zipIdx.Pairwise
      fun first second => first.2 ≠ second.2 := by
    have indices : ((validObservations self.config observations).zipIdx.map Prod.snd).Nodup := by
      rw [List.zipIdx_map_snd]
      exact List.nodup_range'
    exact List.pairwise_map.mp indices
  refine distinct.imp ?_
  intro first second apart pair pair' grants grants' same
  obtain ⟨granted, index⟩ := outcomeOf_grant grants
  obtain ⟨granted', index'⟩ := outcomeOf_grant grants'
  apply apart
  rw [← index, ← index', granted_track_unique granted granted' same]

def NotRivals (first second : CargoObstacleObservation × AssociationOutcome) : Prop :=
  ∀ pair pair', first.2 = .reciprocal pair → second.2 = .reciprocal pair' →
    pair.trackIndex ≠ pair'.trackIndex

theorem cycleOutcomes_notRivals :
    (self.cycleOutcomes stampSec observations).Pairwise NotRivals := by
  refine cycleOutcomes_grants_apart.imp ?_
  intro first second apart pair pair' outcome outcome'
  exact apart pair pair' (congrArg grantOf outcome) (congrArg grantOf outcome')

theorem cycleOutcomes_valid {observed : CargoObstacleObservation × AssociationOutcome}
    (member : observed ∈ self.cycleOutcomes stampSec observations) :
    ∃ original ∈ observations, validObservation original self.config = true ∧
      ∃ cells, observed.1 = { original with occupiedMapCells := cells } := by
  -- Sorting and indexing keep the observations that passed the check.
  obtain ⟨indexed, among, rfl⟩ := List.mem_map.mp member
  have position := List.mem_of_getElem? (List.mem_zipIdx_iff_getElem?.mp among)
  unfold validObservations at position
  rw [List.mem_insertionSort] at position
  obtain ⟨original, kept, same⟩ := List.mem_map.mp position
  obtain ⟨present, valid⟩ := List.mem_filter.mp kept
  exact ⟨original, present, valid, _, same.symm⟩

end Frame

section Freezing

variable {index : Nat}

theorem freezeAll_getElem? (observation : CargoObstacleObservation) (trackIndices : List Nat)
    (tracks : List CargoObstacleTrack) :
    (trackIndices.foldl
        (fun tracks index => tracks.modify index (freezeAuthority observation)) tracks)[index]? =
      (tracks[index]?).map fun track =>
        if index ∈ trackIndices then freezeAuthority observation track else track := by
  -- Each index freezes one track, whatever the others do.
  induction trackIndices generalizing tracks with
  | nil => simp
  | cons head rest ih =>
    rw [List.foldl_cons, ih, List.getElem?_modify]
    by_cases here : head = index
    · -- A track frozen twice is as if frozen once.
      cases tracks[index]? with
      | none => simp
      | some track =>
        by_cases again : index ∈ rest
        all_goals simp [here, again, freezeAuthority]
    · cases tracks[index]? with
      | none => simp
      | some track => simp [here, Ne.symm here]

end Freezing

section Loop

variable [EuclideanNorm]

def isUnowned : AssociationOutcome → Bool
  | .unowned => true
  | _ => false

def writeTo (config : CargoObstacleTrackerConfig) (stampSec : Scalar) (cycle index : Nat)
    (track : CargoObstacleTrack) (observed : CargoObstacleObservation × AssociationOutcome) :
    CargoObstacleTrack :=
  match observed.2 with
  | .contested trackIndices =>
    if index ∈ trackIndices then freezeAuthority observed.1 track else track
  | .unowned => track
  | .ambiguous pair =>
    if pair.trackIndex = index then
      freezeAuthority observed.1 (recordPair observed.1 pair track)
    else track
  | .reciprocal pair =>
    if pair.trackIndex = index then matched config stampSec observed.1 cycle pair track else track

variable {stampSec : Scalar} {state : CargoObstacleTracker}
  {observed : CargoObstacleObservation × AssociationOutcome}
  {items : List (CargoObstacleObservation × AssociationOutcome)} {index : Nat}

theorem observe_frame : (observe stampSec state observed).config = state.config ∧
    (observe stampSec state observed).cycle = state.cycle ∧
    (observe stampSec state observed).hasStamp = state.hasStamp ∧
    (observe stampSec state observed).lastStampSec = state.lastStampSec := by
  -- Every outcome writes to the tracks and to the counters only.
  obtain ⟨observation, outcome⟩ := observed
  cases outcome with
  | contested => exact ⟨rfl, rfl, rfl, rfl⟩
  | unowned => exact ⟨rfl, rfl, rfl, rfl⟩
  | ambiguous => exact ⟨rfl, rfl, rfl, rfl⟩
  | reciprocal => exact ⟨rfl, rfl, rfl, rfl⟩

theorem observe_next : (observe stampSec state observed).nextTrackId =
    state.nextTrackId + if isUnowned observed.2 then 1 else 0 := by
  obtain ⟨observation, outcome⟩ := observed
  cases outcome with
  | contested => rfl
  | unowned => rfl
  | ambiguous => rfl
  | reciprocal => rfl

theorem observe_track (existing : index < state.tracks.length) :
    (observe stampSec state observed).tracks[index]? = (state.tracks[index]?).map fun track =>
      writeTo state.config stampSec state.cycle index track observed := by
  obtain ⟨observation, outcome⟩ := observed
  cases outcome with
  | contested trackIndices => exact freezeAll_getElem? observation trackIndices state.tracks
  | unowned =>
    -- A new track is appended behind the existing ones.
    have kept : (observe stampSec state (observation, .unowned)).tracks[index]? =
        state.tracks[index]? := List.getElem?_append_left existing
    rw [kept]
    simp [writeTo]
  | ambiguous pair =>
    have written : (observe stampSec state (observation, .ambiguous pair)).tracks =
        state.tracks.modify pair.trackIndex fun track =>
          freezeAuthority observation (recordPair observation pair track) := rfl
    rw [written, List.getElem?_modify]
    simp only [writeTo]
    cases state.tracks[index]? with
    | none => simp
    | some track => split_ifs <;> simp_all
  | reciprocal pair =>
    have written : (observe stampSec state (observation, .reciprocal pair)).tracks =
        state.tracks.modify pair.trackIndex
          (matched state.config stampSec observation state.cycle pair) := rfl
    rw [written, List.getElem?_modify]
    simp only [writeTo]
    cases state.tracks[index]? with
    | none => simp
    | some track => split_ifs <;> simp_all

theorem observe_begun (beyond : state.tracks.length ≤ index) {track : CargoObstacleTrack}
    (found : (observe stampSec state observed).tracks[index]? = some track) :
    isUnowned observed.2 = true ∧ ∃ first, track = created state.config stampSec observed.1
      state.cycle state.nextTrackId first := by
  obtain ⟨observation, outcome⟩ := observed
  cases outcome with
  | contested trackIndices =>
    -- Freezing does not make the list longer.
    have kept := @freezeAll_getElem? index observation trackIndices state.tracks
    rw [List.getElem?_eq_none beyond] at kept
    rw [show (observe stampSec state (observation, .contested trackIndices)).tracks[index]? = none
      from kept] at found
    cases found
  | unowned =>
    have grown : (observe stampSec state (observation, .unowned)).tracks = state.tracks ++
        [created state.config stampSec observation state.cycle state.nextTrackId
          state.tracks.isEmpty] := rfl
    rw [grown, List.getElem?_append_right beyond] at found
    -- Nothing but the appended track lies beyond the existing ones.
    have only := List.mem_of_getElem? found
    exact ⟨rfl, _, List.mem_singleton.mp only⟩
  | ambiguous pair =>
    have written : (observe stampSec state (observation, .ambiguous pair)).tracks =
        state.tracks.modify pair.trackIndex fun track =>
          freezeAuthority observation (recordPair observation pair track) := rfl
    rw [written, List.getElem?_modify, List.getElem?_eq_none beyond] at found
    cases found
  | reciprocal pair =>
    have written : (observe stampSec state (observation, .reciprocal pair)).tracks =
        state.tracks.modify pair.trackIndex
          (matched state.config stampSec observation state.cycle pair) := rfl
    rw [written, List.getElem?_modify, List.getElem?_eq_none beyond] at found
    cases found

theorem observe_length : state.tracks.length ≤ (observe stampSec state observed).tracks.length := by
  by_contra shorter
  -- A lost position would still hold a track that was written to.
  have position : state.tracks.length - 1 < state.tracks.length := by omega
  have kept := @observe_track _ stampSec state observed _ position
  rw [List.getElem?_eq_getElem position, List.getElem?_eq_none (by omega)] at kept
  simp at kept

theorem writeTo_beyond {bound : Nat} (inBounds : InBounds bound observed.2)
    (beyond : bound ≤ index) (config : CargoObstacleTrackerConfig) (cycle : Nat)
    (track : CargoObstacleTrack) :
    writeTo config stampSec cycle index track observed = track := by
  -- Every index that is written to lies below the bound.
  obtain ⟨observation, outcome⟩ := observed
  cases outcome with
  | contested trackIndices =>
    have absent : index ∉ trackIndices := by
      intro member
      have within := inBounds index member
      omega
    exact if_neg absent
  | unowned => rfl
  | ambiguous pair =>
    have other : pair.trackIndex ≠ index := by
      have within : pair.trackIndex < bound := inBounds
      omega
    exact if_neg other
  | reciprocal pair =>
    have other : pair.trackIndex ≠ index := by
      have within : pair.trackIndex < bound := inBounds
      omega
    exact if_neg other

theorem writeAll_beyond {bound : Nat} (inBounds : ∀ observed ∈ items, InBounds bound observed.2)
    (beyond : bound ≤ index) (config : CargoObstacleTrackerConfig) (cycle : Nat)
    (track : CargoObstacleTrack) :
    items.foldl (writeTo config stampSec cycle index) track = track := by
  -- One observation after the other leaves the track alone.
  induction items with
  | nil => rfl
  | cons head rest ih =>
    obtain ⟨headBounds, restBounds⟩ := List.forall_mem_cons.mp inBounds
    rw [List.foldl_cons, writeTo_beyond headBounds beyond]
    exact ih restBounds

theorem observeItems_track {bound : Nat} {track : CargoObstacleTrack}
    (inBounds : ∀ observed ∈ items, InBounds bound observed.2)
    (enough : bound ≤ state.tracks.length)
    (found : (items.foldl (observe stampSec) state).tracks[index]? = some track) :
    (∃ start, state.tracks[index]? = some start ∧
        track = items.foldl (writeTo state.config stampSec state.cycle index) start) ∨
      ∃ before observation after first, items = before ++ (observation, .unowned) :: after ∧
        track = created state.config stampSec observation state.cycle
          (state.nextTrackId + before.countP fun item => isUnowned item.2) first := by
  -- Either the track existed before the first observation, or that one began it.
  induction items generalizing state with
  | nil => exact .inl ⟨track, found, rfl⟩
  | cons head rest ih =>
    obtain ⟨headBounds, restBounds⟩ := List.forall_mem_cons.mp inBounds
    obtain ⟨config, cycle, _⟩ := @observe_frame _ stampSec state head
    have grows := @observe_length _ stampSec state head
    rcases ih restBounds (enough.trans grows) found with ⟨next, position, written⟩ | begun
    · rw [config, cycle] at written
      rcases lt_or_ge index state.tracks.length with existing | new
      · -- The track existed, and the first observation wrote to it first.
        rw [observe_track existing] at position
        obtain ⟨start, position, same⟩ := Option.map_eq_some_iff.mp position
        exact .inl ⟨start, position, by rw [written, List.foldl_cons, same]⟩
      · -- The first observation began the track, and no later one writes to it.
        obtain ⟨unowned, first, same⟩ := observe_begun new position
        rw [writeAll_beyond restBounds (enough.trans new)] at written
        obtain ⟨observation, outcome⟩ := head
        cases outcome with
        | unowned => exact .inr ⟨[], observation, rest, first, rfl, by rw [written, same]; rfl⟩
        | contested => cases unowned
        | ambiguous => cases unowned
        | reciprocal => cases unowned
    · obtain ⟨before, observation, after, first, split, same⟩ := begun
      refine .inr ⟨head :: before, observation, after, first, by rw [split]; rfl, ?_⟩
      rw [same, config, cycle, observe_next, List.countP_cons]
      congr 1
      split_ifs <;> omega

end Loop

end NdtSlam.CargoObstacleTracker
