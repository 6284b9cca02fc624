import NdtSlam.Obstacle.Confirmation

/-! Over every run, the counters of each track stand for observations of that track. -/

namespace NdtSlam.CargoObstacleTracker

section Beginning

variable {self : CargoObstacleTracker} {stampSec : Scalar} {event : TrackerEvent}
  {track : CargoObstacleTrack}

theorem beginCycle_frame : (self.beginCycle stampSec).config = self.config ∧
    (self.beginCycle stampSec).hasStamp = true ∧
    (self.beginCycle stampSec).lastStampSec = stampSec := by
  -- The stamp and the configuration do not depend on a jump back in time.
  unfold beginCycle
  dsimp only
  split_ifs
  · exact ⟨rfl, rfl, rfl⟩
  · exact ⟨rfl, rfl, rfl⟩

theorem beginCycle_counts (steady : self.stampRolledBack stampSec = false) :
    (self.beginCycle stampSec).cycle = self.cycle + 1 ∧
      (self.beginCycle stampSec).nextTrackId = self.nextTrackId := by
  simp [beginCycle, steady]

theorem beginCycle_track (member : track ∈ (self.beginCycle stampSec).tracks) :
    self.stampRolledBack stampSec = false ∧ track.observedThisCycle = false ∧
      ∃ earlier ∈ self.tracks, maturity track = maturity earlier := by
  unfold beginCycle at member
  dsimp only at member
  -- A track that is not stale is kept, with two of its flags cleared.
  obtain ⟨earlier, kept, rfl⟩ := List.mem_map.mp member
  have present := List.mem_of_mem_filter kept
  split_ifs at present with rolledBack
  · -- A jump back in time leaves no track.
    cases present
  · exact ⟨by simpa using rolledBack, rfl, earlier, present, rfl⟩

theorem later_of_active (active : ¬Idle event) (stamped : event.before.hasStamp = true)
    (finite : event.before.lastStampSec.isFinite = true)
    (steady : event.before.stampRolledBack event.call.stampSec = false) :
    event.before.lastStampSec < event.call.stampSec := by
  -- Both stamps are rationals, so the failed comparison is a strict one the other way.
  obtain ⟨newest, newestEq⟩ := Scalar.isFinite_iff.1 finite
  obtain ⟨stamp, stampEq⟩ := Scalar.isFinite_iff.1 (active_usable active).2
  have epsilon : stampEpsilonSec = .fin (1 / 10000) := by
    show Scalar.fin (OfScientific.ofScientific 10 true 5) = _
    norm_num
  have fresh : event.before.stampRepeated event.call.stampSec = false := by
    by_contra repeated
    exact active (.inr (by simpa using repeated))
  simp only [stampRepeated, stamped, steady, Bool.not_false, Bool.true_and,
    decide_eq_false_iff_not] at fresh
  rw [newestEq, stampEq, epsilon, Scalar.fin_add_fin, Scalar.fin_le_fin] at fresh
  rw [newestEq, stampEq, Scalar.fin_lt_fin]
  linarith

end Beginning

section Creation

variable {config : CargoObstacleTrackerConfig} {stampSec : Scalar}
  {observation : CargoObstacleObservation} {cycle id : Nat} {first : Bool}

theorem created_maturity : maturity (created config stampSec observation cycle id first) =
    { trackId := id
      validated := if observation.sourceValidated then 1 else 0
      farCount := if qualifiesForFarHistory observation config then 1 else 0
      farFirstStampSec := if qualifiesForFarHistory observation config then stampSec else 0
      farValid :=
        config.farHistoryConfirmFrames ≤
            ((if qualifiesForFarHistory observation config then 1 else 0 : Nat) : Int) &&
          config.farHistoryConfirmDurationSec ≤ stampEpsilonSec
      lastStampSec := stampSec
      lastCycle := cycle
      poseAuthority := observation.poseAuthority } := by
  -- Sparse support only adds a frame to the ring, which is no maturity.
  unfold created
  dsimp only
  by_cases sparse : (supportKindOf observation config == .sparseMultiFrame) = true
  · rw [if_pos sparse]
    rfl
  · rw [if_neg sparse]
    rfl

theorem created_unconfirmed :
    (created config stampSec observation cycle id first).confirmed = false := by
  unfold created
  dsimp only
  by_cases sparse : (supportKindOf observation config == .sparseMultiFrame) = true
  · rw [if_pos sparse]
    rfl
  · rw [if_neg sparse]

theorem created_incomplete (frames : 2 ≤ config.farHistoryConfirmFrames) :
    (maturity (created config stampSec observation cycle id first)).farValid = false := by
  rw [created_maturity]
  simp only [Bool.and_eq_false_iff, decide_eq_false_iff_not]
  -- One observation is less than two frames.
  left
  split_ifs
  all_goals omega

variable [EuclideanNorm] {past : List TrackerEvent} {event : TrackerEvent}
  {after : CargoObstacleTracker}

theorem Grown.created (begins : Begins event id observation)
    (frames : 2 ≤ config.farHistoryConfirmFrames) (stamp : after.lastStampSec = event.call.stampSec)
    (next : id < after.nextTrackId) :
    Grown config (event :: past) after (maturity (CargoObstacleTracker.created config
      event.call.stampSec observation after.cycle id first)) := by
  -- All that matters of the new track is its maturity.
  have incomplete := @created_incomplete config event.call.stampSec observation after.cycle id first
    frames
  have shape := @created_maturity config event.call.stampSec observation after.cycle id first
  generalize maturity (CargoObstacleTracker.created config event.call.stampSec observation
    after.cycle id first) = grown at incomplete shape ⊢
  subst shape
  exact {
    named := next
    seen := le_rfl
    clock := fun _ => stamp.symm
    validated := by
      intro _ authorized positive
      dsimp only at authorized positive ⊢
      have validated : observation.sourceValidated = true := by
        by_contra unvalidated
        rw [if_neg unvalidated] at positive
        exact absurd positive (lt_irrefl 0)
      rw [if_pos validated]
      -- The observation alone is a run of length one.
      have counted : ValidatedBy id observation.poseAuthority event :=
        ⟨observation, .inr begins, validated, sameTemporalEvidenceAuthority_self authorized⟩
      exact ⟨event, event, rfl, .first counted past⟩
    far := by
      intro _ _ authorized positive
      dsimp only at authorized positive ⊢
      have qualifies : qualifiesForFarHistory observation config = true := by
        by_contra near
        rw [if_neg near] at positive
        exact absurd positive (lt_irrefl 0)
      obtain ⟨validated, distant⟩ := qualifies_distant qualifies
      rw [if_pos qualifies, if_pos qualifies]
      -- The observation alone is a run of length one.
      have counted : FarBy config id observation.poseAuthority event :=
        ⟨observation, .inr begins, validated, sameTemporalEvidenceAuthority_self authorized,
          distant⟩
      exact ⟨event, event, rfl, rfl, .first counted past⟩
    history := fun complete => absurd complete (by rw [incomplete]; decide) }

end Creation

section Cycle

variable [EuclideanNorm]

def finished (event : TrackerEvent) : CargoObstacleTracker :=
  (begun event).observeAll event.call.stampSec event.call.observations

variable {event : TrackerEvent} {stampSec : Scalar} {state : CargoObstacleTracker}
  {items : List (CargoObstacleObservation × AssociationOutcome)} {track : CargoObstacleTrack}

theorem observeItems_frame : (items.foldl (observe stampSec) state).config = state.config ∧
    (items.foldl (observe stampSec) state).cycle = state.cycle ∧
    (items.foldl (observe stampSec) state).hasStamp = state.hasStamp ∧
    (items.foldl (observe stampSec) state).lastStampSec = state.lastStampSec := by
  -- No single observation changes them.
  induction items generalizing state with
  | nil => exact ⟨rfl, rfl, rfl, rfl⟩
  | cons head rest ih =>
    obtain ⟨config, cycle, stamped, stamp⟩ := @observe_frame _ stampSec state head
    rw [List.foldl_cons, ← config, ← cycle, ← stamped, ← stamp]
    exact ih

theorem observeItems_next : (items.foldl (observe stampSec) state).nextTrackId =
    state.nextTrackId + items.countP fun item => isUnowned item.2 := by
  -- The ids are counted one observation at a time.
  induction items generalizing state with
  | nil => rfl
  | cons head rest ih =>
    rw [List.foldl_cons, ih, observe_next, List.countP_cons]
    omega

theorem update_active (active : ¬Idle event) :
    event.before.update event.call = (finished event, (finished event).project event.call.policy
      event.call.stampSec (hazardAmong event.before.config event.call.observations)) := by
  have usable : ¬event.before.callInvalid event.call.stampSec = true := fun invalid =>
    active (.inl invalid)
  have fresh : ¬event.before.stampRepeated event.call.stampSec = true := fun repeated =>
    active (.inr repeated)
  -- Both early returns are excluded.
  unfold update
  rw [if_neg usable, if_neg fresh]
  rfl

theorem update_idle (idle : Idle event) :
    (event.before.update event.call).1 = event.before ∧
      (event.before.update event.call).2.confirmedHazard = false := by
  -- Either early return answers without a confirmation.
  unfold update
  by_cases invalid : event.before.callInvalid event.call.stampSec = true
  · rw [if_pos invalid]
    exact ⟨rfl, rfl⟩
  · have repeated := idle.resolve_left invalid
    rw [if_neg invalid, if_pos repeated]
    exact ⟨rfl, rfl⟩

theorem finished_frame : (finished event).config = event.before.config ∧
    (finished event).cycle = (begun event).cycle ∧ (finished event).hasStamp = true ∧
    (finished event).lastStampSec = event.call.stampSec := by
  -- The begin of the cycle sets the clock, and the observations keep it.
  obtain ⟨config, cycle, stamped, stamp⟩ := @observeItems_frame _ event.call.stampSec
    (begun event) (frame event)
  obtain ⟨config', stamped', stamp'⟩ := @beginCycle_frame event.before event.call.stampSec
  exact ⟨config.trans config', cycle, stamped.trans stamped', stamp.trans stamp'⟩

inductive Outcome (event : TrackerEvent) (track : CargoObstacleTrack) : Prop where
  | alone {start : CargoObstacleTrack} (present : start ∈ (begun event).tracks)
      (unchanged : maturity track = maturity start)
      (eligible : track.currentWarningEligible = true → track = start) : Outcome event track
  | advanced {start earlier : CargoObstacleTrack} {observation : CargoObstacleObservation}
      {pair : AssociationPair} (present : start ∈ (begun event).tracks)
      (matches_ : Matches event start.trackId observation)
      (valid : validObservation observation event.before.config = true)
      (same : maturity earlier = maturity start)
      (matured : maturity track = (maturity start).advance event.before.config
        event.call.stampSec observation (finished event).cycle)
      (eligible : track.currentWarningEligible = true → track = matched event.before.config
        event.call.stampSec observation (finished event).cycle pair earlier) : Outcome event track
  | begun {observation : CargoObstacleObservation} {id : Nat} {first : Bool}
      (begins : Begins event id observation) (next : id < (finished event).nextTrackId)
      (fresh : track = created event.before.config event.call.stampSec observation
        (finished event).cycle id first) : Outcome event track

theorem finished_cases (active : ¬Idle event) (member : track ∈ (finished event).tracks) :
    Outcome event track := by
  obtain ⟨index, position⟩ := List.mem_iff_getElem?.mp member
  have config : (begun event).config = event.before.config := beginCycle_frame.1
  have cycle : (finished event).cycle = (begun event).cycle := finished_frame.2.1
  -- The track was there at the begin of the cycle, or was begun within it.
  rcases observeItems_track cycleOutcomes_inBounds le_rfl position with written | new
  · obtain ⟨start, found, written⟩ := written
    rw [config, ← cycle] at written
    have present := List.mem_of_getElem? found
    have cases_ := @writeAll_cases _ event.before.config event.call.stampSec
      (finished event).cycle index _ (@cycleOutcomes_notRivals _ (begun event) event.call.stampSec
        event.call.observations) start
    rw [← written] at cases_
    rcases cases_ with ⟨unchanged, eligible⟩ | advanced
    · exact .alone present unchanged eligible
    · obtain ⟨observation, pair, earlier, matching, rfl, same, matured, eligible⟩ := advanced
      -- Only the order of its cells tells the observation from the one that was checked.
      obtain ⟨original, _, valid, cells, rearranged⟩ := cycleOutcomes_valid matching
      have checked : validObservation observation event.before.config = true := by
        have same : observation = { original with occupiedMapCells := cells } := rearranged
        rw [same]
        rw [config] at valid
        exact valid
      exact .advanced present ⟨active, pair, start, matching, found, rfl⟩ checked same
        matured eligible
  · obtain ⟨before, observation, after, first, split, fresh⟩ := new
    rw [config, ← cycle] at fresh
    refine .begun ⟨active, before, after, split, rfl⟩ ?_ fresh
    -- The id of the new track lies among those that the cycle has used up.
    have next : (finished event).nextTrackId = (begun event).nextTrackId +
        (frame event).countP fun item => isUnowned item.2 := observeItems_next
    have all : frame event = before ++ (observation, .unowned) :: after := split
    rw [next, all, List.countP_append, List.countP_cons]
    simp only [isUnowned, if_true]
    omega

end Cycle

section Runs

variable [EuclideanNorm] {config : CargoObstacleTrackerConfig} {past : List TrackerEvent}
  {event : TrackerEvent}

theorem update_tracked (tracked : Tracked config past event.before) :
    Tracked config (event :: past) (event.before.update event.call).1 := by
  by_cases active : Idle event
  · rw [(update_idle active).1]
    exact { tracked with
      grown := fun track member => (tracked.grown track member).idle active }
  -- The call finishes a cycle, in which each track is left alone, advanced or begun.
  obtain ⟨valid, finite⟩ := active_usable active
  rw [tracked.configured] at valid
  have frames := (frames_at_least_two valid).2
  obtain ⟨configured, cycle, stamped, stamp⟩ := @finished_frame _ event
  rw [update_active active]
  exact {
    configured := configured.trans tracked.configured
    stamped := fun _ => stamped
    finite := fun _ => by
      rw [stamp]
      exact finite
    grown := by
      intro track member
      have used : (finished event).nextTrackId = (begun event).nextTrackId + _ :=
        observeItems_next
      -- A track that was there before shows that the call is no jump back in time.
      have earlier : ∀ start ∈ (begun event).tracks,
          Grown config past event.before (maturity start) ∧
            (finished event).cycle = event.before.cycle + 1 ∧
            event.before.nextTrackId ≤ (finished event).nextTrackId ∧
            event.before.lastStampSec < event.call.stampSec := by
        intro start present
        obtain ⟨steady, _, before, among, same⟩ := beginCycle_track present
        obtain ⟨counted, kept⟩ := beginCycle_counts steady
        have stampedBefore := tracked.stamped (List.ne_nil_of_mem among)
        refine ⟨?_, cycle.trans counted, ?_, ?_⟩
        · rw [same]
          exact tracked.grown before among
        · rw [used]
          exact le_add_right kept.ge
        · exact later_of_active active stampedBefore (tracked.finite stampedBefore) steady
      cases finished_cases active member with
      | @alone start present unchanged _ =>
        obtain ⟨supported, step, next, _⟩ := earlier start present
        rw [unchanged]
        exact supported.carried step next ⟨start, present, rfl⟩
      | @advanced start _ _ _ present matches_ _ _ matured _ =>
        obtain ⟨supported, step, next, later⟩ := earlier start present
        rw [matured, tracked.configured]
        exact supported.advance (.inl matches_) ⟨start, present, rfl⟩ frames step stamp next later
      | begun begins next fresh =>
        rw [fresh, tracked.configured]
        exact Grown.created begins frames stamp next }

theorem run_tracked (config : CargoObstacleTrackerConfig) (calls : List TrackerCall) :
    Tracked config ((machine config).trace calls) ((machine config).run calls) := by
  -- A new tracker has no tracks, and every call keeps the invariant.
  refine (machine config).run_invariant ?_ ?_ calls
  · exact {
      configured := rfl
      stamped := fun some_ => absurd rfl some_
      finite := fun stamped => nomatch stamped
      grown := fun track member => nomatch member }
  · intro past state call tracked
    exact @update_tracked _ config past ⟨state, call⟩ tracked

end Runs

section Identity

structure Numbered (state : CargoObstacleTracker) : Prop where
  used : ∀ id ∈ state.tracks.map (·.trackId), id < state.nextTrackId
  distinct : (state.tracks.map (·.trackId)).Nodup

theorem modify_trackIds {change : CargoObstacleTrack → CargoObstacleTrack}
    (keeps : ∀ track, (change track).trackId = track.trackId) (index : Nat)
    (tracks : List CargoObstacleTrack) :
    (tracks.modify index change).map (·.trackId) = tracks.map (·.trackId) := by
  -- Position by position, the id is that of the track before.
  apply List.ext_getElem?
  intro position
  rw [List.getElem?_map, List.getElem?_map, List.getElem?_modify]
  cases tracks[position]? with
  | none => rfl
  | some track =>
    split_ifs
    · exact congrArg some (keeps track)
    · rfl

theorem freezeAll_trackIds (observation : CargoObstacleObservation) (trackIndices : List Nat)
    (tracks : List CargoObstacleTrack) :
    (trackIndices.foldl
        (fun tracks index => tracks.modify index (freezeAuthority observation)) tracks).map
        (·.trackId) = tracks.map (·.trackId) := by
  -- Freezing does not change an id.
  induction trackIndices generalizing tracks with
  | nil => rfl
  | cons head rest ih =>
    rw [List.foldl_cons, ih]
    exact @modify_trackIds (freezeAuthority observation) (fun _ => rfl) head tracks

variable {stampSec : Scalar} {self : CargoObstacleTracker}

theorem beginCycle_numbered (numbered : Numbered self) : Numbered (self.beginCycle stampSec) := by
  -- Clearing flags does not change an id.
  have removed : ∀ (keep : CargoObstacleTrack → Bool) (base : List CargoObstacleTrack),
      ((base.filter keep).map fun track => { track with
        observedThisCycle := false, sparseToDenseThisCycle := false }).map (·.trackId) =
      (base.filter keep).map (·.trackId) := by
    intro keep base
    rw [List.map_map]
    rfl
  unfold beginCycle
  dsimp only
  split_ifs with rolledBack
  · exact ⟨by simp [reset], by simp [reset]⟩
  · constructor
    · intro id member
      rw [removed] at member
      obtain ⟨track, kept, rfl⟩ := List.mem_map.mp member
      exact numbered.used _ (List.mem_map_of_mem (List.mem_of_mem_filter kept))
    · rw [removed]
      exact (List.filter_sublist.map _).nodup numbered.distinct

variable [EuclideanNorm] {observed : CargoObstacleObservation × AssociationOutcome}

theorem observe_trackIds : (observe stampSec self observed).tracks.map (·.trackId) =
    self.tracks.map (·.trackId) ++ if isUnowned observed.2 then [self.nextTrackId] else [] := by
  obtain ⟨observation, outcome⟩ := observed
  cases outcome with
  | contested trackIndices =>
    exact (freezeAll_trackIds observation trackIndices self.tracks).trans (List.append_nil _).symm
  | unowned =>
    -- The new track carries the next id.
    have named : (created self.config stampSec observation self.cycle self.nextTrackId
        self.tracks.isEmpty).trackId = self.nextTrackId :=
      congrArg Maturity.trackId created_maturity
    have grown : (observe stampSec self (observation, .unowned)).tracks = self.tracks ++
        [created self.config stampSec observation self.cycle self.nextTrackId
          self.tracks.isEmpty] := rfl
    rw [grown, List.map_append, List.map_singleton, named]
    rfl
  | ambiguous pair =>
    have kept := @modify_trackIds (fun track =>
      freezeAuthority observation (recordPair observation pair track)) (fun _ => rfl)
      pair.trackIndex self.tracks
    exact kept.trans (List.append_nil _).symm
  | reciprocal pair =>
    have kept := @modify_trackIds (matched self.config stampSec observation self.cycle pair)
      (fun _ => (congrArg Maturity.trackId matched_maturity).trans advance_trackId)
      pair.trackIndex self.tracks
    exact kept.trans (List.append_nil _).symm

theorem observe_numbered (numbered : Numbered self) :
    Numbered (observe stampSec self observed) := by
  -- Either no id is added, or the next one.
  cases unowned : isUnowned observed.2 with
  | false =>
    constructor
    · intro id member
      rw [observe_trackIds, unowned] at member
      rw [observe_next, unowned]
      exact numbered.used id (by simpa using member)
    · rw [observe_trackIds, unowned]
      simpa using numbered.distinct
  | true =>
    constructor
    · intro id member
      rw [observe_trackIds, unowned, if_pos rfl, List.mem_append, List.mem_singleton] at member
      rw [observe_next, unowned, if_pos rfl]
      rcases member with old | rfl
      · exact Nat.lt_succ_of_lt (numbered.used id old)
      · exact Nat.lt_succ_self _
    · rw [observe_trackIds, unowned, if_pos rfl, List.nodup_append]
      refine ⟨numbered.distinct, List.nodup_singleton _, ?_⟩
      -- The next id lies above all that are in use.
      intro id old next new
      rw [List.mem_singleton.mp new]
      exact (numbered.used id old).ne

theorem observeItems_numbered (items : List (CargoObstacleObservation × AssociationOutcome))
    (numbered : Numbered self) : Numbered (items.foldl (observe stampSec) self) := by
  induction items generalizing self with
  | nil => exact numbered
  | cons head rest ih => exact ih (observe_numbered numbered)

theorem run_numbered (config : CargoObstacleTrackerConfig) (calls : List TrackerCall) :
    Numbered ((machine config).run calls) := by
  -- A new tracker has no tracks, and every call keeps the ids distinct.
  refine @Machine.run_invariant _ _ _ (machine config) (fun _ state => Numbered state) ?_ ?_ calls
  · exact ⟨by simp [machine], List.nodup_nil⟩
  · intro past state call numbered
    show Numbered (state.update call).1
    by_cases active : Idle ⟨state, call⟩
    · have kept : (state.update call).1 = state := (update_idle active).1
      rw [kept]
      exact numbered
    · have step : (state.update call).1 = finished ⟨state, call⟩ :=
        congrArg Prod.fst (update_active active)
      rw [step]
      exact observeItems_numbered _ (beginCycle_numbered numbered)

def Retires (id : Nat) (state : CargoObstacleTracker) : Prop :=
  Retired id state.nextTrackId (state.tracks.map (·.trackId))

theorem observeItems_retires {id : Nat}
    (items : List (CargoObstacleObservation × AssociationOutcome)) (retires : self.Retires id) :
    (items.foldl (observe stampSec) self).Retires id := by
  -- An observation can only begin a track under the next id.
  induction items generalizing self with
  | nil => exact retires
  | cons head rest ih =>
    refine ih ?_
    unfold Retires
    rw [observe_next, observe_trackIds]
    exact retires.grow

theorem update_retires {id : Nat} {call : TrackerCall} (retires : self.Retires id)
    (steady : ¬self.stampRolledBack call.stampSec = true) : (self.update call).1.Retires id := by
  by_cases active : Idle ⟨self, call⟩
  · have kept : (self.update call).1 = self := (update_idle active).1
    rwa [kept]
  · have step : (self.update call).1 = finished ⟨self, call⟩ :=
      congrArg Prod.fst (update_active active)
    rw [step]
    -- The tracks of the begun cycle are some of those before it.
    refine observeItems_retires _ ⟨?_, fun member => retires.2 ?_⟩
    · exact retires.1.trans_eq (beginCycle_counts (by simpa using steady)).2.symm
    · obtain ⟨track, present, rfl⟩ := List.mem_map.mp member
      obtain ⟨-, -, earlier, among, same⟩ := beginCycle_track present
      exact List.mem_map.mpr ⟨earlier, among, congrArg Maturity.trackId same.symm⟩

/-- Until the time jumps back, the id of a track that is gone never names another track. -/
theorem trackId_never_reused (config : CargoObstacleTrackerConfig) {newer older : List TrackerCall}
    {id : Nat} (steady : ¬(machine config).During
      (fun state call => state.stampRolledBack call.stampSec = true) newer older)
    (gone : ((machine config).run older).Retires id) :
    ((machine config).run (newer ++ older)).Retires id :=
  @Machine.run_carried _ _ _ (machine config) (Retires id) _
    (fun _ _ steady gone => update_retires gone steady) _ _ steady gone

end Identity

end NdtSlam.CargoObstacleTracker
