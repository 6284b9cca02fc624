import NdtSlam.Foundation.Extrema
import NdtSlam.Human.BlockedCells

/-! What the tracks of people count, when no two people of a frame fall to one track. -/

namespace NdtSlam.HumanObjectDynamicFilter

structure MapTracksCall where
  classification : HumanFrameClassification
  transform : Matrix4
  cellSizeM : Scalar

structure AcceptedFrame where
  stamp : Scalar
  touched : List Int

section Runs

variable [EuclideanNorm]

def touchedTracks (self : HumanObjectDynamicFilter) (classification : HumanFrameClassification)
    (T : Matrix4) : List Int :=
  let leftOver := (matchDetections self.trackingConfig classification.sourceStampSec
    (ageTracks self.activeTracks) (classification.clusters.map (detect T))).2
  ((assigned self classification T).map Prod.snd).filter (0 ≤ ·) ++
    (createTracks classification.sourceStampSec self.nextTrackId leftOver).map (·.id)

def runTracks (config : HumanTrackingConfig) :
    List MapTracksCall → HumanObjectDynamicFilter × List AcceptedFrame
  | [] => ({ trackingConfig := config }, [])
  | call :: earlier =>
    let (self, frames) := runTracks config earlier
    let answer := self.updateMapTracks call.classification call.transform call.cellSizeM
    (answer.1,
      if answer.2.valid then
        ⟨call.classification.sourceStampSec,
          touchedTracks self call.classification call.transform⟩ :: frames
      else frames)

def updatesOf (frames : List AcceptedFrame) (id : Int) : List Scalar :=
  frames.flatMap fun frame => List.replicate (frame.touched.count id) frame.stamp

structure CountsFrames (config : HumanTrackingConfig) (updates : List Scalar)
    (track : HumanTrack) : Prop where
  once : updates.Pairwise (· > ·)
  observed : track.observedFrames = updates.length
  remembered : track.timestampHistory.reverse <+: updates
  positions : track.centroidMapHistory.length = track.timestampHistory.length
  seen : updates.head? = some track.lastSeenTime ∧ updates.getLast? = some track.firstSeenTime
  confirmed : track.state = .dynamicConfirmed → config.confirmFrames ≤ updates.length ∧
    config.windowSec ≤ track.lastSeenTime - track.firstSeenTime

/-! ### One detection -/

variable {config : HumanTrackingConfig} {updates : List Scalar} {stamp : Scalar}
  {tracks : List HumanTrack} {track : HumanTrack} {detection : HumanDetection}

theorem observe_eq : ∃ displacement speed state surplus,
    observe config detection stamp track = { track with
      toHumanDetection := detection
      missedFrames := 0
      observedFrames := track.observedFrames + 1
      lastSeenTime := stamp
      centroidMapHistory := (track.centroidMapHistory ++ [detection.centroidMap]).drop surplus
      timestampHistory := (track.timestampHistory ++ [stamp]).drop surplus
      mapDisplacement := displacement
      velocity := speed
      state := state } ∧
    (state = .dynamicConfirmed → track.state = .dynamicConfirmed ∨
      config.confirmFrames % 2 ^ 64 ≤
        ((track.centroidMapHistory ++ [detection.centroidMap]).drop surplus).length ∧
      ¬stamp - track.firstSeenTime < config.windowSec) := by
  have settled (moved : HumanTrack) : ∃ state,
      settleState config moved = { moved with state := state } ∧
        (state = .dynamicConfirmed →
          moved.state = .dynamicConfirmed ∨ isDynamicHuman config moved = true) := by
    unfold settleState
    split_ifs with open_ dynamic
    · exact ⟨_, rfl, fun _ => .inr dynamic⟩
    · exact ⟨_, rfl, fun confirmed => by cases confirmed⟩
    · exact ⟨moved.state, rfl, .inl⟩
    · exact ⟨moved.state, rfl, .inl⟩
  have measured (seen : HumanTrack) : ∃ displacement speed,
      measureMotion seen = { seen with mapDisplacement := displacement, velocity := speed } := by
    unfold measureMotion
    split
    · split_ifs
      · exact ⟨_, _, rfl⟩
      · exact ⟨_, _, rfl⟩
      · exact ⟨seen.mapDisplacement, seen.velocity, rfl⟩
    · exact ⟨seen.mapDisplacement, seen.velocity, rfl⟩
  unfold observe
  dsimp only
  obtain ⟨displacement, speed, motion⟩ := measured _
  rw [motion]
  obtain ⟨state, settles, confirms⟩ := settled _
  rw [settles]
  refine ⟨displacement, speed, state, _, rfl, fun confirmed => (confirms confirmed).imp id ?_⟩
  intro dynamic
  unfold isDynamicHuman at dynamic
  split_ifs at dynamic with short brief
  exact ⟨not_lt.mp short, brief⟩

omit [EuclideanNorm] in
theorem le_of_not_sub_lt {later earlier window : Scalar} (number : window ≠ .nan)
    (first : later.isFinite = true) (second : earlier.isFinite = true)
    (long : ¬later - earlier < window) : window ≤ later - earlier := by
  obtain ⟨later, rfl⟩ := Scalar.isFinite_iff.1 first
  obtain ⟨earlier, rfl⟩ := Scalar.isFinite_iff.1 second
  rw [Scalar.fin_sub_fin] at long ⊢
  cases window with
  | nan => exact absurd rfl number
  | negInf => rfl
  | posInf => exact absurd rfl long
  | fin window =>
    rw [Scalar.fin_lt_fin] at long
    exact Scalar.fin_le_fin.2 (not_lt.mp long)

theorem CountsFrames.observe (counts : CountsFrames config updates track)
    (number : config.windowSec ≠ .nan) (small : config.confirmFrames < 2 ^ 64)
    (finite : ∀ earlier ∈ stamp :: updates, earlier.isFinite = true)
    (later : ∀ earlier ∈ updates, earlier < stamp) :
    CountsFrames config (stamp :: updates)
      (HumanObjectDynamicFilter.observe config detection stamp track) := by
  obtain ⟨displacement, speed, state, surplus, equal, confirms⟩ :=
    @observe_eq _ config stamp track detection
  obtain ⟨last, first⟩ := counts.seen
  have lastIn := List.mem_of_head? last
  have firstIn := List.mem_of_getLast? first
  rw [equal]
  refine ⟨List.pairwise_cons.mpr ⟨later, counts.once⟩, ?_, ?_, ?_, ⟨rfl, ?_⟩, ?_⟩
  · simp [counts.observed]
  · refine (List.reverse_prefix.mpr (List.drop_suffix surplus _)).trans ?_
    rw [List.reverse_append]
    exact List.prefix_cons_inj stamp |>.mpr counts.remembered
  · simp [counts.positions]
  · cases updates with
    | nil => cases firstIn
    | cons head rest => rw [List.getLast?_cons_cons]; exact first
  · intro settled
    rcases confirms settled with before | ⟨frames, long⟩
    · obtain ⟨enough, span⟩ := counts.confirmed before
      refine ⟨enough.trans (by simp), Scalar.le_trans span ?_⟩
      have begun := finite _ (List.mem_cons_of_mem _ firstIn)
      exact Scalar.sub_le_sub (finite _ List.mem_cons_self) begun
        (Scalar.le_of_lt (later _ lastIn)) (Scalar.le_refl_of_finite begun)
        (finite _ (List.mem_cons_of_mem _ lastIn)) begun
    · refine ⟨?_, le_of_not_sub_lt number (finite _ List.mem_cons_self)
        (finite _ (List.mem_cons_of_mem _ firstIn)) long⟩
      have short := counts.remembered.length_le
      have positions := counts.positions
      simp only [List.length_drop, List.length_append, List.length_cons, List.length_nil,
        List.length_reverse] at frames short ⊢
      omega

omit [EuclideanNorm] in
theorem newTrack_counts {id : Int} :
    CountsFrames config [stamp] (newTrack detection stamp id) := by
  refine ⟨List.pairwise_singleton _ _, rfl, List.prefix_rfl, rfl, ⟨rfl, rfl⟩, ?_⟩
  intro settled
  cases settled

omit [EuclideanNorm] in
theorem CountsFrames.aged (counts : CountsFrames config updates track) (missed : Int) :
    CountsFrames config updates { track with missedFrames := missed } :=
  ⟨counts.once, counts.observed, counts.remembered, counts.positions, counts.seen,
    counts.confirmed⟩

/-! ### One frame -/

def matchedIds (config : HumanTrackingConfig) (stamp : Scalar) (tracks : List HumanTrack)
    (detections : List HumanDetection) : List Int :=
  ((assignments config stamp tracks detections).map Prod.snd).filter (0 ≤ ·)

theorem matchedIds_cons (rest : List HumanDetection) :
    matchedIds config stamp tracks (detection :: rest) =
      if 0 ≤ matchToExistingTrack config tracks detection then
        matchToExistingTrack config tracks detection ::
          matchedIds config stamp (afterDetection config stamp tracks detection) rest
      else matchedIds config stamp tracks rest := by
  unfold matchedIds
  simp only [assignments, List.map_cons, List.filter_cons, decide_eq_true_eq]
  split_ifs with matched
  · rfl
  · unfold afterDetection
    rw [if_neg matched]

theorem matched_tracks (detections : List HumanDetection)
    (apart : (matchedIds config stamp tracks detections).Nodup) :
    ∀ track ∈ (matchDetections config stamp tracks detections).1, ∃ old ∈ tracks,
      track.id = old.id ∧
      (track = old ∧ old.id ∉ matchedIds config stamp tracks detections ∨
        old.id ∈ matchedIds config stamp tracks detections ∧
          ∃ detection, track = observe config detection stamp old) := by
  induction detections generalizing tracks with
  | nil =>
    exact fun track member => ⟨track, member, rfl, .inl ⟨rfl, by simp [matchedIds, assignments]⟩⟩
  | cons detection rest ih =>
    rw [matchedIds_cons] at apart ⊢
    unfold matchDetections
    dsimp only
    split_ifs at apart ⊢ with matched
    · have after : afterDetection config stamp tracks detection = tracks.map fun track =>
          if track.id = matchToExistingTrack config tracks detection then
            observe config detection stamp track else track := by
        unfold afterDetection
        exact if_pos matched
      rw [after] at apart ⊢
      obtain ⟨fresh, apart⟩ := List.nodup_cons.mp apart
      intro track member
      obtain ⟨between, inside, same, change⟩ := ih apart track member
      obtain ⟨old, known, rfl⟩ := List.mem_map.mp inside
      by_cases hit : old.id = matchToExistingTrack config tracks detection
      · rw [if_pos hit] at same change
        have kept := (@observe_frame _ config stamp detection old).2.2
        rw [kept, hit] at change
        refine ⟨old, known, same.trans kept, .inr ⟨hit ▸ List.mem_cons_self, detection, ?_⟩⟩
        exact change.elim And.left fun again => absurd again.1 fresh
      · rw [if_neg hit] at same change
        refine ⟨old, known, same, change.imp (fun left => ⟨left.1, ?_⟩) fun seen =>
          ⟨List.mem_cons_of_mem _ seen.1, seen.2⟩⟩
        exact fun member => (List.mem_cons.mp member).elim hit left.2
    · exact ih apart

theorem matchedIds_known (detections : List HumanDetection) :
    ∀ id ∈ matchedIds config stamp tracks detections, ∃ track ∈ tracks, track.id = id := by
  induction detections generalizing tracks with
  | nil => simp [matchedIds, assignments]
  | cons detection rest ih =>
    rw [matchedIds_cons]
    split_ifs with matched
    · refine List.forall_mem_cons.mpr ⟨?_, fun id member => ?_⟩
      · exact match_exists matched
      · -- Being seen again leaves the id of a track.
        obtain ⟨between, inside, rfl⟩ := ih id member
        unfold afterDetection at inside
        rw [if_pos matched] at inside
        obtain ⟨old, known, rfl⟩ := List.mem_map.mp inside
        refine ⟨old, known, ?_⟩
        split_ifs
        · exact (observe_frame old).2.2.symm
        · rfl
    · exact ih

omit [EuclideanNorm] in
theorem createTracks_new {id : Int} (detections : List HumanDetection) :
    ∀ track ∈ createTracks stamp id detections,
      id ≤ track.id ∧ track.id < id + detections.length ∧
        ∃ detection, track = newTrack detection stamp track.id := by
  induction detections generalizing id with
  | nil => simp [createTracks]
  | cons detection rest ih =>
    refine List.forall_mem_cons.mpr ⟨⟨le_rfl, ?_, detection, rfl⟩, fun track member => ?_⟩
    · show id < id + ((rest.length + 1 : ℕ) : Int)
      omega
    · obtain ⟨low, high, made⟩ := ih track member
      refine ⟨by omega, ?_, made⟩
      rw [List.length_cons]
      omega

/-! ### Runs -/

structure CountsSoFar (config : HumanTrackingConfig) (filter : HumanObjectDynamicFilter)
    (frames : List AcceptedFrame) : Prop where
  settings : filter.trackingConfig = config
  next : 0 ≤ filter.nextTrackId
  known : ∀ track ∈ filter.activeTracks, track.id < filter.nextTrackId ∧
    CountsFrames config (updatesOf frames track.id) track
  fresh : ∀ frame ∈ frames, ∀ id ∈ frame.touched, id < filter.nextTrackId
  stamps : ∀ frame ∈ frames, frame.stamp.isFinite = true ∧ filter.hasLastMapUpdateStamp = true ∧
    frame.stamp ≤ filter.lastMapUpdateStampSec
  last : filter.hasLastMapUpdateStamp = true → filter.lastMapUpdateStampSec.isFinite = true

omit [EuclideanNorm] in
theorem updatesOf_cons {frame : AcceptedFrame} {frames : List AcceptedFrame} {id : Int}
    (apart : frame.touched.Nodup) : updatesOf (frame :: frames) id =
      if id ∈ frame.touched then frame.stamp :: updatesOf frames id else updatesOf frames id := by
  unfold updatesOf
  rw [List.flatMap_cons]
  split_ifs with touched
  · rw [List.count_eq_one_of_mem apart touched]
    rfl
  · rw [List.count_eq_zero_of_not_mem touched]
    rfl

omit [EuclideanNorm] in
theorem mem_updatesOf {frames : List AcceptedFrame} {id : Int} {stamp : Scalar}
    (member : stamp ∈ updatesOf frames id) : ∃ frame ∈ frames, frame.stamp = stamp ∧
      id ∈ frame.touched := by
  obtain ⟨frame, inside, copy⟩ := List.mem_flatMap.mp member
  obtain ⟨some, rfl⟩ := List.mem_replicate.mp copy
  exact ⟨frame, inside, rfl, List.count_pos_iff.mp (Nat.pos_of_ne_zero some)⟩

variable {self : HumanObjectDynamicFilter} {frames : List AcceptedFrame}
  {classification : HumanFrameClassification} {T : Matrix4}

omit [EuclideanNorm] in
theorem CountsSoFar.later (sofar : CountsSoFar config self frames)
    (finite : classification.sourceStampSec.isFinite = true)
    (current : self.outdated classification = false) :
    ∀ frame ∈ frames, frame.stamp < classification.sourceStampSec := by
  -- A frame that is accepted is newer than the last one, by more than the tolerance.
  intro frame member
  obtain ⟨-, any, before⟩ := sofar.stamps frame member
  refine Scalar.lt_of_le_of_lt before ?_
  obtain ⟨stamp, stampIs⟩ := Scalar.isFinite_iff.1 finite
  obtain ⟨last, lastIs⟩ := Scalar.isFinite_iff.1 (sofar.last any)
  unfold outdated at current
  rw [any, Bool.true_and, Bool.or_eq_false_iff, decide_eq_false_iff_not] at current
  have newer := current.1
  rw [stampIs, lastIs] at newer ⊢
  change ¬Scalar.fin stamp ≤ .fin (last + 1.0e-4) at newer
  rw [Scalar.fin_le_fin] at newer
  rw [Scalar.fin_lt_fin]
  linarith

theorem CountsSoFar.accept (sofar : CountsSoFar config self frames)
    (number : config.windowSec ≠ .nan) (small : config.confirmFrames < 2 ^ 64)
    (finite : classification.sourceStampSec.isFinite = true)
    (current : self.outdated classification = false)
    (apart : (touchedTracks self classification T).Nodup) :
    CountsSoFar config (self.track classification T)
      (⟨classification.sourceStampSec, touchedTracks self classification T⟩ :: frames) := by
  have later := sofar.later finite current
  have touches : ∀ id, id ∈ touchedTracks self classification T ↔
      id ∈ matchedIds self.trackingConfig classification.sourceStampSec
        (ageTracks self.activeTracks) (classification.clusters.map (detect T)) ∨
      id ∈ (createTracks classification.sourceStampSec self.nextTrackId
        (matchDetections self.trackingConfig classification.sourceStampSec
          (ageTracks self.activeTracks) (classification.clusters.map (detect T))).2).map (·.id) :=
    fun id => List.mem_append
  have created := @createTracks_new classification.sourceStampSec self.nextTrackId
    (matchDetections self.trackingConfig classification.sourceStampSec
      (ageTracks self.activeTracks) (classification.clusters.map (detect T))).2
  have matched := matched_tracks (classification.clusters.map (detect T))
    (List.nodup_append.mp apart).1
  have unseen : ∀ id, self.nextTrackId ≤ id → updatesOf frames id = [] := fun id new =>
    List.eq_nil_iff_forall_not_mem.mpr fun stamp member => by
      obtain ⟨frame, inside, -, touched⟩ := mem_updatesOf member
      exact absurd (sofar.fresh frame inside id touched) (not_lt.mpr new)
  have next := sofar.next
  refine ⟨sofar.settings, ?_, ?_, ?_, ?_, fun _ => finite⟩
  · show 0 ≤ self.nextTrackId + _
    omega
  · intro track member
    show track.id < self.nextTrackId + _ ∧ _
    rw [updatesOf_cons apart]
    rcases List.mem_append.mp (List.mem_filter.mp member).1 with followed | begun
    · obtain ⟨aged, inside, same, change⟩ := matched track followed
      obtain ⟨old, known, rfl⟩ := List.mem_map.mp inside
      obtain ⟨below, counts⟩ := sofar.known old known
      have id : track.id = old.id := same
      refine ⟨by omega, ?_⟩
      rw [id]
      rcases change with ⟨rfl, alone⟩ | ⟨seen, detection, rfl⟩
      · have untouched : old.id ∉ touchedTracks self classification T := fun touched => by
          rcases (touches _).mp touched with again | made
          · exact alone again
          · obtain ⟨other, new, otherId⟩ := List.mem_map.mp made
            have := (created other new).1
            omega
        rw [if_neg untouched]
        exact counts.aged _
      · rw [if_pos ((touches _).mpr (.inl seen)), sofar.settings]
        have earlier : ∀ stamp ∈ updatesOf frames old.id, stamp.isFinite = true ∧
            stamp < classification.sourceStampSec := fun stamp update => by
          obtain ⟨frame, inside, rfl, -⟩ := mem_updatesOf update
          exact ⟨(sofar.stamps frame inside).1, later frame inside⟩
        exact (counts.aged _).observe number small
          (List.forall_mem_cons.mpr ⟨finite, fun stamp inside => (earlier stamp inside).1⟩)
          fun stamp inside => (earlier stamp inside).2
    · obtain ⟨low, high, detection, made⟩ := created track begun
      refine ⟨high, ?_⟩
      rw [if_pos ((touches _).mpr (.inr (List.mem_map_of_mem begun))), unseen _ low, made]
      exact newTrack_counts
  · refine List.forall_mem_cons.mpr ⟨fun id touched => ?_, fun frame inside id touched => ?_⟩
    · show id < self.nextTrackId + _
      rcases (touches id).mp touched with again | made
      · obtain ⟨aged, inside, rfl⟩ := matchedIds_known _ id again
        obtain ⟨old, known, rfl⟩ := List.mem_map.mp inside
        have := (sofar.known old known).1
        show old.id < _
        omega
      · obtain ⟨track, new, rfl⟩ := List.mem_map.mp made
        exact (created track new).2.1
    · have := sofar.fresh frame inside id touched
      show id < self.nextTrackId + _
      omega
  · refine List.forall_mem_cons.mpr ⟨⟨finite, rfl, Scalar.le_refl_of_finite finite⟩, ?_⟩
    exact fun frame member => ⟨(sofar.stamps frame member).1, rfl,
      Scalar.le_of_lt (later frame member)⟩

theorem updateMapTracks_cases (cellSizeM : Scalar) :
    let answer := self.updateMapTracks classification T cellSizeM
    (answer.2.valid = false ∧ (answer.1 = self ∨ answer.1 = self.reject classification)) ∨
      (answer.2.valid = true ∧ classification.sourceStampSec.isFinite = true ∧
        self.outdated classification = false ∧
        ∃ diagnostics, answer.1 = { self.track classification T with diagnostics }) := by
  unfold updateMapTracks
  dsimp only
  split_ifs with refused old
  · exact .inl ⟨rfl, .inl rfl⟩
  · exact .inl ⟨rfl, .inr rfl⟩
  · refine .inr ⟨rfl, ?_, Bool.eq_false_iff.mpr old, _, rfl⟩
    unfold unusable at refused
    simp only [Bool.or_eq_true, Bool.not_eq_true', not_or, Bool.not_eq_false] at refused
    obtain ⟨⟨⟨⟨⟨⟨-, finite⟩, -⟩, -⟩, -⟩, -⟩, -⟩ := refused
    exact finite

theorem runTracks_counts (number : config.windowSec ≠ .nan) (small : config.confirmFrames < 2 ^ 64)
    (calls : List MapTracksCall)
    (apart : ∀ frame ∈ (runTracks config calls).2, frame.touched.Nodup) :
    CountsSoFar config (runTracks config calls).1 (runTracks config calls).2 := by
  induction calls with
  | nil => exact ⟨rfl, le_rfl, by simp [runTracks], by simp [runTracks], by simp [runTracks],
      fun some => by cases some⟩
  | cons call earlier ih =>
    rw [runTracks] at apart ⊢
    dsimp only at apart ⊢
    generalize runTracks config earlier = past at *
    rcases @updateMapTracks_cases _ past.1 call.classification call.transform call.cellSizeM with
      ⟨refused, same⟩ | ⟨taken, finite, current, diagnostics, same⟩
    · rw [refused] at apart ⊢
      have sofar := ih apart
      rcases same with same | same
      · rw [same]
        exact sofar
      · rw [same]
        exact ⟨sofar.1, sofar.2, sofar.3, sofar.4, sofar.5, sofar.6⟩
    · rw [taken] at apart ⊢
      rw [if_pos rfl] at apart ⊢
      obtain ⟨separate, before⟩ := List.forall_mem_cons.mp apart
      have sofar := (ih before).accept number small finite current separate
      rw [same]
      exact ⟨sofar.1, sofar.2, sofar.3, sofar.4, sofar.5, sofar.6⟩

end Runs

section Samples

attribute [local instance] axisNorm
attribute [local semireducible] Rat.add Rat.sub Rat.mul Rat.inv Rat.ofScientific

def sampleCall (index : Nat) (places : List Scalar) : MapTracksCall :=
  ⟨sampleFrame index places, .identity, 0.15⟩

end Samples

end NdtSlam.HumanObjectDynamicFilter
