import NdtSlam.Human.TrackFilter

/-! Which cells are blocked around the people of a frame, and which are left open. -/

namespace NdtSlam
namespace HumanObjectDynamicFilter

section Predicates

variable [EuclideanNorm] (config : HumanTrackingConfig) (timestamp : Scalar)

def afterDetection (tracks : List HumanTrack) (detection : HumanDetection) : List HumanTrack :=
  let trackId := matchToExistingTrack config tracks detection
  if 0 ≤ trackId then
    tracks.map fun track =>
      if track.id = trackId then observe config detection timestamp track else track
  else tracks

def assignments : List HumanTrack → List HumanDetection → List (HumanDetection × Int)
  | _, [] => []
  | tracks, detection :: rest =>
    (detection, matchToExistingTrack config tracks detection) ::
      assignments (afterDetection config timestamp tracks detection) rest

variable (assigned : List (HumanDetection × Int)) (detection : HumanDetection)

def Displaced : Prop :=
  ∃ earlier trackId later, assigned = earlier ++ (detection, trackId) :: later ∧ 0 ≤ trackId ∧
    ∃ other ∈ later, other.2 = trackId

def Keeps : Prop :=
  ∃ earlier trackId later, assigned = earlier ++ (detection, trackId) :: later ∧ 0 ≤ trackId ∧
    ∀ other ∈ later, other.2 ≠ trackId

def Begins : Prop :=
  ∃ earlier trackId later, assigned = earlier ++ (detection, trackId) :: later ∧ trackId < 0

def Unmatched (trackId : Int) : Prop :=
  ∀ other ∈ assigned, 0 ≤ other.2 → other.2 ≠ trackId

end Predicates

section Splits

variable {detection : HumanDetection} {assigned : List (HumanDetection × Int)}
  {first : HumanDetection}

theorem keeps_cons {trackId : Int} :
    Keeps ((first, trackId) :: assigned) detection ↔
      (detection = first ∧ 0 ≤ trackId ∧ ∀ other ∈ assigned, other.2 ≠ trackId) ∨
        Keeps assigned detection := by
  constructor
  · rintro ⟨earlier, id, later, split, matched, last⟩
    cases earlier with
    | nil =>
      obtain ⟨same, rfl⟩ := List.cons.inj split
      obtain ⟨rfl, rfl⟩ := Prod.mk.inj same
      exact .inl ⟨rfl, matched, last⟩
    | cons head rest =>
      obtain ⟨rfl, rfl⟩ := List.cons.inj split
      exact .inr ⟨rest, id, later, rfl, matched, last⟩
  · rintro (⟨rfl, matched, last⟩ | ⟨earlier, id, later, rfl, matched, last⟩)
    · exact ⟨[], trackId, assigned, rfl, matched, last⟩
    · exact ⟨(first, trackId) :: earlier, id, later, rfl, matched, last⟩

theorem begins_cons {trackId : Int} :
    Begins ((first, trackId) :: assigned) detection ↔
      (detection = first ∧ trackId < 0) ∨ Begins assigned detection := by
  constructor
  · rintro ⟨earlier, id, later, split, unmatched⟩
    cases earlier with
    | nil =>
      obtain ⟨same, rfl⟩ := List.cons.inj split
      obtain ⟨rfl, rfl⟩ := Prod.mk.inj same
      exact .inl ⟨rfl, unmatched⟩
    | cons head rest =>
      obtain ⟨rfl, rfl⟩ := List.cons.inj split
      exact .inr ⟨rest, id, later, rfl, unmatched⟩
  · rintro (⟨rfl, unmatched⟩ | ⟨earlier, id, later, rfl, unmatched⟩)
    · exact ⟨[], trackId, assigned, rfl, unmatched⟩
    · exact ⟨(first, trackId) :: earlier, id, later, rfl, unmatched⟩

theorem assigned_cases {trackId : Int} (member : (detection, trackId) ∈ assigned) :
    Begins assigned detection ∨ Keeps assigned detection ∨ Displaced assigned detection := by
  obtain ⟨earlier, later, split⟩ := List.append_of_mem member
  by_cases matched : 0 ≤ trackId
  · by_cases taken : ∃ other ∈ later, other.2 = trackId
    · exact .inr (.inr ⟨earlier, trackId, later, split, matched, taken⟩)
    · exact .inr (.inl ⟨earlier, trackId, later, split, matched,
        fun other later same => taken ⟨other, later, same⟩⟩)
  · exact .inl ⟨earlier, trackId, later, split, not_le.mp matched⟩

theorem unmatched_cons {trackId id : Int} :
    Unmatched ((first, trackId) :: assigned) id ↔
      (0 ≤ trackId → trackId ≠ id) ∧ Unmatched assigned id := by
  simp only [Unmatched, List.forall_mem_cons]

end Splits

section Assignments

variable [EuclideanNorm] {config : HumanTrackingConfig} {timestamp : Scalar}
  {tracks : List HumanTrack} {detection : HumanDetection}

theorem observe_frame (track : HumanTrack) :
    (observe config detection timestamp track).toHumanDetection = detection ∧
      (observe config detection timestamp track).missedFrames = 0 ∧
      (observe config detection timestamp track).id = track.id := by
  have settled (moved : HumanTrack) :
      (settleState config moved).toHumanDetection = moved.toHumanDetection ∧
        (settleState config moved).missedFrames = moved.missedFrames ∧
        (settleState config moved).id = moved.id := by
    unfold settleState
    split_ifs
    all_goals exact ⟨rfl, rfl, rfl⟩
  have measured (seen : HumanTrack) :
      (measureMotion seen).toHumanDetection = seen.toHumanDetection ∧
        (measureMotion seen).missedFrames = seen.missedFrames ∧
        (measureMotion seen).id = seen.id := by
    unfold measureMotion
    split
    · split_ifs
      all_goals exact ⟨rfl, rfl, rfl⟩
    · exact ⟨rfl, rfl, rfl⟩
  unfold observe
  dsimp only
  rw [(settled _).1, (settled _).2.1, (settled _).2.2, (measured _).1, (measured _).2.1,
    (measured _).2.2]
  exact ⟨rfl, rfl, rfl⟩

theorem foldl_nearer (best : Int × Scalar) :
    (tracks.foldl (nearer config detection) best).1 = best.1 ∨
      ∃ track ∈ tracks, track.id = (tracks.foldl (nearer config detection) best).1 := by
  induction tracks generalizing best with
  | nil => exact .inl rfl
  | cons track rest ih =>
    have step : (nearer config detection best track).1 = best.1 ∨
        (nearer config detection best track).1 = track.id := by
      unfold nearer
      dsimp only
      split_ifs
      · exact .inl rfl
      · exact .inr rfl
      · exact .inl rfl
    rcases ih (nearer config detection best track) with same | ⟨found, member, isBest⟩
    · rcases step with kept | taken
      · exact .inl (same.trans kept)
      · exact .inr ⟨track, List.mem_cons_self, (same.trans taken).symm⟩
    · exact .inr ⟨found, List.mem_cons_of_mem _ member, isBest⟩

theorem match_exists (matched : 0 ≤ matchToExistingTrack config tracks detection) :
    ∃ track ∈ tracks, track.id = matchToExistingTrack config tracks detection := by
  rcases @foldl_nearer _ config tracks detection (-1, config.maxMatchDistanceM) with none | found
  · -- The search began with a negative number, which is no match.
    unfold matchToExistingTrack at matched
    rw [none] at matched
    exact absurd matched (not_le.mpr (neg_one_lt_zero))
  · exact found

theorem assignments_fst (tracks : List HumanTrack) (detections : List HumanDetection) :
    (assignments config timestamp tracks detections).map Prod.fst = detections := by
  induction detections generalizing tracks with
  | nil => rfl
  | cons first rest ih =>
    simp only [assignments, List.map_cons, ih]

theorem mem_leftOver (detections : List HumanDetection) :
    detection ∈ (matchDetections config timestamp tracks detections).2 ↔
      Begins (assignments config timestamp tracks detections) detection := by
  induction detections generalizing tracks with
  | nil =>
    simp only [matchDetections, assignments, List.not_mem_nil, false_iff]
    rintro ⟨earlier, id, later, split, -⟩
    cases earlier <;> cases split
  | cons first rest ih =>
    simp only [assignments, begins_cons]
    unfold matchDetections afterDetection
    dsimp only
    by_cases matched : 0 ≤ matchToExistingTrack config tracks first
    · -- A matched detection is not left over.
      rw [if_pos matched, if_pos matched, ih]
      simp only [not_lt.mpr matched, and_false, false_or]
    · rw [if_neg matched, if_neg matched]
      simp only [List.mem_cons, ih, not_le.mp matched, and_true]

theorem matched_boxes (holds : HumanDetection → Int → Prop) (detections : List HumanDetection) :
    (∃ track ∈ (matchDetections config timestamp tracks detections).1,
        holds track.toHumanDetection track.missedFrames) ↔
      (∃ keeper, Keeps (assignments config timestamp tracks detections) keeper ∧
        holds keeper 0) ∨
      ∃ track ∈ tracks, Unmatched (assignments config timestamp tracks detections) track.id ∧
        holds track.toHumanDetection track.missedFrames := by
  induction detections generalizing tracks with
  | nil =>
    -- Without detections the tracks stay as they are.
    have nobody (keeper : HumanDetection) : ¬Keeps [] keeper := by
      rintro ⟨earlier, id, later, split, -⟩
      cases earlier <;> cases split
    simp [matchDetections, assignments, Unmatched, nobody]
  | cons first rest ih =>
    simp only [assignments, keeps_cons, unmatched_cons]
    unfold matchDetections afterDetection
    dsimp only
    generalize isId : matchToExistingTrack config tracks first = trackId
    by_cases matched : 0 ≤ trackId
    · simp only [if_pos matched, ih]
      generalize assignments config timestamp _ rest = assigned
      constructor
      · rintro (⟨keeper, keeps, found⟩ | ⟨track, member, unmatched, found⟩)
        · exact .inl ⟨keeper, .inr keeps, found⟩
        · obtain ⟨before, was, rfl⟩ := List.mem_map.mp member
          by_cases same : before.id = trackId
          · -- The track shows the first detection, and no later one takes it over.
            rw [if_pos same] at unmatched found
            obtain ⟨box, missed, id⟩ :=
              @observe_frame _ config timestamp first before
            rw [box, missed] at found
            rw [id, same] at unmatched
            refine .inl ⟨first, .inl ⟨rfl, matched, fun other later taken => ?_⟩, found⟩
            exact unmatched other later (taken ▸ matched) taken
          · rw [if_neg same] at unmatched found
            exact .inr ⟨before, was, ⟨fun _ taken => same taken.symm, unmatched⟩, found⟩
      · rintro (⟨keeper, ⟨rfl, -, last⟩ | keeps, found⟩ | ⟨track, member, ⟨other, unmatched⟩, found⟩)
        · -- The matched track exists and is not taken over.
          obtain ⟨track, member, id⟩ :=
            match_exists (show 0 ≤ matchToExistingTrack config tracks keeper by rw [isId]; exact matched)
          rw [isId] at id
          obtain ⟨box, missed, kept⟩ := @observe_frame _ config timestamp keeper track
          refine .inr ⟨_, List.mem_map.mpr ⟨track, member, rfl⟩, ?_, ?_⟩
          · rw [if_pos id, kept, id]
            exact fun other later _ => last other later
          · rw [if_pos id, box, missed]
            exact found
        · exact .inl ⟨keeper, keeps, found⟩
        · refine .inr ⟨_, List.mem_map.mpr ⟨track, member, rfl⟩, ?_, ?_⟩
          · rw [if_neg fun same => other matched same.symm]
            exact unmatched
          · rw [if_neg fun same => other matched same.symm]
            exact found
    · -- A detection that matches no track changes none.
      rw [if_neg matched, if_neg matched]
      simp only [ih, matched, false_and, and_false, false_or, false_implies, true_and]

end Assignments

section Sources

theorem created_boxes (holds : HumanDetection → Int → Prop) (timestamp : Scalar) (id : Int)
    (detections : List HumanDetection) :
    (∃ track ∈ createTracks timestamp id detections,
        holds track.toHumanDetection track.missedFrames) ↔
      ∃ detection ∈ detections, holds detection 0 := by
  induction detections generalizing id with
  | nil => simp [createTracks]
  | cons first rest ih =>
    simp only [createTracks, List.mem_cons, exists_eq_or_imp, ih]
    exact Iff.rfl

theorem mem_foldl_cells {cellSizeM : Scalar} {cell : Int × Int} (tracks : List HumanTrack)
    (cells : Finset (Int × Int)) :
    cell ∈ tracks.foldl
        (fun cells track => cells ∪ boxCells cellSizeM track.toHumanDetection) cells ↔
      cell ∈ cells ∨ ∃ track ∈ tracks, cell ∈ boxCells cellSizeM track.toHumanDetection := by
  induction tracks generalizing cells with
  | nil => simp
  | cons track rest ih =>
    simp only [List.foldl_cons, ih, Finset.mem_union, List.mem_cons, exists_eq_or_imp, or_assoc]

theorem mem_blockCells {cellSizeM : Scalar} {cell : Int × Int} {tracks : List HumanTrack}
    (finite : cellSizeM.isFinite = true) (positive : ¬cellSizeM ≤ 0) :
    cell ∈ buildStaticLearningBlockCells tracks cellSizeM ↔
      ∃ track ∈ tracks, cell ∈ boxCells cellSizeM track.toHumanDetection := by
  unfold buildStaticLearningBlockCells
  rw [if_neg (by simp [finite, positive]), mem_foldl_cells]
  simp only [Finset.notMem_empty, false_or]

end Sources

section Cells

variable [EuclideanNorm]

def assigned (self : HumanObjectDynamicFilter) (classification : HumanFrameClassification)
    (T : Matrix4) : List (HumanDetection × Int) :=
  assignments self.trackingConfig classification.sourceStampSec (ageTracks self.activeTracks)
    (classification.clusters.map (detect T))

/-- What the frame leaves as the box of some track. -/
inductive Remains (self : HumanObjectDynamicFilter) (classification : HumanFrameClassification)
    (T : Matrix4) : HumanDetection → Prop where
  | begins {box : HumanDetection} (lasting : 0 ≤ self.trackingConfig.maxMissedFrames)
      (new : Begins (assigned self classification T) box) : Remains self classification T box
  | keeps {box : HumanDetection} (lasting : 0 ≤ self.trackingConfig.maxMissedFrames)
      (last : Keeps (assigned self classification T) box) : Remains self classification T box
  | stays {track : HumanTrack} (known : track ∈ self.activeTracks)
      (unmatched : Unmatched (assigned self classification T) track.id)
      (due : track.missedFrames + 1 ≤ self.trackingConfig.maxMissedFrames) :
      Remains self classification T track.toHumanDetection

/-- A person whose box no track keeps for being that person's. -/
def Lost (self : HumanObjectDynamicFilter) (classification : HumanFrameClassification)
    (T : Matrix4) (box : HumanDetection) : Prop :=
  Displaced (assigned self classification T) box ∨
    (self.trackingConfig.maxMissedFrames < 0 ∧
      ∃ trackId, (box, trackId) ∈ assigned self classification T)

variable {self : HumanObjectDynamicFilter} {classification : HumanFrameClassification}
  {T : Matrix4} {cellSizeM : Scalar}

theorem tracked_boxes (holds : HumanDetection → Prop) :
    (∃ track ∈ (self.track classification T).activeTracks, holds track.toHumanDetection) ↔
      ∃ box, Remains self classification T box ∧ holds box := by
  have matched := @matched_boxes _ self.trackingConfig classification.sourceStampSec
    (ageTracks self.activeTracks)
    (fun box missed => missed ≤ self.trackingConfig.maxMissedFrames ∧ holds box)
    (classification.clusters.map (detect T))
  have created := created_boxes
    (fun box missed => missed ≤ self.trackingConfig.maxMissedFrames ∧ holds box)
    classification.sourceStampSec self.nextTrackId
    (matchDetections self.trackingConfig classification.sourceStampSec
      (ageTracks self.activeTracks) (classification.clusters.map (detect T))).2
  have live : (self.track classification T).activeTracks =
      ((matchDetections self.trackingConfig classification.sourceStampSec
          (ageTracks self.activeTracks) (classification.clusters.map (detect T))).1 ++
        createTracks classification.sourceStampSec self.nextTrackId
          (matchDetections self.trackingConfig classification.sourceStampSec
            (ageTracks self.activeTracks) (classification.clusters.map (detect T))).2).filter
        fun track => !decide (self.trackingConfig.maxMissedFrames < track.missedFrames) := rfl
  rw [live]
  simp only [List.mem_filter, List.mem_append, Bool.not_eq_true', decide_eq_false_iff_not, not_lt,
    and_assoc, or_and_right, exists_or]
  rw [matched, created]
  constructor
  · rintro ((⟨box, keeps, lasting, found⟩ | ⟨aged, member, unmatched, due, found⟩) |
      ⟨box, leftOver, lasting, found⟩)
    · exact ⟨box, .keeps lasting keeps, found⟩
    · obtain ⟨track, known, rfl⟩ := List.mem_map.mp member
      exact ⟨track.toHumanDetection, .stays known unmatched due, found⟩
    · exact ⟨box, .begins lasting ((mem_leftOver _).mp leftOver), found⟩
  · rintro ⟨box, remains, found⟩
    cases remains with
    | begins lasting new => exact .inr ⟨box, (mem_leftOver _).mpr new, lasting, found⟩
    | keeps lasting last => exact .inl (.inl ⟨box, last, lasting, found⟩)
    | @stays track known unmatched due =>
      exact .inl (.inr ⟨_, List.mem_map.mpr ⟨track, known, rfl⟩, unmatched, due, found⟩)

theorem accepted_cells {cell : Int × Int}
    (accepted : (self.updateMapTracks classification T cellSizeM).2.valid = true) :
    cell ∈ (self.updateMapTracks classification T cellSizeM).2.staticLearningBlocks.humanCells ↔
      ∃ box, Remains self classification T box ∧ cell ∈ boxCells cellSizeM box := by
  unfold updateMapTracks at accepted ⊢
  by_cases bad : unusable classification T cellSizeM = true
  · rw [if_pos bad] at accepted
    cases accepted
  rw [if_neg bad] at accepted ⊢
  by_cases old : self.outdated classification = true
  · rw [if_pos old] at accepted
    cases accepted
  rw [if_neg old]
  -- A usable cell size is a positive number.
  simp only [unusable, Bool.not_eq_true, Bool.or_eq_false_iff, Bool.not_eq_false',
    decide_eq_false_iff_not] at bad
  dsimp only
  rw [mem_blockCells bad.1.2 bad.2]
  exact tracked_boxes fun box => cell ∈ boxCells cellSizeM box

variable {box : HumanDetection}

theorem mem_people :
    (∃ cluster ∈ classification.clusters, detect T cluster = box) ↔
      ∃ trackId, (box, trackId) ∈ assigned self classification T := by
  have people := @assignments_fst _ self.trackingConfig classification.sourceStampSec
    (ageTracks self.activeTracks) (classification.clusters.map (detect T))
  rw [← List.mem_map, ← people, List.mem_map]
  constructor
  · rintro ⟨⟨first, trackId⟩, member, rfl⟩
    exact ⟨trackId, member⟩
  · rintro ⟨trackId, member⟩
    exact ⟨(box, trackId), member, rfl⟩

theorem Lost.assigned (lost : Lost self classification T box) :
    ∃ trackId, (box, trackId) ∈ assigned self classification T := by
  rcases lost with ⟨earlier, trackId, later, split, -⟩ | ⟨-, found⟩
  · exact ⟨trackId, by rw [split]; simp⟩
  · exact found

theorem remains_of_not_lost {trackId : Int}
    (member : (box, trackId) ∈ assigned self classification T)
    (found : ¬Lost self classification T box) : Remains self classification T box := by
  have lasting : 0 ≤ self.trackingConfig.maxMissedFrames :=
    not_lt.mp fun negative => found (.inr ⟨negative, trackId, member⟩)
  rcases assigned_cases member with begins | keeps | displaced
  · exact .begins lasting begins
  · exact .keeps lasting keeps
  · exact (found (.inl displaced)).elim

/-- The cells of all people of a frame are blocked when those of the lost ones happen to be. -/
theorem human_cells_blocked_iff
    (accepted : (self.updateMapTracks classification T cellSizeM).2.valid = true) :
    (∀ cluster ∈ classification.clusters, boxCells cellSizeM (detect T cluster) ⊆
        (self.updateMapTracks classification T cellSizeM).2.staticLearningBlocks.humanCells) ↔
      ∀ box, Lost self classification T box → ∀ cell ∈ boxCells cellSizeM box,
        ∃ other, Remains self classification T other ∧ cell ∈ boxCells cellSizeM other := by
  constructor
  · intro blocked box lost cell touched
    obtain ⟨cluster, member, rfl⟩ := mem_people.2 lost.assigned
    exact (accepted_cells accepted).mp (blocked cluster member touched)
  · intro covered cluster member cell touched
    rw [accepted_cells accepted]
    -- Either the person is lost and covered by chance, or the box remains.
    by_cases lost : Lost self classification T (detect T cluster)
    · exact covered _ lost cell touched
    · obtain ⟨trackId, found⟩ := mem_people.1 ⟨cluster, member, rfl⟩
      exact ⟨_, remains_of_not_lost found lost, touched⟩

end Cells

section Samples

attribute [local instance] axisNorm
attribute [local semireducible] Rat.add Rat.sub Rat.mul Rat.inv Rat.ofScientific

def samplePerson (x : Scalar) : HumanClusterObservation :=
  { centroidBase := ⟨x, 0, 1⟩, bboxMinBase := ⟨x - 0.1, -0.1, 0⟩
    bboxMaxBase := ⟨x + 0.1, 0.1, 2⟩, pointCount := 40 }

def sampleFrame (index : Nat) (places : List Scalar) : HumanFrameClassification :=
  let identity : SourceFrameIdentity :=
    { processingFrameIndex := index, sensorSourceStampSec := .ofNat index
      sourceCloudSize := 100, sourceCloudSignatureHash := 1 }
  { valid := true, sourceStampSec := .ofNat index, sourceCloudInstanceId := index
    sourceFrameIdentity := identity
    ownedPoints := { valid := true, sourceFrameIdentity := identity, voxelSizeM := 0.06 }
    clusters := places.map samplePerson }

def sampleFilter : HumanObjectDynamicFilter :=
  (({} : HumanObjectDynamicFilter).updateMapTracks (sampleFrame 1 [0]) .identity 0.15).1

theorem sample_person_blocked : boxCells 0.15 (detect .identity (samplePerson 0.3)) ⊆
    (sampleFilter.updateMapTracks (sampleFrame 2 [0.3]) .identity
      0.15).2.staticLearningBlocks.humanCells := by
  refine (human_cells_blocked_iff (by decide)).mpr (fun box lost => ?_) _
    (List.mem_singleton_self _)
  have alone : (assigned sampleFilter (sampleFrame 2 [0.3]) .identity).length = 1 := by
    decide
  -- One person alone displaces nobody.
  rcases lost with ⟨earlier, trackId, later, split, -, other, member, -⟩ | ⟨negative, -⟩
  · rw [split] at alone
    have several : 0 < later.length := List.length_pos_of_mem member
    simp only [List.length_append, List.length_cons] at alone
    omega
  · exact absurd negative (by decide)

theorem displaced_person_not_blocked :
    (sampleFilter.updateMapTracks (sampleFrame 2 [0.3, -0.3]) .identity 0.15).2.valid = true ∧
      samplePerson 0.3 ∈ (sampleFrame 2 [0.3, -0.3]).clusters ∧
      (2, 0) ∈ boxCells 0.15 (detect .identity (samplePerson 0.3)) ∧
      (2, 0) ∉ (sampleFilter.updateMapTracks (sampleFrame 2 [0.3, -0.3]) .identity
        0.15).2.staticLearningBlocks.humanCells :=
  ⟨by decide, by simp [sampleFrame], by decide, by decide⟩

end Samples

end HumanObjectDynamicFilter
end NdtSlam
