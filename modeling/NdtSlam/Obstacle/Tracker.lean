import NdtSlam.Foundation.History
import NdtSlam.Obstacle.Association

/-! The tracker that follows obstacles over the frames and decides which of them are confirmed. -/

namespace NdtSlam

structure CargoObstacleAuthorityPolicy where
  requireStaticCargoForWarning : Bool := true
  requireLargeGeometryForWarning : Bool := false

structure CargoObstacleTrackerDecision where
  valid : Bool := false
  hazardObserved : Bool := false
  confirmedHazard : Bool := false
  noFarReviewHazard : Bool := false
  warningCode : Nat := 0
  selectedTrackId : Nat := 0
  selectedSourceIndex : Nat := 0
  selectedConfirmCount : Nat := 0
  selectedGeometryConfirmCount : Nat := 0
  selectedTrackAgeSec : Scalar := 0
  selectedTrackStatic : Bool := false
  selectedLargeGeometryValid : Bool := false
  selectedProvenance : ExternalProvenance := .none
  selectedProvenanceValid : Bool := false
  selectedEmbedded : Bool := false
  selectedEmbeddedAuthorized : Bool := false
  selectedSeparatedObservations : Nat := 0
  selectedNearField : Bool := false
  selectedNearFieldAuthorized : Bool := false
  selectedFarFieldHistoryValid : Bool := false
  selectedFarFieldObservations : Nat := 0
  selectedFarFieldDurationSec : Scalar := 0
  selectedCertifiedStaticProvenance : Bool := false
  selectedStaticProvenanceStreak : Nat := 0
  selectedStaticAgeSec : Scalar := 0
  selectedTrackCellOverlap : Scalar := 0
  selectedTrackIou : Scalar := 0
  selectedTrackNeighborCellOverlap : Scalar := 0
  selectedAssociationCost : Scalar := 0
  selectedAssociationAmbiguous : Bool := false
  selectedAssociationResetReason : String := ""
  createdTrackCount : Nat := 0
  associationResetCount : Nat := 0
  ambiguousAssociationCount : Nat := 0
  selectedTrackVelocity : Vec3 := {}
  selectedPoseAuthority : TemporalEvidenceAuthority := {}
  selectedSupportKind : ObstacleSupportKind := .denseCurrentFrame
  selectedRealCurrentPointCount : Nat := 0
  selectedSparseIndependentFrames : Nat := 0
  selectedSparseToDense : Bool := false
  sparseTrackCount : Nat := 0
  sparseRingHighWater : Nat := 0
  sparseAmbiguityRejectCount : Nat := 0
  sparseAuthorityResetCount : Nat := 0
  reason : String := "not_evaluated"

structure CargoObstacleTracker where
  config : CargoObstacleTrackerConfig
  tracks : List CargoObstacleTrack := []
  nextTrackId : Nat := 1
  cycle : Nat := 0
  hasStamp : Bool := false
  lastStampSec : Scalar := 0
  createdTrackCount : Nat := 0
  associationResetCount : Nat := 0
  ambiguousAssociationCount : Nat := 0
  sparseAmbiguityRejectCount : Nat := 0
  sparseAuthorityResetCount : Nat := 0

namespace CargoObstacleTracker

section TrackWrites

variable (config : CargoObstacleTrackerConfig) (stampSec : Scalar)
  (observation : CargoObstacleObservation) (track : CargoObstacleTrack)

def appendSparseSupport (consecutive : Bool) : CargoObstacleTrack :=
  let ring := if consecutive then track.sparseSupportRing else []
  let frame : SparseObstacleSupportFrame := {
    stampSec
    occupiedMapCells := observation.occupiedMapCells.take observation.pointCount }
  -- The ring drops its oldest frame once it is full.
  let longer := ring ++ [frame]
  { track with
    sparseSupportRing := if sparseSupportRingCapacity < longer.length then longer.tail else longer
    sparseIndependentFrames := if consecutive then track.sparseIndependentFrames + 1 else 1 }

def knownCargoCenter : Bool :=
  observation.cargoCenterValid && observation.cargoCenterMap.allFinite

def currentlyEligible : Bool :=
  observation.hazardGeometryValid && observation.warningEligible &&
    warningCode observation.warningCode

def embedded : Bool := observation.footprintDistanceM < config.embeddedDistanceThresholdM

def resetTemporalEvidenceForAuthorityTransition : CargoObstacleTrack :=
  { track with
    velocityMap := {}
    totalConsecutiveObservations := 0
    validatedConsecutiveObservations := 0
    geometryValidatedConsecutiveObservations := 0
    consecutiveObservations := 0
    confirmed := false
    staticObstacle := false
    largeClusterGeometryValid := false
    provenance := .none
    provenanceValid := false
    certifiedStaticProvenance := false
    staticProvenanceConsecutiveObservations := 0
    staticProvenanceFirstStampSec := 0
    separatedValidatedObservations := 0
    separatedObstacleHistoryValid := false
    farFieldValidatedObservations := 0
    farFieldFirstStampSec := 0
    farFieldDurationSec := 0
    farFieldHistoryValid := false
    sparseSupportRing := []
    sparseIndependentFrames := 0
    sparseToDenseThisCycle := false
    identityAnchorMapCells := observation.occupiedMapCells
    firstCargoCenterValid := knownCargoCenter observation
    firstCargoCenterMap := if knownCargoCenter observation then observation.cargoCenterMap else {}
    maximumCargoDisplacementM := 0
    firstStampSec := stampSec
    associationResetReason := "cross_authority_temporal_evidence_reset" }

def freezeAuthority : CargoObstacleTrack :=
  { track with
    associationAmbiguous := true
    associationResetReason := "ambiguous_non_reciprocal_authority_frozen"
    observedThisCycle := true
    currentSourceIndex := observation.sourceIndex
    currentSourceValidated := false
    currentWarningEligible := false }

def sameAuthority : Bool :=
  sameTemporalEvidenceAuthority observation.poseAuthority track.poseAuthority

def consecutive (cycle : Nat) (track : CargoObstacleTrack) : Bool :=
  sameAuthority observation track && track.lastObservationCycle + 1 == cycle &&
    stampSec - track.lastStampSec ≤ config.maximumObservationGapSec + stampEpsilonSec

def recordPair (pair : AssociationPair) (track : CargoObstacleTrack) : CargoObstacleTrack :=
  -- The metrics are diagnostic, and recorded before any authority is granted.
  { track with
    lastCellOverlap := pair.overlap
    lastCellIou := pair.iou
    lastNeighborCellOverlap := pair.neighborOverlap
    lastAnchorCellOverlap :=
      cellOverlap observation.occupiedMapCells track.identityAnchorMapCells
    lastAssociationCost := pair.cost
    associationResetReason :=
      if sameAuthority observation track then "" else track.associationResetReason
    associationAmbiguous := false }

section

variable (consecutive : Bool) (track : CargoObstacleTrack)

def measure : CargoObstacleTrack :=
  let kind := supportKindOf observation config
  let measured := { track with
    centroidMap := observation.centroidMap
    topZ95Map := observation.topZ95Map
    bottomZ05Map := observation.bottomZ05Map
    verticalContinuityRatio := observation.verticalContinuityRatio
    entirelyAboveCargo := observation.entirelyAboveCargo
    footprintDistanceM := observation.footprintDistanceM
    conservativeClearanceM := observation.conservativeClearanceM
    currentHazardGeometryValid := observation.hazardGeometryValid
    pointCount := observation.pointCount
    realCurrentPointCount := observation.pointCount
    supportKind := kind
    sparseToDenseThisCycle :=
      track.supportKind == .sparseMultiFrame && kind == .denseCurrentFrame }
  -- A dense frame before is no sparse evidence, so that the ring starts anew.
  let supported :=
    if kind == .sparseMultiFrame then
      appendSparseSupport stampSec observation measured
        (consecutive && track.supportKind == .sparseMultiFrame)
    else measured
  { supported with warningCode := observation.warningCode }

def countStreaks : CargoObstacleTrack :=
  let large := hasLargeStaticCargoGeometry observation config
  let total := if consecutive then track.totalConsecutiveObservations + 1 else 1
  -- A missed cycle starts every streak anew, and an unvalidated frame ends it.
  { track with
    largeClusterGeometryValid := large
    totalConsecutiveObservations := total
    consecutiveObservations := total
    validatedConsecutiveObservations :=
      if observation.sourceValidated then
        if consecutive then track.validatedConsecutiveObservations + 1 else 1
      else 0
    geometryValidatedConsecutiveObservations :=
      if observation.sourceValidated && large then
        if consecutive then track.geometryValidatedConsecutiveObservations + 1 else 1
      else 0 }

def separate : CargoObstacleTrack :=
  let isEmbedded := embedded config observation
  -- Within the load itself the count is neither raised nor cleared.
  let separated :=
    if observation.sourceValidated && !isEmbedded then
      if consecutive then track.separatedValidatedObservations + 1 else 1
    else if !isEmbedded then 0
    else track.separatedValidatedObservations
  { track with
    currentEmbedded := isEmbedded
    separatedValidatedObservations := separated
    separatedObstacleHistoryValid :=
      track.separatedObstacleHistoryValid ||
        (observation.sourceValidated && !isEmbedded && config.confirmFrames ≤ separated)
    currentNearField := observation.footprintDistanceM ≤ config.level1WarningDistanceM }

def trackFarHistory : CargoObstacleTrack :=
  if track.farFieldHistoryValid then track
  else if qualifiesForFarHistory observation config then
    let restarts := !consecutive || track.farFieldValidatedObservations == 0
    let count := if restarts then 1 else track.farFieldValidatedObservations + 1
    let firstStampSec := if restarts then stampSec else track.farFieldFirstStampSec
    -- The duration runs from the first far observation of the run.
    let durationSec : Scalar := .maxOf 0 (stampSec - firstStampSec)
    { track with
      farFieldValidatedObservations := count
      farFieldFirstStampSec := firstStampSec
      farFieldDurationSec := durationSec
      farFieldHistoryValid :=
        config.farHistoryConfirmFrames ≤ count &&
          config.farHistoryConfirmDurationSec ≤ durationSec + stampEpsilonSec }
  else
    { track with
      farFieldValidatedObservations := 0
      farFieldFirstStampSec := 0
      farFieldDurationSec := 0 }

end

def settle (cycle : Nat) (consecutive staticMotionValid : Bool) (track : CargoObstacleTrack) :
    CargoObstacleTrack :=
  let staticProvenanceFrame := observation.sourceValidated && track.largeClusterGeometryValid &&
    track.provenanceValid && staticMotionValid
  let restarts := !consecutive || track.staticProvenanceConsecutiveObservations == 0
  let staticCount :=
    if staticProvenanceFrame then
      if restarts then 1 else track.staticProvenanceConsecutiveObservations + 1
    else 0
  let staticFirstStampSec :=
    if staticProvenanceFrame then
      if restarts then stampSec else track.staticProvenanceFirstStampSec
    else 0
  let confirmed : Bool := config.confirmFrames ≤ track.validatedConsecutiveObservations
  -- A known source needs fewer frames, and no duration.
  let knownStaticSource :=
    track.provenance == .staticMapMatch || track.provenance == .preCargoOccupancy
  let requiredStaticFrames :=
    if knownStaticSource then config.knownStaticConfirmFrames else config.staticCargoConfirmFrames
  let requiredStaticDurationSec := if knownStaticSource then 0 else config.staticCargoConfirmSec
  { track with
    occupiedMapCells := observation.occupiedMapCells
    staticProvenanceConsecutiveObservations := staticCount
    staticProvenanceFirstStampSec := staticFirstStampSec
    lastStampSec := stampSec
    lastObservationCycle := cycle
    observedThisCycle := true
    confirmed
    staticObstacle :=
      confirmed && requiredStaticFrames ≤ staticCount && 0 < staticFirstStampSec &&
        requiredStaticDurationSec ≤ stampSec - staticFirstStampSec + stampEpsilonSec
    currentSourceIndex := observation.sourceIndex
    currentSourceValidated := observation.sourceValidated
    currentWarningEligible := currentlyEligible observation
    poseAuthority := observation.poseAuthority }

section Motion

variable [EuclideanNorm] (track : CargoObstacleTrack)

def followCargo : CargoObstacleTrack :=
  if knownCargoCenter observation then
    let first :=
      if track.firstCargoCenterValid then track.firstCargoCenterMap else observation.cargoCenterMap
    { track with
      firstCargoCenterMap := first
      firstCargoCenterValid := true
      maximumCargoDisplacementM :=
        .maxOf track.maximumCargoDisplacementM (observation.cargoCenterMap - first).norm }
  else track

def staticMotionValid : Bool :=
  track.velocityMap.head2.norm ≤ config.staticVelocityThresholdMps ||
    0.50 ≤ track.lastAnchorCellOverlap

def assignProvenance : CargoObstacleTrack :=
  -- An obstacle that stays on its cells while the load moves away is no part of the load.
  let provenance :=
    if authorizesStaticObstacle observation.provenance then observation.provenance
    else if !track.provenanceValid && observation.sourceValidated &&
        track.largeClusterGeometryValid &&
        config.staticTrackCellOverlapMin ≤ track.lastAnchorCellOverlap &&
        config.staticProvenanceMinCargoMotionM ≤ track.maximumCargoDisplacementM &&
        staticMotionValid config track then .cargoMovedAwayPersistence
    else if !track.provenanceValid then observation.provenance
    else track.provenance
  { track with
    provenance
    provenanceValid := authorizesStaticObstacle provenance
    certifiedStaticProvenance :=
      track.certifiedStaticProvenance || observation.certifiedStaticProvenance }

def continueMotion : CargoObstacleTrack :=
  -- Spatial identity is kept, but evidence belongs to the authority that produced it.
  let elapsedSec := stampSec - track.lastStampSec
  if !sameAuthority observation track then
    resetTemporalEvidenceForAuthorityTransition stampSec observation track
  else if stampEpsilonSec < elapsedSec then
    { track with velocityMap := (observation.centroidMap - track.centroidMap).divide elapsedSec }
  else track

def matched (cycle : Nat) (pair : AssociationPair) (track : CargoObstacleTrack) :
    CargoObstacleTrack :=
  -- Whether the cycle follows is settled before anything of the track changes.
  let follows := consecutive config stampSec observation cycle track
  let moved := continueMotion stampSec observation (recordPair observation pair track)
  let measured := measure config stampSec observation follows moved
  let counted := followCargo observation (countStreaks config observation follows measured)
  let separated := separate config observation follows (assignProvenance config observation counted)
  let historic := trackFarHistory config stampSec observation follows separated
  settle config stampSec observation cycle follows (staticMotionValid config counted) historic

end Motion

def created (cycle trackId : Nat) (first : Bool) : CargoObstacleTrack :=
  let large := hasLargeStaticCargoGeometry observation config
  let isEmbedded := embedded config observation
  -- The first observation counts once in every streak it qualifies for.
  let separated := if observation.sourceValidated && !isEmbedded then 1 else 0
  let far := qualifiesForFarHistory observation config
  let farCount := if far then 1 else 0
  let provenanceValid := authorizesStaticObstacle observation.provenance
  let staticCount := if observation.sourceValidated && large && provenanceValid then 1 else 0
  let track : CargoObstacleTrack := {
    trackId
    centroidMap := observation.centroidMap
    topZ95Map := observation.topZ95Map
    bottomZ05Map := observation.bottomZ05Map
    verticalContinuityRatio := observation.verticalContinuityRatio
    entirelyAboveCargo := observation.entirelyAboveCargo
    footprintDistanceM := observation.footprintDistanceM
    conservativeClearanceM := observation.conservativeClearanceM
    currentHazardGeometryValid := observation.hazardGeometryValid
    pointCount := observation.pointCount
    realCurrentPointCount := observation.pointCount
    supportKind := supportKindOf observation config
    warningCode := observation.warningCode
    totalConsecutiveObservations := 1
    validatedConsecutiveObservations := if observation.sourceValidated then 1 else 0
    consecutiveObservations := 1
    largeClusterGeometryValid := large
    geometryValidatedConsecutiveObservations :=
      if observation.sourceValidated && large then 1 else 0
    provenance := observation.provenance
    provenanceValid
    certifiedStaticProvenance := observation.certifiedStaticProvenance
    currentEmbedded := isEmbedded
    currentNearField := observation.footprintDistanceM ≤ config.level1WarningDistanceM
    separatedValidatedObservations := separated
    separatedObstacleHistoryValid := config.confirmFrames ≤ separated
    farFieldValidatedObservations := farCount
    farFieldFirstStampSec := if far then stampSec else 0
    farFieldDurationSec := 0
    farFieldHistoryValid :=
      config.farHistoryConfirmFrames ≤ farCount &&
        config.farHistoryConfirmDurationSec ≤ stampEpsilonSec
    occupiedMapCells := observation.occupiedMapCells
    identityAnchorMapCells := observation.occupiedMapCells
    firstCargoCenterValid := knownCargoCenter observation
    firstCargoCenterMap := if knownCargoCenter observation then observation.cargoCenterMap else {}
    associationResetReason :=
      if first then "new_obstacle_track" else "static_track_association_reset"
    staticProvenanceConsecutiveObservations := staticCount
    staticProvenanceFirstStampSec := if 0 < staticCount then stampSec else 0
    firstStampSec := stampSec
    lastStampSec := stampSec
    lastObservationCycle := cycle
    observedThisCycle := true
    currentSourceIndex := observation.sourceIndex
    currentSourceValidated := observation.sourceValidated
    currentWarningEligible := currentlyEligible observation
    poseAuthority := observation.poseAuthority }
  if supportKindOf observation config == .sparseMultiFrame then
    appendSparseSupport stampSec observation track false
  else track

end TrackWrites

section Cycle

variable [EuclideanNorm]

def countAmbiguity (self : CargoObstacleTracker) (observation : CargoObstacleObservation) :
    CargoObstacleTracker :=
  { self with
    ambiguousAssociationCount := self.ambiguousAssociationCount + 1
    sparseAmbiguityRejectCount :=
      if sparseObservation observation self.config then self.sparseAmbiguityRejectCount + 1
      else self.sparseAmbiguityRejectCount }

def holdsSparseEvidence (track : CargoObstacleTrack) : Bool :=
  !track.sparseSupportRing.isEmpty || 0 < track.sparseIndependentFrames

def observe (stampSec : Scalar) (self : CargoObstacleTracker)
    (observed : CargoObstacleObservation × AssociationOutcome) : CargoObstacleTracker :=
  let observation := observed.1
  match observed.2 with
  | .contested trackIndices =>
    countAmbiguity
      { self with
        -- Every track that competes for the observation is exposed and frozen.
        tracks := trackIndices.foldl
          (fun tracks index => tracks.modify index (freezeAuthority observation)) self.tracks }
      observation
  | .unowned =>
    { self with
      tracks := self.tracks ++ [created self.config stampSec observation self.cycle
        self.nextTrackId self.tracks.isEmpty]
      nextTrackId := self.nextTrackId + 1
      createdTrackCount := self.createdTrackCount + 1
      associationResetCount :=
        if self.tracks.isEmpty then self.associationResetCount
        else self.associationResetCount + 1 }
  | .ambiguous pair =>
    countAmbiguity
      { self with
        tracks := self.tracks.modify pair.trackIndex fun track =>
          freezeAuthority observation (recordPair observation pair track) }
      observation
  | .reciprocal pair =>
    let forgetsSparse := (self.tracks[pair.trackIndex]?).any fun track =>
      -- Counted before the track forgets the evidence of another authority.
      !sameAuthority observation track && holdsSparseEvidence track
    { self with
      tracks := self.tracks.modify pair.trackIndex
        (matched self.config stampSec observation self.cycle pair)
      sparseAuthorityResetCount :=
        if forgetsSparse then self.sparseAuthorityResetCount + 1
        else self.sparseAuthorityResetCount }

variable (self : CargoObstacleTracker)

def reset : CargoObstacleTracker :=
  { self with
    tracks := []
    nextTrackId := 1
    cycle := 0
    hasStamp := false
    lastStampSec := 0 }

def stampRolledBack (stampSec : Scalar) : Bool :=
  self.hasStamp && stampSec + stampEpsilonSec < self.lastStampSec

def stampRepeated (stampSec : Scalar) : Bool :=
  self.hasStamp && !self.stampRolledBack stampSec &&
    stampSec ≤ self.lastStampSec + stampEpsilonSec

def beginCycle (stampSec : Scalar) : CargoObstacleTracker :=
  -- A jump back in time forgets all tracks and starts the cycles anew.
  let base :=
    if self.stampRolledBack stampSec then
      { self.reset with
        sparseAuthorityResetCount :=
          self.sparseAuthorityResetCount + self.tracks.countP holdsSparseEvidence }
    else self
  { base with
    hasStamp := true
    lastStampSec := stampSec
    cycle := base.cycle + 1
    tracks := (base.tracks.filter fun track =>
        !(base.config.staleTrackSec + stampEpsilonSec < stampSec - track.lastStampSec)).map
      fun track => { track with observedThisCycle := false, sparseToDenseThisCycle := false } }

def validObservations (config : CargoObstacleTrackerConfig)
    (observations : List CargoObstacleObservation) : List CargoObstacleObservation :=
  ((observations.filter fun observation => validObservation observation config).map
    fun observation => { observation with
      occupiedMapCells := (observation.occupiedMapCells.insertionSort (· ≤ ·)).eraseReps }
  ).insertionSort fun left right => canonicalObservationLess right left = false

def cycleOutcomes (stampSec : Scalar) (observations : List CargoObstacleObservation) :
    List (CargoObstacleObservation × AssociationOutcome) :=
  let valid := validObservations self.config observations
  outcomes (legalPairs self.config stampSec valid self.tracks) valid

def observeAll (stampSec : Scalar) (observations : List CargoObstacleObservation) :
    CargoObstacleTracker :=
  (self.cycleOutcomes stampSec observations).foldl (observe stampSec) self

end Cycle

section Decision

variable (config : CargoObstacleTrackerConfig) (policy : CargoObstacleAuthorityPolicy)
  (track : CargoObstacleTrack)

def supportMature : Bool :=
  track.supportKind == .denseCurrentFrame || config.confirmFrames ≤ track.sparseIndependentFrames

def embeddedAuthorized : Bool :=
  !track.currentEmbedded || track.separatedObstacleHistoryValid || track.provenanceValid

def formalWarningAuthorized : Bool :=
  supportMature config track && track.currentWarningEligible && warningCode track.warningCode &&
    track.confirmed &&
    (!config.requireFarFieldHistoryForWarnings || track.farFieldHistoryValid ||
      track.certifiedStaticProvenance) &&
    (!policy.requireLargeGeometryForWarning ||
      config.confirmFrames ≤ track.geometryValidatedConsecutiveObservations) &&
    track.currentSourceValidated && embeddedAuthorized track &&
    (!policy.requireStaticCargoForWarning || track.staticObstacle)

def noFarReviewAuthorized : Bool :=
  config.requireFarFieldHistoryForWarnings && !track.farFieldHistoryValid &&
    !track.certifiedStaticProvenance && supportMature config track && track.observedThisCycle &&
    !track.associationAmbiguous && track.currentWarningEligible &&
    warningCode track.warningCode && track.currentSourceValidated &&
    currentNearHazardGeometryValid track config && embeddedAuthorized track

structure Selection where
  selected : Option CargoObstacleTrack := none
  reviewSelected : Option CargoObstacleTrack := none
  candidate : Option CargoObstacleTrack := none

def outranks (chosen : Option CargoObstacleTrack) : Bool :=
  match chosen with
  | none => true
  | some current => moreDangerous track current

def select (selection : Selection) (track : CargoObstacleTrack) : Selection :=
  if !track.observedThisCycle then selection
  else
    -- The most dangerous observed track is a candidate, authorized or not.
    let candidate :=
      if outranks track selection.candidate then some track else selection.candidate
    if formalWarningAuthorized config policy track && outranks track selection.selected then
      { selection with candidate, selected := some track }
    else if noFarReviewAuthorized config track && outranks track selection.reviewSelected then
      { selection with candidate, reviewSelected := some track }
    else { selection with candidate }

def requiredStaticFrames (track : CargoObstacleTrack) : Int :=
  if track.provenance == .staticMapMatch || track.provenance == .preCargoOccupancy then
    config.knownStaticConfirmFrames
  else config.staticCargoConfirmFrames

def requiredStaticDurationSec (track : CargoObstacleTrack) : Scalar :=
  if track.provenance == .staticMapMatch || track.provenance == .preCargoOccupancy then 0
  else config.staticCargoConfirmSec

def pendingReason [EuclideanNorm] (stampSec : Scalar) (diagnostic : Option CargoObstacleTrack) :
    String :=
  match diagnostic with
  | none => "static_track_association_reset"
  | some track =>
    if track.associationAmbiguous then "ambiguous_obstacle_association_authority_frozen"
    else if !track.currentSourceValidated then "current_source_unvalidated"
    else if track.supportKind == .sparseMultiFrame &&
        track.sparseIndependentFrames < config.confirmFrames then "sparse_support_pending"
    else if !embeddedAuthorized track then "embedded_obstacle_origin_unresolved"
    else if config.requireFarFieldHistoryForWarnings && warningCode track.warningCode &&
        !track.farFieldHistoryValid && !track.certifiedStaticProvenance then
      "warning_track_missing_true_far_history"
    else if !policy.requireStaticCargoForWarning then "persistent_obstacle_track_pending"
    else if policy.requireLargeGeometryForWarning && (!track.largeClusterGeometryValid ||
        track.geometryValidatedConsecutiveObservations < config.confirmFrames) then
      "static_geometry_below_threshold"
    else if !track.provenanceValid then "static_provenance_unavailable"
    else if config.staticVelocityThresholdMps < track.velocityMap.head2.norm &&
        track.lastAnchorCellOverlap < 0.50 then "static_velocity_not_stable"
    else if track.staticProvenanceConsecutiveObservations < requiredStaticFrames config track then
      "static_frames_pending"
    else if track.staticProvenanceFirstStampSec ≤ 0 ||
        stampSec - track.staticProvenanceFirstStampSec + stampEpsilonSec <
          requiredStaticDurationSec config track then
      "static_duration_pending"
    else if track.associationResetReason != "" then "static_track_association_reset"
    else "static_authorization_pending"

def describe (stampSec : Scalar) (decision : CargoObstacleTrackerDecision)
    (track : CargoObstacleTrack) : CargoObstacleTrackerDecision :=
  { decision with
    selectedTrackId := track.trackId
    selectedSourceIndex := track.currentSourceIndex
    selectedConfirmCount := track.validatedConsecutiveObservations
    selectedGeometryConfirmCount := track.geometryValidatedConsecutiveObservations
    selectedTrackAgeSec := stampSec - track.firstStampSec
    selectedTrackStatic := track.staticObstacle
    selectedLargeGeometryValid := track.largeClusterGeometryValid
    selectedProvenance := track.provenance
    selectedProvenanceValid := track.provenanceValid
    selectedEmbedded := track.currentEmbedded
    selectedEmbeddedAuthorized := embeddedAuthorized track
    selectedSeparatedObservations := track.separatedValidatedObservations
    selectedNearField := track.currentNearField
    selectedNearFieldAuthorized :=
      !track.currentNearField || track.farFieldHistoryValid || track.certifiedStaticProvenance
    selectedFarFieldHistoryValid := track.farFieldHistoryValid
    selectedFarFieldObservations := track.farFieldValidatedObservations
    selectedFarFieldDurationSec := track.farFieldDurationSec
    selectedCertifiedStaticProvenance := track.certifiedStaticProvenance
    selectedStaticProvenanceStreak := track.staticProvenanceConsecutiveObservations
    selectedStaticAgeSec :=
      if 0 < track.staticProvenanceFirstStampSec then
        .maxOf 0 (stampSec - track.staticProvenanceFirstStampSec)
      else 0
    selectedTrackCellOverlap := track.lastCellOverlap
    selectedTrackIou := track.lastCellIou
    selectedTrackNeighborCellOverlap := track.lastNeighborCellOverlap
    selectedAssociationCost := track.lastAssociationCost
    selectedAssociationAmbiguous := track.associationAmbiguous
    selectedAssociationResetReason := track.associationResetReason
    selectedTrackVelocity := track.velocityMap
    selectedPoseAuthority := track.poseAuthority
    selectedSupportKind := track.supportKind
    selectedRealCurrentPointCount := track.realCurrentPointCount
    selectedSparseIndependentFrames := track.sparseIndependentFrames
    selectedSparseToDense := track.sparseToDenseThisCycle }

def reportCounters (self : CargoObstacleTracker) : CargoObstacleTrackerDecision where
  createdTrackCount := self.createdTrackCount
  associationResetCount := self.associationResetCount
  ambiguousAssociationCount := self.ambiguousAssociationCount
  sparseAmbiguityRejectCount := self.sparseAmbiguityRejectCount
  sparseAuthorityResetCount := self.sparseAuthorityResetCount

def project [EuclideanNorm] (self : CargoObstacleTracker) (policy : CargoObstacleAuthorityPolicy)
    (stampSec : Scalar) (hazardObserved : Bool) : CargoObstacleTrackerDecision :=
  let selection := self.tracks.foldl (select self.config policy) {}
  -- Without a warning, the decision describes what comes closest to one.
  let diagnostic := selection.selected <|> selection.reviewSelected <|> selection.candidate
  let counted := { self.reportCounters with
    valid := true
    hazardObserved
    sparseTrackCount := self.tracks.countP (·.supportKind == .sparseMultiFrame)
    sparseRingHighWater := (self.tracks.map (·.sparseSupportRing.length)).foldl max 0 }
  let described := match diagnostic with
    | some track => describe stampSec counted track
    | none => counted
  match selection.selected, selection.reviewSelected with
  | some track, _ =>
    { described with
      confirmedHazard := true
      warningCode := track.warningCode
      reason := "persistent_obstacle_track_confirmed" }
  | none, some track =>
    { described with
      noFarReviewHazard := true
      warningCode := track.warningCode
      reason := "near_hazard_without_true_far_history_review" }
  | none, none =>
    { described with
      reason :=
        if hazardObserved then pendingReason self.config policy stampSec diagnostic
        else if selection.candidate.isSome then "directional_collision_track_acquiring"
        else "clear_no_hazard_cluster" }

end Decision

structure TrackerCall where
  stampSec : Scalar
  observations : List CargoObstacleObservation
  policy : CargoObstacleAuthorityPolicy

def callInvalid (self : CargoObstacleTracker) (stampSec : Scalar) : Bool :=
  !(validateCargoObstacleTrackerConfig self.config).valid || !stampSec.isFinite || stampSec ≤ 0

def hazardAmong (config : CargoObstacleTrackerConfig)
    (observations : List CargoObstacleObservation) : Bool :=
  observations.any fun observation => validObservation observation config &&
    observation.warningEligible && warningCode observation.warningCode

def update [EuclideanNorm] (self : CargoObstacleTracker) (call : TrackerCall) :
    CargoObstacleTracker × CargoObstacleTrackerDecision :=
  if self.callInvalid call.stampSec then
    -- Nothing changes for a call that cannot be used.
    let validation := validateCargoObstacleTrackerConfig self.config
    (self, { self.reportCounters with
      reason :=
        if validation.valid then "invalid_obstacle_track_input"
        else "invalid_obstacle_tracker_config:" ++ validation.summary })
  else if self.stampRepeated call.stampSec then
    (self, { self.reportCounters with valid := true, reason := "repeated_obstacle_track_stamp" })
  else
    -- A fresh stamp runs a whole cycle.
    let finished := (self.beginCycle call.stampSec).observeAll call.stampSec call.observations
    (finished, finished.project call.policy call.stampSec
      (hazardAmong self.config call.observations))

def machine [EuclideanNorm] (config : CargoObstacleTrackerConfig) :
    Machine CargoObstacleTracker TrackerCall CargoObstacleTrackerDecision where
  start := { config }
  step := update

end CargoObstacleTracker
end NdtSlam
