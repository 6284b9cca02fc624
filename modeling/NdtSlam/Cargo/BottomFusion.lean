import NdtSlam.Cargo.VerticalStats

/-! The estimator of the bottom of a suspended cargo, over one observation after another. -/

namespace NdtSlam

inductive CargoBottomSource where
  | invalid
  | points
  | mapDiff
  | mapStatic
  | recentStable
  | originHeight
  | directTopFrozenThickness
  deriving DecidableEq

def cargoBottomSourceName : CargoBottomSource → String
  | .points => "POINTS"
  | .mapDiff => "MAP_DIFF"
  | .mapStatic => "MAP_STATIC"
  | .recentStable => "RECENT_STABLE"
  | .originHeight => "ORIGIN_HEIGHT"
  | .directTopFrozenThickness => "DIRECT_TOP_FROZEN_THICKNESS"
  | .invalid => "INVALID"

def cargoBottomSourcePriority : CargoBottomSource → Nat
  | .mapDiff => 6
  | .directTopFrozenThickness => 5
  | .originHeight => 4
  | .points => 3
  | .mapStatic => 2
  | .recentStable => 1
  | .invalid => 0

structure CargoBottomResult where
  valid : Bool := false
  heightValid : Bool := false
  geometryValid : Bool := false
  trackId : Nat := 0
  stampSec : Scalar := 0
  evidenceStampSec : Scalar := 0
  poseAuthority : TemporalEvidenceAuthority := {}
  source : CargoBottomSource := .invalid
  sourceName : String := "INVALID"
  reason : String := "not_initialized"
  height : Scalar := 0
  uncertainty : Scalar := 1
  confidence : Scalar := 0
  sourceAgeSec : Scalar := 0
  accumulatedPoints : Nat := 0
  selectedStats : CargoVerticalStats := {}
  pointsStats : CargoVerticalStats := {}
  mapDiffStats : CargoVerticalStats := {}
  mapStaticStats : CargoVerticalStats := {}
  originHeightStats : CargoVerticalStats := {}
  directTopFrozenStats : CargoVerticalStats := {}
  geometry : CargoBoxGeometry := {}

structure AccumulatedFrame where
  stampSec : Scalar := 0
  pointsMap : List Vec3 := []
  trackCenterValid : Bool := false
  trackCenterMap : Vec3 := {}

structure StableEstimate where
  valid : Bool := false
  trackId : Nat := 0
  stampSec : Scalar := 0
  poseAuthority : TemporalEvidenceAuthority := {}
  originalSource : CargoBottomSource := .invalid
  bottomZBase : Scalar := 0
  topZBase : Scalar := 0
  uncertainty : Scalar := 1
  confidence : Scalar := 0
  centerBase : Vec2 := {}
  sizeXy : Vec2 := {}
  trackCenterValid : Bool := false
  bottomOffsetFromTrackCenter : Scalar := 0
  topOffsetFromTrackCenter : Scalar := 0
  stats : CargoVerticalStats := {}

structure SelectedCandidate where
  source : CargoBottomSource := .invalid
  reason : String := ""
  pointsBase : List Vec3 := []
  stats : CargoVerticalStats := {}
  bottomZBase : Scalar := 0
  topZBase : Scalar := 0
  uncertainty : Scalar := 1
  confidence : Scalar := 0
  ageSec : Scalar := 0
  poseAuthority : TemporalEvidenceAuthority := {}
  memoryCenterBase : Vec2 := {}
  memorySizeXy : Vec2 := {}
  evidenceStampSec : Scalar := 0

structure BottomTemporalState where
  newestPointsStampSec : Scalar := 0
  accumulatedFrames : List AccumulatedFrame := []
  emaValid : Bool := false
  emaSource : CargoBottomSource := .invalid
  emaUsesTrackCenter : Bool := false
  emaBottomZBase : Scalar := 0
  emaTopZBase : Scalar := 0
  stable : StableEstimate := {}
  finalValid : Bool := false
  finalUsesTrackCenter : Bool := false
  finalBottomValue : Scalar := 0
  finalTopValue : Scalar := 0
  finalSource : CargoBottomSource := .invalid
  pendingLargeJump : Bool := false
  pendingBottomValue : Scalar := 0
  pendingTopValue : Scalar := 0
  pendingSource : CargoBottomSource := .invalid
  pendingLargeJumpCount : Nat := 0
  pendingLastPositiveStamp : Scalar := 0
  pendingLatestPositiveBottom : Scalar := 0
  pendingLatestPositiveTop : Scalar := 0
  lastResultAvailable : Bool := false
  lastResult : CargoBottomResult := {}

structure CargoBottomFusion where
  config : CargoBottomFusionConfig := {}
  hasTrack : Bool := false
  trackId : Nat := 0
  trackPoseAuthority : TemporalEvidenceAuthority := {}
  lastStampSec : Scalar := 0
  temporal : BottomTemporalState := {}

/-! ### Checks -/

def finiteNonNegative (value : Scalar) : Bool := value.isFinite && 0 ≤ value

def unitInterval (value : Scalar) : Bool := value.isFinite && 0 ≤ value && value ≤ 1

namespace CargoBottomFusionConfig

variable (config : CargoBottomFusionConfig)

def faults : List (String × Bool) :=
  [("accumulation_window_sec", !finiteNonNegative config.accumulationWindowSec),
    ("stale_reset_sec", !config.staleResetSec.isFinite || config.staleResetSec ≤ 0),
    ("stable_hold_sec", !finiteNonNegative config.stableHoldSec),
    ("max_transform_skew_sec", !finiteNonNegative config.maxTransformSkewSec),
    ("backwards_tolerance_sec", !finiteNonNegative config.backwardsToleranceSec),
    ("max_accumulated_points", config.maxAccumulatedPoints == 0),
    ("minimum_points", config.pointsMinPoints == 0),
    ("minimum_visible_height", !finiteNonNegative config.pointsMinVisibleHeight),
    ("minimum_bottom_support", config.pointsMinBottomBandPoints == 0 ||
      config.pointsMinBottomBandXyCells == 0),
    ("bottom_support_ratio", !unitInterval config.pointsMinBottomBandPointRatio ||
      !unitInterval config.pointsMinBottomBandXyCellRatio ||
      !unitInterval config.pointsMinBottomSpanRatio),
    ("map_minimum_support", config.mapDiffMinPoints == 0 || config.mapStaticMinPoints == 0 ||
      !finiteNonNegative config.mapMinVisibleHeight || config.mapMinBottomBandPoints == 0 ||
      config.mapMinBottomBandXyCells == 0),
    ("map_support_ratio", !unitInterval config.mapMinBottomBandPointRatio ||
      !unitInterval config.mapMinBottomBandXyCellRatio),
    ("support_geometry", !config.bottomBandHeight.isFinite || config.bottomBandHeight ≤ 0 ||
      !config.xyCellSize.isFinite || config.xyCellSize ≤ 0 || config.pointsMinVerticalBins == 0 ||
      !config.pointsVerticalBinSize.isFinite || config.pointsVerticalBinSize ≤ 0 ||
      !finiteNonNegative config.pointsMaxVerticalGap ||
      !finiteNonNegative config.priorHeightTolerance),
    ("footprint_size", !finiteNonNegative config.footprintMargin ||
      !config.minFootprintSize.isFinite || config.minFootprintSize ≤ 0 ||
      !config.maxFootprintSize.isFinite || config.maxFootprintSize < config.minFootprintSize),
    ("uncertainty_bounds", !config.invalidUncertainty.isFinite || config.invalidUncertainty ≤ 0 ||
      !finiteNonNegative config.pointsUncertaintyMin ||
      !finiteNonNegative config.mapDiffUncertaintyMin ||
      !finiteNonNegative config.mapStaticUncertaintyMin ||
      !finiteNonNegative config.originHeightUncertaintyMin ||
      !finiteNonNegative config.directTopFrozenUncertaintyMin ||
      !finiteNonNegative config.recentStableUncertaintyMin ||
      config.invalidUncertainty < config.pointsUncertaintyMin ||
      config.invalidUncertainty < config.mapDiffUncertaintyMin ||
      config.invalidUncertainty < config.mapStaticUncertaintyMin ||
      config.invalidUncertainty < config.originHeightUncertaintyMin ||
      config.invalidUncertainty < config.directTopFrozenUncertaintyMin ||
      config.invalidUncertainty < config.recentStableUncertaintyMin),
    ("uncertainty_gain", !finiteNonNegative config.tailUncertaintyGain ||
      !finiteNonNegative config.sparseUncertaintyGain ||
      !finiteNonNegative config.stableAgeUncertaintyPerSec),
    ("confidence_or_ema", !unitInterval config.pointsConfidenceBase ||
      !unitInterval config.mapDiffConfidenceBase || !unitInterval config.mapStaticConfidenceBase ||
      !unitInterval config.originHeightConfidenceBase ||
      !unitInterval config.directTopFrozenConfidenceBase ||
      !unitInterval config.recentStableConfidenceBase || !unitInterval config.emaAlpha),
    ("source_transition_gate", !finiteNonNegative config.directUpdateMaxJump ||
      !finiteNonNegative config.softUpdateMaxJump ||
      config.softUpdateMaxJump < config.directUpdateMaxJump ||
      !unitInterval config.softUpdateAlpha || config.largeJumpConfirmFrames == 0 ||
      !finiteNonNegative config.largeJumpConfirmationTolerance),
    ("prior_height_bounds", !config.minimumPriorHeight.isFinite ||
      !config.maximumPriorHeight.isFinite || config.minimumPriorHeight ≤ 0 ||
      config.maximumPriorHeight < config.minimumPriorHeight)]

def invalidField : Option String :=
  (config.faults.find? (·.2)).map (·.1)

def Valid : Prop := config.invalidField = none

instance (config : CargoBottomFusionConfig) : Decidable config.Valid :=
  inferInstanceAs (Decidable (config.invalidField = none))

end CargoBottomFusionConfig

namespace CargoBottomObservation

def untracked (observation : CargoBottomObservation) : Bool :=
  !observation.trackValid || !observation.stampSec.isFinite || observation.stampSec < 0 ||
    !validRigidTransform observation.tMapBase

variable (config : CargoBottomFusionConfig)

def validHeightPrior (given : Bool) (value : Scalar) : Bool :=
  !given || (value.isFinite && config.minimumPriorHeight ≤ value &&
    value ≤ config.maximumPriorHeight)

def invalidHeights (observation : CargoBottomObservation) : Bool :=
  !validHeightPrior config observation.priorHeightValid observation.priorHeightM ||
    !validHeightPrior config observation.mapDiffHeightValid observation.mapDiffHeightM ||
    !validHeightPrior config observation.mapStaticHeightValid observation.mapStaticHeightM ||
    !validHeightPrior config observation.originHeightValid observation.originHeightM ||
    !validHeightPrior config observation.frozenThicknessValid observation.frozenThicknessM ||
    (observation.frozenThicknessValid &&
      (!observation.frozenThicknessStampSec.isFinite || observation.frozenThicknessStampSec < 0 ||
        !unitInterval observation.frozenThicknessConfidence)) ||
    (observation.currentTopValid && !observation.currentTopZBase.isFinite)

def refusal (observation : CargoBottomObservation) : Option String :=
  if !observation.transformStampSec.isFinite || observation.transformStampSec < 0 ||
      config.maxTransformSkewSec < (observation.transformStampSec - observation.stampSec).abs then
    some "transform_stamp_not_aligned"
  else if observation.footprintValid && (!observation.footprintCenterBase.allFinite ||
      !observation.footprintSizeXy.allFinite || observation.footprintSizeXy.minCoeff ≤ 0 ||
      !observation.footprintYawBaseRad.isFinite) then
    some "invalid_tracked_footprint"
  else if observation.trackCenterValid && !observation.trackCenterBase.allFinite then
    some "invalid_track_center"
  else if observation.invalidHeights config then some "invalid_height_prior"
  else none

def blankResult (observation : CargoBottomObservation) (uncertainty : Scalar) :
    CargoBottomResult where
  trackId := observation.trackId
  stampSec := observation.stampSec
  evidenceStampSec := observation.stampSec
  poseAuthority := observation.poseAuthority
  uncertainty := uncertainty

end CargoBottomObservation

/-! ### The time line of a track -/

inductive Continuity where
  | proceeds (ready : CargoBottomFusion)
  | interrupted (reason : String)
  | repeated

namespace CargoBottomFusion

variable (self : CargoBottomFusion) (observation : CargoBottomObservation)

def follows : Bool := self.hasTrack && self.trackId == observation.trackId

def changesAuthority : Bool :=
  !sameTemporalEvidenceAuthority self.trackPoseAuthority observation.poseAuthority &&
    (!observation.pointsBase.isEmpty || observation.currentTopValid)

def rollsBack : Bool :=
  observation.stampSec + self.config.backwardsToleranceSec < self.lastStampSec

def leavesGap : Bool := self.config.staleResetSec < observation.stampSec - self.lastStampSec

def losesCenter : Bool :=
  self.temporal.finalValid && self.temporal.finalUsesTrackCenter && !observation.trackCenterValid

def repeatsStamp : Bool :=
  observation.stampSec ≤ self.lastStampSec + self.config.backwardsToleranceSec &&
    self.temporal.lastResultAvailable

def continuity : Continuity :=
  if !self.follows observation then
    .proceeds { self with
      temporal := {}
      hasTrack := true
      trackId := observation.trackId
      trackPoseAuthority := observation.poseAuthority }
  else if self.changesAuthority observation then
    -- Only the points in the frame of the map become stale.
    .proceeds { self with
      trackPoseAuthority := observation.poseAuthority
      temporal := { self.temporal with accumulatedFrames := [], newestPointsStampSec := 0 } }
  else if self.rollsBack observation then .interrupted "time_rollback_reset"
  else if self.leavesGap observation then .interrupted "stale_gap_reset"
  else if self.losesCenter observation then .interrupted "track_center_lost"
  else if self.repeatsStamp observation then .repeated
  else .proceeds self

end CargoBottomFusion

/-! ### Accumulated points -/

def accumulatedPointCount (frames : List AccumulatedFrame) : Nat :=
  (frames.map fun frame => frame.pointsMap.length).sum

def makeRoom (limit more : Nat) : List AccumulatedFrame → List AccumulatedFrame
  | [] => []
  | frame :: rest =>
    if limit < accumulatedPointCount (frame :: rest) + more then makeRoom limit more rest
    else frame :: rest

def dropCrowded (limit : Nat) : List AccumulatedFrame → List AccumulatedFrame
  | [] => []
  | [frame] => [frame]
  | frame :: next :: rest =>
    if limit < accumulatedPointCount (frame :: next :: rest) then dropCrowded limit (next :: rest)
    else frame :: next :: rest

def enforceAccumulationLimit (config : CargoBottomFusionConfig) (frames : List AccumulatedFrame) :
    List AccumulatedFrame :=
  match dropCrowded config.maxAccumulatedPoints frames with
  | [] => []
  | front :: rest =>
    { front with pointsMap :=
        limitPointsDeterministically front.pointsMap config.maxAccumulatedPoints } :: rest

def purgeAccumulation (config : CargoBottomFusionConfig) (stampSec : Scalar)
    (frames : List AccumulatedFrame) : List AccumulatedFrame :=
  enforceAccumulationLimit config
    (frames.dropWhile fun frame => frame.stampSec < stampSec - config.accumulationWindowSec)

namespace CargoBottomObservation

def frame (config : CargoBottomFusionConfig) (observation : CargoBottomObservation) :
    AccumulatedFrame where
  stampSec := observation.stampSec
  trackCenterValid := observation.trackCenterValid
  trackCenterMap :=
    if observation.trackCenterValid then observation.tMapBase.apply observation.trackCenterBase
    else {}
  pointsMap :=
    limitPointsDeterministically
      ((finitePoints observation.pointsBase).map observation.tMapBase.apply)
      config.maxAccumulatedPoints

end CargoBottomObservation

namespace BottomTemporalState

def appendPoints (config : CargoBottomFusionConfig) (temporal : BottomTemporalState)
    (observation : CargoBottomObservation) : BottomTemporalState :=
  if observation.pointsBase.isEmpty then temporal
  else if !temporal.accumulatedFrames.isEmpty && observation.stampSec
      ≤ temporal.newestPointsStampSec + config.backwardsToleranceSec then temporal
  else
    let frame := observation.frame config
    if frame.pointsMap.isEmpty then temporal
    else
      { temporal with
        accumulatedFrames := enforceAccumulationLimit config
          (makeRoom config.maxAccumulatedPoints frame.pointsMap.length temporal.accumulatedFrames
            ++ [frame])
        newestPointsStampSec := observation.stampSec }

def ingest (config : CargoBottomFusionConfig) (temporal : BottomTemporalState)
    (observation : CargoBottomObservation) : BottomTemporalState :=
  let appended := temporal.appendPoints config observation
  { appended with
    accumulatedFrames :=
      purgeAccumulation config observation.stampSec appended.accumulatedFrames }

end BottomTemporalState

def alignedAccumulatedPoints (frames : List AccumulatedFrame)
    (observation : CargoBottomObservation) : List Vec3 :=
  let toBase := observation.tMapBase.inverse
  let currentCenterMap : Vec3 :=
    if observation.trackCenterValid then observation.tMapBase.apply observation.trackCenterBase
    else {}
  frames.flatMap fun frame => frame.pointsMap.map fun point =>
    toBase.apply <|
      if frame.trackCenterValid && observation.trackCenterValid then
        point + (currentCenterMap - frame.trackCenterMap)
      else point

/-! ### Candidates -/

structure BottomEvidence where
  points : List Vec3 := []
  usesCurrentFramePoints : Bool := false
  accumulatedPoints : Nat := 0
  pointsStats : CargoVerticalStats := {}
  mapDiffStats : CargoVerticalStats := {}
  mapStaticStats : CargoVerticalStats := {}
  originHeightStats : CargoVerticalStats := {}
  directTopFrozenStats : CargoVerticalStats := {}

variable (observation : CargoBottomObservation)

def heightPriorStats (given : Bool) (height : Scalar) : CargoVerticalStats :=
  if !given || !observation.currentTopValid then
    { rejectReason := if !given then "height_prior_unavailable" else "current_top_unavailable" }
  else
    let z05 := observation.currentTopZBase - height
    let z95 := observation.currentTopZBase
    { valid := true
      supportStrong := true
      z05, z95
      z02 := z05
      z50 := 0.5 * (z05 + z95)
      visibleHeight := height
      rejectReason := "accepted_height_prior" }

def directTopFrozenStats : CargoVerticalStats :=
  let stats := heightPriorStats observation
    (observation.frozenThicknessValid && observation.currentTopSupportValid)
    observation.frozenThicknessM
  if observation.frozenThicknessValid && !observation.currentTopSupportValid then
    { stats with rejectReason := "current_top_support_insufficient" }
  else stats

section Rotations

variable [CircularFunctions]

def bottomEvidence (config : CargoBottomFusionConfig) (frames : List AccumulatedFrame)
    (observation : CargoBottomObservation) : BottomEvidence :=
  let accumulated := filterToFootprint (alignedAccumulatedPoints frames observation) observation
    config.footprintMargin
  let current := filterToFootprint (finitePoints observation.pointsBase) observation
    config.footprintMargin
  let currentStats := analyzeVertical config observation current
  -- A complete current observation is safer than the accumulation, which can trail a hoist.
  { points := if currentStats.supportStrong then current else accumulated
    usesCurrentFramePoints := currentStats.supportStrong
    accumulatedPoints := accumulated.length
    pointsStats := if currentStats.supportStrong then currentStats
      else analyzeVertical config observation accumulated
    mapDiffStats := heightPriorStats observation observation.mapDiffHeightValid
      observation.mapDiffHeightM
    mapStaticStats := heightPriorStats observation observation.mapStaticHeightValid
      observation.mapStaticHeightM
    originHeightStats := heightPriorStats observation observation.originHeightValid
      observation.originHeightM
    directTopFrozenStats := directTopFrozenStats observation }

end Rotations

def preferCandidate (source : CargoBottomSource) (stats : CargoVerticalStats)
    (candidate : SelectedCandidate → SelectedCandidate) (selected : Option SelectedCandidate) :
    Option SelectedCandidate :=
  if !stats.supportStrong || cargoBottomSourcePriority source
      ≤ cargoBottomSourcePriority ((selected.map (·.source)).getD .invalid) then selected
  else some (candidate (selected.getD {}))

def selectFromHeightPrior (observation : CargoBottomObservation) (source : CargoBottomSource)
    (stats : CargoVerticalStats) (uncertainty confidence : Scalar) (reason : String) :
    Option SelectedCandidate → Option SelectedCandidate :=
  preferCandidate source stats fun selected =>
    { selected with
      source, reason, stats, uncertainty, confidence
      bottomZBase := stats.z05
      topZBase := stats.z95
      poseAuthority := observation.poseAuthority
      evidenceStampSec := observation.stampSec }

variable (config : CargoBottomFusionConfig) (authority : TemporalEvidenceAuthority)

def selectFromPoints (observation : CargoBottomObservation) (evidence : BottomEvidence) :
    Option SelectedCandidate → Option SelectedCandidate :=
  preferCandidate .points evidence.pointsStats fun selected =>
    { selected with
      source := .points
      reason := if evidence.usesCurrentFramePoints then "current_points_supported"
        else "accumulated_points_supported"
      pointsBase := evidence.points
      stats := evidence.pointsStats
      bottomZBase := evidence.pointsStats.z05
      topZBase := evidence.pointsStats.z95
      uncertainty := candidateUncertainty evidence.pointsStats config.pointsUncertaintyMin config
      confidence := candidateConfidence evidence.pointsStats config.pointsConfidenceBase
      -- Accumulated points stand under the authority of the track.
      poseAuthority := if evidence.usesCurrentFramePoints then observation.poseAuthority
        else authority
      evidenceStampSec := observation.stampSec }

def selectObserved (observation : CargoBottomObservation) (evidence : BottomEvidence) :
    Option SelectedCandidate :=
  let points := selectFromPoints config authority observation evidence none
  let mapDiff := selectFromHeightPrior observation .mapDiff evidence.mapDiffStats
    config.mapDiffUncertaintyMin config.mapDiffConfidenceBase "map_difference_height_prior" points
  let direct := selectFromHeightPrior observation .directTopFrozenThickness
    evidence.directTopFrozenStats config.directTopFrozenUncertaintyMin
    (.minOf config.directTopFrozenConfidenceBase observation.frozenThicknessConfidence)
    "fresh_top_with_track_frozen_thickness" mapDiff
  let mapStatic := selectFromHeightPrior observation .mapStatic evidence.mapStaticStats
    config.mapStaticUncertaintyMin config.mapStaticConfidenceBase "static_map_height_prior" direct
  selectFromHeightPrior observation .originHeight evidence.originHeightStats
    config.originHeightUncertaintyMin config.originHeightConfidenceBase
    "pre_lift_frozen_height_prior" mapStatic

def noteLowerEdge (evidence : BottomEvidence) (selected : SelectedCandidate) :
    SelectedCandidate :=
  if selected.source == .directTopFrozenThickness && evidence.pointsStats.supportStrong &&
      0.25 < (evidence.pointsStats.z05 - selected.bottomZBase).abs then
    { selected with reason := selected.reason ++ ";inconsistent_lower_edge_rejected" }
  else selected

def holdStable (stable : StableEstimate) (observation : CargoBottomObservation) :
    Option SelectedCandidate :=
  let age := observation.stampSec - stable.stampSec
  if stable.valid && stable.trackId == observation.trackId &&
      -config.backwardsToleranceSec ≤ age && age ≤ config.stableHoldSec then
    let follows := stable.trackCenterValid && observation.trackCenterValid
    let decay : Scalar :=
      if 0 < config.stableHoldSec then Scalar.clamp (1 - age / config.stableHoldSec) 0 1 else 0
    some
      { source := .recentStable
        reason := "recent_stable_hold"
        stats := stable.stats
        bottomZBase := if follows then
            observation.trackCenterBase.z + stable.bottomOffsetFromTrackCenter
          else stable.bottomZBase
        topZBase := if follows then
            observation.trackCenterBase.z + stable.topOffsetFromTrackCenter
          else stable.topZBase
        uncertainty := Scalar.clamp
          (.maxOf stable.uncertainty config.recentStableUncertaintyMin +
            age * config.stableAgeUncertaintyPerSec)
          config.recentStableUncertaintyMin config.invalidUncertainty
        confidence := .minOf stable.confidence config.recentStableConfidenceBase * decay
        ageSec := age
        poseAuthority := stable.poseAuthority
        memoryCenterBase := if observation.trackCenterValid then observation.trackCenterBase.head2
          else stable.centerBase
        memorySizeXy := stable.sizeXy
        evidenceStampSec := stable.stampSec }
  else none

def selectCandidate (stable : StableEstimate) (observation : CargoBottomObservation)
    (evidence : BottomEvidence) :
    Option SelectedCandidate :=
  match selectObserved config authority observation evidence with
  | some selected => some (noteLowerEdge evidence selected)
  | none => holdStable config stable observation

/-! ### Filters -/

namespace SelectedCandidate

def absoluteCurrentVertical (selected : SelectedCandidate) : Bool :=
  selected.source == .directTopFrozenThickness

end SelectedCandidate

def relativeHeight (usesTrackCenter : Bool) (observation : CargoBottomObservation)
    (height : Scalar) : Scalar :=
  if usesTrackCenter then height - observation.trackCenterBase.z else height

def absoluteHeight (usesTrackCenter : Bool) (observation : CargoBottomObservation)
    (value : Scalar) : Scalar :=
  if usesTrackCenter then observation.trackCenterBase.z + value else value

def blend (alpha new old : Scalar) : Scalar := alpha * new + (1 - alpha) * old

namespace BottomTemporalState

variable (config : CargoBottomFusionConfig) (temporal : BottomTemporalState)
  (observation : CargoBottomObservation) (selected : SelectedCandidate)

def smooth : BottomTemporalState × SelectedCandidate :=
  if selected.source = .recentStable then (temporal, selected)
  else if selected.absoluteCurrentVertical then
    -- An absolute measurement is not smoothed, and no other source may resume from before it.
    ({ temporal with emaValid := false, emaSource := .invalid, emaUsesTrackCenter := false },
      selected)
  else
    let useTrackCenter := observation.trackCenterValid
    let bottom := relativeHeight useTrackCenter observation selected.bottomZBase
    let top := relativeHeight useTrackCenter observation selected.topZBase
    let resumes := temporal.emaValid && temporal.emaSource == selected.source &&
      temporal.emaUsesTrackCenter == useTrackCenter
    let alpha := Scalar.clamp config.emaAlpha 0 1
    let bottomValue := if resumes then blend alpha bottom temporal.emaBottomZBase else bottom
    let topValue := if resumes then blend alpha top temporal.emaTopZBase else top
    ({ temporal with
        emaValid := true
        emaSource := selected.source
        emaUsesTrackCenter := useTrackCenter
        emaBottomZBase := bottomValue
        emaTopZBase := topValue },
      { selected with
        bottomZBase := absoluteHeight useTrackCenter observation bottomValue
        topZBase := absoluteHeight useTrackCenter observation topValue })

def finalFrameCompatible : Bool :=
  temporal.finalValid && (!temporal.finalUsesTrackCenter || observation.trackCenterValid)

def previousBottom : Scalar :=
  absoluteHeight (temporal.finalUsesTrackCenter && observation.trackCenterValid) observation
    temporal.finalBottomValue

def previousTop : Scalar :=
  absoluteHeight (temporal.finalUsesTrackCenter && observation.trackCenterValid) observation
    temporal.finalTopValue

def jumpTo : Scalar :=
  let previousBottom := temporal.previousBottom observation
  let previousTop := temporal.previousTop observation
  .maxOf
    (.maxOf (selected.bottomZBase - previousBottom).abs (selected.topZBase - previousTop).abs)
    ((selected.topZBase - selected.bottomZBase) - (previousTop - previousBottom)).abs

def clearPending : BottomTemporalState :=
  { temporal with pendingLargeJump := false, pendingLargeJumpCount := 0 }

def pendingExpired : Bool :=
  temporal.pendingLargeJump &&
    config.stableHoldSec < observation.stampSec - temporal.pendingLastPositiveStamp

def samePending : Bool :=
  temporal.pendingLargeJump && temporal.pendingSource == selected.source &&
    (selected.absoluteCurrentVertical ||
      ((temporal.pendingBottomValue - selected.bottomZBase).abs
          ≤ config.largeJumpConfirmationTolerance &&
        (temporal.pendingTopValue - selected.topZBase).abs
          ≤ config.largeJumpConfirmationTolerance))

def countJump : BottomTemporalState :=
  let counted : BottomTemporalState :=
    if temporal.samePending config selected then
      { temporal with pendingLargeJumpCount := temporal.pendingLargeJumpCount + 1 }
    else
      { temporal with
        pendingLargeJump := true
        pendingSource := selected.source
        pendingBottomValue := selected.bottomZBase
        pendingTopValue := selected.topZBase
        pendingLargeJumpCount := 1 }
  if selected.absoluteCurrentVertical then
    { counted with
      pendingLastPositiveStamp := observation.stampSec
      pendingLatestPositiveBottom := selected.bottomZBase
      pendingLatestPositiveTop := selected.topZBase }
  else counted

def heldCandidate (jump : Scalar) (selected : SelectedCandidate) : SelectedCandidate :=
  let stable := temporal.stable
  let held : SelectedCandidate :=
    { selected with
      bottomZBase := temporal.previousBottom observation
      topZBase := temporal.previousTop observation
      source := temporal.finalSource
      reason := "large_jump_confirmation_pending"
      pointsBase := []
      uncertainty := Scalar.clamp
        (.maxOf stable.uncertainty config.recentStableUncertaintyMin +
          .minOf jump config.invalidUncertainty)
        config.recentStableUncertaintyMin config.invalidUncertainty }
  if stable.valid then
    { held with
      stats := stable.stats
      memoryCenterBase := stable.centerBase
      memorySizeXy := stable.sizeXy
      confidence := stable.confidence * 0.50
      ageSec := observation.stampSec - stable.stampSec
      evidenceStampSec := stable.stampSec
      poseAuthority := stable.poseAuthority }
  else { held with stats := {}, confidence := 0 }

variable (selected : SelectedCandidate)

def passDirect : BottomTemporalState × SelectedCandidate × Bool :=
  if selected.source ≠ .recentStable then (temporal.clearPending, selected, false)
  else if temporal.pendingExpired config observation then (temporal.clearPending, selected, false)
  else (temporal, selected, false)

def passSoft : BottomTemporalState × SelectedCandidate × Bool :=
  let alpha := config.softUpdateAlpha
  let jump := temporal.jumpTo observation selected
  (temporal.clearPending,
    { selected with
      bottomZBase := blend alpha selected.bottomZBase (temporal.previousBottom observation)
      topZBase := blend alpha selected.topZBase (temporal.previousTop observation)
      uncertainty := Scalar.clamp (selected.uncertainty + 0.5 * jump) selected.uncertainty
        config.invalidUncertainty
      confidence := selected.confidence * 0.75
      reason := selected.reason ++ ";source_transition_softened" },
    false)

def passLarge : BottomTemporalState × SelectedCandidate × Bool :=
  if selected.absoluteCurrentVertical &&
      selected.bottomZBase < temporal.previousBottom observation then
    (temporal.clearPending,
      { selected with reason := selected.reason ++ ";absolute_downward_accepted" }, false)
  else
    let counted := temporal.countJump config observation selected
    if counted.pendingLargeJumpCount < config.largeJumpConfirmFrames then
      (counted,
        temporal.heldCandidate config observation (temporal.jumpTo observation selected) selected,
        true)
    else
      (counted.clearPending,
        { selected with
          bottomZBase := if selected.absoluteCurrentVertical then
              counted.pendingLatestPositiveBottom
            else counted.pendingBottomValue
          topZBase := if selected.absoluteCurrentVertical then counted.pendingLatestPositiveTop
            else counted.pendingTopValue
          reason := selected.reason ++ ";large_jump_confirmed" },
        false)

def outputGate : BottomTemporalState × SelectedCandidate × Bool :=
  if !temporal.finalFrameCompatible observation then (temporal, selected, false)
  else if temporal.jumpTo observation selected ≤ config.directUpdateMaxJump then
    temporal.passDirect config observation selected
  else if temporal.jumpTo observation selected ≤ config.softUpdateMaxJump then
    temporal.passSoft config observation selected
  else temporal.passLarge config observation selected

def recordFinal (absolute : Bool) (selected : SelectedCandidate) : BottomTemporalState :=
  let usesTrackCenter := !absolute && observation.trackCenterValid
  { temporal with
    finalValid := true
    finalSource := selected.source
    finalUsesTrackCenter := usesTrackCenter
    finalBottomValue := relativeHeight usesTrackCenter observation selected.bottomZBase
    finalTopValue := relativeHeight usesTrackCenter observation selected.topZBase }

def recordStable (absolute : Bool) (selected : SelectedCandidate) (geometry : CargoBoxGeometry) :
    BottomTemporalState :=
  let usesTrackCenter := !absolute && observation.trackCenterValid
  let margin := 2 * Scalar.maxOf 0 config.footprintMargin
  { temporal with
    stable := { temporal.stable with
      valid := true
      trackId := observation.trackId
      stampSec := observation.stampSec
      poseAuthority := observation.poseAuthority
      originalSource := selected.source
      bottomZBase := selected.bottomZBase
      topZBase := selected.topZBase
      uncertainty := selected.uncertainty
      confidence := selected.confidence
      centerBase := geometry.centerBase.head2
      sizeXy :=
        ⟨.maxOf (geometry.sizeBase.x - margin) config.minFootprintSize,
          .maxOf (geometry.sizeBase.y - margin) config.minFootprintSize⟩
      trackCenterValid := usesTrackCenter
      bottomOffsetFromTrackCenter := if usesTrackCenter then
          selected.bottomZBase - observation.trackCenterBase.z
        else temporal.stable.bottomOffsetFromTrackCenter
      topOffsetFromTrackCenter := if usesTrackCenter then
          selected.topZBase - observation.trackCenterBase.z
        else temporal.stable.topOffsetFromTrackCenter
      stats := selected.stats } }

def remember (result : CargoBottomResult) : BottomTemporalState :=
  { temporal with lastResult := result, lastResultAvailable := true }

end BottomTemporalState

/-! ### Updates -/

def unsupportedResult (blank : CargoBottomResult) : CargoBottomResult :=
  { blank with
    reason := "no_supported_height_source:points=" ++ blank.pointsStats.rejectReason ++
      ";map_diff=" ++ blank.mapDiffStats.rejectReason ++
      ";direct_top_frozen=" ++ blank.directTopFrozenStats.rejectReason ++
      ";map_static=" ++ blank.mapStaticStats.rejectReason ++
      ";origin_height=" ++ blank.originHeightStats.rejectReason
    sourceName := cargoBottomSourceName blank.source }

def evidenceResult (config : CargoBottomFusionConfig) (observation : CargoBottomObservation)
    (evidence : BottomEvidence) : CargoBottomResult :=
  { observation.blankResult config.invalidUncertainty with
    accumulatedPoints := evidence.accumulatedPoints
    pointsStats := evidence.pointsStats
    mapDiffStats := evidence.mapDiffStats
    mapStaticStats := evidence.mapStaticStats
    originHeightStats := evidence.originHeightStats
    directTopFrozenStats := evidence.directTopFrozenStats }

def supportedResult (blank : CargoBottomResult) (selected : SelectedCandidate)
    (geometry : CargoBoxGeometry) : CargoBottomResult :=
  let height := selected.topZBase - selected.bottomZBase
  let heightValid := height.isFinite && 0 < height
  let valid := heightValid && geometry.valid
  { blank with
    geometry, height, heightValid, valid
    geometryValid := geometry.valid
    source := selected.source
    sourceName := cargoBottomSourceName selected.source
    reason := if valid then selected.reason else selected.reason ++ ";geometry_invalid"
    selectedStats := selected.stats
    uncertainty := selected.uncertainty
    confidence := selected.confidence
    sourceAgeSec := selected.ageSec
    poseAuthority := selected.poseAuthority
    evidenceStampSec := selected.evidenceStampSec }

namespace CargoBottomFusion

def reset (self : CargoBottomFusion) : CargoBottomFusion := { config := self.config }

section Rotations

variable [CircularFunctions] (self : CargoBottomFusion) (observation : CargoBottomObservation)

def withoutCandidate (blank : CargoBottomResult) : CargoBottomFusion × CargoBottomResult :=
  let temporal := if self.temporal.pendingExpired self.config observation then
      self.temporal.clearPending
    else self.temporal
  let result := unsupportedResult blank
  ({ self with temporal := temporal.remember result }, result)

def withCandidate (blank : CargoBottomResult) (selected : SelectedCandidate) :
    CargoBottomFusion × CargoBottomResult :=
  let absolute := selected.absoluteCurrentVertical
  let (smoothed, candidate) := self.temporal.smooth self.config observation selected
  let (gated, passed, held) := smoothed.outputGate self.config observation candidate
  let final := gated.recordFinal observation absolute passed
  let geometry := makeGeometry observation passed.pointsBase passed.bottomZBase passed.topZBase
    passed.memoryCenterBase passed.memorySizeXy self.config
  let result := supportedResult blank passed geometry
  let estimated := if result.valid && passed.source ≠ .recentStable && !held then
      final.recordStable self.config observation absolute passed geometry
    else final
  ({ self with temporal := estimated.remember result }, result)

def ingest : CargoBottomFusion :=
  { self with
    lastStampSec := observation.stampSec
    temporal := self.temporal.ingest self.config observation }

def evidence : BottomEvidence :=
  bottomEvidence self.config self.temporal.accumulatedFrames observation

def candidate : Option SelectedCandidate :=
  selectCandidate self.config self.trackPoseAuthority self.temporal.stable observation
    (self.evidence observation)

def process : CargoBottomFusion × CargoBottomResult :=
  let ingested := self.ingest observation
  let blank := evidenceResult self.config observation (ingested.evidence observation)
  match ingested.candidate observation with
  | none => ingested.withoutCandidate observation blank
  | some selected => ingested.withCandidate observation blank selected

def accept : CargoBottomFusion × CargoBottomResult :=
  match self.continuity observation with
  | .proceeds ready => ready.process observation
  | .interrupted reason =>
    let result :=
      { observation.blankResult self.config.invalidUncertainty with reason := reason }
    ({ self with
        lastStampSec := observation.stampSec
        temporal := ({} : BottomTemporalState).remember result }, result)
  | .repeated => (self, self.temporal.lastResult)

def update : CargoBottomFusion × CargoBottomResult :=
  match self.config.invalidField with
  | some field =>
    (self.reset, { observation.blankResult 1 with reason := "invalid_config:" ++ field })
  | none =>
    let blank := observation.blankResult self.config.invalidUncertainty
    if observation.untracked then
      (self.reset, { blank with reason := "invalid_track_time_or_transform" })
    else
      match observation.refusal self.config with
      | some reason => (self, { blank with reason := reason })
      | none => self.accept observation

end Rotations
end CargoBottomFusion

end NdtSlam
