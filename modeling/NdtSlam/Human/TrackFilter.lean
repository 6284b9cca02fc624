import Mathlib.Data.Int.Interval
import NdtSlam.Foundation.Vector

/-! The tracks of people, and the map cells that their boxes keep from being learned. -/

namespace NdtSlam

structure SourceFrameIdentity where
  processingFrameIndex : Nat := 0
  sensorSourceStampSec : Scalar := 0
  timeEpochId : Nat := 0
  sourceCloudSize : Nat := 0
  sourceCloudSignatureHash : Nat := 0

def SourceFrameIdentity.valid (self : SourceFrameIdentity) : Bool :=
  self.processingFrameIndex != 0 && self.sensorSourceStampSec.isFinite &&
    0 < self.sensorSourceStampSec && self.sourceCloudSignatureHash != 0

def sameSourceFrameIdentity (lhs rhs : SourceFrameIdentity) : Bool :=
  lhs.valid && rhs.valid && lhs.processingFrameIndex == rhs.processingFrameIndex &&
    (lhs.sensorSourceStampSec - rhs.sensorSourceStampSec).abs ≤ 1.0e-6 &&
    lhs.timeEpochId == rhs.timeEpochId && lhs.sourceCloudSize == rhs.sourceCloudSize &&
    lhs.sourceCloudSignatureHash == rhs.sourceCloudSignatureHash

structure HumanCurrentFramePointOwnership where
  valid : Bool := false
  sourceFrameIdentity : SourceFrameIdentity := {}
  exactPoints : Finset (Nat × Nat × Nat) := ∅
  voxelSizeM : Scalar := 0

structure HumanTrackingConfig where
  windowSec : Scalar := 2.0
  confirmFrames : Int := 2
  mapDisplacementThreshM : Scalar := 0.20
  velocityThreshMps : Scalar := 0.10
  maxMatchDistanceM : Scalar := 0.80
  maxMissedFrames : Int := 5

inductive HumanTrackState where
  | new
  | pending
  | dynamicConfirmed
  | staticRecovered
  | expired
  deriving DecidableEq

structure HumanDetection where
  centroidBase : Vec3 := ⟨0, 0, 0⟩
  centroidMap : Vec3 := ⟨0, 0, 0⟩
  bboxMin : Vec3 := ⟨0, 0, 0⟩
  bboxMax : Vec3 := ⟨0, 0, 0⟩
  pointCount : Int := 0
  height : Scalar := 0
  area : Scalar := 0

structure HumanTrack extends HumanDetection where
  id : Int
  state : HumanTrackState := .new
  centroidMapHistory : List Vec3 := []
  timestampHistory : List Scalar := []
  observedFrames : Int := 0
  missedFrames : Int := 0
  firstSeenTime : Scalar := 0
  lastSeenTime : Scalar := 0
  velocity : Scalar := 0
  mapDisplacement : Scalar := 0

structure HumanClusterObservation where
  centroidBase : Vec3 := ⟨0, 0, 0⟩
  bboxMinBase : Vec3 := ⟨0, 0, 0⟩
  bboxMaxBase : Vec3 := ⟨0, 0, 0⟩
  pointCount : Int := 0

structure HumanFrameClassification where
  valid : Bool := false
  sourceStampSec : Scalar := 0
  sourceCloudInstanceId : Nat := 0
  sourceFrameIdentity : SourceFrameIdentity := {}
  ownedPoints : HumanCurrentFramePointOwnership := {}
  clusters : List HumanClusterObservation := []

structure StaticLearningBlockCells where
  cellSizeM : Scalar := 0.15
  humanCells : Finset (Int × Int) := ∅

structure HumanMapFilterSnapshot where
  valid : Bool := false
  sourceStampSec : Scalar := 0
  sourceCloudInstanceId : Nat := 0
  sourceFrameIdentity : SourceFrameIdentity := {}
  ownedPoints : HumanCurrentFramePointOwnership := {}
  staticLearningBlocks : StaticLearningBlockCells := {}
  activeTrackCount : Nat := 0
  dynamicTrackCount : Nat := 0

structure HumanMapAuthorityDiagnostics where
  mapTrackUpdateCount : Nat := 0
  duplicateUpdateRejectCount : Nat := 0
  outOfOrderUpdateRejectCount : Nat := 0
  mapOwnedPointCount : Nat := 0
  staticLearningBlockCellCount : Nat := 0
  staticLearningBlockHighWater : Nat := 0
  trackHighWater : Nat := 0

structure HumanObjectDynamicFilter where
  trackingConfig : HumanTrackingConfig := {}
  activeTracks : List HumanTrack := []
  nextTrackId : Int := 0
  hasLastMapUpdateStamp : Bool := false
  lastMapUpdateStampSec : Scalar := 0
  lastMapUpdateCloudInstanceId : Nat := 0
  diagnostics : HumanMapAuthorityDiagnostics := {}

structure TransformRow where
  linear : Vec3
  offset : Scalar

structure Matrix4 where
  first : TransformRow
  second : TransformRow
  third : TransformRow
  last : TransformRow

namespace Matrix4

def allFinite (T : Matrix4) : Bool :=
  [T.first, T.second, T.third, T.last].all fun row =>
    row.linear.allFinite && row.offset.isFinite

def along (row : TransformRow) (point : Vec3) : Scalar :=
  row.linear.x * point.x + row.linear.y * point.y + row.linear.z * point.z + row.offset * 1

def apply (T : Matrix4) (point : Vec3) : Vec3 :=
  ⟨along T.first point, along T.second point, along T.third point⟩

def identity : Matrix4 :=
  ⟨⟨⟨1, 0, 0⟩, 0⟩, ⟨⟨0, 1, 0⟩, 0⟩, ⟨⟨0, 0, 1⟩, 0⟩, ⟨⟨0, 0, 0⟩, 1⟩⟩

end Matrix4

namespace HumanObjectDynamicFilter

def stampEpsilonSec : Scalar := 1.0e-4

def corners (cluster : HumanClusterObservation) : List Vec3 := do
  let x ← [cluster.bboxMinBase.x, cluster.bboxMaxBase.x]
  let y ← [cluster.bboxMinBase.y, cluster.bboxMaxBase.y]
  let z ← [cluster.bboxMinBase.z, cluster.bboxMaxBase.z]
  return ⟨x, y, z⟩

def cwiseMin (a b : Vec3) : Vec3 :=
  ⟨Scalar.minOf a.x b.x, Scalar.minOf a.y b.y, Scalar.minOf a.z b.z⟩

def cwiseMax (a b : Vec3) : Vec3 :=
  ⟨Scalar.maxOf a.x b.x, Scalar.maxOf a.y b.y, Scalar.maxOf a.z b.z⟩

def detect (T : Matrix4) (cluster : HumanClusterObservation) : HumanDetection :=
  let transformed := (corners cluster).map T.apply
  let mapMin := transformed.foldl cwiseMin ⟨.posInf, .posInf, .posInf⟩
  let mapMax := transformed.foldl cwiseMax ⟨.negInf, .negInf, .negInf⟩
  { centroidBase := cluster.centroidBase
    centroidMap := T.apply cluster.centroidBase
    bboxMin := mapMin, bboxMax := mapMax
    pointCount := cluster.pointCount
    height := mapMax.z - mapMin.z
    area := (mapMax.x - mapMin.x) * (mapMax.y - mapMin.y) }

def nearer [EuclideanNorm] (config : HumanTrackingConfig) (detection : HumanDetection)
    (best : Int × Scalar) (track : HumanTrack) : Int × Scalar :=
  if config.maxMissedFrames < track.missedFrames then best
  else
    let distance := (detection.centroidMap - track.centroidMap).norm
    if distance < best.2 then (track.id, distance) else best

def matchToExistingTrack [EuclideanNorm] (config : HumanTrackingConfig)
    (tracks : List HumanTrack) (detection : HumanDetection) : Int :=
  (tracks.foldl (nearer config detection) (-1, config.maxMatchDistanceM)).1

variable (config : HumanTrackingConfig)

def isDynamicHuman (track : HumanTrack) : Bool :=
  -- A negative number of frames is read as a huge unsigned one.
  if (track.centroidMapHistory.length : Int) < config.confirmFrames % 2 ^ 64 then false
  else if track.lastSeenTime - track.firstSeenTime < config.windowSec then false
  else
    config.mapDisplacementThreshM < track.mapDisplacement ||
      config.velocityThreshMps < track.velocity

def maxHistory : Nat := ⌊(config.windowSec * 10).value⌋.toNat

def measureMotion [EuclideanNorm] (track : HumanTrack) : HumanTrack :=
  match track.centroidMapHistory.head?, track.centroidMapHistory.getLast?,
      track.timestampHistory.head?, track.timestampHistory.getLast? with
  | some first, some last, some firstTime, some lastTime =>
    if 2 ≤ track.centroidMapHistory.length then
      let displacement := (last - first).norm
      { track with
        mapDisplacement := displacement
        velocity := if 0 < lastTime - firstTime then displacement / (lastTime - firstTime)
          else track.velocity }
    else track
  | _, _, _, _ => track

def settleState (track : HumanTrack) : HumanTrack :=
  if track.state = .new ∨ track.state = .pending then
    if isDynamicHuman config track then { track with state := .dynamicConfirmed }
    else if config.confirmFrames ≤ track.observedFrames then { track with state := .pending }
    else track
  else track

def observe [EuclideanNorm] (config : HumanTrackingConfig) (detection : HumanDetection)
    (timestamp : Scalar) (track : HumanTrack) : HumanTrack :=
  let positions := track.centroidMapHistory ++ [detection.centroidMap]
  let times := track.timestampHistory ++ [timestamp]
  let surplus := positions.length - maxHistory config
  settleState config (measureMotion { track with
    toHumanDetection := detection
    missedFrames := 0
    observedFrames := track.observedFrames + 1
    lastSeenTime := timestamp
    centroidMapHistory := positions.drop surplus
    timestampHistory := times.drop surplus })

def matchDetections [EuclideanNorm] (config : HumanTrackingConfig) (timestamp : Scalar) :
    List HumanTrack → List HumanDetection → List HumanTrack × List HumanDetection
  | tracks, [] => (tracks, [])
  | tracks, detection :: rest =>
    let trackId := matchToExistingTrack config tracks detection
    if 0 ≤ trackId then
      matchDetections config timestamp
        (tracks.map fun track =>
          if track.id = trackId then observe config detection timestamp track else track) rest
    else
      let others := matchDetections config timestamp tracks rest
      (others.1, detection :: others.2)

def newTrack (detection : HumanDetection) (timestamp : Scalar) (id : Int) : HumanTrack :=
  { toHumanDetection := detection, id := id
    observedFrames := 1, firstSeenTime := timestamp, lastSeenTime := timestamp
    centroidMapHistory := [detection.centroidMap], timestampHistory := [timestamp] }

def createTracks (timestamp : Scalar) : Int → List HumanDetection → List HumanTrack
  | _, [] => []
  | id, detection :: rest => newTrack detection timestamp id :: createTracks timestamp (id + 1) rest

def ageTracks (tracks : List HumanTrack) : List HumanTrack :=
  tracks.map fun track => { track with missedFrames := track.missedFrames + 1 }

def updateTracks [EuclideanNorm] (self : HumanObjectDynamicFilter)
    (detections : List HumanDetection) (timestamp : Scalar) : HumanObjectDynamicFilter :=
  let outcome := matchDetections self.trackingConfig timestamp (ageTracks self.activeTracks)
    detections
  { self with
    activeTracks := outcome.1 ++ createTracks timestamp self.nextTrackId outcome.2
    nextTrackId := self.nextTrackId + outcome.2.length }

variable (self : HumanObjectDynamicFilter)

def cleanupExpiredTracks : HumanObjectDynamicFilter :=
  { self with
    activeTracks := self.activeTracks.filter fun track =>
      !decide (self.trackingConfig.maxMissedFrames < track.missedFrames) }

def boxCells (cellSizeM : Scalar) (box : HumanDetection) : Finset (Int × Int) :=
  -- The order of the integers is named, since the one of their suprema cannot be run.
  let between := @Finset.Icc Int Int.instLinearOrder.toPreorder _
  between ⌊(box.bboxMin.x / cellSizeM).value⌋ ⌊(box.bboxMax.x / cellSizeM).value⌋ ×ˢ
    between ⌊(box.bboxMin.y / cellSizeM).value⌋ ⌊(box.bboxMax.y / cellSizeM).value⌋

def buildStaticLearningBlockCells (tracks : List HumanTrack) (cellSizeM : Scalar) :
    Finset (Int × Int) :=
  if !cellSizeM.isFinite || cellSizeM ≤ 0 then ∅
  else tracks.foldl (fun cells track => cells ∪ boxCells cellSizeM track.toHumanDetection) ∅

variable (classification : HumanFrameClassification)

def unusable (T : Matrix4) (cellSizeM : Scalar) : Bool :=
  !classification.valid || !classification.sourceFrameIdentity.valid ||
    classification.sourceCloudInstanceId !=
      classification.sourceFrameIdentity.processingFrameIndex ||
    !sameSourceFrameIdentity classification.ownedPoints.sourceFrameIdentity
      classification.sourceFrameIdentity ||
    (1.0e-6 : Scalar) < (classification.sourceStampSec -
      classification.sourceFrameIdentity.sensorSourceStampSec).abs ||
    !classification.sourceStampSec.isFinite || classification.sourceStampSec ≤ 0 ||
    classification.sourceCloudInstanceId == 0 || !T.allFinite ||
    !cellSizeM.isFinite || cellSizeM ≤ 0

def outdated : Bool :=
  self.hasLastMapUpdateStamp &&
    (classification.sourceStampSec ≤ self.lastMapUpdateStampSec + stampEpsilonSec ||
      classification.sourceCloudInstanceId ≤ self.lastMapUpdateCloudInstanceId)

def reject : HumanObjectDynamicFilter :=
  let duplicate :=
    classification.sourceCloudInstanceId == self.lastMapUpdateCloudInstanceId &&
      (classification.sourceStampSec - self.lastMapUpdateStampSec).abs ≤ stampEpsilonSec
  { self with
    diagnostics :=
      if duplicate then
        { self.diagnostics with
          duplicateUpdateRejectCount := self.diagnostics.duplicateUpdateRejectCount + 1 }
      else
        { self.diagnostics with
          outOfOrderUpdateRejectCount := self.diagnostics.outOfOrderUpdateRejectCount + 1 } }

def track [EuclideanNorm] (self : HumanObjectDynamicFilter)
    (classification : HumanFrameClassification) (T : Matrix4) : HumanObjectDynamicFilter :=
  let detections := classification.clusters.map (detect T)
  { (self.updateTracks detections classification.sourceStampSec).cleanupExpiredTracks with
    hasLastMapUpdateStamp := true
    lastMapUpdateStampSec := classification.sourceStampSec
    lastMapUpdateCloudInstanceId := classification.sourceCloudInstanceId }

def updateMapTracks [EuclideanNorm] (self : HumanObjectDynamicFilter)
    (classification : HumanFrameClassification) (T : Matrix4) (cellSizeM : Scalar) :
    HumanObjectDynamicFilter × HumanMapFilterSnapshot :=
  if unusable classification T cellSizeM then (self, {})
  else if self.outdated classification then (self.reject classification, {})
  else
    let tracked := self.track classification T
    let humanCells := buildStaticLearningBlockCells tracked.activeTracks cellSizeM
    ({ tracked with
        diagnostics :=
          { tracked.diagnostics with
            mapTrackUpdateCount := tracked.diagnostics.mapTrackUpdateCount + 1
            mapOwnedPointCount := tracked.diagnostics.mapOwnedPointCount +
              classification.ownedPoints.exactPoints.card
            staticLearningBlockCellCount := humanCells.card
            staticLearningBlockHighWater :=
              max tracked.diagnostics.staticLearningBlockHighWater humanCells.card
            trackHighWater :=
              max tracked.diagnostics.trackHighWater tracked.activeTracks.length } },
      { valid := true
        sourceStampSec := classification.sourceStampSec
        sourceCloudInstanceId := classification.sourceCloudInstanceId
        sourceFrameIdentity := classification.sourceFrameIdentity
        ownedPoints := classification.ownedPoints
        staticLearningBlocks := { cellSizeM := cellSizeM, humanCells := humanCells }
        activeTrackCount := tracked.activeTracks.length
        dynamicTrackCount :=
          (tracked.activeTracks.filter fun track => track.state == .dynamicConfirmed).length })

end HumanObjectDynamicFilter
end NdtSlam
