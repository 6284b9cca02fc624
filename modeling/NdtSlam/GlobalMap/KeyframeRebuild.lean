import NdtSlam.Foundation.History
import NdtSlam.Foundation.Rigid

/-! The global map: keyframes are committed to it while a worker rebuilds it from all of them. -/

namespace NdtSlam

structure KeyFrame where
  id : Nat
  pose : Isometry
  cloud : List Vec3 := []
  poseRefined : Option Isometry := none
  objectsFiltered : Option (List Vec3) := none
  groundPoints : Option (List Vec3) := none

structure MapPoint where
  source : Nat
  point : Vec3

structure GlobalLayers where
  registration : List MapPoint := []
  display : List MapPoint := []
  ground : List MapPoint := []
  objects : List MapPoint := []

structure GlobalMapConfig where
  maxKeyframes : Int := 0
  maxMapSize : Scalar
  separateGroundByGrid : List Vec3 → List Vec3 × List Vec3

namespace KeyFrame

def currentPose (self : KeyFrame) : Isometry := self.poseRefined.getD self.pose

def movedBy (optimized : KeyFrame → Isometry × Option Isometry) (self : KeyFrame) : KeyFrame :=
  { self with pose := (optimized self).1, poseRefined := (optimized self).2 }

def layers (config : GlobalMapConfig) (self : KeyFrame) : Option (List Vec3 × List Vec3) :=
  -- Keyframes without layers come from older databases.
  let separated :=
    if self.cloud.isEmpty then none else some (config.separateGroundByGrid self.cloud)
  match self.groundPoints, self.objectsFiltered with
  | some ground, some objects =>
    if !ground.isEmpty || !objects.isEmpty then some (ground, objects) else separated
  | _, _ => separated

end KeyFrame

namespace GlobalMapConfig

def inRange (config : GlobalMapConfig) (point : Vec3) : Bool :=
  point.allFinite && point.x.abs ≤ config.maxMapSize && point.y.abs ≤ config.maxMapSize &&
    point.z.abs ≤ config.maxMapSize

def placed (config : GlobalMapConfig) (pose : Isometry) (cloud : List Vec3) : List Vec3 :=
  (cloud.map pose.apply).filter config.inRange

def mapPoints (config : GlobalMapConfig) (source : Nat) (pose : Isometry) (cloud : List Vec3) :
    List MapPoint :=
  (config.placed pose cloud).map fun point => ⟨source, point⟩

end GlobalMapConfig

namespace GlobalLayers

def addKeyframe (config : GlobalMapConfig) (self : GlobalLayers) (keyframe : KeyFrame) :
    GlobalLayers :=
  match keyframe.layers config with
  | none => self
  | some (ground, objects) =>
    let groundMap := config.mapPoints keyframe.id keyframe.currentPose ground
    let objectsMap := config.mapPoints keyframe.id keyframe.currentPose objects
    { registration := self.registration ++ groundMap ++ objectsMap
      display := self.display ++ groundMap ++ objectsMap
      ground := self.ground ++ groundMap
      objects := self.objects ++ objectsMap }

def rebuild (config : GlobalMapConfig) (keyframes : List KeyFrame) : GlobalLayers :=
  keyframes.foldl (addKeyframe config) {}

end GlobalLayers

structure KeyframeJob where
  id : Nat
  pose : Isometry
  ground : List Vec3
  objects : List Vec3

def GlobalLayers.commit (config : GlobalMapConfig) (self : GlobalLayers) (job : KeyframeJob) :
    GlobalLayers :=
  let commitMap := config.mapPoints job.id job.pose (job.ground ++ job.objects)
  let groundMap := config.mapPoints job.id job.pose job.ground
  { registration := self.registration ++ commitMap
    display := self.display ++ commitMap ++ groundMap
    ground := self.ground ++ groundMap
    objects := self.objects ++ config.mapPoints job.id job.pose job.objects }

inductive KeyframeCommit where
  | idle
  | setLayers (job : KeyframeJob)
  | testRunning (job : KeyframeJob)
  | setPending (job : KeyframeJob)
  | append (job : KeyframeJob)

inductive RebuildRequest where
  | idle
  | testRunning
  | setPending
  | join
  | setRunning
  | clearPending
  | spawn
  deriving DecidableEq

inductive GlobalRebuild where
  | absent
  | clearPending
  | snapshot
  | swap (keyframes : List KeyFrame) (requests : Nat)
  | clearRunning

structure GlobalMap where
  keyframes : List KeyFrame
  lastKeyframeId : Nat
  layers : GlobalLayers
  commit : KeyframeCommit := .idle
  request : RebuildRequest := .idle
  rebuild : GlobalRebuild := .absent
  running : Bool := false
  pending : Bool := false
  requested : Nat := 0
  carriedOut : Nat := 0

inductive GlobalMapStep where
  | addKeyFrame (accepted : Bool) (pose : Isometry) (ground objects : List Vec3)
  | commit
  | applyOptimizedPoses (optimized : KeyFrame → Isometry × Option Isometry)
  | asyncRebuildGlobalMap
  | request
  | rebuild

structure MapGeneration where
  keyframes : List KeyFrame := []
  lastKeyframeId : Nat := 0
  layers : GlobalLayers := {}
  numbered : ∀ keyframe ∈ keyframes, keyframe.id ≤ lastKeyframeId
  ground : ∀ point ∈ layers.ground, point.source ≤ lastKeyframeId
  objects : ∀ point ∈ layers.objects, point.source ≤ lastKeyframeId

namespace GlobalMap

variable (config : GlobalMapConfig) (self : GlobalMap)

def full : Bool := 0 < config.maxKeyframes && config.maxKeyframes ≤ self.keyframes.length

def addKeyFrame (pose : Isometry) (ground objects : List Vec3) : GlobalMap :=
  let id := self.lastKeyframeId + 1
  let kept := if self.full config then self.keyframes.tail else self.keyframes
  { self with
    keyframes := kept ++ [{ id, pose, cloud := ground ++ objects }]
    lastKeyframeId := id
    commit := .setLayers { id, pose, ground, objects } }

def setLastKeyFrameLayers (job : KeyframeJob) : GlobalMap :=
  { self with
    keyframes := self.keyframes.dropLast ++ (self.keyframes.getLast?.map fun keyframe =>
      { keyframe with
        groundPoints := some job.ground, objectsFiltered := some job.objects }).toList
    commit := .testRunning job }

def commitStep : GlobalMap :=
  match self.commit with
  | .idle => self
  | .setLayers job => self.setLastKeyFrameLayers job
  | .testRunning job =>
    { self with commit := if self.running then .setPending job else .append job }
  | .setPending job => { self with pending := true, commit := .append job }
  | .append job => { self with layers := self.layers.commit config job, commit := .idle }

def movePoses (optimized : KeyFrame → Isometry × Option Isometry) : GlobalMap :=
  { self with keyframes := self.keyframes.map (·.movedBy optimized) }

def callRebuild : GlobalMap :=
  { self with requested := self.requested + 1, request := .testRunning }

def requestStep : GlobalMap :=
  match self.request with
  | .idle => self
  | .testRunning => { self with request := if self.running then .setPending else .join }
  | .setPending => { self with pending := true, request := .idle }
  | .join =>
    match self.rebuild with
    | .absent => { self with request := .setRunning }
    | _ => self
  | .setRunning => { self with running := true, request := .clearPending }
  | .clearPending => { self with pending := false, request := .spawn }
  | .spawn => { self with rebuild := .clearPending, request := .idle }

def swapLayers (keyframes : List KeyFrame) (requests : Nat) : GlobalMap :=
  { self with
    layers := .rebuild config keyframes
    carriedOut := requests
    rebuild := .clearRunning }

def rebuildStep : GlobalMap :=
  match self.rebuild with
  | .absent => self
  | .clearPending => { self with pending := false, rebuild := .snapshot }
  | .snapshot => { self with rebuild := .swap self.keyframes self.requested }
  | .swap keyframes requests =>
    if self.pending then { self with pending := false, rebuild := .clearPending }
    else self.swapLayers config keyframes requests
  | .clearRunning => { self with running := false, rebuild := .absent }

def step : GlobalMapStep → GlobalMap
  | .addKeyFrame accepted pose ground objects =>
    match self.commit with
    | .idle => if accepted then self.addKeyFrame config pose ground objects else self
    | _ => self
  | .commit => self.commitStep config
  | .applyOptimizedPoses optimized =>
    match self.request with
    | .idle => (self.movePoses optimized).callRebuild
    | _ => self
  | .asyncRebuildGlobalMap =>
    match self.request with
    | .idle => self.callRebuild
    | _ => self
  | .request => self.requestStep
  | .rebuild => self.rebuildStep config

end GlobalMap

def globalMap (config : GlobalMapConfig) (generation : MapGeneration) :
    Machine GlobalMap GlobalMapStep Unit where
  start :=
    { keyframes := generation.keyframes
      lastKeyframeId := generation.lastKeyframeId
      layers := generation.layers }
  step self call := (self.step config call, ())

abbrev GlobalMapEvent := Event GlobalMap GlobalMapStep

end NdtSlam
