import NdtSlam.Foundation.History
import NdtSlam.Foundation.Scalar
import NdtSlam.Foundation.Selection

/-! The synchronizer that pairs the clouds of two lidars and publishes each of them once. -/

namespace NdtSlam

inductive LidarName where
  | a
  | b
  deriving DecidableEq

structure CloudFrame where
  stamp : Nat
  receivedAt : Int
  sequence : Nat
  rosSequence : Nat
  deriving DecidableEq

structure LidarInfo where
  queue : List CloudFrame := []
  nextSequence : Nat := 0
  totalReceived : Nat := 0
  singleCount : Nat := 0

structure SelectedFrame where
  lidarName : LidarName
  frame : CloudFrame
  deriving DecidableEq

inductive PublishMode where
  | singleConfig
  | paired
  | singleTimeout
  deriving DecidableEq

structure PublishWork where
  frames : List SelectedFrame
  mode : PublishMode
  pairDtSec : Scalar := -1
  oldestAgeSec : Scalar

structure MergerLimits where
  maxPairDtSec : Scalar := 0.060
  staleTimeoutSec : Scalar := 0.120
  maxQueueSize : Nat := 8

def MergerLimits.ofParameters (maxPairDtSec staleTimeoutSec : Scalar) (maxQueueSize : Int) :
    MergerLimits where
  maxPairDtSec := .maxOf 0 maxPairDtSec
  staleTimeoutSec := .maxOf 0.001 staleTimeoutSec
  maxQueueSize := (max 1 maxQueueSize).toNat

structure PointCloudMerger where
  limits : MergerLimits
  hasPair : Bool
  lidarA : LidarInfo := {}
  lidarB : LidarInfo := {}
  emptyDropCount : Nat := 0
  overflowDropCount : Nat := 0
  supersededDropCount : Nat := 0
  fallbackCount : Nat := 0
  pairedCount : Nat := 0
  publishedCount : Nat := 0

def secondsOf (nanoseconds : Int) : Scalar := .fin (nanoseconds / 1000000000)

def secondsSince (earlier later : Int) : Scalar := secondsOf (later - earlier)

structure FramePair where
  indexA : Nat
  frameA : CloudFrame
  indexB : Nat
  frameB : CloudFrame

def stampDistance (first second : CloudFrame) : Nat :=
  (first.stamp - second.stamp) + (second.stamp - first.stamp)

def FramePair.dtNs (pair : FramePair) : Nat := stampDistance pair.frameA pair.frameB

def framePairs (queueA queueB : List CloudFrame) : List FramePair :=
  queueA.zipIdx.flatMap fun (frameA, indexA) =>
    queueB.zipIdx.map fun (frameB, indexB) => { indexA, frameA, indexB, frameB }

def closestPair (queueA queueB : List CloudFrame) : Option FramePair :=
  foremost (fun challenger champion => challenger.dtNs < champion.dtNs)
    (framePairs queueA queueB)

def insertByStamp (queue : List CloudFrame) (frame : CloudFrame) : List CloudFrame :=
  queue.takeWhile (fun queued => queued.stamp ≤ frame.stamp) ++
    frame :: queue.dropWhile (fun queued => queued.stamp ≤ frame.stamp)

namespace PointCloudMerger

variable (self : PointCloudMerger)

def lidar : LidarName → LidarInfo
  | .a => self.lidarA
  | .b => self.lidarB

variable (name : LidarName)

def setLidar (info : LidarInfo) : PointCloudMerger :=
  match name with
  | .a => { self with lidarA := info }
  | .b => { self with lidarB := info }

variable (stamp rosSequence : Nat) (receivedAt : Int)

def frameOf : CloudFrame where
  stamp := stamp
  receivedAt := receivedAt
  sequence := (self.lidar name).nextSequence + 1
  rosSequence := rosSequence

def overflows : Bool :=
  self.limits.maxQueueSize ≤ (self.lidar name).queue.length

def enqueue : PointCloudMerger :=
  let info := self.lidar name
  let kept := if self.overflows name then info.queue.tail else info.queue
  let self' := self.setLidar name { info with
    queue := insertByStamp kept (self.frameOf name stamp rosSequence receivedAt)
    nextSequence := info.nextSequence + 1
    totalReceived := info.totalReceived + 1 }
  { self' with overflowDropCount :=
      if self.overflows name then self.overflowDropCount + 1 else self.overflowDropCount }

def pointCloudCallback (hasPoints : Bool) : PointCloudMerger :=
  if hasPoints then self.enqueue name stamp rosSequence receivedAt
  else { self with emptyDropCount := self.emptyDropCount + 1 }

def selectSingleConfig (now : Int) : PointCloudMerger × Option PublishWork :=
  match self.lidarA.queue with
  | [] => (self, none)
  | front :: rest =>
    ({ self with lidarA := { self.lidarA with queue := rest } }, some {
      frames := [⟨.a, front⟩]
      mode := .singleConfig
      oldestAgeSec := secondsSince front.receivedAt now })

def consumePair (pair : FramePair) (now : Int) : PointCloudMerger × Option PublishWork :=
  ({ self with
      supersededDropCount := self.supersededDropCount + (pair.indexA + pair.indexB)
      lidarA := { self.lidarA with queue := self.lidarA.queue.drop (pair.indexA + 1) }
      lidarB := { self.lidarB with queue := self.lidarB.queue.drop (pair.indexB + 1) } },
    some {
      frames := [⟨.a, pair.frameA⟩, ⟨.b, pair.frameB⟩]
      mode := .paired
      pairDtSec := secondsOf pair.dtNs
      oldestAgeSec := .maxOf (secondsSince pair.frameA.receivedAt now)
        (secondsSince pair.frameB.receivedAt now) })

def fallbackLidar : Option LidarName :=
  match self.lidarA.queue, self.lidarB.queue with
  | [], [] => none
  | _ :: _, [] => some .a
  | [], _ :: _ => some .b
  | frontA :: _, frontB :: _ => if frontA.receivedAt ≤ frontB.receivedAt then some .a else some .b

def selectFallback (now : Int) : PointCloudMerger × Option PublishWork :=
  match self.fallbackLidar with
  | none => (self, none)
  | some name =>
    let info := self.lidar name
    match info.queue with
    | [] => (self, none)
    | front :: rest =>
      let age := secondsSince front.receivedAt now
      if age < self.limits.staleTimeoutSec then (self, none)
      else
        ({ self.setLidar name { info with queue := rest, singleCount := info.singleCount + 1 } with
            fallbackCount := self.fallbackCount + 1 },
          some { frames := [⟨name, front⟩], mode := .singleTimeout, oldestAgeSec := age })

def publishedPair : Option FramePair :=
  (closestPair self.lidarA.queue self.lidarB.queue).filter fun pair =>
    secondsOf pair.dtNs ≤ self.limits.maxPairDtSec

def selectPublishWork (now : Int) : PointCloudMerger × Option PublishWork :=
  if !self.hasPair then self.selectSingleConfig now
  else match self.publishedPair with
    | some pair => self.consumePair pair now
    | none => self.selectFallback now

def mergeAndPublish (now : Int) : PointCloudMerger × Option PublishWork :=
  match self.selectPublishWork now with
  | (selected, none) => (selected, none)
  | (selected, some work) =>
    ({ selected with
        pairedCount := if work.mode = .paired then selected.pairedCount + 1
          else selected.pairedCount
        publishedCount := selected.publishedCount + 1 }, some work)

end PointCloudMerger

def PublishWork.latestStamp (work : PublishWork) : Nat :=
  work.frames.foldl (fun latest selected => max latest selected.frame.stamp) 0

inductive MergerCall where
  | pointCloud (name : LidarName) (stamp rosSequence : Nat) (receivedAt : Int)
      (hasPoints : Bool)
  | timer (now : Int)

def mergerMachine (limits : MergerLimits) :
    Machine PointCloudMerger MergerCall (Option PublishWork) where
  start := { limits, hasPair := true }
  step := fun merger call =>
    match call with
    | .pointCloud name stamp rosSequence receivedAt hasPoints =>
      (merger.pointCloudCallback name stamp rosSequence receivedAt hasPoints, none)
    | .timer now => merger.mergeAndPublish now

end NdtSlam
