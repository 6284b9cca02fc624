import NdtSlam.Foundation.Vector
import NdtSlam.StaticEvidence.Index

/-! The background job that rebuilds the clean map, and the owner thread that starts it. -/

namespace NdtSlam

inductive CleanMapBuildAction where
  | apply
  | discardInvalid
  | publishSnapshotOnly
  deriving DecidableEq

def evaluateCleanMapBuildAction (buildValid _newerRequestPending : Bool)
    (sourceObjectsVersion currentObjectsVersion : Nat) : CleanMapBuildAction :=
  if !buildValid then .discardInvalid
  else if sourceObjectsVersion ≠ currentObjectsVersion then .publishSnapshotOnly
  else .apply

structure MapLayers where
  registration : List Vec3 := []
  display : List Vec3 := []
  ground : List Vec3 := []
  objects : List Vec3 := []
  objectsClean : List Vec3 := []

structure MapLayerBundle where
  valid : Bool := false
  generation : Nat := 0
  objectsVersion : Nat := 0
  lifecycleEpoch : Nat := 0
  sourceStamp : Scalar := 0
  registration : Option (List Vec3) := none
  display : Option (List Vec3) := none
  ground : Option (List Vec3) := none
  objects : Option (List Vec3) := none
  objectsClean : Option (List Vec3) := none

namespace MapLayerBundle

def ofLayers (layers : MapLayers) : MapLayerBundle where
  registration := some layers.registration
  display := some layers.display
  ground := some layers.ground
  objects := some layers.objects
  objectsClean := some layers.objectsClean

def movedOut (bundle : MapLayerBundle) : MapLayerBundle :=
  { bundle with
    registration := none, display := none, ground := none, objects := none
    objectsClean := none }

structure HasLayers (bundle : MapLayerBundle) : Prop where
  registration : bundle.registration.isSome
  display : bundle.display.isSome
  ground : bundle.ground.isSome
  objects : bundle.objects.isSome
  objectsClean : bundle.objectsClean.isSome

end MapLayerBundle

structure StaticObservations where
  observed : CellMap StaticEvidenceCellGeometry := {}
  observable : CellKeySet := {}
  free : CellKeySet := {}
  origins : List (Int × Nat) := []

namespace StaticObservations

def mergeHeights (cells : CellMap StaticEvidenceCellGeometry)
    (item : Int × StaticEvidenceCellGeometry) : CellMap StaticEvidenceCellGeometry :=
  match cells[item.1]? with
  | none => cells.insert item.1 item.2
  | some heights =>
    cells.insert item.1 ⟨heights.minZ.minOf item.2.minZ, heights.maxZ.maxOf item.2.maxZ⟩

def addCommit (self : StaticObservations) (epoch : Nat) (freeCells : List Int)
    (occupiedCells : List (Int × StaticEvidenceCellGeometry)) : StaticObservations where
  observed := occupiedCells.foldl mergeHeights (freeCells.foldl (·.erase ·) self.observed)
  observable := (freeCells ++ occupiedCells.map (·.1)).foldl (·.insert ·) self.observable
  free := (occupiedCells.map (·.1)).foldl (·.erase ·) (freeCells.foldl (·.insert ·) self.free)
  origins := (freeCells ++ occupiedCells.map (·.1)).map (·, epoch) ++ self.origins

def restore (self batch : StaticObservations) : StaticObservations :=
  let observed := batch.observed.toList.foldl
    (fun cells item => if self.free.contains item.1 then cells else mergeHeights cells item)
    self.observed
  { observed
    observable := batch.observable.toList.foldl (·.insert ·) self.observable
    free := batch.free.toList.foldl
      (fun free key => if observed.contains key then free else free.insert key) self.free
    origins := self.origins ++ batch.origins }

end StaticObservations

structure CleanMapWorkerResult where
  valid : Bool := false
  sourceObjectsVersion : Nat := 0
  staticEvidenceEpoch : Nat := 0
  observations : StaticObservations := {}
  bundle : MapLayerBundle := {}
  job : Nat := 0

namespace CleanMapWorkerResult

variable (result : CleanMapWorkerResult)

def movedOut : CleanMapWorkerResult :=
  { result with observations := {}, bundle := result.bundle.movedOut }

def finish (valid : Bool) (cleanCloud : Option (List Vec3)) : CleanMapWorkerResult :=
  { result with
    valid := valid
    -- An exception can leave a valid build without a new clean layer.
    bundle := { result.bundle with
      objectsClean := if cleanCloud.isSome then cleanCloud else result.bundle.objectsClean } }

def cleanBuild (stamp : Scalar) :
    StaticObstacleEvidenceIndex.CleanBuild where
  occupiedCells := result.observations.observed
  observableCells := result.observations.observable
  observedFreeCells := result.observations.free
  stampSec := if result.bundle.sourceStamp == 0 then stamp else result.bundle.sourceStamp
  mapGeneration := result.staticEvidenceEpoch
  objectsVersion := result.sourceObjectsVersion

end CleanMapWorkerResult

inductive CleanMapWorker where
  | absent
  | building (result : CleanMapWorkerResult)
  | stored
  | cleared
  | finished

inductive ResultCaller where
  | frame
  | maintenance (deferred : Bool)

inductive JobStarter where
  | maintenance
  | consumption (result : CleanMapWorkerResult) (caller : ResultCaller)

inductive RuntimeOwner where
  | idle
  | testReady (caller : ResultCaller)
  | takeSlot (caller : ResultCaller)
  | evaluate (result : CleanMapWorkerResult) (caller : ResultCaller)
  | install (result : CleanMapWorkerResult) (caller : ResultCaller)
  | observe (result : CleanMapWorkerResult) (caller : ResultCaller)
  | maintain (deferred : Bool)
  | testRunning (starter : JobStarter)
  | join (starter : JobStarter)
  | takeObservations (starter : JobStarter) (epoch : Nat)
  | spawn (starter : JobStarter) (epoch : Nat) (observations : StaticObservations)
  | clear (rebuildPending : Option Bool)

inductive BatchFate where
  | applied
  | dropped
  | restored

structure CleanMapRebuild where
  owner : RuntimeOwner := .idle
  worker : CleanMapWorker := .absent
  resultReady : Bool := false
  running : Bool := false
  rebuildPending : Bool := false
  maintenancePending : Bool := false
  requestedFromWorker : Bool := false
  workerResult : CleanMapWorkerResult := {}
  pending : StaticObservations := {}
  staticEvidenceEpoch : Nat := 1
  mapRebuildGeneration : Nat := 0
  layers : MapLayers := {}
  mapLayerGeneration : Nat := 1
  objectsVersion : Nat := 1
  cleanVersion : Nat := 0
  latestBundle : MapLayerBundle := {}
  slotFull : Bool := false
  storedJobs : List Nat := []
  consumed : List (Option Nat) := []
  fates : List BatchFate := []

inductive RebuildStep where
  | consumeCleanMapRebuildResult
  | runMapMaintenanceIfIdle (deferred : Bool)
  | owner (stamp : Scalar)
  | worker (valid : Bool) (cleanCloud : Option (List Vec3))
  | commitKeyFrame (freeCells : List Int)
      (occupiedCells : List (Int × StaticEvidenceCellGeometry))
  | changeMap (layers : MapLayers)
  | requestMapMaintenance
  | requestFromWorker
  | resetService
  | installLoadedRuntimeMap (layers : MapLayers) (stamp : Scalar)
  | rebuildMapService
  | updatePoseFromLoopClosure
  | handleLidarTimeRollback (stamp : Scalar)

namespace CleanMapRebuild

open StaticObstacleEvidenceIndex (nextCounter)

variable (self : CleanMapRebuild)

def afterConsumption : ResultCaller → RuntimeOwner
  | .frame => .idle
  | .maintenance deferred => .maintain deferred

def afterStart : JobStarter → RuntimeOwner
  | .maintenance => .idle
  | .consumption result caller => .observe result caller

/-! ### Consuming a result -/

def testReady (caller : ResultCaller) : CleanMapRebuild :=
  if self.resultReady then { self with resultReady := false, owner := .takeSlot caller }
  else { self with owner := afterConsumption caller }

def takeSlot (caller : ResultCaller) : CleanMapRebuild :=
  { self with
    workerResult := self.workerResult.movedOut
    slotFull := false
    consumed := self.consumed ++ [if self.slotFull then some self.workerResult.job else none]
    owner := .evaluate self.workerResult caller }

variable (result : CleanMapWorkerResult)

def discards : Bool :=
  result.bundle.lifecycleEpoch ≠ self.mapRebuildGeneration ||
    evaluateCleanMapBuildAction result.valid self.rebuildPending result.sourceObjectsVersion
      self.objectsVersion == .discardInvalid

def evaluate (caller : ResultCaller) : CleanMapRebuild :=
  if self.discards result then
    { self with
      pending := self.pending.restore result.observations
      fates := self.fates ++ [.restored]
      owner := afterConsumption caller }
  else { self with owner := .install result caller }

def publish : CleanMapRebuild :=
  { self with
    mapLayerGeneration := nextCounter self.mapLayerGeneration
    latestBundle := { result.bundle with
      generation := nextCounter self.mapLayerGeneration, valid := true } }

def installClean (clean : List Vec3) : CleanMapRebuild :=
  { self with
    layers := { self.layers with objectsClean := clean }
    cleanVersion := nextCounter self.cleanVersion }

def install (caller : ResultCaller) : CleanMapRebuild :=
  match evaluateCleanMapBuildAction result.valid false result.sourceObjectsVersion
      self.objectsVersion, result.bundle.objectsClean with
  | .apply, some clean =>
    { (self.installClean clean).publish result with owner := .observe result caller }
  | .publishSnapshotOnly, _ =>
    -- The working map has advanced, so another job follows at once.
    { self.publish result with
      maintenancePending := true
      rebuildPending := false
      owner := .testRunning (.consumption result caller) }
  | _, _ => { self.publish result with owner := .observe result caller }

def observe (caller : ResultCaller) : CleanMapRebuild :=
  { self with
    fates := self.fates ++
      [if result.staticEvidenceEpoch = self.staticEvidenceEpoch then .applied else .dropped]
    maintenancePending := true
    owner := afterConsumption caller }

/-! ### Starting a job -/

def maintain (deferred : Bool) : CleanMapRebuild :=
  let maintenancePending := self.requestedFromWorker || self.maintenancePending
  let rebuildPending := self.requestedFromWorker || self.rebuildPending
  if !maintenancePending || deferred then
    { self with requestedFromWorker := false, maintenancePending, rebuildPending, owner := .idle }
  else
    { self with
      requestedFromWorker := false
      maintenancePending := false
      rebuildPending := false
      owner := if rebuildPending then .testRunning .maintenance else .idle }

variable (starter : JobStarter)

def testRunning : CleanMapRebuild :=
  if self.running then { self with rebuildPending := true, owner := afterStart starter }
  else { self with owner := .join starter }

def join : CleanMapRebuild :=
  match self.worker with
  | .absent | .finished =>
    { self with owner := .takeObservations starter self.staticEvidenceEpoch }
  | _ => self

def takeObservations (epoch : Nat) : CleanMapRebuild :=
  { self with pending := {}, owner := .spawn starter epoch self.pending }

def snapshot (stamp : Scalar) : MapLayerBundle :=
  { MapLayerBundle.ofLayers self.layers with
    valid := true
    generation := self.mapLayerGeneration
    objectsVersion := self.objectsVersion
    lifecycleEpoch := self.mapRebuildGeneration
    sourceStamp := stamp }

def newJob (epoch : Nat) (observations : StaticObservations) (stamp : Scalar) :
    CleanMapWorkerResult where
  sourceObjectsVersion := self.objectsVersion
  staticEvidenceEpoch := epoch
  observations := observations
  bundle := self.snapshot stamp
  job := self.storedJobs.length + 1

def spawn (epoch : Nat) (observations : StaticObservations) (stamp : Scalar) : CleanMapRebuild :=
  { self with
    running := true
    worker := .building (self.newJob epoch observations stamp)
    owner := afterStart starter }

def clear (rebuildPending : Option Bool) : CleanMapRebuild :=
  { self with
    pending := {}
    rebuildPending := rebuildPending.getD self.rebuildPending
    maintenancePending := true
    owner := .idle }

def ownerStep (stamp : Scalar) : CleanMapRebuild :=
  match self.owner with
  | .idle => self
  | .testReady caller => self.testReady caller
  | .takeSlot caller => self.takeSlot caller
  | .evaluate result caller => self.evaluate result caller
  | .install result caller => self.install result caller
  | .observe result caller => self.observe result caller
  | .maintain deferred => self.maintain deferred
  | .testRunning starter => self.testRunning starter
  | .join starter => self.join starter
  | .takeObservations starter epoch => self.takeObservations starter epoch
  | .spawn starter epoch observations => self.spawn starter epoch observations stamp
  | .clear rebuildPending => self.clear rebuildPending

/-! ### The worker -/

def storeResult (result : CleanMapWorkerResult) : CleanMapRebuild :=
  { self with
    workerResult := result
    slotFull := true
    storedJobs := self.storedJobs ++ [result.job]
    worker := .stored }

def workerStep (valid : Bool) (cleanCloud : Option (List Vec3)) : CleanMapRebuild :=
  match self.worker with
  | .building result => self.storeResult (result.finish valid cleanCloud)
  | .stored => { self with running := false, worker := .cleared }
  | .cleared => { self with resultReady := true, worker := .finished }
  | .absent | .finished => self

/-! ### The services and the other threads -/

def replaceLayers (layers : MapLayers) : CleanMapRebuild :=
  { self with layers, objectsVersion := nextCounter self.objectsVersion }

def advanceLifecycle : CleanMapRebuild :=
  { self with mapRebuildGeneration := (self.mapRebuildGeneration + 1) % 2 ^ 64 }

def sealBundle (stamp : Scalar) : CleanMapRebuild :=
  { self with
    mapLayerGeneration := nextCounter self.mapLayerGeneration
    latestBundle := { self.snapshot stamp with
      generation := nextCounter self.mapLayerGeneration } }

def advanceStaticEvidenceEpoch (rebuildPending : Option Bool) : CleanMapRebuild :=
  { self with
    staticEvidenceEpoch := nextCounter self.staticEvidenceEpoch
    owner := .clear rebuildPending }

def rebindBundle (stamp : Scalar) : CleanMapRebuild :=
  if self.latestBundle.valid then
    { self with latestBundle := { self.latestBundle with
        lifecycleEpoch := self.mapRebuildGeneration, sourceStamp := stamp } }
  else self

def whenIdle (changed : CleanMapRebuild) : CleanMapRebuild :=
  match self.owner with
  | .idle => changed
  | _ => self

def step : RebuildStep → CleanMapRebuild
  | .consumeCleanMapRebuildResult => self.whenIdle { self with owner := .testReady .frame }
  | .runMapMaintenanceIfIdle deferred =>
    self.whenIdle { self with owner := .testReady (.maintenance deferred) }
  | .owner stamp => self.ownerStep stamp
  | .worker valid cleanCloud => self.workerStep valid cleanCloud
  | .commitKeyFrame freeCells occupiedCells =>
    { self with
      pending := self.pending.addCommit self.staticEvidenceEpoch freeCells occupiedCells }
  | .changeMap layers => self.replaceLayers layers
  | .requestMapMaintenance => { self with maintenancePending := true, rebuildPending := true }
  | .requestFromWorker => { self with requestedFromWorker := true }
  | .resetService =>
    self.whenIdle (((self.advanceLifecycle.replaceLayers {}).sealBundle
      0).advanceStaticEvidenceEpoch (some false))
  | .installLoadedRuntimeMap layers stamp =>
    self.whenIdle (((self.advanceLifecycle.replaceLayers layers).sealBundle
      stamp).advanceStaticEvidenceEpoch (some false))
  | .rebuildMapService =>
    self.whenIdle (self.advanceLifecycle.advanceStaticEvidenceEpoch none)
  | .updatePoseFromLoopClosure => self.whenIdle (self.advanceStaticEvidenceEpoch (some true))
  | .handleLidarTimeRollback stamp =>
    self.whenIdle (self.advanceLifecycle.rebindBundle stamp)

def passedOn :
    RebuildStep → Option (StaticObstacleEvidenceIndex.CleanBuild × List (Int × Nat))
  | .owner stamp =>
    match self.owner with
    | .observe result _ =>
      if result.staticEvidenceEpoch = self.staticEvidenceEpoch then
        some (result.cleanBuild stamp, result.observations.origins)
      else none
    | _ => none
  | _ => none

end CleanMapRebuild

def cleanMapRebuild : Machine CleanMapRebuild RebuildStep
    (Option (StaticObstacleEvidenceIndex.CleanBuild × List (Int × Nat))) where
  start := {}
  step self call := (self.step call, self.passedOn call)

abbrev RebuildEvent := Event CleanMapRebuild RebuildStep

end NdtSlam
