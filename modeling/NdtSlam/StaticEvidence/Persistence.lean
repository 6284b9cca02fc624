import NdtSlam.StaticEvidence.SnapshotFile

/-! How the static evidence is kept on disk, suspended by map changes and found by a restart. -/

namespace NdtSlam

open StaticObstacleEvidenceIndex

structure StaticEvidenceManifest where
  schemaVersion : Nat := 0
  mapUuid : String := ""
  generation : Nat := 2 ^ 64 - 1
  revision : Nat := 0
  totalCells : Nat := 0
  matureCells : Nat := 0
  tileSizeM : Scalar := 0
  cellSizeM : Scalar := 0
  objectsLayer : String := ""
  staticIndex : String := ""

structure CommittedManifest extends StaticEvidenceManifest where
  epochId : Nat := 0

structure EvidenceDisk (format : CsvFormat) where
  marker : Bool := false
  manifest : Option CommittedManifest := none
  indexFiles : String → Option (List format.Line) := fun _ => none
  objectsLayer : Bool := false

namespace EvidenceDisk

variable {format : CsvFormat} (disk : EvidenceDisk format)

def saveIndex (name : String) (snapshot : StaticEvidenceSnapshot) : EvidenceDisk format :=
  { disk with indexFiles := fun other =>
      if other = name then some (saveSnapshot format snapshot) else disk.indexFiles other }

def commit (manifest : CommittedManifest) : EvidenceDisk format :=
  { disk with manifest := some manifest }

def isIndexFileName (name : String) : Bool :=
  "static_evidence_index_v3_g".toList.isPrefixOf name.toList

def retireIndexes (name : String) (kept : String → Bool) : EvidenceDisk format :=
  { disk with indexFiles := fun other =>
      if other ≠ name ∧ isIndexFileName other = true ∧ kept other = false then none
      else disk.indexFiles other }

end EvidenceDisk

structure PersistenceSettings where
  persistentMapEnabled : Bool := true
  mapUuid : String := ""
  tileSizeM : Scalar := 10
  evidence : StaticObstacleEvidenceConfig := {}

def staticEvidenceIndexFileName (generation revision : Nat) : String :=
  "static_evidence_index_v3_g" ++ toString generation ++ "_r" ++ toString revision ++ ".csv"

def countMatureStaticEvidenceCells (snapshot : StaticEvidenceSnapshot) : Nat :=
  (snapshot.cells.toList.filter fun item =>
    item.2.cleanMapConfirmed && item.2.temporallyMature &&
      item.2.mapGeneration == snapshot.mapGeneration).length

def StaticEvidenceManifest.mismatches (manifest : StaticEvidenceManifest)
    (settings : PersistenceSettings) (config : StaticObstacleEvidenceConfig) : Bool :=
  manifest.schemaVersion != StaticObstacleEvidenceIndex.schemaVersion ||
    manifest.staticIndex !=
      staticEvidenceIndexFileName manifest.generation manifest.revision ||
    manifest.revision == 0 ||
    manifest.matureCells < config.minimumMatchedCells ||
    manifest.totalCells < manifest.matureCells ||
    manifest.mapUuid != settings.mapUuid ||
    manifest.objectsLayer != "tiles_objects" ||
    differsInResolution config manifest.cellSizeM ||
    ((1.0e-6 : Scalar) < (manifest.tileSizeM - settings.tileSizeM).abs : Bool)

def loadPersistentStaticEvidence {format : CsvFormat} (settings : PersistenceSettings)
    (disk : EvidenceDisk format) (index : StaticObstacleEvidenceIndex) (epoch : Nat) :
    StaticObstacleEvidenceIndex × Bool :=
  if disk.marker then (index, false)
  else match disk.manifest with
    | none => (index, false)
    | some manifest =>
      if !disk.objectsLayer || manifest.mismatches settings index.config then (index, false)
      else match loadSnapshot format index (disk.indexFiles manifest.staticIndex) epoch
          manifest.generation manifest.revision with
        | (unchanged, .error _) => (unchanged, false)
        | (loaded, .ok ()) =>
          if loaded.snapshot.cells.size != manifest.totalCells ||
              countMatureStaticEvidenceCells loaded.snapshot != manifest.matureCells then
            (loaded.reset epoch, false)
          else (loaded, true)

def configuredIndex (settings : PersistenceSettings) : StaticObstacleEvidenceIndex :=
  (setConfig settings.evidence).reset 1

def EvidenceDisk.accepted {format : CsvFormat} (settings : PersistenceSettings)
    (disk : EvidenceDisk format) : Option CommittedManifest :=
  if settings.persistentMapEnabled &&
      (loadPersistentStaticEvidence settings disk (configuredIndex settings) 1).2 then
    disk.manifest
  else none

def manifestOf (settings : PersistenceSettings) (snapshot : StaticEvidenceSnapshot) :
    StaticEvidenceManifest :=
  { schemaVersion := snapshot.schemaVersion
    mapUuid := settings.mapUuid
    generation := snapshot.mapGeneration
    revision := snapshot.revision
    totalCells := snapshot.cells.size
    matureCells := countMatureStaticEvidenceCells snapshot
    tileSizeM := settings.tileSizeM
    cellSizeM := snapshot.cellSizeM
    objectsLayer := "tiles_objects"
    staticIndex := staticEvidenceIndexFileName snapshot.mapGeneration snapshot.revision }

inductive WriteStage where
  | snapshotRead
  | checked
  | indexSaved
  | manifestRenamed
  | markerRemoved
  deriving DecidableEq

structure EvidenceWrite where
  snapshot : StaticEvidenceSnapshot
  stage : WriteStage := .snapshotRead
  epochId : Nat
  premature : Bool

def EvidenceWrite.indexName (write : EvidenceWrite) : String :=
  staticEvidenceIndexFileName write.snapshot.mapGeneration write.snapshot.revision

inductive EvidenceWorker where
  | idle
  | flushing (persist : Bool)
  | writing (write : EvidenceWrite)

inductive MapChange where
  | resetService
  | rebuildMapService
  | loopClosure
  | installLoadedRuntimeMap (prepared : PreparedStaticEvidenceInstall)

inductive MapChangeStage where
  | idle
  | entered (change : MapChange)
  | marked (change : MapChange)
  | archived (change : MapChange)
  | settling (change : MapChange) (suspended : Bool)
  | suspended (change : MapChange)
  | advanced (change : MapChange) (epoch : Nat)

def MapChangeStage.holdsMutex : MapChangeStage → Bool
  | .marked _ | .archived _ | .settling _ _ => true
  | _ => false

def MapChangeStage.awaitsEpoch : MapChangeStage → Bool
  | .suspended _ => true
  | _ => false

def EvidenceWorker.isWriting : EvidenceWorker → Bool
  | .writing _ => true
  | _ => false

structure EvidenceStore (format : CsvFormat) where
  disk : EvidenceDisk format
  staticEvidenceEpoch : Nat := 1
  index : StaticObstacleEvidenceIndex
  manifestActive : Bool := false
  lastCommittedRevision : Nat := 0
  persistenceDirty : Bool := false
  flushCall : Option Bool := none
  worker : EvidenceWorker := .idle
  change : MapChangeStage := .idle
  epochId : Nat
  snapshotEpochId : Nat
  committedFor : Nat := 0
  suspensions : List Nat := []

inductive EvidenceStoreStep where
  | invalidateCells (cells : CellKeySet) (version : Nat) (stampSec : Scalar) (mapGeneration : Nat)
  | observeCleanBuildCells (build : CleanBuild)
  | confirmCleanCells (clean : CleanMap)
  | flushDirtyTiles
  | startWorker (diskGuard : Bool)
  | endFlush
  | beginWrite
  | checkSnapshot
  | saveIndex (succeeds : Bool)
  | renameManifest (succeeds : Bool)
  | removeMarker (succeeds : Bool)
  | retireIndexes (kept : String → Bool)
  | enterSuspension (change : MapChange)
  | renameMarker (succeeds : Bool)
  | archiveManifest (succeeds : Bool)
  | removeManifest (succeeds : Bool)
  | endSuspension
  | advanceStaticEvidenceEpoch
  | renewIndex
  | restart

inductive WriteDecision where
  | refused
  | alreadyPersisted
  | due
  deriving DecidableEq

namespace EvidenceStore

variable {format : CsvFormat} (settings : PersistenceSettings)

def boot (disk : EvidenceDisk format) (epochId : Nat) (suspensions : List Nat) :
    EvidenceStore format :=
  let configured : EvidenceStore format :=
    { disk, index := configuredIndex settings, epochId, snapshotEpochId := epochId, suspensions }
  if settings.persistentMapEnabled then
    match loadPersistentStaticEvidence settings disk (configuredIndex settings) 1 with
    | (index, true) =>
      { configured with
        index
        manifestActive := true
        lastCommittedRevision := index.snapshot.revision
        committedFor := epochId }
    | (index, false) => { configured with index }
  else configured

variable (self : EvidenceStore format)

def observeBuild (build : CleanBuild) : EvidenceStore format :=
  if build.mapGeneration == self.staticEvidenceEpoch then
    { self with index := (self.index.observeCleanBuildCells build).1 }
  else self

def confirmClean (clean : CleanMap) : EvidenceStore format :=
  if clean.mapGeneration == self.staticEvidenceEpoch then
    let (index, result) := self.index.confirmCleanCells clean
    { self with
      index
      persistenceDirty := self.persistenceDirty ||
        0 < result.confirmedCells || 0 < result.invalidatedCells }
  else self

def invalidate (cells : CellKeySet) (version : Nat) (stampSec : Scalar) (mapGeneration : Nat) :
    EvidenceStore format :=
  let (index, result) := self.index.invalidateCells cells version stampSec mapGeneration
  { self with
    index
    persistenceDirty := self.persistenceDirty || 0 < result.invalidatedCells }

def takeFlag : EvidenceStore format :=
  if settings.persistentMapEnabled && self.flushCall.isNone then
    { self with flushCall := some self.persistenceDirty, persistenceDirty := false }
  else self

def startWorker (diskGuard : Bool) : EvidenceStore format :=
  match self.flushCall, self.worker with
  | some persist, .idle =>
    if diskGuard then
      { self with
        flushCall := none
        worker := .flushing persist
        disk := { self.disk with objectsLayer := true } }
    else
      { self with flushCall := none, persistenceDirty := self.persistenceDirty || persist }
  | some persist, _ =>
    { self with flushCall := none, persistenceDirty := self.persistenceDirty || persist }
  | none, _ => self

def endFlush : EvidenceStore format :=
  match self.worker with
  | .flushing persist =>
    { self with worker := .idle, persistenceDirty := self.persistenceDirty || persist }
  | _ => self

def readSnapshot : EvidenceWrite :=
  { snapshot := self.index.snapshot
    epochId := self.snapshotEpochId
    premature := self.change.awaitsEpoch }

def beginWrite : EvidenceStore format :=
  match self.worker with
  | .flushing true =>
    if self.change.holdsMutex then self
    else { self with worker := .writing self.readSnapshot }
  | _ => self

def writeAt (write : EvidenceWrite) (stage : WriteStage) : EvidenceStore format :=
  { self with worker := .writing { write with stage } }

def writeFails : EvidenceStore format :=
  { self with worker := .idle, persistenceDirty := true }

def decideWrite (snapshot : StaticEvidenceSnapshot) : WriteDecision :=
  if snapshot.mapGeneration ≠ self.staticEvidenceEpoch then .refused
  else if !self.manifestActive &&
      countMatureStaticEvidenceCells snapshot < self.index.config.minimumMatchedCells then .refused
  else if snapshot.revision ≤ self.lastCommittedRevision then .alreadyPersisted
  else .due

def checkSnapshot : EvidenceStore format :=
  match self.worker with
  | .writing write =>
    if write.stage = .snapshotRead then
      match self.decideWrite write.snapshot with
      | .refused => self.writeFails
      | .alreadyPersisted => { self with worker := .idle }
      | .due => self.writeAt write .checked
    else self
  | _ => self

variable (succeeds : Bool)

def saveIndex : EvidenceStore format :=
  match self.worker with
  | .writing write =>
    if write.stage = .checked then
      if succeeds then
        { self.writeAt write .indexSaved with
          disk := self.disk.saveIndex write.indexName write.snapshot }
      else self.writeFails
    else self
  | _ => self

def renameManifest : EvidenceStore format :=
  match self.worker with
  | .writing write =>
    if write.stage = .indexSaved then
      if succeeds then
        { self.writeAt write .manifestRenamed with
          disk := self.disk.commit
            { manifestOf settings write.snapshot with epochId := write.epochId } }
      else self.writeFails
    else self
  | _ => self

def removeMarker : EvidenceStore format :=
  match self.worker with
  | .writing write =>
    if write.stage = .manifestRenamed then
      if succeeds then
        { self.writeAt write .markerRemoved with
          disk := { self.disk with marker := false }
          manifestActive := true
          lastCommittedRevision := write.snapshot.revision
          committedFor := write.epochId }
      else { self.writeFails with manifestActive := false }
    else self
  | _ => self

def retireIndexes (kept : String → Bool) : EvidenceStore format :=
  match self.worker with
  | .writing write =>
    if write.stage = .markerRemoved then
      { self with
        worker := .idle
        disk := self.disk.retireIndexes write.indexName kept }
    else self
  | _ => self

def enterSuspension (change : MapChange) : EvidenceStore format :=
  match self.change with
  | .idle =>
    if settings.persistentMapEnabled then
      { self with persistenceDirty := false, change := .entered change }
    else
      { self with
        persistenceDirty := false
        change := .suspended change
        suspensions := self.epochId :: self.suspensions }
  | _ => self

def renameMarker : EvidenceStore format :=
  match self.change with
  | .entered change =>
    if self.worker.isWriting then self
    else if succeeds then
      { self with disk := { self.disk with marker := true }, change := .marked change }
    else { self with change := .settling change false }
  | _ => self

def archiveManifest : EvidenceStore format :=
  match self.change with
  | .marked change =>
    if self.disk.manifest.isNone then { self with change := .settling change true }
    else if succeeds then { self with change := .archived change }
    else { self with change := .settling change false }
  | _ => self

def removeManifest : EvidenceStore format :=
  match self.change with
  | .archived change =>
    if succeeds then
      { self with disk := { self.disk with manifest := none }, change := .settling change true }
    else { self with change := .settling change false }
  | _ => self

def afterSuspension (suspended : Bool) : MapChange → MapChangeStage
  | .installLoadedRuntimeMap prepared =>
    if suspended then .suspended (.installLoadedRuntimeMap prepared) else .idle
  | change => .suspended change

def endSuspension : EvidenceStore format :=
  match self.change with
  | .settling change suspended =>
    { self with
      manifestActive := false
      lastCommittedRevision := 0
      change := afterSuspension suspended change
      suspensions := if suspended then self.epochId :: self.suspensions else self.suspensions }
  | _ => self

def advanceStaticEvidenceEpoch : EvidenceStore format :=
  match self.change with
  | .suspended change =>
    { self with
      staticEvidenceEpoch := nextCounter self.staticEvidenceEpoch
      epochId := self.epochId + 1
      change := .advanced change (nextCounter self.staticEvidenceEpoch) }
  | _ => self

def renewedIndex (index : StaticObstacleEvidenceIndex) (epoch : Nat) :
    MapChange → StaticObstacleEvidenceIndex
  | .installLoadedRuntimeMap prepared => index.installPreparedSnapshot prepared epoch
  | _ => index.reset epoch

def renewIndex : EvidenceStore format :=
  match self.change with
  | .advanced change epoch =>
    { self with
      index := renewedIndex self.index epoch change
      snapshotEpochId := self.epochId
      change := .idle }
  | _ => self

def step : EvidenceStoreStep → EvidenceStore format
  | .invalidateCells cells version stampSec mapGeneration =>
    self.invalidate cells version stampSec mapGeneration
  | .observeCleanBuildCells build => self.observeBuild build
  | .confirmCleanCells clean => self.confirmClean clean
  | .flushDirtyTiles => self.takeFlag settings
  | .startWorker diskGuard => self.startWorker diskGuard
  | .endFlush => self.endFlush
  | .beginWrite => self.beginWrite
  | .checkSnapshot => self.checkSnapshot
  | .saveIndex succeeds => self.saveIndex succeeds
  | .renameManifest succeeds => self.renameManifest settings succeeds
  | .removeMarker succeeds => self.removeMarker succeeds
  | .retireIndexes kept => self.retireIndexes kept
  | .enterSuspension change => self.enterSuspension settings change
  | .renameMarker succeeds => self.renameMarker succeeds
  | .archiveManifest succeeds => self.archiveManifest succeeds
  | .removeManifest succeeds => self.removeManifest succeeds
  | .endSuspension => self.endSuspension
  | .advanceStaticEvidenceEpoch => self.advanceStaticEvidenceEpoch
  | .renewIndex => self.renewIndex
  | .restart => boot settings self.disk (self.epochId + 1) self.suspensions

end EvidenceStore

def evidenceStore {format : CsvFormat} (settings : PersistenceSettings)
    (disk : EvidenceDisk format) : Machine (EvidenceStore format) EvidenceStoreStep Unit :=
  { start := EvidenceStore.boot settings disk 1 []
    step := fun store call => (store.step settings call, ()) }

end NdtSlam
