import NdtSlam.Foundation.History
import NdtSlam.TileStore.DirtyTiles

/-! The flush of the tiles: its callers, its worker, and the containers that they share. -/

namespace NdtSlam

abbrev TileSlot := TileLayer × String

structure FlushWork where
  batch : TileMap
  todo : List TileSlot
  failedLayers : TileMap := ∅

inductive WorkerPhase where
  | createDirectories
  | write
  | deposit
  | finish
  | requeue
  deriving DecidableEq

inductive FlushWorker where
  | absent
  | working (phase : WorkerPhase) (persistStaticEvidence : Bool) (work : FlushWork)
  | clearRunning

inductive FlushCall where
  | idle
  | drain (persistStaticEvidence : Bool)
  | testRunning (persistStaticEvidence : Bool)
  | diskGuard (persistStaticEvidence : Bool)
  | join (persistStaticEvidence : Bool)
  | swap (persistStaticEvidence : Bool)
  | setRunning (persistStaticEvidence : Bool) (batch : TileMap)
  | spawn (persistStaticEvidence : Bool) (batch : TileMap)

inductive WorkerResult where
  | done
  | unreadable
  | failed
  deriving DecidableEq

structure TileStore where
  layerFiles : TileLayer → String → Option (List Vec3)
  dirtyTiles : TileMap := ∅
  failedBatch : TileMap := ∅
  flushCall : FlushCall := .idle
  worker : FlushWorker := .absent
  running : Bool := false
  staticEvidenceDirty : Bool := false
  crashed : Bool := false
  accepted : TileLayer → String → List Vec3 := fun _ _ => []

inductive TileStoreStep where
  | appendPersistentTileLayers (registration ground objects : List Vec3)
  | markStaticEvidence
  | flushDirtyTiles
  | flush (diskGuard : Bool)
  | worker (result : WorkerResult)
  | workerThrows

namespace FlushWork

def slots (batch : TileMap) : List TileSlot :=
  batch.toList.flatMap fun item =>
    [(.registration, item.1), (.display, item.1), (.ground, item.1), (.objects, item.1)]

def ofBatch (batch : TileMap) : FlushWork := { batch, todo := slots batch }

def retry (work : FlushWork) (slot : TileSlot) : TileMap :=
  work.failedLayers.insert slot.2
    (Function.update (work.failedLayers[slot.2]?.getD .noClouds) slot.1
      (some (work.batch.points slot.1 slot.2)))

end FlushWork

namespace TileStore

variable (config : TileStoreConfig) (self : TileStore)

def filePoints (layer : TileLayer) (key : String) : List Vec3 :=
  (self.layerFiles layer key).getD []

def crash : TileStore :=
  { layerFiles := self.layerFiles, accepted := self.accepted, crashed := true }

def appendPersistentTileLayers (registration ground objects : List Vec3) : TileStore :=
  if config.accepts then
    match self.dirtyTiles.append config registration ground objects with
    | some dirtyTiles =>
      { self with
        dirtyTiles
        accepted := fun layer key => self.accepted layer key ++
          config.acceptedPoints registration ground objects layer key }
    | none => self.crash
  else self

def flushDirtyTiles : TileStore :=
  if config.persistentMapEnabled then
    match self.flushCall with
    | .idle =>
      { self with
        staticEvidenceDirty := false, flushCall := .drain self.staticEvidenceDirty }
    | _ => self
  else self

def giveUp (persistStaticEvidence : Bool) : TileStore :=
  { self with
    staticEvidenceDirty := persistStaticEvidence || self.staticEvidenceDirty
    flushCall := .idle }

def flushStep (diskGuard : Bool) : TileStore :=
  match self.flushCall with
  | .idle => self
  | .drain persist =>
    { self with
      dirtyTiles := self.dirtyTiles.mergeFailed self.failedBatch
      failedBatch := ∅
      flushCall := .testRunning persist }
  | .testRunning persist =>
    if self.running then self.giveUp persist else { self with flushCall := .diskGuard persist }
  | .diskGuard persist =>
    if diskGuard then { self with flushCall := .join persist } else self.giveUp persist
  | .join persist =>
    match self.worker with
    | .absent => { self with flushCall := .swap persist }
    | _ => self
  | .swap persist =>
    if self.dirtyTiles.isEmpty && !persist then { self with flushCall := .idle }
    else { self with dirtyTiles := ∅, flushCall := .setRunning persist self.dirtyTiles }
  | .setRunning persist batch => { self with running := true, flushCall := .spawn persist batch }
  | .spawn persist batch =>
    { self with
      worker := .working .createDirectories persist (.ofBatch batch)
      flushCall := .idle }

def writeFile (slot : TileSlot) (points : List Vec3) : TileStore :=
  { self with
    layerFiles := fun layer key =>
      if (layer, key) = slot then some points else self.layerFiles layer key }

def writeLayer (persist : Bool) (work : FlushWork) (slot : TileSlot) (rest : List TileSlot)
    (result : WorkerResult) : TileStore :=
  let cloud := work.batch.points slot.1 slot.2
  let written : TileStore :=
    { self with worker := .working .write persist { work with todo := rest } }
  if cloud.isEmpty then written
  else
    match result with
    | .done => written.writeFile slot (self.filePoints slot.1 slot.2 ++ cloud)
    -- A file that is reported as unreadable counts as one without points.
    | .unreadable => written.writeFile slot cloud
    | .failed =>
      { self with
        worker := .working .write persist
          { work with todo := rest, failedLayers := work.retry slot } }

theorem writeLayer_frame {persist : Bool} {work : FlushWork} {slot : TileSlot}
    {rest : List TileSlot} {result : WorkerResult} :
    (self.writeLayer persist work slot rest result).flushCall = self.flushCall ∧
      (self.writeLayer persist work slot rest result).dirtyTiles = self.dirtyTiles ∧
      (self.writeLayer persist work slot rest result).failedBatch = self.failedBatch ∧
      (self.writeLayer persist work slot rest result).accepted = self.accepted := by
  unfold writeLayer
  simp only
  split_ifs
  · exact ⟨rfl, rfl, rfl, rfl⟩
  · cases result <;> exact ⟨rfl, rfl, rfl, rfl⟩

def workerStep (result : WorkerResult) : TileStore :=
  match self.worker with
  | .absent => self
  | .working .createDirectories persist work =>
    { self with worker := .working .write persist work }
  | .working .write persist work =>
    match work.todo with
    | [] => { self with worker := .working .deposit persist work }
    | slot :: rest => self.writeLayer persist work slot rest result
  | .working .deposit persist work =>
    { self with
      failedBatch := self.failedBatch.assign work.failedLayers
      worker := .working .finish persist work }
  | .working .finish persist work =>
    let durable := work.failedLayers.isEmpty && result = .done
    { self with
      staticEvidenceDirty := (persist && !durable) || self.staticEvidenceDirty
      worker := .clearRunning }
  | .working .requeue _ work =>
    { self with
      failedBatch := self.failedBatch.assign work.batch, worker := .clearRunning }
  | .clearRunning => { self with running := false, worker := .absent }

theorem workerStep_flushCall {result : WorkerResult} :
    (self.workerStep result).flushCall = self.flushCall := by
  unfold workerStep
  split
  case h_3 =>
    split
    · rfl
    · exact self.writeLayer_frame.1
  all_goals rfl

def workerThrows : TileStore :=
  match self.worker with
  | .working .requeue _ _ => self
  | .working phase persist work =>
    -- Nothing is left of the work once the failed layers have been handed back.
    let left := if phase = .finish then { batch := work.batch, todo := [] } else work
    { self with
      staticEvidenceDirty := persist || self.staticEvidenceDirty
      worker := .working .requeue persist left }
  | _ => self

def step (call : TileStoreStep) : TileStore :=
  if self.crashed then self
  else
    match call with
    | .appendPersistentTileLayers registration ground objects =>
      self.appendPersistentTileLayers config registration ground objects
    | .markStaticEvidence => { self with staticEvidenceDirty := true }
    | .flushDirtyTiles => self.flushDirtyTiles config
    | .flush diskGuard => self.flushStep diskGuard
    | .worker result => self.workerStep result
    | .workerThrows => self.workerThrows

end TileStore

def tileStore (config : TileStoreConfig) (layerFiles : TileLayer → String → Option (List Vec3)) :
    Machine TileStore TileStoreStep Unit where
  start := { layerFiles }
  step self call := (self.step config call, ())

abbrev TileStoreEvent := Event TileStore TileStoreStep

end NdtSlam
