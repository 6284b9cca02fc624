import NdtSlam.TileStore.Conservation

/-! Saving a session in persistent mode: the tiles are flushed, and the layers read from them. -/

namespace NdtSlam

abbrev TilePoints := TileLayer → String → List Vec3

structure AssembledTiles where
  before : TilePoints
  files : TilePoints

inductive SaveCall where
  | idle
  | flush (before : TilePoints)
  | flushing (before : TilePoints)
  | join (before : TilePoints)
  | testFailed (before : TilePoints)
  | assemble (before : TilePoints)
  | check (session : AssembledTiles)
  | returned (session : Option AssembledTiles)

structure SaveRun where
  store : TileStore
  save : SaveCall := .idle

inductive SaveStep where
  | store (call : TileStoreStep)
  | saveMapSessionAtomic
  | save (succeeds : Bool)

namespace FlushCall

def isIdle : FlushCall → Bool
  | .idle => true
  | _ => false

end FlushCall

namespace FlushWorker

def isAbsent : FlushWorker → Bool
  | .absent => true
  | _ => false

def holdsTileFiles : FlushWorker → Bool
  | .working .write _ _ | .working .deposit _ _ | .working .finish _ _ => true
  | _ => false

end FlushWorker

namespace SaveRun

variable (config : TileStoreConfig) (self : SaveRun)

def storeStep (call : TileStoreStep) : SaveRun :=
  let store := self.store.step config call
  match self.save with
  | .flushing before =>
    { store, save := if store.flushCall.isIdle then .join before else .flushing before }
  | save => { store, save }

def saveStep (succeeds : Bool) : SaveRun :=
  match self.save with
  | .idle | .flushing _ | .returned _ => self
  | .flush before =>
    if self.store.flushCall.isIdle then
      { store := self.store.flushDirtyTiles config, save := .flushing before }
    else self
  | .join before =>
    if self.store.flushCall.isIdle && self.store.worker.isAbsent then
      { self with save := .testFailed before }
    else self
  | .testFailed before =>
    { self with
      save := if self.store.failedBatch.isEmpty then .assemble before else .returned none }
  | .assemble before =>
    if self.store.worker.holdsTileFiles then self
    else if succeeds then { self with save := .check ⟨before, self.store.filePoints⟩ }
    else { self with save := .returned none }
  | .check session => { self with save := .returned (if succeeds then some session else none) }

def begin : SaveRun :=
  match self.save with
  | .idle | .returned _ =>
    if config.persistentMapEnabled && !self.store.crashed then
      { self with save := .flush self.store.accepted }
    else self
  | _ => self

def step : SaveStep → SaveRun
  | .store call => self.storeStep config call
  | .saveMapSessionAtomic => self.begin config
  | .save succeeds => if self.store.crashed then self else self.saveStep config succeeds

end SaveRun

def sessionSave (config : TileStoreConfig) (layerFiles : TileLayer → String → Option (List Vec3)) :
    Machine SaveRun SaveStep Unit where
  start := { store := { layerFiles } }
  step self call := (self.step config call, ())

abbrev SaveEvent := Event SaveRun SaveStep

end NdtSlam
