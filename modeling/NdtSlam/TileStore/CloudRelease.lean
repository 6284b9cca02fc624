import NdtSlam.TileStore.SessionSave

/-! The release of old keyframe clouds, which reads three places while points move among them. -/

namespace NdtSlam

abbrev OldLayers := TileLayer → String → Bool

def OldLayers.none : OldLayers := fun _ _ => false

/--
Where the points are that had been handed over when a release began.

The code does not keep this, since its clouds do not tell where a point comes from.
-/
structure OldPoints where
  dirty : OldLayers := .none
  batch : OldLayers := .none
  work : OldLayers := .none
  failed : OldLayers := .none

inductive ReleaseCall where
  | idle
  | readFailed
  | readDirty (failedBatchPending : Bool)
  | readRunning (failedBatchPending : Bool)
  | proceeds
  deriving DecidableEq

structure ReleaseRun where
  store : TileStore
  release : ReleaseCall := .idle
  old : OldPoints := {}

inductive ReleaseStep where
  | store (call : TileStoreStep)
  | releaseOldKeyframeClouds
  | release

def TileStoreConfig.renews (config : TileStoreConfig) (tiles : TileMap) (points : List Vec3)
    (key : String) : Bool :=
  config.accepts && (tiles[key]?.bind (· .registration)).isNone &&
    points.any fun point => config.pointAllowed point && config.tileKeyFor point == key

namespace OldPoints

def ofStore (store : TileStore) : OldPoints :=
  { dirty := fun layer key => !(store.dirtyTiles.points layer key).isEmpty
    batch := fun layer key => !(store.flushCall.batch layer key).isEmpty
    work := fun layer key => !(store.worker.batch layer key).isEmpty
    failed := fun layer key => !(store.failedBatch.points layer key).isEmpty }

def step (config : TileStoreConfig) (store : TileStore) (old : OldPoints) :
    TileStoreStep → OldPoints
  | .appendPersistentTileLayers registration ground objects =>
    { old with dirty := fun layer key => old.dirty layer key &&
        !config.renews store.dirtyTiles (registration ++ ground ++ objects) key }
  | .flush _ =>
    match store.flushCall with
    | .drain _ =>
      { old with
        dirty := fun layer key => old.dirty layer key || old.failed layer key, failed := .none }
    | .swap persist =>
      if store.dirtyTiles.isEmpty && !persist then old
      else { old with batch := old.dirty, dirty := .none }
    | .spawn _ _ => { old with work := old.batch, batch := .none }
    | _ => old
  | .worker _ =>
    match store.worker with
    | .working .deposit _ work =>
      { old with failed := fun layer key =>
          if key ∈ work.failedLayers then
            old.work layer key && !(work.failedLayers.points layer key).isEmpty
          else old.failed layer key }
    | .working .finish _ _ => { old with work := .none }
    | .working .requeue _ work =>
      { old with
        failed := fun layer key =>
          if key ∈ work.batch then old.work layer key else old.failed layer key
        work := .none }
    | _ => old
  | _ => old

/-- No old point is in memory. -/
structure NoneLeft (old : OldPoints) : Prop where
  dirty : ∀ layer key, old.dirty layer key = false
  batch : ∀ layer key, old.batch layer key = false
  work : ∀ layer key, old.work layer key = false
  failed : ∀ layer key, old.failed layer key = false

end OldPoints

namespace ReleaseRun

variable (config : TileStoreConfig) (maxActiveKeyframes : Int) (self : ReleaseRun)

def storeStep (call : TileStoreStep) : ReleaseRun :=
  { self with
    store := self.store.step config call
    old := if self.store.crashed then self.old else self.old.step config self.store call }

def begin : ReleaseRun :=
  match self.release with
  | .idle | .proceeds =>
    if 0 < maxActiveKeyframes && config.persistentMapEnabled && !self.store.crashed then
      { self with release := .readFailed, old := .ofStore self.store }
    else self
  | _ => self

def releaseStep : ReleaseRun :=
  match self.release with
  | .idle | .proceeds => self
  | .readFailed => { self with release := .readDirty !self.store.failedBatch.isEmpty }
  | .readDirty failedBatchPending =>
    if 0 < self.store.dirtyTiles.size then { self with release := .idle }
    else { self with release := .readRunning failedBatchPending }
  | .readRunning failedBatchPending =>
    if self.store.running || failedBatchPending then { self with release := .idle }
    else { self with release := .proceeds }

def step : ReleaseStep → ReleaseRun
  | .store call => self.storeStep config call
  | .releaseOldKeyframeClouds => self.begin config maxActiveKeyframes
  | .release => if self.store.crashed then self else self.releaseStep

end ReleaseRun

def cloudRelease (config : TileStoreConfig) (maxActiveKeyframes : Int)
    (layerFiles : TileLayer → String → Option (List Vec3)) :
    Machine ReleaseRun ReleaseStep Unit where
  start := { store := { layerFiles } }
  step self call := (self.step config maxActiveKeyframes call, ())

abbrev ReleaseEvent := Event ReleaseRun ReleaseStep

/-! ### The flag of the worker -/

namespace TileStore

variable {config : TileStoreConfig} {self : TileStore}

structure Flagged (store : TileStore) : Prop where
  worker : store.worker.isAbsent = false → store.running = true
  spawn : ∀ persist batch, store.flushCall = .spawn persist batch → store.running = true
  apart : store.flushCall.afterJoin → store.worker.isAbsent = true

theorem Flagged.absent (flagged : self.Flagged) (stopped : self.running = false) :
    self.worker = .absent := by
  have gone : self.worker.isAbsent = true := by
    by_contra present
    have running := flagged.worker (Bool.eq_false_of_not_eq_true present)
    rw [stopped] at running
    cases running
  unfold FlushWorker.isAbsent at gone
  split at gone
  · assumption
  · exact absurd gone Bool.false_ne_true

theorem Flagged.same {next : TileStore} (flagged : self.Flagged)
    (call : next.flushCall = self.flushCall)
    (worker : next.worker.isAbsent = self.worker.isAbsent)
    (running : next.running = self.running) : next.Flagged :=
  ⟨by rw [worker, running]; exact flagged.worker, by rw [call, running]; exact flagged.spawn,
    by rw [call, worker]; exact flagged.apart⟩

theorem writeLayer_flag {persist : Bool} {work : FlushWork} {slot : TileSlot}
    {rest : List TileSlot} {result : WorkerResult} :
    (self.writeLayer persist work slot rest result).running = self.running ∧
      (self.writeLayer persist work slot rest result).worker.isAbsent = false := by
  unfold writeLayer
  simp only
  split_ifs
  · exact ⟨rfl, rfl⟩
  · cases result <;> exact ⟨rfl, rfl⟩

theorem writeLayer_batch {persist : Bool} {work : FlushWork} {slot : TileSlot}
    {rest : List TileSlot} {result : WorkerResult} {layer : TileLayer} {key : String} :
    (self.writeLayer persist work slot rest result).worker.batch layer key =
      work.batch.points layer key := by
  -- What is left to write changes, and what was given does not.
  unfold writeLayer
  simp only
  split_ifs
  · rfl
  · cases result <;> rfl

theorem workerStep_working {phase : WorkerPhase} {persist : Bool} {work : FlushWork}
    {result : WorkerResult} (working : self.worker = .working phase persist work) :
    (self.workerStep result).running = self.running ∧
      (self.workerStep result).worker.isAbsent = false := by
  -- Only the last step of a worker is one without work.
  unfold workerStep
  rw [working]
  cases phase with
  | write =>
    simp only
    split
    · exact ⟨rfl, rfl⟩
    · exact writeLayer_flag
  | _ => exact ⟨rfl, rfl⟩

theorem Flagged.work (flagged : self.Flagged) (result : WorkerResult) :
    (self.workerStep result).Flagged := by
  -- The flag goes down together with the worker.
  have call := @workerStep_flushCall self result
  cases worker : self.worker with
  | absent =>
    have still : self.workerStep result = self := by
      unfold workerStep
      rw [worker]
    rw [still]
    exact flagged
  | clearRunning =>
    -- No flush call is waiting to use the flag, since it would have seen the worker end.
    have waits : ¬self.flushCall.afterJoin := fun joined => by
      have absent := flagged.apart joined
      rw [worker] at absent
      cases absent
    have ended : (self.workerStep result).worker = .absent := by
      unfold workerStep
      rw [worker]
    refine ⟨fun present => ?_, fun persist batch spawning => ?_, fun _ => by rw [ended]; rfl⟩
    · rw [ended] at present
      cases present
    · rw [call] at spawning
      exact absurd (by rw [spawning]; trivial) waits
  | working phase persist work =>
    obtain ⟨running, present⟩ := @workerStep_working self phase persist work result worker
    exact flagged.same call (by rw [present, worker]; rfl) running

theorem Flagged.flush (flagged : self.Flagged) (diskGuard : Bool) :
    (self.flushStep diskGuard).Flagged := by
  -- A worker is started behind the flag, when the last one has ended.
  unfold flushStep giveUp
  cases at_ : self.flushCall with
  | idle => exact flagged
  | drain persist => exact ⟨flagged.worker, by simp, fun joined => joined.elim⟩
  | testRunning persist =>
    simp only
    split_ifs <;> exact ⟨flagged.worker, by simp, fun joined => joined.elim⟩
  | diskGuard persist =>
    simp only
    split_ifs <;> exact ⟨flagged.worker, by simp, fun joined => joined.elim⟩
  | join persist =>
    simp only
    split
    · rename_i absent
      exact ⟨flagged.worker, by simp, fun _ => by rw [absent]; rfl⟩
    · exact flagged
  | swap persist =>
    have absent := flagged.apart (by rw [at_]; trivial)
    simp only
    split_ifs
    · exact ⟨flagged.worker, by simp, fun joined => joined.elim⟩
    · exact ⟨flagged.worker, by simp, fun _ => absent⟩
  | setRunning persist batch =>
    have absent := flagged.apart (by rw [at_]; trivial)
    exact ⟨fun _ => rfl, fun _ _ _ => rfl, fun _ => absent⟩
  | spawn persist batch =>
    have running := flagged.spawn persist batch at_
    exact ⟨fun _ => running, by simp, fun joined => joined.elim⟩

theorem Flagged.step (flagged : self.Flagged) (call : TileStoreStep) :
    (self.step config call).Flagged := by
  -- Appending and marking touch neither call nor worker.
  unfold TileStore.step
  split_ifs
  · exact flagged
  · cases call with
    | appendPersistentTileLayers registration ground objects =>
      simp only
      unfold TileStore.appendPersistentTileLayers
      split_ifs
      · split
        · exact flagged.same rfl rfl rfl
        · exact ⟨by simp [crash, FlushWorker.isAbsent], by simp [crash], fun _ => rfl⟩
      · exact flagged
    | markStaticEvidence => exact flagged.same rfl rfl rfl
    | flushDirtyTiles =>
      simp only
      unfold TileStore.flushDirtyTiles
      split_ifs
      · split
        · exact ⟨flagged.worker, by simp, fun joined => joined.elim⟩
        · exact flagged
      · exact flagged
    | flush diskGuard => exact flagged.flush diskGuard
    | worker result => exact flagged.work result
    | workerThrows =>
      simp only
      unfold workerThrows
      split
      · exact flagged
      · rename_i working
        exact flagged.same rfl (by rw [working]; rfl) rfl
      · exact flagged

end TileStore

end NdtSlam
