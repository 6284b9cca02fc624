import Mathlib.Data.List.Range
import NdtSlam.CleanMap.RebuildJob

/-! How the results of the clean map jobs are handed to the owner thread. -/

namespace NdtSlam

namespace RuntimeOwner

def takesSlot : RuntimeOwner → Bool
  | .takeSlot _ => true
  | _ => false

end RuntimeOwner

namespace JobStarter

def inHand : JobStarter → Option CleanMapWorkerResult
  | .maintenance => none
  | .consumption result _ => some result

end JobStarter

namespace RuntimeOwner

def inHand : RuntimeOwner → Option CleanMapWorkerResult
  | .evaluate result _ | .install result _ | .observe result _ => some result
  | .testRunning starter | .join starter | .takeObservations starter _ | .spawn starter _ _ =>
    starter.inHand
  | _ => none

def starts : RuntimeOwner → Bool
  | .join _ | .takeObservations _ _ | .spawn _ _ _ => true
  | _ => false

end RuntimeOwner

namespace CleanMapRebuild

def waiting (self : CleanMapRebuild) : List (Option Nat) :=
  if self.slotFull then [some self.workerResult.job] else []

def Quiet (self : CleanMapRebuild) : Prop := self.worker = .absent ∨ self.worker = .finished

structure HandedOver (rebuild : CleanMapRebuild) : Prop where
  numbered : rebuild.storedJobs = List.range' 1 rebuild.storedJobs.length
  inOrder : rebuild.consumed ++ rebuild.waiting = rebuild.storedJobs.map some
  settled : rebuild.fates.length + rebuild.owner.inHand.toList.length = rebuild.consumed.length
  layers : rebuild.latestBundle.valid → rebuild.latestBundle.HasLayers

def StartsAfterConsumption (event : RebuildEvent) : Prop :=
  ∀ stamp starter, event.call = .owner stamp → event.before.owner = .testRunning starter →
    event.before.running = false → event.before.slotFull = false

def startsEarly (event : RebuildEvent) : Bool :=
  match event.call, event.before.owner with
  | .owner _, .testRunning _ => !event.before.running && event.before.slotFull
  | _, _ => false

theorem startsEarly_eq_false_iff {event : RebuildEvent} :
    startsEarly event = false ↔ StartsAfterConsumption event := by
  obtain ⟨before, call⟩ := event
  unfold startsEarly StartsAfterConsumption
  constructor
  · intro late stamp starter calls now stopped
    dsimp only at calls now stopped
    simp only [calls, now, stopped, Bool.not_false, Bool.true_and] at late
    exact late
  · intro consumed
    split
    · rename_i stamp starter calls now
      have emptied := consumed stamp starter calls now
      cases running : before.running <;> simp_all
    · rfl

instance (event : RebuildEvent) : Decidable (StartsAfterConsumption event) :=
  decidable_of_iff _ startsEarly_eq_false_iff

def WorkerAgrees (self : CleanMapRebuild) : Prop :=
  match self.worker with
  | .absent => self.running = false ∧ self.resultReady = false ∧ self.slotFull = false ∧
      self.owner.takesSlot = false
  | .building result => self.running = true ∧ self.resultReady = false ∧ self.slotFull = false ∧
      self.owner.takesSlot = false ∧ result.job = self.storedJobs.length + 1 ∧
      result.bundle.HasLayers
  | .stored => self.running = true ∧ self.resultReady = false ∧ self.slotFull = true ∧
      self.owner.takesSlot = false
  | .cleared => self.running = false ∧ self.resultReady = false ∧ self.slotFull = true ∧
      self.owner.takesSlot = false
  | .finished => self.running = false ∧ self.slotFull = (self.resultReady != self.owner.takesSlot) ∧
      (self.resultReady && self.owner.takesSlot) = false

structure Orderly (rebuild : CleanMapRebuild) : Prop extends rebuild.HandedOver where
  worker : rebuild.WorkerAgrees
  slot : rebuild.slotFull → rebuild.workerResult.bundle.HasLayers
  held : ∀ result ∈ rebuild.owner.inHand, result.bundle.HasLayers
  starting : rebuild.owner.starts → rebuild.slotFull = false ∧ rebuild.running = false

/-! ### Where the owner thread goes on -/

variable {self : CleanMapRebuild} (caller : ResultCaller)

@[simp] theorem afterConsumption_takesSlot :
    (afterConsumption caller).takesSlot = false := by
  cases caller <;> rfl

@[simp] theorem afterConsumption_inHand :
    (afterConsumption caller).inHand = none := by
  cases caller <;> rfl

@[simp] theorem afterConsumption_starts :
    (afterConsumption caller).starts = false := by
  cases caller <;> rfl

variable (starter : JobStarter)

@[simp] theorem afterStart_takesSlot :
    (afterStart starter).takesSlot = false := by
  cases starter <;> rfl

@[simp] theorem afterStart_inHand :
    (afterStart starter).inHand = starter.inHand := by
  cases starter <;> rfl

@[simp] theorem afterStart_starts :
    (afterStart starter).starts = false := by
  cases starter <;> rfl

/-! ### Steps -/

section

variable (orderly : self.Orderly)
include orderly

theorem Orderly.elsewhere {rebuildPending maintenancePending requestedFromWorker : Bool}
    {pending : StaticObservations}
    {staticEvidenceEpoch mapRebuildGeneration mapLayerGeneration objectsVersion : Nat}
    {cleanVersion : Nat} {layers : MapLayers} :
    { self with
      rebuildPending, maintenancePending, requestedFromWorker, pending, staticEvidenceEpoch
      mapRebuildGeneration, layers, mapLayerGeneration, objectsVersion, cleanVersion }.Orderly :=
  ⟨⟨orderly.numbered, orderly.inOrder, orderly.settled, orderly.layers⟩, orderly.worker,
    orderly.slot, orderly.held, orderly.starting⟩

theorem Orderly.goOn {owner : RuntimeOwner} (sameTake : owner.takesSlot = self.owner.takesSlot)
    (sameHand : owner.inHand = self.owner.inHand)
    (starting : owner.starts → self.slotFull = false ∧ self.running = false) :
    { self with owner }.Orderly where
  numbered := orderly.numbered
  inOrder := orderly.inOrder
  settled := by simpa [sameHand] using orderly.settled
  layers := orderly.layers
  worker := by
    have agrees := orderly.worker
    unfold WorkerAgrees at agrees ⊢
    simpa [sameTake] using agrees
  slot := orderly.slot
  held := by simpa [sameHand] using orderly.held
  starting := starting

theorem Orderly.withBundle {latestBundle : MapLayerBundle} (layers : latestBundle.HasLayers) :
    { self with latestBundle }.Orderly :=
  ⟨⟨orderly.numbered, orderly.inOrder, orderly.settled, fun _ => layers⟩, orderly.worker,
    orderly.slot, orderly.held, orderly.starting⟩

variable {result : CleanMapWorkerResult}

theorem Orderly.settle (inHand : self.owner.inHand = some result)
    (resting : self.owner.takesSlot = false) (fate : BatchFate) (caller : ResultCaller) :
    { self with fates := self.fates ++ [fate], owner := afterConsumption caller }.Orderly where
  numbered := orderly.numbered
  inOrder := orderly.inOrder
  settled := by
    have settled := orderly.settled
    simp only [inHand, Option.toList_some, List.length_singleton] at settled
    simpa using settled
  layers := orderly.layers
  worker := by
    have agrees := orderly.worker
    unfold WorkerAgrees at agrees ⊢
    simpa [resting] using agrees
  slot := orderly.slot
  held := by simp
  starting := by simp

theorem Orderly.ready (ready : self.resultReady = true) :
    self.worker = .finished ∧ self.slotFull = true ∧ self.running = false := by
  have agrees := orderly.worker
  unfold WorkerAgrees at agrees
  cases working : self.worker <;> simp_all

theorem Orderly.taking (taking : self.owner.takesSlot = true) :
    self.worker = .finished ∧ self.slotFull = true ∧ self.running = false ∧
      self.resultReady = false := by
  have agrees := orderly.worker
  unfold WorkerAgrees at agrees
  cases working : self.worker <;> simp_all

theorem Orderly.quiet (running : self.running = false) (empty : self.slotFull = false)
    (resting : self.owner.takesSlot = false) :
    self.Quiet ∧ self.resultReady = false := by
  have agrees := orderly.worker
  unfold WorkerAgrees at agrees
  cases working : self.worker <;> simp_all [Quiet]

variable {caller : ResultCaller}

theorem Orderly.testReady (now : self.owner = .testReady caller) :
    (self.testReady caller).Orderly := by
  unfold CleanMapRebuild.testReady
  by_cases ready : self.resultReady = true
  · obtain ⟨finished, full, running⟩ := orderly.ready ready
    rw [if_pos ready]
    exact { orderly with
      settled := by
        have settled := orderly.settled
        rw [now] at settled
        exact settled
      worker := by
        simp only [WorkerAgrees, finished]
        exact ⟨running, full, rfl⟩
      held := fun _ held => (Option.not_mem_none _ held).elim
      starting := fun starts => absurd starts Bool.false_ne_true }
  · rw [if_neg ready]
    refine orderly.goOn ?_ ?_ (by simp)
    · rw [afterConsumption_takesSlot, now]
      rfl
    · rw [afterConsumption_inHand, now]
      rfl

theorem Orderly.takeSlot (now : self.owner = .takeSlot caller) :
    (self.takeSlot caller).Orderly := by
  obtain ⟨finished, full, running, lowered⟩ :=
    orderly.taking (by rw [now]; rfl)
  have inOrder := orderly.inOrder
  have settled := orderly.settled
  simp only [waiting, full, if_pos] at inOrder
  rw [now] at settled
  exact { orderly with
    inOrder := by simpa [CleanMapRebuild.takeSlot, waiting, full] using inOrder
    settled := by
      simp only [CleanMapRebuild.takeSlot, List.length_append, List.length_singleton]
      exact congrArg (· + 1) settled
    worker := by
      simp only [CleanMapRebuild.takeSlot, WorkerAgrees, finished, lowered]
      exact ⟨running, rfl, rfl⟩
    slot := nofun
    held := by
      rintro _ ⟨⟩
      exact orderly.slot full
    starting := fun starts => absurd starts Bool.false_ne_true }

theorem Orderly.evaluate (now : self.owner = .evaluate result caller) :
    (self.evaluate result caller).Orderly := by
  have inHand : self.owner.inHand = some result := by rw [now]; rfl
  have resting : self.owner.takesSlot = false := by rw [now]; rfl
  unfold CleanMapRebuild.evaluate
  by_cases discarded : self.discards result = true
  · rw [if_pos discarded]
    exact (orderly.settle inHand resting .restored caller).elsewhere
  · rw [if_neg discarded]
    exact orderly.goOn resting.symm inHand.symm nofun

theorem Orderly.publish (inHand : self.owner.inHand = some result) :
    (self.publish result).Orderly := by
  have layers := orderly.held result (by simp [inHand])
  have published : ({ result.bundle with
      generation := StaticObstacleEvidenceIndex.nextCounter self.mapLayerGeneration
      valid := true } : MapLayerBundle).HasLayers :=
    ⟨layers.registration, layers.display, layers.ground, layers.objects, layers.objectsClean⟩
  exact (orderly.withBundle published).elsewhere

theorem Orderly.install (now : self.owner = .install result caller) :
    (self.install result caller).Orderly := by
  have inHand : self.owner.inHand = some result := by rw [now]; rfl
  have resting : self.owner.takesSlot = false := by rw [now]; rfl
  unfold CleanMapRebuild.install
  split
  · -- The clean layer is current.
    rename_i clean _ _
    have installed : (self.installClean clean).Orderly :=
      orderly.elsewhere
    have published : ((self.installClean clean).publish result).Orderly :=
      installed.publish inHand
    exact published.goOn resting.symm inHand.symm nofun
  · -- The working map has advanced.
    have published : (self.publish result).Orderly := orderly.publish inHand
    have restarting : { self.publish result with
        owner := .testRunning (.consumption result caller) }.Orderly :=
      published.goOn resting.symm inHand.symm nofun
    exact restarting.elsewhere
  · have published : (self.publish result).Orderly := orderly.publish inHand
    exact published.goOn resting.symm inHand.symm nofun

theorem Orderly.observe (now : self.owner = .observe result caller) :
    (self.observe result caller).Orderly := by
  have inHand : self.owner.inHand = some result := by rw [now]; rfl
  have resting : self.owner.takesSlot = false := by rw [now]; rfl
  exact (orderly.settle inHand resting _ caller).elsewhere

theorem Orderly.maintain {deferred : Bool} (now : self.owner = .maintain deferred) :
    (self.maintain deferred).Orderly := by
  have inHand : self.owner.inHand = none := by rw [now]; rfl
  have resting : self.owner.takesSlot = false := by rw [now]; rfl
  have stopped : { self with owner := .idle }.Orderly :=
    orderly.goOn resting.symm inHand.symm nofun
  have restarting : { self with owner := .testRunning .maintenance }.Orderly :=
    orderly.goOn resting.symm inHand.symm nofun
  unfold CleanMapRebuild.maintain
  dsimp only
  split_ifs
  · exact stopped.elsewhere
  · exact restarting.elsewhere
  · exact stopped.elsewhere

variable {starter : JobStarter}

theorem Orderly.testRunning (now : self.owner = .testRunning starter)
    (consumed : self.running = false → self.slotFull = false) :
    (self.testRunning starter).Orderly := by
  have inHand : self.owner.inHand = starter.inHand := by rw [now]; rfl
  have resting : self.owner.takesSlot = false := by rw [now]; rfl
  unfold CleanMapRebuild.testRunning
  by_cases running : self.running = true
  · rw [if_pos running]
    have started : { self with owner := afterStart starter }.Orderly := by
      refine orderly.goOn ?_ ?_ (by simp)
      · rw [afterStart_takesSlot, resting]
      · rw [afterStart_inHand, inHand]
    exact started.elsewhere
  · rw [if_neg running]
    have stopped : self.running = false := by simpa using running
    exact orderly.goOn resting.symm inHand.symm fun _ => ⟨consumed stopped, stopped⟩

theorem Orderly.join (now : self.owner = .join starter) :
    (self.join starter).Orderly := by
  have inHand : self.owner.inHand = starter.inHand := by rw [now]; rfl
  have resting : self.owner.takesSlot = false := by rw [now]; rfl
  have starting := orderly.starting (by rw [now]; rfl)
  have joined : { self with
      owner := .takeObservations starter self.staticEvidenceEpoch }.Orderly :=
    orderly.goOn resting.symm inHand.symm fun _ => starting
  unfold CleanMapRebuild.join
  split
  · exact joined
  · exact joined
  · exact orderly

theorem Orderly.takeObservations {epoch : Nat}
    (now : self.owner = .takeObservations starter epoch) :
    (self.takeObservations starter epoch).Orderly := by
  have inHand : self.owner.inHand = starter.inHand := by rw [now]; rfl
  have resting : self.owner.takesSlot = false := by rw [now]; rfl
  have starting := orderly.starting (by rw [now]; rfl)
  have taken : { self with owner := .spawn starter epoch self.pending }.Orderly :=
    orderly.goOn resting.symm inHand.symm fun _ => starting
  exact taken.elsewhere

theorem Orderly.spawn {epoch : Nat} {observations : StaticObservations}
    (now : self.owner = .spawn starter epoch observations) (stamp : Scalar) :
    (self.spawn starter epoch observations stamp).Orderly := by
  have inHand : self.owner.inHand = starter.inHand := by rw [now]; rfl
  have resting : self.owner.takesSlot = false := by rw [now]; rfl
  obtain ⟨empty, running⟩ := orderly.starting (by rw [now]; rfl)
  obtain ⟨-, lowered⟩ := orderly.quiet running empty resting
  have layers : (self.newJob epoch observations stamp).bundle.HasLayers :=
    ⟨rfl, rfl, rfl, rfl, rfl⟩
  exact { orderly with
    settled := by simpa [CleanMapRebuild.spawn, inHand] using orderly.settled
    worker := ⟨rfl, lowered, empty, afterStart_takesSlot starter, rfl, layers⟩
    held := by simpa [CleanMapRebuild.spawn, inHand] using orderly.held
    starting := by simp [CleanMapRebuild.spawn] }

theorem Orderly.clear {rebuildPending : Option Bool} (now : self.owner = .clear rebuildPending) :
    (self.clear rebuildPending).Orderly := by
  have inHand : self.owner.inHand = none := by rw [now]; rfl
  have resting : self.owner.takesSlot = false := by rw [now]; rfl
  have stopped : { self with owner := .idle }.Orderly :=
    orderly.goOn resting.symm inHand.symm nofun
  exact stopped.elsewhere

theorem Orderly.ownerStep (stamp : Scalar)
    (consumed : ∀ starter, self.owner = .testRunning starter → self.running = false →
      self.slotFull = false) : (self.ownerStep stamp).Orderly := by
  unfold CleanMapRebuild.ownerStep
  split <;> rename_i now
  · exact orderly
  · exact orderly.testReady now
  · exact orderly.takeSlot now
  · exact orderly.evaluate now
  · exact orderly.install now
  · exact orderly.observe now
  · exact orderly.maintain now
  · exact orderly.testRunning now (consumed _ now)
  · exact orderly.join now
  · exact orderly.takeObservations now
  · exact orderly.spawn now stamp
  · exact orderly.clear now

theorem Orderly.storeResult (working : self.worker = .building result) (valid : Bool)
    (cleanCloud : Option (List Vec3)) :
    (self.storeResult (result.finish valid cleanCloud)).Orderly := by
  have agrees := orderly.worker
  simp only [WorkerAgrees, working] at agrees
  obtain ⟨running, lowered, empty, resting, job, layers⟩ := agrees
  have inOrder := orderly.inOrder
  simp only [waiting, empty, Bool.false_eq_true, if_false, List.append_nil] at inOrder
  have finished : (result.finish valid cleanCloud).bundle.HasLayers := by
    refine ⟨layers.registration, layers.display, layers.ground, layers.objects, ?_⟩
    simp only [CleanMapWorkerResult.finish]
    split_ifs with built
    · exact built
    · exact layers.objectsClean
  exact { orderly with
    numbered := by
      simp only [CleanMapRebuild.storeResult, List.length_append, List.length_singleton,
        CleanMapWorkerResult.finish, job]
      rw [List.range'_1_concat, ← orderly.numbered, Nat.add_comm 1]
    inOrder := by
      simpa [CleanMapRebuild.storeResult, waiting, CleanMapWorkerResult.finish] using inOrder
    worker := by simp [CleanMapRebuild.storeResult, WorkerAgrees, running, lowered, resting]
    slot := fun _ => finished
    starting := by
      intro starts
      have stopped : self.running = false := (orderly.starting starts).2
      rw [running] at stopped
      cases stopped }

theorem Orderly.workerStep (valid : Bool) (cleanCloud : Option (List Vec3)) :
    (self.workerStep valid cleanCloud).Orderly := by
  have agrees := orderly.worker
  unfold CleanMapRebuild.workerStep
  split <;> rename_i working
  · exact orderly.storeResult working valid cleanCloud
  · -- The flag is cleared after the result has been stored.
    simp only [WorkerAgrees, working] at agrees
    obtain ⟨running, lowered, full, resting⟩ := agrees
    exact { orderly with
      worker := by simp [WorkerAgrees, lowered, full, resting]
      starting := fun starts => ⟨(orderly.starting starts).1, rfl⟩ }
  · simp only [WorkerAgrees, working] at agrees
    obtain ⟨running, lowered, full, resting⟩ := agrees
    exact { orderly with
      worker := by simp [WorkerAgrees, running, full, resting] }
  · exact orderly
  · exact orderly

theorem Orderly.advanceLifecycle : self.advanceLifecycle.Orderly :=
  orderly.elsewhere

theorem Orderly.replaceLayers (layers : MapLayers) :
    (self.replaceLayers layers).Orderly :=
  orderly.elsewhere

theorem Orderly.sealBundle (stamp : Scalar) :
    (self.sealBundle stamp).Orderly := by
  have layers : ({ self.snapshot stamp with
      generation := StaticObstacleEvidenceIndex.nextCounter self.mapLayerGeneration } :
        MapLayerBundle).HasLayers := ⟨rfl, rfl, rfl, rfl, rfl⟩
  exact (orderly.withBundle layers).elsewhere

theorem Orderly.rebindBundle (stamp : Scalar) :
    (self.rebindBundle stamp).Orderly := by
  unfold CleanMapRebuild.rebindBundle
  by_cases valid : self.latestBundle.valid = true
  · rw [if_pos valid]
    have layers := orderly.layers valid
    exact orderly.withBundle
      ⟨layers.registration, layers.display, layers.ground, layers.objects, layers.objectsClean⟩
  · rw [if_neg valid]
    exact orderly

theorem Orderly.advanceStaticEvidenceEpoch (now : self.owner = .idle)
    (rebuildPending : Option Bool) :
    (self.advanceStaticEvidenceEpoch rebuildPending).Orderly := by
  have inHand : self.owner.inHand = none := by rw [now]; rfl
  have resting : self.owner.takesSlot = false := by rw [now]; rfl
  have clearing : { self with owner := .clear rebuildPending }.Orderly :=
    orderly.goOn resting.symm inHand.symm nofun
  exact clearing.elsewhere

theorem Orderly.whenIdle {changed : CleanMapRebuild} (free : self.owner = .idle → changed.Orderly) :
    (self.whenIdle changed).Orderly := by
  unfold CleanMapRebuild.whenIdle
  split
  · rename_i now
    exact free now
  · exact orderly

theorem Orderly.step (call : RebuildStep) (consumed : StartsAfterConsumption ⟨self, call⟩) :
    (self.step call).Orderly := by
  cases call with
  | consumeCleanMapRebuildResult | runMapMaintenanceIfIdle =>
    refine orderly.whenIdle fun now => orderly.goOn ?_ ?_ nofun
    · rw [now]
      rfl
    · rw [now]
      rfl
  | owner stamp =>
    exact orderly.ownerStep stamp fun starter now stopped => consumed stamp starter rfl now stopped
  | worker valid cleanCloud => exact orderly.workerStep valid cleanCloud
  | commitKeyFrame freeCells occupiedCells =>
    exact orderly.elsewhere
  | changeMap layers => exact orderly.replaceLayers layers
  | requestMapMaintenance =>
    exact orderly.elsewhere
  | requestFromWorker =>
    exact orderly.elsewhere
  | resetService =>
    refine orderly.whenIdle fun now => ?_
    exact ((orderly.advanceLifecycle.replaceLayers {}).sealBundle 0).advanceStaticEvidenceEpoch
      now (some false)
  | installLoadedRuntimeMap layers stamp =>
    refine orderly.whenIdle fun now => ?_
    exact ((orderly.advanceLifecycle.replaceLayers layers).sealBundle
      stamp).advanceStaticEvidenceEpoch now (some false)
  | rebuildMapService =>
    exact orderly.whenIdle fun now => orderly.advanceLifecycle.advanceStaticEvidenceEpoch now none
  | updatePoseFromLoopClosure =>
    exact orderly.whenIdle fun now => orderly.advanceStaticEvidenceEpoch now (some true)
  | handleLidarTimeRollback stamp =>
    exact orderly.whenIdle fun _ => orderly.advanceLifecycle.rebindBundle stamp

end

theorem orderly_start : cleanMapRebuild.start.Orderly where
  numbered := rfl
  inOrder := rfl
  settled := rfl
  layers := by simp [cleanMapRebuild]
  worker := ⟨rfl, rfl, rfl, rfl⟩
  slot := by simp [cleanMapRebuild]
  held := fun _ held => (Option.not_mem_none _ held).elim
  starting := fun starts => absurd starts Bool.false_ne_true

theorem orderly_run {calls : List RebuildStep}
    (consumed : ∀ event ∈ cleanMapRebuild.trace calls, StartsAfterConsumption event) :
    (cleanMapRebuild.run calls).Orderly := by
  -- Each step keeps the order that the earlier ones have left.
  induction calls with
  | nil => exact orderly_start
  | cons call older ih =>
    obtain ⟨latest, earlier⟩ := List.forall_mem_cons.mp consumed
    exact (ih earlier).step call latest

theorem Orderly.consume (orderly : self.Orderly) (now : self.owner = .idle) (quiet : self.Quiet)
    (stamp : Scalar) :
    (((self.step .consumeCleanMapRebuildResult).step (.owner stamp)).step
      (.owner stamp)).consumed = self.storedJobs.map some := by
  have inOrder := orderly.inOrder
  have agrees := orderly.worker
  have waits : self.slotFull = self.resultReady := by
    rcases quiet with absent | finished
    · simp only [WorkerAgrees, absent] at agrees
      rw [agrees.2.1, agrees.2.2.1]
    · simp only [WorkerAgrees, finished, now, RuntimeOwner.takesSlot, Bool.bne_false] at agrees
      exact agrees.2.1
  -- The flag is set exactly where a result waits.
  by_cases ready : self.resultReady = true
  · have full : self.slotFull = true := waits.trans ready
    simpa [CleanMapRebuild.step, CleanMapRebuild.whenIdle, now, CleanMapRebuild.ownerStep,
      CleanMapRebuild.testReady, CleanMapRebuild.takeSlot, ready, full, waiting] using inOrder
  · have empty : self.slotFull = false := by simpa [waits] using ready
    simpa [CleanMapRebuild.step, CleanMapRebuild.whenIdle, now, CleanMapRebuild.ownerStep,
      CleanMapRebuild.testReady, ready, empty, waiting, afterConsumption] using inOrder

/-- As long as jobs are started after consumptions, every result is handed over exactly once. -/
theorem results_handed_over {calls : List RebuildStep}
    (consumed : ∀ event ∈ cleanMapRebuild.trace calls, StartsAfterConsumption event) :
    (cleanMapRebuild.run calls).HandedOver ∧
      ((cleanMapRebuild.run calls).owner = .idle → (cleanMapRebuild.run calls).Quiet →
        ∀ stamp, (cleanMapRebuild.run (.owner stamp :: .owner stamp ::
          .consumeCleanMapRebuildResult :: calls)).consumed =
            (cleanMapRebuild.run calls).storedJobs.map some) := by
  have orderly := orderly_run consumed
  exact ⟨orderly.toHandedOver, fun now quiet stamp => orderly.consume now quiet stamp⟩

def undisturbedJob : List RebuildStep :=
  [.owner 1, .owner 1, .owner 1, .owner 1, .owner 1, .consumeCleanMapRebuildResult,
    .worker true none, .worker true none, .worker true none,
    .owner 1, .owner 1, .owner 1, .owner 1, .owner 1, .owner 1, .runMapMaintenanceIfIdle false,
    .requestMapMaintenance]

theorem undisturbed_job_handed_over :
    (cleanMapRebuild.run undisturbedJob).HandedOver ∧
      (cleanMapRebuild.run undisturbedJob).consumed = [some 1] :=
  ⟨(results_handed_over (by decide)).1, rfl⟩

def overtakenJob : List RebuildStep :=
  [ -- The owner thread finds the slot ready once more.
    .owner 1, .owner 1, .owner 1, .owner 1, .consumeCleanMapRebuildResult,
    .worker true none, .worker true none,
    .owner 1, .owner 1, .owner 1, .owner 1,
    -- The second worker stores its result between the test of the flag and the move.
    .worker true none, .owner 1, .consumeCleanMapRebuildResult,
    .owner 1, .owner 1, .owner 1, .worker true none, .owner 1, .owner 1,
    -- The first worker stores its result after the owner thread has looked for one.
    .worker true none, .worker true none, .owner 1, .runMapMaintenanceIfIdle false,
    .requestMapMaintenance,
    .owner 1, .owner 1, .owner 1, .owner 1, .owner 1, .owner 1, .runMapMaintenanceIfIdle false,
    .requestMapMaintenance]

theorem overtaken_job_loses_result :
    (cleanMapRebuild.run overtakenJob).storedJobs = [1, 2] ∧
      (cleanMapRebuild.run overtakenJob).consumed = [some 2, none] ∧
      ¬(cleanMapRebuild.run overtakenJob).HandedOver := by
  refine ⟨rfl, rfl, fun handedOver => ?_⟩
  have layers := handedOver.layers (by decide)
  exact absurd layers.objects (by decide)

end CleanMapRebuild
end NdtSlam
