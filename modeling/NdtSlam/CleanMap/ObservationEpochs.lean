import NdtSlam.CleanMap.RebuildHandover
import NdtSlam.Foundation.KeyedFold

/-! The epoch of the static evidence in which the observations of a clean build were made. -/

namespace NdtSlam

/-! ### Sets and tables of cells -/

variable {key : Int} {keys : List Int}

theorem mem_foldl_insert {cells : CellKeySet} :
    key ∈ keys.foldl (·.insert ·) cells ↔ key ∈ keys ∨ key ∈ cells := by
  -- Every key of the list is one insertion.
  induction keys generalizing cells with
  | nil => simp
  | cons head rest ih =>
    rw [List.foldl_cons, ih, Std.ExtTreeSet.mem_insert, List.mem_cons, compare_eq_iff_eq,
      @eq_comm _ head, or_assoc, or_left_comm]

theorem mem_foldl_erase {cells : CellKeySet} :
    key ∈ keys.foldl (·.erase ·) cells ↔ key ∈ cells ∧ key ∉ keys := by
  induction keys generalizing cells with
  | nil => simp
  | cons head rest ih =>
    rw [List.foldl_cons, ih, Std.ExtTreeSet.mem_erase, List.mem_cons, ne_eq, compare_eq_iff_eq,
      @eq_comm _ head, not_or]
    tauto

theorem getElem?_foldl_erase {cells : CellMap StaticEvidenceCellGeometry} :
    (keys.foldl (·.erase ·) cells)[key]? = if key ∈ keys then none else cells[key]? := by
  induction keys generalizing cells with
  | nil => rfl
  | cons head rest ih =>
    rw [List.foldl_cons, ih, Std.ExtTreeMap.getElem?_erase]
    by_cases own : key = head
    · simp [own]
    · simp [own, Ne.symm own]

variable {cells : CellMap StaticEvidenceCellGeometry}

theorem mem_of_mem_foldl_eraseEntry
    (member : key ∈ keys.foldl (·.erase ·) cells) : key ∈ cells := by
  rw [Std.ExtTreeMap.mem_iff_isSome_getElem?, getElem?_foldl_erase] at member
  split_ifs at member
  · cases member
  · rwa [Std.ExtTreeMap.mem_iff_isSome_getElem?]

namespace StaticObservations

theorem mem_mergeHeights {item : Int × StaticEvidenceCellGeometry}
    (member : key ∈ mergeHeights cells item) : key = item.1 ∨ key ∈ cells := by
  unfold mergeHeights at member
  split at member <;>
  · rcases Std.ExtTreeMap.mem_insert.mp member with same | older
    · exact .inl (compare_eq_iff_eq.mp same).symm
    · exact .inr older

theorem mem_foldl_mergeHeights {items : List (Int × StaticEvidenceCellGeometry)}
    (member : key ∈ items.foldl mergeHeights cells) : key ∈ items.map (·.1) ∨ key ∈ cells :=
  @foldl_adds _ _ _ (·.1) mergeHeights key items (· ∈ ·)
    (fun _ _ _ inside => mem_mergeHeights inside) cells member

structure SeenIn (observations : StaticObservations) (epoch : Nat) : Prop where
  traced : ∀ key, key ∈ observations.observable ↔ ∃ seen, (key, seen) ∈ observations.origins
  observed : ∀ key ∈ observations.observed, key ∈ observations.observable
  free : ∀ key ∈ observations.free, key ∈ observations.observable
  dated : ∀ origin ∈ observations.origins, origin.2 = epoch

theorem seenIn_empty (epoch : Nat) : ({} : StaticObservations).SeenIn epoch where
  traced := by simp
  observed := by simp
  free := by simp
  dated := by simp

variable {self batch : StaticObservations} {epoch : Nat}

theorem SeenIn.of_nothing (seen : self.SeenIn epoch) (nothing : ¬∃ key, key ∈ self.observable)
    (other : Nat) : self.SeenIn other where
  traced := seen.traced
  observed := seen.observed
  free := seen.free
  dated := by
    rintro ⟨key, date⟩ member
    exact absurd ⟨key, (seen.traced key).mpr ⟨date, member⟩⟩ nothing

theorem SeenIn.addCommit (seen : self.SeenIn epoch) (freeCells : List Int)
    (occupiedCells : List (Int × StaticEvidenceCellGeometry)) :
    (self.addCommit epoch freeCells occupiedCells).SeenIn epoch where
  traced key := by
    simp only [StaticObservations.addCommit, mem_foldl_insert, seen.traced, List.mem_append,
      List.mem_map, Prod.mk.injEq]
    constructor
    · rintro (fresh | ⟨date, older⟩)
      · exact ⟨epoch, .inl ⟨key, fresh, rfl, rfl⟩⟩
      · exact ⟨date, .inr older⟩
    · rintro ⟨date, ⟨other, fresh, rfl, -⟩ | older⟩
      · exact .inl fresh
      · exact .inr ⟨date, older⟩
  observed key member := by
    simp only [StaticObservations.addCommit] at member ⊢
    rw [mem_foldl_insert, List.mem_append]
    rcases mem_foldl_mergeHeights member with fresh | older
    · exact .inl (.inr fresh)
    · exact .inr (seen.observed key (mem_of_mem_foldl_eraseEntry older))
  free key member := by
    simp only [StaticObservations.addCommit] at member ⊢
    rw [mem_foldl_insert, List.mem_append]
    rcases mem_foldl_insert.1 (mem_foldl_erase.1 member).1 with fresh | older
    · exact .inl (.inl fresh)
    · exact .inr (seen.free key older)
  dated origin member := by
    simp only [StaticObservations.addCommit, List.mem_append, List.mem_map] at member
    rcases member with ⟨key, -, rfl⟩ | older
    · rfl
    · exact seen.dated origin older

theorem SeenIn.restore (seen : self.SeenIn epoch) (returned : batch.SeenIn epoch) :
    (self.restore batch).SeenIn epoch where
  traced key := by
    simp only [StaticObservations.restore, mem_foldl_insert, Std.ExtTreeSet.mem_toList,
      seen.traced, returned.traced, List.mem_append]
    constructor
    · rintro (⟨date, member⟩ | ⟨date, member⟩)
      · exact ⟨date, .inr member⟩
      · exact ⟨date, .inl member⟩
    · rintro ⟨date, member | member⟩
      · exact .inr ⟨date, member⟩
      · exact .inl ⟨date, member⟩
  observed key member := by
    simp only [StaticObservations.restore, mem_foldl_insert, Std.ExtTreeSet.mem_toList] at member ⊢
    -- An item is merged unless its cell has been seen free since.
    have entered := @foldl_adds _ _ _ (·.1) _ key _ (· ∈ ·) (fun cells item other inside => by
      split_ifs at inside
      · exact .inr inside
      · exact mem_mergeHeights inside) _ member
    rw [Std.ExtTreeMap.map_fst_toList_eq_keys, Std.ExtTreeMap.mem_keys] at entered
    exact entered.imp (returned.observed key) (seen.observed key)
  free key member := by
    simp only [StaticObservations.restore, mem_foldl_insert, Std.ExtTreeSet.mem_toList] at member ⊢
    have entered := @foldl_adds _ _ _ id _ key _ (· ∈ ·) (fun cells item other inside => by
      split_ifs at inside
      · exact .inr inside
      · rcases Std.ExtTreeSet.mem_insert.mp inside with same | older
        · exact .inl (compare_eq_iff_eq.mp same).symm
        · exact .inr older) _ member
    rw [List.map_id, Std.ExtTreeSet.mem_toList] at entered
    exact entered.imp (returned.free key) (seen.free key)
  dated origin member := by
    rcases List.mem_append.mp member with older | restored
    · exact seen.dated origin older
    · exact returned.dated origin restored

end StaticObservations

/-! ### What a run passes on and gives back -/

namespace RuntimeOwner

def collects : RuntimeOwner → Bool
  | .takeObservations _ _ | .spawn _ _ _ | .clear _ => true
  | _ => false

end RuntimeOwner

namespace CleanMapRebuild

def givenBack (event : RebuildEvent) : Option StaticObservations :=
  match event.call, event.before.owner with
  | .owner _, .evaluate result _ =>
    if event.before.discards result then some result.observations else none
  | _, _ => none

structure EpochKept (event : RebuildEvent) : Prop where
  passedOn : ∀ build origins, event.before.passedOn event.call = some (build, origins) →
    (∀ key, key ∈ build.occupiedCells ∨ key ∈ build.observableCells ∨
      key ∈ build.observedFreeCells → (key, build.mapGeneration) ∈ origins) ∧
    ∀ origin ∈ origins, origin.2 = build.mapGeneration
  givenBack : ∀ batch, givenBack event = some batch →
    ∀ origin ∈ batch.origins, origin.2 = event.before.staticEvidenceEpoch

/-- A discarded build that holds observations was started in the current epoch. -/
def DiscardsInItsEpoch (event : RebuildEvent) : Prop :=
  ∀ stamp result caller, event.call = .owner stamp →
    event.before.owner = .evaluate result caller → event.before.discards result = true →
      ∀ key ∈ result.observations.observable,
        result.staticEvidenceEpoch = event.before.staticEvidenceEpoch

structure EpochsAgree (rebuild : CleanMapRebuild) : Prop where
  pending : (∀ request, rebuild.owner ≠ .clear request) →
    rebuild.pending.SeenIn rebuild.staticEvidenceEpoch
  slot : rebuild.workerResult.observations.SeenIn rebuild.workerResult.staticEvidenceEpoch
  working : ∀ result, rebuild.worker = .building result →
    result.observations.SeenIn result.staticEvidenceEpoch
  inHand : ∀ result ∈ rebuild.owner.inHand,
    result.observations.SeenIn result.staticEvidenceEpoch
  taking : ∀ starter epoch, rebuild.owner = .takeObservations starter epoch →
    epoch = rebuild.staticEvidenceEpoch
  spawning : ∀ starter epoch observations, rebuild.owner = .spawn starter epoch observations →
    observations.SeenIn epoch

variable {self : CleanMapRebuild}

theorem EpochsAgree.elsewhere (agree : self.EpochsAgree)
    {resultReady running rebuildPending maintenancePending requestedFromWorker slotFull : Bool}
    {mapRebuildGeneration mapLayerGeneration objectsVersion cleanVersion : Nat}
    {layers : MapLayers} {latestBundle : MapLayerBundle} {storedJobs : List Nat}
    {consumed : List (Option Nat)} {fates : List BatchFate} :
    { self with
      resultReady, running, rebuildPending, maintenancePending, requestedFromWorker, slotFull
      mapRebuildGeneration, mapLayerGeneration, objectsVersion, cleanVersion, layers
      latestBundle, storedJobs, consumed, fates }.EpochsAgree :=
  ⟨agree.pending, agree.slot, agree.working, agree.inHand, agree.taking, agree.spawning⟩

theorem EpochsAgree.goOn (agree : self.EpochsAgree) {owner : RuntimeOwner}
    (steady : ∀ request, self.owner ≠ .clear request)
    (sameHand : ∀ result ∈ owner.inHand, result ∈ self.owner.inHand)
    (plain : owner.collects = false) : { self with owner }.EpochsAgree where
  pending _ := agree.pending steady
  slot := agree.slot
  working := agree.working
  inHand result held := agree.inHand result (sameHand result held)
  taking starter epoch now := by
    rw [show owner = _ from now] at plain
    cases plain
  spawning starter epoch observations now := by
    rw [show owner = _ from now] at plain
    cases plain

theorem EpochsAgree.letGo (agree : self.EpochsAgree) {owner : RuntimeOwner}
    (steady : ∀ request, self.owner ≠ .clear request) (nothing : owner.inHand = none)
    (plain : owner.collects = false) : { self with owner }.EpochsAgree :=
  agree.goOn steady (by simp [nothing]) plain

@[simp] theorem afterConsumption_collects (caller : ResultCaller) :
    (afterConsumption caller).collects = false := by
  cases caller <;> rfl

@[simp] theorem afterStart_collects (starter : JobStarter) :
    (afterStart starter).collects = false := by
  cases starter <;> rfl

variable {caller : ResultCaller}

section

variable (agree : self.EpochsAgree)
include agree

theorem EpochsAgree.takeSlot (now : self.owner = .takeSlot caller) :
    (self.takeSlot caller).EpochsAgree where
  pending _ := agree.pending (by simp [now])
  slot := StaticObservations.seenIn_empty _
  working := agree.working
  inHand := by
    rintro _ ⟨⟩
    exact agree.slot
  taking := by simp [CleanMapRebuild.takeSlot]
  spawning := by simp [CleanMapRebuild.takeSlot]

theorem EpochsAgree.evaluate {result : CleanMapWorkerResult}
    (now : self.owner = .evaluate result caller)
    (fitting : self.discards result = true → ∀ key ∈ result.observations.observable,
      result.staticEvidenceEpoch = self.staticEvidenceEpoch) :
    (self.evaluate result caller).EpochsAgree := by
  have inHand := agree.inHand result (by rw [now]; rfl)
  have pending := agree.pending (by simp [now])
  unfold CleanMapRebuild.evaluate
  by_cases discarded : self.discards result = true
  · rw [if_pos discarded]
    have returned : result.observations.SeenIn self.staticEvidenceEpoch := by
      by_cases nothing : ∃ key, key ∈ result.observations.observable
      · obtain ⟨key, member⟩ := nothing
        exact fitting discarded key member ▸ inHand
      · exact inHand.of_nothing nothing _
    exact { agree with
      pending := fun _ => pending.restore returned
      inHand := by simp
      taking := by cases caller <;> simp [afterConsumption]
      spawning := by cases caller <;> simp [afterConsumption] }
  · rw [if_neg discarded]
    exact agree.goOn (by simp [now]) (by rw [now]; exact fun _ => id) rfl

theorem EpochsAgree.install {result : CleanMapWorkerResult}
    (now : self.owner = .install result caller) :
    (self.install result caller).EpochsAgree := by
  have observing : { self with owner := .observe result caller }.EpochsAgree :=
    agree.goOn (by simp [now]) (by rw [now]; exact fun _ => id) rfl
  have restarting : { self with
      owner := .testRunning (.consumption result caller) }.EpochsAgree :=
    agree.goOn (by simp [now]) (by rw [now]; exact fun _ => id) rfl
  unfold CleanMapRebuild.install
  split
  · exact observing.elsewhere
  · exact restarting.elsewhere
  · exact observing.elsewhere

theorem EpochsAgree.maintain {deferred : Bool} (now : self.owner = .maintain deferred) :
    (self.maintain deferred).EpochsAgree := by
  have stopped : { self with owner := .idle }.EpochsAgree :=
    agree.letGo (by simp [now]) rfl rfl
  have restarting : { self with owner := .testRunning .maintenance }.EpochsAgree :=
    agree.letGo (by simp [now]) rfl rfl
  unfold CleanMapRebuild.maintain
  dsimp only
  split_ifs
  · exact stopped.elsewhere
  · exact restarting.elsewhere
  · exact stopped.elsewhere

variable {starter : JobStarter}

theorem EpochsAgree.testRunning (now : self.owner = .testRunning starter) :
    (self.testRunning starter).EpochsAgree := by
  have inHand : self.owner.inHand = starter.inHand := by rw [now]; rfl
  have started : { self with owner := afterStart starter }.EpochsAgree :=
    agree.goOn (by simp [now]) (by simp [inHand]) (by simp)
  have joining : { self with owner := .join starter }.EpochsAgree :=
    agree.goOn (by simp [now]) (by rw [now]; exact fun _ => id) rfl
  unfold CleanMapRebuild.testRunning
  split_ifs
  · exact started.elsewhere
  · exact joining

theorem EpochsAgree.join (now : self.owner = .join starter) :
    (self.join starter).EpochsAgree := by
  have joined : { self with
      owner := .takeObservations starter self.staticEvidenceEpoch }.EpochsAgree := { agree with
    pending := fun _ => agree.pending (by simp [now])
    inHand := by
      have inHand := agree.inHand
      rw [now] at inHand
      exact inHand
    taking := by simp
    spawning := by simp }
  unfold CleanMapRebuild.join
  split
  · exact joined
  · exact joined
  · exact agree

theorem EpochsAgree.takeObservations {epoch : Nat}
    (now : self.owner = .takeObservations starter epoch) :
    (self.takeObservations starter epoch).EpochsAgree where
  pending _ := StaticObservations.seenIn_empty _
  slot := agree.slot
  working := agree.working
  inHand := by
    have inHand := agree.inHand
    rw [now] at inHand
    exact inHand
  taking := by simp [CleanMapRebuild.takeObservations]
  spawning := by
    simp only [CleanMapRebuild.takeObservations, RuntimeOwner.spawn.injEq]
    rintro _ _ _ ⟨-, rfl, rfl⟩
    rw [agree.taking starter epoch now]
    exact agree.pending (by simp [now])

theorem EpochsAgree.spawn {epoch : Nat} {observations : StaticObservations}
    (now : self.owner = .spawn starter epoch observations) (stamp : Scalar) :
    (self.spawn starter epoch observations stamp).EpochsAgree where
  pending _ := agree.pending (by simp [now])
  slot := agree.slot
  working := by
    simp only [CleanMapRebuild.spawn, CleanMapWorker.building.injEq]
    rintro _ rfl
    exact agree.spawning starter epoch observations now
  inHand := by
    have inHand : self.owner.inHand = starter.inHand := by rw [now]; rfl
    simpa [CleanMapRebuild.spawn, inHand] using agree.inHand
  taking := by cases starter <;> simp [CleanMapRebuild.spawn, afterStart]
  spawning := by cases starter <;> simp [CleanMapRebuild.spawn, afterStart]

theorem EpochsAgree.clear (rebuildPending : Option Bool) :
    (self.clear rebuildPending).EpochsAgree where
  pending _ := StaticObservations.seenIn_empty _
  slot := agree.slot
  working := agree.working
  inHand _ held := (Option.not_mem_none _ held).elim
  taking := by simp [CleanMapRebuild.clear]
  spawning := by simp [CleanMapRebuild.clear]

theorem EpochsAgree.ownerStep (stamp : Scalar)
    (fitting : ∀ result caller, self.owner = .evaluate result caller →
      self.discards result = true → ∀ key ∈ result.observations.observable,
        result.staticEvidenceEpoch = self.staticEvidenceEpoch) :
    (self.ownerStep stamp).EpochsAgree := by
  unfold CleanMapRebuild.ownerStep
  split <;> rename_i now
  · exact agree
  · -- The test of the ready flag.
    have found (owner : RuntimeOwner) (nothing : owner.inHand = none)
        (plain : owner.collects = false) : { self with owner }.EpochsAgree :=
      agree.letGo (by simp [now]) nothing plain
    unfold CleanMapRebuild.testReady
    split_ifs
    · exact (found (.takeSlot _) rfl rfl).elsewhere
    · exact found _ (by simp) (by simp)
  · exact agree.takeSlot now
  · exact agree.evaluate now (fitting _ _ now)
  · exact agree.install now
  · -- The observations are passed on or dropped.
    have settled (caller : ResultCaller) :
        { self with owner := afterConsumption caller }.EpochsAgree :=
      agree.letGo (by simp [now]) (by simp) (by simp)
    exact (settled _).elsewhere
  · exact agree.maintain now
  · exact agree.testRunning now
  · exact agree.join now
  · exact agree.takeObservations now
  · exact agree.spawn now stamp
  · exact agree.clear _

theorem EpochsAgree.workerStep (valid : Bool) (cleanCloud : Option (List Vec3)) :
    (self.workerStep valid cleanCloud).EpochsAgree := by
  have idle (worker : CleanMapWorker) (idle : ∀ result, worker ≠ .building result) :
      { self with worker }.EpochsAgree :=
    ⟨agree.pending, agree.slot, fun result working => absurd working (idle result), agree.inHand,
      agree.taking, agree.spawning⟩
  unfold CleanMapRebuild.workerStep
  split <;> rename_i working
  · have seen := agree.working _ working
    exact { agree with
      slot := seen
      working := by simp [CleanMapRebuild.storeResult] }
  · exact (idle .cleared (by simp)).elsewhere
  · exact (idle .finished (by simp)).elsewhere
  · exact agree
  · exact agree

theorem EpochsAgree.advanceStaticEvidenceEpoch (rebuildPending : Option Bool) :
    (self.advanceStaticEvidenceEpoch rebuildPending).EpochsAgree where
  pending steady := absurd rfl (steady rebuildPending)
  slot := agree.slot
  working := agree.working
  inHand _ held := (Option.not_mem_none _ held).elim
  taking := by simp [CleanMapRebuild.advanceStaticEvidenceEpoch]
  spawning := by simp [CleanMapRebuild.advanceStaticEvidenceEpoch]

theorem EpochsAgree.whenIdle {changed : CleanMapRebuild}
    (free : self.owner = .idle → changed.EpochsAgree) : (self.whenIdle changed).EpochsAgree := by
  unfold CleanMapRebuild.whenIdle
  split
  · rename_i now
    exact free now
  · exact agree

theorem EpochsAgree.step (call : RebuildStep) (fitting : DiscardsInItsEpoch ⟨self, call⟩) :
    (self.step call).EpochsAgree := by
  cases call with
  | consumeCleanMapRebuildResult | runMapMaintenanceIfIdle =>
    exact agree.whenIdle fun now => agree.letGo (by simp [now]) rfl rfl
  | owner stamp =>
    exact agree.ownerStep stamp fun result caller now => fitting stamp result caller rfl now
  | worker valid cleanCloud => exact agree.workerStep valid cleanCloud
  | commitKeyFrame freeCells occupiedCells =>
    exact ⟨fun steady => (agree.pending steady).addCommit freeCells occupiedCells, agree.slot,
      agree.working, agree.inHand, agree.taking, agree.spawning⟩
  | changeMap layers | requestMapMaintenance | requestFromWorker => exact agree.elsewhere
  | resetService | installLoadedRuntimeMap =>
    exact agree.whenIdle fun _ => agree.elsewhere.advanceStaticEvidenceEpoch (some false)
  | rebuildMapService =>
    exact agree.whenIdle fun _ => agree.elsewhere.advanceStaticEvidenceEpoch none
  | updatePoseFromLoopClosure =>
    exact agree.whenIdle fun _ => agree.advanceStaticEvidenceEpoch (some true)
  | handleLidarTimeRollback stamp =>
    refine agree.whenIdle fun _ => ?_
    unfold rebindBundle
    split_ifs
    · exact agree.elsewhere
    · exact agree.elsewhere

end

theorem epochsAgree_start : cleanMapRebuild.start.EpochsAgree where
  pending _ := StaticObservations.seenIn_empty _
  slot := StaticObservations.seenIn_empty _
  working := by simp [cleanMapRebuild]
  inHand _ held := (Option.not_mem_none _ held).elim
  taking := by simp [cleanMapRebuild]
  spawning := by simp [cleanMapRebuild]

theorem epochsAgree_run {calls : List RebuildStep}
    (fitting : ∀ event ∈ cleanMapRebuild.trace calls, DiscardsInItsEpoch event) :
    (cleanMapRebuild.run calls).EpochsAgree := by
  -- Each step keeps the epochs that the earlier ones have left.
  induction calls with
  | nil => exact epochsAgree_start
  | cons call older ih =>
    obtain ⟨latest, earlier⟩ := List.forall_mem_cons.mp fitting
    exact (ih earlier).step call latest

theorem EpochsAgree.passedOn (agree : self.EpochsAgree) {call : RebuildStep}
    {build : StaticObstacleEvidenceIndex.CleanBuild} {origins : List (Int × Nat)}
    (passed : self.passedOn call = some (build, origins)) :
    (∀ key, key ∈ build.occupiedCells ∨ key ∈ build.observableCells ∨
      key ∈ build.observedFreeCells → (key, build.mapGeneration) ∈ origins) ∧
    ∀ origin ∈ origins, origin.2 = build.mapGeneration := by
  unfold CleanMapRebuild.passedOn at passed
  split at passed <;> try cases passed
  split at passed <;> try cases passed
  rename_i result caller now
  split_ifs at passed
  obtain ⟨rfl, rfl⟩ := Prod.mk.inj (Option.some.inj passed)
  have seen := agree.inHand result (by rw [now]; rfl)
  refine ⟨fun key inside => ?_, seen.dated⟩
  -- Every cell of the result is observable, so it has come in at some moment.
  have observable : key ∈ result.observations.observable := by
    rcases inside with occupied | observable | free
    · exact seen.observed key occupied
    · exact observable
    · exact seen.free key free
  obtain ⟨date, member⟩ := (seen.traced key).mp observable
  have dated : date = result.staticEvidenceEpoch := seen.dated _ member
  rw [dated] at member
  exact member

theorem givenBack_eq_some_iff {event : RebuildEvent} {batch : StaticObservations} :
    givenBack event = some batch ↔ ∃ stamp result caller, event.call = .owner stamp ∧
      event.before.owner = .evaluate result caller ∧ event.before.discards result = true ∧
        result.observations = batch := by
  unfold givenBack
  constructor
  · intro given
    split at given <;> try cases given
    rename_i stamp result caller calls now
    split_ifs at given with discarded
    exact ⟨stamp, result, caller, calls, now, discarded, Option.some.inj given⟩
  · rintro ⟨stamp, result, caller, calls, now, discarded, rfl⟩
    simp only [calls, now, discarded, if_true]

theorem EpochsAgree.epochKept_iff (agree : self.EpochsAgree) (call : RebuildStep) :
    EpochKept ⟨self, call⟩ ↔ DiscardsInItsEpoch ⟨self, call⟩ := by
  constructor
  · intro kept stamp result caller calls now discarded key member
    have seen := agree.inHand result (by
      rw [show self.owner = _ from now]
      rfl)
    -- A cell that is given back has come in during the epoch of the build.
    obtain ⟨date, listed⟩ := (seen.traced key).mp member
    have current := kept.givenBack _
      (givenBack_eq_some_iff.2 ⟨stamp, result, caller, calls, now, discarded, rfl⟩) _ listed
    exact (seen.dated _ listed).symm.trans current
  · intro fitting
    refine ⟨fun build origins passed => agree.passedOn passed, ?_⟩
    rintro batch given ⟨key, date⟩ listed
    obtain ⟨stamp, result, caller, calls, now, discarded, rfl⟩ := givenBack_eq_some_iff.1 given
    have seen := agree.inHand result (by
      rw [show self.owner = _ from now]
      rfl)
    have observable := (seen.traced key).mpr ⟨date, listed⟩
    have current := fitting stamp result caller calls now discarded key observable
    exact (seen.dated _ listed).trans current

/-- Observations stay in their epochs if and only if builds are discarded in theirs. -/
theorem observations_keep_epochs (calls : List RebuildStep) :
    (∀ event ∈ cleanMapRebuild.trace calls, EpochKept event) ↔
      ∀ event ∈ cleanMapRebuild.trace calls, DiscardsInItsEpoch event := by
  -- The steps before an event decide whether the epochs agree in front of it.
  induction calls with
  | nil => simp [Machine.trace]
  | cons call older ih =>
    simp only [Machine.trace, List.forall_mem_cons]
    rw [ih]
    refine and_congr_left fun earlier => ?_
    exact (epochsAgree_run earlier).epochKept_iff call

def resetJob : List RebuildStep :=
  [ -- The owner thread consumes the result of the job, which belongs to the map before.
    .owner 1, .owner 1, .owner 1, .consumeCleanMapRebuildResult,
    .worker true none, .worker true none, .worker true none,
    .owner 1, .resetService,
    .owner 1, .owner 1, .owner 1, .owner 1, .owner 1, .owner 1, .runMapMaintenanceIfIdle false,
    .requestMapMaintenance, .commitKeyFrame [7] []]

def jobAfterReset : List RebuildStep :=
  [.owner 1, .owner 1, .owner 1, .owner 1, .consumeCleanMapRebuildResult,
    .worker true none, .worker true none, .worker true none,
    .owner 1, .owner 1, .owner 1, .owner 1, .owner 1, .owner 1, .runMapMaintenanceIfIdle false,
    .requestMapMaintenance]

/-- A cell that was seen before the reset is passed on under the epoch after it. -/
theorem reset_job_leaks_observations :
    (cleanMapRebuild.run resetJob).staticEvidenceEpoch = 2 ∧
      (cleanMapRebuild.run resetJob).pending.origins = [(7, 1)] ∧
      ¬∀ event ∈ cleanMapRebuild.trace (.owner 1 :: (jobAfterReset ++ resetJob)),
        EpochKept event := by
  refine ⟨rfl, rfl, fun kept => ?_⟩
  have passed : ∃ build, (cleanMapRebuild.run (jobAfterReset ++ resetJob)).passedOn (.owner 1) =
      some (build, [(7, 1)]) ∧ build.mapGeneration = 2 := ⟨_, rfl, rfl⟩
  obtain ⟨build, passed, generation⟩ := passed
  have dated := ((kept _ List.mem_cons_self).passedOn build _ passed).2 (7, 1) (by simp)
  rw [generation] at dated
  exact absurd dated (by decide)

end CleanMapRebuild
end NdtSlam
