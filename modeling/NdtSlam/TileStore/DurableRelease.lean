import NdtSlam.TileStore.CloudRelease
import NdtSlam.TileStore.DurableSave

/-! Clouds are released behind their points, unless these move behind the reads of the release. -/

namespace NdtSlam

/-! ### Old points stay where they are when points are appended -/

namespace TileMap

variable {config : TileStoreConfig} {tiles tiles' : TileMap} {key : String}

def Extends (key : String) (tiles tiles' : TileMap) : Prop :=
  ∀ layer cloud, tiles[key]?.bind (· layer) = some cloud →
    ∃ more, tiles'[key]?.bind (· layer) = some (cloud ++ more)

theorem Extends.trans {tiles'' : TileMap} (first : Extends key tiles tiles')
    (second : Extends key tiles' tiles'') : Extends key tiles tiles'' := by
  -- What is added first stays in front of what is added next.
  intro layer cloud held
  obtain ⟨more, next⟩ := first layer cloud held
  obtain ⟨others, last⟩ := second layer _ next
  exact ⟨more ++ others, by rw [last, List.append_assoc]⟩

theorem Extends.of_eq (same : tiles'[key]? = tiles[key]?) : Extends key tiles tiles' :=
  fun layer cloud held => ⟨[], by rw [same, held, List.append_nil]⟩

variable {layer : TileLayer}

theorem Extends.isSome (extends_ : Extends key tiles tiles')
    (there : (tiles[key]?.bind (· layer)).isSome = true) :
    (tiles'[key]?.bind (· layer)).isSome = true := by
  -- The extended cloud is one as well.
  obtain ⟨cloud, held⟩ := Option.isSome_iff_exists.mp there
  obtain ⟨more, next⟩ := extends_ layer cloud held
  rw [next]
  rfl

theorem Extends.points (extends_ : Extends key tiles tiles') (some' : tiles.points layer key ≠ []) :
    tiles'.points layer key ≠ [] := by
  -- An extension does not take points away.
  unfold TileMap.points at some' ⊢
  cases held : tiles[key]?.bind (· layer) with
  | none => simp [held] at some'
  | some cloud =>
    obtain ⟨more, next⟩ := extends_ layer cloud held
    rw [held] at some'
    rw [next]
    simp only [Option.getD_some, ne_eq, List.append_eq_nil_iff, not_and] at some' ⊢
    exact fun none => absurd none some'

variable {goesTo : List TileLayer}

theorem pushAll_extends {point : Vec3} {tile tile' : TileLayers}
    (pushed : goesTo.foldlM (fun tile layer => TileLayers.pushBack tile layer point) tile =
      some tile') {cloud : List Vec3} (held : tile layer = some cloud) :
    ∃ more, tile' layer = some (cloud ++ more) := by
  -- The induction is on the layers that the point goes to.
  induction goesTo generalizing tile cloud with
  | nil =>
    obtain rfl := Option.some.inj pushed
    exact ⟨[], by rw [held, List.append_nil]⟩
  | cons head rest ih =>
    rw [List.foldlM_cons] at pushed
    obtain ⟨next, first, others⟩ := Option.bind_eq_some_iff.mp pushed
    obtain ⟨old, there, rfl⟩ := Option.map_eq_some_iff.mp first
    by_cases same : layer = head
    · subst same
      obtain rfl := Option.some.inj (held.symm.trans there)
      obtain ⟨more, last⟩ := ih others (Function.update_self layer _ tile)
      exact ⟨[point] ++ more, by rw [last, List.append_assoc]⟩
    · exact ih others (by rw [Function.update_of_ne same]; exact held)

theorem addPoint_extends {point : Vec3}
    (added : addPoint config goesTo tiles point = some tiles')
    (kept : (tiles[key]?.bind (· .registration)).isSome = true ∨
      ¬(config.pointAllowed point = true ∧ config.tileKeyFor point = key)) :
    Extends key tiles tiles' := by
  -- A point that lies outside, or in another tile, leaves the tile as it is.
  unfold addPoint at added
  by_cases allowed : config.pointAllowed point = true
  · rw [if_pos allowed] at added
    obtain ⟨tile, pushed, rfl⟩ := Option.map_eq_some_iff.mp added
    by_cases own : config.tileKeyFor point = key
    · -- The tile has its first cloud, so it is not made anew.
      have first := kept.resolve_right fun other => other ⟨allowed, own⟩
      intro layer cloud held
      rw [own] at pushed ⊢
      rw [getElem?_insert_own]
      cases found : tiles[key]? with
      | none => simp [found] at held
      | some old =>
        rw [found] at held first
        have same : tiles.ensureTile key = old := by
          unfold ensureTile
          rw [found]
          exact if_pos first
        rw [same] at pushed
        exact pushAll_extends pushed held
    · exact .of_eq (getElem?_insert_other _ own _)
  · rw [if_neg allowed] at added
    obtain rfl := Option.some.inj added
    exact .of_eq rfl

theorem addPoints_extends {cloud : List Vec3}
    (added : cloud.foldlM (addPoint config goesTo) tiles = some tiles')
    (kept : (tiles[key]?.bind (· .registration)).isSome = true ∨
      ∀ point ∈ cloud, ¬(config.pointAllowed point = true ∧ config.tileKeyFor point = key)) :
    Extends key tiles tiles' := by
  -- The induction is on the points, and the first cloud stays there.
  induction cloud generalizing tiles with
  | nil =>
    obtain rfl := Option.some.inj added
    exact .of_eq rfl
  | cons head rest ih =>
    rw [List.foldlM_cons] at added
    obtain ⟨next, first, others⟩ := Option.bind_eq_some_iff.mp added
    have one : Extends key tiles next :=
      addPoint_extends first (kept.imp_right fun none => none head List.mem_cons_self)
    exact one.trans (ih others (kept.imp one.isSome fun none point member =>
      none point (List.mem_cons_of_mem head member)))

theorem append_extends {registration ground objects : List Vec3}
    (accepts : config.accepts = true)
    (added : tiles.append config registration ground objects = some tiles')
    (kept : config.renews tiles (registration ++ ground ++ objects) key = false) :
    Extends key tiles tiles' := by
  -- The tile has its first cloud, or none of the points is its own.
  have either : (tiles[key]?.bind (· .registration)).isSome = true ∨
      ∀ point ∈ registration ++ ground ++ objects,
        ¬(config.pointAllowed point = true ∧ config.tileKeyFor point = key) := by
    unfold TileStoreConfig.renews at kept
    rw [accepts] at kept
    cases there : (tiles[key]?.bind (· .registration)).isSome with
    | true => exact .inl rfl
    | false =>
      refine .inr fun point member own => ?_
      rw [Option.isSome_eq_false_iff.mp there] at kept
      simp only [Bool.true_and, List.any_eq_false, Bool.and_eq_true, beq_iff_eq] at kept
      exact kept point member own
  unfold append at added
  obtain ⟨first, added, rest⟩ := Option.bind_eq_some_iff.mp added
  obtain ⟨second, added', added''⟩ := Option.bind_eq_some_iff.mp rest
  -- What the points of one cloud leave alone the next ones find as it was.
  have one : Extends key tiles first :=
    addPoints_extends added (either.imp_right fun none point member =>
      none point (by simp [member]))
  have two : Extends key first second :=
    addPoints_extends added' (either.imp one.isSome fun none point member =>
      none point (by simp [member]))
  exact (one.trans two).trans (addPoints_extends added''
    (either.imp (fun there => two.isSome (one.isSome there)) fun none point member =>
      none point (by simp [member])))

end TileMap

/-! ### Where old points are -/

namespace OldPoints

variable {config : TileStoreConfig} {store : TileStore} {old : OldPoints}

structure Marks (store : TileStore) (old : OldPoints) : Prop where
  dirty : ∀ {layer key}, old.dirty layer key = true → store.dirtyTiles.points layer key ≠ []
  batch : ∀ {layer key}, old.batch layer key = true → store.flushCall.batch layer key ≠ []
  work : ∀ {layer key}, old.work layer key = true → store.worker.batch layer key ≠ []
  failed : ∀ {layer key}, old.failed layer key = true → store.failedBatch.points layer key ≠ []

theorem marks_ofStore (store : TileStore) : Marks store (ofStore store) := by
  -- A layer is noted because it has points.
  constructor <;> intro layer key noted <;> simpa [ofStore] using noted

theorem Marks.same (marks : Marks store old) {next : TileStore}
    (dirty : next.dirtyTiles = store.dirtyTiles) (call : next.flushCall = store.flushCall)
    (worker : ∀ layer key, next.worker.batch layer key = store.worker.batch layer key)
    (failed : next.failedBatch = store.failedBatch) : Marks next old :=
  ⟨fun noted => dirty ▸ marks.dirty noted, fun noted => call ▸ marks.batch noted,
    fun noted => by rw [worker]; exact marks.work noted,
    fun noted => failed ▸ marks.failed noted⟩

theorem Marks.none_dirty (marks : Marks store old) (empty : store.dirtyTiles.isEmpty = true)
    (layer : TileLayer) (key : String) : old.dirty layer key = false := by
  refine Bool.eq_false_of_not_eq_true fun noted => marks.dirty noted ?_
  rw [Std.ExtTreeMap.isEmpty_iff.mp empty, TileMap.points_empty]

theorem Marks.none_failed (marks : Marks store old) (empty : store.failedBatch.isEmpty = true)
    (layer : TileLayer) (key : String) : old.failed layer key = false := by
  refine Bool.eq_false_of_not_eq_true fun noted => marks.failed noted ?_
  rw [Std.ExtTreeMap.isEmpty_iff.mp empty, TileMap.points_empty]

theorem Marks.flush (marks : Marks store old) (diskGuard : Bool) :
    Marks (store.flushStep diskGuard) (old.step config store (.flush diskGuard)) := by
  -- The call passes a batch on, and holds none before it takes one.
  unfold TileStore.flushStep TileStore.giveUp OldPoints.step
  cases at_ : store.flushCall with
  | idle => exact marks
  | drain persist =>
    refine ⟨fun {layer key} noted => ?_, fun noted => ?_, marks.work, fun noted => ?_⟩
    · rw [TileMap.points_mergeFailed, ne_eq, List.append_eq_nil_iff, not_and_or]
      exact (Bool.or_eq_true_iff.mp noted).imp marks.dirty marks.failed
    · exact absurd (marks.batch noted) (by rw [at_]; simp [FlushCall.batch])
    · exact absurd noted (by simp [OldLayers.none])
  | testRunning persist =>
    have none : ∀ {layer key}, old.batch layer key = true → False := fun noted =>
      marks.batch noted (by rw [at_]; rfl)
    simp only
    split_ifs <;> exact ⟨marks.dirty, fun noted => (none noted).elim, marks.work, marks.failed⟩
  | diskGuard persist =>
    have none : ∀ {layer key}, old.batch layer key = true → False := fun noted =>
      marks.batch noted (by rw [at_]; rfl)
    simp only
    split_ifs <;> exact ⟨marks.dirty, fun noted => (none noted).elim, marks.work, marks.failed⟩
  | join persist =>
    have none : ∀ {layer key}, old.batch layer key = true → False := fun noted =>
      marks.batch noted (by rw [at_]; rfl)
    simp only
    split
    · exact ⟨marks.dirty, fun noted => (none noted).elim, marks.work, marks.failed⟩
    · exact marks
  | swap persist =>
    have none : ∀ {layer key}, old.batch layer key = true → False := fun noted =>
      marks.batch noted (by rw [at_]; rfl)
    simp only
    split_ifs with empty
    · exact ⟨marks.dirty, fun noted => (none noted).elim, marks.work, marks.failed⟩
    · exact ⟨fun noted => absurd noted (by simp [OldLayers.none]), marks.dirty, marks.work,
        marks.failed⟩
  | setRunning persist batch =>
    have taken : ∀ {layer key}, old.batch layer key = true → batch.points layer key ≠ [] :=
      fun noted => by
        have points := marks.batch noted
        rw [at_] at points
        exact points
    exact ⟨marks.dirty, taken, marks.work, marks.failed⟩
  | spawn persist batch =>
    have taken : ∀ {layer key}, old.batch layer key = true → batch.points layer key ≠ [] :=
      fun noted => by
        have points := marks.batch noted
        rw [at_] at points
        exact points
    exact ⟨marks.dirty, fun noted => absurd noted (by simp [OldLayers.none]), taken,
      marks.failed⟩

theorem Marks.worker (marks : Marks store old) (result : WorkerResult) :
    Marks (store.workerStep result) (old.step config store (.worker result)) := by
  -- The worker passes on what it could not write.
  unfold OldPoints.step
  cases at_ : store.worker with
  | absent =>
    have still : store.workerStep result = store := by
      unfold TileStore.workerStep
      rw [at_]
    rw [still]
    exact marks
  | clearRunning =>
    have none : ∀ {layer key}, old.work layer key = true → False := fun noted =>
      marks.work noted (by rw [at_]; rfl)
    unfold TileStore.workerStep
    rw [at_]
    exact ⟨marks.dirty, marks.batch, fun noted => (none noted).elim, marks.failed⟩
  | working phase persist work =>
    have given : ∀ {layer key}, old.work layer key = true → work.batch.points layer key ≠ [] :=
      fun noted => by
        have points := marks.work noted
        rw [at_] at points
        exact points
    unfold TileStore.workerStep
    rw [at_]
    cases phase with
    | createDirectories => exact ⟨marks.dirty, marks.batch, given, marks.failed⟩
    | write =>
      simp only
      split
      · exact ⟨marks.dirty, marks.batch, given, marks.failed⟩
      · obtain ⟨call, dirty, failed, -⟩ := store.writeLayer_frame
        refine marks.same dirty call (fun layer key => ?_) failed
        rw [TileStore.writeLayer_batch, at_]
        rfl
    | deposit =>
      refine ⟨marks.dirty, marks.batch, given, fun {layer key} noted => ?_⟩
      simp only at noted ⊢
      rw [TileMap.points_assign]
      split_ifs at noted ⊢ with member
      · simpa using (Bool.and_eq_true_iff.mp noted).2
      · exact marks.failed noted
    | finish =>
      exact ⟨marks.dirty, marks.batch, fun noted => absurd noted (by simp [OldLayers.none]),
        marks.failed⟩
    | requeue =>
      refine ⟨marks.dirty, marks.batch, fun noted => absurd noted (by simp [OldLayers.none]),
        fun {layer key} noted => ?_⟩
      simp only at noted ⊢
      rw [TileMap.points_assign]
      split_ifs at noted ⊢ with member
      · exact given noted
      · exact marks.failed noted

theorem Marks.step (marks : Marks store old) {call : TileStoreStep}
    (alive : (store.step config call).crashed = false) :
    Marks (store.step config call)
      (if store.crashed then old else old.step config store call) := by
  -- One case for each kind of step.
  unfold TileStore.step at alive ⊢
  split_ifs at alive ⊢
  · exact marks
  · cases call with
    | appendPersistentTileLayers registration ground objects =>
      simp only at alive ⊢
      unfold TileStore.appendPersistentTileLayers at alive ⊢
      split_ifs at alive ⊢ with accepts
      · split at alive
        · rename_i tiles added
          refine ⟨fun {layer key} noted => ?_, marks.batch, marks.work, marks.failed⟩
          obtain ⟨there, kept⟩ := Bool.and_eq_true_iff.mp noted
          exact (TileMap.append_extends accepts added (by simpa using kept)).points
            (marks.dirty there)
        · exact absurd alive (by simp [TileStore.crash])
      · exact ⟨fun noted => marks.dirty (Bool.and_eq_true_iff.mp noted).1, marks.batch, marks.work,
          marks.failed⟩
    | markStaticEvidence => exact marks.same rfl rfl (fun _ _ => rfl) rfl
    | flushDirtyTiles =>
      simp only
      unfold TileStore.flushDirtyTiles
      split_ifs
      · split
        · rename_i idle
          refine ⟨marks.dirty, fun noted => absurd (marks.batch noted) ?_, marks.work,
            marks.failed⟩
          rw [idle]
          simp [FlushCall.batch]
        · exact marks
      · exact marks
    | flush diskGuard => exact marks.flush diskGuard
    | worker result => exact marks.worker result
    | workerThrows =>
      simp only
      unfold TileStore.workerThrows
      split
      · exact marks
      · rename_i working
        refine marks.same rfl rfl (fun layer key => ?_) rfl
        rw [working]
        simp only [FlushWorker.batch]
        split_ifs <;> rfl
      · exact marks

theorem NoneLeft.step (none : NoneLeft old) (call : TileStoreStep) :
    NoneLeft (old.step config store call) := by
  -- Old points come from places that have some.
  obtain ⟨dirty, batch, work, failed⟩ := none
  unfold OldPoints.step
  cases call with
  | appendPersistentTileLayers registration ground objects =>
    exact ⟨fun layer key => by simp [dirty], batch, work, failed⟩
  | flush diskGuard =>
    simp only
    split
    · exact ⟨fun layer key => by simp [dirty, failed], batch, work, fun _ _ => rfl⟩
    · split_ifs
      · exact ⟨dirty, batch, work, failed⟩
      · exact ⟨fun _ _ => rfl, dirty, work, failed⟩
    · exact ⟨dirty, fun _ _ => rfl, batch, failed⟩
    · exact ⟨dirty, batch, work, failed⟩
  | worker result =>
    simp only
    split
    · exact ⟨dirty, batch, work, fun layer key => by simp [work, failed]⟩
    · exact ⟨dirty, batch, fun _ _ => rfl, failed⟩
    · exact ⟨dirty, batch, fun _ _ => rfl, fun layer key => by simp [work, failed]⟩
    · exact ⟨dirty, batch, work, failed⟩
  | _ => exact ⟨dirty, batch, work, failed⟩

end OldPoints

/-! ### Runs -/

namespace ReleaseCall

def Holds (old : OldPoints) : ReleaseCall → Prop
  | .readDirty false => ∀ layer key, old.failed layer key = false
  | .readRunning false =>
    ∀ layer key, old.failed layer key = false ∧ old.dirty layer key = false
  | _ => True

end ReleaseCall

namespace ReleaseRun

variable {config : TileStoreConfig} {maxActiveKeyframes : Int} {self : ReleaseRun}

def TakesNone (run : ReleaseRun) : Prop :=
  match run.store.flushCall with
  | .setRunning _ _ => ∀ layer key, run.old.batch layer key = false
  | _ => True

/--
No old points move behind the reads of the release.

What has been read still holds when a worker clears the flag, and the flag is not read between the
moment in which a flush call takes old points and the one in which it sets the flag.
-/
def Undisturbed (event : ReleaseEvent) : Prop :=
  match event.call with
  | .store (.worker _) =>
    match event.before.store.worker with
    | .clearRunning => event.before.release.Holds event.before.old
    | _ => True
  | .release => event.before.release = .readRunning false → event.before.TakesNone
  | _ => True

structure Sound (run : ReleaseRun) : Prop where
  flagged : run.store.Flagged
  marks : run.store.crashed = false → run.old.Marks run.store
  reads : run.store.crashed = false → run.store.running = false → run.release.Holds run.old
  proceeds : run.release = .proceeds → run.old.NoneLeft

theorem failed_step {call : TileStoreStep} (absent : self.store.worker = .absent)
    {layer : TileLayer}
    {key : String} (none : self.old.failed layer key = false) :
    (self.old.step config self.store call).failed layer key = false := by
  unfold OldPoints.step
  cases call with
  | flush diskGuard =>
    simp only
    split
    · rfl
    · split_ifs <;> exact none
    all_goals exact none
  | worker result =>
    simp only [absent]
    exact none
  | _ => exact none

theorem dirty_step {call : TileStoreStep} {layer : TileLayer} {key : String}
    (failed : self.old.failed layer key = false) (dirty : self.old.dirty layer key = false) :
    (self.old.step config self.store call).dirty layer key = false := by
  -- Only what has failed gets back to the dirty tiles.
  unfold OldPoints.step
  cases call with
  | appendPersistentTileLayers registration ground objects => simp [dirty]
  | flush diskGuard =>
    simp only
    split
    · simp [dirty, failed]
    · split_ifs
      · exact dirty
      · rfl
    all_goals exact dirty
  | worker result =>
    simp only
    split <;> exact dirty
  | _ => exact dirty

theorem clears_of_stopped {store : TileStore} {call : TileStoreStep}
    (running : store.running = true) (stopped : (store.step config call).running = false)
    (alive : (store.step config call).crashed = false) :
    ∃ result, call = .worker result ∧ store.worker = .clearRunning := by
  -- Every other step leaves the flag as it is, or sets it.
  have changed : (store.step config call).running ≠ store.running := by
    rw [running, stopped]
    decide
  unfold TileStore.step at changed stopped alive
  split_ifs at changed stopped alive
  · exact absurd rfl changed
  · cases call with
    | appendPersistentTileLayers registration ground objects =>
      simp only at changed alive
      unfold TileStore.appendPersistentTileLayers at changed alive
      split_ifs at changed alive
      · split at changed
        · exact absurd rfl changed
        · rename_i missing
          rw [missing] at alive
          exact absurd alive (by simp [TileStore.crash])
      · exact absurd rfl changed
    | markStaticEvidence => exact absurd rfl changed
    | flushDirtyTiles =>
      simp only at changed
      unfold TileStore.flushDirtyTiles at changed
      split_ifs at changed
      · split at changed <;> exact absurd rfl changed
      · exact absurd rfl changed
    | flush diskGuard =>
      simp only at changed stopped
      unfold TileStore.flushStep TileStore.giveUp at changed stopped
      split at changed
      case h_5 => split at changed <;> exact absurd rfl changed
      case h_7 at_ =>
        rw [at_] at stopped
        cases stopped
      all_goals first
        | exact absurd rfl changed
        | (split_ifs at changed <;> exact absurd rfl changed)
    | worker result =>
      cases at_ : store.worker with
      | absent =>
        simp only at changed
        unfold TileStore.workerStep at changed
        rw [at_] at changed
        exact absurd rfl changed
      | clearRunning => exact ⟨result, rfl, rfl⟩
      | working phase persist work =>
        exact absurd (TileStore.workerStep_working at_).1 changed
    | workerThrows =>
      simp only at changed
      unfold TileStore.workerThrows at changed
      split at changed <;> exact absurd rfl changed

theorem Sound.storeStep (sound : self.Sound) {call : TileStoreStep}
    (undisturbed : Undisturbed ⟨self, .store call⟩) : (self.storeStep config call).Sound := by
  by_cases crashed : self.store.crashed = true
  · -- A process that has ended does nothing.
    have same : self.storeStep config call = self := by
      unfold ReleaseRun.storeStep TileStore.step
      simp only [crashed, if_true]
    rw [same]
    exact sound
  have lives := Bool.eq_false_of_not_eq_true crashed
  have moved : (self.storeStep config call).old = self.old.step config self.store call := if_neg crashed
  refine ⟨sound.flagged.step call, fun alive => (sound.marks lives).step alive,
    fun alive stopped => ?_, fun proceeds => ?_⟩
  · rw [moved]
    cases running : self.store.running with
    | true =>
      obtain ⟨result, rfl, clears⟩ := clears_of_stopped running stopped alive
      have holds : self.release.Holds self.old := by
        have before := undisturbed
        unfold Undisturbed at before
        simpa only [clears] using before
      have same : self.old.step config self.store (.worker result) = self.old := by
        unfold OldPoints.step
        simp only [clears]
      rw [same]
      exact holds
    | false =>
      have holds := sound.reads lives running
      have absent : self.store.worker = .absent := sound.flagged.absent running
      show ReleaseCall.Holds _ self.release
      unfold ReleaseCall.Holds at holds ⊢
      split at holds
      · exact fun layer key => failed_step absent (holds layer key)
      · exact fun layer key => ⟨failed_step absent (holds layer key).1,
          dirty_step (holds layer key).1 (holds layer key).2⟩
      · trivial
  · rw [moved]
    exact (sound.proceeds proceeds).step call

theorem noneLeft_of_read (sound : self.Sound) (alive : self.store.crashed = false)
    (reading : self.release = .readRunning false) (stopped : self.store.running = false)
    (none : self.TakesNone) : self.old.NoneLeft := by
  -- What was read before still holds, and the flag speaks for the rest.
  have marks := sound.marks alive
  have read : ∀ layer key, self.old.failed layer key = false ∧
      self.old.dirty layer key = false := by
    have holds := sound.reads alive stopped
    rw [reading] at holds
    exact holds
  refine ⟨fun layer key => (read layer key).2, fun layer key => ?_, fun layer key => ?_,
    fun layer key => (read layer key).1⟩
  · -- A call that holds a batch is about to set the flag, or has set it.
    refine Bool.eq_false_of_not_eq_true fun noted => ?_
    have points := marks.batch noted
    unfold TakesNone at none
    cases at_ : self.store.flushCall with
    | setRunning persist batch =>
      rw [at_] at none
      exact absurd (none layer key) (by simp [noted])
    | spawn persist batch =>
      exact absurd (sound.flagged.spawn persist batch at_) (by simp [stopped])
    | _ => exact points (by rw [at_]; rfl)
  · refine Bool.eq_false_of_not_eq_true fun noted => ?_
    have points := marks.work noted
    have gone : self.store.worker = .absent := sound.flagged.absent stopped
    exact points (by rw [gone]; rfl)

theorem Sound.releaseStep (sound : self.Sound) (alive : self.store.crashed = false)
    (undisturbed : Undisturbed ⟨self, .release⟩) : self.releaseStep.Sound := by
  -- Each read adds what it has found to what is sure.
  have marks := sound.marks alive
  have idle : ∀ release : ReleaseCall, release = .idle →
      ({ self with release } : ReleaseRun).Sound := by
    rintro release rfl
    exact ⟨sound.flagged, sound.marks, fun _ _ => trivial, fun proceeds => absurd proceeds (by simp)⟩
  unfold ReleaseRun.releaseStep
  cases at_ : self.release with
  | idle => exact sound
  | proceeds => exact sound
  | readFailed =>
    refine ⟨sound.flagged, sound.marks, fun _ _ => ?_, fun proceeds => absurd proceeds (by simp)⟩
    cases empty : self.store.failedBatch.isEmpty with
    | false => trivial
    | true => exact marks.none_failed empty
  | readDirty failedBatchPending =>
    simp only
    split_ifs with some'
    · exact idle _ rfl
    · have empty : self.store.dirtyTiles.isEmpty = true := by
        rw [Std.ExtTreeMap.isEmpty_eq_size_beq_zero, beq_iff_eq]
        omega
      refine ⟨sound.flagged, sound.marks, fun _ stopped => ?_, fun proceeds =>
        absurd proceeds (by simp)⟩
      have holds := sound.reads alive stopped
      rw [at_] at holds
      cases failedBatchPending with
      | true => trivial
      | false => exact fun layer key => ⟨holds layer key, marks.none_dirty empty layer key⟩
  | readRunning failedBatchPending =>
    simp only
    split_ifs with busy
    · exact idle _ rfl
    · simp only [Bool.or_eq_true, not_or, Bool.not_eq_true] at busy
      obtain ⟨stopped, rfl⟩ := busy
      exact ⟨sound.flagged, sound.marks, fun _ _ => trivial,
        fun _ => @noneLeft_of_read self sound alive at_ stopped (undisturbed at_)⟩

theorem Sound.step (sound : self.Sound) {call : ReleaseStep}
    (undisturbed : Undisturbed ⟨self, call⟩) :
    (self.step config maxActiveKeyframes call).Sound := by
  -- The threads take their steps one by one.
  cases call with
  | store call => exact sound.storeStep undisturbed
  | releaseOldKeyframeClouds =>
    have begun : ∀ release : ReleaseCall, release = .readFailed →
        ({ self with release, old := .ofStore self.store } : ReleaseRun).Sound := by
      rintro release rfl
      exact ⟨sound.flagged, fun _ => OldPoints.marks_ofStore self.store, fun _ _ => trivial,
        fun proceeds => absurd proceeds (by simp)⟩
    show (self.begin config maxActiveKeyframes).Sound
    unfold ReleaseRun.begin
    split
    · split_ifs
      · exact begun _ rfl
      · exact sound
    · split_ifs
      · exact begun _ rfl
      · exact sound
    · exact sound
  | release =>
    show (if self.store.crashed then self else self.releaseStep).Sound
    split_ifs with crashed
    · exact sound
    · exact sound.releaseStep (Bool.eq_false_of_not_eq_true crashed) undisturbed

theorem sound_start {initial : TileLayer → String → Option (List Vec3)} :
    ({ store := { layerFiles := initial } } : ReleaseRun).Sound := by
  -- Neither a call nor a worker is there.
  refine ⟨⟨?_, ?_, ?_⟩, fun _ => ?_, fun _ _ => trivial, fun proceeds => absurd proceeds (by simp)⟩
  · intro present
    exact absurd present (by simp [FlushWorker.isAbsent])
  · intro persist batch spawning
    cases spawning
  · intro joined
    exact joined.elim
  · constructor <;> intro layer key noted <;> exact absurd noted (by simp [OldLayers.none])

theorem sound_run (config : TileStoreConfig) (maxActiveKeyframes : Int)
    (initial : TileLayer → String → Option (List Vec3)) :
    ∀ calls, (∀ event ∈ (cloudRelease config maxActiveKeyframes initial).trace calls,
      Undisturbed event) → ((cloudRelease config maxActiveKeyframes initial).run calls).Sound := by
  -- The induction is on the calls, with the latest one in front.
  intro calls
  induction calls with
  | nil => exact fun _ => sound_start
  | cons call older ih =>
    intro undisturbed
    obtain ⟨latest, earlier⟩ := List.forall_mem_cons.mp undisturbed
    exact (ih earlier).step latest

/-- In an undisturbed run, a release drops clouds only when none of their points is in memory. -/
theorem released_clouds_are_durable (config : TileStoreConfig) (maxActiveKeyframes : Int)
    (initial : TileLayer → String → Option (List Vec3)) {calls : List ReleaseStep}
    (undisturbed : ∀ event ∈ (cloudRelease config maxActiveKeyframes initial).trace calls,
      Undisturbed event)
    (proceeds : ((cloudRelease config maxActiveKeyframes initial).run calls).release =
      .proceeds) :
    ((cloudRelease config maxActiveKeyframes initial).run calls).old.NoneLeft := by
  exact (sound_run config maxActiveKeyframes initial calls undisturbed).proceeds proceeds

def untroubled (event : ReleaseEvent) : Bool :=
  match event.call with
  | .store (.worker _) => event.before.release == .idle
  | .release => !event.before.store.flushCall.hasBatch
  | _ => true

theorem undisturbed_of_untroubled {event : ReleaseEvent} (calm : untroubled event = true) :
    Undisturbed event := by
  -- A release that has not begun has read nothing.
  unfold untroubled at calm
  unfold Undisturbed
  split at calm
  · rw [beq_iff_eq] at calm
    rw [calm]
    split <;> trivial
  · intro _
    unfold TakesNone
    unfold FlushCall.hasBatch at calm
    split
    · rename_i taken
      rw [taken] at calm
      cases calm
    · trivial
  · trivial

def flushAndRelease (steps : List ReleaseStep) : List ReleaseStep :=
  steps ++ List.replicate 7 (.store (.flush true)) ++ [.store .flushDirtyTiles,
    .store (.appendPersistentTileLayers [⟨1, 2, 3⟩] [] [])]

attribute [local semireducible] Rat.add Rat.sub Rat.mul Rat.inv Rat.ofScientific

theorem late_release_is_durable :
    ((cloudRelease TileStore.tenMeterTiles 1 SaveRun.oneTile).run (flushAndRelease
        (List.replicate 3 .release ++ .releaseOldKeyframeClouds ::
          List.replicate 9 (.store (.worker .done))))).old.NoneLeft := by
  have calm : ((cloudRelease TileStore.tenMeterTiles 1 SaveRun.oneTile).trace (flushAndRelease
      (List.replicate 3 .release ++ .releaseOldKeyframeClouds ::
        List.replicate 9 (.store (.worker .done))))).all untroubled = true := by decide
  exact released_clouds_are_durable _ _ _
    (fun event member => undisturbed_of_untroubled (List.all_eq_true.mp calm event member))
    (by decide)

theorem early_read_drops_failed_clouds :
    ¬∀ (config : TileStoreConfig) (maxActiveKeyframes : Int)
      (initial : TileLayer → String → Option (List Vec3)) (calls : List ReleaseStep),
      ((cloudRelease config maxActiveKeyframes initial).run calls).release = .proceeds →
        ((cloudRelease config maxActiveKeyframes initial).run calls).old.NoneLeft := by
  -- The three reads stand apart, and the worker ends between the second and the third.
  intro durable
  have none := durable TileStore.tenMeterTiles 1 SaveRun.oneTile (flushAndRelease
    (.release :: List.replicate 9 (.store (.worker .failed)) ++
      [.release, .release, .releaseOldKeyframeClouds])) (by decide)
  have left := none.failed .registration "x0_y0"
  exact absurd left (by decide)

end ReleaseRun

end NdtSlam
