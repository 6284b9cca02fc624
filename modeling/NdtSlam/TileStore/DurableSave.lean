import NdtSlam.TileStore.SessionSave

/-! A session contains what had been handed over before its save, unless a flush call gave up. -/

namespace NdtSlam

namespace FlushCall

def hasBatch : FlushCall → Bool
  | .setRunning _ _ | .spawn _ _ => true
  | _ => false

end FlushCall

namespace TileStore

variable {config : TileStoreConfig} {initial : TileLayer → String → Option (List Vec3)}
  {self : TileStore} {before : TilePoints}

def OnlyNewer (before : TilePoints) (store : TileStore) : Prop :=
  ∀ layer key, (store.dirtyTiles.points layer key + before layer key : Multiset Vec3) ≤
    store.accepted layer key

def HandedOver (before : TilePoints) (store : TileStore) : Prop :=
  ∀ layer key, (before layer key : Multiset Vec3) ≤ store.accepted layer key

def givesUp (self : TileStore) (diskGuard : Bool) : Bool :=
  match self.flushCall with
  | .testRunning _ => self.running
  | .diskGuard _ => !diskGuard
  | _ => false

def drains (self : TileStore) : Bool :=
  match self.flushCall with
  | .drain _ => true
  | _ => false

def Settled (initial : TileLayer → String → Option (List Vec3)) (before : TilePoints)
    (store : TileStore) : Prop :=
  ∀ layer key, ((((initial layer key).getD [] : List Vec3) : Multiset Vec3) + before layer key) ≤
    store.filePoints layer key + store.failedBatch.points layer key

/-! ### What a step adds -/

structure Adds (store next : TileStore) : Prop where
  accepted : ∀ layer key,
    (store.accepted layer key : Multiset Vec3) ≤ next.accepted layer key
  dirty : ∀ layer key,
    (next.dirtyTiles.points layer key + store.accepted layer key : Multiset Vec3) ≤
      store.dirtyTiles.points layer key + next.accepted layer key
  failed : ∀ layer key,
    (store.failedBatch.points layer key : Multiset Vec3) ≤ next.failedBatch.points layer key

variable {next : TileStore}

theorem Adds.same (dirty : next.dirtyTiles = self.dirtyTiles)
    (failed : next.failedBatch = self.failedBatch) (accepted : next.accepted = self.accepted) :
    Adds self next :=
  ⟨fun _ _ => by rw [accepted], fun _ _ => by rw [accepted, dirty], fun _ _ => by rw [failed]⟩

theorem Adds.handedOver (adds : Adds self next) (handed : self.HandedOver before) :
    next.HandedOver before :=
  fun layer key => (handed layer key).trans (adds.accepted layer key)

theorem Adds.onlyNewer (adds : Adds self next) (newer : self.OnlyNewer before) :
    next.OnlyNewer before := by
  intro layer key
  have added := adds.dirty layer key
  have held := newer layer key
  -- Both sides get what had been accepted before the step.
  refine (add_le_add_iff_right (self.accepted layer key : Multiset Vec3)).mp ?_
  calc (next.dirtyTiles.points layer key + before layer key + self.accepted layer key :
        Multiset Vec3)
      = (next.dirtyTiles.points layer key + self.accepted layer key) + before layer key := by abel
    _ ≤ (self.dirtyTiles.points layer key + next.accepted layer key) + before layer key := by
        gcongr
    _ = (self.dirtyTiles.points layer key + before layer key) + next.accepted layer key := by abel
    _ ≤ self.accepted layer key + next.accepted layer key := by gcongr
    _ = next.accepted layer key + self.accepted layer key := by abel

theorem points_le_assign {tiles batch : TileMap} {layer : TileLayer} {key : String}
    (kept : key ∈ batch →
      (tiles.points layer key : Multiset Vec3) ≤ batch.points layer key) :
    (tiles.points layer key : Multiset Vec3) ≤ (tiles.assign batch).points layer key := by
  rw [TileMap.points_assign]
  split_ifs with member
  · exact kept member
  · exact le_rfl

theorem adds_work {result : WorkerResult} (undisturbed : self.WorkerUndisturbed .atLeast result) :
    Adds self (self.workerStep result) := by
  unfold WorkerUndisturbed at undisturbed
  unfold workerStep
  split
  case h_3 persist work writing =>
    split
    · exact .same rfl rfl rfl
    · obtain ⟨-, dirty, failed, accepted⟩ := self.writeLayer_frame
      exact .same dirty failed accepted
  case h_4 persist work depositing =>
    rw [depositing] at undisturbed
    refine ⟨fun _ _ => le_rfl, fun _ _ => le_rfl, fun layer key => points_le_assign ?_⟩
    intro member
    rw [undisturbed layer key member]
    exact Multiset.zero_le _
  case h_6 persist work putting =>
    rw [putting] at undisturbed
    refine ⟨fun _ _ => le_rfl, fun _ _ => le_rfl, fun layer key => points_le_assign ?_⟩
    intro member
    exact (Multiset.le_add_right _ _).trans (undisturbed layer key member)
  all_goals exact .same rfl rfl rfl

theorem adds_flush {diskGuard : Bool} (kept : self.drains = false) :
    Adds self (self.flushStep diskGuard) := by
  unfold drains at kept
  unfold flushStep giveUp
  split
  case h_2 persist draining =>
    rw [draining] at kept
    exact absurd kept (by simp)
  case h_6 persist swapping =>
    split_ifs
    · exact .same rfl rfl rfl
    · -- The dirty tiles are taken away.
      refine ⟨fun _ _ => le_rfl, fun layer key => ?_, fun _ _ => le_rfl⟩
      rw [TileMap.points_empty]
      exact add_le_add_left (Multiset.zero_le _) _
  case h_5 persist joining => split <;> exact .same rfl rfl rfl
  all_goals first
    | exact .same rfl rfl rfl
    | (split_ifs <;> exact .same rfl rfl rfl)

theorem adds_append {registration ground objects : List Vec3}
    (undisturbed : Undisturbed .atLeast config
      ⟨self, .appendPersistentTileLayers registration ground objects⟩) :
    Adds self (self.appendPersistentTileLayers config registration ground objects) := by
  unfold TileStore.appendPersistentTileLayers
  split_ifs with accepts
  · obtain ⟨tiles, appended, gains⟩ := TileMap.append_ok (undisturbed accepts)
    rw [appended]
    refine ⟨fun layer key => ?_, fun layer key => ?_, fun _ _ => le_rfl⟩
    · simp only [← Multiset.coe_add]
      exact Multiset.le_add_right _ _
    · simp only [gains, ← Multiset.coe_add]
      exact le_of_eq (by abel)
  · exact .same rfl rfl rfl

variable {call : TileStoreStep}

theorem adds_step (undisturbed : Undisturbed .atLeast config ⟨self, call⟩)
    (kept : ∀ diskGuard, call = .flush diskGuard → self.drains = false) :
    Adds self (TileStore.step config self call) := by
  unfold TileStore.step
  split_ifs
  · exact .same rfl rfl rfl
  · cases call with
    | appendPersistentTileLayers registration ground objects => exact adds_append undisturbed
    | markStaticEvidence => exact .same rfl rfl rfl
    | flushDirtyTiles =>
      simp only
      unfold TileStore.flushDirtyTiles
      split_ifs
      · split <;> exact .same rfl rfl rfl
      · exact .same rfl rfl rfl
    | flush diskGuard => exact adds_flush (kept diskGuard rfl)
    | worker result => exact adds_work undisturbed
    | workerThrows =>
      simp only
      unfold workerThrows
      split <;> exact .same rfl rfl rfl

theorem HandedOver.step (undisturbed : Undisturbed .atLeast config ⟨self, call⟩)
    (handed : self.HandedOver before) :
    (TileStore.step config self call).HandedOver before := by
  by_cases drains : ∃ diskGuard, call = .flush diskGuard ∧ self.drains = true
  · -- Taking the failed batch does not change what has been accepted.
    obtain ⟨diskGuard, rfl, draining⟩ := drains
    have same : (TileStore.step config self (.flush diskGuard)).accepted = self.accepted := by
      unfold TileStore.step
      split_ifs
      · rfl
      · unfold drains at draining
        simp only
        unfold flushStep
        split at draining
        · rename_i persist at_
          rw [at_]
        · exact absurd draining Bool.false_ne_true
    intro layer key
    rw [same]
    exact handed layer key
  · exact (adds_step undisturbed fun diskGuard taken => Bool.eq_false_of_not_eq_true
      fun draining => drains ⟨diskGuard, taken, draining⟩).handedOver handed

/-! ### The flush call of a save -/

def CallSettled (before : TilePoints) (store : TileStore) : Prop :=
  store.flushCall.hasBatch = true → store.OnlyNewer before

theorem flushStep_onlyNewer (handed : self.HandedOver before) (settled : self.CallSettled before)
    {diskGuard : Bool} (kept : self.givesUp diskGuard = true → self.OnlyNewer before)
    (busy : self.flushCall.isIdle = false) :
    (self.flushStep diskGuard).CallSettled before ∧
      ((self.flushStep diskGuard).flushCall.isIdle = true →
        (self.flushStep diskGuard).OnlyNewer before) := by
  unfold CallSettled at settled ⊢
  unfold givesUp at kept
  unfold flushStep giveUp
  cases at_ : self.flushCall with
  | idle => simp [at_, FlushCall.isIdle] at busy
  | drain persist => simp [FlushCall.hasBatch, FlushCall.isIdle]
  | testRunning persist =>
    rw [at_] at kept
    simp only
    split_ifs with running
    · exact ⟨fun taken => absurd taken Bool.false_ne_true, fun _ => kept running⟩
    · simp [FlushCall.hasBatch, FlushCall.isIdle]
  | diskGuard persist =>
    rw [at_] at kept
    simp only
    split_ifs with enough
    · simp [FlushCall.hasBatch, FlushCall.isIdle]
    · exact ⟨fun taken => absurd taken Bool.false_ne_true,
        fun _ => kept (by simpa using enough)⟩
  | join persist =>
    simp only
    split <;> simp [at_, FlushCall.hasBatch, FlushCall.isIdle]
  | swap persist =>
    simp only
    -- Either there are no dirty tiles, or they are taken.
    have newer : ∀ next : TileStore, next.dirtyTiles = ∅ → next.accepted = self.accepted →
        next.OnlyNewer before := by
      intro next none same layer key
      rw [none, same, TileMap.points_empty, Multiset.coe_nil, zero_add]
      exact handed layer key
    split_ifs with empty
    · have none := Std.ExtTreeMap.isEmpty_iff.mp (Bool.and_eq_true_iff.mp empty).1
      exact ⟨fun taken => absurd taken Bool.false_ne_true, fun _ => newer _ none rfl⟩
    · exact ⟨fun _ => newer _ rfl rfl, fun idle => absurd idle Bool.false_ne_true⟩
  | setRunning persist batch =>
    have newer := settled (by rw [at_]; rfl)
    exact ⟨fun _ => newer, fun idle => absurd idle Bool.false_ne_true⟩
  | spawn persist batch =>
    have newer := settled (by rw [at_]; rfl)
    exact ⟨fun taken => absurd taken Bool.false_ne_true, fun _ => newer⟩

theorem step_flushCall (alive : (self.step config call).crashed = false)
    (other : ∀ diskGuard, call ≠ .flush diskGuard) :
    (self.step config call).flushCall = self.flushCall ∨
      self.flushCall.isIdle = true ∧ (self.step config call).flushCall.hasBatch = false ∧
        (self.step config call).flushCall.isIdle = false := by
  unfold TileStore.step at alive ⊢
  split_ifs at alive ⊢
  · exact .inl rfl
  · cases call with
    | appendPersistentTileLayers registration ground objects =>
      simp only at alive ⊢
      unfold TileStore.appendPersistentTileLayers at alive ⊢
      split_ifs at alive ⊢
      · split at alive
        · exact .inl rfl
        · exact absurd alive (by simp [crash])
      · exact .inl rfl
    | markStaticEvidence => exact .inl rfl
    | flushDirtyTiles =>
      simp only
      unfold TileStore.flushDirtyTiles
      split_ifs
      · split
        · rename_i idle
          exact .inr ⟨by rw [idle]; rfl, rfl, rfl⟩
        · exact .inl rfl
      · exact .inl rfl
    | flush diskGuard => exact absurd rfl (other diskGuard)
    | worker result => exact .inl self.workerStep_flushCall
    | workerThrows =>
      refine .inl ?_
      simp only
      unfold workerThrows
      split <;> rfl

end TileStore

/-- The session contains what was in the files at first and what had been handed over. -/
def AssembledTiles.Complete (initial : TileLayer → String → Option (List Vec3))
    (session : AssembledTiles) : Prop :=
  ∀ layer key,
    ((((initial layer key).getD [] : List Vec3) : Multiset Vec3) + session.before layer key) ≤
      session.files layer key

def SaveCall.session : SaveCall → Option AssembledTiles
  | .returned session => session
  | _ => none

def SaveCall.Sound (config : TileStoreConfig) (initial : TileLayer → String → Option (List Vec3))
    (store : TileStore) : SaveCall → Prop
  | .idle | .returned none => True
  | .flush before => config.persistentMapEnabled = true ∧ store.HandedOver before
  | .flushing before =>
    store.HandedOver before ∧ store.CallSettled before ∧ store.flushCall.isIdle = false
  | .join before =>
    store.HandedOver before ∧ store.CallSettled before ∧
      (store.flushCall.isIdle = true → store.OnlyNewer before)
  | .testFailed before => store.Settled initial before
  | .assemble before => ∀ layer key,
    ((((initial layer key).getD [] : List Vec3) : Multiset Vec3) + before layer key) ≤
      store.filePoints layer key
  | .check session | .returned (some session) => session.Complete initial

namespace SaveRun

variable {config : TileStoreConfig} {initial : TileLayer → String → Option (List Vec3)}
  {self : SaveRun}

/-- No point is lost, and no flush call leaves points behind that the save is to contain. -/
def Undisturbed (config : TileStoreConfig) (event : SaveEvent) : Prop :=
  match event.call with
  | .store call =>
    TileStore.Undisturbed .atLeast config ⟨event.before.store, call⟩ ∧
      ∀ diskGuard, call = .flush diskGuard →
        match event.before.save with
        | .flushing before | .join before =>
          -- A call that gives up leaves none of the older points among the dirty tiles.
          event.before.store.givesUp diskGuard = true → event.before.store.OnlyNewer before
        | .testFailed _ =>
          -- No call takes what the save is going to look for.
          event.before.store.drains = true → ∀ layer key,
            event.before.store.failedBatch.points layer key = []
        | _ => True
  | _ => True

structure Sound (config : TileStoreConfig) (initial : TileLayer → String → Option (List Vec3))
    (run : SaveRun) : Prop where
  accounted : run.store.Accounted .atLeast initial
  save : run.save.Sound config initial run.store

variable {before : TilePoints}

theorem settled_step (settled : self.store.Settled initial before)
    {call : TileStoreStep} (undisturbed : TileStore.Undisturbed .atLeast config ⟨self.store, call⟩)
    (kept : ∀ diskGuard, call = .flush diskGuard → self.store.drains = true → ∀ layer key,
      self.store.failedBatch.points layer key = []) :
    (self.store.step config call).Settled initial before := by
  intro layer key
  have files := TileStore.step_filePoints_le undisturbed layer key
  refine (settled layer key).trans ?_
  -- The failed batch loses points only where it is taken.
  by_cases drains : ∃ diskGuard, call = .flush diskGuard ∧ self.store.drains = true
  · obtain ⟨diskGuard, taken, draining⟩ := drains
    rw [kept diskGuard taken draining layer key, Multiset.coe_nil, add_zero]
    exact files.trans (Multiset.le_add_right _ _)
  · have adds := TileStore.adds_step undisturbed fun diskGuard taken =>
      Bool.eq_false_of_not_eq_true fun draining => drains ⟨diskGuard, taken, draining⟩
    exact add_le_add files (adds.failed layer key)

theorem callSettled_step (settled : self.store.CallSettled before) {call : TileStoreStep}
    (undisturbed : TileStore.Undisturbed .atLeast config ⟨self.store, call⟩)
    (alive : (self.store.step config call).crashed = false)
    (other : ∀ diskGuard, call ≠ .flush diskGuard) :
    (self.store.step config call).CallSettled before := by
  intro taken
  have adds := TileStore.adds_step undisturbed fun diskGuard same =>
    absurd same (other diskGuard)
  rcases TileStore.step_flushCall alive other with same | ⟨-, none, -⟩
  · exact adds.onlyNewer (settled (same ▸ taken))
  · exact absurd taken (by simp [none])

theorem step_flush (alive : self.store.crashed = false) (diskGuard : Bool) :
    self.store.step config (.flush diskGuard) = self.store.flushStep diskGuard := by
  unfold TileStore.step
  rw [if_neg (by simp [alive])]

theorem Sound.storeStep (held : self.Sound config initial) {call : TileStoreStep}
    (undisturbed : Undisturbed config ⟨self, .store call⟩) :
    (self.storeStep config call).Sound config initial := by
  obtain ⟨calm, kept⟩ := undisturbed
  have accounted := held.accounted.step calm
  have saved := held.save
  unfold SaveRun.storeStep
  cases at_ : self.save with
  | idle => exact ⟨accounted, trivial⟩
  | flush before =>
    rw [at_] at saved
    exact ⟨accounted, saved.1, TileStore.HandedOver.step calm saved.2⟩
  | flushing before =>
    rw [at_] at saved kept
    obtain ⟨handed, settled, busy⟩ := saved
    have after := TileStore.HandedOver.step calm handed
    by_cases stepped : ∃ diskGuard, call = .flush diskGuard
    · -- The flush call of the save goes on or ends.
      obtain ⟨diskGuard, rfl⟩ := stepped
      obtain ⟨next, ended⟩ := TileStore.flushStep_onlyNewer handed settled (kept diskGuard rfl) busy
      rw [step_flush held.accounted.alive] at accounted after ⊢
      refine ⟨accounted, ?_⟩
      simp only
      split_ifs with idle
      · exact ⟨after, next, ended⟩
      · exact ⟨after, next, Bool.eq_false_of_not_eq_true idle⟩
    · have other : ∀ diskGuard, call ≠ .flush diskGuard :=
        fun diskGuard same => stepped ⟨diskGuard, same⟩
      have next := callSettled_step settled calm accounted.alive other
      have same : (self.store.step config call).flushCall = self.store.flushCall := by
        rcases TileStore.step_flushCall accounted.alive other with same | ⟨idle, -⟩
        · exact same
        · exact absurd busy (by simp [idle])
      refine ⟨accounted, ?_⟩
      simp only [same, busy, Bool.false_eq_true, if_false]
      exact ⟨after, next, by rw [same]; exact busy⟩
  | join before =>
    rw [at_] at saved kept
    obtain ⟨handed, settled, newer⟩ := saved
    refine ⟨accounted, TileStore.HandedOver.step calm handed, ?_⟩
    by_cases stepped : ∃ diskGuard, call = .flush diskGuard
    · obtain ⟨diskGuard, rfl⟩ := stepped
      rw [step_flush held.accounted.alive]
      cases busy : self.store.flushCall.isIdle with
      | false => exact TileStore.flushStep_onlyNewer handed settled (kept diskGuard rfl) busy
      | true =>
        have same : self.store.flushStep diskGuard = self.store := by
          unfold TileStore.flushStep
          unfold FlushCall.isIdle at busy
          split at busy
          · rename_i idle
            rw [idle]
          · exact absurd busy Bool.false_ne_true
        rw [same]
        exact ⟨settled, newer⟩
    · have other : ∀ diskGuard, call ≠ .flush diskGuard :=
        fun diskGuard same => stepped ⟨diskGuard, same⟩
      refine ⟨callSettled_step settled calm accounted.alive other, fun idle => ?_⟩
      have adds := TileStore.adds_step calm fun diskGuard same =>
        absurd same (other diskGuard)
      rcases TileStore.step_flushCall accounted.alive other with same | ⟨-, -, busy⟩
      · exact adds.onlyNewer (newer (same ▸ idle))
      · exact absurd idle (by simp [busy])
  | testFailed before =>
    rw [at_] at saved kept
    exact ⟨accounted, settled_step saved calm kept⟩
  | assemble before =>
    rw [at_] at saved
    exact ⟨accounted, fun layer key =>
      (saved layer key).trans (TileStore.step_filePoints_le calm layer key)⟩
  | check session =>
    rw [at_] at saved
    exact ⟨accounted, saved⟩
  | returned session =>
    rw [at_] at saved
    cases session with
    | none => exact ⟨accounted, trivial⟩
    | some session => exact ⟨accounted, saved⟩

theorem settled_of_joined {store : TileStore} (accounted : store.Accounted .atLeast initial)
    (newer : store.OnlyNewer before) (idle : store.flushCall.isIdle = true)
    (absent : store.worker.isAbsent = true) :
    store.Settled initial before := by
  intro layer key
  have account : _ ≤ store.contents layer key := accounted.meets layer key
  have older := newer layer key
  have noBatch : store.flushCall.batch layer key = [] := by
    unfold FlushCall.isIdle at idle
    split at idle
    · rename_i call
      rw [call]
      rfl
    · exact absurd idle Bool.false_ne_true
  have noWork : store.worker.owed layer key = [] := by
    unfold FlushWorker.isAbsent at absent
    split at absent
    · rename_i worker
      rw [worker]
      rfl
    · exact absurd absent Bool.false_ne_true
  simp only [TileStore.contents, noBatch, noWork, Multiset.coe_nil, add_zero] at account
  -- Both sides get the dirty tiles, which hold none of the older points.
  refine (add_le_add_iff_right (store.dirtyTiles.points layer key : Multiset Vec3)).mp ?_
  calc _ = (((initial layer key).getD [] : List Vec3) : Multiset Vec3) +
        (store.dirtyTiles.points layer key + before layer key) := by abel
    _ ≤ (((initial layer key).getD [] : List Vec3) : Multiset Vec3) + store.accepted layer key := by
        gcongr
    _ ≤ store.filePoints layer key + store.dirtyTiles.points layer key +
        store.failedBatch.points layer key := account
    _ = _ := by abel

theorem Sound.saveStep (held : self.Sound config initial) (succeeds : Bool) :
    (self.saveStep config succeeds).Sound config initial := by
  have saved := held.save
  unfold SaveRun.saveStep
  cases at_ : self.save with
  | idle => exact held
  | flushing before => exact held
  | returned session => exact held
  | flush before =>
    rw [at_] at saved
    obtain ⟨enabled, handed⟩ := saved
    simp only
    split_ifs with idle
    · -- The save enters a flush.
      have begun : self.store.step config .flushDirtyTiles
          = self.store.flushDirtyTiles config := by
        unfold TileStore.step
        rw [if_neg (by simp [held.accounted.alive])]
      have calm : TileStore.Undisturbed .atLeast config ⟨self.store, .flushDirtyTiles⟩ := trivial
      have after := TileStore.HandedOver.step calm handed
      have accounted := held.accounted.step calm
      rw [begun] at after accounted
      refine ⟨accounted, after, ?_⟩
      unfold TileStore.CallSettled TileStore.flushDirtyTiles
      rw [if_pos enabled]
      cases call : self.store.flushCall with
      | idle => exact ⟨fun taken => absurd taken Bool.false_ne_true, rfl⟩
      | _ =>
        rw [call] at idle
        exact absurd idle Bool.false_ne_true
    · exact held
  | join before =>
    rw [at_] at saved
    obtain ⟨-, -, newer⟩ := saved
    simp only
    split_ifs with joined
    · obtain ⟨idle, absent⟩ := Bool.and_eq_true_iff.mp joined
      exact ⟨held.accounted, settled_of_joined held.accounted (newer idle) idle absent⟩
    · exact held
  | testFailed before =>
    rw [at_] at saved
    simp only
    split_ifs with none
    · refine ⟨held.accounted, fun layer key => ?_⟩
      have settled := saved layer key
      rw [Std.ExtTreeMap.isEmpty_iff.mp none, TileMap.points_empty, Multiset.coe_nil,
        add_zero] at settled
      exact settled
    · exact ⟨held.accounted, trivial⟩
  | assemble before =>
    rw [at_] at saved
    simp only
    split_ifs
    · exact held
    · exact ⟨held.accounted, saved⟩
    · exact ⟨held.accounted, trivial⟩
  | check session =>
    rw [at_] at saved
    refine ⟨held.accounted, ?_⟩
    cases succeeds with
    | false => exact trivial
    | true => exact saved

theorem Sound.step (held : self.Sound config initial) {call : SaveStep}
    (undisturbed : Undisturbed config ⟨self, call⟩) :
    (SaveRun.step config self call).Sound config initial := by
  cases call with
  | store call => exact held.storeStep undisturbed
  | saveMapSessionAtomic =>
    show (self.begin config).Sound config initial
    unfold SaveRun.begin
    have begun : ∀ enabled : config.persistentMapEnabled = true,
        ({ self with save := .flush self.store.accepted } : SaveRun).Sound config initial :=
      fun enabled => ⟨held.accounted, enabled, fun _ _ => le_rfl⟩
    split
    · split_ifs with enabled
      · exact begun (Bool.and_eq_true_iff.mp enabled).1
      · exact held
    · split_ifs with enabled
      · exact begun (Bool.and_eq_true_iff.mp enabled).1
      · exact held
    · exact held
  | save succeeds =>
    show (if self.store.crashed then self else self.saveStep config succeeds).Sound config initial
    rw [if_neg (by simp [held.accounted.alive])]
    exact held.saveStep succeeds

theorem sound_run (config : TileStoreConfig)
    (initial : TileLayer → String → Option (List Vec3)) :
    ∀ calls, (∀ event ∈ (sessionSave config initial).trace calls, Undisturbed config event) →
      ((sessionSave config initial).run calls).Sound config initial := by
  intro calls
  induction calls with
  | nil => exact fun _ => ⟨TileStore.accounted_start, trivial⟩
  | cons call older ih =>
    intro undisturbed
    obtain ⟨latest, earlier⟩ := List.forall_mem_cons.mp undisturbed
    exact (ih earlier).step latest

/-- In an undisturbed run, a session contains every point handed over before its save began. -/
theorem save_is_durable (config : TileStoreConfig)
    (initial : TileLayer → String → Option (List Vec3)) {calls : List SaveStep}
    (undisturbed : ∀ event ∈ (sessionSave config initial).trace calls, Undisturbed config event)
    {session : AssembledTiles}
    (saved : ((sessionSave config initial).run calls).save.session = some session) :
    session.Complete initial := by
  have sound := (sound_run config initial calls undisturbed).save
  unfold SaveCall.session at saved
  split at saved
  · rename_i returned
    rw [returned, saved] at sound
    exact sound
  · exact absurd saved (by simp)

def untroubled (event : SaveEvent) : Bool :=
  match event.call with
  | .store call =>
    TileStore.untroubled ⟨event.before.store, call⟩ && event.before.store.failedBatch.isEmpty &&
      !event.before.store.givesUp true &&
      match call with
      | .flush diskGuard => diskGuard
      | _ => true
  | _ => true

theorem undisturbed_of_untroubled {event : SaveEvent} (calm : untroubled event = true) :
    Undisturbed config event := by
  unfold untroubled at calm
  unfold Undisturbed
  split at calm
  · rename_i call _
    simp only [Bool.and_eq_true, Bool.not_eq_true'] at calm
    obtain ⟨⟨⟨store, empty⟩, goesOn⟩, guarded⟩ := calm
    refine ⟨TileStore.undisturbed_of_untroubled store, ?_⟩
    rintro diskGuard rfl
    obtain rfl : diskGuard = true := guarded
    split
    · exact fun gives => absurd gives (by simp [goesOn])
    · exact fun gives => absurd gives (by simp [goesOn])
    · intro _ layer key
      rw [Std.ExtTreeMap.isEmpty_iff.mp empty, TileMap.points_empty]
    · trivial
  · trivial

def oneTile : TileLayer → String → Option (List Vec3) := fun layer key =>
  if layer = .registration ∧ key = "x5_y5" then some [⟨51, 52, 53⟩] else none

def pointAndSave (flush : List SaveStep) : List SaveStep :=
  List.replicate 4 (.save true) ++ flush ++ [.save true, .saveMapSessionAtomic,
    .store (.appendPersistentTileLayers [⟨1, 2, 3⟩] [] [])]

theorem flushed_save_is_durable :
    ∃ session, ((sessionSave TileStore.tenMeterTiles oneTile).run
        (pointAndSave (List.replicate 9 (.store (.worker .done)) ++
          List.replicate 7 (.store (.flush true))))).save.session = some session ∧
      session.Complete oneTile := by
  have returned : ((sessionSave TileStore.tenMeterTiles oneTile).run
      (pointAndSave (List.replicate 9 (.store (.worker .done)) ++
        List.replicate 7 (.store (.flush true))))).save.session.isSome = true := by
    with_unfolding_all decide
  obtain ⟨session, saved⟩ := Option.isSome_iff_exists.mp returned
  have calm : ((sessionSave TileStore.tenMeterTiles oneTile).trace
      (pointAndSave (List.replicate 9 (.store (.worker .done)) ++
        List.replicate 7 (.store (.flush true))))).all untroubled = true := by
    with_unfolding_all decide
  exact ⟨session, saved, save_is_durable _ _
    (fun event member => undisturbed_of_untroubled (List.all_eq_true.mp calm event member)) saved⟩

theorem low_disk_save_is_incomplete :
    ¬∀ (config : TileStoreConfig) (initial : TileLayer → String → Option (List Vec3))
      (calls : List SaveStep) (session : AssembledTiles),
      ((sessionSave config initial).run calls).save.session = some session →
        session.Complete initial := by
  intro durable
  let run := (sessionSave TileStore.tenMeterTiles oneTile).run
    (pointAndSave (List.replicate 3 (.store (.flush false))))
  have held : run.save.session.map (fun session =>
      (session.before .registration "x0_y0", session.files .registration "x0_y0"))
      = some ([⟨1, 2, 3⟩], []) := by with_unfolding_all decide
  obtain ⟨session, saved, pair⟩ := Option.map_eq_some_iff.mp held
  obtain ⟨before, files⟩ := Prod.mk.inj pair
  have complete := durable _ _ _ session saved .registration "x0_y0"
  rw [before, files] at complete
  exact absurd complete (by decide)

end SaveRun
end NdtSlam
