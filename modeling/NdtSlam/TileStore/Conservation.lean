import Mathlib.Algebra.Order.Group.Multiset
import NdtSlam.TileStore.TileFlush

/-! The flush of the tiles neither loses nor repeats points, as long as it overwrites none. -/

namespace NdtSlam

inductive PointAccount where
  | exactly
  | atLeast

namespace PointAccount

variable {account : PointAccount} {there due other : Multiset Vec3}

def Meets : PointAccount → Multiset Vec3 → Multiset Vec3 → Prop
  | .exactly, there, due => there = due
  | .atLeast, there, due => due ≤ there

theorem Meets.of_eq (same : there = due) : account.Meets there due := by
  cases account with
  | exactly => exact same
  | atLeast => exact same.ge

theorem Meets.trans {before : Multiset Vec3} (later : account.Meets there before)
    (earlier : account.Meets before due) : account.Meets there due := by
  cases account with
  | exactly => exact Eq.trans later earlier
  | atLeast => exact le_trans earlier later

theorem Meets.add (meets : account.Meets there due) (other : Multiset Vec3) :
    account.Meets (there + other) (due + other) := by
  cases account with
  | exactly => exact congrArg (· + other) meets
  | atLeast => exact add_le_add meets le_rfl

theorem Meets.le (meets : account.Meets there due) : due ≤ there := by
  cases account with
  | exactly => exact le_of_eq (Eq.symm meets)
  | atLeast => exact meets

end PointAccount

namespace FlushWork

def owed (work : FlushWork) (layer : TileLayer) (key : String) : List Vec3 :=
  (if (layer, key) ∈ work.todo then work.batch.points layer key else []) ++
    work.failedLayers.points layer key

structure Orderly (work : FlushWork) : Prop where
  distinct : work.todo.Nodup
  failed : ∀ layer key, work.failedLayers.points layer key = [] ∨
    (layer, key) ∉ work.todo ∧
      work.failedLayers.points layer key = work.batch.points layer key

end FlushWork

variable (layer : TileLayer)

def FlushWorker.owed (key : String) : FlushWorker → List Vec3
  | .absent | .clearRunning | .working .finish _ _ => []
  | .working _ _ work => work.owed layer key

def FlushWorker.Orderly : FlushWorker → Prop
  | .absent | .clearRunning => True
  | .working .deposit _ work => work.Orderly ∧ work.todo = []
  | .working _ _ work => work.Orderly

def FlushWorker.batch (key : String) : FlushWorker → List Vec3
  | .absent | .clearRunning => []
  | .working _ _ work => work.batch.points layer key

def FlushCall.batch (key : String) : FlushCall → List Vec3
  | .setRunning _ batch | .spawn _ batch => batch.points layer key
  | _ => []

def FlushCall.afterJoin : FlushCall → Prop
  | .swap _ | .setRunning _ _ | .spawn _ _ => True
  | _ => False

namespace TileStore

variable (self : TileStore)

def contents (layer : TileLayer) (key : String) : Multiset Vec3 :=
  self.filePoints layer key + self.dirtyTiles.points layer key +
    self.failedBatch.points layer key + self.flushCall.batch layer key +
    self.worker.owed layer key

def inFlight (layer : TileLayer) (key : String) : Multiset Vec3 :=
  self.flushCall.batch layer key + self.worker.batch layer key

def quiescent : Bool :=
  match self.flushCall, self.worker with
  | .idle, .absent => true
  | _, _ => false

def WorkerUndisturbed (account : PointAccount) (self : TileStore) (result : WorkerResult) :
    Prop :=
  match self.worker with
  | .working .write _ work =>
    -- No file with points is reported as unreadable.
    ∀ slot rest, work.todo = slot :: rest → work.batch.points slot.1 slot.2 ≠ [] →
      result = .unreadable → self.filePoints slot.1 slot.2 = []
  | .working .deposit _ work =>
    -- Nothing else waits where the failed layers are put.
    ∀ layer, ∀ key ∈ work.failedLayers, self.failedBatch.points layer key = []
  | .working .requeue _ work =>
    -- What is put back is what has not been written, and what has already been handed back.
    ∀ layer, ∀ key ∈ work.batch, account.Meets (work.batch.points layer key)
      (self.failedBatch.points layer key + work.owed layer key)
  | _ => True

/-- No step loses a point, or repeats one where that matters. -/
def Undisturbed (account : PointAccount) (config : TileStoreConfig) (event : TileStoreEvent) :
    Prop :=
  match event.call with
  | .appendPersistentTileLayers registration ground objects =>
    config.accepts = true →
      event.before.dirtyTiles.ReadyFor config registration ground objects
  | .worker result => event.before.WorkerUndisturbed account result
  | _ => True

structure Accounted (account : PointAccount) (initial : TileLayer → String → Option (List Vec3))
    (store : TileStore) : Prop where
  meets : ∀ layer key, account.Meets (store.contents layer key)
    ((((initial layer key).getD [] : List Vec3) : Multiset Vec3) + store.accepted layer key)
  alive : store.crashed = false
  apart : store.flushCall.afterJoin → store.worker = .absent
  orderly : store.worker.Orderly

/-! ### The work of a worker -/

theorem mem_slots {batch : TileMap} {layer : TileLayer} {key : String} :
    (layer, key) ∈ FlushWork.slots batch ↔ key ∈ batch := by
  unfold FlushWork.slots
  rw [List.mem_flatMap, Std.ExtTreeMap.mem_iff_isSome_getElem?, Option.isSome_iff_exists]
  constructor
  · rintro ⟨item, member, slot⟩
    have same : item.1 = key := by
      simp only [List.mem_cons, Prod.mk.injEq, List.not_mem_nil, or_false] at slot
      rcases slot with ⟨-, own⟩ | ⟨-, own⟩ | ⟨-, own⟩ | ⟨-, own⟩ <;> exact own.symm
    exact ⟨item.2, Std.ExtTreeMap.mem_toList_iff_getElem?_eq_some.mp (same ▸ member)⟩
  · rintro ⟨tile, found⟩
    exact ⟨(key, tile), Std.ExtTreeMap.mem_toList_iff_getElem?_eq_some.mpr found,
      by cases layer <;> simp⟩

theorem slots_nodup (batch : TileMap) : (FlushWork.slots batch).Nodup := by
  refine List.nodup_flatMap.mpr ⟨fun item member => by simp, ?_⟩
  -- The layers of different tiles are different slots.
  refine batch.distinct_keys_toList.imp ?_
  intro first second apart slot inFirst inSecond
  have same : first.1 = second.1 := by
    simp only [List.mem_cons, List.not_mem_nil, or_false] at inFirst inSecond
    rcases inFirst with rfl | rfl | rfl | rfl <;> simp_all
  exact apart (same ▸ Std.ReflCmp.compare_self)

end TileStore

namespace FlushWork

variable {layer : TileLayer} {key : String}

theorem owed_ofBatch (batch : TileMap) :
    (ofBatch batch).owed layer key = batch.points layer key := by
  unfold owed ofBatch
  by_cases member : key ∈ batch
  · simp [TileStore.mem_slots.2 member]
  · rw [if_neg (fun listed => member (TileStore.mem_slots.1 listed)),
      TileMap.points_of_not_mem member, TileMap.points_empty, List.nil_append]

theorem orderly_ofBatch (batch : TileMap) : (ofBatch batch).Orderly :=
  ⟨TileStore.slots_nodup batch, fun _ _ => .inl TileMap.points_empty⟩

theorem Orderly.owed_le {work : FlushWork} (orderly : work.Orderly) (layer : TileLayer)
    (key : String) :
    (work.owed layer key : Multiset Vec3) ≤ work.batch.points layer key := by
  unfold owed
  rcases orderly.failed layer key with none | ⟨past, all⟩
  · rw [none, List.append_nil]
    split_ifs
    · exact le_rfl
    · exact Multiset.zero_le _
  · rw [if_neg past, all, List.nil_append]

section

variable {work : FlushWork} {slot : TileSlot} {rest : List TileSlot}
  (orderly : work.Orderly) (head : work.todo = slot :: rest)
include orderly head

theorem Orderly.head_fresh :
    slot ∉ rest ∧ work.failedLayers.points slot.1 slot.2 = [] := by
  have distinct := orderly.distinct
  rw [head] at distinct
  refine ⟨(List.nodup_cons.mp distinct).1, ?_⟩
  rcases orderly.failed slot.1 slot.2 with none | ⟨past, -⟩
  · exact none
  · exact absurd (head ▸ List.mem_cons_self) past

theorem Orderly.owed_head :
    (work.owed layer key : Multiset Vec3)
      = (({ work with todo := rest } : FlushWork).owed layer key : Multiset Vec3) +
        (if (layer, key) = slot then work.batch.points layer key else [] : List Vec3) := by
  obtain ⟨fresh, -⟩ := orderly.head_fresh head
  unfold owed
  rw [head]
  by_cases own : (layer, key) = slot
  · subst own
    simp only [List.mem_cons_self, if_true, if_neg fresh, List.nil_append]
    rw [← Multiset.coe_add, add_comm]
  · simp [own]

theorem Orderly.next : ({ work with todo := rest } : FlushWork).Orderly := by
  have distinct := orderly.distinct
  rw [head] at distinct
  refine ⟨(List.nodup_cons.mp distinct).2, ?_⟩
  intro layer key
  refine (orderly.failed layer key).imp_right ?_
  rintro ⟨past, all⟩
  exact ⟨fun later => past (head ▸ List.mem_cons_of_mem _ later), all⟩

omit orderly head in
theorem points_retry :
    (work.retry slot).points layer key
      = if (layer, key) = slot then work.batch.points layer key
        else work.failedLayers.points layer key := by
  unfold retry
  by_cases sameKey : slot.2 = key
  · subst sameKey
    rw [TileMap.points_insert_own]
    by_cases sameLayer : layer = slot.1
    · subst sameLayer
      simp
    · have apart : (layer, slot.2) ≠ slot := fun same => sameLayer (congrArg Prod.fst same)
      rw [Function.update_of_ne sameLayer, if_neg apart]
      cases found : work.failedLayers[slot.2]? <;>
        simp [TileMap.points, found, TileLayers.noClouds]
  · have apart : (layer, key) ≠ slot := fun same => sameKey (congrArg Prod.snd same).symm
    rw [TileMap.points_insert_other sameKey, if_neg apart]

theorem Orderly.owed_retry :
    (({ work with todo := rest, failedLayers := work.retry slot } : FlushWork).owed layer key :
      Multiset Vec3) = work.owed layer key := by
  obtain ⟨fresh, none⟩ := orderly.head_fresh head
  unfold owed
  rw [points_retry, head]
  by_cases own : (layer, key) = slot
  · subst own
    simp_all
  · simp [own]

theorem Orderly.failedNext :
    ({ work with todo := rest, failedLayers := work.retry slot } : FlushWork).Orderly := by
  have next := orderly.next head
  refine ⟨next.distinct, ?_⟩
  intro layer key
  show (work.retry slot).points layer key = [] ∨ _ ∧ (work.retry slot).points layer key = _
  rw [points_retry]
  by_cases own : (layer, key) = slot
  · rw [if_pos own, own]
    exact .inr ⟨(orderly.head_fresh head).1, rfl⟩
  · rw [if_neg own]
    exact next.failed layer key

end

end FlushWork

namespace TileStore

variable {config : TileStoreConfig} {initial : TileLayer → String → Option (List Vec3)}
  {self : TileStore} {account : PointAccount}

/-! ### Steps -/

section

variable (held : self.Accounted account initial)
include held

theorem Accounted.kept {next : TileStore}
    (contents : ∀ layer key, next.contents layer key = self.contents layer key)
    (accepted : next.accepted = self.accepted) (alive : next.crashed = false)
    (apart : next.flushCall.afterJoin → next.worker = .absent) (orderly : next.worker.Orderly) :
    next.Accounted account initial := by
  refine ⟨fun layer key => ?_, alive, apart, orderly⟩
  rw [contents, accepted]
  exact held.meets layer key

variable {running staticEvidenceDirty : Bool}

theorem Accounted.elsewhere {call : FlushCall}
    (batch : ∀ layer key, call.batch layer key = self.flushCall.batch layer key)
    (apart : call.afterJoin → self.worker = .absent) :
    { self with
      running, staticEvidenceDirty
      flushCall := call : TileStore }.Accounted account initial := by
  refine held.kept (fun layer key => ?_) rfl held.alive apart held.orderly
  unfold contents filePoints
  rw [batch]

theorem Accounted.append
    {registration ground objects : List Vec3}
    (undisturbed : Undisturbed account config
      ⟨self, .appendPersistentTileLayers registration ground objects⟩) :
    (self.appendPersistentTileLayers config registration ground objects).Accounted account
      initial := by
  unfold TileStore.appendPersistentTileLayers
  split_ifs with accepts
  · obtain ⟨tiles, appended, gains⟩ := TileMap.append_ok (undisturbed accepts)
    rw [appended]
    refine ⟨?_, held.alive, held.apart, held.orderly⟩
    intro layer key
    have gained := (held.meets layer key).add
      (config.acceptedPoints registration ground objects layer key)
    rw [add_assoc] at gained
    refine PointAccount.Meets.trans (.of_eq ?_) gained
    simp only [contents, filePoints, gains, ← Multiset.coe_add]
    abel
  · exact held

theorem Accounted.flush (diskGuard : Bool) :
    (self.flushStep diskGuard).Accounted account initial := by
  unfold flushStep
  cases at_ : self.flushCall with
  | idle => exact held
  | drain persist =>
    refine held.kept (fun layer key => ?_) rfl held.alive (fun after => after.elim) held.orderly
    simp only [contents, filePoints, at_, TileMap.points_mergeFailed, TileMap.points_empty,
      FlushCall.batch, Multiset.coe_nil, ← Multiset.coe_add]
    abel
  | testRunning persist =>
    simp only
    split_ifs
    · exact held.elsewhere (fun layer key => by rw [at_]; rfl) fun after => after.elim
    · exact held.elsewhere (fun layer key => by rw [at_]; rfl) fun after => after.elim
  | diskGuard persist =>
    simp only
    split_ifs
    · exact held.elsewhere (fun layer key => by rw [at_]; rfl) fun after => after.elim
    · exact held.elsewhere (fun layer key => by rw [at_]; rfl) fun after => after.elim
  | join persist =>
    simp only
    split
    · rename_i ended
      exact held.elsewhere (fun layer key => by rw [at_]; rfl) fun _ => ended
    · exact held
  | swap persist =>
    have absent := held.apart (by rw [at_]; trivial)
    simp only
    split_ifs
    · exact held.elsewhere (fun layer key => by rw [at_]; rfl) fun after => after.elim
    · refine held.kept (fun layer key => ?_) rfl held.alive (fun _ => absent) held.orderly
      simp only [contents, filePoints, at_, TileMap.points_empty, FlushCall.batch,
        Multiset.coe_nil]
      abel
  | setRunning persist batch =>
    have absent := held.apart (by rw [at_]; trivial)
    exact held.elsewhere (fun layer key => by rw [at_]; rfl) fun _ => absent
  | spawn persist batch =>
    have absent := held.apart (by rw [at_]; trivial)
    refine held.kept (fun layer key => ?_) rfl held.alive (fun after => after.elim)
      (FlushWork.orderly_ofBatch batch)
    simp only [contents, filePoints, at_, absent, FlushCall.batch, FlushWorker.owed,
      FlushWork.owed_ofBatch, Multiset.coe_nil]
    abel

variable {layerFiles : TileLayer → String → Option (List Vec3)}

theorem Accounted.replace (present : self.worker ≠ .absent) {failedBatch : TileMap}
    {next : FlushWorker}
    (balance : ∀ layer key, account.Meets
      ((((layerFiles layer key).getD [] : List Vec3) : Multiset Vec3) +
        failedBatch.points layer key + next.owed layer key)
      (self.filePoints layer key + self.failedBatch.points layer key +
        self.worker.owed layer key))
    (orderly : next.Orderly) :
    { self with
      layerFiles, failedBatch, running, staticEvidenceDirty
      worker := next : TileStore }.Accounted account initial := by
  refine ⟨?_, held.alive, fun after => absurd (held.apart after) present, orderly⟩
  intro layer key
  -- The dirty tiles and the batch of a flush call are not touched.
  have moved := (balance layer key).add
    ((self.dirtyTiles.points layer key : Multiset Vec3) + self.flushCall.batch layer key)
  refine PointAccount.Meets.trans (.of_eq ?_) (moved.trans (PointAccount.Meets.trans (.of_eq ?_)
    (held.meets layer key)))
  · simp only [contents, filePoints]
    abel
  · simp only [contents]
    abel

theorem Accounted.advance
    (present : self.worker ≠ .absent) {failedBatch : TileMap} {next : FlushWorker}
    (balance : ∀ layer key,
      ((((layerFiles layer key).getD [] : List Vec3) : Multiset Vec3) +
        failedBatch.points layer key + next.owed layer key) =
      self.filePoints layer key + self.failedBatch.points layer key +
        self.worker.owed layer key)
    (orderly : next.Orderly) :
    { self with
      layerFiles, failedBatch, running, staticEvidenceDirty
      worker := next : TileStore }.Accounted account initial :=
  held.replace present (fun layer key => .of_eq (balance layer key)) orderly

variable {result : WorkerResult}

theorem Accounted.write {persist : Bool} {work : FlushWork}
    (writing : self.worker = .working .write persist work) {slot : TileSlot} {rest : List TileSlot}
    (head : work.todo = slot :: rest) (undisturbed : self.WorkerUndisturbed account result) :
    (self.writeLayer persist work slot rest result).Accounted account initial := by
  have orderly : work.Orderly := by simpa [writing, FlushWorker.Orderly] using held.orderly
  have present : self.worker ≠ .absent := by simp [writing]
  unfold WorkerUndisturbed at undisturbed
  simp only [writing] at undisturbed
  -- A file gets the points of the layer behind those that it has.
  have written : ∀ points, points = self.filePoints slot.1 slot.2 ++
      work.batch.points slot.1 slot.2 →
      (({ self with worker := .working .write persist { work with todo := rest } } :
        TileStore).writeFile slot points).Accounted account initial := by
    rintro _ rfl
    refine held.advance present ?_ (orderly.next head)
    intro layer key
    simp only [filePoints, writing, FlushWorker.owed, orderly.owed_head head]
    by_cases own : (layer, key) = slot
    · subst own
      simp only [if_true, Option.getD_some, ← Multiset.coe_add]
      abel
    · simp only [if_neg own, Multiset.coe_nil, add_zero]
  unfold writeLayer
  simp only
  split_ifs with empty
  · -- A layer without points is skipped.
    refine held.advance present ?_ (orderly.next head)
    intro layer key
    simp only [filePoints, writing, FlushWorker.owed, orderly.owed_head head]
    by_cases own : (layer, key) = slot
    · subst own
      simp [List.isEmpty_iff.mp empty]
    · simp [own]
  · have points : work.batch.points slot.1 slot.2 ≠ [] := fun none => empty (by simp [none])
    cases result with
    | done => exact written _ rfl
    | unreadable => exact written _ (by simp [undisturbed slot rest head points rfl])
    | failed =>
      refine held.advance present ?_ (orderly.failedNext head)
      intro layer key
      simp only [filePoints, writing, FlushWorker.owed, orderly.owed_retry head]

theorem Accounted.work (undisturbed : self.WorkerUndisturbed account result) :
    (self.workerStep result).Accounted account initial := by
  have ordered := held.orderly
  unfold workerStep
  split
  · exact held
  · rename_i persist work at_
    rw [at_] at ordered
    exact held.advance (by simp [at_]) (fun layer key => by rw [at_]; rfl) ordered
  · rename_i persist work at_
    rw [at_] at ordered
    cases head : work.todo with
    | nil =>
      exact held.advance (by simp [at_]) (fun layer key => by rw [at_]; rfl) ⟨ordered, head⟩
    | cons slot rest => exact held.write at_ head undisturbed
  · -- The failed layers are handed back, where nothing else waits.
    rename_i persist work at_
    rw [at_] at ordered
    obtain ⟨inOrder, settled⟩ := ordered
    unfold WorkerUndisturbed at undisturbed
    simp only [at_] at undisturbed
    refine held.advance (by simp [at_]) ?_ inOrder
    intro layer key
    rw [TileMap.points_assign, at_]
    simp only [FlushWorker.owed, FlushWork.owed, settled, List.not_mem_nil, if_false,
      List.nil_append, Multiset.coe_nil, filePoints]
    split_ifs with member
    · rw [undisturbed layer key member, Multiset.coe_nil]
      abel
    · rw [TileMap.points_of_not_mem member, Multiset.coe_nil]
  · rename_i persist work at_
    exact held.advance (by simp [at_]) (fun layer key => by rw [at_]; rfl) trivial
  · -- The whole batch is put back.
    rename_i persist work at_
    rw [at_] at ordered
    unfold WorkerUndisturbed at undisturbed
    simp only [at_] at undisturbed
    refine held.replace (by simp [at_]) ?_ trivial
    intro layer key
    rw [TileMap.points_assign, at_]
    simp only [FlushWorker.owed, Multiset.coe_nil, filePoints]
    split_ifs with member
    · -- The points of the file are on both sides.
      have meets := (undisturbed layer key member).add (self.layerFiles layer key |>.getD [])
      refine PointAccount.Meets.trans (.of_eq ?_) (meets.trans (.of_eq ?_)) <;> abel
    · have within := FlushWork.Orderly.owed_le ordered layer key
      rw [TileMap.points_of_not_mem member, Multiset.coe_nil] at within
      rw [Multiset.le_zero.mp within]
      exact .of_eq rfl
  · rename_i at_
    exact held.advance (by simp [at_]) (fun layer key => by rw [at_]; rfl) trivial

theorem Accounted.throw :
    self.workerThrows.Accounted account initial := by
  have ordered := held.orderly
  unfold workerThrows
  split
  · exact held
  · rename_i phase persist work _ at_
    rw [at_] at ordered
    -- Behind the handing back nothing is left of the work.
    cases phase with
    | requeue => contradiction
    | finish =>
      refine held.advance (by simp [at_]) (fun layer key => ?_) ⟨List.nodup_nil, fun _ _ => .inl ?_⟩
      · rw [at_]
        simp [FlushWorker.owed, FlushWork.owed, filePoints]
      · exact TileMap.points_empty
    | deposit =>
      exact held.advance (by simp [at_]) (fun layer key => by rw [at_]; rfl) ordered.1
    | createDirectories =>
      exact held.advance (by simp [at_]) (fun layer key => by rw [at_]; rfl) ordered
    | write => exact held.advance (by simp [at_]) (fun layer key => by rw [at_]; rfl) ordered
  · exact held

theorem Accounted.step {call : TileStoreStep}
    (undisturbed : Undisturbed account config ⟨self, call⟩) :
    (TileStore.step config self call).Accounted account initial := by
  unfold TileStore.step
  rw [if_neg (by simp [held.alive])]
  cases call with
  | appendPersistentTileLayers registration ground objects => exact held.append undisturbed
  | markStaticEvidence => exact held.elsewhere (fun _ _ => rfl) held.apart
  | flushDirtyTiles =>
    simp only
    unfold TileStore.flushDirtyTiles
    split_ifs
    · split
      · rename_i idle
        exact held.elsewhere (fun _ _ => by rw [idle]; rfl) fun after => after.elim
      · exact held
    · exact held
  | flush diskGuard => exact held.flush diskGuard
  | worker result => exact held.work undisturbed
  | workerThrows => exact held.throw

end

theorem accounted_start : ({ layerFiles := initial } : TileStore).Accounted account initial := by
  refine ⟨fun layer key => .of_eq ?_, rfl, fun after => after.elim, trivial⟩
  simp [contents, filePoints, FlushCall.batch, FlushWorker.owed]

/-! ### Files -/

theorem writeLayer_filePoints_le {persist : Bool} {work : FlushWork} {slot : TileSlot}
    {rest : List TileSlot}
    (readable : work.batch.points slot.1 slot.2 ≠ [] → result = .unreadable →
      self.filePoints slot.1 slot.2 = []) (layer : TileLayer) (key : String) :
    (self.filePoints layer key : Multiset Vec3) ≤
      (self.writeLayer persist work slot rest result).filePoints layer key := by
  unfold writeLayer
  simp only
  split_ifs with empty
  · exact le_rfl
  · have points : work.batch.points slot.1 slot.2 ≠ [] := fun none => empty (by simp [none])
    -- Only the file of the layer itself is replaced.
    by_cases own : (layer, key) = slot
    · subst own
      cases result with
      | done =>
        simp only [filePoints, writeFile, if_true, Option.getD_some, ← Multiset.coe_add]
        exact Multiset.le_add_right _ _
      | unreadable =>
        have none : self.filePoints layer key = [] := readable points rfl
        rw [none]
        exact Multiset.zero_le _
      | failed => exact le_rfl
    · cases result with
      | done => simp [filePoints, writeFile, own]
      | unreadable => simp [filePoints, writeFile, own]
      | failed => exact le_rfl

theorem step_filePoints_le {call : TileStoreStep}
    (undisturbed : Undisturbed account config ⟨self, call⟩) (layer : TileLayer) (key : String) :
    (self.filePoints layer key : Multiset Vec3) ≤
      (TileStore.step config self call).filePoints layer key := by
  unfold TileStore.step
  split_ifs
  · exact le_rfl
  · cases call with
    | appendPersistentTileLayers registration ground objects =>
      simp only
      unfold TileStore.appendPersistentTileLayers
      split_ifs
      · split <;> exact le_rfl
      · exact le_rfl
    | markStaticEvidence => exact le_rfl
    | flushDirtyTiles =>
      simp only
      unfold TileStore.flushDirtyTiles
      split_ifs
      · split <;> exact le_rfl
      · exact le_rfl
    | flush diskGuard =>
      simp only
      unfold flushStep giveUp
      split <;> (try split_ifs) <;> (try split) <;> exact le_rfl
    | worker result =>
      simp only [Undisturbed, WorkerUndisturbed] at undisturbed ⊢
      unfold workerStep
      split
      case h_3 persist work writing =>
        rw [writing] at undisturbed
        cases head : work.todo with
        | nil => exact le_rfl
        | cons slot rest => exact writeLayer_filePoints_le (undisturbed slot rest head) layer key
      all_goals exact le_rfl
    | workerThrows =>
      simp only
      unfold workerThrows
      split <;> exact le_rfl

/-! ### Runs -/

/-- Nothing is lost, and nothing is there twice once no flush is under way. -/
structure Conserves (initial : TileLayer → String → Option (List Vec3)) (store : TileStore) :
    Prop where
  somewhere : ∀ layer key,
    ((((initial layer key).getD [] : List Vec3) : Multiset Vec3) + store.accepted layer key) ≤
      store.dirtyTiles.points layer key + store.inFlight layer key +
        store.failedBatch.points layer key + store.filePoints layer key
  exactlyOnce : store.quiescent = true → ∀ layer key,
    (store.filePoints layer key + store.dirtyTiles.points layer key +
      store.failedBatch.points layer key : Multiset Vec3) =
      (((initial layer key).getD [] : List Vec3) : Multiset Vec3) + store.accepted layer key

theorem owed_le_batch {worker : FlushWorker} (orderly : worker.Orderly) (layer : TileLayer)
    (key : String) : (worker.owed layer key : Multiset Vec3) ≤ worker.batch layer key := by
  cases worker with
  | absent => exact le_rfl
  | clearRunning => exact le_rfl
  | working phase persist work =>
    cases phase with
    | finish => exact Multiset.zero_le _
    | deposit => exact orderly.1.owed_le layer key
    | createDirectories => exact FlushWork.Orderly.owed_le orderly layer key
    | write => exact FlushWork.Orderly.owed_le orderly layer key
    | requeue => exact FlushWork.Orderly.owed_le orderly layer key

theorem Accounted.conserves (held : self.Accounted .exactly initial) : self.Conserves initial := by
  refine ⟨?_, ?_⟩
  · intro layer key
    have within := owed_le_batch held.orderly layer key
    refine (held.meets layer key).le.trans ?_
    unfold contents inFlight
    calc _ ≤ (self.filePoints layer key + self.dirtyTiles.points layer key +
          self.failedBatch.points layer key + self.flushCall.batch layer key +
          self.worker.batch layer key : Multiset Vec3) := by gcongr
      _ = _ := by abel
  · intro quiet layer key
    unfold quiescent at quiet
    split at quiet
    · rename_i call worker
      have account : self.contents layer key = _ := held.meets layer key
      simpa [contents, call, worker, FlushCall.batch, FlushWorker.owed] using account
    · exact absurd quiet Bool.false_ne_true

theorem accounted_run (config : TileStoreConfig)
    (initial : TileLayer → String → Option (List Vec3)) :
    ∀ calls, (∀ event ∈ (tileStore config initial).trace calls,
        Undisturbed account config event) →
      ((tileStore config initial).run calls).Accounted account initial := by
  intro calls
  induction calls with
  | nil => exact fun _ => accounted_start
  | cons call older ih =>
    intro undisturbed
    obtain ⟨latest, earlier⟩ := List.forall_mem_cons.mp undisturbed
    exact (ih earlier).step latest

/-- In an undisturbed run, the flush of the tiles conserves their points. -/
theorem flush_conserves_points (config : TileStoreConfig)
    (initial : TileLayer → String → Option (List Vec3)) {calls : List TileStoreStep}
    (undisturbed : ∀ event ∈ (tileStore config initial).trace calls,
      Undisturbed .exactly config event) :
    ((tileStore config initial).run calls).Conserves initial ∧
      ∀ newer older, calls = newer ++ older → ∀ layer key,
        (((tileStore config initial).run older).filePoints layer key : Multiset Vec3) ≤
          ((tileStore config initial).run calls).filePoints layer key := by
  refine ⟨(accounted_run config initial calls undisturbed).conserves, ?_⟩
  rintro newer older rfl layer key
  -- Each newer step keeps the points of the file.
  induction newer with
  | nil => exact le_rfl
  | cons call newer ih =>
    obtain ⟨latest, earlier⟩ := List.forall_mem_cons.mp undisturbed
    exact (ih earlier).trans (step_filePoints_le latest layer key)

def untroubled (event : TileStoreEvent) : Bool :=
  match event.call with
  | .appendPersistentTileLayers _ _ _ => event.before.dirtyTiles.isEmpty
  | .worker result => result = .done && event.before.failedBatch.isEmpty &&
    match event.before.worker with
    | .working .requeue _ _ => false
    | _ => true
  | _ => true

theorem undisturbed_of_untroubled {event : TileStoreEvent} (calm : untroubled event = true) :
    Undisturbed account config event := by
  unfold untroubled at calm
  unfold Undisturbed
  split at calm
  · -- A tile that does not exist lacks no cloud.
    have none := Std.ExtTreeMap.isEmpty_iff.mp calm
    have ready : ∀ goesTo point,
        TileMap.Ready config goesTo event.before.dirtyTiles point := by
      intro goesTo point tile found
      simp [none] at found
    exact fun _ => ⟨fun _ _ _ => ready _ _, fun _ _ _ => ready _ _, fun _ _ _ => ready _ _⟩
  · simp only [Bool.and_eq_true, decide_eq_true_eq] at calm
    obtain ⟨⟨rfl, empty⟩, going⟩ := calm
    have none := Std.ExtTreeMap.isEmpty_iff.mp empty
    simp only [WorkerUndisturbed]
    split
    · exact fun _ _ _ _ unreadable => absurd unreadable (by decide)
    · exact fun layer key _ => by rw [none, TileMap.points_empty]
    · rename_i persist work requeue
      simp [requeue] at going
    · trivial
  · trivial

def tenMeterTiles : TileStoreConfig := { tileSizeM := 10, maxMapSize := 100 }

def pointAndFlush (worker : List TileStoreStep) : List TileStoreStep :=
  worker ++ List.replicate 7 (.flush true) ++
    [.flushDirtyTiles, .appendPersistentTileLayers [⟨1, 2, 3⟩] [] []]

theorem calm_flush_conserves :
    ((tileStore tenMeterTiles fun _ _ => none).run
      (pointAndFlush (List.replicate 9 (.worker .done)))).Conserves fun _ _ => none := by
  refine (flush_conserves_points tenMeterTiles (fun _ _ => none) ?_).1
  have calm : ((tileStore tenMeterTiles fun _ _ => none).trace
      (pointAndFlush (List.replicate 9 (.worker .done)))).all untroubled = true := by
    with_unfolding_all decide
  exact fun event member => undisturbed_of_untroubled (List.all_eq_true.mp calm event member)

theorem exception_after_write_repeats :
    ¬∀ (config : TileStoreConfig) (initial : TileLayer → String → Option (List Vec3))
      (calls : List TileStoreStep), ((tileStore config initial).run calls).Conserves initial := by
  intro conserves
  have twice := (conserves tenMeterTiles (fun _ _ => none)
    (pointAndFlush ([.worker .done, .worker .done, .workerThrows] ++
      List.replicate 7 (.worker .done)))).exactlyOnce
        (by with_unfolding_all decide) .registration "x0_y0"
  exact absurd twice (by with_unfolding_all decide)

end TileStore
end NdtSlam
