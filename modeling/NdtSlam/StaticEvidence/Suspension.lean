import NdtSlam.StaticEvidence.Persistence
import NdtSlam.StaticEvidence.PublishedView

/-! A suspended manifest stays suspended, unless an old snapshot is committed before its epoch. -/

namespace NdtSlam

open StaticObstacleEvidenceIndex

structure ShowsGeneration (generation : Nat) (index : StaticObstacleEvidenceIndex) : Prop where
  working : index.workingGeneration = generation
  shown : index.snapshot.mapGeneration = generation
  revision : index.snapshot.revision ≠ 0

namespace ShowsGeneration

variable {generation : Nat} {index : StaticObstacleEvidenceIndex}

theorem ofSame {after : StaticObstacleEvidenceIndex} (same : SameEvidence index after)
    (shows_ : ShowsGeneration generation index) : ShowsGeneration generation after := by
  refine ⟨?_, ?_, ?_⟩
  · rw [same.workingGeneration, shows_.working]
  · rw [same.snapshot, shows_.shown]
  · rw [same.snapshot]
    exact shows_.revision

theorem publish {stampSec : Scalar} (working : index.workingGeneration = generation) :
    ShowsGeneration generation (index.publishSnapshot stampSec) :=
  ⟨working, working, nextCounter_ne_zero _⟩

theorem reset : ShowsGeneration generation (index.reset generation) := .publish rfl

theorem installAs (prepared : PreparedStaticEvidenceInstall) (current : Nat) :
    ShowsGeneration (prepared.installedAs current).mapGeneration
      (index.installPreparedSnapshot prepared current) := by
  refine ⟨rfl, (prepared.installedAs current).generation_agrees, ?_⟩
  show (prepared.installedAs current).snapshot.revision ≠ 0
  rw [(prepared.installedAs current).revision_agrees]
  exact (prepared.installedAs current).revision_nonzero

theorem install {prepared : PreparedStaticEvidenceInstall} (positive : generation ≠ 0) :
    ShowsGeneration generation (index.installPreparedSnapshot prepared generation) := by
  have installed : (prepared.installedAs generation).mapGeneration = generation := by
    unfold PreparedStaticEvidenceInstall.installedAs
    split_ifs with other
    · rfl
    · exact (not_not.mp fun differs => other ⟨positive, differs⟩).symm
  have shown := @installAs index prepared generation
  rwa [installed] at shown

section

variable (shows_ : ShowsGeneration generation index)
include shows_

theorem load {format : CsvFormat} (file : Option (List format.Line)) (source revision : Nat) :
    ShowsGeneration generation (loadSnapshot format index file generation source revision).1 := by
  -- The file is first read and then prepared for the generation.
  simp only [loadSnapshot]
  cases read : loadSnapshotCandidate format index file source revision with
  | error reason => exact shows_
  | ok candidate =>
    simp only [restoreSnapshotWithoutRevisionIncrement]
    cases ready : index.prepareSnapshotInstall candidate generation with
    | error reason => exact shows_
    | ok prepared =>
      have same : prepared.mapGeneration = generation := by
        rw [← prepared.generation_agrees, (prepareSnapshotInstall_ok ready).1]
        rfl
      have shown := @installAs index prepared 0
      rwa [PreparedStaticEvidenceInstall.installedAs_zero, same] at shown

theorem observe (build : CleanBuild) :
    ShowsGeneration generation (index.observeCleanBuildCells build).1 := by
  by_cases accepted : index.acceptsBuild build = true
  · rcases observe_accepted index build accepted with result | ⟨-, -, result⟩
    · rw [result]
      exact .publish ((digestBuild_generation build).trans shows_.working)
    · rw [result]
      exact ⟨shows_.working, shows_.shown, shows_.revision⟩
  · exact shows_.ofSame (observe_rejected index build (by simpa using accepted))

theorem invalidate (cells : CellKeySet) (version : Nat) (stampSec : Scalar) (mapGeneration : Nat) :
    ShowsGeneration generation
      (index.invalidateCells cells version stampSec mapGeneration).1 := by
  by_cases accepted : version ≠ 0 ∧ index.workingGeneration = mapGeneration
  · have working := (invalidateAll_generation cells version).trans shows_.working
    rw [invalidate_accepted index accepted.1 accepted.2]
    split_ifs with empty
    · -- Nothing is invalidated.
      rw [Std.ExtTreeSet.isEmpty_iff.mp empty]
      exact shows_
    · exact .publish working
  · exact shows_.ofSame (invalidate_rejected index accepted)

theorem confirm (clean : CleanMap) :
    ShowsGeneration generation (index.confirmCleanCells clean).1 := by
  by_cases accepted : clean.cleanBuildVersion ≠ 0 ∧ index.workingGeneration = clean.mapGeneration
  · rw [confirm_accepted index accepted.1 accepted.2]
    refine .publish ?_
    rw [(confirmCells_context clean _).2, invalidateAll_generation, shows_.working]
  · exact shows_.ofSame (confirm_rejected index accepted)

end

end ShowsGeneration

theorem nextCounter_ne_self (counter : Nat) : nextCounter counter ≠ counter := by
  unfold nextCounter
  split_ifs <;> omega

namespace MapChangeStage

def hasMarked : MapChangeStage → Bool
  | .marked _ | .archived _ | .settling _ true => true
  | _ => false

def awaitsIndex : MapChangeStage → Bool
  | .advanced _ _ => true
  | _ => false

end MapChangeStage

namespace EvidenceStore

variable {format : CsvFormat} {settings : PersistenceSettings} {self : EvidenceStore format}

def SuspensionsHold (settings : PersistenceSettings) (store : EvidenceStore format) : Prop :=
  ∀ manifest, store.disk.accepted settings = some manifest →
    ∀ epoch ∈ store.suspensions, epoch < manifest.epochId

def ReportsOwnEpoch (store : EvidenceStore format) : Prop :=
  ∀ write, store.worker = .writing write → write.stage = .snapshotRead →
    store.decideWrite write.snapshot = .alreadyPersisted → store.committedFor = write.epochId

def Undisturbed (event : Event (EvidenceStore format) EvidenceStoreStep) : Prop :=
  event.call = .removeMarker true → ∀ write, event.before.worker = .writing write →
    write.stage = .manifestRenamed → write.premature = false

/-! ### What keeps the suspensions in force -/

structure WriteSound (store : EvidenceStore format) (write : EvidenceWrite) : Prop where
  revision : write.snapshot.revision ≠ 0
  awaits : store.change.awaitsEpoch = true →
    write.premature = true ∧ write.snapshot.mapGeneration = store.staticEvidenceEpoch
  current : write.snapshot.mapGeneration = store.staticEvidenceEpoch →
    write.epochId = store.epochId
  timely : write.stage ≠ .snapshotRead → write.premature = false → write.epochId = store.epochId
  behind : write.stage ≠ .snapshotRead →
    store.disk.marker = true ∨ ∀ epoch ∈ store.suspensions, epoch < write.epochId
  renamed : write.stage = .manifestRenamed →
    ∃ manifest, store.disk.manifest = some manifest ∧ manifest.epochId = write.epochId

structure Sound (store : EvidenceStore format) : Prop where
  epoch : store.staticEvidenceEpoch ≠ 0
  index : store.change.awaitsIndex = false →
    ShowsGeneration store.staticEvidenceEpoch store.index ∧ store.snapshotEpochId = store.epochId
  renewal : ∀ change epoch, store.change = .advanced change epoch →
    epoch = store.staticEvidenceEpoch ∧
      ∃ generation, generation ≠ epoch ∧ ShowsGeneration generation store.index
  past : ∀ epoch ∈ store.suspensions, epoch ≤ store.epochId ∧
    (store.change.awaitsEpoch = false → epoch < store.epochId)
  disk : store.disk.marker = true ∨ ∀ manifest, store.disk.manifest = some manifest →
    ∀ epoch ∈ store.suspensions, epoch < manifest.epochId
  marked : store.change.hasMarked = true → store.disk.marker = true
  awaits : store.change.awaitsEpoch = true → store.lastCommittedRevision = 0 ∧
    (store.disk.marker = true ∨ ∀ epoch ∈ store.suspensions, epoch < store.epochId)
  mutex : store.change.holdsMutex = true → store.worker.isWriting = false
  write : ∀ write, store.worker = .writing write → store.WriteSound write
  committed : store.lastCommittedRevision ≠ 0 → store.committedFor = store.epochId

variable {disk : EvidenceDisk format}

theorem accepted_unmarked {manifest : CommittedManifest}
    (accepted : disk.accepted settings = some manifest) :
    disk.marker = false ∧ disk.manifest = some manifest := by
  unfold EvidenceDisk.accepted at accepted
  split_ifs at accepted with accepts
  · refine ⟨?_, accepted⟩
    -- The marker is looked at before anything else.
    cases marked : disk.marker with
    | false => rfl
    | true => simp [loadPersistentStaticEvidence, marked] at accepts

theorem Sound.suspensionsHold (held : self.Sound) : self.SuspensionsHold settings := by
  intro manifest accepted
  obtain ⟨unmarked, found⟩ := accepted_unmarked accepted
  rcases held.disk with marked | later
  · exact absurd marked (by simp [unmarked])
  · exact later manifest found

variable {snapshot : StaticEvidenceSnapshot}

theorem decideWrite_persisted (reported : self.decideWrite snapshot = .alreadyPersisted) :
    snapshot.mapGeneration = self.staticEvidenceEpoch ∧
      snapshot.revision ≤ self.lastCommittedRevision := by
  unfold decideWrite at reported
  split_ifs at reported with foreign immature known
  exact ⟨not_not.mp foreign, known⟩

theorem decideWrite_due (due : self.decideWrite snapshot = .due) :
    snapshot.mapGeneration = self.staticEvidenceEpoch := by
  unfold decideWrite at due
  split_ifs at due with foreign immature known
  exact not_not.mp foreign

section

variable (held : self.Sound)
include held

theorem Sound.reportsOwnEpoch : self.ReportsOwnEpoch := by
  intro write writing _ reported
  obtain ⟨current, known⟩ := decideWrite_persisted reported
  have sound := held.write write writing
  have positive := sound.revision
  rw [held.committed (by omega), sound.current current]

/-! ### Steps that leave the disk alone -/

theorem Sound.evidence {index : StaticObstacleEvidenceIndex}
    (keeps : ∀ generation, ShowsGeneration generation self.index →
      ShowsGeneration generation index) (persistenceDirty : Bool) :
    Sound { self with index, persistenceDirty } := by
  refine { held with index := ?_, renewal := ?_, write := ?_ }
  · intro settled
    obtain ⟨current, same⟩ := held.index settled
    exact ⟨keeps _ current, same⟩
  · intro change epoch renewing
    obtain ⟨same, generation, old, shown⟩ := held.renewal change epoch renewing
    exact ⟨same, generation, old, keeps _ shown⟩
  · intro write writing
    exact { held.write write writing with }

theorem Sound.withoutWrite {worker : EvidenceWorker} (quiet : worker.isWriting = false)
    (persistenceDirty manifestActive : Bool) (flushCall : Option Bool) (objectsLayer : Bool)
    (indexFiles : String → Option (List format.Line)) :
    Sound { self with
      worker, persistenceDirty, manifestActive, flushCall
      disk := { self.disk with objectsLayer, indexFiles } } := by
  refine { held with mutex := fun _ => quiet, write := ?_ }
  intro write writing
  have busy : worker = .writing write := writing
  rw [busy] at quiet
  exact absurd quiet (by simp [EvidenceWorker.isWriting])

theorem Sound.takeFlag : (self.takeFlag settings).Sound := by
  unfold EvidenceStore.takeFlag
  split_ifs
  · refine { held with write := ?_ }
    intro write writing
    exact { held.write write writing with }
  · exact held

theorem Sound.giveBack (flushCall : Option Bool) (persistenceDirty : Bool) :
    Sound { self with flushCall, persistenceDirty } := by
  refine { held with write := ?_ }
  intro write writing
  exact { held.write write writing with }

theorem Sound.startWorker (diskGuard : Bool) :
    (self.startWorker diskGuard).Sound := by
  unfold EvidenceStore.startWorker
  split
  · split_ifs
    · exact held.withoutWrite rfl _ _ _ _ _
    · exact held.giveBack _ _
  · exact held.giveBack _ _
  · exact held

theorem Sound.endFlush : self.endFlush.Sound := by
  unfold EvidenceStore.endFlush
  split
  · exact held.withoutWrite rfl _ self.manifestActive self.flushCall self.disk.objectsLayer
      self.disk.indexFiles
  · exact held

theorem Sound.writeFails (manifestActive : Bool) :
    Sound { self.writeFails with manifestActive } :=
  held.withoutWrite rfl true manifestActive self.flushCall self.disk.objectsLayer
    self.disk.indexFiles

theorem Sound.beginWrite : self.beginWrite.Sound := by
  unfold EvidenceStore.beginWrite
  split
  · split_ifs with taken
    · exact held
    · refine { held with mutex := fun holds => absurd holds taken, write := ?_ }
      intro write writing
      obtain rfl := EvidenceWorker.writing.inj writing
      cases awaits : self.change.awaitsIndex with
      | false =>
        -- The snapshot is that of the current epoch.
        obtain ⟨shown, same⟩ := held.index awaits
        exact
          { revision := shown.revision
            awaits := fun waits => ⟨waits, shown.shown⟩
            current := fun _ => same
            timely := fun later => absurd rfl later
            behind := fun later => absurd rfl later
            renamed := fun later => absurd later (by simp [readSnapshot]) }
      | true =>
        -- The snapshot is still that of the epoch before, and will be refused.
        obtain ⟨change, epoch, renewing⟩ :
            ∃ change epoch, self.change = .advanced change epoch := by
          unfold MapChangeStage.awaitsIndex at awaits
          split at awaits
          · exact ⟨_, _, by assumption⟩
          · exact absurd awaits (by simp)
        obtain ⟨rfl, generation, old, shown⟩ := held.renewal change epoch renewing
        exact
          { revision := shown.revision
            awaits := fun waits => absurd waits (by rw [renewing]; exact Bool.false_ne_true)
            current := fun same => absurd (shown.shown.symm.trans same) old
            timely := fun later => absurd rfl later
            behind := fun later => absurd rfl later
            renamed := fun later => absurd later (by simp [readSnapshot]) }
  · exact held

/-! ### Steps of a write -/

theorem Sound.writeAt {write : EvidenceWrite}
    (writing : self.worker = .writing write) (stage : WriteStage)
    (indexFiles : String → Option (List format.Line))
    (started : write.stage = .snapshotRead →
      write.snapshot.mapGeneration = self.staticEvidenceEpoch)
    (other : stage ≠ .manifestRenamed) :
    Sound { self.writeAt write stage with disk := { self.disk with indexFiles } } := by
  have sound := held.write write writing
  refine { held with mutex := ?_, write := ?_ }
  · intro holds
    have idle := held.mutex holds
    rw [writing] at idle
    exact absurd idle (by simp [EvidenceWorker.isWriting])
  · intro next going
    obtain rfl := EvidenceWorker.writing.inj going
    refine
      { revision := sound.revision
        awaits := sound.awaits
        current := sound.current
        timely := fun _ timely => ?_
        behind := fun _ => ?_
        renamed := fun same => absurd same other }
    · by_cases first : write.stage = .snapshotRead
      · exact sound.current (started first)
      · exact sound.timely first timely
    · by_cases first : write.stage = .snapshotRead
      · -- The check has found the snapshot to be current.
        show self.disk.marker = true ∨ ∀ epoch ∈ self.suspensions, epoch < write.epochId
        rw [sound.current (started first)]
        cases waits : self.change.awaitsEpoch with
        | true => exact (held.awaits waits).2
        | false => exact .inr fun epoch member => (held.past epoch member).2 waits
      · exact sound.behind first

theorem Sound.checkSnapshot : self.checkSnapshot.Sound := by
  unfold EvidenceStore.checkSnapshot
  split
  · rename_i write writing
    split_ifs
    · split
      · exact held.writeFails self.manifestActive
      · exact held.withoutWrite rfl self.persistenceDirty self.manifestActive self.flushCall
          self.disk.objectsLayer self.disk.indexFiles
      · rename_i due
        exact held.writeAt writing .checked self.disk.indexFiles (fun _ => decideWrite_due due)
          (by simp)
    · exact held
  · exact held

theorem Sound.saveIndex (succeeds : Bool) :
    (self.saveIndex succeeds).Sound := by
  unfold EvidenceStore.saveIndex
  split
  · rename_i write writing
    split_ifs with stage
    · exact held.writeAt writing .indexSaved _ (fun first => absurd (stage.symm.trans first)
        (by simp)) (by simp)
    · exact held.writeFails self.manifestActive
    · exact held
  · exact held

theorem Sound.renameManifest (succeeds : Bool) :
    (self.renameManifest settings succeeds).Sound := by
  unfold EvidenceStore.renameManifest
  split
  · rename_i write writing
    split_ifs with stage
    · have sound := held.write write writing
      have later : write.stage ≠ .snapshotRead := by simp [stage]
      have behind := sound.behind later
      refine { held with disk := ?_, mutex := ?_, write := ?_ }
      · refine behind.imp id ?_
        intro later manifest found
        obtain rfl := Option.some.inj found
        exact later
      · intro holds
        have idle := held.mutex holds
        rw [writing] at idle
        exact absurd idle (by simp [EvidenceWorker.isWriting])
      · intro next going
        obtain rfl := EvidenceWorker.writing.inj going
        exact
          { revision := sound.revision
            awaits := sound.awaits
            current := sound.current
            timely := fun _ => sound.timely later
            behind := fun _ => behind
            renamed := fun _ => ⟨_, rfl, rfl⟩ }
    · exact held.writeFails self.manifestActive
    · exact held
  · exact held

theorem Sound.removeMarker {succeeds : Bool}
    (undisturbed : Undisturbed ⟨self, .removeMarker succeeds⟩) :
    (self.removeMarker succeeds).Sound := by
  unfold EvidenceStore.removeMarker
  split
  · rename_i write writing
    split_ifs with stage succeeded
    · have sound := held.write write writing
      have later : write.stage ≠ .snapshotRead := by simp [stage]
      have timely : write.premature = false :=
        undisturbed (by rw [succeeded]) write writing stage
      have current := sound.timely later timely
      -- A write that is in time does not run while a new epoch is due.
      have settled : self.change.awaitsEpoch = false := by
        rw [Bool.eq_false_iff]
        intro waits
        exact absurd (sound.awaits waits).1 (by simp [timely])
      have released : self.change.holdsMutex = false := by
        rw [Bool.eq_false_iff]
        intro holds
        have idle := held.mutex holds
        rw [writing] at idle
        exact absurd idle (by simp [EvidenceWorker.isWriting])
      have past : ∀ epoch ∈ self.suspensions, epoch < write.epochId := by
        intro epoch member
        rw [current]
        exact (held.past epoch member).2 settled
      refine
        { held with
          disk := .inr ?_
          marked := ?_
          awaits := fun waits => absurd (settled.symm.trans waits) Bool.false_ne_true
          mutex := fun holds => absurd (released.symm.trans holds) Bool.false_ne_true
          write := ?_
          committed := fun _ => current }
      · intro manifest found
        obtain ⟨renamed, same, epoch⟩ := sound.renamed stage
        obtain rfl := Option.some.inj (same.symm.trans found)
        rw [epoch]
        exact past
      · intro marks
        refine absurd released ?_
        revert marks
        show self.change.hasMarked = true → _
        cases self.change <;> simp [MapChangeStage.hasMarked, MapChangeStage.holdsMutex]
      · intro next going
        obtain rfl := EvidenceWorker.writing.inj going
        exact
          { revision := sound.revision
            awaits := fun waits => absurd (settled.symm.trans waits) Bool.false_ne_true
            current := sound.current
            timely := fun _ => sound.timely later
            behind := fun _ => .inr past
            renamed := fun same => absurd same (by simp) }
    · exact held.writeFails false
    · exact held
  · exact held

theorem Sound.retireIndexes (kept : String → Bool) :
    (self.retireIndexes kept).Sound := by
  unfold EvidenceStore.retireIndexes
  split
  · split_ifs
    · exact held.withoutWrite rfl self.persistenceDirty self.manifestActive self.flushCall
        self.disk.objectsLayer _
    · exact held
  · exact held

/-! ### Steps of a change of the map -/

theorem Sound.enterSuspension (enabled : settings.persistentMapEnabled = true)
    (change : MapChange) : (self.enterSuspension settings change).Sound := by
  unfold EvidenceStore.enterSuspension
  split
  · rename_i idle
    rw [if_pos enabled]
    have settled : self.change.awaitsEpoch = false := by rw [idle]; rfl
    refine
      { held with
        index := fun _ => held.index (by rw [idle]; rfl)
        renewal := fun _ _ renewing => absurd renewing (by simp)
        past := fun epoch member =>
          ⟨(held.past epoch member).1, fun _ => (held.past epoch member).2 settled⟩
        marked := fun marks => absurd marks Bool.false_ne_true
        awaits := fun waits => absurd waits Bool.false_ne_true
        mutex := fun holds => absurd holds Bool.false_ne_true
        write := ?_ }
    intro write writing
    exact { held.write write writing with
      awaits := fun waits => absurd waits Bool.false_ne_true }
  · exact held

theorem Sound.suspending (idle : self.worker.isWriting = false)
    (current : self.change.awaitsIndex = false) (settled : self.change.awaitsEpoch = false)
    {change : MapChangeStage} (sound : disk.marker = true ∨ disk = self.disk)
    (marked : change.hasMarked = true → disk.marker = true)
    (stays : change.awaitsIndex = false ∧ change.awaitsEpoch = false) :
    Sound { self with disk, change } := by
  refine
    { held with
      index := fun _ => held.index current
      renewal := ?_
      past := fun epoch member =>
        ⟨(held.past epoch member).1, fun _ => (held.past epoch member).2 settled⟩
      disk := ?_
      marked := marked
      awaits := fun waits => absurd (stays.2.symm.trans waits) Bool.false_ne_true
      mutex := fun _ => idle
      write := ?_ }
  · rintro other epoch renewing
    have renews : change = .advanced other epoch := renewing
    exact absurd stays.1.symm (by rw [renews]; exact Bool.false_ne_true)
  · rcases sound with marker | rfl
    · exact .inl marker
    · exact held.disk
  · intro write writing
    have busy : self.worker = .writing write := writing
    rw [busy] at idle
    exact absurd idle (by simp [EvidenceWorker.isWriting])

variable (succeeds : Bool)

theorem Sound.renameMarker : (self.renameMarker succeeds).Sound := by
  unfold EvidenceStore.renameMarker
  split
  · rename_i change entered
    split_ifs with busy
    · exact held
    · exact held.suspending (by simpa using busy) (by rw [entered]; rfl)
        (by rw [entered]; rfl) (.inl rfl) (fun _ => rfl) ⟨rfl, rfl⟩
    · exact held.suspending (by simpa using busy) (by rw [entered]; rfl)
        (by rw [entered]; rfl) (.inr rfl)
        (fun marks => absurd marks Bool.false_ne_true) ⟨rfl, rfl⟩
  · exact held

theorem Sound.archiveManifest : (self.archiveManifest succeeds).Sound := by
  unfold EvidenceStore.archiveManifest
  split
  · rename_i change marked
    have marker := held.marked (by rw [marked]; rfl)
    have idle := held.mutex (by rw [marked]; rfl)
    have current : self.change.awaitsIndex = false := by rw [marked]; rfl
    have settled : self.change.awaitsEpoch = false := by rw [marked]; rfl
    split_ifs
    all_goals exact held.suspending idle current settled (.inl marker) (fun _ => marker) ⟨rfl, rfl⟩
  · exact held

theorem Sound.removeManifest : (self.removeManifest succeeds).Sound := by
  unfold EvidenceStore.removeManifest
  split
  · rename_i change archived
    have marker := held.marked (by rw [archived]; rfl)
    have idle := held.mutex (by rw [archived]; rfl)
    have current : self.change.awaitsIndex = false := by
      rw [archived]
      rfl
    have settled : self.change.awaitsEpoch = false := by
      rw [archived]
      rfl
    split_ifs
    all_goals exact held.suspending idle current settled (.inl marker) (fun _ => marker) ⟨rfl, rfl⟩
  · exact held

end

theorem afterSuspension_cases (suspended : Bool) (change : MapChange) :
    afterSuspension suspended change = .suspended change ∨
      suspended = false ∧ afterSuspension suspended change = .idle := by
  cases change with
  | installLoadedRuntimeMap prepared =>
    cases suspended with
    | true => exact .inl rfl
    | false => exact .inr ⟨rfl, rfl⟩
  | _ => exact .inl rfl

theorem Sound.endSuspension (held : self.Sound) : self.endSuspension.Sound := by
  unfold EvidenceStore.endSuspension
  split
  · rename_i change suspended settling
    have idle := held.mutex (by rw [settling]; rfl)
    have current := held.index (by rw [settling]; rfl)
    have past := fun epoch member =>
      (held.past epoch member).2 (by rw [settling]; rfl)
    have quiet : ∀ write, self.worker ≠ .writing write := by
      intro write writing
      rw [writing] at idle
      exact absurd idle (by simp [EvidenceWorker.isWriting])
    cases suspended with
    | true =>
      have marker := held.marked (by rw [settling]; rfl)
      have next : afterSuspension true change = .suspended change := by
        rcases afterSuspension_cases true change with next | ⟨failed, -⟩
        · exact next
        · exact absurd failed (by simp)
      rw [next]
      exact
        { epoch := held.epoch
          index := fun _ => current
          renewal := fun _ _ renewing => absurd renewing (by simp)
          past := fun epoch member => by
            refine ⟨?_, fun settled => absurd settled.symm Bool.false_ne_true⟩
            rcases List.mem_cons.mp member with rfl | member
            · exact le_rfl
            · exact (past epoch member).le
          disk := .inl marker
          marked := fun _ => marker
          awaits := fun _ => ⟨rfl, .inl marker⟩
          mutex := fun _ => idle
          write := fun write writing => absurd writing (quiet write)
          committed := fun some => absurd rfl some }
    | false =>
      have waits : (afterSuspension false change).awaitsIndex = false ∧
          (afterSuspension false change).hasMarked = false := by
        rcases afterSuspension_cases false change with next | ⟨-, next⟩
        all_goals
          rw [next]
          exact ⟨rfl, rfl⟩
      exact
        { epoch := held.epoch
          index := fun _ => current
          renewal := fun other epoch renewing => by
            have renews : afterSuspension false change = .advanced other epoch := renewing
            rw [renews] at waits
            exact absurd waits.1.symm Bool.false_ne_true
          past := fun epoch member => ⟨(past epoch member).le, fun _ => past epoch member⟩
          disk := held.disk
          marked := fun marks => absurd (waits.2.symm.trans marks) Bool.false_ne_true
          awaits := fun _ => ⟨rfl, .inr past⟩
          mutex := fun _ => idle
          write := fun write writing => absurd writing (quiet write)
          committed := fun some => absurd rfl some }
  · exact held

theorem Sound.advanceStaticEvidenceEpoch (held : self.Sound) :
    self.advanceStaticEvidenceEpoch.Sound := by
  unfold EvidenceStore.advanceStaticEvidenceEpoch
  split
  · rename_i change suspended
    have waits : self.change.awaitsEpoch = true := by rw [suspended]; rfl
    obtain ⟨shown, -⟩ := held.index (by rw [suspended]; rfl)
    obtain ⟨forgotten, -⟩ := held.awaits waits
    refine
      { epoch := nextCounter_ne_zero _
        index := fun settled => absurd settled.symm Bool.false_ne_true
        renewal := ?_
        past := ?_
        disk := held.disk
        marked := fun marks => absurd marks Bool.false_ne_true
        awaits := fun again => absurd again Bool.false_ne_true
        mutex := fun holds => absurd holds Bool.false_ne_true
        write := ?_
        committed := fun some => absurd forgotten some }
    · intro other epoch renewing
      obtain ⟨-, rfl⟩ := MapChangeStage.advanced.inj renewing
      exact ⟨rfl, _, (nextCounter_ne_self _).symm, shown⟩
    · intro epoch member
      have before := (held.past epoch member).1
      exact ⟨Nat.le_succ_of_le before, fun _ => Nat.lt_succ_of_le before⟩
    · intro write writing
      have sound := held.write write writing
      obtain ⟨premature, old⟩ := sound.awaits waits
      -- A write that is under way has read the snapshot of the old epoch.
      exact
        { revision := sound.revision
          awaits := fun again => absurd again Bool.false_ne_true
          current := fun same => absurd (same.symm.trans old) (nextCounter_ne_self _)
          timely := fun _ timely => absurd premature (by simp [timely])
          behind := sound.behind
          renamed := sound.renamed }
  · exact held

theorem renewedIndex_shows (index : StaticObstacleEvidenceIndex) {epoch : Nat}
    (positive : epoch ≠ 0) (change : MapChange) :
    ShowsGeneration epoch (renewedIndex index epoch change) := by
  cases change with
  | installLoadedRuntimeMap prepared => exact .install positive
  | _ => exact .reset

theorem Sound.renewIndex (held : self.Sound) : self.renewIndex.Sound := by
  unfold EvidenceStore.renewIndex
  split
  · rename_i change epoch advanced
    obtain ⟨rfl, -⟩ := held.renewal change epoch advanced
    have settled : self.change.awaitsEpoch = false := by
      rw [advanced]
      rfl
    refine
      { held with
        index := fun _ => ⟨renewedIndex_shows self.index held.epoch change, rfl⟩
        renewal := fun _ _ renewing => absurd renewing (by simp)
        past := fun epoch member =>
          ⟨(held.past epoch member).1, fun _ => (held.past epoch member).2 settled⟩
        marked := fun marks => absurd marks Bool.false_ne_true
        awaits := fun waits => absurd waits Bool.false_ne_true
        mutex := fun holds => absurd holds Bool.false_ne_true
        write := ?_ }
    intro write writing
    exact { held.write write writing with
      awaits := fun waits => absurd waits Bool.false_ne_true }
  · exact held

/-! ### Whole runs -/

theorem load_shows (disk : EvidenceDisk format) {index : StaticObstacleEvidenceIndex}
    (shows_ : ShowsGeneration 1 index) :
    ShowsGeneration 1 (loadPersistentStaticEvidence settings disk index 1).1 := by
  unfold loadPersistentStaticEvidence
  split_ifs
  · exact shows_
  · split
    · exact shows_
    · rename_i manifest found
      split_ifs
      · exact shows_
      · have loads := shows_.load (disk.indexFiles manifest.staticIndex) manifest.generation
          manifest.revision
        split
        · rename_i unchanged reason loaded
          rw [loaded] at loads
          exact loads
        · rename_i index' loaded
          rw [loaded] at loads
          split_ifs
          · exact .reset
          · exact loads

theorem Sound.boot {epochId : Nat} {suspensions : List Nat}
    (enabled : settings.persistentMapEnabled = true)
    (past : ∀ epoch ∈ suspensions, epoch < epochId)
    (sound : disk.marker = true ∨ ∀ manifest, disk.manifest = some manifest →
      ∀ epoch ∈ suspensions, epoch < manifest.epochId) :
    Sound (EvidenceStore.boot settings disk epochId suspensions) := by
  have shown : ShowsGeneration 1 (configuredIndex settings) := .reset
  have loads := @load_shows format settings disk (configuredIndex settings) shown
  unfold EvidenceStore.boot
  rw [if_pos enabled]
  split
  · rename_i index loaded
    rw [loaded] at loads
    exact
      { epoch := by simp
        index := fun _ => ⟨loads, rfl⟩
        renewal := fun _ _ renewing => absurd renewing (by simp)
        past := fun epoch member => ⟨(past epoch member).le, fun _ => past epoch member⟩
        disk := sound
        marked := fun marks => absurd marks Bool.false_ne_true
        awaits := fun waits => absurd waits Bool.false_ne_true
        mutex := fun _ => rfl
        write := fun _ writing => absurd writing (by simp)
        committed := fun _ => rfl }
  · rename_i index loaded
    rw [loaded] at loads
    exact
      { epoch := by simp
        index := fun _ => ⟨loads, rfl⟩
        renewal := fun _ _ renewing => absurd renewing (by simp)
        past := fun epoch member => ⟨(past epoch member).le, fun _ => past epoch member⟩
        disk := sound
        marked := fun marks => absurd marks Bool.false_ne_true
        awaits := fun waits => absurd waits Bool.false_ne_true
        mutex := fun _ => rfl
        write := fun _ writing => absurd writing (by simp)
        committed := fun some => absurd rfl some }

theorem Sound.step (held : self.Sound) (enabled : settings.persistentMapEnabled = true)
    {call : EvidenceStoreStep} (undisturbed : Undisturbed ⟨self, call⟩) :
    (self.step settings call).Sound := by
  cases call with
  | invalidateCells cells version stampSec mapGeneration =>
    exact held.evidence (fun _ shown => shown.invalidate cells version stampSec mapGeneration) _
  | observeCleanBuildCells build =>
    simp only [EvidenceStore.step, observeBuild]
    split_ifs
    · exact held.evidence (fun _ shown => shown.observe build) self.persistenceDirty
    · exact held
  | confirmCleanCells clean =>
    simp only [EvidenceStore.step, confirmClean]
    split_ifs
    · exact held.evidence (fun _ shown => shown.confirm clean) _
    · exact held
  | flushDirtyTiles => exact held.takeFlag
  | startWorker diskGuard => exact held.startWorker diskGuard
  | endFlush => exact held.endFlush
  | beginWrite => exact held.beginWrite
  | checkSnapshot => exact held.checkSnapshot
  | saveIndex succeeds => exact held.saveIndex succeeds
  | renameManifest succeeds => exact held.renameManifest succeeds
  | removeMarker succeeds => exact held.removeMarker undisturbed
  | retireIndexes kept => exact held.retireIndexes kept
  | enterSuspension change => exact held.enterSuspension enabled change
  | renameMarker succeeds => exact held.renameMarker succeeds
  | archiveManifest succeeds => exact held.archiveManifest succeeds
  | removeManifest succeeds => exact held.removeManifest succeeds
  | endSuspension => exact held.endSuspension
  | advanceStaticEvidenceEpoch => exact held.advanceStaticEvidenceEpoch
  | renewIndex => exact held.renewIndex
  | restart =>
    exact .boot enabled (fun epoch member => Nat.lt_succ_of_le (held.past epoch member).1) held.disk

theorem idle_step (disabled : settings.persistentMapEnabled = false)
    (idle : self.flushCall = none ∧ self.worker = .idle) (call : EvidenceStoreStep) :
    (self.step settings call).flushCall = none ∧ (self.step settings call).worker = .idle := by
  obtain ⟨noCall, noWork⟩ := idle
  cases call with
  | restart => simp [EvidenceStore.step, boot, disabled]
  | invalidateCells | endSuspension | advanceStaticEvidenceEpoch | renewIndex =>
    simp only [EvidenceStore.step, invalidate, EvidenceStore.endSuspension,
      EvidenceStore.advanceStaticEvidenceEpoch, EvidenceStore.renewIndex]
    first
      | exact ⟨noCall, noWork⟩
      | split <;> exact ⟨noCall, noWork⟩
  | observeCleanBuildCells | confirmCleanCells =>
    simp only [EvidenceStore.step, observeBuild, confirmClean]
    split_ifs <;> exact ⟨noCall, noWork⟩
  | enterSuspension | renameMarker | archiveManifest | removeManifest =>
    simp only [EvidenceStore.step, EvidenceStore.enterSuspension, EvidenceStore.renameMarker,
      EvidenceStore.archiveManifest, EvidenceStore.removeManifest]
    split
    · split_ifs <;> exact ⟨noCall, noWork⟩
    · exact ⟨noCall, noWork⟩
  | _ =>
    -- The worker that these steps belong to is not there.
    simp [EvidenceStore.step, EvidenceStore.takeFlag, EvidenceStore.startWorker,
      EvidenceStore.endFlush, EvidenceStore.beginWrite, EvidenceStore.checkSnapshot,
      EvidenceStore.saveIndex, EvidenceStore.renameManifest, EvidenceStore.removeMarker,
      EvidenceStore.retireIndexes, noCall, noWork, disabled]

theorem suspension_disabled (disabled : settings.persistentMapEnabled = false)
    (disk : EvidenceDisk format) (calls : List EvidenceStoreStep) :
    ((evidenceStore settings disk).run calls).SuspensionsHold settings ∧
      ((evidenceStore settings disk).run calls).ReportsOwnEpoch := by
  have idle : ((evidenceStore settings disk).run calls).flushCall = none ∧
      ((evidenceStore settings disk).run calls).worker = .idle := by
    induction calls with
    | nil => simp [Machine.run, evidenceStore, boot, disabled]
    | cons call older ih => exact idle_step disabled ih call
  constructor
  · intro manifest accepted
    exact absurd accepted (by simp [EvidenceDisk.accepted, disabled])
  · intro write writing
    exact absurd (idle.2.symm.trans writing) (by simp)

theorem run_sound (enabled : settings.persistentMapEnabled = true) {calls : List EvidenceStoreStep}
    (undisturbed : ∀ event ∈ (evidenceStore settings disk).trace calls, Undisturbed event) :
    ((evidenceStore settings disk).run calls).Sound := by
  induction calls with
  | nil => exact .boot enabled (by simp) (.inr fun _ _ epoch member => absurd member (by simp))
  | cons call older ih =>
    obtain ⟨calm, earlier⟩ := List.forall_mem_cons.mp undisturbed
    exact (ih earlier).step enabled calm

/-- Suspended evidence stays suspended in every run in which no old snapshot is committed. -/
theorem suspension_holds (settings : PersistenceSettings) (disk : EvidenceDisk format)
    (calls : List EvidenceStoreStep)
    (undisturbed : ∀ event ∈ (evidenceStore settings disk).trace calls, Undisturbed event) :
    ((evidenceStore settings disk).run calls).SuspensionsHold settings ∧
      ((evidenceStore settings disk).run calls).ReportsOwnEpoch := by
  cases enabled : settings.persistentMapEnabled with
  | true => exact ⟨(run_sound enabled undisturbed).suspensionsHold,
      (run_sound enabled undisturbed).reportsOwnEpoch⟩
  | false => exact suspension_disabled enabled disk calls

/-! ### Runs on one map -/

def untroubled (event : Event (EvidenceStore format) EvidenceStoreStep) : Bool :=
  match event.call, event.before.worker with
  | .removeMarker true, .writing write => !write.premature
  | _, _ => true

theorem undisturbed_of_untroubled {events : List (Event (EvidenceStore format) EvidenceStoreStep)}
    (calm : events.all untroubled = true) : ∀ event ∈ events, Undisturbed event := by
  rintro ⟨before, call⟩ member removes write writing -
  have passed := List.all_eq_true.mp calm _ member
  simp only at removes writing
  simpa [untroubled, removes, writing] using passed

def foreignReport (store : EvidenceStore format) : Bool :=
  match store.worker with
  | .writing write =>
    write.stage == .snapshotRead && store.decideWrite write.snapshot == .alreadyPersisted &&
      store.committedFor != write.epochId
  | _ => false

theorem foreignReport_refutes (foreign : self.foreignReport = true) : ¬self.ReportsOwnEpoch := by
  intro owns
  unfold foreignReport at foreign
  split at foreign
  · rename_i write writing
    simp only [Bool.and_eq_true, beq_iff_eq, bne_iff_ne] at foreign
    exact foreign.2 (owns write writing foreign.1.1 foreign.1.2)
  · exact absurd foreign (by simp)

private def oneCellSettings : PersistenceSettings :=
  { evidence :=
      { minimumObservations := 1, minimumStableDurationSec := 0, minimumMatchedCells := 1 } }

private def persistedSnapshot : StaticEvidenceSnapshot :=
  { mapGeneration := 1
    revision := 5
    cells := ({} : CellMap StaticEvidenceCell).insert 5
      { key := 5, consecutiveObservationCount := 4, totalObservationCount := 4
        cleanMapConfirmed := true, temporallyMature := true, mapGeneration := 1 } }

private def persistedDisk : EvidenceDisk plainFormat :=
  (({ objectsLayer := true } : EvidenceDisk plainFormat).saveIndex
    (staticEvidenceIndexFileName 1 5) persistedSnapshot).commit
    { manifestOf oneCellSettings persistedSnapshot with epochId := 0 }

private def confirmingMap (mapGeneration : Nat) : CleanMap :=
  { cleanCells := ({} : CellMap StaticEvidenceCellGeometry).insert 5 { minZ := 0, maxZ := 0 }
    stampSec := 2, mapGeneration }

private def earlySession : PreparedStaticEvidenceInstall :=
  { mapGeneration := 2
    latestObservationSequence := 0
    revision := 1
    authority := .runtimeMature
    workingCells := {}
    snapshot := { mapGeneration := 2, revision := 1 }
    cells_agree := rfl
    generation_agrees := rfl
    revision_agrees := rfl
    revision_nonzero := by simp }

private def flushStarts (mapGeneration : Nat) : List EvidenceStoreStep :=
  [.startWorker true, .flushDirtyTiles, .confirmCleanCells (confirmingMap mapGeneration)]

private def suspends (change : MapChange) : List EvidenceStoreStep :=
  [.endSuspension, .removeManifest true, .archiveManifest true, .renameMarker true,
    .enterSuspension change]

private def commits : List EvidenceStoreStep :=
  [.removeMarker true, .renameManifest true, .saveIndex true, .checkSnapshot, .beginWrite]

private def resetRun : List EvidenceStoreStep :=
  [.restart, .renewIndex, .advanceStaticEvidenceEpoch] ++ suspends .resetService ++
    [.retireIndexes fun _ => false] ++ commits ++ flushStarts 1

theorem reset_suspends_evidence :
    ((evidenceStore oneCellSettings persistedDisk).run resetRun).SuspensionsHold
        oneCellSettings ∧
      ((evidenceStore oneCellSettings persistedDisk).run resetRun).ReportsOwnEpoch :=
  suspension_holds oneCellSettings persistedDisk resetRun
    (undisturbed_of_untroubled (by with_unfolding_all decide))

private def lateCommit (change : MapChange) : List EvidenceStoreStep :=
  commits ++ suspends change ++ flushStarts 1

private def lateReport : List EvidenceStoreStep :=
  [.beginWrite] ++ flushStarts 2 ++
    [.renewIndex, .advanceStaticEvidenceEpoch, .retireIndexes fun _ => false] ++
    lateCommit (.installLoadedRuntimeMap earlySession)

/-- A late commit brings the suspended epoch back, and covers up a session that is loaded. -/
theorem late_commit_revives_epoch :
    (¬∀ (settings : PersistenceSettings) (disk : EvidenceDisk plainFormat)
      (calls : List EvidenceStoreStep),
      ((evidenceStore settings disk).run calls).SuspensionsHold settings) ∧
    ¬∀ (settings : PersistenceSettings) (disk : EvidenceDisk plainFormat)
      (calls : List EvidenceStoreStep),
      ((evidenceStore settings disk).run calls).ReportsOwnEpoch := by
  constructor
  · intro holds
    -- The process stops right after the commit, and the next one accepts the manifest.
    let stopped := (evidenceStore oneCellSettings persistedDisk).run (lateCommit .resetService)
    have accepts : (stopped.disk.accepted oneCellSettings).map (·.epochId) = some 1 := by
      with_unfolding_all decide
    have suspended : (1 : Nat) ∈ stopped.suspensions := by with_unfolding_all decide
    obtain ⟨manifest, accepted, epoch⟩ := Option.map_eq_some_iff.mp accepts
    have later := holds oneCellSettings persistedDisk (lateCommit .resetService) manifest accepted
      1 suspended
    omega
  · intro holds
    -- The write has read a snapshot of the second epoch, but the revision is of the first.
    exact foreignReport_refutes (by with_unfolding_all decide)
      (holds oneCellSettings persistedDisk lateReport)

end EvidenceStore
end NdtSlam
