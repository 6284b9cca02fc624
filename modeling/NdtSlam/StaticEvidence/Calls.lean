import NdtSlam.StaticEvidence.CellView

/-! The static index as a machine, and what one call can do to one cell. -/

namespace NdtSlam

open StaticObstacleEvidenceIndex

inductive IndexCall (format : CsvFormat) where
  | setConfig (config : StaticObstacleEvidenceConfig)
  | reset (mapGeneration : Nat)
  | observeFilteredCells (cells : CellMap StaticEvidenceCellGeometry) (stampSec : Scalar)
      (mapGeneration objectsVersion : Nat)
  | observeCleanBuildCells (build : CleanBuild)
  | invalidateCells (cells : CellKeySet) (version : Nat) (stampSec : Scalar) (mapGeneration : Nat)
  | confirmCleanCells (clean : CleanMap)
  | setSnapshotAuthority (authority : StaticEvidenceAuthority)
  | loadSnapshot (file : Option (List format.Line))
      (currentMapGeneration expectedSourceGeneration expectedRevision : Nat)
  | restoreSnapshotWithoutRevisionIncrement (candidate : StaticEvidenceSnapshot)
      (currentMapGeneration : Nat)
  | installPreparedSnapshot (prepared : PreparedStaticEvidenceInstall) (currentMapGeneration : Nat)

inductive IndexAnswer where
  | done
  | observed (snapshotChanged : Bool)
  | mutated (result : StaticEvidenceMutationResult)
  | restored (outcome : Except String Unit)

variable {format : CsvFormat}

def indexStep (index : StaticObstacleEvidenceIndex) :
    IndexCall format → StaticObstacleEvidenceIndex × IndexAnswer
  | .setConfig config => (setConfig config, .done)
  | .reset mapGeneration => (index.reset mapGeneration, .done)
  | .observeFilteredCells cells stampSec mapGeneration objectsVersion =>
    let (next, changed) := index.observeFilteredCells cells stampSec mapGeneration objectsVersion
    (next, .observed changed)
  | .observeCleanBuildCells build =>
    let (next, changed) := index.observeCleanBuildCells build
    (next, .observed changed)
  | .invalidateCells cells version stampSec mapGeneration =>
    let (next, result) := index.invalidateCells cells version stampSec mapGeneration
    (next, .mutated result)
  | .confirmCleanCells clean =>
    let (next, result) := index.confirmCleanCells clean
    (next, .mutated result)
  | .setSnapshotAuthority authority => (index.setSnapshotAuthority authority, .done)
  | .loadSnapshot file current source revision =>
    let (next, outcome) := loadSnapshot format index file current source revision
    (next, .restored outcome)
  | .restoreSnapshotWithoutRevisionIncrement candidate current =>
    let (next, outcome) := index.restoreSnapshotWithoutRevisionIncrement candidate current
    (next, .restored outcome)
  | .installPreparedSnapshot prepared current =>
    (index.installPreparedSnapshot prepared current, .done)

def indexMachine (format : CsvFormat) (config : StaticObstacleEvidenceConfig) :
    Machine StaticObstacleEvidenceIndex (IndexCall format) IndexAnswer :=
  { start := setConfig config, step := indexStep }

namespace IndexCall

variable (index : StaticObstacleEvidenceIndex)

def build? : IndexCall format → Option CleanBuild
  | .observeFilteredCells cells stampSec mapGeneration objectsVersion =>
    some (filteredBuild cells stampSec mapGeneration objectsVersion)
  | .observeCleanBuildCells build => some build
  | _ => none

def installs : IndexCall format → Option PreparedStaticEvidenceInstall
  | .loadSnapshot file current source revision =>
    match loadSnapshotCandidate format index file source revision with
    | .ok candidate => (index.prepareSnapshotInstall candidate current).toOption
    | .error _ => none
  | .restoreSnapshotWithoutRevisionIncrement candidate current =>
    (index.prepareSnapshotInstall candidate current).toOption
  | .installPreparedSnapshot prepared current => some (prepared.installedAs current)
  | _ => none

def OpensEpoch : IndexCall format → Prop
  | .setConfig _ | .reset _ => True
  | call => (call.installs index).isSome = true

def ReportsFree (key : Int) (version : Nat) (call : IndexCall format) : Prop :=
  ∃ build, call.build? = some build ∧ index.acceptsBuild build = true ∧
    build.reportsFree key = true ∧ build.objectsVersion = version

def SightsOccupied (key : Int) (call : IndexCall format) : Prop :=
  ∃ build, call.build? = some build ∧ index.acceptsBuild build = true ∧
    build.reportsOccupied key = true

def Invalidates (key : Int) (version : Nat) : IndexCall format → Prop
  | .invalidateCells cells given _ mapGeneration =>
    given ≠ 0 ∧ index.workingGeneration = mapGeneration ∧ cells.contains key = true ∧
      given = version
  | .confirmCleanCells clean =>
    clean.cleanBuildVersion ≠ 0 ∧ index.workingGeneration = clean.mapGeneration ∧
      clean.invalidatedCells.contains key = true ∧ clean.cleanBuildVersion = version
  | _ => False

/-- The operation hands over evidence of another map generation. -/
def ForeignGeneration : IndexCall format → Prop
  | .observeFilteredCells _ _ mapGeneration _ => index.workingGeneration ≠ mapGeneration
  | .observeCleanBuildCells build => index.workingGeneration ≠ build.mapGeneration
  | .invalidateCells _ _ _ mapGeneration => index.workingGeneration ≠ mapGeneration
  | .confirmCleanCells clean => index.workingGeneration ≠ clean.mapGeneration
  | _ => False

end IndexCall

structure SameEvidence (before after : StaticObstacleEvidenceIndex) : Prop where
  config : after.config = before.config
  workingCells : after.workingCells = before.workingCells
  invalidatedVersions : after.invalidatedVersions = before.invalidatedVersions
  observedFreeTombstones : after.observedFreeTombstones = before.observedFreeTombstones
  workingGeneration : after.workingGeneration = before.workingGeneration
  latestObservationSequence : after.latestObservationSequence = before.latestObservationSequence
  revision : after.revision = before.revision
  authority : after.authority = before.authority
  snapshot : after.snapshot = before.snapshot

variable (index : StaticObstacleEvidenceIndex)

theorem SameEvidence.refl : SameEvidence index index :=
  ⟨rfl, rfl, rfl, rfl, rfl, rfl, rfl, rfl, rfl⟩

theorem SameEvidence.view {before after : StaticObstacleEvidenceIndex}
    (same : SameEvidence before after) (key : Int) : after.view key = before.view key := by
  unfold StaticObstacleEvidenceIndex.view
  rw [same.config, same.workingCells, same.invalidatedVersions, same.observedFreeTombstones,
    same.workingGeneration, same.latestObservationSequence]

namespace StaticObstacleEvidenceIndex

variable (self : StaticObstacleEvidenceIndex)

theorem countMismatch_same :
    SameEvidence self self.countMismatch :=
  ⟨rfl, rfl, rfl, rfl, rfl, rfl, rfl, rfl, rfl⟩

theorem observe_rejected (build : CleanBuild) (rejected : self.acceptsBuild build = false) :
    SameEvidence self (self.observeCleanBuildCells build).1 := by
  unfold observeCleanBuildCells
  split_ifs with unusable foreign stale rollback
  · exact .refl self
  · exact self.countMismatch_same
  · -- A rollback moves only the stamp that new builds are compared with.
    exact ⟨rfl, rfl, rfl, rfl, rfl, rfl, rfl, rfl, rfl⟩
  · exact .refl self
  · -- A build that passes all the tests is accepted.
    simp_all [acceptsBuild]

theorem observe_accepted (build : CleanBuild) (accepted : self.acceptsBuild build = true) :
    (self.observeCleanBuildCells build).1
        = (self.digestBuild build).index.publishSnapshot build.stampSec ∨
      build.occupiedCells.isEmpty = true ∧ build.observedFreeCells.isEmpty = true ∧
        (self.observeCleanBuildCells build).1 = self.beginBuild build := by
  unfold acceptsBuild at accepted
  simp only [Bool.and_eq_true, Bool.not_eq_true', beq_iff_eq] at accepted
  obtain ⟨⟨usable, own⟩, fresh⟩ := accepted
  unfold observeCleanBuildCells
  rw [if_neg (by simp [usable]), if_neg (by simp [own]), if_neg (by simp [fresh])]
  by_cases publishes : ((self.digestBuild build).snapshotChanged ||
      !build.occupiedCells.isEmpty || !build.observedFreeCells.isEmpty) = true
  · left
    simp only [if_pos publishes]
  · right
    simp only [if_neg publishes]
    simp only [Bool.or_eq_true, Bool.not_eq_true', not_or, Bool.not_eq_false] at publishes
    obtain ⟨⟨-, noOccupied⟩, noFree⟩ := publishes
    refine ⟨noOccupied, noFree, ?_⟩
    -- Without any cell to digest, both folds are over the empty list.
    have occupied : build.occupiedCells.toList = [] :=
      List.isEmpty_iff.mp (Std.ExtTreeMap.isEmpty_toList.trans noOccupied)
    have free : build.observedFreeCells.toList = [] :=
      List.isEmpty_iff.mp (Std.ExtTreeSet.isEmpty_toList.trans noFree)
    unfold digestBuild
    rw [occupied, free]
    rfl

theorem invalidate_accepted {cells : CellKeySet} {version mapGeneration : Nat} {stampSec : Scalar}
    (versioned : version ≠ 0) (own : self.workingGeneration = mapGeneration) :
    (self.invalidateCells cells version stampSec mapGeneration).1
      = if cells.isEmpty then self.invalidateAll cells version
        else (self.invalidateAll cells version).publishSnapshot stampSec := by
  unfold invalidateCells
  rw [if_neg (by simp [versioned]), if_neg (by simp [own])]

theorem confirm_accepted {clean : CleanMap} (versioned : clean.cleanBuildVersion ≠ 0)
    (own : self.workingGeneration = clean.mapGeneration) :
    (self.confirmCleanCells clean).1
      = (clean.cleanCells.toList.foldl (confirmCell clean)
          (self.invalidateAll clean.invalidatedCells clean.cleanBuildVersion, 0)).1.publishSnapshot
            clean.stampSec := by
  unfold confirmCleanCells
  rw [if_neg (by simp [versioned]), if_neg (by simp [own])]

theorem invalidate_rejected {cells : CellKeySet} {version mapGeneration : Nat} {stampSec : Scalar}
    (rejected : ¬(version ≠ 0 ∧ self.workingGeneration = mapGeneration)) :
    SameEvidence self (self.invalidateCells cells version stampSec mapGeneration).1 := by
  unfold invalidateCells
  split_ifs with unversioned foreign
  · exact .refl self
  · exact self.countMismatch_same
  · exfalso
    apply rejected
    simpa using And.intro unversioned foreign
  · exfalso
    apply rejected
    simpa using And.intro unversioned foreign

theorem confirm_rejected {clean : CleanMap}
    (rejected : ¬(clean.cleanBuildVersion ≠ 0 ∧ self.workingGeneration = clean.mapGeneration)) :
    SameEvidence self (self.confirmCleanCells clean).1 := by
  unfold confirmCleanCells
  split_ifs with unversioned foreign
  · exact .refl self
  · exact self.countMismatch_same
  · exfalso
    apply rejected
    simpa using And.intro unversioned foreign

theorem restore_eq (candidate : StaticEvidenceSnapshot) (current : Nat) :
    (self.restoreSnapshotWithoutRevisionIncrement candidate current).1
      = match (self.prepareSnapshotInstall candidate current).toOption with
        | some prepared => self.installPreparedSnapshot prepared 0
        | none => self := by
  unfold restoreSnapshotWithoutRevisionIncrement
  cases self.prepareSnapshotInstall candidate current <;> rfl

theorem loadSnapshot_eq (file : Option (List format.Line)) (current source revision : Nat) :
    (loadSnapshot format self file current source revision).1
      = match (IndexCall.loadSnapshot file current source revision).installs self with
        | some prepared => self.installPreparedSnapshot prepared 0
        | none => self := by
  simp only [loadSnapshot, IndexCall.installs]
  -- The file is first read and then prepared, and both must succeed.
  cases read : loadSnapshotCandidate format self file source revision with
  | error reason => rfl
  | ok candidate => exact restore_eq self candidate current

end StaticObstacleEvidenceIndex

/-- What a call does to the evidence of one cell and to the way a snapshot shows it. -/
inductive CellChange (index : StaticObstacleEvidenceIndex) (call : IndexCall format) (key : Int) :
    CellView → Option StaticEvidenceCell → Prop where
  | kept (sameEpoch : ¬call.OpensEpoch index)
      (noBuild : ∀ build, call.build? = some build → index.acceptsBuild build = false)
      (noInvalidation : ∀ version, ¬call.Invalidates index key version) :
      CellChange index call key (index.view key) index.snapshot.cells[key]?
  | emptied (config : StaticObstacleEvidenceConfig) (generation : Nat)
      (opens : call.OpensEpoch index) :
      CellChange index call key ⟨config, generation, 0, none, none, false⟩ none
  | adopted (prepared : PreparedStaticEvidenceInstall)
      (installs : call.installs index = some prepared) :
      CellChange index call key
        ⟨index.config, prepared.mapGeneration, prepared.latestObservationSequence,
          prepared.snapshot.cells[key]?, none, false⟩ prepared.snapshot.cells[key]?
  | digested (build : CleanBuild) (hands : call.build? = some build)
      (accepted : index.acceptsBuild build = true) :
      CellChange index call key (((index.beginBuild build).view key).digest build key)
        (((index.beginBuild build).view key).digest build key).published
  | unpublished (build : CleanBuild) (hands : call.build? = some build)
      (accepted : index.acceptsBuild build = true)
      (nothing : build.reportsFree key = false ∧ build.reportsOccupied key = false) :
      CellChange index call key ((index.beginBuild build).view key) index.snapshot.cells[key]?
  | invalidated (cells : CellKeySet) (version : Nat) (stampSec : Scalar) (mapGeneration : Nat)
      (hands : call = .invalidateCells cells version stampSec mapGeneration)
      (versioned : version ≠ 0) (own : index.workingGeneration = mapGeneration) :
      CellChange index call key ((index.view key).invalidateIn cells version key)
        ((index.view key).invalidateIn cells version key).published
  | confirmed (clean : CleanMap) (hands : call = .confirmCleanCells clean)
      (versioned : clean.cleanBuildVersion ≠ 0)
      (own : index.workingGeneration = clean.mapGeneration) :
      CellChange index call key
        (((index.view key).invalidateIn clean.invalidatedCells clean.cleanBuildVersion key).confirmIn
          clean key)
        (((index.view key).invalidateIn clean.invalidatedCells clean.cleanBuildVersion key).confirmIn
          clean key).published
  | republished (authority : StaticEvidenceAuthority)
      (hands : call = .setSnapshotAuthority authority) :
      CellChange index call key (index.view key) (index.view key).published

variable {index : StaticObstacleEvidenceIndex} {call : IndexCall format} {key : Int}
  {after : StaticObstacleEvidenceIndex}

theorem CellChange.ofSame (same : SameEvidence index after) (sameEpoch : ¬call.OpensEpoch index)
    (noBuild : ∀ build, call.build? = some build → index.acceptsBuild build = false)
    (noInvalidation : ∀ version, ¬call.Invalidates index key version) :
    CellChange index call key (after.view key) after.snapshot.cells[key]? := by
  rw [same.view, same.snapshot]
  exact .kept sameEpoch noBuild noInvalidation

theorem CellChange.ofBuild {build : CleanBuild} (hands : call.build? = some build)
    (sameEpoch : ¬call.OpensEpoch index)
    (noInvalidation : ∀ version, ¬call.Invalidates index key version) :
    CellChange index call key ((index.observeCleanBuildCells build).1.view key)
      (index.observeCleanBuildCells build).1.snapshot.cells[key]? := by
  by_cases accepted : index.acceptsBuild build = true
  · -- An accepted build is either published, or it has nothing to say about any cell.
    rcases observe_accepted index build accepted with result | ⟨noOccupied, noFree, result⟩
    · rw [result, publishSnapshot_cell, publishSnapshot_view, digestBuild_view]
      exact .digested build hands accepted
    · rw [result]
      refine .unpublished build hands accepted ⟨?_, ?_⟩
      · have empty := Std.ExtTreeSet.isEmpty_iff.mp noFree
        simp [CleanBuild.reportsFree, empty]
      · have empty := Std.ExtTreeMap.isEmpty_iff.mp noOccupied
        simp [CleanBuild.reportsOccupied, empty]
  · have rejected : index.acceptsBuild build = false := by simpa using accepted
    refine .ofSame (observe_rejected index build rejected) sameEpoch ?_ noInvalidation
    intro other given
    obtain rfl : build = other := Option.some.inj (hands.symm.trans given)
    exact rejected

theorem CellChange.ofInstall (epoch : call.OpensEpoch index ↔ (call.installs index).isSome = true)
    (noBuild : call.build? = none) (noInvalidation : ∀ version, ¬call.Invalidates index key version)
    (result : after = match call.installs index with
      | some prepared => index.installPreparedSnapshot prepared 0
      | none => index) :
    CellChange index call key (after.view key) after.snapshot.cells[key]? := by
  cases installed : call.installs index with
  | some prepared =>
    rw [installed] at result
    subst result
    have shown : (index.installPreparedSnapshot prepared 0).view key
        = ⟨index.config, prepared.mapGeneration, prepared.latestObservationSequence,
            prepared.snapshot.cells[key]?, none, false⟩ := by
      simp [installPreparedSnapshot, view, prepared.cells_agree]
    rw [shown]
    exact .adopted prepared installed
  | none =>
    rw [installed] at result
    subst result
    refine .kept ?_ ?_ noInvalidation
    · rw [epoch, installed]
      simp
    · intro build given
      rw [noBuild] at given
      exact absurd given (by simp)

theorem indexStep_cell (index : StaticObstacleEvidenceIndex) (call : IndexCall format)
    (key : Int) :
    CellChange index call key ((indexStep index call).1.view key)
      (indexStep index call).1.snapshot.cells[key]? := by
  cases call with
  | setConfig config => exact .emptied _ 0 trivial
  | reset mapGeneration =>
    have shown : (index.reset mapGeneration).view key
        = ⟨index.config, mapGeneration, 0, none, none, false⟩ := by
      simp [reset, publishSnapshot, view]
    show CellChange index _ key _ (index.reset mapGeneration).snapshot.cells[key]?
    rw [reset, publishSnapshot_cell]
    exact .emptied _ mapGeneration trivial
  | observeFilteredCells cells stampSec mapGeneration objectsVersion =>
    exact .ofBuild rfl (by simp [IndexCall.OpensEpoch, IndexCall.installs])
      (by simp [IndexCall.Invalidates])
  | observeCleanBuildCells build =>
    exact .ofBuild rfl (by simp [IndexCall.OpensEpoch, IndexCall.installs])
      (by simp [IndexCall.Invalidates])
  | invalidateCells cells version stampSec mapGeneration =>
    by_cases accepted : version ≠ 0 ∧ index.workingGeneration = mapGeneration
    · have result := @invalidate_accepted index cells version mapGeneration stampSec
        accepted.1 accepted.2
      simp only [indexStep]
      -- An empty set of cells is not even published.
      cases empty : cells.isEmpty with
      | false =>
        rw [result, if_neg (by simp [empty]), publishSnapshot_cell, publishSnapshot_view,
          invalidateAll_view]
        exact .invalidated cells version stampSec mapGeneration rfl accepted.1 accepted.2
      | true =>
        have none : cells = ∅ := Std.ExtTreeSet.isEmpty_iff.mp empty
        rw [result, if_pos empty, none]
        refine .kept ?_ ?_ ?_
        · simp [IndexCall.OpensEpoch, IndexCall.installs]
        · simp [IndexCall.build?]
        · intro recorded invalidates
          simp [IndexCall.Invalidates] at invalidates
    · refine .ofSame (invalidate_rejected index accepted) ?_ ?_ ?_
      · simp [IndexCall.OpensEpoch, IndexCall.installs]
      · simp [IndexCall.build?]
      · intro recorded invalidates
        exact accepted ⟨invalidates.1, invalidates.2.1⟩
  | confirmCleanCells clean =>
    by_cases accepted : clean.cleanBuildVersion ≠ 0 ∧ index.workingGeneration = clean.mapGeneration
    · have result := confirm_accepted index accepted.1 accepted.2
      simp only [indexStep]
      rw [result, publishSnapshot_cell, publishSnapshot_view, confirmCells_view,
        invalidateAll_view]
      exact .confirmed clean rfl accepted.1 accepted.2
    · refine .ofSame (confirm_rejected index accepted) ?_ ?_ ?_
      · simp [IndexCall.OpensEpoch, IndexCall.installs]
      · simp [IndexCall.build?]
      · intro recorded invalidates
        exact accepted ⟨invalidates.1, invalidates.2.1⟩
  | setSnapshotAuthority authority =>
    show CellChange index _ key (index.view key) (publishSnapshot _ _).snapshot.cells[key]?
    rw [publishSnapshot_cell]
    exact .republished authority rfl
  | loadSnapshot file current source revision =>
    exact .ofInstall Iff.rfl rfl (by simp [IndexCall.Invalidates])
      (loadSnapshot_eq index file current source revision)
  | restoreSnapshotWithoutRevisionIncrement candidate current =>
    exact .ofInstall Iff.rfl rfl (by simp [IndexCall.Invalidates])
      (restore_eq index candidate current)
  | installPreparedSnapshot prepared current =>
    exact .ofInstall Iff.rfl rfl (by simp [IndexCall.Invalidates]) rfl

end NdtSlam
