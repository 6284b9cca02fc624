import NdtSlam.StaticEvidence.Tombstones

/-! Visibly free cells are remembered only if they were working when they were seen free. -/

namespace NdtSlam

open StaticObstacleEvidenceIndex

variable {format : CsvFormat} {index : StaticObstacleEvidenceIndex} {call : IndexCall format}
  {key : Int}

def FreedWhileWorking (key : Int) (event : IndexEvent format) : Prop :=
  (∃ version, event.call.ReportsFree event.before key version) ∧
    event.before.workingCells[key]?.isSome = true

def KeepsFree (key : Int) (event : IndexEvent format) : Prop :=
  ¬event.OpensEpoch ∧ ¬event.call.SightsOccupied event.before key

/-! ### What a call does to the tombstone of a cell that was seen free -/

theorem IndexCall.ReportsFree.not_sightsOccupied {version : Nat}
    (free : call.ReportsFree index key version) : ¬call.SightsOccupied index key := by
  rintro ⟨other, handed, -, occupied⟩
  obtain ⟨build, hands, -, reported, -⟩ := free
  obtain rfl : build = other := Option.some.inj (hands.symm.trans handed)
  -- Reporting the cell as free excludes it from the occupied ones.
  have listed : build.observedFreeCells.contains key = true := by
    simp only [CleanBuild.reportsFree, Bool.and_eq_true] at reported
    exact reported.1
  unfold CleanBuild.reportsOccupied at occupied
  split at occupied
  · simp [countsOccupied, listed] at occupied
  · exact absurd occupied (by simp)

inductive FreeTombstoneChange (index : StaticObstacleEvidenceIndex) (call : IndexCall format)
    (key : Int) : Bool → Prop where
  | lifted (lifts : call.OpensEpoch index ∨ call.SightsOccupied index key) :
      FreeTombstoneChange index call key false
  | laid {version : Nat} (reports : call.ReportsFree index key version) :
      FreeTombstoneChange index call key
        (index.observedFreeTombstones.contains key || index.workingCells[key]?.isSome)
  | kept (sameEpoch : ¬call.OpensEpoch index) (noSight : ¬call.SightsOccupied index key)
      (noReport : ∀ version, ¬call.ReportsFree index key version) :
      FreeTombstoneChange index call key (index.observedFreeTombstones.contains key)

theorem FreeTombstoneChange.ofNoBuild (sameEpoch : ¬call.OpensEpoch index)
    (noBuild : ∀ build, call.build? = some build → index.acceptsBuild build = false) :
    FreeTombstoneChange index call key (index.observedFreeTombstones.contains key) := by
  refine .kept sameEpoch ?_ ?_
  · rintro ⟨build, hands, accepted, -⟩
    exact absurd accepted (by simp [noBuild build hands])
  · rintro version ⟨build, hands, accepted, -⟩
    exact absurd accepted (by simp [noBuild build hands])

@[simp] theorem CellView.invalidateIn_freeTombstone (cells : CellKeySet) (version : Nat)
    (view : CellView) :
    (view.invalidateIn cells version key).freeTombstone = view.freeTombstone := by
  unfold invalidateIn invalidate
  split <;> rfl

@[simp] theorem CellView.confirmIn_freeTombstone (clean : CleanMap) (view : CellView) :
    (view.confirmIn clean key).freeTombstone = view.freeTombstone := by
  unfold confirmIn confirm
  repeat' split
  all_goals rfl

theorem CellView.occupy_freeTombstone (build : CleanBuild) (view : CellView) :
    (view.occupy build key).freeTombstone
      = if build.reportsOccupied key then false else view.freeTombstone := by
  unfold occupy CleanBuild.reportsOccupied
  cases build.occupiedCells[key]? with
  | none => rfl
  | some geometry =>
    simp only
    split <;> rfl

theorem FreeTombstoneChange.ofBuild {build : CleanBuild} (hands : call.build? = some build)
    (accepted : index.acceptsBuild build = true) :
    FreeTombstoneChange index call key
      (((index.beginBuild build).view key).digest build key).freeTombstone := by
  obtain ⟨sameEpoch, -⟩ := @IndexCall.build_only _ index call key build hands
  rw [CellView.digest, CellView.occupy_freeTombstone]
  -- Occupied cells come first, then visibly free ones, then those that the build does not show.
  by_cases occupied : build.reportsOccupied key = true
  · rw [if_pos occupied]
    exact .lifted (.inr ⟨build, hands, accepted, occupied⟩)
  · rw [if_neg occupied]
    by_cases free : build.reportsFree key = true
    · rw [if_pos free]
      exact .laid ⟨build, hands, accepted, free, rfl⟩
    · rw [if_neg free]
      refine .kept sameEpoch ?_ ?_
      · rintro ⟨other, handed, -, sighted⟩
        obtain rfl : build = other := Option.some.inj (hands.symm.trans handed)
        exact occupied sighted
      · rintro version ⟨other, handed, -, reported, -⟩
        obtain rfl : build = other := Option.some.inj (hands.symm.trans handed)
        exact free reported

theorem CellChange.freeTombstone {after : CellView} {shown : Option StaticEvidenceCell}
    (change : CellChange index call key after shown) :
    FreeTombstoneChange index call key after.freeTombstone := by
  cases change with
  | kept sameEpoch noBuild noInvalidation => exact .ofNoBuild sameEpoch noBuild
  | emptied config generation opens => exact .lifted (.inl opens)
  | adopted prepared installed =>
    exact .lifted (.inl (IndexCall.opensEpoch_of_installs installed))
  | digested build hands accepted => exact .ofBuild hands accepted
  | unpublished build hands accepted nothing =>
    have change := @FreeTombstoneChange.ofBuild _ index call key build hands accepted
    rw [CellView.digest, CellView.occupy_freeTombstone, nothing.2, nothing.1] at change
    exact change
  | invalidated cells version stampSec mapGeneration hands versioned own =>
    subst hands
    rw [CellView.invalidateIn_freeTombstone]
    refine .ofNoBuild ?_ ?_
    · simp [IndexCall.OpensEpoch, IndexCall.installs]
    · simp [IndexCall.build?]
  | confirmed clean hands versioned own =>
    subst hands
    rw [CellView.confirmIn_freeTombstone, CellView.invalidateIn_freeTombstone]
    refine .ofNoBuild ?_ ?_
    · simp [IndexCall.OpensEpoch, IndexCall.installs]
    · simp [IndexCall.build?]
  | republished authority hands =>
    subst hands
    refine .ofNoBuild ?_ ?_
    · simp [IndexCall.OpensEpoch, IndexCall.installs]
    · simp [IndexCall.build?]

/-! ### Tombstones over whole runs -/

theorem freeTombstone_step {past : List (IndexEvent format)} {after : Bool}
    (before : index.observedFreeTombstones.contains key = true ↔
      Since (KeepsFree key) (FreedWhileWorking key) past)
    (change : FreeTombstoneChange index call key after) :
    after = true ↔ Since (KeepsFree key) (FreedWhileWorking key) (⟨index, call⟩ :: past) := by
  cases change with
  | lifted lifts =>
    refine ⟨by simp, ?_⟩
    intro since
    exfalso
    rcases since.uncons with ⟨⟨version, reports⟩, -⟩ | ⟨⟨sameEpoch, noSight⟩, -⟩
    · -- A call that reports the cell as free does not lift its tombstone.
      rcases lifts with opens | sights
      · obtain ⟨build, hands, -⟩ := reports
        exact (@IndexCall.build_only _ index call key build hands).1 opens
      · exact reports.not_sightsOccupied sights
    · exact lifts.elim sameEpoch noSight
  | @laid version reports =>
    obtain ⟨build, hands, reported⟩ := reports
    have harmless : KeepsFree key (⟨index, call⟩ : IndexEvent format) :=
      ⟨(@IndexCall.build_only _ index call key build hands).1,
        IndexCall.ReportsFree.not_sightsOccupied ⟨build, hands, reported⟩⟩
    rw [Bool.or_eq_true, before]
    constructor
    · rintro (standing | working)
      · exact .later harmless standing
      · exact Since.now ⟨⟨version, build, hands, reported⟩, working⟩ past
    · intro since
      rcases since.uncons with ⟨-, working⟩ | ⟨-, standing⟩
      · exact .inr working
      · exact .inl standing
  | kept sameEpoch noSight noReport =>
    rw [before]
    constructor
    · exact .later ⟨sameEpoch, noSight⟩
    · intro since
      rcases since.uncons with ⟨⟨version, reports⟩, -⟩ | ⟨-, standing⟩
      · exact absurd reports (noReport version)
      · exact standing

variable (config : StaticObstacleEvidenceConfig) (calls : List (IndexCall format))

theorem run_freeTombstone (key : Int) :
    ((indexMachine format config).run calls).observedFreeTombstones.contains key = true ↔
      Since (KeepsFree key) (FreedWhileWorking key) ((indexMachine format config).trace calls) := by
  refine @Machine.run_invariant _ _ _ (indexMachine format config)
    (fun past state => state.observedFreeTombstones.contains key = true ↔
      Since (KeepsFree key) (FreedWhileWorking key) past) ?_ ?_ calls
  · refine ⟨fun standing => absurd standing ?_, ?_⟩
    · simp [indexMachine, setConfig]
    · rintro ⟨newer, event, older, split, -⟩
      simp at split
  · intro past state call before
    exact freeTombstone_step before (indexStep_cell state call key).freeTombstone

/-- What the index remembers of a cell is decided by the calls since it last started anew. -/
theorem memory_exact (calls : List (IndexCall format)) (key : Int) :
    let index := (indexMachine format config).run calls
    let past := (indexMachine format config).trace calls
    (index.observedFreeTombstones.contains key = true ↔
        Since (KeepsFree key) (FreedWhileWorking key) past) ∧
      ∀ top, index.invalidatedVersions[key]? = some top ↔
        InvalidatedInEpoch key top past ∧
          ∀ version, InvalidatedInEpoch key version past → version ≤ top := by
  intro index past
  have remembers := run_remembers config calls key
  refine ⟨run_freeTombstone config calls key, fun top => ⟨fun known => ?_, ?_⟩⟩
  · refine ⟨remembers.recorded top known, fun version invalidated => ?_⟩
    obtain ⟨newest, recorded, later⟩ := remembers.covers version invalidated
    exact later.trans_eq (Option.some.inj (recorded.symm.trans known))
  · rintro ⟨invalidated, newest⟩
    obtain ⟨other, recorded, later⟩ := remembers.covers top invalidated
    rwa [← later.antisymm (newest other (remembers.recorded other recorded))] at recorded

/-! ### Stale confirmations of a cell that was seen free -/

def StaticObstacleEvidenceIndex.Shows (self : StaticObstacleEvidenceIndex) (key : Int) : Prop :=
  self.snapshot.cells[key]?.isSome = true

def ShowsConfirmed (index : StaticObstacleEvidenceIndex) (key : Int) : Prop :=
  ∀ cell, index.workingCells[key]? = some cell → cell.cleanMapConfirmed = true → index.Shows key

theorem CellView.published_isSome {view : CellView} {cell : StaticEvidenceCell}
    (present : view.cell = some cell) (confirmed : cell.cleanMapConfirmed = true) :
    view.published.isSome = true := by
  unfold published
  simp [present, confirmed]

theorem ShowsConfirmed.step (shows : ShowsConfirmed index key) (call : IndexCall format) :
    ShowsConfirmed (indexStep index call).1 key := by
  intro cell working confirmed
  unfold Shows
  replace working : ((indexStep index call).1.view key).cell = some cell := working
  have change := indexStep_cell index call key
  generalize (indexStep index call).1.view key = after at change working
  generalize (indexStep index call).1.snapshot.cells[key]? = shown at change
  -- Most calls publish, and those that do not leave the cell as it is.
  cases change with
  | kept => exact shows cell working confirmed
  | emptied => exact absurd working (by simp)
  | adopted => exact Option.isSome_of_eq_some working
  | digested => exact CellView.published_isSome working confirmed
  | unpublished => exact shows cell working confirmed
  | invalidated => exact CellView.published_isSome working confirmed
  | confirmed => exact CellView.published_isSome working confirmed
  | republished => exact CellView.published_isSome working confirmed

theorem run_showsConfirmed (key : Int) :
    ShowsConfirmed ((indexMachine format config).run calls) key := by
  refine @Machine.run_invariant _ _ _ (indexMachine format config)
    (fun _ state => ShowsConfirmed state key) ?_ ?_ calls
  · intro cell working
    simp [indexMachine, setConfig] at working
  · intro past state call shows
    exact shows.step call

def BlocksStaleConfirmation (index : StaticObstacleEvidenceIndex) (key : Int) (version : Nat) :
    Prop :=
  ∀ clean : CleanMap, clean.cleanBuildVersion ≤ version → ¬index.Shows key →
    ¬(index.confirmCleanCells clean).1.Shows key

variable {clean : CleanMap}

theorem confirmCleanCells_cell (versioned : clean.cleanBuildVersion ≠ 0)
    (own : index.workingGeneration = clean.mapGeneration) :
    (index.confirmCleanCells clean).1.snapshot.cells[key]?
      = (((index.view key).invalidateIn clean.invalidatedCells clean.cleanBuildVersion
          key).confirmIn clean key).published := by
  rw [confirm_accepted index versioned own, publishSnapshot_cell, confirmCells_view,
    invalidateAll_view]

theorem not_shows_of_blocked (shows : ShowsConfirmed index key) (hidden : ¬index.Shows key)
    (blocked : blocksConfirmation (index.observedFreeTombstones.contains key)
      index.invalidatedVersions[key]? clean key = true) :
    ¬(index.confirmCleanCells clean).1.Shows key := by
  by_cases accepted : clean.cleanBuildVersion ≠ 0 ∧ index.workingGeneration = clean.mapGeneration
  · unfold Shows
    rw [confirmCleanCells_cell accepted.1 accepted.2]
    -- The cell is either erased by the clean map itself, or left as it was.
    by_cases erased : clean.invalidatedCells.contains key = true
    · have gone : (((index.view key).invalidateIn clean.invalidatedCells clean.cleanBuildVersion
          key).confirmIn clean key).cell = none := by
        unfold CellView.confirmIn CellView.invalidateIn
        rw [if_pos erased]
        split
        · unfold CellView.confirm
          rw [if_pos (by simp [blocksConfirmation, erased])]
          rfl
        · rfl
      simp [CellView.published, gone]
    · have same : ((index.view key).invalidateIn clean.invalidatedCells clean.cleanBuildVersion
          key).confirmIn clean key = index.view key := by
        unfold CellView.confirmIn CellView.invalidateIn
        rw [if_neg erased]
        split
        · exact if_pos blocked
        · rfl
      rw [same]
      intro shown
      obtain ⟨cell, published⟩ := Option.isSome_iff_exists.mp shown
      obtain ⟨working, confirmed⟩ := Option.filter_eq_some_iff.mp published
      exact hidden (shows cell working confirmed)
  · have same := confirm_rejected index accepted
    unfold Shows
    rw [same.snapshot]
    exact hidden

theorem shows_of_not_blocked {geometry : StaticEvidenceCellGeometry}
    (versioned : clean.cleanBuildVersion ≠ 0)
    (own : index.workingGeneration = clean.mapGeneration)
    (given : clean.cleanCells[key]? = some geometry)
    (admitted : blocksConfirmation (index.observedFreeTombstones.contains key)
      index.invalidatedVersions[key]? clean key = false) :
    (index.confirmCleanCells clean).1.Shows key := by
  have kept : ¬clean.invalidatedCells.contains key = true := by
    intro erased
    simp [blocksConfirmation, erased] at admitted
  unfold Shows
  rw [confirmCleanCells_cell versioned own]
  unfold CellView.confirmIn CellView.invalidateIn CellView.confirm
  rw [if_neg kept]
  simp only [given]
  rw [if_neg (by rw [Bool.not_eq_true]; exact admitted)]
  exact CellView.published_isSome rfl (by simp [confirmed])

theorem blocksStaleConfirmation_iff (shows : ShowsConfirmed index key) (version : Nat) :
    BlocksStaleConfirmation index key version ↔
      index.Shows key ∨ version = 0 ∨ index.observedFreeTombstones.contains key = true ∨
        ∃ top, index.invalidatedVersions[key]? = some top ∧ version ≤ top := by
  constructor
  · intro blocks
    by_contra open_
    simp only [not_or, not_exists, not_and, Nat.not_le] at open_
    obtain ⟨hidden, versioned, noTombstone, outdated⟩ := open_
    -- The clean map of the version that holds just this cell is not blocked.
    let clean : CleanMap :=
      { cleanCells := ({} : CellMap StaticEvidenceCellGeometry).insert key {}
        mapGeneration := index.workingGeneration, cleanBuildVersion := version }
    refine blocks clean le_rfl hidden ?_
    refine @shows_of_not_blocked _ key clean {} versioned rfl (by simp [clean]) ?_
    have fresh : outdates index.invalidatedVersions[key]? clean = false := by
      cases known : index.invalidatedVersions[key]? with
      | none => rfl
      | some top => simpa [outdates, clean] using outdated top known
    simp [blocksConfirmation, noTombstone, fresh, clean]
  · intro reason clean stale hidden
    rcases reason with shown | unversioned | tombstone | ⟨top, known, newer⟩
    · exact absurd shown hidden
    · -- A clean map without a version is not received at all.
      have zero : clean.cleanBuildVersion = 0 := Nat.le_zero.mp (unversioned ▸ stale)
      have same := @confirm_rejected index clean fun accepted => accepted.1 zero
      unfold Shows
      rw [same.snapshot]
      exact hidden
    · exact not_shows_of_blocked shows hidden (by simp [blocksConfirmation, tombstone])
    · have blocked : outdates index.invalidatedVersions[key]? clean = true := by
        simpa [known, outdates] using stale.trans newer
      exact not_shows_of_blocked shows hidden (by simp [blocksConfirmation, blocked])

def SeenFree (key : Int) (version : Nat) (past : List (IndexEvent format)) : Prop :=
  Since (fun event => ¬event.call.SightsOccupied event.before key)
    (fun event => event.call.ReportsFree event.before key version) past

/--
A cell that was seen free at a version stays out of stale snapshots exactly in these cases.

It was working when it was last seen free, or it was invalidated by a version that is as new.
Otherwise nothing is remembered, and any clean map of the version brings it back.
-/
theorem seenFree_blocks_iff (config : StaticObstacleEvidenceConfig)
    (calls : List (IndexCall format)) (key : Int) (version : Nat) :
    (SeenFree key version ((indexMachine format config).trace calls) →
      BlocksStaleConfirmation ((indexMachine format config).run calls) key version) ↔
    (SeenFree key version ((indexMachine format config).trace calls) →
      ((indexMachine format config).run calls).Shows key ∨ version = 0 ∨
        Since (KeepsFree key) (FreedWhileWorking key) ((indexMachine format config).trace calls) ∨
        ∃ newer, version ≤ newer ∧
          InvalidatedInEpoch key newer ((indexMachine format config).trace calls)) := by
  have remembers := run_remembers config calls key
  rw [blocksStaleConfirmation_iff (run_showsConfirmed config calls key),
    run_freeTombstone config calls key]
  refine imp_congr_right fun _ => or_congr_right (or_congr_right (or_congr_right ?_))
  -- The newest invalidation is as new as the version exactly if any invalidation is.
  constructor
  · rintro ⟨top, known, newer⟩
    exact ⟨top, newer, remembers.recorded top known⟩
  · rintro ⟨newer, above, invalidated⟩
    obtain ⟨top, known, below⟩ := remembers.covers newer invalidated
    exact ⟨top, known, above.trans below⟩

private def freeReportCalls : List (IndexCall plainFormat) :=
  [.observeCleanBuildCells
      { observableCells := ({} : CellKeySet).insert 5
        observedFreeCells := ({} : CellKeySet).insert 5
        stampSec := 1, mapGeneration := 1, objectsVersion := 3 }, .reset 1]

theorem free_report_forgotten :
    SeenFree 5 3 ((indexMachine plainFormat {}).trace freeReportCalls) ∧
      ¬BlocksStaleConfirmation ((indexMachine plainFormat {}).run freeReportCalls) 5 3 := by
  constructor
  · refine ⟨[], _, [_], rfl, ⟨_, rfl, by decide, by decide, rfl⟩, by simp⟩
  · intro blocks
    let clean : CleanMap :=
      { cleanCells := ({} : CellMap StaticEvidenceCellGeometry).insert 5 { minZ := 0, maxZ := 1 }
        stampSec := 1, mapGeneration := 1, cleanBuildVersion := 3 }
    have hidden : ¬((indexMachine plainFormat {}).run freeReportCalls).Shows 5 := by
      unfold Shows
      decide
    refine blocks clean le_rfl hidden ?_
    unfold Shows
    with_unfolding_all decide

end NdtSlam
