import NdtSlam.StaticEvidence.Calls

/-! Invalidations are remembered: only newer clean maps bring an invalidated cell back. -/

namespace NdtSlam

open StaticObstacleEvidenceIndex

variable {format : CsvFormat} {index : StaticObstacleEvidenceIndex} {call : IndexCall format}
  {key : Int}

abbrev IndexEvent (format : CsvFormat) := Event StaticObstacleEvidenceIndex (IndexCall format)

def IndexEvent.OpensEpoch (event : IndexEvent format) : Prop := event.call.OpensEpoch event.before

def InvalidatedInEpoch (key : Int) (version : Nat) (past : List (IndexEvent format)) : Prop :=
  Since (fun event => ¬event.OpensEpoch)
    (fun event => event.call.Invalidates event.before key version) past

/-! ### What a call does to the version that invalidated a cell -/

variable {build : CleanBuild}

theorem IndexCall.build_only (hands : call.build? = some build) :
    ¬call.OpensEpoch index ∧ ∀ version, ¬call.Invalidates index key version := by
  cases call with
  | observeFilteredCells => simp [OpensEpoch, installs, Invalidates]
  | observeCleanBuildCells => simp [OpensEpoch, installs, Invalidates]
  | _ => simp [IndexCall.build?] at hands

theorem IndexCall.OpensEpoch.not_invalidates (opens : call.OpensEpoch index) (version : Nat) :
    ¬call.Invalidates index key version := by
  cases call with
  | invalidateCells => simp [OpensEpoch, installs] at opens
  | confirmCleanCells => simp [OpensEpoch, installs] at opens
  | _ => exact id

theorem IndexCall.opensEpoch_of_installs {prepared : PreparedStaticEvidenceInstall}
    (installed : call.installs index = some prepared) : call.OpensEpoch index := by
  cases call with
  | setConfig => exact trivial
  | reset => exact trivial
  | _ =>
    show (IndexCall.installs index _).isSome = true
    rw [installed]
    rfl

namespace CellView

@[simp] theorem digest_invalidated (build : CleanBuild) (view : CellView) :
    (view.digest build key).invalidated = view.invalidated := by
  unfold digest occupy free sight
  repeat' split
  all_goals rfl

@[simp] theorem confirmIn_invalidated (clean : CleanMap) (view : CellView) :
    (view.confirmIn clean key).invalidated = view.invalidated := by
  unfold confirmIn confirm
  repeat' split
  all_goals rfl

end CellView

inductive InvalidationChange (index : StaticObstacleEvidenceIndex) (call : IndexCall format)
    (key : Int) : Option Nat → Prop where
  | forgotten (opens : call.OpensEpoch index) : InvalidationChange index call key none
  | raised {version : Nat} (sameEpoch : ¬call.OpensEpoch index)
      (records : ∀ other, call.Invalidates index key other ↔ other = version) :
      InvalidationChange index call key
        (some (max (index.invalidatedVersions[key]?.getD 0) version))
  | kept (sameEpoch : ¬call.OpensEpoch index)
      (silent : ∀ version, ¬call.Invalidates index key version) :
      InvalidationChange index call key index.invalidatedVersions[key]?

theorem InvalidationChange.ofSet {cells : CellKeySet} {version : Nat}
    (sameEpoch : ¬call.OpensEpoch index)
    (records : ∀ other, call.Invalidates index key other ↔
      cells.contains key = true ∧ version = other) :
    InvalidationChange index call key
      ((index.view key).invalidateIn cells version key).invalidated := by
  unfold CellView.invalidateIn
  by_cases present : cells.contains key = true
  · rw [if_pos present]
    refine .raised sameEpoch ?_
    intro other
    rw [records]
    exact ⟨fun given => given.2.symm, fun same => ⟨present, same.symm⟩⟩
  · rw [if_neg present]
    refine .kept sameEpoch ?_
    intro other invalidates
    exact present ((records other).mp invalidates).1

theorem CellChange.invalidation {after : CellView} {shown : Option StaticEvidenceCell}
    (change : CellChange index call key after shown) :
    InvalidationChange index call key after.invalidated := by
  cases change with
  | kept sameEpoch noBuild noInvalidation => exact .kept sameEpoch noInvalidation
  | emptied config generation opens => exact .forgotten opens
  | adopted prepared installed => exact .forgotten (IndexCall.opensEpoch_of_installs installed)
  | digested build hands accepted =>
    obtain ⟨sameEpoch, silent⟩ := @IndexCall.build_only _ index call key build hands
    rw [CellView.digest_invalidated]
    exact .kept sameEpoch silent
  | unpublished build hands accepted nothing =>
    obtain ⟨sameEpoch, silent⟩ := @IndexCall.build_only _ index call key build hands
    exact .kept sameEpoch silent
  | invalidated cells version stampSec mapGeneration hands versioned own =>
    subst hands
    refine .ofSet (by simp [IndexCall.OpensEpoch, IndexCall.installs]) ?_
    intro other
    simp [IndexCall.Invalidates, versioned, own]
  | confirmed clean hands versioned own =>
    subst hands
    rw [CellView.confirmIn_invalidated]
    refine .ofSet (by simp [IndexCall.OpensEpoch, IndexCall.installs]) ?_
    intro other
    simp [IndexCall.Invalidates, versioned, own]
  | republished authority hands =>
    subst hands
    refine .kept ?_ ?_
    · simp [IndexCall.OpensEpoch, IndexCall.installs]
    · simp [IndexCall.Invalidates]

/-! ### The newest invalidation of an epoch -/

structure RemembersInvalidations (key : Int) (past : List (IndexEvent format))
    (newest : Option Nat) : Prop where
  covers : ∀ version, InvalidatedInEpoch key version past → ∃ top, newest = some top ∧ version ≤ top
  recorded : ∀ top, newest = some top → InvalidatedInEpoch key top past

theorem RemembersInvalidations.step {past : List (IndexEvent format)}
    (remembers : RemembersInvalidations key past index.invalidatedVersions[key]?)
    {newest : Option Nat} (change : InvalidationChange index call key newest) :
    RemembersInvalidations key (⟨index, call⟩ :: past) newest := by
  cases change with
  | forgotten opens =>
    refine ⟨?_, by simp⟩
    intro version invalidated
    -- Nothing recorded earlier counts any more, and the call itself records nothing.
    rcases invalidated.uncons with now | ⟨sameEpoch, -⟩
    · exact absurd now (opens.not_invalidates version)
    · exact absurd opens sameEpoch
  | @raised version sameEpoch records =>
    constructor
    · intro other invalidated
      refine ⟨_, rfl, ?_⟩
      rcases invalidated.uncons with now | ⟨-, earlier⟩
      · obtain rfl := (records other).mp now
        exact le_max_right _ _
      · obtain ⟨top, known, below⟩ := remembers.covers other earlier
        rw [known]
        exact below.trans (le_max_left _ _)
    · intro top newest
      have here : InvalidatedInEpoch key version (⟨index, call⟩ :: past) := by
        refine Since.now ?_ past
        exact (records version).mpr rfl
      -- The larger of the two versions is one of them.
      rcases le_total (index.invalidatedVersions[key]?.getD 0) version with older | newer
      · rw [max_eq_right older] at newest
        exact Option.some.inj newest ▸ here
      · rw [max_eq_left newer] at newest
        cases known : index.invalidatedVersions[key]? with
        | none =>
          rw [known] at newest newer
          have zero : version = 0 := Nat.le_zero.mp newer
          obtain rfl : 0 = top := Option.some.inj newest
          exact zero ▸ here
        | some before =>
          rw [known] at newest
          obtain rfl : before = top := Option.some.inj newest
          exact .later sameEpoch (remembers.recorded before known)
  | kept sameEpoch silent =>
    constructor
    · intro version invalidated
      rcases invalidated.uncons with now | ⟨-, earlier⟩
      · exact absurd now (silent version)
      · exact remembers.covers version earlier
    · intro top known
      exact .later sameEpoch (remembers.recorded top known)

variable (config : StaticObstacleEvidenceConfig) (calls : List (IndexCall format))

theorem run_remembers (key : Int) :
    RemembersInvalidations key ((indexMachine format config).trace calls)
      ((indexMachine format config).run calls).invalidatedVersions[key]? := by
  refine @Machine.run_invariant _ _ _ (indexMachine format config)
    (fun past state => RemembersInvalidations key past state.invalidatedVersions[key]?) ?_ ?_ calls
  · refine ⟨?_, ?_⟩
    · rintro version ⟨newer, event, older, split, -⟩
      simp at split
    · intro top known
      simp [indexMachine, setConfig] at known
  · intro past state call remembers
    exact remembers.step (indexStep_cell state call key).invalidation

/-! ### Confirmed cells are newer than their invalidations -/

def OutlivesInvalidation (newest : Option Nat) (cell : Option StaticEvidenceCell) : Prop :=
  ∀ known top, cell = some known → known.cleanMapConfirmed = true → newest = some top →
    top < known.lastCleanConfirmedVersion

theorem OutlivesInvalidation.none_cell (newest : Option Nat) :
    OutlivesInvalidation newest none := by
  intro known top absent
  exact absurd absent (by simp)

theorem OutlivesInvalidation.none_newest (cell : Option StaticEvidenceCell) :
    OutlivesInvalidation none cell := by
  intro known top present confirmed absent
  exact absurd absent (by simp)

variable {view : CellView}

theorem OutlivesInvalidation.shown (outlives : OutlivesInvalidation view.invalidated view.cell) :
    OutlivesInvalidation view.invalidated view.published := by
  intro known top shown
  exact outlives known top (Option.eq_some_of_filter_eq_some shown)

@[simp] theorem ripen_cleanMapConfirmed (generation : Nat)
    (cell : StaticEvidenceCell) :
    (ripen config generation cell).cleanMapConfirmed = cell.cleanMapConfirmed := by
  unfold ripen
  split <;> rfl

@[simp] theorem ripen_lastCleanConfirmedVersion
    (generation : Nat) (cell : StaticEvidenceCell) :
    (ripen config generation cell).lastCleanConfirmedVersion = cell.lastCleanConfirmedVersion := by
  unfold ripen
  split <;> rfl

theorem resumeStreak_confirmation (continuation : Continuation) (sequence : Nat)
    (stampSec : Scalar) (geometry : StaticEvidenceCellGeometry) (cell : StaticEvidenceCell) :
    (resumeStreak continuation sequence stampSec geometry cell).cleanMapConfirmed
        = cell.cleanMapConfirmed ∧
      (resumeStreak continuation sequence stampSec geometry cell).lastCleanConfirmedVersion
        = cell.lastCleanConfirmedVersion := by
  cases continuation <;> exact ⟨rfl, rfl⟩

namespace CellView

theorem sight_confirmed {geometry : StaticEvidenceCellGeometry} {cell : StaticEvidenceCell}
    (sighted : (view.sight build key geometry).cell = some cell)
    (confirmed : cell.cleanMapConfirmed = true) :
    ∃ known, view.cell = some known ∧ known.cleanMapConfirmed = true ∧
      cell.lastCleanConfirmedVersion = known.lastCleanConfirmedVersion := by
  obtain rfl := Option.some.inj sighted
  rw [ripen_cleanMapConfirmed] at confirmed
  rw [ripen_lastCleanConfirmedVersion]
  -- A cell that is seen for the first time is not confirmed yet.
  cases present : view.cell with
  | none =>
    rw [present] at confirmed
    exact absurd confirmed (by simp [StaticObstacleEvidenceIndex.sighted, firstSight,
      countObservation])
  | some known =>
    rw [present] at confirmed
    obtain ⟨sameFlag, sameVersion⟩ := resumeStreak_confirmation
      (continuation view.config view.sequence build.stampSec known) view.sequence build.stampSec
      geometry known
    exact ⟨known, rfl, sameFlag ▸ confirmed, sameVersion⟩

theorem digest_outlives (outlives : OutlivesInvalidation view.invalidated view.cell) :
    OutlivesInvalidation view.invalidated (view.digest build key).cell := by
  -- After the free phase the cell is the old one, or none.
  have freed : OutlivesInvalidation view.invalidated
      (if build.reportsFree key then view.free else view).cell := by
    split
    · exact .none_cell _
    · exact outlives
  unfold digest occupy
  generalize (if build.reportsFree key then view.free else view) = after at freed
  split
  · split
    · intro cell top sighted confirmed newest
      obtain ⟨known, present, wasConfirmed, sameVersion⟩ := sight_confirmed sighted confirmed
      rw [sameVersion]
      exact freed known top present wasConfirmed newest
    · exact freed
  · exact freed

theorem invalidateIn_outlives {cells : CellKeySet} {version : Nat}
    (outlives : OutlivesInvalidation view.invalidated view.cell) :
    OutlivesInvalidation (view.invalidateIn cells version key).invalidated
      (view.invalidateIn cells version key).cell := by
  unfold invalidateIn
  split
  · exact .none_cell _
  · exact outlives

theorem confirmIn_outlives {clean : CleanMap}
    (outlives : OutlivesInvalidation view.invalidated view.cell) :
    OutlivesInvalidation view.invalidated (view.confirmIn clean key).cell := by
  unfold confirmIn
  split
  · rename_i geometry found
    unfold confirm
    split
    · exact outlives
    · rename_i admitted
      -- The clean map is newer than the newest invalidation, or it would have been blocked.
      rintro cell top ⟨⟩ - newest
      have newer : top < clean.cleanBuildVersion := by
        simp only [blocksConfirmation, newest, outdates, Bool.or_eq_true, decide_eq_true_eq,
          not_or, Nat.not_le] at admitted
        exact admitted.2
      rw [ripen_lastCleanConfirmedVersion]
      exact newer.trans_le (le_max_right _ _)
  · exact outlives

end CellView

structure ConfirmedNewer (index : StaticObstacleEvidenceIndex) (key : Int) : Prop where
  working : OutlivesInvalidation index.invalidatedVersions[key]? index.workingCells[key]?
  shown : OutlivesInvalidation index.invalidatedVersions[key]? index.snapshot.cells[key]?

theorem ConfirmedNewer.step (newer : ConfirmedNewer index key) (call : IndexCall format) :
    ConfirmedNewer (indexStep index call).1 key := by
  suffices both : OutlivesInvalidation ((indexStep index call).1.view key).invalidated
        ((indexStep index call).1.view key).cell ∧
      OutlivesInvalidation ((indexStep index call).1.view key).invalidated
        (indexStep index call).1.snapshot.cells[key]? from ⟨both.1, both.2⟩
  have change := indexStep_cell index call key
  generalize (indexStep index call).1.view key = after at change
  generalize (indexStep index call).1.snapshot.cells[key]? = shown at change
  cases change with
  | kept => exact ⟨newer.working, newer.shown⟩
  | emptied => exact ⟨.none_cell _, .none_cell _⟩
  | adopted => exact ⟨.none_newest _, .none_newest _⟩
  | digested build hands accepted =>
    have cell : OutlivesInvalidation (((index.beginBuild build).view key).digest build key).invalidated
        (((index.beginBuild build).view key).digest build key).cell := by
      rw [CellView.digest_invalidated]
      exact CellView.digest_outlives newer.working
    exact ⟨cell, cell.shown⟩
  | unpublished => exact ⟨newer.working, newer.shown⟩
  | invalidated cells version stampSec mapGeneration hands versioned own =>
    have cell : OutlivesInvalidation ((index.view key).invalidateIn cells version key).invalidated
        ((index.view key).invalidateIn cells version key).cell :=
      CellView.invalidateIn_outlives newer.working
    exact ⟨cell, cell.shown⟩
  | confirmed clean hands versioned own =>
    have erased : OutlivesInvalidation
        ((index.view key).invalidateIn clean.invalidatedCells clean.cleanBuildVersion key).invalidated
        ((index.view key).invalidateIn clean.invalidatedCells clean.cleanBuildVersion key).cell :=
      CellView.invalidateIn_outlives newer.working
    generalize (index.view key).invalidateIn clean.invalidatedCells clean.cleanBuildVersion key
      = view at erased
    have cell : OutlivesInvalidation (view.confirmIn clean key).invalidated
        (view.confirmIn clean key).cell := by
      rw [CellView.confirmIn_invalidated]
      exact CellView.confirmIn_outlives erased
    exact ⟨cell, cell.shown⟩
  | republished =>
    have cell : OutlivesInvalidation (index.view key).invalidated (index.view key).cell :=
      newer.working
    exact ⟨cell, cell.shown⟩

theorem run_confirmedNewer (key : Int) :
    ConfirmedNewer ((indexMachine format config).run calls) key := by
  refine @Machine.run_invariant _ _ _ (indexMachine format config)
    (fun _ state => ConfirmedNewer state key) ?_ ?_ calls
  · exact ⟨.none_newest _, .none_newest _⟩
  · intro past state call newer
    exact newer.step call

theorem indexStep_foreign (foreign : call.ForeignGeneration index) :
    SameEvidence index (indexStep index call).1 := by
  have rejects : ∀ build : CleanBuild, index.workingGeneration ≠ build.mapGeneration →
      index.acceptsBuild build = false := by
    intro build other
    simp [acceptsBuild, other]
  cases call with
  | observeFilteredCells cells stampSec mapGeneration objectsVersion =>
    exact observe_rejected index _ (rejects _ foreign)
  | observeCleanBuildCells build => exact observe_rejected index build (rejects build foreign)
  | invalidateCells cells version stampSec mapGeneration =>
    exact invalidate_rejected index fun accepted => foreign accepted.2
  | confirmCleanCells clean => exact confirm_rejected index fun accepted => foreign accepted.2
  | _ => exact absurd foreign id

/-- In every run, a cell that is shown was confirmed after it was last invalidated. -/
theorem tombstones_hold (config : StaticObstacleEvidenceConfig) (calls : List (IndexCall format)) :
    (∀ key cell version,
      ((indexMachine format config).run calls).snapshot.cells[key]? = some cell →
      cell.cleanMapConfirmed = true →
      InvalidatedInEpoch key version ((indexMachine format config).trace calls) →
      version < cell.lastCleanConfirmedVersion) ∧
    ∀ call : IndexCall format,
      call.ForeignGeneration ((indexMachine format config).run calls) →
      SameEvidence ((indexMachine format config).run calls)
        ((indexMachine format config).step ((indexMachine format config).run calls) call).1 := by
  constructor
  · intro key cell version shown confirmed invalidated
    -- The newest invalidation covers this one, and the cell outlives the newest.
    obtain ⟨top, newest, below⟩ := (run_remembers config calls key).covers version invalidated
    have newer := (run_confirmedNewer config calls key).shown cell top shown confirmed newest
    exact below.trans_lt newer
  · intro call foreign
    exact indexStep_foreign foreign

private def reconfirmedCalls : List (IndexCall plainFormat) :=
  [.confirmCleanCells
      { cleanCells := ({} : CellMap StaticEvidenceCellGeometry).insert 5 { minZ := 0, maxZ := 1 }
        stampSec := 1, mapGeneration := 1, cleanBuildVersion := 2 },
    .invalidateCells (({} : CellKeySet).insert 5) 1 1 1, .reset 1]

theorem tombstones_hold_reconfirmed :
    (∃ cell, ((indexMachine plainFormat {}).run reconfirmedCalls).snapshot.cells[(5 : Int)]?
        = some cell ∧ 1 < cell.lastCleanConfirmedVersion) ∧
      SameEvidence ((indexMachine plainFormat {}).run reconfirmedCalls)
        ((indexMachine plainFormat {}).step ((indexMachine plainFormat {}).run reconfirmedCalls)
          (.invalidateCells (({} : CellKeySet).insert 5) 3 2 2)).1 := by
  obtain ⟨newer, foreign⟩ := tombstones_hold {} reconfirmedCalls
  have other : ((indexMachine plainFormat {}).run reconfirmedCalls).workingGeneration ≠ 2 := by
    decide
  refine ⟨?_, foreign _ other⟩
  have shown : ((indexMachine plainFormat {}).run reconfirmedCalls).snapshot.cells[(5 : Int)]?
      = some
        { key := 5, firstSeenSec := 1, lastSeenSec := 1, maxZ := 1, cleanMapConfirmed := true
          lastCleanConfirmedVersion := 2, lastInvalidatedVersion := 1, mapGeneration := 1 } := by
    with_unfolding_all decide
  have invalidated : InvalidatedInEpoch 5 1
      ((indexMachine plainFormat {}).trace reconfirmedCalls) := by
    refine ⟨[_], _, [_], rfl, ⟨by decide, by decide, by decide, rfl⟩, ?_⟩
    intro later member
    obtain rfl := List.mem_singleton.mp member
    exact fun opens => absurd opens (by simp [IndexEvent.OpensEpoch, IndexCall.OpensEpoch,
      IndexCall.installs])
  exact ⟨_, shown, newer 5 _ 1 shown rfl invalidated⟩

end NdtSlam
