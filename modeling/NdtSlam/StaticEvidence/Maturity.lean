import NdtSlam.StaticEvidence.PublishedView
import NdtSlam.StaticEvidence.Tombstones

/-! How often and how long a cell was really seen before the index calls it mature. -/

namespace NdtSlam

open StaticObstacleEvidenceIndex

variable {format : CsvFormat} {index : StaticObstacleEvidenceIndex} {call : IndexCall format}
  {key : Int}

structure SightingRecord where
  count : Nat := 0
  time : ℚ := 0
  previous : Option ℚ := none

namespace SightingRecord

def added (config : StaticObstacleEvidenceConfig) (previous : Option ℚ) (stamp : ℚ) : ℚ :=
  match previous with
  | some earlier =>
    if 0 < stamp - earlier ∧ Scalar.fin (stamp - earlier) ≤ config.maximumObservationGapSec then
      stamp - earlier
    else 0
  | none => 0

def afterBuild (record : SightingRecord) (index : StaticObstacleEvidenceIndex) (build : CleanBuild)
    (key : Int) : SightingRecord :=
  if index.acceptsBuild build then
    if build.reportsOccupied key then
      { count := record.count + 1
        time := record.time + added index.config record.previous build.stampSec.value
        previous := some build.stampSec.value }
    else if build.reportsFree key then {}
    else { record with previous := none }
  else record

def afterCall (record : SightingRecord) (index : StaticObstacleEvidenceIndex) (key : Int) :
    IndexCall format → SightingRecord
  | .setConfig _ | .reset _ => {}
  | .observeFilteredCells cells stampSec mapGeneration objectsVersion =>
    record.afterBuild index (filteredBuild cells stampSec mapGeneration objectsVersion) key
  | .observeCleanBuildCells build => record.afterBuild index build key
  | .invalidateCells cells version _ mapGeneration =>
    if version ≠ 0 ∧ index.workingGeneration = mapGeneration ∧ cells.contains key = true then {}
    else record
  | .confirmCleanCells clean =>
    if clean.cleanBuildVersion ≠ 0 ∧ index.workingGeneration = clean.mapGeneration ∧
        clean.invalidatedCells.contains key = true then {}
    else record
  | .setSnapshotAuthority _ | .loadSnapshot _ _ _ _ | .restoreSnapshotWithoutRevisionIncrement _ _
  | .installPreparedSnapshot _ _ => record

end SightingRecord

def sightings (key : Int) : List (IndexEvent format) → SightingRecord
  | [] => {}
  | event :: past => (sightings key past).afterCall event.before key event.call

structure SightingRecord.MeetsDemands (record : SightingRecord)
    (config : StaticObstacleEvidenceConfig) : Prop where
  count : config.minimumObservations ≤ record.count
  time : config.minimumStableDurationSec ≤ .fin record.time + stampEpsilonSec

/-- An accepted build prolongs no streak that only a clean map has begun. -/
def IndexCall.CountsOnlySightings (index : StaticObstacleEvidenceIndex) (call : IndexCall format) :
    Prop :=
  ∀ build, call.build? = some build → index.acceptsBuild build = true →
    index.latestObservationSequence < 2 ^ 64 - 1 ∧
    ∀ (key : Int) (cell : StaticEvidenceCell), build.reportsOccupied key = true →
      index.workingCells[key]? = some cell → cell.totalObservationCount = 0 →
      continuation index.config (nextCounter index.latestObservationSequence) build.stampSec cell
        ≠ .continuous

structure CoveredCell (config : StaticObstacleEvidenceConfig) (current : Nat)
    (record : SightingRecord) (cell : StaticEvidenceCell) : Prop where
  count : cell.consecutiveObservationCount ≤ record.count
  time : ∃ duration, cell.consecutiveStableDurationSec = .fin duration ∧ duration ≤ record.time
  sequence : cell.lastObservationSequence ≤ current
  newest : 0 < cell.totalObservationCount → cell.lastObservationSequence = current →
    ∃ stamp, cell.lastSeenSec = .fin stamp ∧ record.previous = some stamp
  mature : cell.temporallyMature = true → record.MeetsDemands config

structure CoveredView (record : SightingRecord) (view : CellView) : Prop where
  nonneg : 0 ≤ record.time
  cell : ∀ cell, view.cell = some cell → CoveredCell view.config view.sequence record cell

/-! ### Records -/

namespace SightingRecord

theorem added_nonneg (config : StaticObstacleEvidenceConfig) (previous : Option ℚ) (stamp : ℚ) :
    0 ≤ added config previous stamp := by
  unfold added
  split
  · split_ifs with forward
    · exact forward.1.le
    · exact le_rfl
  · exact le_rfl

theorem afterBuild_nonneg {record : SightingRecord} (nonneg : 0 ≤ record.time)
    (build : CleanBuild) : 0 ≤ (record.afterBuild index build key).time := by
  unfold afterBuild
  split_ifs
  · exact add_nonneg nonneg (added_nonneg _ _ _)
  · exact le_rfl
  · exact nonneg
  · exact nonneg

theorem afterCall_nonneg {record : SightingRecord} (nonneg : 0 ≤ record.time)
    (call : IndexCall format) : 0 ≤ (record.afterCall index key call).time := by
  cases call with
  | setConfig | reset => exact le_rfl
  | observeFilteredCells cells stampSec mapGeneration objectsVersion =>
    exact afterBuild_nonneg nonneg _
  | observeCleanBuildCells build => exact afterBuild_nonneg nonneg build
  | invalidateCells cells version stampSec mapGeneration =>
    simp only [afterCall]
    split_ifs
    · exact le_rfl
    · exact nonneg
  | confirmCleanCells clean =>
    simp only [afterCall]
    split_ifs
    · exact le_rfl
    · exact nonneg
  | setSnapshotAuthority | loadSnapshot | restoreSnapshotWithoutRevisionIncrement
  | installPreparedSnapshot => exact nonneg

variable (record : SightingRecord)

theorem afterCall_build {build : CleanBuild} (hands : call.build? = some build) :
    record.afterCall index key call = record.afterBuild index build key := by
  cases call with
  | observeFilteredCells cells stampSec mapGeneration objectsVersion =>
    obtain rfl := Option.some.inj hands
    rfl
  | observeCleanBuildCells other =>
    obtain rfl := Option.some.inj hands
    rfl
  | _ => cases hands

theorem afterBuild_rejected {build : CleanBuild} (rejected : index.acceptsBuild build = false) :
    record.afterBuild index build key = record := by
  unfold afterBuild
  rw [if_neg (by simp [rejected])]

theorem afterCall_kept (sameEpoch : ¬call.OpensEpoch index)
    (noBuild : ∀ build, call.build? = some build → index.acceptsBuild build = false)
    (noInvalidation : ∀ version, ¬call.Invalidates index key version) :
    record.afterCall index key call = record := by
  cases call with
  | setConfig | reset => exact absurd trivial sameEpoch
  | observeFilteredCells cells stampSec mapGeneration objectsVersion =>
    exact afterBuild_rejected record (noBuild _ rfl)
  | observeCleanBuildCells build => exact afterBuild_rejected record (noBuild _ rfl)
  | invalidateCells cells version stampSec mapGeneration =>
    refine if_neg ?_
    rintro ⟨versioned, own, listed⟩
    exact noInvalidation version ⟨versioned, own, listed, rfl⟩
  | confirmCleanCells clean =>
    refine if_neg ?_
    rintro ⟨versioned, own, listed⟩
    exact noInvalidation clean.cleanBuildVersion ⟨versioned, own, listed, rfl⟩
  | setSnapshotAuthority | loadSnapshot | restoreSnapshotWithoutRevisionIncrement
  | installPreparedSnapshot => rfl

theorem MeetsDemands.mono {config : StaticObstacleEvidenceConfig} {record next : SightingRecord}
    (meets : record.MeetsDemands config) (count : record.count ≤ next.count)
    (time : record.time ≤ next.time) : next.MeetsDemands config := by
  refine ⟨meets.count.trans count, ?_⟩
  -- The demanded duration is at most a finite number, and that number grows.
  have longer : Scalar.fin record.time + stampEpsilonSec
      ≤ Scalar.fin next.time + stampEpsilonSec := by
    show Scalar.fin (record.time + 1.0e-4) ≤ Scalar.fin (next.time + 1.0e-4)
    rw [Scalar.fin_le_fin]
    linarith
  exact Scalar.le_trans meets.time longer

end SightingRecord

/-! ### What one call does to a covered cell -/

variable {config : StaticObstacleEvidenceConfig} {current : Nat} {record : SightingRecord}
  {cell : StaticEvidenceCell}

theorem CoveredCell.ripen (covered : CoveredCell config current record cell) (generation : Nat) :
    CoveredCell config current record
      (StaticObstacleEvidenceIndex.ripen config generation cell) := by
  unfold StaticObstacleEvidenceIndex.ripen
  split
  · rename_i ripens
    refine ⟨covered.count, covered.time, covered.sequence, covered.newest, fun _ => ?_⟩
    -- The counters of the cell meet the demands, and the record covers the counters.
    simp only [isTemporallyMature, Bool.and_eq_true, decide_eq_true_eq] at ripens
    obtain ⟨-, ⟨-, often⟩, long⟩ := ripens
    obtain ⟨duration, shown, within⟩ := covered.time
    refine ⟨often.trans covered.count, Scalar.le_trans long ?_⟩
    rw [shown]
    show Scalar.fin (duration + 1.0e-4) ≤ Scalar.fin (record.time + 1.0e-4)
    rw [Scalar.fin_le_fin]
    linarith
  · exact covered

theorem continuation_continuous {sequence : Nat} {stamp : ℚ}
    (continues : continuation config sequence (.fin stamp) cell = .continuous) :
    stampEpsilonSec < .fin stamp - cell.lastSeenSec ∧
      .fin stamp - cell.lastSeenSec ≤ config.maximumObservationGapSec ∧
      sequence - cell.lastObservationSequence = 1 := by
  unfold continuation at continues
  simp only at continues
  split_ifs at continues with joined
  simp only [Bool.and_eq_true, decide_eq_true_eq, beq_iff_eq] at joined
  exact ⟨joined.1.1.2, joined.1.2, joined.2⟩

theorem CoveredCell.resumed_time {stamp : ℚ} (covered : CoveredCell config current record cell)
    (nonneg : 0 ≤ record.time)
    (observed : cell.totalObservationCount = 0 →
      continuation config (current + 1) (.fin stamp) cell ≠ .continuous)
    (geometry : StaticEvidenceCellGeometry) :
    ∃ duration, (resumeStreak (continuation config (current + 1) (.fin stamp) cell) (current + 1)
        (.fin stamp) geometry cell).consecutiveStableDurationSec = .fin duration ∧
      duration ≤ record.time + SightingRecord.added config record.previous stamp := by
  have grows := SightingRecord.added_nonneg config record.previous stamp
  obtain ⟨duration, shown, within⟩ := covered.time
  cases relation : continuation config (current + 1) (.fin stamp) cell with
  | continuous =>
    obtain ⟨forward, near, adjacent⟩ := continuation_continuous relation
    -- A continuous observation follows one by the build before, whose stamp is on record.
    have counted : 0 < cell.totalObservationCount := by
      refine Nat.pos_of_ne_zero ?_
      intro never
      exact observed never relation
    have latest : cell.lastObservationSequence = current := by
      have bound := covered.sequence
      omega
    obtain ⟨earlier, seen, recorded⟩ := covered.newest counted latest
    rw [seen, Scalar.fin_sub_fin] at forward near
    have later : 0 < stamp - earlier := by
      have positive : (1.0e-4 : ℚ) < stamp - earlier := Scalar.fin_lt_fin.1 forward
      linarith
    refine ⟨duration + (stamp - earlier), ?_, ?_⟩
    · simp only [resumeStreak, shown, seen, Scalar.fin_sub_fin, Scalar.fin_add_fin]
    · rw [recorded]
      simp only [SightingRecord.added]
      rw [if_pos ⟨later, near⟩]
      linarith
  | timeGap => exact ⟨0, rfl, by linarith⟩
  | sequenceGap => exact ⟨0, rfl, by linarith⟩
  | paused => exact ⟨duration, shown, by linarith⟩

theorem resumeStreak_count (relation : Continuation) (sequence : Nat) (stampSec : Scalar)
    (geometry : StaticEvidenceCellGeometry) :
    (resumeStreak relation sequence stampSec geometry cell).consecutiveObservationCount
      ≤ cell.consecutiveObservationCount := by
  cases relation with
  | continuous | paused => exact le_rfl
  | timeGap | sequenceGap => exact Nat.zero_le _

theorem resumeStreak_mature (relation : Continuation) (sequence : Nat) (stampSec : Scalar)
    (geometry : StaticEvidenceCellGeometry) :
    (resumeStreak relation sequence stampSec geometry cell).temporallyMature
      = cell.temporallyMature := by
  cases relation <;> rfl

theorem saturating_le_succ (maximum counter : Nat) : saturating maximum counter ≤ counter + 1 := by
  unfold saturating
  split <;> omega

variable {known : Option StaticEvidenceCell}

theorem CoveredCell.sighted {build : CleanBuild} {stamp : ℚ} (stamped : build.stampSec = .fin stamp)
    (nonneg : 0 ≤ record.time)
    (covered : ∀ cell, known = some cell → CoveredCell config current record cell)
    (observed : ∀ cell, known = some cell → cell.totalObservationCount = 0 →
      continuation config (current + 1) build.stampSec cell ≠ .continuous)
    (geometry : StaticEvidenceCellGeometry) :
    CoveredCell config (current + 1)
      { count := record.count + 1
        time := record.time + SightingRecord.added config record.previous stamp
        previous := some stamp }
      (StaticObstacleEvidenceIndex.sighted config (current + 1) build key geometry known) := by
  have grows := SightingRecord.added_nonneg config record.previous stamp
  -- Every sighting is stamped by its build.
  have newest : ∃ seen, build.stampSec = .fin seen ∧ some stamp = some seen :=
    ⟨stamp, stamped, rfl⟩
  cases known with
  | none =>
    refine ⟨?_, ⟨0, rfl, by linarith⟩, le_rfl, fun _ _ => newest, ?_⟩
    · show saturating (2 ^ 32 - 1) 0 ≤ record.count + 1
      exact (saturating_le_succ _ _).trans (by omega)
    · intro mature
      exact absurd mature (by simp [StaticObstacleEvidenceIndex.sighted, countObservation,
        firstSight])
  | some cell =>
    have before := covered cell rfl
    have prolonged := observed cell rfl
    rw [stamped] at prolonged
    refine ⟨?_, ?_, le_rfl, fun _ _ => newest, ?_⟩
    · have resumed : (resumeStreak (continuation config (current + 1) build.stampSec cell)
          (current + 1) build.stampSec geometry cell).consecutiveObservationCount
          ≤ cell.consecutiveObservationCount := resumeStreak_count _ _ _ _
      exact (saturating_le_succ _ _).trans (Nat.succ_le_succ (resumed.trans before.count))
    · have time := before.resumed_time nonneg prolonged geometry
      rw [← stamped] at time
      exact time
    · intro mature
      have old : cell.temporallyMature = true :=
        (resumeStreak_mature _ _ _ geometry).symm.trans mature
      exact (before.mature old).mono (Nat.le_succ _) (by simpa using grows)

theorem CoveredCell.confirmed (nonneg : 0 ≤ record.time)
    (covered : ∀ cell, known = some cell → CoveredCell config current record cell)
    (invalidated : Option Nat) (clean : CleanMap) (geometry : StaticEvidenceCellGeometry) :
    CoveredCell config current record
      (StaticObstacleEvidenceIndex.confirmed current invalidated clean key geometry known) := by
  cases known with
  | none =>
    -- The cell begins with the stamp of the clean map, but without any observation.
    refine ⟨Nat.zero_le _, ⟨0, rfl, nonneg⟩, le_rfl, ?_, ?_⟩
    · intro observed
      exact absurd observed (lt_irrefl 0)
    · intro mature
      exact absurd mature (by simp [StaticObstacleEvidenceIndex.confirmed])
  | some cell =>
    have before := covered cell rfl
    exact ⟨before.count, before.time, before.sequence, before.newest, before.mature⟩

variable {view : CellView}

theorem CoveredView.none_cell (nonneg : 0 ≤ record.time) (gone : view.cell = none) :
    CoveredView record view :=
  ⟨nonneg, fun cell known => absurd (gone.symm.trans known) (by simp)⟩

theorem CellView.occupy_unreported {build : CleanBuild}
    (unreported : build.reportsOccupied key = false) (view : CellView) :
    view.occupy build key = view := by
  unfold CleanBuild.reportsOccupied at unreported
  unfold CellView.occupy
  cases found : build.occupiedCells[key]? with
  | none => rfl
  | some geometry =>
    rw [found] at unreported
    simp only at unreported
    simp only [unreported, Bool.false_eq_true, if_false]

theorem CellView.digest_reported {build : CleanBuild} (reported : build.reportsOccupied key = true)
    (view : CellView) : ∃ geometry, view.digest build key = view.sight build key geometry := by
  unfold CleanBuild.reportsOccupied at reported
  cases found : build.occupiedCells[key]? with
  | none =>
    rw [found] at reported
    cases reported
  | some geometry =>
    rw [found] at reported
    simp only at reported
    have hidden : build.reportsFree key = false := by
      simp only [countsOccupied, Bool.and_eq_true, Bool.not_eq_true'] at reported
      simp [CleanBuild.reportsFree, reported.1.2]
    refine ⟨geometry, ?_⟩
    unfold CellView.digest CellView.occupy
    rw [hidden, found]
    simp only [Bool.false_eq_true, if_false, reported, if_true]

theorem CoveredView.build {build : CleanBuild} (covered : CoveredView record (index.view key))
    (accepted : index.acceptsBuild build = true)
    (sequence : index.latestObservationSequence < 2 ^ 64 - 1)
    (observed : ∀ cell, build.reportsOccupied key = true → index.workingCells[key]? = some cell →
      cell.totalObservationCount = 0 →
      continuation index.config (nextCounter index.latestObservationSequence) build.stampSec cell
        ≠ .continuous) :
    CoveredView (record.afterBuild index build key)
      (((index.beginBuild build).view key).digest build key) := by
  have nonneg : 0 ≤ (record.afterBuild index build key).time :=
    SightingRecord.afterBuild_nonneg covered.nonneg build
  have next : nextCounter index.latestObservationSequence
      = index.latestObservationSequence + 1 := by
    unfold nextCounter
    rw [Nat.mod_eq_of_lt (by omega), if_neg (by omega)]
  rw [next] at observed
  unfold SightingRecord.afterBuild at nonneg ⊢
  rw [if_pos accepted] at nonneg ⊢
  by_cases reported : build.reportsOccupied key = true
  · -- The build sees the cell.
    rw [if_pos reported] at nonneg ⊢
    obtain ⟨stamp, stamped⟩ : ∃ stamp, build.stampSec = .fin stamp := by
      have usable := (acceptsBuild_facts accepted).1
      simp only [unusableStamp, Bool.or_eq_false_iff, Bool.not_eq_false'] at usable
      exact Scalar.isFinite_iff.1 usable.1
    obtain ⟨geometry, sights⟩ := ((index.beginBuild build).view key).digest_reported reported
    rw [sights]
    refine ⟨nonneg, ?_⟩
    intro cell known
    obtain rfl := Option.some.inj known
    rw [stamped]
    show CoveredCell index.config (nextCounter index.latestObservationSequence) _
      (StaticObstacleEvidenceIndex.ripen index.config index.workingGeneration
        (StaticObstacleEvidenceIndex.sighted index.config
          (nextCounter index.latestObservationSequence) build key geometry index.workingCells[key]?))
    rw [next]
    refine CoveredCell.ripen ?_ _
    exact .sighted stamped covered.nonneg covered.cell
      (fun cell known never => observed cell reported known never) geometry
  · have unreported : build.reportsOccupied key = false := by simpa using reported
    rw [if_neg reported] at nonneg ⊢
    unfold CellView.digest
    rw [CellView.occupy_unreported unreported]
    by_cases free : build.reportsFree key = true
    · -- The build reports the cell free.
      rw [if_pos free, if_pos free]
      exact .none_cell le_rfl rfl
    · -- The build does not see the cell, so that its stamp is not the newest any more.
      rw [if_neg free, if_neg free]
      refine ⟨covered.nonneg, ?_⟩
      intro cell known
      have before := covered.cell cell known
      have older : cell.lastObservationSequence ≤ index.latestObservationSequence := before.sequence
      show CoveredCell index.config (nextCounter index.latestObservationSequence) _ cell
      rw [next]
      refine ⟨before.count, before.time, by omega, ?_, ?_⟩
      · intro counted latest
        omega
      · intro mature
        exact (before.mature mature).mono le_rfl le_rfl

theorem CoveredView.invalidateIn (covered : CoveredView record view) (cells : CellKeySet)
    (version : Nat) (key : Int) :
    CoveredView (if cells.contains key = true then {} else record)
      (view.invalidateIn cells version key) := by
  unfold CellView.invalidateIn
  by_cases listed : cells.contains key = true
  · rw [if_pos listed, if_pos listed]
    exact .none_cell le_rfl rfl
  · rw [if_neg listed, if_neg listed]
    exact covered

theorem CoveredView.confirmIn (covered : CoveredView record view) (clean : CleanMap) (key : Int) :
    CoveredView record (view.confirmIn clean key) := by
  unfold CellView.confirmIn
  split
  · unfold CellView.confirm
    split
    · exact covered
    · refine ⟨covered.nonneg, ?_⟩
      intro cell known
      obtain rfl := Option.some.inj known
      exact (CoveredCell.confirmed covered.nonneg covered.cell _ clean _).ripen _
  · exact covered

theorem CoveredView.step (covered : CoveredView record (index.view key))
    (installs : call.installs index = none) (counts : call.CountsOnlySightings index) :
    CoveredView (record.afterCall index key call) ((indexStep index call).1.view key) := by
  have nonneg : 0 ≤ (record.afterCall index key call).time :=
    SightingRecord.afterCall_nonneg covered.nonneg call
  have change := indexStep_cell index call key
  generalize (indexStep index call).1.view key = after at change
  generalize (indexStep index call).1.snapshot.cells[key]? = shown at change
  cases change with
  | kept sameEpoch noBuild noInvalidation =>
    rw [record.afterCall_kept sameEpoch noBuild noInvalidation]
    exact covered
  | emptied => exact .none_cell nonneg rfl
  | adopted prepared installed => exact absurd (installs.symm.trans installed) (by simp)
  | digested build hands accepted =>
    obtain ⟨sequence, observed⟩ := counts build hands accepted
    rw [record.afterCall_build hands]
    exact covered.build accepted sequence (observed key)
  | unpublished build hands accepted nothing =>
    obtain ⟨sequence, observed⟩ := counts build hands accepted
    -- A build that shows nothing is still a build, which digests to what it began with.
    have same : (((index.beginBuild build).view key).digest build key)
        = (index.beginBuild build).view key := by
      unfold CellView.digest
      rw [nothing.1, CellView.occupy_unreported nothing.2]
      rfl
    rw [record.afterCall_build hands, ← same]
    exact covered.build accepted sequence (observed key)
  | invalidated cells version stampSec mapGeneration hands versioned own =>
    subst hands
    have recorded := covered.invalidateIn cells version key
    simp only [SightingRecord.afterCall]
    simpa [versioned, own] using recorded
  | confirmed clean hands versioned own =>
    subst hands
    have recorded := (covered.invalidateIn clean.invalidatedCells clean.cleanBuildVersion
      key).confirmIn clean key
    simp only [SightingRecord.afterCall]
    simpa [versioned, own] using recorded
  | republished authority hands =>
    subst hands
    exact covered

variable {calls : List (IndexCall format)} (config : StaticObstacleEvidenceConfig)

theorem run_covered
    (installs : ∀ event ∈ (indexMachine format config).trace calls,
      event.call.installs event.before = none)
    (counts : ∀ event ∈ (indexMachine format config).trace calls,
      event.call.CountsOnlySightings event.before) (key : Int) :
    CoveredView (sightings key ((indexMachine format config).trace calls))
      (((indexMachine format config).run calls).view key) := by
  induction calls with
  | nil => exact .none_cell le_rfl rfl
  | cons call older ih =>
    have earlier := ih (fun event member => installs event (List.mem_cons_of_mem _ member))
      (fun event member => counts event (List.mem_cons_of_mem _ member))
    exact earlier.step (installs ⟨_, call⟩ List.mem_cons_self)
      (counts ⟨_, call⟩ List.mem_cons_self)

theorem run_mirrorsConfirmed
    (installs : ∀ event ∈ (indexMachine format config).trace calls,
      event.call.installs event.before = none) :
    MirrorsConfirmed ((indexMachine format config).run calls) := by
  induction calls with
  | nil => exact fun key => rfl
  | cons call older ih =>
    have earlier := ih fun event member => installs event (List.mem_cons_of_mem _ member)
    have nothing := installs ⟨_, call⟩ List.mem_cons_self
    exact earlier.step fun prepared installed => absurd (nothing.symm.trans installed) (by simp)

/-- Maturity is accounted for in every run whose steps count only sightings. -/
theorem maturity_accounted (config : StaticObstacleEvidenceConfig)
    (calls : List (IndexCall format))
    (installs : ∀ event ∈ (indexMachine format config).trace calls,
      event.call.installs event.before = none)
    (counts : ∀ event ∈ (indexMachine format config).trace calls,
      event.call.CountsOnlySightings event.before)
    (key : Int) (cell : StaticEvidenceCell)
    (shown : ((indexMachine format config).run calls).snapshot.cells[key]? = some cell)
    (mature : cell.temporallyMature = true) :
    (sightings key ((indexMachine format config).trace calls)).MeetsDemands
      ((indexMachine format config).run calls).config := by
  -- What readers see is a working cell, and every working cell is covered.
  have working := run_mirrorsConfirmed config installs key
  rw [shown] at working
  obtain ⟨known, -⟩ := Option.filter_eq_some_iff.mp working.symm
  exact ((run_covered config installs counts key).cell cell known).mature mature

section Samples

private def sampleBuild (stampSec : Scalar) : CleanBuild :=
  { occupiedCells := ({} : CellMap StaticEvidenceCellGeometry).insert 5 { minZ := 0, maxZ := 1 }
    stampSec, mapGeneration := 1, objectsVersion := 1 }

private def sampleClean (stampSec : Scalar) : CleanMap :=
  { cleanCells := ({} : CellMap StaticEvidenceCellGeometry).insert 5 { minZ := 0, maxZ := 1 }
    stampSec, mapGeneration := 1 }

private def sightedCalls : List (IndexCall plainFormat) :=
  [.confirmCleanCells (sampleClean 3), .observeCleanBuildCells (sampleBuild 2.5),
    .observeCleanBuildCells (sampleBuild 2), .reset 1]

private theorem countsOnlySightings_of_observed {build : CleanBuild}
    (sequence : index.latestObservationSequence < 2 ^ 64 - 1)
    (observed : ∀ item ∈ index.workingCells.toList, item.2.totalObservationCount ≠ 0) :
    (IndexCall.observeCleanBuildCells build : IndexCall format).CountsOnlySightings index := by
  intro given hands accepted
  refine ⟨sequence, ?_⟩
  intro key cell reported known never
  have listed : (key, cell) ∈ index.workingCells.toList :=
    Std.ExtTreeMap.mem_toList_iff_getElem?_eq_some.mpr known
  exact absurd never (observed (key, cell) listed)

private def quickMachine : Machine StaticObstacleEvidenceIndex (IndexCall plainFormat) IndexAnswer :=
  indexMachine plainFormat { minimumObservations := 2, minimumStableDurationSec := 0.5 }

theorem maturity_accounted_sighted :
    ∃ cell, (quickMachine.run sightedCalls).snapshot.cells[(5 : Int)]? = some cell ∧
      cell.temporallyMature = true ∧
      (sightings 5 (quickMachine.trace sightedCalls)).MeetsDemands
        (quickMachine.run sightedCalls).config := by
  have shown : ∃ cell, (quickMachine.run sightedCalls).snapshot.cells[(5 : Int)]? = some cell ∧
      cell.temporallyMature = true := by
    have mature : ((quickMachine.run sightedCalls).snapshot.cells[(5 : Int)]?.any
        fun cell => cell.temporallyMature) = true := by
      with_unfolding_all decide
    exact (Option.any_eq_true _ _).mp mature
  obtain ⟨cell, shown, mature⟩ := shown
  refine ⟨cell, shown, mature, maturity_accounted _ sightedCalls ?_ ?_ 5 cell shown mature⟩
  · intro event member
    simp only [sightedCalls, Machine.trace, List.mem_cons, List.not_mem_nil, or_false] at member
    rcases member with rfl | rfl | rfl | rfl <;> rfl
  · intro event member
    simp only [sightedCalls, Machine.trace, List.mem_cons, List.not_mem_nil, or_false] at member
    rcases member with rfl | rfl | rfl | rfl
    · intro build hands
      cases hands
    · exact countsOnlySightings_of_observed (by decide) (by decide)
    · exact countsOnlySightings_of_observed (by decide) (by decide)
    · intro build hands
      cases hands

private def hastyCalls : List (IndexCall plainFormat) :=
  [.observeCleanBuildCells (sampleBuild 11), .observeCleanBuildCells (sampleBuild 10.9),
    .observeCleanBuildCells (sampleBuild 10.8), .observeCleanBuildCells (sampleBuild 10.7),
    .confirmCleanCells (sampleClean 10), .reset 1]

theorem hasty_cell_mature :
    (∀ event ∈ (indexMachine plainFormat {}).trace hastyCalls,
      event.call.installs event.before = none) ∧
    (∃ cell, ((indexMachine plainFormat {}).run hastyCalls).snapshot.cells[(5 : Int)]? = some cell ∧
      cell.temporallyMature = true) ∧
    (sightings 5 ((indexMachine plainFormat {}).trace hastyCalls)).time = 3 / 10 ∧
    ¬(sightings 5 ((indexMachine plainFormat {}).trace hastyCalls)).MeetsDemands
      ((indexMachine plainFormat {}).run hastyCalls).config := by
  have time : (sightings 5 ((indexMachine plainFormat {}).trace hastyCalls)).time = 3 / 10 := by
    with_unfolding_all decide
  refine ⟨?_, ?_, time, ?_⟩
  · intro event member
    simp only [hastyCalls, Machine.trace, List.mem_cons, List.not_mem_nil, or_false] at member
    rcases member with rfl | rfl | rfl | rfl | rfl | rfl <;> rfl
  · have mature : (((indexMachine plainFormat {}).run hastyCalls).snapshot.cells[(5 : Int)]?.any
        fun cell => cell.temporallyMature) = true := by
      with_unfolding_all decide
    exact (Option.any_eq_true _ _).mp mature
  · rintro ⟨-, long⟩
    rw [time] at long
    revert long
    with_unfolding_all decide

end Samples
end NdtSlam
