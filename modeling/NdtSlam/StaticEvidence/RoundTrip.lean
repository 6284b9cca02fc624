import NdtSlam.StaticEvidence.Calls
import NdtSlam.StaticEvidence.LoadableCell

/-! Saving a snapshot and loading it again, for every snapshot that a run can publish. -/

namespace NdtSlam

open StaticObstacleEvidenceIndex

structure LoadableSnapshot (config : StaticObstacleEvidenceConfig)
    (snapshot : StaticEvidenceSnapshot) : Prop where
  schema : snapshot.schemaVersion = schemaVersion
  resolution : differsInResolution config snapshot.cellSizeM = false
  revision : snapshot.mapGeneration ≠ 0 → snapshot.revision ≠ 0
  stamp : invalidSourceStamp snapshot.sourceStampSec = false
  cells : ∀ key cell, snapshot.cells[key]? = some cell →
    SoundCell config snapshot.mapGeneration key cell ∧ cell.cleanMapConfirmed = true

variable {format : CsvFormat} {self : StaticObstacleEvidenceIndex}

/-! ### Loading what was saved -/

variable {generation : Nat}

theorem loadCell_cellLine {key : Int} {cell : StaticEvidenceCell}
    (sound : SoundCell self.config generation key cell) (confirmed : cell.cleanMapConfirmed = true) :
    loadCell format self generation (cellLine format cell) = .ok cell := by
  obtain ⟨narrow, accepted⟩ := loadableCell_iff.1 sound.loadable
  -- The flags and the generation are not written, but known from the context.
  have rebuilt : { cell with
      cleanMapConfirmed := true
      temporallyMature := (if cell.temporallyMature then 1 else 0) == 1
      mapGeneration := generation } = cell := by
    have sameGeneration := sound.generation
    cases cell with
    | mk key count total first last duration low high confirmed' mature =>
      cases mature <;> simp_all
  have flag : ¬1 < if cell.temporallyMature then 1 else 0 := by
    split <;> omega
  unfold loadCell cellLine
  simp only [bind_eq_ok, format.stoll_writeInt, format.stoul_writeNat,
    format.stoull_writeNat, format.stod_writeReal, format.stof_writeReal, parsed_some,
    Except.ok.injEq, refuseIf_eq_ok, exists_eq_left', decide_eq_false_iff_not]
  refine ⟨(), ?_, (), flag, (), ?_, congrArg Except.ok rebuilt⟩
  · omega
  · rw [rebuilt]
    exact accepted

def newestSequence (entries : List (Int × StaticEvidenceCell)) (latest : Nat) : Nat :=
  entries.foldl (fun newest entry => max newest entry.2.lastObservationSequence) latest

theorem loadCells_saved {entries : List (Int × StaticEvidenceCell)}
    (sound : ∀ entry ∈ entries, SoundCell self.config generation entry.1 entry.2 ∧
      entry.2.cleanMapConfirmed = true)
    (distinct : entries.Pairwise fun first second => first.1 ≠ second.1)
    {loaded : CellMap StaticEvidenceCell}
    (fresh : ∀ entry ∈ entries, loaded.contains entry.1 = false) (latest : Nat) :
    loadCells format self generation (entries.map fun entry => cellLine format entry.2)
        (loaded, latest)
      = .ok (entries.foldl (fun cells entry => cells.insert entry.1 entry.2) loaded,
          newestSequence entries latest) := by
  induction entries generalizing loaded latest with
  | nil => rfl
  | cons head rest ih =>
    obtain ⟨headSound, headConfirmed⟩ := sound head List.mem_cons_self
    obtain ⟨headDistinct, restDistinct⟩ := List.pairwise_cons.mp distinct
    have read : loadCell format self generation (cellLine format head.2) = .ok head.2 :=
      loadCell_cellLine headSound headConfirmed
    -- The key of the first cell is new, and stays different from those of the others.
    have new : loaded.contains head.2.key = false := by
      rw [headSound.key]
      exact fresh head List.mem_cons_self
    have stillFresh : ∀ entry ∈ rest, (loaded.insert head.1 head.2).contains entry.1 = false := by
      intro entry member
      have apart := headDistinct entry member
      have before := fresh entry (List.mem_cons_of_mem _ member)
      rw [Std.ExtTreeMap.contains_insert]
      simp [apart, before]
    have others := ih (fun entry member => sound entry (List.mem_cons_of_mem _ member))
      restDistinct stillFresh (max latest head.2.lastObservationSequence)
    rw [List.map_cons, loadCells, if_neg (by simp [cellLine])]
    refine bind_eq_ok.2 ⟨head.2, read, bind_eq_ok.2 ⟨(), refuseIf_eq_ok.2 new, ?_⟩⟩
    rw [headSound.key]
    exact others

theorem foldl_insert_toList {Value : Type} (cells : CellMap Value) :
    cells.toList.foldl (fun rebuilt entry => rebuilt.insert entry.1 entry.2) ({} : CellMap Value)
      = cells := by
  refine Std.ExtTreeMap.ext_getElem? ?_
  intro key
  -- Each key is looked up after its own entry was inserted, if there is one.
  have looked := foldl_map_view
    (fun (rebuilt : CellMap Value) (entry : Int × Value) => rebuilt.insert entry.1 entry.2)
    (fun rebuilt => rebuilt[key]?) (fun value _ => some value)
    (fun rebuilt entry other => getElem?_insert_ne rebuilt other entry.2)
    (fun rebuilt value => Std.ExtTreeMap.getElem?_insert_self) cells {}
  rw [looked]
  cases cells[key]? <;> simp

theorem loadAuthority_code (authority : StaticEvidenceAuthority) :
    loadAuthority format [format.writeNat authority.code] = .ok authority := by
  unfold loadAuthority
  simp only [format.stoul_writeNat, parsed_some]
  cases authority <;> rfl

variable {snapshot : StaticEvidenceSnapshot}

theorem loadSnapshotCandidate_saved (loadable : LoadableSnapshot self.config snapshot)
    (generation : snapshot.mapGeneration ≠ 0) :
    loadSnapshotCandidate format self (some (saveSnapshot format snapshot)) snapshot.mapGeneration
        snapshot.revision
      = .ok { snapshot with
          latestObservationSequence :=
            newestSequence snapshot.cells.toList snapshot.latestObservationSequence } := by
  have revision := loadable.revision generation
  have schema : snapshot.schemaVersion % 2 ^ 32 = schemaVersion := by
    rw [loadable.schema]
    rfl
  have cells := @loadCells_saved format self snapshot.mapGeneration snapshot.cells.toList
    (by
      intro entry member
      exact loadable.cells _ _ (Std.ExtTreeMap.mem_toList_iff_getElem?_eq_some.mp member))
    (by
      refine snapshot.cells.distinct_keys_toList.imp ?_
      intro first second apart same
      exact apart (same ▸ Std.ReflCmp.compare_self))
    {} (by simp) snapshot.latestObservationSequence
  rw [foldl_insert_toList] at cells
  unfold loadSnapshotCandidate saveSnapshot headerLine
  simp only [bind_eq_ok, format.isMagic_magic,
    format.stoul_writeNat, format.stoull_writeNat, format.stod_writeReal, format.stof_writeReal,
    parsed_some, Except.ok.injEq, refuseIf_eq_ok, exists_eq_left', loadAuthority_code, schema]
  refine ⟨(), rfl, (), ?_, (), loadable.stamp, _, cells, ?_⟩
  · simp [loadable.resolution, generation, revision]
  · rw [← loadable.schema]
    rfl

/-! ### What the loader accepts -/

theorem loadCell_sound {line : format.Line} {cell : StaticEvidenceCell}
    (read : loadCell format self generation line = .ok cell) :
    SoundCell self.config generation cell.key cell ∧ cell.cleanMapConfirmed = true := by
  unfold loadCell at read
  split at read
  · simp only [bind_eq_ok, refuseIf_eq_ok, decide_eq_false_iff_not] at read
    -- Only the two tests that concern the stored counters and the whole cell matter here.
    obtain ⟨key, -, count, -, -, narrow, total, -, first, -, last, -, duration, -, low, -, high, -,
      firstSequence, -, lastSequence, -, observed, -, confirmed, -, invalidated, -, mature, -, -,
      -, -, accepted, result⟩ := read
    obtain rfl := Except.ok.inj result
    refine ⟨⟨rfl, rfl, loadableCell_iff.2 ⟨?_, accepted⟩⟩, rfl⟩
    exact Nat.not_lt.mp narrow
  · cases read

theorem loadCells_sound {lines : List format.Line}
    {loaded result : CellMap StaticEvidenceCell} {latest newest : Nat}
    (read : loadCells format self generation lines (loaded, latest) = .ok (result, newest))
    (sound : ∀ key cell, loaded[key]? = some cell →
      SoundCell self.config generation key cell ∧ cell.cleanMapConfirmed = true) :
    ∀ key cell, result[key]? = some cell →
      SoundCell self.config generation key cell ∧ cell.cleanMapConfirmed = true := by
  induction lines generalizing loaded latest with
  | nil =>
    obtain ⟨rfl, -⟩ := Prod.mk.inj (Except.ok.inj read)
    exact sound
  | cons line rest ih =>
    rw [loadCells] at read
    split at read
    · exact ih read sound
    · obtain ⟨cell, readLine, read⟩ := bind_eq_ok.1 read
      obtain ⟨-, -, read⟩ := bind_eq_ok.1 read
      refine ih read ?_
      intro key other present
      -- The new cell is the one that was just read, and all others were there before.
      rw [Std.ExtTreeMap.getElem?_insert] at present
      split at present
      · rename_i same
        obtain rfl := Option.some.inj present
        obtain rfl := Std.LawfulEqCmp.eq_of_compare same
        exact loadCell_sound readLine
      · exact sound key other present

variable {candidate : StaticEvidenceSnapshot} {file : Option (List format.Line)}

theorem loadSnapshotCandidate_loadable {source expected : Nat}
    (read : loadSnapshotCandidate format self file source expected = .ok candidate) :
    LoadableSnapshot self.config candidate := by
  unfold loadSnapshotCandidate at read
  split at read
  · cases read
  · cases read
  · simp only [bind_eq_ok, refuseIf_eq_ok] at read
    obtain ⟨-, -, schema, -, cellSize, -, generation, -, revision, -, authority, -, -, header,
      latest, -, stamp, -, -, sane, ⟨cells, newest⟩, readCells, result⟩ := read
    obtain rfl := Except.ok.inj result
    simp only [Bool.or_eq_false_iff, bne_eq_false_iff_eq, beq_eq_false_iff_ne] at header
    exact
      { schema := header.1.1.1.1.1, resolution := header.1.1.1.1.2
        revision := fun _ => header.1.1.2, stamp := sane
        cells := loadCells_sound readCells (by simp) }
  · cases read

theorem LoadableSnapshot.adopt {config : StaticObstacleEvidenceConfig}
    (loadable : LoadableSnapshot config snapshot) (revision : snapshot.revision ≠ 0)
    (generation : Nat) :
    LoadableSnapshot config (snapshot.adopt generation) where
  schema := loadable.schema
  resolution := loadable.resolution
  revision := fun _ => revision
  stamp := loadable.stamp
  cells := by
    intro key cell present
    have adopted : (snapshot.adoptedCells generation)[key]? = some cell := present
    rw [StaticEvidenceSnapshot.adoptedCells, Std.ExtTreeMap.getElem?_map] at adopted
    obtain ⟨original, found, rfl⟩ := Option.map_eq_some_iff.mp adopted
    obtain ⟨sound, confirmed⟩ := loadable.cells key original found
    exact ⟨⟨sound.key, rfl, { sound.loadable with }⟩, confirmed⟩

/-! ### What a run can publish -/

/-- The index can save what it shows, and goes on doing so. -/
structure SavableIndex (index : StaticObstacleEvidenceIndex) : Prop where
  generation : index.snapshot.mapGeneration = index.workingGeneration
  stamp : invalidSourceStamp index.lastObservationStampSec = false
  working : index.workingGeneration ≠ 0 → ∀ key, (index.view key).Sound key
  snapshot : index.workingGeneration ≠ 0 → LoadableSnapshot index.config index.snapshot

/-- The call hands over nothing that the loader would not take over again. -/
structure IndexCall.KeepsLoadable (index : StaticObstacleEvidenceIndex) (call : IndexCall format) :
    Prop where
  build : index.workingGeneration ≠ 0 → ∀ build, call.build? = some build →
    index.acceptsBuild build = true → ∀ key cell, build.reportsOccupied key = true →
    index.workingCells[key]? = some cell →
    cell.firstObservationSequence ≤ nextCounter index.latestObservationSequence
  invalidation : index.workingGeneration ≠ 0 → ∀ cells version stampSec mapGeneration,
    call = .invalidateCells cells version stampSec mapGeneration → version ≠ 0 →
    index.workingGeneration = mapGeneration → cells.isEmpty = false →
    invalidSourceStamp stampSec = false
  confirmation : index.workingGeneration ≠ 0 → ∀ clean, call = .confirmCleanCells clean →
    clean.cleanBuildVersion ≠ 0 → index.workingGeneration = clean.mapGeneration →
    invalidSourceStamp clean.stampSec = false
  observed : index.workingGeneration ≠ 0 → ∀ clean, call = .confirmCleanCells clean →
    clean.cleanBuildVersion ≠ 0 → index.workingGeneration = clean.mapGeneration →
    ∀ key geometry, clean.cleanCells[key]? = some geometry →
    blocksConfirmation (index.observedFreeTombstones.contains key)
      index.invalidatedVersions[key]? clean key = false →
    index.workingCells[key]?.isSome = true ∧ geometry.minZ ≠ .negInf ∧ geometry.maxZ ≠ .posInf
  installation : (∀ file current source revision,
      call ≠ .loadSnapshot file current source revision) →
    ∀ prepared, call.installs index = some prepared → prepared.mapGeneration ≠ 0 →
    LoadableSnapshot index.config prepared.snapshot

variable {index : StaticObstacleEvidenceIndex} {call : IndexCall format}

theorem nextCounter_ne_zero (counter : Nat) : nextCounter counter ≠ 0 := by
  unfold nextCounter
  split
  · omega
  · assumption

variable (config : StaticObstacleEvidenceConfig)

theorem differsInResolution_self :
    differsInResolution config config.cellSizeM = false := by
  unfold differsInResolution
  rw [decide_eq_false_iff_not]
  cases config.cellSizeM with
  | fin size =>
    rw [Scalar.fin_sub_fin, sub_self]
    with_unfolding_all decide
  | posInf => decide
  | negInf => decide
  | nan => decide

variable {stampSec : Scalar}

theorem publish_savable (lastStamp : invalidSourceStamp index.lastObservationStampSec = false)
    (stamp : index.workingGeneration ≠ 0 → invalidSourceStamp stampSec = false)
    (sound : index.workingGeneration ≠ 0 → ∀ key, (index.view key).Sound key) :
    SavableIndex (index.publishSnapshot stampSec) where
  generation := rfl
  stamp := lastStamp
  working := sound
  snapshot := by
    intro nonzero
    refine ⟨rfl, differsInResolution_self _, fun _ => nextCounter_ne_zero _, stamp nonzero, ?_⟩
    intro key cell shown
    rw [publishSnapshot_cell] at shown
    obtain ⟨working, confirmed⟩ := Option.filter_eq_some_iff.mp shown
    exact ⟨sound nonzero key cell working, confirmed⟩

variable {after : StaticObstacleEvidenceIndex}

theorem SavableIndex.ofSame (savable : SavableIndex index) (same : SameEvidence index after)
    (stamp : invalidSourceStamp after.lastObservationStampSec = false) : SavableIndex after where
  generation := by rw [same.snapshot, same.workingGeneration, savable.generation]
  stamp := stamp
  working := by
    intro nonzero key
    rw [same.view]
    exact savable.working (same.workingGeneration ▸ nonzero) key
  snapshot := by
    intro nonzero
    rw [same.config, same.snapshot]
    exact savable.snapshot (same.workingGeneration ▸ nonzero)

theorem invalidSourceStamp_of_usable (usable : unusableStamp stampSec = false) :
    invalidSourceStamp stampSec = false := by
  unfold unusableStamp at usable
  unfold invalidSourceStamp
  simp only [Bool.or_eq_false_iff, Bool.not_eq_false', decide_eq_false_iff_not] at usable ⊢
  refine ⟨usable.1, ?_⟩
  intro negative
  exact usable.2 (Scalar.le_of_lt negative)

variable {build : CleanBuild}

theorem observe_rejected_stamp (rejected : index.acceptsBuild build = false)
    (stamp : invalidSourceStamp index.lastObservationStampSec = false) :
    invalidSourceStamp (index.observeCleanBuildCells build).1.lastObservationStampSec = false := by
  unfold observeCleanBuildCells
  split_ifs with unusable foreign stale rollback
  · exact stamp
  · exact stamp
  · exact invalidSourceStamp_of_usable (by simpa using unusable)
  · exact stamp
  · simp_all [acceptsBuild]

/-! ### One call -/

theorem CellView.digest_context (build : CleanBuild) (key : Int) (view : CellView) :
    (view.digest build key).generation = view.generation := by
  unfold digest occupy free sight
  repeat' split
  all_goals rfl

theorem digestBuild_stamp (build : CleanBuild) :
    (index.digestBuild build).index.lastObservationStampSec = build.stampSec := by
  unfold digestBuild
  refine (foldl_view_const (observeOccupiedCell build)
    (fun progress => progress.index.lastObservationStampSec) ?_ _ _).trans
    (foldl_view_const (observeFreeCell build)
      (fun progress => progress.index.lastObservationStampSec) ?_ _ _)
  · intro progress item
    unfold observeOccupiedCell
    split_ifs <;> rfl
  · intro progress key
    unfold observeFreeCell
    split_ifs <;> rfl

theorem digestBuild_generation (build : CleanBuild) :
    (index.digestBuild build).index.workingGeneration = index.workingGeneration := by
  have atZero := congrArg CellView.generation (digestBuild_view index build 0)
  rw [CellView.digest_context] at atZero
  exact atZero

theorem invalidateAll_stamp (cells : CellKeySet) (version : Nat) :
    (index.invalidateAll cells version).lastObservationStampSec = index.lastObservationStampSec :=
  foldl_view_const (invalidateCell version) lastObservationStampSec (fun _ _ => rfl) _ _

theorem invalidateAll_generation (cells : CellKeySet) (version : Nat) :
    (index.invalidateAll cells version).workingGeneration = index.workingGeneration :=
  foldl_view_const (invalidateCell version) workingGeneration (fun _ _ => rfl) _ _

theorem confirmCells_context (clean : CleanMap) (start : StaticObstacleEvidenceIndex × Nat) :
    (clean.cleanCells.toList.foldl (confirmCell clean) start).1.lastObservationStampSec
        = start.1.lastObservationStampSec ∧
      (clean.cleanCells.toList.foldl (confirmCell clean) start).1.workingGeneration
        = start.1.workingGeneration := by
  constructor
  · refine foldl_view_const (confirmCell clean) (·.1.lastObservationStampSec) ?_ _ _
    intro progress item
    unfold confirmCell
    simp only
    split_ifs <;> rfl
  · refine foldl_view_const (confirmCell clean) (·.1.workingGeneration) ?_ _ _
    intro progress item
    unfold confirmCell
    simp only
    split_ifs <;> rfl

theorem acceptsBuild_facts (accepted : index.acceptsBuild build = true) :
    unusableStamp build.stampSec = false ∧ index.workingGeneration = build.mapGeneration := by
  simp only [acceptsBuild, Bool.and_eq_true, Bool.not_eq_true', beq_iff_eq] at accepted
  exact accepted.1

theorem SavableIndex.observe (savable : SavableIndex index) (keeps : call.KeepsLoadable index)
    (hands : call.build? = some build) :
    SavableIndex (index.observeCleanBuildCells build).1 := by
  by_cases accepted : index.acceptsBuild build = true
  · obtain ⟨usable, own⟩ := acceptsBuild_facts accepted
    have stamp := invalidSourceStamp_of_usable usable
    have finite : build.stampSec.isFinite = true := by
      unfold unusableStamp at usable
      simp only [Bool.or_eq_false_iff, Bool.not_eq_false'] at usable
      exact usable.1
    rcases observe_accepted index build accepted with result | ⟨-, -, result⟩
    · rw [result]
      refine publish_savable ?_ (fun _ => stamp) ?_
      · rw [digestBuild_stamp]
        exact stamp
      · intro nonzero key
        rw [digestBuild_generation] at nonzero
        rw [digestBuild_view]
        have sound : ((index.beginBuild build).view key).Sound key := savable.working nonzero key
        refine sound.digest finite own.symm ?_
        intro occupied cell known
        exact keeps.build nonzero build hands accepted key cell occupied known
    · -- A build that shows nothing only moves the stamp and the sequence.
      rw [result]
      exact
        { generation := savable.generation, stamp, working := savable.working
          snapshot := savable.snapshot }
  · have rejected : index.acceptsBuild build = false := by simpa using accepted
    exact savable.ofSame (observe_rejected index build rejected)
      (observe_rejected_stamp rejected savable.stamp)

theorem invalidate_rejected_stamp {cells : CellKeySet} {version mapGeneration : Nat}
    (rejected : ¬(version ≠ 0 ∧ index.workingGeneration = mapGeneration)) :
    (index.invalidateCells cells version stampSec mapGeneration).1.lastObservationStampSec
      = index.lastObservationStampSec := by
  unfold invalidateCells
  split_ifs with unversioned foreign
  · rfl
  · rfl
  all_goals
    exfalso
    apply rejected
    simpa using And.intro unversioned foreign

theorem confirm_rejected_stamp {clean : CleanMap}
    (rejected : ¬(clean.cleanBuildVersion ≠ 0 ∧ index.workingGeneration = clean.mapGeneration)) :
    (index.confirmCleanCells clean).1.lastObservationStampSec = index.lastObservationStampSec := by
  unfold confirmCleanCells
  split_ifs with unversioned foreign
  · rfl
  · rfl
  · exfalso
    apply rejected
    simpa using And.intro unversioned foreign

theorem SavableIndex.invalidate (savable : SavableIndex index) {cells : CellKeySet}
    {version mapGeneration : Nat}
    (keeps : (IndexCall.invalidateCells cells version stampSec mapGeneration :
      IndexCall format).KeepsLoadable index) :
    SavableIndex (index.invalidateCells cells version stampSec mapGeneration).1 := by
  by_cases accepted : version ≠ 0 ∧ index.workingGeneration = mapGeneration
  · obtain ⟨versioned, own⟩ := accepted
    rw [invalidate_accepted index versioned own]
    split
    · -- Without any cell, nothing happens at all.
      rename_i empty
      rw [Std.ExtTreeSet.isEmpty_iff.mp empty]
      exact savable
    · rename_i some
      refine publish_savable ?_ ?_ ?_
      · rw [invalidateAll_stamp]
        exact savable.stamp
      · intro nonzero
        rw [invalidateAll_generation] at nonzero
        exact keeps.invalidation nonzero cells version stampSec mapGeneration rfl versioned own
          (by simpa using some)
      · intro nonzero key
        rw [invalidateAll_generation] at nonzero
        rw [invalidateAll_view]
        exact (savable.working nonzero key).invalidateIn cells version
  · exact savable.ofSame (invalidate_rejected index accepted)
      ((invalidate_rejected_stamp accepted).symm ▸ savable.stamp)

theorem SavableIndex.confirm (savable : SavableIndex index) {clean : CleanMap}
    (keeps : (IndexCall.confirmCleanCells clean : IndexCall format).KeepsLoadable index) :
    SavableIndex (index.confirmCleanCells clean).1 := by
  by_cases accepted : clean.cleanBuildVersion ≠ 0 ∧ index.workingGeneration = clean.mapGeneration
  · obtain ⟨versioned, own⟩ := accepted
    rw [confirm_accepted index versioned own]
    obtain ⟨sameStamp, sameGeneration⟩ := confirmCells_context clean
      (index.invalidateAll clean.invalidatedCells clean.cleanBuildVersion, 0)
    refine publish_savable ?_ ?_ ?_
    · rw [sameStamp, invalidateAll_stamp]
      exact savable.stamp
    · intro nonzero
      rw [sameGeneration, invalidateAll_generation] at nonzero
      exact keeps.confirmation nonzero clean rfl versioned own
    · intro nonzero key
      rw [sameGeneration, invalidateAll_generation] at nonzero
      rw [confirmCells_view, invalidateAll_view]
      have sound := (savable.working nonzero key).invalidateIn clean.invalidatedCells
        clean.cleanBuildVersion
      refine sound.confirmIn ?_
      intro geometry given admitted
      -- A cell that the clean map invalidates itself is not admitted.
      have kept : ¬clean.invalidatedCells.contains key = true := by
        intro erased
        simp [blocksConfirmation, erased] at admitted
      rw [CellView.invalidateIn, if_neg kept] at admitted ⊢
      exact keeps.observed nonzero clean rfl versioned own key geometry given admitted
  · exact savable.ofSame (confirm_rejected index accepted)
      ((confirm_rejected_stamp accepted).symm ▸ savable.stamp)

variable {prepared : PreparedStaticEvidenceInstall}

theorem prepareSnapshotInstall_ok {current : Nat}
    (prepares : index.prepareSnapshotInstall candidate current = .ok prepared) :
    prepared.snapshot = candidate.adopt current ∧ candidate.revision ≠ 0 := by
  unfold prepareSnapshotInstall at prepares
  split at prepares
  · cases prepares
  · rename_i valid
    obtain rfl := Except.ok.inj prepares
    simp only [not_or] at valid
    exact ⟨rfl, valid.2.2.1⟩

theorem installs_loadable {current source revision : Nat}
    (installed : (IndexCall.loadSnapshot file current source revision).installs index
      = some prepared) :
    LoadableSnapshot index.config prepared.snapshot := by
  simp only [IndexCall.installs] at installed
  split at installed
  · rename_i candidate read
    cases prepares : index.prepareSnapshotInstall candidate current with
    | error reason =>
      rw [prepares] at installed
      cases installed
    | ok other =>
      rw [prepares] at installed
      obtain rfl := Option.some.inj installed
      obtain ⟨shown, revision⟩ := prepareSnapshotInstall_ok prepares
      rw [shown]
      exact (loadSnapshotCandidate_loadable read).adopt revision current
  · cases installed

theorem install_savable
    (loadable : prepared.mapGeneration ≠ 0 → LoadableSnapshot index.config prepared.snapshot) :
    SavableIndex (index.installPreparedSnapshot prepared 0) where
  generation := prepared.generation_agrees
  stamp := by
    show invalidSourceStamp 0 = false
    decide
  working := by
    intro nonzero key cell present
    have shown : prepared.snapshot.cells[key]? = some cell := prepared.cells_agree ▸ present
    have sound := ((loadable nonzero).cells key cell shown).1
    rw [prepared.generation_agrees] at sound
    exact sound
  snapshot := loadable

theorem SavableIndex.install (savable : SavableIndex index)
    (loadable : ∀ prepared, call.installs index = some prepared → prepared.mapGeneration ≠ 0 →
      LoadableSnapshot index.config prepared.snapshot)
    (result : after = match call.installs index with
      | some prepared => index.installPreparedSnapshot prepared 0
      | none => index) : SavableIndex after := by
  cases installed : call.installs index with
  | some prepared =>
    rw [installed] at result
    rw [result]
    exact install_savable (loadable prepared installed)
  | none =>
    rw [installed] at result
    rw [result]
    exact savable

theorem setConfig_savable :
    SavableIndex (setConfig config) where
  generation := rfl
  stamp := by
    show invalidSourceStamp 0 = false
    decide
  working := fun nonzero => absurd rfl nonzero
  snapshot := fun nonzero => absurd rfl nonzero

theorem SavableIndex.step (savable : SavableIndex index) (keeps : call.KeepsLoadable index) :
    SavableIndex (indexStep index call).1 := by
  cases call with
  | setConfig config => exact setConfig_savable config
  | reset mapGeneration =>
    refine publish_savable ?_ ?_ ?_
    · show invalidSourceStamp 0 = false
      decide
    · intro nonzero
      decide
    · intro nonzero key cell present
      exact absurd present (by simp [view])
  | observeFilteredCells => exact savable.observe keeps rfl
  | observeCleanBuildCells => exact savable.observe keeps rfl
  | invalidateCells => exact savable.invalidate keeps
  | confirmCleanCells => exact savable.confirm keeps
  | setSnapshotAuthority authority =>
    exact publish_savable savable.stamp (fun _ => savable.stamp) savable.working
  | loadSnapshot file current source revision =>
    refine savable.install ?_ (loadSnapshot_eq index file current source revision)
    intro prepared installed nonzero
    exact installs_loadable installed
  | restoreSnapshotWithoutRevisionIncrement candidate current =>
    exact savable.install (keeps.installation (by simp)) (restore_eq index candidate current)
  | installPreparedSnapshot prepared current =>
    exact savable.install (keeps.installation (by simp)) rfl

/-! ### Whole runs -/

theorem run_savable {calls : List (IndexCall format)}
    (keeps : ∀ event ∈ (indexMachine format config).trace calls,
      event.call.KeepsLoadable event.before) :
    SavableIndex ((indexMachine format config).run calls) := by
  induction calls with
  | nil => exact setConfig_savable config
  | cons call older ih =>
    have earlier : SavableIndex ((indexMachine format config).run older) :=
      ih fun event member => keeps event (List.mem_cons_of_mem _ member)
    exact earlier.step (keeps ⟨_, call⟩ List.mem_cons_self)

/-- The published snapshot survives being saved and loaded under its own identity. -/
def RoundTrips (format : CsvFormat) (index : StaticObstacleEvidenceIndex) : Prop :=
  index.snapshot.mapGeneration ≠ 0 →
    (∀ (key : Int) (cell : StaticEvidenceCell), index.snapshot.cells[key]? = some cell →
      rejectsCell index.config cell = false) ∧
    ∃ loaded, loadSnapshotCandidate format index (some (saveSnapshot format index.snapshot))
        index.snapshot.mapGeneration index.snapshot.revision = .ok loaded ∧
      loaded.cells = index.snapshot.cells

/-- After every run that hands over nothing unloadable, the published snapshot round-trips. -/
theorem run_roundTrips (config : StaticObstacleEvidenceConfig) (calls : List (IndexCall format))
    (keeps : ∀ event ∈ (indexMachine format config).trace calls,
      event.call.KeepsLoadable event.before) :
    RoundTrips format ((indexMachine format config).run calls) := by
  intro nonzero
  have savable := run_savable config keeps
  have loadable := savable.snapshot (savable.generation ▸ nonzero)
  refine ⟨?_, _, loadSnapshotCandidate_saved loadable nonzero, rfl⟩
  intro key cell shown
  exact (loadableCell_iff.1 (loadable.cells key cell shown).1.loadable).2

private def oneCell : CellMap StaticEvidenceCellGeometry :=
  ({} : CellMap StaticEvidenceCellGeometry).insert 5 { minZ := 0, maxZ := 1 }

private def observedCalls : List (IndexCall plainFormat) :=
  [.confirmCleanCells { cleanCells := oneCell, stampSec := 2, mapGeneration := 1 },
    .observeFilteredCells oneCell 1 1 1, .reset 1]

theorem run_roundTrips_observed :
    RoundTrips plainFormat ((indexMachine plainFormat {}).run observedCalls) := by
  refine run_roundTrips {} observedCalls ?_
  have working : ((indexMachine plainFormat {}).run
      (observedCalls.drop 1)).workingCells[(5 : Int)]?.isSome = true := by
    decide
  intro event member
  rcases List.mem_cons.mp member with rfl | member
  · refine ⟨by simp [IndexCall.build?], by simp, ?_, ?_, by simp [IndexCall.installs]⟩
    · intro _ clean given _ _
      obtain rfl := IndexCall.confirmCleanCells.inj given
      decide
    · intro _ clean given _ _ key geometry present _
      obtain rfl := IndexCall.confirmCleanCells.inj given
      -- The clean map holds the observed cell only.
      rw [oneCell, Std.ExtTreeMap.getElem?_insert] at present
      split at present
      · rename_i same
        obtain rfl := Std.LawfulEqCmp.eq_of_compare same
        obtain rfl := Option.some.inj present
        exact ⟨working, by decide, by decide⟩
      · simp at present
  · rcases List.mem_cons.mp member with rfl | member
    · refine ⟨?_, by simp, by simp, by simp, by simp [IndexCall.installs]⟩
      intro _ build given _ key cell _ known
      exact absurd known (by simp [Machine.run, indexMachine, indexStep, reset, publishSnapshot])
    · obtain rfl := List.mem_singleton.mp member
      exact ⟨by simp [IndexCall.build?], by simp, by simp, by simp, by simp [IndexCall.installs]⟩

private def unobservedCalls : List (IndexCall plainFormat) :=
  [.confirmCleanCells { cleanCells := oneCell, stampSec := 2, mapGeneration := 1 }, .reset 1]

theorem unobserved_cell_rejected :
    ¬RoundTrips plainFormat ((indexMachine plainFormat {}).run unobservedCalls) := by
  intro roundTrips
  have nonzero : ((indexMachine plainFormat {}).run unobservedCalls).snapshot.mapGeneration ≠ 0 := by
    decide
  obtain ⟨-, loaded, success, -⟩ := roundTrips nonzero
  have fails : (loadSnapshotCandidate plainFormat ((indexMachine plainFormat {}).run unobservedCalls)
      (some (saveSnapshot plainFormat ((indexMachine plainFormat {}).run unobservedCalls).snapshot))
      ((indexMachine plainFormat {}).run unobservedCalls).snapshot.mapGeneration
      ((indexMachine plainFormat {}).run unobservedCalls).snapshot.revision).toOption.isNone = true := by
    with_unfolding_all decide
  rw [success] at fails
  cases fails

end NdtSlam
